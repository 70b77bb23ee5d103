import RecordGraph.Url.Punycode

namespace RecordGraph.Url.Punycode

/-! A text that has been written in ASCII is read back. The reader makes one insertion after another,
at the place and of the code point that the writer has counted up to. -/

/-! ## Numbers -/

theorem threshold_le (place bias : Nat) : threshold place bias ≤ 26 := by
  unfold threshold
  split
  · decide
  · split <;> omega

theorem digit_ne_hyphen {value : Nat} (small : value < 36) : digit value ≠ '-' := by
  have all : ∀ number : Fin 36, digit number.val ≠ '-' := by decide
  exact all ⟨value, small⟩

theorem not_mem_number (bias place value : Nat) : '-' ∉ number bias place value := by
  induction value using Nat.strongRecOn generalizing place with
  | ind value induction =>
      have positive := threshold_pos place bias
      have small := threshold_le place bias
      rw [number]
      split
      · rename_i last
        simp only [List.mem_singleton]
        exact (digit_ne_hyphen (by omega)).symm
      · have digit_ := Nat.mod_lt (value - threshold place bias)
          (show 0 < 36 - threshold place bias by omega)
        have less := Nat.div_le_self (value - threshold place bias) (36 - threshold place bias)
        rw [List.mem_cons, not_or]
        exact ⟨(digit_ne_hyphen (by omega)).symm, induction _ (by omega) _⟩

theorem Reading.step?_last {reading : Reading} {value : Nat}
    (last : value < threshold reading.place reading.bias)
    (room : reading.total + value * reading.weight < limit) :
    reading.step? (digit value) =
      Reading.insert? { reading with total := reading.total + value * reading.weight } := by
  have small := threshold_le reading.place reading.bias
  rw [step?, digitValue?_digit (by omega)]
  simp only [bind, Option.bind]
  rw [if_neg (Nat.not_le.2 room), if_pos last]

theorem Reading.step?_more {reading : Reading} {value : Nat} (small : value < 36)
    (more : threshold reading.place reading.bias ≤ value)
    (room : reading.total + value * reading.weight < limit)
    (wide : reading.weight * (36 - threshold reading.place reading.bias) < limit) :
    ∃ next : Reading, reading.step? (digit value) = some next ∧
      next.place = reading.place + 36 ∧ next.bias = reading.bias ∧
      next.weight = reading.weight * (36 - threshold reading.place reading.bias) ∧
      next.total = reading.total + value * reading.weight ∧
      ∀ total, Reading.insert? { next with total } = Reading.insert? { reading with total } := by
  refine ⟨{ reading with
    total := reading.total + value * reading.weight
    weight := reading.weight * (36 - threshold reading.place reading.bias)
    place := reading.place + 36 }, ?_, rfl, rfl, rfl, rfl, fun _ => rfl⟩
  rw [step?, digitValue?_digit small]
  simp only [bind, Option.bind]
  rw [if_neg (Nat.not_le.2 room), if_neg (Nat.not_lt.2 more), if_neg (Nat.not_le.2 wide)]

/-- A number is its first digit and as many times the weight of the next place as its other digits
say. -/
theorem number_parts {least value : Nat} (more : least ≤ value) (weight : Nat) :
    value * weight = (least + (value - least) % (36 - least)) * weight +
      (value - least) / (36 - least) * (weight * (36 - least)) := by
  have parts := Nat.mod_add_div' (value - least) (36 - least)
  have sum : value = least + (value - least) % (36 - least) +
      (value - least) / (36 - least) * (36 - least) := by
    omega
  rw [Nat.mul_comm weight, ← Nat.mul_assoc, ← Nat.add_mul, ← sum]

/-- A number is read to its end if it does not come close to the limit, and an insertion follows. -/
theorem foldlM_number {reading : Reading} {value : Nat}
    (room : reading.total + 35 * (value * reading.weight) < limit) :
    (number reading.bias reading.place value).foldlM Reading.step? reading =
      Reading.insert? { reading with total := reading.total + value * reading.weight } := by
  induction value using Nat.strongRecOn generalizing reading with
  | ind value induction =>
      have positive := threshold_pos reading.place reading.bias
      have small := threshold_le reading.place reading.bias
      rw [number]
      split
      · rename_i last
        rw [List.foldlM_cons, Reading.step?_last last (by omega)]
        exact bind_pure _
      · rename_i more
        have least := Nat.not_lt.1 more
        have whole := number_parts least reading.weight
        have digit_ := Nat.mod_lt (value - threshold reading.place reading.bias)
          (show 0 < 36 - threshold reading.place reading.bias by omega)
        have less := Nat.div_le_self (value - threshold reading.place reading.bias)
          (36 - threshold reading.place reading.bias)
        have wide : reading.weight * (36 - threshold reading.place reading.bias) ≤
            35 * (value * reading.weight) :=
          calc reading.weight * (36 - threshold reading.place reading.bias)
              ≤ reading.weight * 35 := Nat.mul_le_mul_left _ (by omega)
            _ = 35 * (1 * reading.weight) := by omega
            _ ≤ 35 * (value * reading.weight) :=
                Nat.mul_le_mul_left _ (Nat.mul_le_mul_right _ (by omega))
        have first : threshold reading.place reading.bias +
            (value - threshold reading.place reading.bias) %
              (36 - threshold reading.place reading.bias) < 36 := by
          omega
        rcases Reading.step?_more first (Nat.le_add_right ..) (by omega)
          (Nat.lt_of_le_of_lt wide (by omega)) with
          ⟨next, advanced, place, bias, weight, total, inserts⟩
        have later : (value - threshold reading.place reading.bias) /
            (36 - threshold reading.place reading.bias) < value := by
          omega
        have rest := @induction _ later next (by
          rw [total, weight]
          omega)
        rw [inserts, place, bias, total, weight, Nat.add_assoc, ← whole] at rest
        rw [List.foldlM_cons, advanced]
        exact rest

/-! ## Insertions -/

theorem limit_eq : limit = 4294967296 := rfl

def Reading.Fresh (reading : Reading) : Prop :=
  reading.place = 36 ∧ reading.weight = 1 ∧ reading.total = reading.spot

/-- The reader inserts the character that has been counted up to, at the place that has been counted
up to. -/
theorem Reading.insert?_at {reading : Reading} {before after : List Char} {character : Char}
    (text : reading.text = before ++ after) (behind : reading.code ≤ character.toNat)
    (total : reading.total =
      (character.toNat - reading.code) * (reading.text.length + 1) + before.length) :
    ∃ next : Reading, reading.insert? = some next ∧ next.Fresh ∧
      next.text = before ++ character :: after ∧ next.code = character.toNat ∧
      next.spot = before.length + 1 ∧
      next.bias = nextBias (reading.total - reading.spot) (reading.text.length + 1)
        (reading.spot = 0) := by
  have inside : before.length < reading.text.length + 1 := by
    rw [text, List.length_append]
    omega
  have code : reading.code + reading.total / (reading.text.length + 1) = character.toNat := by
    rw [total, Nat.add_comm (_ * _), Nat.add_mul_div_right _ _ (Nat.succ_pos _),
      Nat.div_eq_of_lt inside]
    omega
  have spot : reading.total % (reading.text.length + 1) = before.length := by
    rw [total, Nat.add_comm (_ * _), Nat.add_mul_mod_self_right, Nat.mod_eq_of_lt inside]
  have valid : character.toNat.isValidChar := character.valid
  have small : character.toNat < limit := by
    rw [limit_eq]
    rcases valid with low | ⟨-, high⟩
    all_goals omega
  refine ⟨_, if_neg ?_, ⟨rfl, rfl, rfl⟩, ?_, code, congrArg (· + 1) spot, rfl⟩
  · rw [code]
    exact not_or.2 ⟨Nat.not_le.2 small, fun wrong => wrong valid⟩
  · dsimp only
    rw [code, spot, text, List.take_left' rfl, List.drop_left' rfl, Char.ofNat_toNat]

/-- How far the reader gets with what has been written, when the writer has passed a part of the text
for a code point: it has the characters of the code points before, and those of this one that have
been passed. What is left to count to the next insertion is the distance. -/
structure Follows (plain : List Char) (code : Nat) (passed ahead : List Char) (writing : Writing)
    (reading : Reading) : Prop where
  read : writing.digits.foldlM Reading.step? { text := plain } = some reading
  digits : '-' ∉ writing.digits
  text : reading.text = passed.filter (·.toNat ≤ code) ++ ahead.filter (·.toNat < code)
  fresh : reading.Fresh
  bias : reading.bias = writing.bias
  count : writing.count = reading.text.length
  more : plain.length ≤ writing.count
  first : reading.spot = 0 ↔ writing.count = plain.length
  behind : reading.code ≤ code
  distance : writing.distance + reading.spot =
    (code - reading.code) * (writing.count + 1) + (passed.filter (·.toNat ≤ code)).length

namespace Follows

variable {plain passed ahead text : List Char} {code : Nat} {writing : Writing} {reading : Reading}
  {character : Char}

theorem pass_below (follows : Follows plain code passed (character :: ahead) writing reading)
    (below : character.toNat < code) :
    Follows plain code (passed ++ [character]) ahead
      { writing with distance := writing.distance + 1 } reading :=
  { follows with
    text := by
      rw [follows.text]
      simp [below, Nat.le_of_lt below]
    distance := by
      have distance := follows.distance
      simp only [List.filter_append, List.length_append, List.filter_cons, Nat.le_of_lt below,
        decide_true, if_true, List.filter_nil, List.length_singleton]
      omega }

theorem pass_above (follows : Follows plain code passed (character :: ahead) writing reading)
    (above : code < character.toNat) :
    Follows plain code (passed ++ [character]) ahead writing reading :=
  { follows with
    text := by
      rw [follows.text]
      simp [Nat.not_le.2 above, Nat.not_lt.2 (Nat.le_of_lt above)]
    distance := by
      rw [follows.distance]
      simp [Nat.not_le.2 above] }

/-- The number for the next character is read to its end, since a short text keeps it small. -/
theorem number_read (follows : Follows plain character.toNat passed (character :: ahead) writing reading)
    (short : passed.length + ahead.length < 100) :
    (number writing.bias 36 writing.distance).foldlM Reading.step? reading =
      Reading.insert? { reading with total := reading.total + writing.distance } := by
  rcases follows.fresh with ⟨place, weight, total⟩
  have distance := follows.distance
  have inside := List.length_filter_le (·.toNat ≤ character.toNat) passed
  have few : writing.count < 100 := by
    have own : ((character :: ahead).filter (·.toNat < character.toNat)).length =
        (ahead.filter (·.toNat < character.toNat)).length := by simp
    have rest := List.length_filter_le (·.toNat < character.toNat) ahead
    rw [follows.count, follows.text, List.length_append, own]
    omega
  have counted : (character.toNat - reading.code) * (writing.count + 1) ≤ 1114111 * 100 := by
    have valid : character.toNat.isValidChar := character.valid
    refine Nat.mul_le_mul ?_ few
    rcases valid with low | ⟨-, high⟩
    all_goals omega
  have room : reading.total + 35 * (writing.distance * reading.weight) < limit := by
    rw [limit_eq, weight, total]
    omega
  have read := foldlM_number room
  rwa [follows.bias, place, weight, Nat.mul_one] at read

theorem pass_at (follows : Follows plain character.toNat passed (character :: ahead) writing reading)
    (short : passed.length + ahead.length < 100) :
    ∃ next, Follows plain character.toNat (passed ++ [character]) ahead {
      digits := writing.digits ++ number writing.bias 36 writing.distance
      bias := nextBias writing.distance (writing.count + 1) (writing.count = plain.length)
      count := writing.count + 1 } next := by
  have total := follows.fresh.2.2
  have text : reading.text = passed.filter (·.toNat ≤ character.toNat) ++
      ahead.filter (·.toNat < character.toNat) := by
    rw [follows.text]
    simp
  rcases @Reading.insert?_at { reading with total := reading.total + writing.distance } _ _
    character text follows.behind (by
      dsimp only
      rw [total, Nat.add_comm reading.spot, follows.distance, follows.count]) with
    ⟨next, inserted, fresh, whole, code, spot, bias⟩
  dsimp only at bias
  rw [total, Nat.add_sub_cancel_left, ← follows.count] at bias
  refine ⟨next, ?_, ?_, ?_, fresh, ?_, ?_, ?_, ?_, Nat.le_of_eq code, ?_⟩
  · rw [List.foldlM_append, follows.read]
    exact (follows.number_read short).trans inserted
  · exact fun member => (List.mem_append.1 member).elim follows.digits (not_mem_number _ _ _)
  · rw [whole]
    simp
  · rw [bias, decide_eq_decide.2 follows.first]
  · rw [whole, follows.count, text]
    simp only [List.length_append, List.length_cons]
    omega
  · exact Nat.le_succ_of_le follows.more
  · rw [spot]
    exact iff_of_false (Nat.succ_ne_zero _) (Nat.ne_of_gt (Nat.lt_succ_of_le follows.more))
  · rw [spot, code]
    simp

theorem pass (follows : Follows plain code passed (character :: ahead) writing reading)
    (short : passed.length + ahead.length < 100) :
    ∃ next, Follows plain code (passed ++ [character]) ahead
      (writing.pass plain.length code character) next := by
  rw [Writing.pass]
  split
  · rename_i below
    exact ⟨reading, follows.pass_below below⟩
  split
  · rename_i same
    subst same
    exact follows.pass_at short
  · rename_i notBelow notSame
    exact ⟨reading, follows.pass_above (by omega)⟩

theorem passAll (follows : Follows plain code passed ahead writing reading)
    (short : passed.length + ahead.length ≤ 100) :
    ∃ last, Follows plain code (passed ++ ahead) []
      (ahead.foldl (Writing.pass plain.length code) writing) last := by
  induction ahead generalizing passed writing reading with
  | nil => exact ⟨reading, by rwa [List.append_nil]⟩
  | cons character ahead induction =>
      rw [List.length_cons] at short
      rcases follows.pass (by omega) with ⟨next, later⟩
      rcases induction later (by
        rw [List.length_append, List.length_singleton]
        omega) with ⟨last, whole⟩
      exact ⟨last, by rwa [List.append_assoc] at whole⟩

theorem advance {reached : Nat} (follows : Follows plain reached [] text writing reading)
    (above : reached ≤ code)
    (free : ∀ character ∈ text, reached ≤ character.toNat → code ≤ character.toNat) :
    Follows plain code [] text
      { writing with distance := writing.distance + (code - reached) * (writing.count + 1) }
      reading :=
  { follows with
    text := by
      rw [follows.text]
      apply List.filter_congr
      intro character member
      apply decide_eq_decide.2
      constructor
      · intro low
        omega
      · intro low
        exact Nat.lt_of_not_le fun high => Nat.not_le.2 low (free character member high)
    behind := Nat.le_trans follows.behind above
    distance := by
      have behind := follows.behind
      have distance := follows.distance
      have parts : code - reading.code = (reached - reading.code) + (code - reached) := by omega
      rw [parts, Nat.add_mul]
      dsimp only [List.filter_nil, List.length_nil] at distance ⊢
      omega }

theorem next (follows : Follows plain code text [] writing reading) :
    Follows plain (code + 1) [] text { writing with distance := writing.distance + 1 } reading :=
  { follows with
    text := by
      rw [follows.text, List.filter_nil, List.append_nil, List.filter_nil, List.nil_append]
      exact List.filter_congr fun character _ => decide_eq_decide.2 Nat.lt_succ_iff.symm
    behind := Nat.le_succ_of_le follows.behind
    distance := by
      have behind := follows.behind
      have distance := follows.distance
      have whole : (text.filter (·.toNat ≤ code)).length = writing.count := by
        rw [follows.count, follows.text]
        simp
      have parts : code + 1 - reading.code = (code - reading.code) + 1 := by omega
      rw [whole] at distance
      rw [parts, Nat.add_one_mul (code - reading.code)]
      dsimp only [List.filter_nil, List.length_nil]
      omega }

theorem insertAll {reached : Nat} (follows : Follows plain reached [] text writing reading)
    (short : text.length ≤ 100) (above : reached ≤ code)
    (free : ∀ character ∈ text, reached ≤ character.toNat → code ≤ character.toNat) :
    ∃ later, Follows plain (code + 1) [] text
      (Writing.insertAll text plain.length (writing, reached) code).1 later := by
  rcases (follows.advance above free).passAll (by rwa [List.length_nil, Nat.zero_add]) with
    ⟨later, whole⟩
  exact ⟨later, whole.next⟩

end Follows

/-! ## All code points -/

theorem mem_insertCode {code other : Nat} {codes : List Nat} :
    other ∈ insertCode code codes ↔ other = code ∨ other ∈ codes := by
  induction codes with
  | nil => simp [insertCode]
  | cons next rest induction =>
      rw [insertCode]
      split
      · simp
      split
      · rename_i same
        simp [same]
      · rw [List.mem_cons, induction, List.mem_cons]
        exact or_left_comm

theorem sorted_insertCode {code : Nat} {codes : List Nat} (sorted : codes.Pairwise (· < ·)) :
    (insertCode code codes).Pairwise (· < ·) := by
  induction codes with
  | nil => exact List.pairwise_singleton _ code
  | cons next rest induction =>
      have parts := List.pairwise_cons.1 sorted
      rw [insertCode]
      split
      · rename_i below
        refine List.pairwise_cons.2 ⟨fun other member => ?_, sorted⟩
        rcases List.mem_cons.1 member with rfl | later
        · exact below
        · exact Nat.lt_trans below (parts.1 other later)
      split
      · exact sorted
      · refine List.pairwise_cons.2 ⟨fun other member => ?_, induction parts.2⟩
        rcases mem_insertCode.1 member with rfl | later
        · omega
        · exact parts.1 other later

theorem mem_codesBeyond {code : Nat} {text : List Char} :
    code ∈ codesBeyond text ↔ firstCode ≤ code ∧ ∃ character ∈ text, character.toNat = code := by
  have members (codes : List Nat) : code ∈ codes.foldr insertCode [] ↔ code ∈ codes := by
    induction codes with
    | nil => rfl
    | cons next rest induction => rw [List.foldr_cons, mem_insertCode, induction, List.mem_cons]
  rw [codesBeyond, members, List.mem_filter, List.mem_map, decide_eq_true_iff, and_comm]

theorem sorted_codesBeyond (text : List Char) : (codesBeyond text).Pairwise (· < ·) := by
  rw [codesBeyond]
  induction (text.map Char.toNat).filter (firstCode ≤ ·) with
  | nil => exact List.Pairwise.nil
  | cons next rest induction => exact sorted_insertCode induction

/-- The reader follows through all code points, in their order. -/
theorem Follows.codes {plain text : List Char} {codes : List Nat} {reached : Nat}
    {writing : Writing} {reading : Reading} (follows : Follows plain reached [] text writing reading)
    (short : text.length ≤ 100) (sorted : codes.Pairwise (· < ·))
    (above : ∀ code ∈ codes, reached ≤ code)
    (all : ∀ character ∈ text, reached ≤ character.toNat → character.toNat ∈ codes) :
    ∃ last later, Follows plain last [] text
        (codes.foldl (Writing.insertAll text plain.length) (writing, reached)).1 later ∧
      ∀ character ∈ text, character.toNat < last := by
  induction codes generalizing reached writing reading with
  | nil =>
      exact ⟨reached, reading, follows, fun character member =>
        Nat.lt_of_not_le fun high => List.not_mem_nil (all character member high)⟩
  | cons code codes induction =>
      have parts := List.pairwise_cons.1 sorted
      have free (character : Char) (member : character ∈ text) (high : reached ≤ character.toNat) :
          code ≤ character.toNat := by
        rcases List.mem_cons.1 (all character member high) with same | later
        · exact Nat.le_of_eq same.symm
        · exact Nat.le_of_lt (parts.1 _ later)
      rcases follows.insertAll short (above code List.mem_cons_self) free with ⟨later, next⟩
      refine induction next parts.2 (fun other member => parts.1 other member)
        fun character member high => ?_
      have low := above code List.mem_cons_self
      rcases List.mem_cons.1 (all character member (by omega)) with same | listed
      · omega
      · exact listed

/-! ## Texts -/

/-- The reader finds the digits behind the last hyphen, if there is one. -/
theorem decode?_append {plain digits : List Char} (free : '-' ∉ digits) :
    decode? ((if plain.isEmpty then [] else plain ++ ['-']) ++ digits) =
      (digits.foldlM Reading.step? { text := plain }).bind fun reading =>
        if reading.place = 36 then some reading.text else none := by
  generalize front_eq : (if plain.isEmpty then [] else plain ++ ['-']) = front
  have front_cases : plain = [] ∧ front = [] ∨ plain.isEmpty = false ∧ front = plain ++ ['-'] := by
    cases plain with
    | nil => exact .inl ⟨rfl, front_eq.symm⟩
    | cons => exact .inr ⟨rfl, front_eq.symm⟩
  have other : ∀ digit ∈ digits.reverse, decide (digit ≠ '-') = true := fun digit member =>
    decide_eq_true fun same => free (same ▸ List.mem_reverse.1 member)
  have taken : ((front ++ digits).reverse.takeWhile (· ≠ '-')).reverse = digits := by
    have stops : front.reverse.takeWhile (· ≠ '-') = [] := by
      rcases front_cases with ⟨-, rfl⟩ | ⟨-, rfl⟩
      · rfl
      · simp
    rw [List.reverse_append, List.takeWhile_append_of_pos other, stops, List.append_nil,
      List.reverse_reverse]
  rw [decode?]
  simp only [taken, List.length_append, Nat.add_sub_cancel, List.take_left' rfl]
  rcases front_cases with ⟨rfl, rfl⟩ | ⟨some, rfl⟩
  · rfl
  · rw [List.dropLast_concat, some]
    rfl

/-- A text is read back from what it is written as, in ASCII, if it is not so long that the reader
might take its numbers for too great ones. -/
theorem decode?_encode {text : List Char} (short : text.length ≤ 100) :
    decode? (encode text) = some text := by
  have outset : Follows (text.filter (·.toNat < firstCode)) firstCode [] text
      { count := (text.filter (·.toNat < firstCode)).length }
      { text := text.filter (·.toNat < firstCode) } := {
    read := rfl
    digits := List.not_mem_nil
    text := rfl
    fresh := ⟨rfl, rfl, rfl⟩
    bias := rfl
    count := rfl
    more := Nat.le_refl _
    first := iff_of_true rfl rfl
    behind := Nat.le_refl _
    distance := by simp }
  rcases outset.codes short (sorted_codesBeyond text) (fun code member => (mem_codesBeyond.1 member).1)
    (fun character member high => mem_codesBeyond.2 ⟨high, character, member, rfl⟩) with
    ⟨last, reading, follows, below⟩
  have whole : reading.text = text := by
    rw [follows.text, List.filter_nil, List.nil_append, List.filter_eq_self]
    exact fun character member => decide_eq_true (below character member)
  rw [encode]
  dsimp only
  rw [decode?_append follows.digits, follows.read]
  simp only [Option.bind, follows.fresh.1, if_true, whole]

example : encode "bücher".toList = "bcher-kva".toList := by decide +kernel

end RecordGraph.Url.Punycode
