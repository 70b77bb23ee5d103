import RecordGraph.Json.Variant
import RecordGraph.Proofs.Base64
import RecordGraph.Proofs.Json.Scalar

namespace RecordGraph.Json

/-! Forms that are read back as they have been written, in any place of a larger text. -/

/-! ## Written texts -/

inductive Written : Nat → Bytes → Prop where
  | null (depth : Nat) : Written depth [0x6E, 0x75, 0x6C, 0x6C]
  | string (depth : Nat) (text : String) : Written depth (writeString text)
  | word (depth : Nat) (value : UInt64) : Written depth (writeNatural value.toNat)
  | list {depth : Nat} (parts : List Bytes) (all : ∀ part ∈ parts, Written depth part) :
      Written (depth + 1) (writeElements parts)
  | record {depth : Nat} (parts : List (String × Bytes))
      (all : ∀ part ∈ parts, Written depth part.2) : Written (depth + 1) (writeMembers parts)

def Opens (byte : UInt8) : Prop :=
  byte = 0x6E ∨ byte = 0x22 ∨ byte = 0x5B ∨ byte = 0x7B ∨ isDigit byte = true

theorem Opens.solid {byte : UInt8} (opens : Opens byte) : Solid byte := by
  rcases opens with rfl | rfl | rfl | rfl | digit
  · exact ⟨by decide, by decide, by decide, by decide⟩
  · exact ⟨by decide, by decide, by decide, by decide⟩
  · exact ⟨by decide, by decide, by decide, by decide⟩
  · exact ⟨by decide, by decide, by decide, by decide⟩
  · exact solid_digit digit

theorem Opens.noEnd {byte : UInt8} (opens : Opens byte) :
    byte ≠ 0x5D ∧ byte ≠ 0x7D ∧ byte ≠ 0x2C := by
  rcases opens with rfl | rfl | rfl | rfl | digit
  · exact ⟨by decide, by decide, by decide⟩
  · exact ⟨by decide, by decide, by decide⟩
  · exact ⟨by decide, by decide, by decide⟩
  · exact ⟨by decide, by decide, by decide⟩
  · refine ⟨?_, ?_, ?_⟩
    all_goals
      rintro rfl
      cases digit

namespace Written

variable {depth : Nat} {text : Bytes}

theorem opens (written : Written depth text) :
    ∃ byte others, text = byte :: others ∧ Opens byte := by
  cases written with
  | null => exact ⟨_, _, rfl, .inl rfl⟩
  | string => exact ⟨_, _, rfl, .inr (.inl rfl)⟩
  | list => exact ⟨_, _, rfl, .inr (.inr (.inl rfl))⟩
  | record => exact ⟨_, _, rfl, .inr (.inr (.inr (.inl rfl)))⟩
  | word depth value =>
      rcases writeNatural_cons value.toNat with ⟨first, others, same, digit, -⟩
      exact ⟨first, others, same, .inr (.inr (.inr (.inr digit)))⟩

theorem mono (written : Written depth text) {deeper : Nat} (more : depth ≤ deeper) :
    Written deeper text := by
  induction written generalizing deeper with
  | null => exact .null deeper
  | string depth text => exact .string deeper text
  | word depth value => exact .word deeper value
  | list parts all induction =>
      rcases Nat.exists_eq_succ_of_ne_zero (Nat.ne_of_gt (Nat.zero_lt_of_lt more)) with ⟨less, rfl⟩
      exact .list parts fun part member => induction part member (Nat.le_of_succ_le_succ more)
  | record parts all induction =>
      rcases Nat.exists_eq_succ_of_ne_zero (Nat.ne_of_gt (Nat.zero_lt_of_lt more)) with ⟨less, rfl⟩
      exact .record parts fun part member => induction part member (Nat.le_of_succ_le_succ more)

theorem pos (written : Written depth text) : 0 < text.length := by
  rcases written.opens with ⟨byte, others, rfl, -⟩
  exact Nat.succ_pos _

theorem skipBlanks_append (written : Written depth text) (rest : Bytes) :
    skipBlanks (text ++ rest) = text ++ rest := by
  rcases written.opens with ⟨byte, others, rfl, opens⟩
  exact skipBlanks_solid opens.solid _

end Written

/-! ## Parts with commas -/

def trailing (parts : List Bytes) : Bytes := parts.flatMap fun part => 0x2C :: part

theorem separated_cons (part : Bytes) (parts : List Bytes) :
    separated (part :: parts) = part ++ trailing parts := by
  induction parts generalizing part with
  | nil => simp [separated, trailing]
  | cons next parts induction =>
      rw [separated, induction]
      · simp [trailing]
      · simp

theorem trailing_cons (part : Bytes) (parts : List Bytes) (rest : Bytes) :
    trailing (part :: parts) ++ rest = 0x2C :: (part ++ (trailing parts ++ rest)) := by
  simp [trailing]

theorem ends_trailing (parts : List Bytes) {rest : Bytes} (ends : Ends rest) :
    Ends (trailing parts ++ rest) := by
  cases parts with
  | nil => exact ends
  | cons part parts =>
      rw [trailing_cons]
      exact ends_comma _

theorem length_trailing (parts : List Bytes) : parts.length ≤ (trailing parts).length := by
  induction parts with
  | nil => exact Nat.zero_le _
  | cons part parts induction =>
      rw [trailing, List.flatMap_cons, List.length_append, List.length_cons, List.length_cons]
      rw [trailing] at induction
      omega

/-! ## Where elements start -/

theorem nextElement_first {depth : Nat} {text : Bytes} (written : Written depth text)
    (rest : Bytes) : nextElement true (text ++ rest) = .ok (some (text ++ rest)) := by
  rcases written.opens with ⟨byte, others, rfl, opens⟩
  rcases opens.noEnd with ⟨bracket, -, comma⟩
  rw [List.cons_append, nextElement, skipBlanks_solid opens.solid]
  split
  · rename_i same
    cases same
  · rename_i same
    exact absurd (List.cons.inj same).1 bracket
  · rename_i same
    exact absurd (List.cons.inj same).1 comma
  · rfl

theorem nextElement_later {depth : Nat} {text : Bytes} (written : Written depth text)
    (rest : Bytes) : nextElement false (0x2C :: (text ++ rest)) = .ok (some (text ++ rest)) := by
  rcases written.opens with ⟨byte, others, rfl, opens⟩
  rcases opens.noEnd with ⟨bracket, -, -⟩
  have comma : skipBlanks (0x2C :: (byte :: others ++ rest)) = 0x2C :: (byte :: others ++ rest) :=
    rfl
  rw [nextElement, comma]
  simp only [Bool.false_eq_true, if_false, List.cons_append, skipBlanks_solid opens.solid]
  split
  · rename_i same
    cases same
  · rename_i same
    exact absurd (List.cons.inj same).1 bracket
  · rfl

theorem nextElement_end (first : Bool) (rest : Bytes) :
    nextElement first (0x5D :: rest) = .ok none := rfl

theorem nextMember_end (first : Bool) (rest : Bytes) :
    nextMember first (0x7D :: rest) = .ok none := rfl

theorem readColon_colon (rest : Bytes) : readColon (0x3A :: rest) = .ok rest := rfl

theorem endRecord_end (rest : Bytes) : endRecord (0x7D :: rest) = .ok rest := rfl

theorem enter_ok {setting : Setting} {depth : Nat} (room : depth + 1 ≤ setting.room) :
    setting.enter = .ok setting.inside ∧ depth ≤ setting.inside.room := by
  constructor
  · rw [Setting.enter, if_neg]
    omega
  · rw [Setting.inside]
    dsimp only
    omega

/-! ## Faithful forms -/

namespace Codec

/-- Whatever is written is read back, with at most `depth` lists and records in each other. -/
structure Faithful {Value : Type} (codec : Codec Value) (depth : Nat) : Prop where
  written : ∀ value, Written depth (codec.write value)
  reads : ∀ value (setting : Setting) (rest : Bytes), depth ≤ setting.room → Ends rest →
    codec.read setting (codec.write value ++ rest) = .ok (value, rest)

variable {Value Shown : Type} {codec : Codec Value} {depth : Nat}

theorem Faithful.mono (faithful : codec.Faithful depth) {deeper : Nat} (more : depth ≤ deeper) :
    codec.Faithful deeper where
  written value := (faithful.written value).mono more
  reads value setting rest room ends :=
    faithful.reads value setting rest (Nat.le_trans more room) ends

theorem faithful_text : text.Faithful 0 where
  written value := .string 0 value
  reads value setting rest _ _ := readString_written value setting rest

theorem faithful_word : word.Faithful 0 where
  written value := .word 0 value
  reads value setting _ _ ends := readWord_written value setting ends

theorem Faithful.imap {form : Codec Shown} (faithful : form.Faithful depth)
    {show_ : Value → Shown} {accept : Shown → Option Value}
    (accepts : ∀ value, accept (show_ value) = some value) :
    (form.imap show_ accept).Faithful depth where
  written value := faithful.written (show_ value)
  reads value setting rest room ends := by
    rw [Codec.imap]
    simp only [faithful.reads (show_ value) setting rest room ends, bind, Except.bind, accepts]

theorem faithful_bytes : bytes.Faithful 0 :=
  faithful_text.imap fun value => by rw [String.toList_ofList, Base64.decode?_encode]

/-- A value is told from `null` by its first byte. -/
theorem Faithful.option (faithful : codec.Faithful depth)
    (other : ∀ value rest, codec.write value ≠ 0x6E :: rest) : codec.option.Faithful depth where
  written
    | none => .null depth
    | some value => faithful.written value
  reads value setting rest room ends := by
    cases value with
    | none => rfl
    | some value =>
        have reads := faithful.reads value setting rest room ends
        have start := (faithful.written value).skipBlanks_append rest
        have different (others : Bytes) : codec.write value ++ rest ≠ 0x6E :: others := by
          rcases (faithful.written value).opens with ⟨byte, more, same, -⟩
          intro null
          rw [same, List.cons_append] at null
          exact other value more (by rw [same, (List.cons.inj null).1])
        rw [Codec.option]
        dsimp only
        rw [readOption, start]
        split
        · rename_i null
          exact absurd null (different _)
        · simp only [reads, bind, Except.bind]

private theorem Faithful.readElements (faithful : codec.Faithful depth) {setting : Setting}
    (room : depth ≤ setting.room) (values collected : List Value) {fuel : Nat}
    (enough : values.length < fuel) (rest : Bytes) :
    readElements codec.read setting fuel false collected
        (trailing (values.map codec.write) ++ 0x5D :: rest) =
      .ok (collected.reverse ++ values, 0x5D :: rest) := by
  induction values generalizing collected fuel with
  | nil =>
      rcases Nat.exists_eq_succ_of_ne_zero (Nat.ne_of_gt (Nat.zero_lt_of_lt enough)) with
          ⟨less, rfl⟩
      rw [List.map_nil, trailing, List.flatMap_nil, List.nil_append, Json.readElements,
        nextElement_end]
      simp [bind, Except.bind]
  | cons value values induction =>
      rcases Nat.exists_eq_succ_of_ne_zero (Nat.ne_of_gt (Nat.zero_lt_of_lt enough)) with
          ⟨less, rfl⟩
      have reads := faithful.reads value setting _ room
        (ends_trailing (values.map codec.write) (ends_bracket rest))
      rw [List.map_cons, trailing_cons, Json.readElements,
        nextElement_later (faithful.written value)]
      simp only [bind, Except.bind, reads]
      rw [induction]
      · simp
      · simpa using enough

theorem Faithful.list (faithful : codec.Faithful depth) :
    (Codec.list codec).Faithful (depth + 1) where
  written values := .list _ (by
    intro part member
    rcases List.mem_map.1 member with ⟨value, -, rfl⟩
    exact faithful.written value)
  reads values setting rest room ends := by
    rcases enter_ok room with ⟨entered, inside⟩
    have opened : skipBlanks (writeElements (values.map codec.write) ++ rest) =
        0x5B :: (separated (values.map codec.write) ++ 0x5D :: rest) := by
      simp [writeElements, skipBlanks]
    rw [Codec.list]
    dsimp only
    rw [readList, opened]
    simp only [entered, bind, Except.bind]
    cases values with
    | nil =>
        rw [Json.readElements, List.map_nil, separated, List.nil_append, nextElement_end]
        rfl
    | cons value values =>
        have reads := faithful.reads value setting.inside _ inside
          (ends_trailing (values.map codec.write) (ends_bracket rest))
        have long := length_trailing (values.map codec.write)
        rw [List.length_map] at long
        rw [List.map_cons, separated_cons, List.append_assoc, Json.readElements,
          nextElement_first (faithful.written value)]
        simp only [bind, Except.bind, reads]
        rw [faithful.readElements inside values [value]]
        · rfl
        · rw [List.length_append, List.length_append, List.length_cons]
          have one := (faithful.written value).pos
          omega

/-! ## Whole texts -/

theorem Faithful.read_outset (faithful : codec.Faithful depth)
    (shallow : depth ≤ Setting.outset.room) (value : Value) :
    codec.read .outset (codec.write value) = .ok (value, []) := by
  have read := faithful.reads value .outset [] shallow ends_nil
  rw [List.append_nil] at read
  exact read

theorem Faithful.parse (faithful : codec.Faithful depth) (shallow : depth ≤ Setting.outset.room)
    (value : Value) : codec.parse (codec.write value) = .ok value := by
  rw [Codec.parse, faithful.read_outset shallow value]
  rfl

theorem Faithful.parseFront (faithful : codec.Faithful depth)
    (shallow : depth ≤ Setting.outset.room) (value : Value) :
    codec.parseFront (codec.write value) = .ok value := by
  rw [Codec.parseFront, faithful.read_outset shallow value]
  rfl

end Codec

end RecordGraph.Json
