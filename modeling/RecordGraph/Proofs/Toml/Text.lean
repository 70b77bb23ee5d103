import Mathlib.Logic.Basic
import RecordGraph.Toml.Text

namespace RecordGraph.Toml

/-! Written texts are read back. What may stand between quotes for a text is told by rules of its
own: everything that is written keeps to them, and everything that keeps to them is read as the text
that is meant. -/

/-! ## What may stand between quotes -/

def mostMarks (long : Bool) : Nat := if long then 2 else 0

def Escapes (character : Char) (code : List Char) : Prop :=
  ∀ rest, readEscape (code ++ rest) = some (character, rest) ∧
    newline? (skipSpaces (code ++ rest)) = none

/-- What may stand between quotes for a text, over several lines if it is long. -/
inductive Spells (quotes : Quotes) (long : Bool) : (text body : List Char) → Prop where
  /-- Some quotes before the quotes at the end, or none. -/
  | ends {count : Nat} (few : count ≤ mostMarks long) :
      Spells quotes long (List.replicate count quotes.mark) (List.replicate count quotes.mark)
  | marks {count : Nat} {first : Char} {text body : List Char} (few : count ≤ mostMarks long)
      (different : first ≠ quotes.mark) (spells : Spells quotes long text (first :: body)) :
      Spells quotes long (List.replicate count quotes.mark ++ text)
        (List.replicate count quotes.mark ++ first :: body)
  | itself {character : Char} {text body : List Char} (textual : isTextual character = true)
      (different : character ≠ quotes.mark) (plain : ¬(character = '\\' ∧ quotes = .double))
      (spells : Spells quotes long text body) :
      Spells quotes long (character :: text) (character :: body)
  | line {text body : List Char} (several : long = true) (spells : Spells quotes long text body) :
      Spells quotes long ('\n' :: text) ('\n' :: body)
  | escaped {character : Char} {code text body : List Char} (double : quotes = .double)
      (escapes : Escapes character code) (spells : Spells quotes long text body) :
      Spells quotes long (character :: text) ('\\' :: (code ++ body))

variable {quotes : Quotes} {long : Bool} {character : Char} {text body rest : List Char}
  {fuel : Nat}

/-! ## Reading -/

theorem mark_ne_newline (quotes : Quotes) : quotes.mark ≠ '\n' := by
  cases quotes <;> decide

theorem mark_ne_backslash (quotes : Quotes) : quotes.mark ≠ '\\' := by
  cases quotes <;> decide

theorem newline?_of_ne (line : character ≠ '\n') (carriage : character ≠ '\r')
    (rest : List Char) : newline? (character :: rest) = none := by
  rw [newline?]
  · rintro _ same
    exact line (List.cons.inj same).1
  · rintro _ same
    exact carriage (List.cons.inj same).1

theorem ne_of_textual (textual : isTextual character = true) :
    character ≠ '\n' ∧ character ≠ '\r' := by
  constructor
  · rintro rfl
    cases textual
  · rintro rfl
    cases textual

theorem newline?_textual (textual : isTextual character = true) (rest : List Char) :
    newline? (character :: rest) = none :=
  newline?_of_ne (ne_of_textual textual).1 (ne_of_textual textual).2 rest

theorem readShort_spells (spells : Spells quotes false text body)
    (enough : body.length < fuel) (rest : List Char) :
    readShort quotes fuel (body ++ quotes.mark :: rest) = some (text, rest) := by
  induction spells generalizing fuel with
  | ends few =>
      obtain ⟨more, rfl⟩ := Nat.exists_eq_succ_of_ne_zero (Nat.ne_zero_of_lt enough)
      rw [Nat.le_zero.1 few, List.replicate_zero, List.nil_append, readShort, if_pos rfl]
  | marks few different spells induction =>
      rw [Nat.le_zero.1 few, List.replicate_zero, List.nil_append] at *
      exact induction enough
  | itself textual different plain spells induction =>
      obtain ⟨more, rfl⟩ := Nat.exists_eq_succ_of_ne_zero (Nat.ne_zero_of_lt enough)
      rw [List.cons_append, readShort, if_neg different, if_neg plain, if_pos textual,
        induction (Nat.lt_of_succ_lt_succ enough)]
      rfl
  | line several spells induction => cases several
  | escaped double escapes spells induction =>
      obtain ⟨more, rfl⟩ := Nat.exists_eq_succ_of_ne_zero (Nat.ne_zero_of_lt enough)
      have shorter : _ < more := Nat.lt_of_le_of_lt
        (List.length_append ▸ Nat.le_add_left _ _) (Nat.lt_of_succ_lt_succ enough)
      rw [List.cons_append, readShort, if_neg (mark_ne_backslash quotes).symm,
        if_pos ⟨rfl, double⟩, List.append_assoc, (escapes _).1]
      simp only [bind, Option.bind, induction shorter]

theorem countQuotes_replicate (count : Nat) (rest : List Char)
    (other : rest.head? ≠ some quotes.mark) :
    countQuotes quotes (List.replicate count quotes.mark ++ rest) = count := by
  have stop : rest.takeWhile (· == quotes.mark) = [] := by
    cases rest with
    | nil => rfl
    | cons first rest =>
        rw [List.takeWhile_cons_of_neg]
        intro same
        exact other (congrArg some (beq_iff_eq.1 same))
  rw [countQuotes, List.takeWhile_append_of_pos, stop, List.append_nil, List.length_replicate]
  intro mark member
  rw [(List.mem_replicate.1 member).2]
  exact beq_self_eq_true _

/-- Of up to five quotes side by side three are the end; fewer than three belong to the text. -/
theorem readLong_marks (count : Nat) (other : rest.head? ≠ some quotes.mark) :
    readLong quotes (fuel + 1) (quotes.mark :: (List.replicate count quotes.mark ++ rest)) =
      if count < 2 then (readLong quotes fuel rest).map fun (others, rest) =>
        (List.replicate (count + 1) quotes.mark ++ others, rest)
      else if count < 5 then some (List.replicate (count - 2) quotes.mark, rest)
      else none := by
  rw [readLong, if_pos rfl, countQuotes_replicate _ _ other]
  dsimp only
  rw [List.drop_left' (List.length_replicate ..)]
  cases readLong quotes fuel rest with
  | none => rfl
  | some result => rfl

/-- Over lines a text ends at three quotes side by side, or at the last three of up to five. -/
theorem readLong_spells (spells : Spells quotes true text body) (enough : body.length < fuel)
    (other : rest.head? ≠ some quotes.mark) :
    readLong quotes fuel (body ++ (List.replicate 3 quotes.mark ++ rest)) = some (text, rest) := by
  induction spells generalizing fuel with
  | @ends count few =>
      obtain ⟨more, rfl⟩ := Nat.exists_eq_succ_of_ne_zero (Nat.ne_zero_of_lt enough)
      have input : List.replicate count quotes.mark ++ (List.replicate 3 quotes.mark ++ rest) =
          quotes.mark :: (List.replicate (count + 2) quotes.mark ++ rest) := by
        rw [← List.append_assoc, List.replicate_append_replicate]
        rfl
      have most : count ≤ 2 := few
      rw [input, readLong_marks _ other, if_neg (by omega), if_pos (by omega), Nat.add_sub_cancel]
  | @marks count first text body few different spells induction =>
      cases count with
      | zero =>
          rw [List.replicate_zero, List.nil_append] at enough ⊢
          exact induction enough
      | succ count =>
          obtain ⟨more, rfl⟩ := Nat.exists_eq_succ_of_ne_zero (Nat.ne_zero_of_lt enough)
          have most : count < 2 := few
          have stops : (first :: body ++ (List.replicate 3 quotes.mark ++ rest)).head? ≠
              some quotes.mark := fun same => different (Option.some.inj same)
          have shorter : (first :: body).length < more := by
            rw [List.length_append, List.length_replicate] at enough
            omega
          rw [List.replicate_succ, List.cons_append, List.cons_append, List.append_assoc,
            readLong_marks _ stops, if_pos most, induction shorter]
          rfl
  | itself textual different plain spells induction =>
      obtain ⟨more, rfl⟩ := Nat.exists_eq_succ_of_ne_zero (Nat.ne_zero_of_lt enough)
      rw [List.cons_append, readLong, if_neg different, if_neg plain,
        newline?_textual textual]
      dsimp only
      rw [if_pos textual, induction (Nat.lt_of_succ_lt_succ enough)]
      rfl
  | line several spells induction =>
      obtain ⟨more, rfl⟩ := Nat.exists_eq_succ_of_ne_zero (Nat.ne_zero_of_lt enough)
      have plain : ¬('\n' = '\\' ∧ quotes = .double) := by simp
      rw [List.cons_append, readLong, if_neg (mark_ne_newline quotes).symm, if_neg plain, newline?]
      dsimp only
      rw [induction (Nat.lt_of_succ_lt_succ enough)]
      rfl
  | escaped double escapes spells induction =>
      obtain ⟨more, rfl⟩ := Nat.exists_eq_succ_of_ne_zero (Nat.ne_zero_of_lt enough)
      have shorter : _ < more := Nat.lt_of_le_of_lt
        (List.length_append ▸ Nat.le_add_left _ _) (Nat.lt_of_succ_lt_succ enough)
      rw [List.cons_append, readLong, if_neg (mark_ne_backslash quotes).symm,
        if_pos ⟨rfl, double⟩, List.append_assoc, (escapes _).2]
      dsimp only
      rw [(escapes _).1]
      simp only [bind, Option.bind, induction shorter]

/-! ## Writing -/

private theorem hexDigit?_capitalHexDigit {value : Nat} (small : value < 16) :
    hexDigit? (capitalHexDigit value) = some value := by
  have all : ∀ number : Fin 16, hexDigit? (capitalHexDigit number) = some number.val := by decide
  exact all ⟨value, small⟩

private theorem charOfCode?_toNat (character : Char) :
    charOfCode? character.toNat = some character := by
  have valid : character.toNat.isValidChar := character.valid
  rw [charOfCode?, dif_pos valid]
  exact congrArg some (Char.ext (UInt32.toNat_inj.1 rfl))

theorem escape_eq (small : character.toNat < 0x100) :
    ∃ code, escape character = '\\' :: code ∧ Escapes character code := by
  unfold escape
  split
  case h_8 =>
    refine ⟨_, rfl, fun rest => ⟨?_, rfl⟩⟩
    have high := hexDigit?_capitalHexDigit (Nat.mod_lt (character.toNat / 16) (by decide))
    have low := hexDigit?_capitalHexDigit (Nat.mod_lt character.toNat (by decide : 0 < 16))
    have zero : hexDigit? '0' = some 0 := rfl
    have code : ((0 * 16 + 0) * 16 + 0) * 16 + character.toNat / 16 % 16 = character.toNat / 16 := by
      omega
    have whole : character.toNat / 16 * 16 + character.toNat % 16 = character.toNat := by omega
    simp only [List.cons_append, List.nil_append, readEscape, readHex, zero, high, low, bind,
      Option.bind, code, whole, charOfCode?_toNat]
  all_goals exact ⟨_, rfl, fun rest => ⟨rfl, rfl⟩⟩

private theorem replicate_append_cons (count : Nat) (mark : Char) (rest : List Char) :
    List.replicate count mark ++ mark :: rest = List.replicate (count + 1) mark ++ rest := by
  rw [List.replicate_succ', List.append_assoc]
  rfl

private theorem toNat_of_isControl (control : isControl character = true) :
    character.toNat < 0x100 := by
  simp only [isControl, Bool.and_eq_true, Bool.or_eq_true, decide_eq_true_eq] at control
  omega

private theorem textual_of_not_isControl (line : character ≠ '\n')
    (plain : isControl character = false) : isTextual character = true := by
  rw [isControl, decide_eq_true line, Bool.true_and, Bool.or_eq_false_iff, decide_eq_false_iff_not,
    decide_eq_false_iff_not] at plain
  rw [isTextual, decide_eq_true (Nat.not_lt.1 plain.1), decide_eq_true plain.2]
  exact Bool.or_true _

/-- What is written between double quotes keeps to the rules. The induction carries along the
quotes that stand directly before. -/
theorem spells_spell {count : Nat} (few : count ≤ mostMarks long) (characters : List Char) :
    Spells .double long (List.replicate count '"' ++ characters)
      (List.replicate count '"' ++ spell long count characters) := by
  induction characters generalizing count with
  | nil =>
      rw [spell, List.append_nil]
      exact .ends few
  | cons character characters induction =>
      have later : Spells .double long characters (spell long 0 characters) :=
        induction (Nat.zero_le _)
      have escaped (small : character.toNat < 0x100) :
          Spells .double long (List.replicate count '"' ++ character :: characters)
            (List.replicate count '"' ++ (escape character ++ spell long 0 characters)) := by
        obtain ⟨code, same, escapes⟩ := escape_eq small
        rw [same]
        exact .marks few (by decide) (.escaped rfl escapes later)
      rw [spell]
      by_cases quote : character = '"'
      · rw [if_pos quote]
        split
        · rename_i more
          rw [Bool.and_eq_true, decide_eq_true_eq] at more
          rw [quote, replicate_append_cons, replicate_append_cons]
          exact induction (by rw [mostMarks, if_pos more.1]; exact more.2)
        · rw [quote] at escaped ⊢
          exact escaped (by decide)
      · rw [if_neg quote]
        by_cases line : character = '\n'
        · rw [if_pos line]
          split
          · rename_i several
            rw [line]
            exact .marks few (by decide) (.line several later)
          · rw [line] at escaped ⊢
            exact escaped (by decide)
        · rw [if_neg line]
          split
          · rename_i special
            refine escaped ?_
            rcases Bool.or_eq_true_iff.1 special with backslash | control
            · rw [of_decide_eq_true backslash]
              decide
            · exact toNat_of_isControl control
          · rename_i plain
            rcases Bool.or_eq_false_iff.1 (Bool.eq_false_iff.2 plain) with ⟨backslash, control⟩
            have textual := textual_of_not_isControl line control
            have whole : ¬(character = '\\' ∧ Quotes.double = .double) := fun both =>
              of_decide_eq_false backslash both.1
            exact .marks few quote (.itself textual quote whole later)

/-! ### Without escapes -/

private theorem spells_short {characters : List Char}
    (textual : ∀ character ∈ characters, isTextual character = true)
    (unquoted : '\x27' ∉ characters) : Spells .single false characters characters := by
  induction characters with
  | nil => exact .ends (Nat.zero_le _)
  | cons character characters induction =>
      have whole : ¬(character = '\\' ∧ Quotes.single = .double) := fun both => by cases both.2
      refine .itself (textual character List.mem_cons_self) ?_ whole (induction
        (fun other member => textual other (List.mem_cons_of_mem _ member))
        fun member => unquoted (List.mem_cons_of_mem _ member))
      rintro rfl
      exact unquoted List.mem_cons_self

private theorem hasThree_append {mark : Char} (before characters : List Char)
    (few : hasThree mark (before ++ characters) = false) : hasThree mark characters = false := by
  induction before with
  | nil => exact few
  | cons character before induction =>
      rw [List.cons_append, hasThree, Bool.or_eq_false_iff] at few
      exact induction few.2

private theorem spells_long {count : Nat} (few : count ≤ 2) {characters : List Char}
    (textual : ∀ character ∈ characters, character = '\n' ∨ isTextual character = true)
    (apart : hasThree '\x27' (List.replicate count '\x27' ++ characters) = false) :
    Spells .single true (List.replicate count '\x27' ++ characters)
      (List.replicate count '\x27' ++ characters) := by
  induction characters generalizing count with
  | nil =>
      rw [List.append_nil]
      exact .ends few
  | cons character characters induction =>
      have others : ∀ other ∈ characters, other = '\n' ∨ isTextual other = true :=
        fun other member => textual other (List.mem_cons_of_mem _ member)
      by_cases quote : character = '\x27'
      · rw [quote, replicate_append_cons] at apart ⊢
        refine induction (Nat.lt_of_le_of_ne few ?_) others apart
        rintro rfl
        cases apart
      · have later : Spells .single true characters characters :=
          induction (Nat.zero_le _) others
            (hasThree_append [character] _ (hasThree_append _ (character :: characters) apart))
        have whole : ¬(character = '\\' ∧ Quotes.single = .double) := fun both => by cases both.2
        refine .marks few quote ?_
        rcases textual character List.mem_cons_self with rfl | plain
        · exact .line rfl later
        · exact .itself plain quote whole later

/-! ## Whole texts -/

namespace TextForm

private theorem not_mem_of_contains {characters : List Char}
    (absent : characters.contains character = false) : character ∉ characters := by
  intro member
  rw [List.contains_iff_mem.2 member] at absent
  cases absent

def spelled (form : TextForm) (characters : List Char) : List Char :=
  match form.quotes with
  | .double => spell form.long 0 characters
  | .single => characters

theorem write_eq (form : TextForm) (characters : List Char) :
    form.write characters = List.replicate (if form.long then 3 else 1) form.quotes.mark ++
      (if form.long && characters.contains '\n' then ['\n'] else []) ++ form.spelled characters ++
        List.replicate (if form.long then 3 else 1) form.quotes.mark := rfl

theorem spells_spelled (characters : List Char) :
    Spells (of characters).quotes (of characters).long characters
      ((of characters).spelled characters) := by
  have double (long : Bool) : Spells .double long characters (spell long 0 characters) :=
    spells_spell (Nat.zero_le _) characters
  -- Between single quotes only controls other than tabs and ends of lines are out of place.
  have textual (controls : (characters.any fun character =>
      isControl character && decide (character ≠ '\t')) = false) :
      ∀ character ∈ characters, character = '\n' ∨ isTextual character = true := by
    intro character member
    by_cases line : character = '\n'
    · exact .inl line
    have settled := Bool.eq_false_iff.2 (List.any_eq_false.1 controls character member)
    rcases Bool.and_eq_false_iff.1 settled with plain | tab
    · exact .inr (textual_of_not_isControl line plain)
    · have same : character = '\t' := not_not.1 (of_decide_eq_false tab)
      rw [same]
      exact .inr rfl
  generalize chosen : of characters = form
  rw [of] at chosen
  split at chosen
  · rw [← chosen]
    exact double false
  split at chosen
  · rename_i plain
    simp only [Bool.and_eq_true, Bool.not_eq_true'] at plain
    obtain ⟨⟨controls, line⟩, quote⟩ := plain
    rw [← chosen]
    refine spells_short (fun character member => ?_) (not_mem_of_contains quote)
    refine (textual controls character member).resolve_left ?_
    rintro rfl
    exact not_mem_of_contains line member
  split at chosen
  · rw [← chosen]
    exact double true
  split at chosen
  · rename_i plain
    simp only [Bool.and_eq_true, Bool.not_eq_true'] at plain
    rw [← chosen]
    exact spells_long (Nat.zero_le _) (textual plain.1) plain.2
  · rw [← chosen]
    exact double _

end TextForm

private theorem head_spells (spells : Spells quotes false text body) :
    body.head? ≠ some quotes.mark := by
  induction spells with
  | ends few =>
      rw [Nat.le_zero.1 few]
      exact nofun
  | marks few different spells induction =>
      rw [Nat.le_zero.1 few]
      exact induction
  | itself textual different plain spells induction =>
      exact fun same => different (Option.some.inj same)
  | line several spells induction => cases several
  | escaped double escapes spells induction =>
      exact fun same => mark_ne_backslash quotes (Option.some.inj same).symm

private theorem newline?_mark (quotes : Quotes) (rest : List Char) :
    newline? (quotes.mark :: rest) = none := by
  cases quotes <;> rfl

private theorem newline?_spells (spells : Spells quotes long text body) (line : '\n' ∉ text)
    (rest : List Char) : newline? (body ++ quotes.mark :: rest) = none := by
  induction spells with
  | @ends count few =>
      cases count with
      | zero => exact newline?_mark quotes rest
      | succ count => exact newline?_mark quotes _
  | @marks count first text body few different spells induction =>
      cases count with
      | zero => exact induction line
      | succ count => exact newline?_mark quotes _
  | itself textual different plain spells induction => exact newline?_textual textual _
  | line several spells induction => exact absurd List.mem_cons_self line
  | escaped double escapes spells induction =>
      exact newline?_of_ne (by decide) (by decide) _

private theorem readText_short {input characters : List Char}
    (short : ∀ more, input ≠ quotes.mark :: quotes.mark :: more)
    (done : readShort quotes (input.length + 1) input = some (characters, rest)) :
    readText (quotes.mark :: input) = some (String.ofList characters, rest) := by
  have taken : readText (quotes.mark :: input) =
      (readShort quotes (input.length + 1) input).bind fun (characters, rest) =>
        some (String.ofList characters, rest) := by
    cases quotes with
    | double =>
        rw [Quotes.mark, readText]
        · rfl
        · exact short
    | single =>
        rw [Quotes.mark, readText]
        · rfl
        · exact short
  rw [taken, done]
  rfl

private theorem readText_long {input characters : List Char}
    (done : readLongText quotes input = some (characters, rest)) :
    readText (List.replicate 3 quotes.mark ++ input) = some (String.ofList characters, rest) := by
  have taken : readText (List.replicate 3 quotes.mark ++ input) =
      (readLongText quotes input).bind fun (characters, rest) =>
        some (String.ofList characters, rest) := by
    cases quotes with
    | double => rfl
    | single => rfl
  rw [taken, done]
  rfl

theorem readLongText_spells (spells : Spells quotes true text body)
    (other : rest.head? ≠ some quotes.mark) :
    readLongText quotes ((if text.contains '\n' then ['\n'] else []) ++
      (body ++ (List.replicate 3 quotes.mark ++ rest))) = some (text, rest) := by
  have enough : body.length < (body ++ (List.replicate 3 quotes.mark ++ rest)).length + 1 := by
    rw [List.length_append]
    omega
  rw [readLongText]
  split
  · exact readLong_spells spells enough other
  · rename_i line
    have absent : '\n' ∉ text := fun member => line (List.contains_iff_mem.2 member)
    have whole : newline? (body ++ (List.replicate 3 quotes.mark ++ rest)) = none :=
      newline?_spells spells absent (List.replicate 2 quotes.mark ++ rest)
    rw [List.nil_append, whole]
    exact readLong_spells spells enough other

/-- Every text is read back, as long as no quotes follow it. -/
theorem readText_writeText (text : String)
    (other : ∀ quotes : Quotes, rest.head? ≠ some quotes.mark) :
    readText (writeText text ++ rest) = some (text, rest) := by
  have spells := TextForm.spells_spelled text.toList
  rw [writeText]
  generalize TextForm.of text.toList = form at spells ⊢
  rcases form with ⟨quotes, long⟩
  cases long with
  | false =>
      generalize spelled : TextForm.spelled ⟨quotes, false⟩ text.toList = body at spells
      have whole : TextForm.write ⟨quotes, false⟩ text.toList ++ rest =
          quotes.mark :: (body ++ quotes.mark :: rest) := by
        rw [TextForm.write_eq, spelled]
        simp
      have alone (more : List Char) :
          body ++ quotes.mark :: rest ≠ quotes.mark :: quotes.mark :: more := by
        intro same
        cases body with
        | nil => exact other quotes (congrArg List.head? (List.cons.inj same).2)
        | cons first body => exact head_spells spells (congrArg some (List.cons.inj same).1)
      have enough : body.length < (body ++ quotes.mark :: rest).length + 1 := by
        rw [List.length_append]
        omega
      rw [whole, readText_short alone (readShort_spells spells enough rest), String.ofList_toList]
  | true =>
      generalize spelled : TextForm.spelled ⟨quotes, true⟩ text.toList = body at spells
      have whole : TextForm.write ⟨quotes, true⟩ text.toList ++ rest =
          List.replicate 3 quotes.mark ++ ((if text.toList.contains '\n' then ['\n'] else []) ++
            (body ++ (List.replicate 3 quotes.mark ++ rest))) := by
        rw [TextForm.write_eq, spelled]
        simp
      rw [whole, readText_long (readLongText_spells spells (other quotes)), String.ofList_toList]

end RecordGraph.Toml
