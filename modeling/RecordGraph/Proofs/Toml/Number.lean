import Mathlib.Logic.Basic
import RecordGraph.Proofs.Text.Decimal
import RecordGraph.Toml.Number

namespace RecordGraph.Toml

/-! Numbers that are written in decimal digits are read back at the end of a line. They are not
taken for dates or times, which begin with digits too. -/

variable {digits rest later : List Char} {character wanted : Char} {count least greatest found : Nat}

theorem isDigit_eq (character : Char) : isDigit character = character.isDigit := by
  rw [Bool.eq_iff_iff, Char.isDigit_iff_toNat, isDigit, Bool.and_eq_true, decide_eq_true_eq,
    decide_eq_true_eq]
  rfl

theorem ne_of_test {test : Char → Bool} (passes : test character = true)
    (fails : test wanted = false) : character ≠ wanted := by
  rintro rfl
  rw [passes] at fails
  cases fails

/-! ## Dates and times -/

theorem readField_rest
    (read : readField count least greatest (digits ++ '\n' :: rest) = some (found, later)) :
    later = digits.drop count ++ '\n' :: rest := by
  rw [readField] at read
  split at read
  · rename_i fits
    rw [← (Prod.mk.inj (Option.some.inj read)).2]
    refine List.drop_append_of_le_length (Nat.not_lt.1 fun short => ?_)
    have taken : '\n' ∈ (digits ++ '\n' :: rest).take count := by
      rcases Nat.exists_eq_add_of_lt short with ⟨more, same⟩
      rw [List.take_append, same, Nat.add_assoc, Nat.add_sub_cancel_left, List.take_succ_cons]
      exact List.mem_append_right _ List.mem_cons_self
    exact absurd (List.all_eq_true.1 fits.2.1 _ taken) (by decide)
  · cases read

theorem expect_digits (decimal : ∀ digit ∈ digits, isDigit digit = true)
    (other : isDigit wanted = false) (line : '\n' ≠ wanted) :
    expect wanted (digits ++ '\n' :: rest) = none := by
  cases digits with
  | nil => exact if_neg line
  | cons digit digits => exact if_neg (ne_of_test (decimal digit List.mem_cons_self) other)

/-- Nothing but digits is no date and no time. -/
theorem skipMoment_digits (decimal : ∀ digit ∈ digits, isDigit digit = true) (rest : List Char) :
    skipMoment (digits ++ '\n' :: rest) = none := by
  have dropped (count : Nat) : ∀ digit ∈ digits.drop count, isDigit digit = true :=
    fun digit member => decimal digit (List.mem_of_mem_drop member)
  have date : skipDate (digits ++ '\n' :: rest) = none := by
    rw [skipDate]
    cases read : readField 4 0 9999 (digits ++ '\n' :: rest) with
    | none => rfl
    | some result =>
        have stops : expect '-' result.2 = none := by
          rw [readField_rest read]
          exact expect_digits (dropped 4) rfl (by decide)
        simp only [bind, Option.bind, stops]
  have time : skipTime (digits ++ '\n' :: rest) = none := by
    rw [skipTime, skipHourAndMinute]
    cases read : readField 2 0 23 (digits ++ '\n' :: rest) with
    | none => rfl
    | some result =>
        have stops : expect ':' result.2 = none := by
          rw [readField_rest read]
          exact expect_digits (dropped 2) rfl (by decide)
        simp only [bind, Option.bind, stops]
  rw [skipMoment, date]
  exact time

/-! ## Integers -/

theorem moreDigits_digits (decimal : ∀ digit ∈ digits, isDigit digit = true) (rest : List Char) :
    moreDigits isDigit (digits ++ '\n' :: rest) = some (digits, '\n' :: rest) := by
  induction digits with
  | nil => rfl
  | cons digit digits induction =>
      have first := decimal digit List.mem_cons_self
      have others := induction fun other member => decimal other (List.mem_cons_of_mem _ member)
      rw [List.cons_append, moreDigits, if_pos first, others]
      · rfl
      · exact ne_of_test first rfl

private theorem hexDigit?_of_isDigit (digit : character.isDigit = true) :
    hexDigit? character = some (character.toNat - '0'.toNat) := by
  rw [← isDigit_eq, isDigit, Bool.and_eq_true, decide_eq_true_eq, decide_eq_true_eq] at digit
  exact if_pos digit

theorem valueOfDigits_toDigits (value : Nat) : valueOfDigits 10 (Nat.toDigits 10 value) = value := by
  have spelt (digits : List Char) (decimal : ∀ digit ∈ digits, digit.isDigit = true) (start : Nat) :
      digits.foldl (fun value digit => value * 10 + (hexDigit? digit).getD 0) start =
        Nat.ofDigitChars 10 digits start := by
    induction digits generalizing start with
    | nil => rfl
    | cons digit digits induction =>
        rw [List.foldl_cons, hexDigit?_of_isDigit (decimal digit List.mem_cons_self),
          Nat.ofDigitChars_cons, Nat.mul_comm 10]
        exact induction (fun other member => decimal other (List.mem_cons_of_mem _ member)) _
  rw [valueOfDigits, spelt _ (fun _ => Decimal.isDigit_of_mem), Nat.ofDigitChars_ten_toDigits]

theorem toDigits_cons (value : Nat) :
    ∃ first others, Nat.toDigits 10 value = first :: others ∧
      (∀ digit ∈ first :: others, isDigit digit = true) ∧ (first = '0' → others = []) := by
  have decimal : ∀ digit ∈ Nat.toDigits 10 value, isDigit digit = true := fun digit member =>
    (isDigit_eq digit).trans (Decimal.isDigit_of_mem member)
  rcases Nat.eq_zero_or_pos value with rfl | positive
  · exact ⟨'0', [], rfl, decimal, fun _ => rfl⟩
  · obtain ⟨first, others, same, nonzero⟩ := Decimal.head_toDigits value positive
    exact ⟨first, others, same, same ▸ decimal, fun zero => absurd zero nonzero⟩

theorem readWhole_toDigits (value : Nat) (rest : List Char) :
    readWhole (Nat.toDigits 10 value ++ '\n' :: rest) =
      some (Nat.toDigits 10 value, '\n' :: rest) := by
  obtain ⟨first, others, same, decimal, zero⟩ := toDigits_cons value
  rw [same, List.cons_append]
  by_cases front : first = '0'
  · rw [zero front, front]
    rfl
  · rw [readWhole, readDigits, if_pos (decimal first List.mem_cons_self),
      moreDigits_digits fun digit member => decimal digit (List.mem_cons_of_mem _ member)]
    · rfl
    · exact fun _ equal => front (List.cons.inj equal).1

theorem readSign_digit (digit : isDigit character = true) (rest : List Char) :
    readSign (character :: rest) = (false, character :: rest) := by
  rw [readSign]
  · exact fun _ same => ne_of_test digit rfl (List.cons.inj same).1
  · exact fun _ same => ne_of_test digit rfl (List.cons.inj same).1

theorem readDecimal_toDigits {value : Nat} (fits : value < Nat.pow 2 63) (rest : List Char) :
    readDecimal (Nat.toDigits 10 value ++ '\n' :: rest) = some (some (value : Int), '\n' :: rest) := by
  have whole := readWhole_toDigits value rest
  have unsigned : readSign (Nat.toDigits 10 value ++ '\n' :: rest) =
      (false, Nat.toDigits 10 value ++ '\n' :: rest) := by
    obtain ⟨first, others, same, decimal, -⟩ := toDigits_cons value
    rw [same]
    exact readSign_digit (decimal first List.mem_cons_self) _
  have fraction : readFraction ('\n' :: rest) = some ([], '\n' :: rest) := rfl
  have power : readPower ('\n' :: rest) = some (none, '\n' :: rest) := rfl
  rw [readDecimal, unsigned]
  simp only [whole, fraction, power, bind, Option.bind, List.isEmpty_nil, Option.isNone_none,
    Bool.and_self, if_true, integer?, Bool.false_eq_true, if_false, valueOfDigits_toDigits,
    if_pos fits]

/-- A number of up to 63 binary digits is read back from its decimal ones. -/
theorem readNumber_toDigits {value : Nat} (fits : value < Nat.pow 2 63) (rest : List Char) :
    readNumber (Nat.toDigits 10 value ++ '\n' :: rest) = some (some (value : Int), '\n' :: rest) := by
  have read := readDecimal_toDigits fits rest
  rcases toDigits_cons value with ⟨first, others, same, decimal, zero⟩
  have digit := decimal first List.mem_cons_self
  have moment := skipMoment_digits decimal rest
  have countable : readUncountable (first :: others ++ '\n' :: rest) = none := by
    rw [readUncountable, List.cons_append, readSign_digit digit]
    split
    · rename_i same
      exact absurd (List.cons.inj same).1 (ne_of_test digit rfl)
    · rename_i same
      exact absurd (List.cons.inj same).1 (ne_of_test digit rfl)
    · rfl
  -- A zero is followed by the end of the line, and not by the letter of another base.
  have based (letter : Char) (more : List Char) (other : letter ≠ '\n') :
      first :: others ++ '\n' :: rest ≠ '0' :: letter :: more := by
    intro equal
    rw [List.cons_append, zero (List.cons.inj equal).1] at equal
    exact other (List.cons.inj (List.cons.inj equal).2).1.symm
  rw [same] at read ⊢
  rw [readNumber, moment, countable]
  · exact read
  · exact fun more => based 'x' more (by decide)
  · exact fun more => based 'o' more (by decide)
  · exact fun more => based 'b' more (by decide)

end RecordGraph.Toml
