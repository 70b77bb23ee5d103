import RecordGraph.Text.Decimal
import Mathlib.Algebra.Group.Nat.Defs

namespace RecordGraph.Decimal

/-! Numbers that are written in decimal digits are read back, and decimal numbers are compared with
doubles as they should be. -/

variable {value : Nat} {digit : Char}

theorem isDigit_of_mem (member : digit ∈ Nat.toDigits 10 value) : digit.isDigit = true :=
  Nat.isDigit_of_mem_toDigits (by decide) (by decide) member

theorem head_toDigits (value : Nat) (positive : 0 < value) :
    ∃ first others, Nat.toDigits 10 value = first :: others ∧ first ≠ '0' := by
  induction value using Nat.strongRecOn with
  | ind value induction =>
      by_cases small : value < 10
      · refine ⟨value.digitChar, [], Nat.toDigits_of_lt_base small, ?_⟩
        have all : ∀ number : Fin 10, 0 < number.val → number.val.digitChar ≠ '0' := by decide
        exact all ⟨value, small⟩ positive
      · obtain ⟨first, others, digits, nonzero⟩ := induction (value / 10) (by omega) (by omega)
        refine ⟨first, others ++ [(value % 10).digitChar], ?_, nonzero⟩
        rw [Nat.toDigits_of_base_le (by decide) (by omega), digits, List.cons_append]

private theorem digit?_of_isDigit (decimal : digit.isDigit = true) :
    digit? digit = some (digit.toNat - 48) := by
  rcases Char.isDigit_iff_toNat.1 decimal with ⟨least, most⟩
  have between : '0' ≤ digit ∧ digit ≤ '9' := by
    rw [Char.le_def, Char.le_def, UInt32.le_iff_toNat_le, UInt32.le_iff_toNat_le]
    exact ⟨least, most⟩
  rw [digit?, if_pos between]
  rfl

private theorem continueFrom?_digits {digits : List Char}
    (decimal : ∀ digit ∈ digits, digit.isDigit = true) (value : Nat) :
    continueFrom? value digits = some (Nat.ofDigitChars 10 digits value) := by
  induction digits generalizing value with
  | nil => rfl
  | cons digit digits induction =>
      rw [continueFrom?, digit?_of_isDigit (decimal digit List.mem_cons_self)]
      rw [Nat.ofDigitChars_cons, Nat.mul_comm 10]
      exact induction (fun other member => decimal other (List.mem_cons_of_mem _ member)) _

private theorem natural?_toDigits (value : Nat) : natural? (Nat.toDigits 10 value) = some value := by
  have decimal : ∀ digit ∈ Nat.toDigits 10 value, digit.isDigit = true := fun _ => isDigit_of_mem
  have spelt := continueFrom?_digits decimal 0
  rw [Nat.ofDigitChars_ten_toDigits] at spelt
  rw [natural?, spelt]
  exact Nat.toDigits_ne_nil

theorem word?_toString (value : UInt64) : word? (toString value.toNat) = some value := by
  have spelt := natural?_toDigits value.toNat
  have unsigned (rest : List Char) : Nat.toDigits 10 value.toNat ≠ '+' :: rest := by
    intro signed
    have decimal : '+'.isDigit = true := isDigit_of_mem (signed ▸ List.mem_cons_self)
    cases decimal
  rw [word?, Nat.toString_eq_ofList_toDigits, String.toList_ofList]
  split
  · rename_i rest signed
    exact absurd signed (unsigned rest)
  · simp only [spelt, bind, Option.bind, if_pos value.toNat_lt_size, UInt64.ofNat_toNat]

/-! ## Doubles -/

/-- The least number beyond the doubles has `309` digits. -/
private theorem pow_lt_beyondDouble {digits : Nat} (few : digits ≤ 308) :
    10 ^ digits < beyondDouble :=
  calc 10 ^ digits
      ≤ 10 ^ (4 * 77) := Nat.pow_le_pow_right (by decide) few
    _ = (10 ^ 4) ^ 77 := Nat.pow_mul ..
    _ < beyondDouble := by decide +kernel

private theorem beyondDouble_le_pow {digits : Nat} (many : 309 ≤ digits) :
    beyondDouble ≤ 10 ^ digits :=
  calc beyondDouble
      ≤ (10 ^ 3) ^ 103 := by decide +kernel
    _ ≤ (10 ^ 3) ^ (digits / 3) := Nat.pow_le_pow_right (by decide) (by omega)
    _ = 10 ^ (3 * (digits / 3)) := (Nat.pow_mul ..).symm
    _ ≤ 10 ^ digits := Nat.pow_le_pow_right (by decide) (Nat.mul_div_le digits 3)

private theorem lt_beyondDouble {length : Nat} {power : Int} (short : value < 10 ^ length)
    (few : length + power ≤ 308) :
    value * 10 ^ power.toNat < beyondDouble * 10 ^ (-power).toNat := by
  have moved : length + power.toNat ≤ length + power.toNat - (-power).toNat + (-power).toNat := by
    omega
  have small := pow_lt_beyondDouble (show length + power.toNat - (-power).toNat ≤ 308 by omega)
  calc value * 10 ^ power.toNat
      ≤ 10 ^ length * 10 ^ power.toNat := Nat.mul_le_mul_right _ (Nat.le_of_lt short)
    _ = 10 ^ (length + power.toNat) := (Nat.pow_add ..).symm
    _ ≤ 10 ^ (length + power.toNat - (-power).toNat + (-power).toNat) :=
        Nat.pow_le_pow_right (by decide) moved
    _ = 10 ^ (length + power.toNat - (-power).toNat) * 10 ^ (-power).toNat := Nat.pow_add ..
    _ < beyondDouble * 10 ^ (-power).toNat :=
        Nat.mul_lt_mul_of_pos_right small (Nat.pow_pos (by decide))

/-- Only as many digits are looked at as are needed, and still the comparison is exact. -/
theorem exceedsDouble_iff {length : Nat} {power : Int} (short : value < 10 ^ length) :
    exceedsDouble length value power = true ↔
      beyondDouble * 10 ^ (-power).toNat ≤ value * 10 ^ power.toNat := by
  have positive : 0 < beyondDouble := Nat.lt_trans Nat.one_pos (pow_lt_beyondDouble (Nat.zero_le _))
  rw [exceedsDouble]
  split
  · rename_i few
    exact iff_of_false Bool.false_ne_true (Nat.not_le.2 (lt_beyondDouble short few))
  split
  · rename_i zero
    refine iff_of_false Bool.false_ne_true (Nat.not_le.2 ?_)
    rw [zero, Nat.zero_mul]
    exact Nat.mul_pos positive (Nat.pow_pos (by decide))
  split
  · rename_i nonzero large
    have up : 309 ≤ power.toNat := by omega
    have none : (-power).toNat = 0 := by omega
    refine iff_of_true rfl ?_
    calc beyondDouble * 10 ^ (-power).toNat
        = beyondDouble := by rw [none, Nat.pow_zero, Nat.mul_one]
      _ ≤ 10 ^ power.toNat := beyondDouble_le_pow up
      _ ≤ value * 10 ^ power.toNat := Nat.le_mul_of_pos_left _ (Nat.pos_of_ne_zero nonzero)
  split
  · rename_i up
    have none : (-power).toNat = 0 := by omega
    rw [decide_eq_true_iff, none, Nat.pow_zero, Nat.mul_one]
    exact Iff.rfl
  · rename_i down
    have none : power.toNat = 0 := by omega
    have same : (-power).toNat = power.natAbs := by omega
    rw [decide_eq_true_iff, none, same, Nat.pow_zero, Nat.mul_one]
    exact Nat.le_div_iff_mul_le (Nat.pow_pos (by decide))

/-- The double next to a number is a multiple of the unit that its size allows, at most half a unit
away; between two it is the one with an even number of units. -/
theorem nearestDouble_near (value : Nat) :
    let unit := 2 ^ (value.log2 + 1 - 53)
    unit ∣ nearestDouble value ∧ 2 * nearestDouble value ≤ 2 * value + unit ∧
      2 * value ≤ 2 * nearestDouble value + unit ∧
      (2 * (value % unit) = unit → 2 * unit ∣ nearestDouble value) := by
  intro unit
  have parts := Nat.div_add_mod value unit
  have less : value % unit < unit := Nat.mod_lt value (Nat.pow_pos (by decide))
  have rounded : nearestDouble value =
      if unit < 2 * (value % unit) ∨ (unit = 2 * (value % unit) ∧ value / unit % 2 = 1) then
        (value / unit + 1) * unit
      else value / unit * unit := rfl
  have even {units : Nat} (twice : units % 2 = 0) : 2 * unit ∣ units * unit :=
    Nat.mul_dvd_mul_right (Nat.dvd_of_mod_eq_zero twice) unit
  rw [rounded]
  rw [Nat.mul_comm] at parts
  split
  · refine ⟨Nat.dvd_mul_left .., ?_, ?_, fun tie => even (by omega)⟩
    all_goals
      rw [Nat.add_one_mul (value / unit)]
      omega
  · exact ⟨Nat.dvd_mul_left .., by omega, by omega, fun tie => even (by omega)⟩

/-- As many digits are taken as fit into a word. -/
theorem fillWord_longest (value : Nat) (digits : List Nat) :
    ∃ taken, digits = taken ++ (fillWord value digits).2 ∧
      (fillWord value digits).1 = taken.foldl (fun number digit => number * 10 + digit) value ∧
      ∀ digit rest, (fillWord value digits).2 = digit :: rest →
        UInt64.size ≤ (fillWord value digits).1 * 10 + digit := by
  induction digits generalizing value with
  | nil => exact ⟨[], rfl, rfl, fun digit rest more => by cases more⟩
  | cons digit digits induction =>
      rw [fillWord]
      split
      · rcases induction (value * 10 + digit) with ⟨taken, parts, number, full⟩
        exact ⟨digit :: taken, congrArg (digit :: ·) parts, number, full⟩
      · rename_i full
        refine ⟨[], rfl, rfl, ?_⟩
        rintro other rest ⟨⟩
        exact Nat.not_lt.1 full

theorem fillWord_lt {digits : List Nat} (small : value < UInt64.size) :
    (fillWord value digits).1 < UInt64.size := by
  induction digits generalizing value with
  | nil => exact small
  | cons digit digits induction =>
      rw [fillWord]
      split
      · rename_i fits
        exact induction fits
      · exact small

end RecordGraph.Decimal
