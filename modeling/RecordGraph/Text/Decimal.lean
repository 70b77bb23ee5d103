namespace RecordGraph

/-! Natural numbers in decimal digits, and which decimal numbers are too large for a double. -/

namespace Decimal

def digit? (character : Char) : Option Nat :=
  if '0' ≤ character ∧ character ≤ '9' then some (character.toNat - '0'.toNat) else none

def continueFrom? : Nat → List Char → Option Nat
  | value, [] => some value
  | value, character :: rest => do continueFrom? (value * 10 + (← digit? character)) rest

def natural? : List Char → Option Nat
  | [] => none
  | digits => continueFrom? 0 digits

def word? (text : String) : Option UInt64 := do
  let digits := match text.toList with
    | '+' :: rest => rest
    | all => all
  let value ← natural? digits
  if value < UInt64.size then some (UInt64.ofNat value) else none

example : word? "+007" = some 7 := by decide

/-! ## The largest doubles -/

/-- The least number that rounds to no finite double. -/
def beyondDouble : Nat := Nat.pow 2 1024 - Nat.pow 2 970

/-- Whether `value`, which has `length` digits, times ten to the `power` is too large for a double.
With at most `308` digits before its point a number always fits. -/
def exceedsDouble (length value : Nat) (power : Int) : Bool :=
  if length + power ≤ 308 then false
  else if value = 0 then false
  else if 308 < power then true
  else if 0 ≤ power then beyondDouble ≤ value * Nat.pow 10 power.toNat
  else beyondDouble ≤ value / Nat.pow 10 power.natAbs

/-! ## Products of doubles

Where a decimal number is computed as the product of a double and a power of ten, its two factors
are rounded before the product is. -/

/-- The double next to a number, as long as it has one; of two, the even one. A double has `53`
binary digits before its trailing zeros. -/
def nearestDouble (value : Nat) : Nat :=
  let unit := Nat.pow 2 (value.log2 + 1 - 53)
  let below := value / unit
  let rest := value % unit
  if unit < 2 * rest ∨ (unit = 2 * rest ∧ below % 2 = 1) then (below + 1) * unit else below * unit

/-- Whether the double next to `value`, times the double next to ten to the `power`, is too large
for a double. No power of ten beyond `308` is a double. -/
def productExceedsDouble (value : Nat) (power : Int) : Bool :=
  if value = 0 || power < 0 then false
  else if 308 < power then true
  else beyondDouble ≤ nearestDouble value * nearestDouble (Nat.pow 10 power.toNat)

example : productExceedsDouble 17976931348623158 292 = true := by decide +kernel

def fillWord : (value : Nat) → List Nat → Nat × List Nat
  | value, [] => (value, [])
  | value, digit :: rest =>
      if value * 10 + digit < UInt64.size then fillWord (value * 10 + digit) rest
      else (value, digit :: rest)

end Decimal

end RecordGraph
