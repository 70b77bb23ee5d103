import RecordGraph.Text.Decimal
import RecordGraph.Toml.Text

namespace RecordGraph.Toml

/-! Numbers, dates and times of a TOML document. Only integers have a meaning here; everything else
is checked and passed over. -/

/-! ## Digits -/

def isDigit (character : Char) : Bool := '0' ≤ character && character ≤ '9'

def moreDigits (isDigit : Char → Bool) : List Char → Option (List Char × List Char)
  | [] => some ([], [])
  | '_' :: rest => match rest with
      | [] => none
      | digit :: rest =>
          if isDigit digit then do
            let (digits, rest) ← moreDigits isDigit rest
            some (digit :: digits, rest)
          else none
  | digit :: rest =>
      if isDigit digit then do
        let (digits, rest) ← moreDigits isDigit rest
        some (digit :: digits, rest)
      else some ([], digit :: rest)

def readDigits (isDigit : Char → Bool) : List Char → Option (List Char × List Char)
  | [] => none
  | digit :: rest =>
      if isDigit digit then do
        let (digits, rest) ← moreDigits isDigit rest
        some (digit :: digits, rest)
      else none

def valueOfDigits (base : Nat) (digits : List Char) : Nat :=
  digits.foldl (fun value digit => value * base + (hexDigit? digit).getD 0) 0

/-! ## Integers and fractions -/

def readSign : List Char → Bool × List Char
  | '-' :: rest => (true, rest)
  | '+' :: rest => (false, rest)
  | input => (false, input)

def readWhole : List Char → Option (List Char × List Char)
  | '0' :: rest => some (['0'], rest)
  | input => readDigits isDigit input

def readFraction : List Char → Option (List Char × List Char)
  | '.' :: rest => readDigits isDigit rest
  | input => some ([], input)

def readPower : List Char → Option (Option Int × List Char)
  | 'e' :: rest | 'E' :: rest => do
      let (negative, rest) := readSign rest
      let (digits, rest) ← readDigits isDigit rest
      let size : Int := valueOfDigits 10 digits
      some (some (if negative then -size else size), rest)
  | input => some (none, input)

def integer? (negative : Bool) (size : Nat) : Option Int :=
  if negative then if size ≤ Nat.pow 2 63 then some (-size) else none
  else if size < Nat.pow 2 63 then some size else none

def readBased (base : Nat) (input : List Char) : Option (Option Int × List Char) := do
  let fits (character : Char) : Bool := (hexDigit? character).any (decide <| · < base)
  let (digits, rest) ← readDigits fits input
  some (some (← integer? false (valueOfDigits base digits)), rest)

def readDecimal (input : List Char) : Option (Option Int × List Char) := do
  let (negative, rest) := readSign input
  let (whole, rest) ← readWhole rest
  let (fraction, rest) ← readFraction rest
  let (power, rest) ← readPower rest
  if fraction.isEmpty && power.isNone then
    some (some (← integer? negative (valueOfDigits 10 whole)), rest)
  else
    let digits := whole ++ fraction
    let tooLarge := Decimal.exceedsDouble digits.length (valueOfDigits 10 digits)
      (power.getD 0 - fraction.length)
    if !negative && tooLarge then none else some (none, rest)

def readUncountable (input : List Char) : Option (List Char) :=
  match (readSign input).2 with
  | 'i' :: 'n' :: 'f' :: rest => some rest
  | 'n' :: 'a' :: 'n' :: rest => some rest
  | _ => none

/-! ## Dates and times -/

def readField (count least greatest : Nat) (input : List Char) : Option (Nat × List Char) :=
  let digits := input.take count
  let value := valueOfDigits 10 digits
  if digits.length = count ∧ digits.all isDigit ∧ least ≤ value ∧ value ≤ greatest then
    some (value, input.drop count)
  else none

def expect (wanted : Char) : List Char → Option (List Char)
  | [] => none
  | character :: rest => if character = wanted then some rest else none

def daysIn (year month : Nat) : Nat :=
  if month = 2 then
    if year % 4 = 0 ∧ (year % 100 ≠ 0 ∨ year % 400 = 0) then 29 else 28
  else if month = 4 ∨ month = 6 ∨ month = 9 ∨ month = 11 then 30
  else 31

def skipDate (input : List Char) : Option (List Char) := do
  let (year, rest) ← readField 4 0 9999 input
  let (month, rest) ← readField 2 1 12 (← expect '-' rest)
  let (_, rest) ← readField 2 1 (daysIn year month) (← expect '-' rest)
  some rest

def skipHourAndMinute (input : List Char) : Option (List Char) := do
  let (_, rest) ← readField 2 0 23 input
  let (_, rest) ← readField 2 0 59 (← expect ':' rest)
  some rest

def skipTime (input : List Char) : Option (List Char) := do
  let rest ← skipHourAndMinute input
  let (_, rest) ← readField 2 0 60 (← expect ':' rest)
  match rest with
  | '.' :: digit :: others =>
      if isDigit digit then some (others.dropWhile isDigit) else some rest
  | _ => some rest

def skipOffset (input : List Char) : List Char :=
  match input with
  | 'Z' :: rest | 'z' :: rest => rest
  | '+' :: rest | '-' :: rest => (skipHourAndMinute rest).getD input
  | _ => input

def skipMoment (input : List Char) : Option (List Char) :=
  match skipDate input with
  | some rest =>
      let time := match rest with
        | 'T' :: later | 't' :: later | ' ' :: later => skipTime later
        | _ => none
      match time with
      | some later => some (skipOffset later)
      | none => some rest
  | none => skipTime input

/-! ## Together -/

/-- A number or a moment: its value if it is an integer, and the rest. -/
def readNumber (input : List Char) : Option (Option Int × List Char) :=
  match skipMoment input with
  | some rest => some (none, rest)
  | none => match input with
      | '0' :: 'x' :: rest => readBased 16 rest
      | '0' :: 'o' :: rest => readBased 8 rest
      | '0' :: 'b' :: rest => readBased 2 rest
      | _ => match readUncountable input with
          | some rest => some (none, rest)
          | none => readDecimal input

example : readNumber ['0', '7', ':', '3', '2', ':', '0', '0'] = some (none, []) := by decide
example : readNumber ['2', '0', '2', '3', '-', '0', '2', '-', '2', '9'] =
    some (some 2023, ['-', '0', '2', '-', '2', '9']) := by decide

end RecordGraph.Toml
