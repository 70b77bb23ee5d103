import RecordGraph.Text.Pieces

namespace RecordGraph.Text

/-! Tables of character properties: what a standard says of many characters, row by row.

In writing a row is a word. `A-F` holds the code points from `A` to `F`, `A-F/2` every second one
of them, and `A` is `A-A`. After `=` stand the values that all of the row have; after `+` stand
the values of its first code point, and they grow with the code points. All numbers are
hexadecimal. A row may run over code points that nobody asks about, so that a table has few rows. -/

/-- Some code points, evenly spaced, and the values that they have. -/
structure TableRow where
  first : Nat
  last : Nat
  /-- From one code point of the row to the next. -/
  step : Nat
  /-- The values of the first code point. -/
  values : List Nat
  /-- The values grow with the code points. -/
  growing : Bool
  deriving DecidableEq, Repr

namespace TableRow

def holds (row : TableRow) (code : Nat) : Bool :=
  row.first ≤ code && code ≤ row.last && (code - row.first) % row.step == 0

def valuesAt (row : TableRow) (code : Nat) : List Nat :=
  if row.growing then row.values.map (· + (code - row.first)) else row.values

end TableRow

/-- Rows in some order. The first one that holds a code point counts. -/
structure Table where
  rows : List TableRow

namespace Table

/-! ## In writing -/

def digitOf (character : Char) : Nat :=
  if character ≤ '9' then character.toNat - '0'.toNat else character.toNat - 'A'.toNat + 10

def numberOf (digits : List Char) : Nat :=
  digits.foldl (fun value digit => value * 16 + digitOf digit) 0

def numbersOf (text : List Char) : List Nat :=
  if text.isEmpty then [] else (pieces ',' text).map numberOf

def rowOf (word : List Char) : TableRow :=
  let codes := word.takeWhile fun character => character != '=' && character != '+'
  let values := word.drop codes.length
  let (range, step) := match pieces '/' codes with
    | [range, step] => (range, numberOf step)
    | _ => (codes, 1)
  let (first, last) := match pieces '-' range with
    | [first, last] => (numberOf first, numberOf last)
    | _ => (numberOf range, numberOf range)
  { first, last, step, values := numbersOf (values.drop 1), growing := values.head? = some '+' }

def ofText (text : String) : Table :=
  let words := (text.toList.map fun character => if character = '\n' then ' ' else character)
  ⟨((pieces ' ' words).filter (!·.isEmpty)).map rowOf⟩

/-! ## Look-up -/

def row? (table : Table) (code : Nat) : Option TableRow := table.rows.find? (·.holds code)

def contains (table : Table) (code : Nat) : Bool := (table.row? code).isSome

def values? (table : Table) (code : Nat) : Option (List Nat) :=
  (table.row? code).map (·.valuesAt code)

example : (ofText "100-104/2+101").values? 0x102 = some [0x103] := by decide
example : (ofText "100-104/2+101").values? 0x101 = none := by decide

end Table

end RecordGraph.Text
