namespace RecordGraph.Url.Punycode

/-! Names in ASCII letters, digits and hyphens for names in other letters. The ASCII characters
come first. Then numbers follow, one for each other character: they count through all places of
the text for one code point after another, and say how far on the next insertion is. -/

/-! ## Digits -/

def limit : Nat := Nat.pow 2 32

/-- The value of a digit. Letters come before decimal digits. -/
def digitValue? (character : Char) : Option Nat :=
  if 'a' ≤ character ∧ character ≤ 'z' then some (character.toNat - 'a'.toNat)
  else if 'A' ≤ character ∧ character ≤ 'Z' then some (character.toNat - 'A'.toNat)
  else if '0' ≤ character ∧ character ≤ '9' then some (character.toNat - '0'.toNat + 26)
  else none

def digit (value : Nat) : Char :=
  if value < 26 then Char.ofNat ('a'.toNat + value) else Char.ofNat ('0'.toNat + (value - 26))

theorem digitValue?_digit {value : Nat} (small : value < 36) :
    digitValue? (digit value) = some value := by
  have all : ∀ number : Fin 36, digitValue? (digit number.val) = some number.val := by decide
  exact all ⟨value, small⟩

/-- The least value of a digit that is not the last one of its number. It depends on the place of
the digit, `36` for the first one, `72` for the second and so on. -/
def threshold (place bias : Nat) : Nat :=
  if place ≤ bias then 1 else if bias + 26 ≤ place then 26 else place - bias

theorem threshold_pos (place bias : Nat) : 0 < threshold place bias := by
  unfold threshold
  split
  · omega
  · split <;> omega

def reduceDistance (distance added : Nat) : Nat × Nat :=
  if 455 < distance then reduceDistance (distance / 35) (added + 36) else (distance, added)
termination_by distance
decreasing_by omega

/-- The bias after a number: close to the places that the numbers after it are likely to have. The
first number of a text is often much greater than those after it. -/
def nextBias (distance count : Nat) (isFirst : Bool) : Nat :=
  let damped := if isFirst then distance / 700 else distance / 2
  let (left, added) := reduceDistance (damped + damped / count) 0
  added + 36 * left / (left + 38)

def firstCode : Nat := 0x80
def firstBias : Nat := 72

/-! ## Reading -/

structure Reading where
  text : List Char
  code : Nat := firstCode
  /-- Where the last insertion ended. -/
  spot : Nat := 0
  bias : Nat := firstBias
  /-- The number that is being read, added to the spot where it started. -/
  total : Nat := 0
  place : Nat := 36
  weight : Nat := 1

def Reading.insert? (reading : Reading) : Option Reading :=
  let count := reading.text.length + 1
  let code := reading.code + reading.total / count
  let spot := reading.total % count
  if limit ≤ code ∨ ¬ code.isValidChar then none
  else some {
    text := reading.text.take spot ++ Char.ofNat code :: reading.text.drop spot
    code
    spot := spot + 1
    bias := nextBias (reading.total - reading.spot) count (reading.spot = 0)
    total := spot + 1 }

def Reading.step? (reading : Reading) (character : Char) : Option Reading := do
  let value ← digitValue? character
  let least := threshold reading.place reading.bias
  let total := reading.total + value * reading.weight
  let weight := reading.weight * (36 - least)
  if limit ≤ total then none
  else if value < least then Reading.insert? { reading with total }
  else if limit ≤ weight then none
  else some { reading with total, weight, place := reading.place + 36 }

/-- The text that a name in ASCII stands for, if it stands for one. The last hyphen ends the
characters that are in ASCII, unless the name begins with it. -/
def decode? (name : List Char) : Option (List Char) := do
  let digits := (name.reverse.takeWhile (· ≠ '-')).reverse
  let plain := (name.take (name.length - digits.length)).dropLast
  let reading ← (if plain.isEmpty then name else digits).foldlM Reading.step? { text := plain }
  if reading.place = 36 then some reading.text else none

/-! ## Writing -/

def number (bias place value : Nat) : List Char :=
  let least := threshold place bias
  if value < least then [digit value]
  else
    digit (least + (value - least) % (36 - least)) ::
      number bias (place + 36) ((value - least) / (36 - least))
termination_by value
decreasing_by
  have := threshold_pos place bias
  exact Nat.lt_of_le_of_lt (Nat.div_le_self _ _) (by omega)

structure Writing where
  digits : List Char := []
  bias : Nat := firstBias
  /-- How many characters are there already. -/
  count : Nat
  /-- How far it is from the last insertion. -/
  distance : Nat := 0

def Writing.pass (plain code : Nat) (writing : Writing) (character : Char) : Writing :=
  if character.toNat < code then { writing with distance := writing.distance + 1 }
  else if character.toNat = code then {
    digits := writing.digits ++ number writing.bias 36 writing.distance
    bias := nextBias writing.distance (writing.count + 1) (writing.count = plain)
    count := writing.count + 1 }
  else writing

def insertCode (code : Nat) : List Nat → List Nat
  | [] => [code]
  | next :: rest =>
      if code < next then code :: next :: rest
      else if code = next then next :: rest
      else next :: insertCode code rest

def codesBeyond (text : List Char) : List Nat :=
  ((text.map Char.toNat).filter (firstCode ≤ ·)).foldr insertCode []

/-- Goes through the whole text for one code point, after counting past those that it does not have
any more. The number goes with the first code point that has not been counted. -/
def Writing.insertAll (text : List Char) (plain : Nat) (state : Writing × Nat) (code : Nat) :
    Writing × Nat :=
  let (writing, reached) := state
  let distance := writing.distance + (code - reached) * (writing.count + 1)
  let after := text.foldl (Writing.pass plain code) { writing with distance }
  ({ after with distance := after.distance + 1 }, code + 1)

def encode (text : List Char) : List Char :=
  let plain := text.filter (·.toNat < firstCode)
  let (writing, _) := (codesBeyond text).foldl (Writing.insertAll text plain.length)
    ({ count := plain.length }, firstCode)
  (if plain.isEmpty then [] else plain ++ ['-']) ++ writing.digits

end RecordGraph.Url.Punycode
