import RecordGraph.Text.Utf8

namespace RecordGraph

/-! Byte strings in sixty-four letters: three bytes make four letters, and the last group is
filled up with `=`. Every byte string has exactly one such spelling. -/

namespace Base64

def letter (value : Nat) : Char :=
  if value < 26 then Char.ofNat ('A'.toNat + value)
  else if value < 52 then Char.ofNat ('a'.toNat + (value - 26))
  else if value < 62 then Char.ofNat ('0'.toNat + (value - 52))
  else if value = 62 then '+'
  else '/'

def value? (character : Char) : Option Nat :=
  if 'A' ≤ character ∧ character ≤ 'Z' then some (character.toNat - 'A'.toNat)
  else if 'a' ≤ character ∧ character ≤ 'z' then some (character.toNat - 'a'.toNat + 26)
  else if '0' ≤ character ∧ character ≤ '9' then some (character.toNat - '0'.toNat + 52)
  else if character = '+' then some 62
  else if character = '/' then some 63
  else none

theorem value?_letter {value : Nat} (small : value < 64) : value? (letter value) = some value := by
  have all : ∀ number : Fin 64, value? (letter number) = some number.val := by decide
  exact all ⟨value, small⟩

def encode : Bytes → List Char
  | [] => []
  | [first] =>
      let bits := first.toNat
      [letter (bits / 4), letter (bits % 4 * 16), '=', '=']
  | [first, second] =>
      let bits := first.toNat * 256 + second.toNat
      [letter (bits / 1024), letter (bits / 16 % 64), letter (bits % 16 * 4), '=']
  | first :: second :: third :: rest =>
      let bits := (first.toNat * 256 + second.toNat) * 256 + third.toNat
      letter (bits / 262144) :: letter (bits / 4096 % 64) :: letter (bits / 64 % 64) ::
        letter (bits % 64) :: encode rest

/-- The byte string of letters. Other characters, missing or superfluous `=`, and bits left over
that are not zero are refused. -/
def decode? : List Char → Option Bytes
  | [] => some []
  | [first, second, '=', '='] => do
      let bits := (← value? first) * 64 + (← value? second)
      if bits % 16 = 0 then some [UInt8.ofNat (bits / 16)] else none
  | [first, second, third, '='] => do
      let bits := ((← value? first) * 64 + (← value? second)) * 64 + (← value? third)
      if bits % 4 = 0 then some [UInt8.ofNat (bits / 1024), UInt8.ofNat (bits / 4)] else none
  | first :: second :: third :: fourth :: rest => do
      let bits := (((← value? first) * 64 + (← value? second)) * 64 + (← value? third)) * 64 +
        (← value? fourth)
      let others ← decode? rest
      some (UInt8.ofNat (bits / 65536) :: UInt8.ofNat (bits / 256) :: UInt8.ofNat bits :: others)
  | _ => none

example : decode? ['/', 'w', '=', '='] = some [255] := by decide
example : decode? ['/', 'x', '=', '='] = none := by decide

end Base64

end RecordGraph
