namespace RecordGraph

/-! Byte strings, and texts as byte strings. -/

abbrev Bytes := List UInt8

namespace Utf8

/-! ## Strict coding -/

def encode (text : String) : Bytes := text.toUTF8.data.toList

def decode? (bytes : Bytes) : Option String := String.fromUTF8? ⟨bytes.toArray⟩

theorem decode?_encode (text : String) : decode? (encode text) = some text := by
  have valid : ByteArray.IsValidUTF8 text.toUTF8 := text.isValidUTF8
  simp only [decode?, encode, Array.toArray_toList, String.fromUTF8?]
  exact dif_pos valid

/-! ## Forgiving coding

Bytes that spell no character are replaced by U+FFFD. A character that breaks off early is
replaced as a whole, and the byte that broke it off is read again as the start of the next. -/

/-- A character that has begun: what its bytes so far say, how many more it needs, and the least
and the greatest byte that may come next. -/
structure Begun where
  soFar : Nat
  owed : Nat
  least : UInt8
  greatest : UInt8
  deriving DecidableEq

def replacement : Char := '\uFFFD'

def start (byte : UInt8) : List Char × Option Begun :=
  if byte < 0x80 then ([Char.ofNat byte.toNat], none)
  else if 0xC2 ≤ byte ∧ byte ≤ 0xDF then ([], some ⟨byte.toNat - 0xC0, 1, 0x80, 0xBF⟩)
  else if byte = 0xE0 then ([], some ⟨0, 2, 0xA0, 0xBF⟩)
  else if byte = 0xED then ([], some ⟨0xD, 2, 0x80, 0x9F⟩)
  else if 0xE1 ≤ byte ∧ byte ≤ 0xEF then ([], some ⟨byte.toNat - 0xE0, 2, 0x80, 0xBF⟩)
  else if byte = 0xF0 then ([], some ⟨0, 3, 0x90, 0xBF⟩)
  else if byte = 0xF4 then ([], some ⟨4, 3, 0x80, 0x8F⟩)
  else if 0xF1 ≤ byte ∧ byte ≤ 0xF3 then ([], some ⟨byte.toNat - 0xF0, 3, 0x80, 0xBF⟩)
  else ([replacement], none)

def step : Option Begun → UInt8 → List Char × Option Begun
  | none, byte => start byte
  | some begun, byte =>
      if begun.least ≤ byte ∧ byte ≤ begun.greatest then
        let value := begun.soFar * 64 + (byte.toNat - 0x80)
        if begun.owed = 1 then ([Char.ofNat value], none)
        else ([], some ⟨value, begun.owed - 1, 0x80, 0xBF⟩)
      else
        let (next, state) := start byte
        (replacement :: next, state)

def charsFrom : Option Begun → Bytes → List Char
  | none, [] => []
  | some _, [] => [replacement]
  | state, byte :: rest =>
      let (found, next) := step state byte
      found ++ charsFrom next rest

def decodeLossy (bytes : Bytes) : String := String.ofList (charsFrom none bytes)

example : decodeLossy [0xFF, 0xE2, 0x82, 0x61] = "\uFFFD\uFFFDa" := by decide

end Utf8

end RecordGraph
