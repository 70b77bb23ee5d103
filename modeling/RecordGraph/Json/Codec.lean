import RecordGraph.Base64
import RecordGraph.Json.Passage

namespace RecordGraph.Json

/-! Forms of values: how values of a type are written as JSON and read back. Written texts have no
blanks. -/

structure Codec (Value : Type) where
  read : Reader Value
  write : Value → Bytes

/-! ## Writing -/

def ascii (text : String) : Bytes := Utf8.encode text

def hexDigit (value : UInt8) : UInt8 := if value < 10 then 0x30 + value else 0x61 + (value - 10)

def writeByte (byte : UInt8) : Bytes :=
  if byte = 0x22 then [0x5C, 0x22]
  else if byte = 0x5C then [0x5C, 0x5C]
  else if 0x20 ≤ byte then [byte]
  else if byte = 0x08 then [0x5C, 0x62]
  else if byte = 0x0C then [0x5C, 0x66]
  else if byte = 0x0A then [0x5C, 0x6E]
  else if byte = 0x0D then [0x5C, 0x72]
  else if byte = 0x09 then [0x5C, 0x74]
  else [0x5C, 0x75, 0x30, 0x30, hexDigit (byte / 16), hexDigit (byte % 16)]

def writeString (text : String) : Bytes :=
  0x22 :: (Utf8.encode text).flatMap writeByte ++ [0x22]

def writeNatural (value : Nat) : Bytes :=
  (Nat.toDigits 10 value).map fun digit => UInt8.ofNat digit.toNat

def separated : List Bytes → Bytes
  | [] => []
  | [part] => part
  | part :: parts => part ++ 0x2C :: separated parts

def writeElements (parts : List Bytes) : Bytes := 0x5B :: separated parts ++ [0x5D]

def writeMembers (parts : List (String × Bytes)) : Bytes :=
  0x7B :: separated (parts.map fun (name, part) => writeString name ++ 0x3A :: part) ++ [0x7D]

/-! ## Simple forms -/

namespace Codec

def text : Codec String := ⟨readString, writeString⟩

def word : Codec UInt64 := ⟨readWord, fun value => writeNatural value.toNat⟩

def option {Value : Type} (item : Codec Value) : Codec (Option Value) where
  read := readOption item.read
  write
    | none => [0x6E, 0x75, 0x6C, 0x6C]
    | some value => item.write value

def list {Value : Type} (item : Codec Value) : Codec (List Value) where
  read := readList item.read
  write values := writeElements (values.map item.write)

/-- Values that are written like values of another type, which must be acceptable. -/
def imap {Value Shown : Type} (form : Codec Shown) (show_ : Value → Shown)
    (accept : Shown → Option Value) : Codec Value where
  read := fun setting input => do
    let (shown, rest) ← form.read setting input
    match accept shown with
    | some value => .ok (value, rest)
    | none => .error .mismatched
  write value := form.write (show_ value)

def bytes : Codec Bytes :=
  text.imap (fun value => String.ofList (Base64.encode value)) fun letters =>
    Base64.decode? letters.toList

/-! ## Reading a whole text -/

def parse {Value : Type} (codec : Codec Value) (input : Bytes) : Except Flaw Value := do
  let (value, rest) ← codec.read .outset input
  if (skipBlanks rest).isEmpty then .ok value else .error .malformed

def parseFront {Value : Type} (codec : Codec Value) (input : Bytes) : Except Flaw Value :=
  (codec.read .outset input).map (·.1)

/-- The value of a text that an earlier pass has kept. Its only flaw can be its form. -/
def parseKept {Value : Type} (codec : Codec Value) (input : Bytes) : Except Flaw Value :=
  match codec.read ⟨input.length, true⟩ input with
  | .ok (value, rest) => if (skipBlanks rest).isEmpty then .ok value else .error .mismatched
  | .error _ => .error .mismatched

example : text.parse (ascii "\"a") = .error .unfinished := by rfl
example : word.parse (ascii "-0") = .error .mismatched := by rfl

end Codec

end RecordGraph.Json
