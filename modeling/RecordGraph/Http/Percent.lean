import RecordGraph.Text.Pieces
import RecordGraph.Text.Utf8

namespace RecordGraph.Http

/-! Bytes as percent signs with two hexadecimal digits, in paths and in queries. -/

def hexValue? (byte : UInt8) : Option UInt8 :=
  if 0x30 ≤ byte ∧ byte ≤ 0x39 then some (byte - 0x30)
  else if 0x41 ≤ byte ∧ byte ≤ 0x46 then some (byte - 0x41 + 10)
  else if 0x61 ≤ byte ∧ byte ≤ 0x66 then some (byte - 0x61 + 10)
  else none

def hexDigit (value : UInt8) : UInt8 := if value < 10 then 0x30 + value else 0x41 + (value - 10)

/-- The bytes that are meant. A percent sign without two digits stands for itself. -/
def percentDecode : Bytes → Bytes
  | 0x25 :: first :: second :: rest =>
      match hexValue? first, hexValue? second with
      | some high, some low => (high * 16 + low) :: percentDecode rest
      | _, _ => 0x25 :: percentDecode (first :: second :: rest)
  | byte :: rest => byte :: percentDecode rest
  | [] => []

def percentByte (byte : UInt8) : Bytes := [0x25, hexDigit (byte / 16), hexDigit (byte % 16)]

def percentEncode (plain : UInt8 → Bool) (bytes : Bytes) : Bytes :=
  bytes.flatMap fun byte => if plain byte then [byte] else percentByte byte

theorem hexValue?_hexDigit {value : UInt8} (small : value < 16) :
    hexValue? (hexDigit value) = some value := by
  have all : ∀ number : Fin 16,
      hexValue? (hexDigit (UInt8.ofNat number.val)) = some (UInt8.ofNat number.val) := by decide
  have bound : value.toNat < 16 := by simpa [UInt8.lt_iff_toNat_lt] using small
  simpa using all ⟨value.toNat, bound⟩

/-! ## Parts of a path -/

def isPlainInPath (byte : UInt8) : Bool :=
  0x20 < byte && byte < 0x7F &&
    !([0x22, 0x23, 0x25, 0x2F, 0x3C, 0x3E, 0x3F, 0x5C, 0x5E, 0x60, 0x7B, 0x7D].contains byte)

def decodePart? (part : String) : Option String := Utf8.decode? (percentDecode (Utf8.encode part))

def encodePart (text : String) : String :=
  Utf8.decodeLossy (percentEncode isPlainInPath (Utf8.encode text))

/-! ## Queries -/

def isPlainInQuery (byte : UInt8) : Bool :=
  (0x30 ≤ byte && byte ≤ 0x39) || (0x41 ≤ byte && byte ≤ 0x5A) || (0x61 ≤ byte && byte ≤ 0x7A) ||
    [0x2A, 0x2D, 0x2E, 0x5F].contains byte

def decodeValue (value : Bytes) : String :=
  Utf8.decodeLossy (percentDecode (value.map fun byte => if byte = 0x2B then 0x20 else byte))

/-- A name or a value of a query. A space is written as a plus sign. -/
def encodeValue (text : String) : Bytes :=
  (percentEncode (fun byte => isPlainInQuery byte || byte = 0x20) (Utf8.encode text)).map
    fun byte => if byte = 0x20 then 0x2B else byte

def decodeQuery (query : String) : List (String × String) :=
  let pieces := (Text.pieces 0x26 (Utf8.encode query)).filter (!·.isEmpty)
  pieces.map fun piece =>
    let name := piece.takeWhile (· ≠ 0x3D)
    (decodeValue name, decodeValue ((piece.drop name.length).drop 1))

def encodeQuery (name value : String) : String :=
  Utf8.decodeLossy (encodeValue name ++ 0x3D :: encodeValue value)

example : decodePart? "%ff" = none := by decide +kernel
example : decodeQuery "name=a+b&&x" = [("name", "a b"), ("x", "")] := by decide +kernel

end RecordGraph.Http
