import RecordGraph.Http.Percent
import RecordGraph.Url.Name

namespace RecordGraph.Url

/-! Hosts of addresses: names, numbers of four bytes in several spellings, and numbers of sixteen
bytes in brackets. -/

def digitValue (character : Char) : Nat :=
  ((Http.hexValue? (UInt8.ofNat character.toNat)).map UInt8.toNat).getD 0

def isDecimal (character : Char) : Bool := '0' ≤ character && character ≤ '9'

def isOctal (character : Char) : Bool := '0' ≤ character && character ≤ '7'

def isHexadecimal (character : Char) : Bool :=
  isDecimal character || ('a' ≤ character && character ≤ 'f')
    || ('A' ≤ character && character ≤ 'F')

def valueOf (base : Nat) (digits : List Char) : Nat :=
  digits.foldl (fun value digit => value * base + digitValue digit) 0

/-! ## Four bytes -/

/-- One number of an address: decimal, octal after a zero, or hexadecimal after `0x`. -/
def number? (text : List Char) : Option Nat :=
  let checked (isDigit : Char → Bool) (base : Nat) (digits : List Char) : Option Nat :=
    if digits.all isDigit then some (valueOf base digits) else none
  match text with
  | [] => none
  | '0' :: 'x' :: digits | '0' :: 'X' :: digits => checked isHexadecimal 16 digits
  | '0' :: digit :: digits => checked isOctal 8 (digit :: digits)
  | digits => checked isDecimal 10 digits

def dottedParts (host : List Char) : List (List Char) :=
  let parts := Text.pieces '.' host
  match parts.getLast? with
  | some [] => if parts.length = 1 then parts else parts.dropLast
  | _ => parts

def endsInNumber (host : List Char) : Bool :=
  match (dottedParts host).getLast? with
  | none => false
  | some last => (!last.isEmpty && last.all isDecimal) || (number? last).isSome

/-- The number of a host. The last of its parts fills all bytes that the others leave. -/
def address? (host : List Char) : Option Nat := do
  let numbers ← (dottedParts host).mapM number?
  let last ← numbers.getLast?
  let before := numbers.dropLast
  if 3 < before.length ∨ before.any (255 < ·) ∨ Nat.pow 256 (4 - before.length) ≤ last then none
  else
    let high := before.foldl (fun value byte => value * 256 + byte) 0
    some (high * Nat.pow 256 (4 - before.length) + last)

def showAddress (address : Nat) : String :=
  ".".intercalate ([3, 2, 1, 0].map fun place => toString (address / Nat.pow 256 place % 256))

/-! ## Sixteen bytes -/

def isGroup (group : List Char) : Bool :=
  !group.isEmpty && group.length ≤ 4 && group.all isHexadecimal

def isDotted (group : List Char) : Bool :=
  let parts := Text.pieces '.' group
  parts.length = 4 && parts.all fun part =>
    !part.isEmpty && part.length ≤ 3 && part.all isDecimal && valueOf 10 part ≤ 255 &&
      (part.length = 1 || part.head? ≠ some '0')

/-- How many groups a text holds, if all of them are in order. Where the address ends, four bytes
may stand for two groups. -/
def countGroups (atEnd : Bool) (text : List Char) : Option Nat :=
  if text.isEmpty then some 0
  else
    let groups := Text.pieces ':' text
    let dotted := atEnd && (groups.getLast?.any isDotted)
    let plain := if dotted then groups.dropLast else groups
    if plain.all isGroup then some (groups.length + if dotted then 1 else 0) else none

def atDoubleColon : List Char → Option (List Char × List Char)
  | ':' :: ':' :: rest => some ([], rest)
  | character :: rest =>
      (atDoubleColon rest).map fun (before, after) => (character :: before, after)
  | [] => none

/-- Whether what stands in brackets is a number of sixteen bytes. A double colon stands for one or
more groups of zeros. -/
def isLongAddress (text : List Char) : Bool :=
  match atDoubleColon text with
  | none => countGroups true text = some 8
  | some (before, after) =>
      match countGroups false before, countGroups true after with
      | some first, some second => first + second ≤ 7
      | _, _ => false

/-! ## Hosts -/

def bracketed? (text : List Char) : Option String :=
  if text.head? = some '[' ∧ text.getLast? = some ']' ∧ isLongAddress (text.drop 1).dropLast then
    some (String.ofList (text.map Char.toLower))
  else none

/-- The host of a web address, with percent signs for some of its bytes perhaps. It is a number
of four bytes if the last part of its name is a number. -/
def webHost? (text : List Char) : Option String :=
  if text.head? = some '[' then bracketed? text
  else do
    let name ← asciiName? (← Http.decodePart? (String.ofList text)).toList
    if name.isEmpty then none
    else if endsInNumber name then do some (showAddress (← address? name))
    else some (String.ofList name)

def isPlainInHost (byte : UInt8) : Bool := 0x20 ≤ byte && byte < 0x7F

def otherHost? (text : List Char) : Option String :=
  if text.head? = some '[' then bracketed? text
  else if text.any isForbidden then none
  else some (Utf8.decodeLossy
    (Http.percentEncode isPlainInHost (Utf8.encode (String.ofList text))))

example : webHost? "0x7f.1".toList = some "127.0.0.1" := by decide +kernel
example : webHost? "256.1.1.1".toList = none := by decide +kernel

end RecordGraph.Url
