import RecordGraph.Text.Decimal
import RecordGraph.Text.Utf8

namespace RecordGraph.Json

/-! Reading JSON texts from left to right. A reader takes the value it wants from the front of the
text and hands the rest on; the first problem that it meets decides what is wrong. -/

inductive Flaw where
  /-- It is not JSON, or nested too deeply. -/
  | malformed
  /-- It ends too early. -/
  | unfinished
  /-- It is JSON so far but not of the wanted form. -/
  | mismatched
  deriving DecidableEq, Repr

structure Setting where
  /-- How many more lists and records may be opened. -/
  room : Nat
  /-- Whether the text was kept from an earlier pass, and so is known to be JSON. -/
  kept : Bool

namespace Setting

/-- At the outset, `127` lists and records may be open at a time. -/
def outset : Setting := ⟨127, false⟩

def inside (setting : Setting) : Setting := { setting with room := setting.room - 1 }

end Setting

abbrev Reader (Value : Type) := Setting → Bytes → Except Flaw (Value × Bytes)

/-! ## Bytes with a meaning -/

def skipBlanks : Bytes → Bytes
  | 0x20 :: rest => skipBlanks rest
  | 0x09 :: rest => skipBlanks rest
  | 0x0A :: rest => skipBlanks rest
  | 0x0D :: rest => skipBlanks rest
  | input => input

def expect : (expected : Bytes) → Bytes → Except Flaw Bytes
  | [], input => .ok input
  | _ :: _, [] => .error .unfinished
  | wanted :: others, byte :: rest =>
      if byte = wanted then expect others rest else .error .malformed

def isDigit (byte : UInt8) : Bool := 0x30 ≤ byte && byte ≤ 0x39

def hexValue? (byte : UInt8) : Option Nat :=
  if isDigit byte then some (byte.toNat - 0x30)
  else if 0x41 ≤ byte ∧ byte ≤ 0x46 then some (byte.toNat - 0x41 + 10)
  else if 0x61 ≤ byte ∧ byte ≤ 0x66 then some (byte.toNat - 0x61 + 10)
  else none

/-! ## Strings -/

def readHex4 : Bytes → Except Flaw (Nat × Bytes)
  | first :: second :: third :: fourth :: rest =>
      match hexValue? first, hexValue? second, hexValue? third, hexValue? fourth with
      | some first, some second, some third, some fourth =>
          .ok (((first * 16 + second) * 16 + third) * 16 + fourth, rest)
      | _, _, _, _ => .error .malformed
  | _ => .error .unfinished

def bytesOfCode (code : Nat) : Bytes := String.utf8EncodeChar (Char.ofNat code)

/-- A character by its number, after `\u`. Numbers beyond sixteen bits come in two halves, and
one half alone is refused. -/
def readUnicode (input : Bytes) : Except Flaw (Bytes × Bytes) := do
  let (first, rest) ← readHex4 input
  if 0xDC00 ≤ first ∧ first ≤ 0xDFFF then .error .malformed
  else if 0xD800 ≤ first ∧ first ≤ 0xDBFF then
    match rest with
    | [] => .error .unfinished
    | [0x5C] => .error .unfinished
    | 0x5C :: 0x75 :: rest => do
        let (second, rest) ← readHex4 rest
        if 0xDC00 ≤ second ∧ second ≤ 0xDFFF then
          .ok (bytesOfCode ((first - 0xD800) * 0x400 + (second - 0xDC00) + 0x10000), rest)
        else .error .malformed
    | _ => .error .malformed
  else .ok (bytesOfCode first, rest)

def readEscape : Bytes → Except Flaw (Bytes × Bytes)
  | [] => .error .unfinished
  | 0x22 :: rest => .ok ([0x22], rest)
  | 0x5C :: rest => .ok ([0x5C], rest)
  | 0x2F :: rest => .ok ([0x2F], rest)
  | 0x62 :: rest => .ok ([0x08], rest)
  | 0x66 :: rest => .ok ([0x0C], rest)
  | 0x6E :: rest => .ok ([0x0A], rest)
  | 0x72 :: rest => .ok ([0x0D], rest)
  | 0x74 :: rest => .ok ([0x09], rest)
  | 0x75 :: rest => readUnicode rest
  | _ :: _ => .error .malformed

/-- The bytes that a string means, from after its opening quote to its closing one. What has been
read is collected backwards. -/
def readStringBytes : (fuel : Nat) → (collected : Bytes) → Bytes → Except Flaw (Bytes × Bytes)
  | 0, _, _ => .error .unfinished
  | fuel + 1, collected, input =>
      match input with
      | [] => .error .unfinished
      | 0x22 :: rest => .ok (collected.reverse, rest)
      | 0x5C :: rest => do
          let (meant, rest) ← readEscape rest
          readStringBytes fuel (meant.reverse ++ collected) rest
      | byte :: rest =>
          if byte < 0x20 then .error .malformed
          else readStringBytes fuel (byte :: collected) rest

def readStringTail (input : Bytes) : Except Flaw (String × Bytes) := do
  let (bytes, rest) ← readStringBytes (input.length + 1) [] input
  match Utf8.decode? bytes with
  | some text => .ok (text, rest)
  | none => .error .malformed

/-- The rest of a text after a string whose meaning does not matter: undecodable bytes and lone
halves of characters are let through. -/
def skipStringTail : (fuel : Nat) → Bytes → Except Flaw Bytes
  | 0, _ => .error .unfinished
  | fuel + 1, input =>
      match input with
      | [] => .error .unfinished
      | 0x22 :: rest => .ok rest
      | 0x5C :: 0x75 :: rest => do
          let (_, rest) ← readHex4 rest
          skipStringTail fuel rest
      | 0x5C :: rest => do
          let (_, rest) ← readEscape rest
          skipStringTail fuel rest
      | byte :: rest => if byte < 0x20 then .error .malformed else skipStringTail fuel rest

/-! ## Numbers -/

structure Numeral where
  negative : Bool
  /-- The digits before the point. -/
  whole : Bytes
  /-- The digits after the point. -/
  fraction : Bytes
  /-- The power of ten that multiplies the whole, if one is given. -/
  exponent : Option Int

def valueOfDigits (digits : Bytes) : Nat :=
  digits.foldl (fun value digit => value * 10 + (digit.toNat - 0x30)) 0

def readFraction (short : Flaw) (input : Bytes) : Except Flaw (Bytes × Bytes) :=
  match input with
  | 0x2E :: rest =>
      let digits := rest.takeWhile isDigit
      if digits.isEmpty then .error (if rest.isEmpty then short else .malformed)
      else .ok (digits, rest.dropWhile isDigit)
  | _ => .ok ([], input)

def readExponent (short : Flaw) (input : Bytes) : Except Flaw (Option Int × Bytes) :=
  let unsigned (sign : Int) (rest : Bytes) : Except Flaw (Option Int × Bytes) :=
    let digits := rest.takeWhile isDigit
    if digits.isEmpty then .error (if rest.isEmpty then short else .malformed)
    else .ok (some (sign * valueOfDigits digits), rest.dropWhile isDigit)
  match input with
  | 0x65 :: 0x2D :: rest | 0x45 :: 0x2D :: rest => unsigned (-1) rest
  | 0x65 :: 0x2B :: rest | 0x45 :: 0x2B :: rest => unsigned 1 rest
  | 0x65 :: rest | 0x45 :: rest => unsigned 1 rest
  | _ => .ok (none, input)

/-- A number. There is no superfluous zero at its front, and a digit on each side of its point. -/
def readNumeral (short : Flaw) (input : Bytes) : Except Flaw (Numeral × Bytes) := do
  let (negative, unsigned) := match input with
    | 0x2D :: rest => (true, rest)
    | _ => (false, input)
  let (whole, rest) ← match unsigned with
    | [] => .error short
    | 0x30 :: rest =>
        if (rest.head?.map isDigit).getD false then .error .malformed else .ok ([0x30], rest)
    | byte :: _ =>
        if isDigit byte then .ok (unsigned.takeWhile isDigit, unsigned.dropWhile isDigit)
        else .error .malformed
  let (fraction, rest) ← readFraction short rest
  let (exponent, rest) ← readExponent short rest
  .ok (⟨negative, whole, fraction, exponent⟩, rest)

namespace Numeral

/-- A number too large for a double. Only the leading digits that a word can hold are looked at;
of the others, those before the point count as zeros. A word that the digits before the point
have filled may still take in some from after it. With at most `308` digits before its point a
number always fits. -/
def tooLarge (numeral : Numeral) : Bool :=
  let power := numeral.exponent.getD 0
  if numeral.whole.length + power ≤ 308 then false
  else
    let digits (bytes : Bytes) : List Nat := bytes.map fun byte => byte.toNat - 0x30
    let (front, zeros) := Decimal.fillWord 0 (digits numeral.whole)
    let (leading, left) := Decimal.fillWord front (digits numeral.fraction)
    let taken : Int := numeral.fraction.length - left.length
    Decimal.productExceedsDouble leading (power + zeros.length - taken)

def word? (numeral : Numeral) : Option UInt64 :=
  let value := valueOfDigits numeral.whole
  if numeral.negative || !numeral.fraction.isEmpty || numeral.exponent.isSome then none
  else if value < UInt64.size then some (UInt64.ofNat value)
  else none

end Numeral

def readNumber (input : Bytes) : Except Flaw (Numeral × Bytes) := do
  let (numeral, rest) ← readNumeral .unfinished input
  if numeral.tooLarge then .error .malformed else .ok (numeral, rest)

/-! ## Values of an unwanted form -/

/-- The flaw of a text whose next value has an unwanted form. A literal, a number or a string is
looked at to its end first; of a list or a record the first byte is enough. -/
def unwanted : Bytes → Flaw
  | [] => .unfinished
  | 0x6E :: rest => literal [0x75, 0x6C, 0x6C] rest
  | 0x74 :: rest => literal [0x72, 0x75, 0x65] rest
  | 0x66 :: rest => literal [0x61, 0x6C, 0x73, 0x65] rest
  | 0x22 :: rest =>
      match readStringTail rest with
      | .ok _ => .mismatched
      | .error flaw => flaw
  | 0x5B :: _ => .mismatched
  | 0x7B :: _ => .mismatched
  | byte :: rest =>
      if byte = 0x2D ∨ isDigit byte then
        match readNumber (byte :: rest) with
        | .ok _ => .mismatched
        | .error flaw => flaw
      else .malformed
where
  literal (others rest : Bytes) : Flaw :=
    match expect others rest with
    | .ok _ => .mismatched
    | .error flaw => flaw

/-! ## Simple values -/

def readWord : Reader UInt64 := fun _ input =>
  match skipBlanks input with
  | [] => .error .unfinished
  | byte :: rest =>
      if byte = 0x2D ∨ isDigit byte then do
        let (numeral, rest) ← readNumber (byte :: rest)
        match numeral.word? with
        | some word => .ok (word, rest)
        | none => .error .mismatched
      else .error (unwanted (byte :: rest))

def readString : Reader String := fun _ input =>
  match skipBlanks input with
  | 0x22 :: rest => readStringTail rest
  | other => .error (unwanted other)

def readOption {Value : Type} (item : Reader Value) : Reader (Option Value) := fun setting input =>
  match skipBlanks input with
  | 0x6E :: rest => do
      let rest ← expect [0x75, 0x6C, 0x6C] rest
      .ok (none, rest)
  | other => do
      let (value, rest) ← item setting other
      .ok (some value, rest)

/-! ## Lists and records -/

def nextElement (first : Bool) (input : Bytes) : Except Flaw (Option Bytes) :=
  match skipBlanks input with
  | [] => .error .unfinished
  | 0x5D :: _ => .ok none
  | 0x2C :: rest =>
      if first then .error .malformed
      else match skipBlanks rest with
        | [] => .error .unfinished
        | 0x5D :: _ => .error .malformed
        | next => .ok (some next)
  | next => if first then .ok (some next) else .error .malformed

def endList (input : Bytes) : Except Flaw Bytes :=
  match skipBlanks input with
  | [] => .error .unfinished
  | 0x5D :: rest => .ok rest
  | _ => .error .malformed

def nextMember (first : Bool) (input : Bytes) : Except Flaw (Option Bytes) :=
  match skipBlanks input with
  | [] => .error .unfinished
  | 0x7D :: _ => .ok none
  | 0x2C :: rest =>
      if first then .error .malformed
      else match skipBlanks rest with
        | [] => .error .unfinished
        | 0x22 :: rest => .ok (some rest)
        | _ => .error .malformed
  | 0x22 :: rest => if first then .ok (some rest) else .error .malformed
  | _ => .error .malformed

def readColon (input : Bytes) : Except Flaw Bytes :=
  match skipBlanks input with
  | [] => .error .unfinished
  | 0x3A :: rest => .ok rest
  | _ => .error .malformed

def endRecord (input : Bytes) : Except Flaw Bytes :=
  match skipBlanks input with
  | [] => .error .unfinished
  | 0x7D :: rest => .ok rest
  | _ => .error .malformed

def Setting.enter (setting : Setting) : Except Flaw Setting :=
  if setting.room = 0 then .error .malformed else .ok setting.inside

def readElements {Value : Type} (item : Reader Value) (setting : Setting) :
    (fuel : Nat) → (first : Bool) → (collected : List Value) → Bytes →
      Except Flaw (List Value × Bytes)
  | 0, _, _, _ => .error .unfinished
  | fuel + 1, first, collected, input => do
      match ← nextElement first input with
      | none => .ok (collected.reverse, input)
      | some start =>
          let (value, rest) ← item setting start
          readElements item setting fuel false (value :: collected) rest

def readList {Value : Type} (item : Reader Value) : Reader (List Value) := fun setting input =>
  match skipBlanks input with
  | 0x5B :: rest => do
      let setting ← setting.enter
      let (values, rest) ← readElements item setting (rest.length + 1) true [] rest
      .ok (values, ← endList rest)
  | other => .error (unwanted other)

/-- The members of a record whose names do not come from a fixed list. `name` reads a name from
after its opening quote. -/
def readMembers {Name Value : Type} (name : Bytes → Except Flaw (Name × Bytes))
    (item : Reader Value) (setting : Setting) :
    (fuel : Nat) → (first : Bool) → (collected : List (Name × Value)) → Bytes →
      Except Flaw (List (Name × Value) × Bytes)
  | 0, _, _, _ => .error .unfinished
  | fuel + 1, first, collected, input => do
      match ← nextMember first input with
      | none => .ok (collected.reverse, input)
      | some start =>
          let (found, rest) ← name start
          let rest ← readColon rest
          let (value, rest) ← item setting rest
          readMembers name item setting fuel false ((found, value) :: collected) rest

def readEntries {Name Value : Type} (name : Bytes → Except Flaw (Name × Bytes))
    (item : Reader Value) : Reader (List (Name × Value)) := fun setting input =>
  match skipBlanks input with
  | 0x7B :: rest => do
      let setting ← setting.enter
      let (entries, rest) ← readMembers name item setting (rest.length + 1) true [] rest
      .ok (entries, ← endRecord rest)
  | other => .error (unwanted other)

/-- An unsigned 64-bit number between quotes, from after the opening one: bare digits, as a number
is written. -/
def readWordName (input : Bytes) : Except Flaw (UInt64 × Bytes) :=
  match input with
  | byte :: _ =>
      if byte = 0x2D ∨ isDigit byte then do
        let (numeral, rest) ← readNumber input
        match numeral.word?, rest with
        | some word, 0x22 :: rest => .ok (word, rest)
        | some _, _ => .error .malformed
        | none, _ => .error .mismatched
      else .error .malformed
  | [] => .error .malformed

end RecordGraph.Json
