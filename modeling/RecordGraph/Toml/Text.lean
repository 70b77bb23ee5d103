namespace RecordGraph.Toml

/-! Texts of a TOML document. A text stands between quotes: double ones, where a backslash begins
an escape, or single ones, where nothing is escaped. With three quotes at each end it may run over
several lines. -/

/-! ## Characters -/

def isTextual (character : Char) : Bool :=
  character = '\t' || (0x20 ≤ character.toNat && character.toNat ≠ 0x7F)

def newline? : List Char → Option (List Char)
  | '\n' :: rest => some rest
  | '\r' :: '\n' :: rest => some rest
  | _ => none

def isSpace (character : Char) : Bool := character = ' ' || character = '\t'

def skipSpaces (input : List Char) : List Char := input.dropWhile isSpace

def skipSpacesAndLines : List Char → List Char
  | '\n' :: rest => skipSpacesAndLines rest
  | '\r' :: '\n' :: rest => skipSpacesAndLines rest
  | ' ' :: rest => skipSpacesAndLines rest
  | '\t' :: rest => skipSpacesAndLines rest
  | input => input

/-! ## Quotes -/

inductive Quotes where
  | double
  | single
  deriving DecidableEq

def Quotes.mark : Quotes → Char
  | double => '"'
  | single => '\x27'

/-! ## Reading -/

def hexDigit? (character : Char) : Option Nat :=
  if '0' ≤ character ∧ character ≤ '9' then some (character.toNat - '0'.toNat)
  else if 'a' ≤ character ∧ character ≤ 'f' then some (character.toNat - 'a'.toNat + 10)
  else if 'A' ≤ character ∧ character ≤ 'F' then some (character.toNat - 'A'.toNat + 10)
  else none

def readHex : (count value : Nat) → List Char → Option (Nat × List Char)
  | 0, value, input => some (value, input)
  | _ + 1, _, [] => none
  | count + 1, value, character :: rest => do
      readHex count (value * 16 + (← hexDigit? character)) rest

/-- The character with a number. There is none for the halves of wide characters. -/
def charOfCode? (code : Nat) : Option Char :=
  if valid : code.isValidChar then some (Char.ofNatAux code valid) else none

def readEscape : List Char → Option (Char × List Char)
  | 'b' :: rest => some ('\x08', rest)
  | 't' :: rest => some ('\t', rest)
  | 'n' :: rest => some ('\n', rest)
  | 'f' :: rest => some ('\x0c', rest)
  | 'r' :: rest => some ('\r', rest)
  | '"' :: rest => some ('"', rest)
  | '\\' :: rest => some ('\\', rest)
  | 'u' :: rest => do
      let (code, rest) ← readHex 4 0 rest
      some (← charOfCode? code, rest)
  | 'U' :: rest => do
      let (code, rest) ← readHex 8 0 rest
      some (← charOfCode? code, rest)
  | _ => none

def readShort (quotes : Quotes) : (fuel : Nat) → List Char → Option (List Char × List Char)
  | 0, _ => none
  | _ + 1, [] => none
  | fuel + 1, character :: rest =>
      if character = quotes.mark then some ([], rest)
      else if character = '\\' ∧ quotes = .double then do
        let (meant, rest) ← readEscape rest
        let (others, rest) ← readShort quotes fuel rest
        some (meant :: others, rest)
      else if isTextual character then do
        let (others, rest) ← readShort quotes fuel rest
        some (character :: others, rest)
      else none

def countQuotes (quotes : Quotes) (input : List Char) : Nat :=
  (input.takeWhile (· == quotes.mark)).length

/-- A text over several lines, from after its quotes. One or two quotes may stand anywhere in it,
also directly before the three that end it. -/
def readLong (quotes : Quotes) : (fuel : Nat) → List Char → Option (List Char × List Char)
  | 0, _ => none
  | _ + 1, [] => none
  | fuel + 1, character :: rest =>
      if character = quotes.mark then
        let more := countQuotes quotes rest
        let beyond := rest.drop more
        if more < 2 then do
          let (others, rest) ← readLong quotes fuel beyond
          some (List.replicate (more + 1) character ++ others, rest)
        else if more < 5 then some (List.replicate (more - 2) character, beyond)
        else none
      else if character = '\\' ∧ quotes = .double then
        match newline? (skipSpaces rest) with
        | some rest => readLong quotes fuel (skipSpacesAndLines rest)
        | none => do
            let (meant, rest) ← readEscape rest
            let (others, rest) ← readLong quotes fuel rest
            some (meant :: others, rest)
      else match newline? (character :: rest) with
        | some rest => do
            let (others, rest) ← readLong quotes fuel rest
            some ('\n' :: others, rest)
        | none =>
            if isTextual character then do
              let (others, rest) ← readLong quotes fuel rest
              some (character :: others, rest)
            else none

/-- A text over several lines, from after its quotes. A line that ends right there does not
count. -/
def readLongText (quotes : Quotes) (input : List Char) : Option (List Char × List Char) :=
  let body := (newline? input).getD input
  readLong quotes (body.length + 1) body

def readText (input : List Char) : Option (String × List Char) := do
  let (characters, rest) ← match input with
    | '"' :: '"' :: '"' :: body => readLongText .double body
    | '\x27' :: '\x27' :: '\x27' :: body => readLongText .single body
    | '"' :: body => readShort .double (body.length + 1) body
    | '\x27' :: body => readShort .single (body.length + 1) body
    | _ => none
  some (String.ofList characters, rest)

/-! ## Writing -/

structure TextForm where
  quotes : Quotes
  /-- Three quotes at each end. -/
  long : Bool
  deriving DecidableEq

def isControl (character : Char) : Bool :=
  character ≠ '\n' && (character.toNat < 0x20 || character.toNat = 0x7F)

def capitalHexDigit (value : Nat) : Char :=
  if value < 10 then Char.ofNat ('0'.toNat + value) else Char.ofNat ('A'.toNat + (value - 10))

def escape (character : Char) : List Char :=
  match character with
  | '\x08' => ['\\', 'b']
  | '\t' => ['\\', 't']
  | '\n' => ['\\', 'n']
  | '\x0c' => ['\\', 'f']
  | '\r' => ['\\', 'r']
  | '"' => ['\\', '"']
  | '\\' => ['\\', '\\']
  | _ =>
      let code := character.toNat
      ['\\', 'u', '0', '0', capitalHexDigit (code / 16 % 16), capitalHexDigit (code % 16)]

/-- What stands between double quotes for a text. In the long form the ends of lines stay, and so do
quotes after at most one other. -/
def spell (long : Bool) : (quotesBefore : Nat) → List Char → List Char
  | _, [] => []
  | quotesBefore, character :: rest =>
      if character = '"' then
        if long && quotesBefore < 2 then '"' :: spell long (quotesBefore + 1) rest
        else escape '"' ++ spell long 0 rest
      else if character = '\n' then
        if long then '\n' :: spell long 0 rest else escape '\n' ++ spell long 0 rest
      else if character = '\\' || isControl character then
        escape character ++ spell long 0 rest
      else character :: spell long 0 rest

def hasThree (mark : Char) : List Char → Bool
  | [] => false
  | character :: rest => [mark, mark, mark].isPrefixOf (character :: rest) || hasThree mark rest

/-- The form in which a text is written: on one line between double quotes or else single ones, if
it needs no escape there; over lines in the same way; and at last with escapes. Tabs do not count,
though between double quotes they are escaped. -/
def TextForm.of (characters : List Char) : TextForm :=
  let lines := characters.contains '\n'
  let controls := characters.any fun character => isControl character && character ≠ '\t'
  let escapes := controls || characters.contains '\\'
  if !escapes && !lines && !characters.contains '"' then ⟨.double, false⟩
  else if !controls && !lines && !characters.contains '\x27' then ⟨.single, false⟩
  else if !escapes && !hasThree '"' characters then ⟨.double, true⟩
  else if !controls && !hasThree '\x27' characters then ⟨.single, true⟩
  else ⟨.double, lines⟩

def TextForm.write (form : TextForm) (characters : List Char) : List Char :=
  let ends := List.replicate (if form.long then 3 else 1) form.quotes.mark
  let start := if form.long && characters.contains '\n' then ['\n'] else []
  let body := match form.quotes with
    | .double => spell form.long 0 characters
    | .single => characters
  ends ++ start ++ body ++ ends

def writeText (text : String) : List Char := (TextForm.of text.toList).write text.toList

example : writeText "\t" = ['"', '\\', 't', '"'] := by decide
example : writeText "\t\"" = ['\x27', '\t', '"', '\x27'] := by decide

end RecordGraph.Toml
