import RecordGraph.Toml.Number
import RecordGraph.Toml.Table

namespace RecordGraph.Toml

/-! Documents: lines that give values to names, under headings of tables. -/

/-- How deep lists and tables may be nested, and how many names a dotted name may have. -/
def depthLimit : Nat := 79

/-! ## Names -/

def isBare (character : Char) : Bool :=
  character.isAlphanum || character = '-' || character = '_'

def readName (input : List Char) : Option (String × List Char) :=
  match input with
  | '"' :: body => named (readShort .double (body.length + 1) body)
  | '\x27' :: body => named (readShort .single (body.length + 1) body)
  | _ =>
      let bare := input.takeWhile isBare
      if bare.isEmpty then none else some (String.ofList bare, input.dropWhile isBare)
where
  named (outcome : Option (List Char × List Char)) : Option (String × List Char) := do
    let (characters, rest) ← outcome
    some (String.ofList characters, rest)

def readNames : (fuel : Nat) → List Char → Option ((List String × String) × List Char)
  | 0, _ => none
  | fuel + 1, input => do
      let (name, rest) ← readName (skipSpaces input)
      match skipSpaces rest with
      | '.' :: rest => do
          let ((path, last), rest) ← readNames fuel rest
          some ((name :: path, last), rest)
      | rest => some (([], name), rest)

def readKey (input : List Char) : Option ((List String × String) × List Char) :=
  readNames depthLimit input

/-! ## Values -/

def skipFiller : (inComment : Bool) → List Char → Option (List Char)
  | true, [] => none
  | false, [] => some []
  | true, '\r' :: '\n' :: rest => skipFiller false rest
  | false, '\r' :: '\n' :: rest => skipFiller false rest
  | true, character :: rest =>
      if character = '\n' then skipFiller false rest
      else if isTextual character then skipFiller true rest
      else none
  | false, character :: rest =>
      if character = '\n' || isSpace character then skipFiller false rest
      else if character = '#' then skipFiller true rest
      else some (character :: rest)

def expectWord : (word : List Char) → List Char → Option (List Char)
  | [], input => some input
  | wanted :: word, input => do expectWord word (← expect wanted input)

mutual

def readValue (fuel room : Nat) (input : List Char) : Option (Value × List Char) :=
  match fuel with
  | 0 => none
  | fuel + 1 => match input with
      | '"' :: _ | '\x27' :: _ => do
          let (text, rest) ← readText input
          some (.text text, rest)
      | '[' :: rest =>
          if room = 0 then none
          else do some (.other, ← skipElements fuel (room - 1) rest)
      | '{' :: rest =>
          if room = 0 then none
          else match skipSpaces rest with
            | '}' :: rest => some (.other, rest)
            | rest => do
                let (settings, rest) ← readInline fuel (room - 1) rest
                let _ ← Table.setAll settings []
                some (.other, rest)
      | 't' :: _ => do some (.other, ← expectWord ['t', 'r', 'u', 'e'] input)
      | 'f' :: _ => do some (.other, ← expectWord ['f', 'a', 'l', 's', 'e'] input)
      | _ => do
          let (number, rest) ← readNumber input
          some ((number.map Value.integer).getD .other, rest)

def skipElements (fuel room : Nat) (input : List Char) : Option (List Char) :=
  match fuel with
  | 0 => none
  | fuel + 1 => do
      match ← skipFiller false input with
      | ']' :: rest => some rest
      | start => do
          let (_, rest) ← readValue fuel room start
          match ← skipFiller false rest with
          | ',' :: rest => skipElements fuel room rest
          | ']' :: rest => some rest
          | _ => none

def readSetting (fuel room : Nat) (input : List Char) : Option (Table.Setting × List Char) :=
  match fuel with
  | 0 => none
  | fuel + 1 => do
      let ((path, name), rest) ← readKey input
      let rest ← expect '=' rest
      let (value, rest) ← readValue fuel room (skipSpaces rest)
      some (⟨path, name, value⟩, rest)

def readInline (fuel room : Nat) (input : List Char) :
    Option (List Table.Setting × List Char) :=
  match fuel with
  | 0 => none
  | fuel + 1 => do
      let (setting, rest) ← readSetting fuel room input
      match skipSpaces rest with
      | ',' :: rest => do
          let (others, rest) ← readInline fuel room rest
          some (setting :: others, rest)
      | '}' :: rest => some ([setting], rest)
      | _ => none

end

/-! ## Lines -/

def endLine (input : List Char) : Option (List Char) :=
  let rest := match skipSpaces input with
    | '#' :: comment => comment.dropWhile isTextual
    | rest => rest
  if rest.isEmpty then some [] else newline? rest

def readLines : (fuel : Nat) → List Char → Option (List Table.Setting × List Table.Section)
  | 0, _ => none
  | fuel + 1, input =>
      match skipSpaces input with
      | [] => some ([], [])
      | '[' :: '[' :: rest => do
          let ((path, name), rest) ← readKey rest
          heading fuel true path name (← expectWord [']', ']'] rest)
      | '[' :: rest => do
          let ((path, name), rest) ← readKey rest
          heading fuel false path name (← expect ']' rest)
      | start =>
          if ['#', '\n', '\r'].contains (start.headD ' ') then do
            readLines fuel (← endLine start)
          else do
            let (setting, rest) ← readSetting (4 * start.length + 4) depthLimit start
            let (settings, sections) ← readLines fuel (← endLine rest)
            some (setting :: settings, sections)
where
  heading (fuel : Nat) (isElement : Bool) (path : List String) (name : String)
      (rest : List Char) : Option (List Table.Setting × List Table.Section) := do
    let (settings, sections) ← readLines fuel (← endLine rest)
    some ([], ⟨isElement, path, name, settings⟩ :: sections)

def read (text : String) : Option Table := do
  let input := match text.toList with
    | '\uFEFF' :: rest => rest
    | all => all
  let (settings, sections) ← readLines (input.length + 1) input
  Table.ofParts settings sections

/-! ## Writing -/

def write (settings : List (String × List Char)) : String :=
  String.ofList (settings.flatMap fun (name, value) =>
    name.toList ++ [' ', '=', ' '] ++ value ++ ['\n'])

end RecordGraph.Toml
