namespace RecordGraph.Http

/-! Media types, as far as they say whether a body is JSON. -/

namespace MediaType

def isNameChar (character : Char) : Bool :=
  character.isAlphanum ||
    ['!', '#', '$', '%', '&', '\x27', '*', '+', '-', '.', '^', '_', '\x60', '|', '~'].contains character

/-- The rest after a quoted value and the semicolon behind it, from after the opening quote. A quote
that comes first does not end the value. -/
def skipQuoted : (first : Bool) → List Char → Option (List Char)
  | _, [] => none
  | first, character :: rest =>
      if character = '"' ∧ !first then skipGap rest
      else if character.toNat < 0x20 ∨ 0x7F ≤ character.toNat then none
      else skipQuoted false rest
where
  skipGap : List Char → Option (List Char)
    | [] => some []
    | ';' :: rest => some rest
    | ' ' :: rest => skipGap rest
    | _ => none

def skipValue (input : List Char) : Option (List Char) :=
  match input with
  | '"' :: rest => skipQuoted true rest
  | _ =>
      let value := input.takeWhile isNameChar
      match input.dropWhile isNameChar with
      | [] => some []
      | ';' :: rest => if value.isEmpty then none else some rest
      | _ => none

def parametersOk : (fuel : Nat) → List Char → Bool
  | 0, _ => false
  | fuel + 1, input =>
      match input.dropWhile (· = ' ') with
      | [] => true
      | start =>
          let name := start.takeWhile isNameChar
          match start.dropWhile isNameChar with
          | '=' :: rest =>
              !name.isEmpty && match skipValue rest with
                | none => false
                | some [] => true
                | some rest => parametersOk fuel rest
          | _ => false

def splitSuffix (name : List Char) : List Char × List Char :=
  let suffix := (name.reverse.takeWhile (· ≠ '+')).reverse
  let before := name.take (name.length - suffix.length - 1)
  if suffix.length < name.length ∧ !before.isEmpty then (before, suffix) else (name, [])

end MediaType

def isJsonType (mediaType : String) : Bool :=
  let input := mediaType.toList.map Char.toLower
  let type := input.takeWhile MediaType.isNameChar
  match input.dropWhile MediaType.isNameChar with
  | '/' :: rest =>
      let (name, suffix) := MediaType.splitSuffix (rest.takeWhile MediaType.isNameChar)
      let inOrder := match rest.dropWhile MediaType.isNameChar with
        | [] => true
        | ';' :: parameters =>
            !name.isEmpty && MediaType.parametersOk (parameters.length + 1) parameters
        | _ => false
      inOrder && type = "application".toList && (name = "json".toList || suffix = "json".toList)
  | _ => false

example : isJsonType "Application/vnd.x+json" = true := by decide +kernel
example : isJsonType "application/jsonx" = false := by decide +kernel

end RecordGraph.Http
