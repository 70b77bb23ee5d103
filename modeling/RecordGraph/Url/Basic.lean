import RecordGraph.Url.Host

namespace RecordGraph

/-! Addresses of resources: a scheme, perhaps a host, and a path. -/

inductive UrlPath where
  /-- A text without parts. -/
  | undivided (text : String)
  /-- Parts after slashes. -/
  | parts (parts : List String)
  deriving DecidableEq, Repr

structure Url where
  scheme : String
  /-- Who is addressed: a host, perhaps with a user before it and a service number after it. -/
  authority : Option String
  path : UrlPath
  query : Option String
  fragment : Option String
  deriving DecidableEq, Repr

namespace Url

/-! ## Schemes -/

def readScheme (input : List Char) : Option (String × List Char) :=
  let isSchemeChar (character : Char) : Bool :=
    character.isAlphanum || ['+', '-', '.'].contains character
  let scheme := input.takeWhile isSchemeChar
  match scheme, input.dropWhile isSchemeChar with
  | first :: _, ':' :: rest =>
      if first.isAlpha then some (String.ofList (scheme.map Char.toLower), rest) else none
  | _, _ => none

def usualNumber? (scheme : String) : Option Nat :=
  match scheme with
  | "http" => some 80
  | "https" => some 443
  | "ws" => some 80
  | "wss" => some 443
  | "ftp" => some 21
  | _ => none

def isSpecial (scheme : String) : Bool := (usualNumber? scheme).isSome || scheme = "file"

/-! ## Hosts and service numbers -/

/-- A slash; in special addresses a backslash is one too. -/
def isSlash (special : Bool) (character : Char) : Bool :=
  character = '/' || (special && character = '\\')

def endsAuthority (special : Bool) (character : Char) : Bool :=
  isSlash special character || character = '?' || character = '#'

def splitHost : (inBrackets : Bool) → List Char → List Char × List Char
  | _, [] => ([], [])
  | inBrackets, character :: rest =>
      if character = ':' ∧ !inBrackets then ([], character :: rest)
      else
        let inside :=
          if character = '[' then true else if character = ']' then false else inBrackets
        let (host, after) := splitHost inside rest
        (character :: host, after)

def readServiceNumber? (after : List Char) : Option (Option Nat × List Char) :=
  match after with
  | [] => some (none, [])
  | _ :: text =>
      let digits := text.takeWhile isDecimal
      let rest := text.drop digits.length
      if 65535 < valueOf 10 digits ∨ ¬ (rest.isEmpty ∨ rest.head? = some '\\') then none
      else some (if digits.isEmpty then none else some (valueOf 10 digits), rest)

def splitUser (text : List Char) : Option (List Char) × List Char :=
  let host := (text.reverse.takeWhile (· ≠ '@')).reverse
  if host.length = text.length then (none, host)
  else (some (text.take (text.length - host.length - 1)), host)

def isPlainInUser (byte : UInt8) : Bool :=
  byte = 0x25 || (Http.isPlainInPath byte &&
    !([0x3A, 0x3B, 0x3D, 0x40, 0x5B, 0x5D, 0x7C].contains byte))

def showUser (user : List Char) : String :=
  let encoded (text : List Char) : String :=
    Utf8.decodeLossy (Http.percentEncode isPlainInUser (Utf8.encode (String.ofList text)))
  let name := user.takeWhile (· ≠ ':')
  let password := (user.drop name.length).drop 1
  if name.isEmpty ∧ password.isEmpty then ""
  else encoded name ++ (if password.isEmpty then "" else ":" ++ encoded password) ++ "@"

/-- Who is addressed, in its usual spelling, and what is left of the text. A user or a service
number needs a host. -/
def authority? (scheme : String) (text : List Char) : Option (String × List Char) := do
  let (user, afterUser) := splitUser text
  let (host, afterHost) := splitHost false afterUser
  let shownUser := showUser (user.getD [])
  if host.isEmpty ∧ (isSpecial scheme ∨ !afterHost.isEmpty ∨ user = some [] ∨ shownUser ≠ "") then
    none
  else
    let shownHost ← if isSpecial scheme then webHost? host else otherHost? host
    let (number, rest) ← readServiceNumber? afterHost
    let shownNumber := match number with
      | none => ""
      | some number => if usualNumber? scheme = some number then "" else ":" ++ toString number
    some (shownUser ++ shownHost ++ shownNumber, rest)

/-! ## Paths -/

def isDot (part : String) : Bool := [".", "%2e"].contains (part.map Char.toLower)

def isDoubleDot (part : String) : Bool :=
  ["..", ".%2e", "%2e.", "%2e%2e"].contains (part.map Char.toLower)

def isPlainInWhole (byte : UInt8) : Bool :=
  Http.isPlainInPath byte || [0x25, 0x2F, 0x5C].contains byte

/-- The parts of a path. Dots lead nowhere and back, but a path that ends in them ends in a
slash. -/
def pathParts (special : Bool) (text : List Char) : List String :=
  let pieces := Text.pieces '/' (text.map fun character =>
    if isSlash special character then '/' else character)
  let encoded := pieces.map fun piece =>
    Utf8.decodeLossy (Http.percentEncode isPlainInWhole (Utf8.encode (String.ofList piece)))
  let walk (before : List String) (part : String) : List String :=
    if isDoubleDot part then before.dropLast else if isDot part then before else before ++ [part]
  let parts := encoded.foldl walk []
  match encoded.getLast? with
  | some last => if isDot last || isDoubleDot last then parts ++ [""] else parts
  | none => parts

/-- Adds a part to a path. A single or a double dot is not added; tabs and ends of lines do not
count, and a dot that only they have hidden leads nowhere or back. -/
def addPart (parts : List String) (part : String) : List String :=
  if part = "." ∨ part = ".." then parts
  else
    let kept := String.ofList (part.toList.filter fun character =>
      !(['\t', '\n', '\r'].contains character))
    if kept = "." then parts ++ [""]
    else if kept = ".." then parts.dropLast ++ [""]
    else parts ++ [Http.encodePart kept]

def addParts (parts added : List String) : List String :=
  let base := if parts.getLast? = some "" then parts.dropLast else parts
  added.foldl addPart base

/-! ## Whole addresses -/

def clean (text : String) : List Char :=
  let isOuter (character : Char) : Bool := character.toNat ≤ 0x20
  let inner := (((text.toList.dropWhile isOuter).reverse).dropWhile isOuter).reverse
  inner.filter fun character => !(['\t', '\n', '\r'].contains character)

def splitTail (text : List Char) : List Char × Option String × Option String :=
  let beforeFragment := text.takeWhile (· ≠ '#')
  let fragment := match text.drop beforeFragment.length with
    | [] => none
    | _ :: rest => some (String.ofList rest)
  let path := beforeFragment.takeWhile (· ≠ '?')
  let query := match beforeFragment.drop path.length with
    | [] => none
    | _ :: rest => some (String.ofList rest)
  (path, query, fragment)

def withParts (scheme : String) (authority : Option String) (text : List Char) : Url :=
  let special := isSpecial scheme
  let (path, query, fragment) := splitTail text
  let parts := match path with
    | [] => if special then [""] else []
    | first :: rest => pathParts special (if isSlash special first then rest else path)
  { scheme, authority, path := .parts parts, query, fragment }

def withAuthority (scheme : String) (text : List Char) : Option Url := do
  let special := isSpecial scheme
  let addressed := text.takeWhile (!endsAuthority special ·)
  let (authority, rest) ← authority? scheme addressed
  some (withParts scheme (some authority) (rest ++ text.drop addressed.length))

/-- The host of an address of a file may be missing. -/
def ofFile (text : List Char) : Option Url :=
  let slashes := (text.takeWhile (isSlash true)).length
  if slashes < 2 then some (withParts "file" (some "") text)
  else
    let rest := text.drop 2
    let host := rest.takeWhile (!endsAuthority true ·)
    let isDrive := match host with
      | [letter, mark] => letter.isAlpha && (mark = ':' || mark = '|')
      | _ => false
    if host.isEmpty || isDrive then some (withParts "file" (some "") rest)
    else do
      let shown ← webHost? host
      let authority := if shown = "localhost" then "" else shown
      some (withParts "file" (some authority) (rest.drop host.length))

def parse? (text : String) : Option Url := do
  let (scheme, rest) ← readScheme (clean text)
  if scheme = "file" then ofFile rest
  else if isSpecial scheme then withAuthority scheme (rest.dropWhile (isSlash true))
  else match rest with
    | '/' :: '/' :: rest => withAuthority scheme rest
    | '/' :: _ => some (withParts scheme none rest)
    | _ =>
        let (path, query, fragment) := splitTail rest
        some { scheme, authority := none, path := .undivided (String.ofList path), query, fragment }

def origin (url : Url) : String :=
  url.scheme ++ ":" ++ (url.authority.map ("//" ++ ·)).getD ""

def target (url : Url) : String :=
  let path := match url.path with
    | .undivided text => text
    | .parts parts => String.join (parts.map ("/" ++ ·))
  (if path.isEmpty then "/" else path) ++ (url.query.map ("?" ++ ·)).getD ""

def text (url : Url) : String :=
  url.origin ++ url.target ++ (url.fragment.map ("#" ++ ·)).getD ""

example : (parse? "HTTP:\\\\h:80").map text = some "http://h/" := by decide +kernel
example : parse? "127.0.0.1:1" = none := by decide +kernel

end Url

end RecordGraph
