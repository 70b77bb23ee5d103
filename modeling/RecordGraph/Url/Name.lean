import RecordGraph.Text.Composed
import RecordGraph.Text.Direction
import RecordGraph.Text.Joining
import RecordGraph.Url.Folding
import RecordGraph.Url.Punycode

namespace RecordGraph.Url

/-! Names of hosts in any script, and the same names in ASCII. A name consists of labels with dots
between them. A label with characters beyond ASCII is written as `xn--` with a text in ASCII that
stands for it. -/

open Text (Direction Joining)

def isForbidden (character : Char) : Bool :=
  ['\x00', '\t', '\n', '\r', ' ', '#', '/', ':', '<', '>', '?', '@', '[', '\\', ']', '^',
    '|'].contains character

def isForbiddenInName (character : Char) : Bool :=
  character.toNat ≤ 0x20 || isForbidden character || character = '%' || character.toNat = 0x7F

def isAscii (character : Char) : Bool := character.toNat < 0x80

/-! ## Rules for labels -/

def longestLabel : Nat := 1000

def longestWrittenLabel : Nat := 2000

/-- A character that only makes its neighbours join, or keeps them apart, must have neighbours with
which that shows: a letter that has lost its vowel before it, or letters of a cursive script on
both sides. `before` holds the characters before it, the nearest first. -/
def joinersFit : (before : List Char) → List Char → Bool
  | _, [] => true
  | before, character :: rest =>
      let afterVowelless := before.head?.any fun previous =>
        Text.combiningClass previous = Text.vowelless
      let neighbour? (characters : List Char) : Option Joining :=
        (characters.map Joining.of).find? (· ≠ .transparent)
      let betweenJoining :=
        (neighbour? before).any (·.joinsNext) && (neighbour? rest).any (·.joinsPrevious)
      let fits := match character with
        | '\u200C' => afterVowelless || betweenJoining
        | '\u200D' => afterVowelless
        | _ => true
      fits && joinersFit (character :: before) rest

def isLabel (label : List Char) : Bool :=
  label.length ≤ longestLabel && !(label.head?.any Text.isMark) && joinersFit [] label

/-- A label that is read in one direction as it stands in a name with letters of either direction.
Marks at its end do not count. -/
def hasOneDirection (label : List Char) : Bool :=
  let directions := label.map Direction.of
  let kept := ((directions.reverse).dropWhile (· = .mark)).reverse
  match directions.head?, kept.getLast? with
  | some .leftToRight, some last =>
      [.leftToRight, .europeanNumber].contains last &&
        kept.all [.leftToRight, .europeanNumber, .neutral, .mark].contains
  | some .rightToLeft, some last =>
      [.rightToLeft, .europeanNumber, .arabicNumber].contains last &&
        kept.all [.rightToLeft, .europeanNumber, .arabicNumber, .neutral, .mark].contains &&
        !(kept.contains .europeanNumber && kept.contains .arabicNumber)
  | _, _ => false

def turnsDirection (character : Char) : Bool :=
  [Direction.rightToLeft, .arabicNumber].contains (Direction.of character)

/-! ## Labels -/

structure Label where
  /-- The characters that are meant. -/
  meant : List Char
  /-- The same in ASCII. -/
  written : List Char

namespace Label

def mark : List Char := ['x', 'n', '-', '-']

/-- What a text that stands for a label means. There must be something beyond ASCII in it, and
nothing that would be written in another way. -/
def meant? (written : List Char) : Option (List Char) := do
  if !written.all isAscii || longestWrittenLabel < written.length || written.isEmpty
      || written.getLast? = some '-' then none
  else
    let meant ← Punycode.decode? written
    let stays := meant.all fun character => fold? character = some [character]
    if stays && meant = Text.compose meant && !mark.isPrefixOf meant && isLabel meant
    then some meant
    else none

def read? (text : List Char) : Option Label :=
  if mark.isPrefixOf text then
    (meant? (text.drop mark.length)).map fun meant => { meant, written := text }
  else if text.all isAscii then some { meant := text, written := text }
  else if isLabel text then some { meant := text, written := mark ++ Punycode.encode text }
  else none

end Label

/-! ## Names -/

/-- The name in ASCII, if it is one. A name with letters from the right to the left has only labels
that are read in one direction. -/
def asciiName? (text : List Char) : Option (List Char) := do
  let folded ← text.mapM fold?
  let name := Text.compose folded.flatten
  if name.any isForbiddenInName then none
  else
    let labels ← (Text.pieces '.' name).mapM Label.read?
    let turns := labels.any fun label => label.meant.any turnsDirection
    if turns && !labels.all (fun label => label.meant.isEmpty || hasOneDirection label.meant)
    then none
    else some (['.'].intercalate (labels.map Label.written))

example : asciiName? "A.b-C".toList = some "a.b-c".toList := by decide +kernel
example : asciiName? "xn--".toList = none := by decide +kernel

end RecordGraph.Url
