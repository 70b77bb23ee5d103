namespace RecordGraph

/-! Blank characters, in the sense of the Unicode property White_Space, and the texts without
them at either end. -/

namespace Text

def isBlank (character : Char) : Bool :=
  let code := character.toNat
  (0x09 ≤ code && code ≤ 0x0D) || code = 0x20 || code = 0x85 || code = 0xA0 || code = 0x1680 ||
    (0x2000 ≤ code && code ≤ 0x200A) || code = 0x2028 || code = 0x2029 || code = 0x202F ||
    code = 0x205F || code = 0x3000

def dropLastWhile (test : Char → Bool) (characters : List Char) : List Char :=
  ((characters.reverse).dropWhile test).reverse

def trim (text : String) : String :=
  String.ofList (dropLastWhile isBlank (text.toList.dropWhile isBlank))

def dropTrailing (character : Char) (text : String) : String :=
  String.ofList (dropLastWhile (· == character) text.toList)

example : trim " \u00A0a b\t" = "a b" := by decide
example : dropTrailing '/' "a//" = "a" := by decide

theorem trim_solid {text : String} (solid : ∀ character ∈ text.toList, isBlank character = false) :
    trim text = text := by
  have kept {characters : List Char} (solid : ∀ character ∈ characters, isBlank character = false) :
      characters.dropWhile isBlank = characters := by
    cases characters with
    | nil => rfl
    | cons character characters =>
        rw [List.dropWhile_cons_of_neg]
        rw [solid character List.mem_cons_self]
        exact Bool.false_ne_true
  rw [trim, dropLastWhile, kept solid, kept fun character member =>
    solid character (List.mem_reverse.1 member), List.reverse_reverse, String.ofList_toList]

theorem isBlank_of_isDigit {character : Char} (digit : character.isDigit = true) :
    isBlank character = false := by
  have between : 48 ≤ character.toNat ∧ character.toNat ≤ 57 := Char.isDigit_iff_toNat.1 digit
  simp only [isBlank, Bool.or_eq_false_iff, Bool.and_eq_false_iff, decide_eq_false_iff_not]
  omega

def toUpperAscii (text : String) : String := String.ofList (text.toList.map Char.toUpper)

def toLowerAscii (text : String) : String := String.ofList (text.toList.map Char.toLower)

end Text

end RecordGraph
