import RecordGraph.Text.Unseen

namespace RecordGraph

/-! Texts between double quotes, for people to read: what cannot be seen is spelled out. -/

namespace Text

def spelledOut (character : Char) : List Char :=
  match character with
  | '\x00' => ['\\', '0']
  | '\t' => ['\\', 't']
  | '\r' => ['\\', 'r']
  | '\n' => ['\\', 'n']
  | '"' => ['\\', '"']
  | '\\' => ['\\', '\\']
  | _ =>
      if character.toNat < 0x20 ∨ character.toNat = 0x7F ∨ isUnseen character then
        ['\\', 'u', '\x7b'] ++ Nat.toDigits 16 character.toNat ++ ['\x7d']
      else [character]

def quoted (text : String) : String :=
  String.ofList ('"' :: text.toList.flatMap spelledOut ++ ['"'])

example : quoted "a\"b" = "\"a\\\"b\"" := by decide +kernel
example : quoted "\x7f" = "\"\\u\x7b7f\x7d\"" := by decide +kernel

end Text

end RecordGraph
