import RecordGraph.Json.Layout

namespace RecordGraph.Json

/-! Values of one of several kinds. The kind stands beside the value, as in
`{"type":"str","data":"x"}`, or is the only name of a record, as in `{"id":5}`. -/

abbrev Kinds (Kind Value : Type) := Kind → Reader Value

/-! ## The kind as the only name -/

namespace Single

def readOnlyName {Kind : Type} (named : String → Option Kind) : Reader Kind :=
  fun setting input =>
    match skipBlanks input with
    | [] => .error .unfinished
    | 0x22 :: rest => do
        let (kind, rest) ← Tagged.readTag named setting (0x22 :: rest)
        .ok (kind, ← readColon rest)
    | _ => .error .malformed

def read {Kind Value : Type} (named : String → Option Kind) (values : Kinds Kind Value) :
    Reader Value := fun setting input =>
  match skipBlanks input with
  | [] => .error .unfinished
  | 0x7B :: rest => do
      let inside ← setting.enter
      let (kind, rest) ← readOnlyName named inside rest
      let (value, rest) ← values kind inside rest
      .ok (value, ← endRecord rest)
  | 0x22 :: rest => do
      let _ ← readStringTail rest
      .error .mismatched
  | _ => .error .malformed

def write (kind : String) (value : Bytes) : Bytes := writeMembers [(kind, value)]

/-- The name of a kind alone. It may also be written as a record where nothing stands under the
name. -/
def readName {Kind : Type} (named : String → Option Kind) : Reader Kind := fun setting input =>
  match skipBlanks input with
  | [] => .error .unfinished
  | 0x7B :: rest => do
      let inside ← setting.enter
      let (kind, rest) ← readOnlyName named inside rest
      let rest ← readNothing setting.kept (skipBlanks rest)
      .ok (kind, ← endRecord rest)
  | 0x22 :: rest => Tagged.readTag named setting (0x22 :: rest)
  | _ => .error .malformed
where
  readNothing (kept : Bool) (input : Bytes) : Except Flaw Bytes :=
    match kept, input with
    | _, 0x6E :: rest => expect [0x75, 0x6C, 0x6C] rest
    | true, 0x7B :: rest => endRecord rest
    | _, other => .error (unwanted other)

end Single

/-! ## The kind beside the value -/

namespace Described

structure Names where
  kind : String
  value : String

inductive Known (Kind Value : Type) where
  | nothing
  | kind (kind : Kind)
  /-- The value has come before its kind, and is kept. -/
  | kept (text : Bytes)
  | value (value : Value)

def readMembers {Kind Value : Type} (names : Names) (named : String → Option Kind)
    (values : Kinds Kind Value) (setting : Setting) :
    (fuel : Nat) → (first : Bool) → Known Kind Value → Bytes → Except Flaw (Value × Bytes)
  | 0, _, _, _ => .error .unfinished
  | fuel + 1, first, known, input => do
      match ← nextMember first input with
      | none => match known with
          | .value value => .ok (value, input)
          | _ => .error .mismatched
      | some start =>
          let (name, rest) ← readStringTail start
          if name = names.kind then
            match known with
            | .nothing =>
                let (kind, rest) ← Single.readName named setting (← readColon rest)
                readMembers names named values setting fuel false (.kind kind) rest
            | .kept text =>
                let (kind, rest) ← Single.readName named setting (← readColon rest)
                let value ← Layout.readKept (values kind) text
                readMembers names named values setting fuel false (.value value) rest
            | _ => .error .mismatched
          else if name = names.value then
            match known with
            | .nothing =>
                let (text, rest) ← keepValue setting (← readColon rest)
                readMembers names named values setting fuel false (.kept text) rest
            | .kind kind =>
                let (value, rest) ← values kind setting (← readColon rest)
                readMembers names named values setting fuel false (.value value) rest
            | _ => .error .mismatched
          else
            let rest ← skipValue (← readColon rest)
            readMembers names named values setting fuel false known rest

/-- The kind as the first element of a list: its name as a string. Where the text was kept, its
place among all kinds may stand for the name. -/
def readElement {Kind : Type} (named : String → Option Kind) (kinds : List Kind) : Reader Kind :=
  fun setting input =>
    match setting.kept, readWord setting input with
    | true, .ok (place, rest) =>
        match kinds[place.toNat]? with
        | some kind => .ok (kind, rest)
        | none => .error .mismatched
    | _, _ => Tagged.readTag named setting input

def read {Kind Value : Type} (names : Names) (named : String → Option Kind) (kinds : List Kind)
    (values : Kinds Kind Value) : Reader Value := fun setting input =>
  match skipBlanks input with
  | 0x7B :: rest => do
      let setting ← setting.enter
      let (value, rest) ←
        readMembers names named values setting (rest.length + 1) true .nothing rest
      .ok (value, ← endRecord rest)
  | 0x5B :: rest => do
      let setting ← setting.enter
      match ← nextElement true rest with
      | none => .error .mismatched
      | some start =>
          let (kind, rest) ← readElement named kinds setting start
          match ← nextElement false rest with
          | none => .error .mismatched
          | some start =>
              let (value, rest) ← values kind setting start
              .ok (value, ← endList rest)
  | other => .error (unwanted other)

def write (names : Names) (kind : String) (value : Bytes) : Bytes :=
  writeMembers [(names.kind, writeString kind), (names.value, value)]

end Described

end RecordGraph.Json
