import RecordGraph.Json.Codec

namespace RecordGraph.Json

/-! Records with a fixed list of fields. A record is written with its names; it is read with its
names in any order, or as the bare list of its values in the order of the layout. Members with
other names are skipped. -/

/-- The fields of a record, in order. A field has a name and a form, perhaps a value that it takes
when it is absent, and a test for the values that are written at all. -/
inductive Layout : Type → Type 1 where
  | done : Layout Unit
  | field {Value Others : Type} (name : String) (codec : Codec Value) (absent : Option Value)
      (shown : Value → Bool) (others : Layout Others) : Layout (Value × Others)

namespace Layout

def required {Value Others : Type} (name : String) (codec : Codec Value)
    (others : Layout Others) : Layout (Value × Others) :=
  .field name codec none (fun _ => true) others

def defaulted {Value Others : Type} (name : String) (codec : Codec Value) (absent : Value)
    (others : Layout Others) : Layout (Value × Others) :=
  .field name codec (some absent) (fun _ => true) others

def optional {Value Others : Type} (name : String) (codec : Codec Value)
    (others : Layout Others) : Layout (Option Value × Others) :=
  .field name codec.option (some none) Option.isSome others

/-- What has been read of a record: for each field its value, once it is known. -/
def Slots : {Record : Type} → Layout Record → Type
  | _, .done => Unit
  | _, @Layout.field Value _ _ _ _ _ others => Option Value × others.Slots

def empty : {Record : Type} → (layout : Layout Record) → layout.Slots
  | _, .done => ()
  | _, .field _ _ _ _ others => (none, others.empty)

/-- How the value under a name is read into its slot, if the layout has the name. A name that comes
twice is a mismatch. -/
def fill : {Record : Type} → (layout : Layout Record) → (name : String) → layout.Slots →
    Option (Except Flaw (Reader layout.Slots))
  | _, .done, _, _ => none
  | _, @Layout.field Value _ known codec _ _ others, name, slots =>
      let slots : Option Value × others.Slots := slots
      if name = known then
        match slots.1 with
        | some _ => some (.error .mismatched)
        | none => some (.ok fun setting input => do
            let (value, rest) ← codec.read setting input
            .ok ((some value, slots.2), rest))
      else
        (others.fill name slots.2).map fun outcome => outcome.map fun reader setting input => do
          let (later, rest) ← reader setting input
          .ok ((slots.1, later), rest)

def finish : {Record : Type} → (layout : Layout Record) → layout.Slots → Except Flaw Record
  | _, .done, () => .ok ()
  | _, @Layout.field Value _ _ _ absent _ others, slots =>
      let slots : Option Value × others.Slots := slots
      match slots.1 <|> absent with
      | some value => do .ok (value, ← others.finish slots.2)
      | none => .error .mismatched

/-! ## Reading from a text -/

def readFields {Record : Type} (layout : Layout Record) (setting : Setting) :
    (fuel : Nat) → (first : Bool) → layout.Slots → Bytes → Except Flaw (layout.Slots × Bytes)
  | 0, _, _, _ => .error .unfinished
  | fuel + 1, first, slots, input => do
      match ← nextMember first input with
      | none => .ok (slots, input)
      | some start =>
          let (name, rest) ← readStringTail start
          match layout.fill name slots with
          | none =>
              let rest ← readColon rest
              let rest ← skipValue rest
              layout.readFields setting fuel false slots rest
          | some (.error flaw) => .error flaw
          | some (.ok reader) =>
              let rest ← readColon rest
              let (slots, rest) ← reader setting rest
              layout.readFields setting fuel false slots rest

def readPositions : {Record : Type} → (layout : Layout Record) → Setting → (first : Bool) →
    Bytes → Except Flaw (layout.Slots × Bytes)
  | _, .done, _, _, input => .ok ((), input)
  | _, .field name codec absent shown others, setting, first, input => do
      match ← nextElement first input with
      | none => .ok ((Layout.field name codec absent shown others).empty, input)
      | some start =>
          let (value, rest) ← codec.read setting start
          let (later, rest) ← others.readPositions setting false rest
          .ok ((some value, later), rest)

def read {Record : Type} (layout : Layout Record) : Reader Record := fun setting input =>
  match skipBlanks input with
  | 0x7B :: rest => do
      let setting ← setting.enter
      let (slots, rest) ← layout.readFields setting (rest.length + 1) true layout.empty rest
      let record ← layout.finish slots
      .ok (record, ← endRecord rest)
  | 0x5B :: rest => do
      let setting ← setting.enter
      let (slots, rest) ← layout.readPositions setting true rest
      let record ← layout.finish slots
      .ok (record, ← endList rest)
  | other => .error (unwanted other)

def parts : {Record : Type} → (layout : Layout Record) → Record → List (String × Bytes)
  | _, .done, () => []
  | _, .field name codec _ shown others, (value, later) =>
      if shown value then (name, codec.write value) :: others.parts later else others.parts later

def codec {Record Value : Type} (layout : Layout Record) (toParts : Value → Record)
    (ofParts : Record → Value) : Codec Value where
  read := fun setting input => do
    let (record, rest) ← layout.read setting input
    .ok (ofParts record, rest)
  write value := writeMembers (layout.parts (toParts value))

/-! ## Reading from parts that have been kept -/

def readKept {Value : Type} (reader : Reader Value) (text : Bytes) : Except Flaw Value :=
  (Codec.mk reader fun _ => []).parseKept text

def ofMembers {Record : Type} (layout : Layout Record) (members : List (String × Bytes)) :
    Except Flaw Record := do
  let fillOne (slots : layout.Slots) (member : String × Bytes) : Except Flaw layout.Slots :=
    match layout.fill member.1 slots with
    | none => .ok slots
    | some (.error flaw) => .error flaw
    | some (.ok reader) => readKept reader member.2
  layout.finish (← members.foldlM fillOne layout.empty)

/-- The slots that kept elements fill. There may be fewer elements than fields, but not more. -/
def ofPositions : {Record : Type} → (layout : Layout Record) → List Bytes →
    Except Flaw layout.Slots
  | _, .done, [] => .ok ()
  | _, .done, _ :: _ => .error .mismatched
  | _, .field name codec absent shown others, [] =>
      .ok (Layout.field name codec absent shown others).empty
  | _, .field _ codec _ _ others, element :: elements => do
      let value ← codec.parseKept element
      .ok (some value, ← others.ofPositions elements)

end Layout

/-! ## Records with a tag

Records of several layouts may share a list of tags. The tag stands under a name of its own, at
any place; as the first element if the record is written as a list. What else the record holds is
kept until the tag is known. -/

inductive Kept where
  | members (members : List (String × Bytes))
  | elements (elements : List Bytes)

namespace Tagged

def readTag {Tag : Type} (tags : String → Option Tag) : Reader Tag := fun setting input => do
  let (name, rest) ← readString setting input
  match tags name with
  | some tag => .ok (tag, rest)
  | none => .error .mismatched

def readMembers {Tag : Type} (tagName : String) (tags : String → Option Tag) (setting : Setting) :
    (fuel : Nat) → (first : Bool) → Option Tag → (collected : List (String × Bytes)) → Bytes →
      Except Flaw (Tag × List (String × Bytes) × Bytes)
  | 0, _, _, _, _ => .error .unfinished
  | fuel + 1, first, tag, collected, input => do
      match ← nextMember first input with
      | none =>
          match tag with
          | some tag => .ok (tag, collected.reverse, input)
          | none => .error .mismatched
      | some start =>
          let (name, rest) ← readStringTail start
          if name = tagName then
            match tag with
            | some _ => .error .mismatched
            | none =>
                let rest ← readColon rest
                let (tag, rest) ← readTag tags setting rest
                readMembers tagName tags setting fuel false (some tag) collected rest
          else
            let rest ← readColon rest
            let (value, rest) ← keepValue setting rest
            readMembers tagName tags setting fuel false tag ((name, value) :: collected) rest

def readKept {Tag : Type} (tagName : String) (tags : String → Option Tag) :
    Reader (Tag × Kept) := fun setting input =>
  match skipBlanks input with
  | 0x7B :: rest => do
      let setting ← setting.enter
      let (tag, members, rest) ←
        readMembers tagName tags setting (rest.length + 1) true none [] rest
      .ok ((tag, .members members), ← endRecord rest)
  | 0x5B :: rest => do
      let setting ← setting.enter
      match ← nextElement true rest with
      | none => .error .mismatched
      | some start =>
          let (tag, rest) ← readTag tags setting start
          let (elements, rest) ← readElements keepValue setting (rest.length + 1) false [] rest
          .ok ((tag, .elements elements), ← endList rest)
  | other => .error (unwanted other)

def read {Tag Value : Type} (tagName : String) (tags : String → Option Tag)
    (choose : Tag → Kept → Except Flaw Value) : Reader Value := fun setting input => do
  let ((tag, kept), rest) ← readKept tagName tags setting input
  .ok (← choose tag kept, rest)

def ofKept {Record : Type} (layout : Layout Record) : Kept → Except Flaw Record
  | .members members => layout.ofMembers members
  | .elements elements => do layout.finish (← layout.ofPositions elements)

/-- A tag that stands for itself: other members do not matter, but there are no other elements. -/
def alone : Kept → Except Flaw Unit
  | .members _ => .ok ()
  | .elements [] => .ok ()
  | .elements (_ :: _) => .error .mismatched

def write (tagName tag : String) (parts : List (String × Bytes)) : Bytes :=
  writeMembers ((tagName, writeString tag) :: parts)

end Tagged

end RecordGraph.Json
