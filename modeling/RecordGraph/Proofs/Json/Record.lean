import RecordGraph.Proofs.Json.Faithful

namespace RecordGraph.Json

/-! Records that are read back as they have been written: with names of one form, with the fields
of a layout, or with the only name that says what stands under it. -/

/-! ## Members -/

def member (part : String × Bytes) : Bytes := writeString part.1 ++ 0x3A :: part.2

theorem member_append (part : String × Bytes) (rest : Bytes) :
    member part ++ rest =
      0x22 :: ((Utf8.encode part.1).flatMap writeByte ++ 0x22 :: 0x3A :: (part.2 ++ rest)) := by
  rw [member, List.append_assoc, writeString_append, List.cons_append]

theorem writeMembers_append (parts : List (String × Bytes)) (rest : Bytes) :
    writeMembers parts ++ rest = 0x7B :: (separated (parts.map member) ++ 0x7D :: rest) := by
  have named : writeMembers parts = 0x7B :: separated (parts.map member) ++ [0x7D] := rfl
  rw [named]
  simp

theorem skipBlanks_writeMembers (parts : List (String × Bytes)) (rest : Bytes) :
    skipBlanks (writeMembers parts ++ rest) =
      0x7B :: (separated (parts.map member) ++ 0x7D :: rest) := by
  rw [writeMembers_append]
  rfl

theorem nextMember_member_first (part : String × Bytes) (rest : Bytes) :
    nextMember true (member part ++ rest) =
      .ok (some ((Utf8.encode part.1).flatMap writeByte ++ 0x22 :: 0x3A :: (part.2 ++ rest))) := by
  rw [member_append]
  rfl

theorem nextMember_member_later (part : String × Bytes) (rest : Bytes) :
    nextMember false (0x2C :: (member part ++ rest)) =
      .ok (some ((Utf8.encode part.1).flatMap writeByte ++ 0x22 :: 0x3A :: (part.2 ++ rest))) := by
  rw [member_append]
  rfl

/-- There is a byte of text for each member, so that a reader that may take one step for each byte
reaches the end of a record. -/
theorem length_members (part : String × Bytes) (parts : List (String × Bytes)) (rest : Bytes) :
    parts.length < (member part ++ (trailing (parts.map member) ++ rest)).length := by
  have long := length_trailing (parts.map member)
  rw [List.length_map] at long
  have one : 0 < (member part).length := by
    rw [member, writeString]
    simp
  rw [List.length_append, List.length_append]
  omega

/-! ## Names of one form -/

section Entries

variable {Name Value : Type} {name : Bytes → Except Flaw (Name × Bytes)} {item : Codec Value}
  {depth : Nat} {nameOf : Name → String}

def entryPart (nameOf : Name → String) (item : Codec Value) (entry : Name × Value) :
    String × Bytes := (nameOf entry.1, item.write entry.2)

private theorem readMembers_written (faithful : item.Faithful depth)
    (names : ∀ value rest, name ((Utf8.encode (nameOf value)).flatMap writeByte ++ 0x22 :: rest) =
      .ok (value, rest))
    {setting : Setting} (room : depth ≤ setting.room) (entries collected : List (Name × Value))
    {fuel : Nat} (enough : entries.length < fuel) (rest : Bytes) :
    readMembers name item.read setting fuel false collected
        (trailing ((entries.map (entryPart nameOf item)).map member) ++ 0x7D :: rest) =
      .ok (collected.reverse ++ entries, 0x7D :: rest) := by
  induction entries generalizing collected fuel with
  | nil =>
      rcases Nat.exists_eq_succ_of_ne_zero (Nat.ne_of_gt (Nat.zero_lt_of_lt enough)) with
          ⟨less, rfl⟩
      rw [List.map_nil, List.map_nil, trailing, List.flatMap_nil, List.nil_append, readMembers,
        nextMember_end]
      simp [bind, Except.bind]
  | cons entry entries induction =>
      rcases Nat.exists_eq_succ_of_ne_zero (Nat.ne_of_gt (Nat.zero_lt_of_lt enough)) with
          ⟨less, rfl⟩
      have reads := faithful.reads entry.2 setting _ room
        (ends_trailing ((entries.map (entryPart nameOf item)).map member) (ends_brace rest))
      rw [List.map_cons, List.map_cons, trailing_cons, readMembers, nextMember_member_later]
      simp only [bind, Except.bind, entryPart, names, readColon_colon, reads]
      rw [induction]
      · simp
      · simpa using enough

theorem readEntries_written (faithful : item.Faithful depth)
    (names : ∀ value rest, name ((Utf8.encode (nameOf value)).flatMap writeByte ++ 0x22 :: rest) =
      .ok (value, rest))
    (entries : List (Name × Value)) (setting : Setting) (rest : Bytes)
    (room : depth + 1 ≤ setting.room) :
    readEntries name item.read setting
        (writeMembers (entries.map (entryPart nameOf item)) ++ rest) = .ok (entries, rest) := by
  rcases enter_ok room with ⟨entered, inside⟩
  rw [readEntries, skipBlanks_writeMembers]
  simp only [entered, bind, Except.bind]
  cases entries with
  | nil =>
      rw [List.map_nil, List.map_nil, separated, List.nil_append, readMembers, nextMember_end]
      rfl
  | cons entry entries =>
      have reads := faithful.reads entry.2 setting.inside _ inside
        (ends_trailing ((entries.map (entryPart nameOf item)).map member) (ends_brace rest))
      have enough := length_members (entryPart nameOf item entry)
        (entries.map (entryPart nameOf item)) (0x7D :: rest)
      rw [List.length_map] at enough
      have others := readMembers_written faithful names inside entries [entry] enough rest
      rw [List.map_cons, List.map_cons, separated_cons, List.append_assoc, readMembers,
        nextMember_member_first]
      rw [entryPart] at others
      simp only [bind, Except.bind, entryPart, names, readColon_colon, reads, others]
      rfl

theorem written_entries (faithful : item.Faithful depth) (entries : List (Name × Value)) :
    Written (depth + 1) (writeMembers (entries.map (entryPart nameOf item))) := by
  apply Written.record
  intro part found
  rcases List.mem_map.1 found with ⟨entry, -, rfl⟩
  exact faithful.written entry.2

end Entries

/-! ## Fields of a layout -/

namespace Layout

def names : {Record : Type} → Layout Record → List String
  | _, .done => []
  | _, .field name _ _ _ others => name :: others.names

section

variable {Value Others : Type} (name : String) (codec : Codec Value) (others : Layout Others)

@[simp] theorem names_done : Layout.done.names = [] := rfl

@[simp] theorem names_required :
    (Layout.required name codec others).names = name :: others.names := rfl

@[simp] theorem names_defaulted (absent : Value) :
    (Layout.defaulted name codec absent others).names = name :: others.names := rfl

@[simp] theorem names_optional :
    (Layout.optional name codec others).names = name :: others.names := rfl

end

/-- No two fields have one name, every field has a faithful form, and only what is absent anyway is
not written. -/
def Faithful (depth : Nat) : {Record : Type} → Layout Record → Prop
  | _, .done => True
  | _, .field name codec absent shown others =>
      name ∉ others.names ∧ codec.Faithful depth ∧
        (∀ value, shown value = false → absent = some value) ∧ others.Faithful depth

section

variable {Value Others : Type} {name : String} {codec : Codec Value} {others : Layout Others}
  {depth : Nat}

theorem Faithful.done : Layout.done.Faithful depth := trivial

theorem Faithful.required (form : codec.Faithful depth) (distinct : name ∉ others.names)
    (later : others.Faithful depth) : (Layout.required name codec others).Faithful depth :=
  ⟨distinct, form, fun _ hidden => Bool.noConfusion hidden, later⟩

theorem Faithful.defaulted (form : codec.Faithful depth) (absent : Value)
    (distinct : name ∉ others.names) (later : others.Faithful depth) :
    (Layout.defaulted name codec absent others).Faithful depth :=
  ⟨distinct, form, fun _ hidden => Bool.noConfusion hidden, later⟩

theorem Faithful.optional (form : codec.option.Faithful depth) (distinct : name ∉ others.names)
    (later : others.Faithful depth) : (Layout.optional name codec others).Faithful depth := by
  refine ⟨distinct, form, ?_, later⟩
  intro value hidden
  rw [Option.isSome_eq_false_iff, Option.isNone_iff_eq_none] at hidden
  rw [hidden]

end

def slotsOf : {Record : Type} → (layout : Layout Record) → Record → layout.Slots
  | _, .done, () => ()
  | _, .field _ _ _ shown others, record =>
      (if shown record.1 then some record.1 else none, others.slotsOf record.2)

def Takes {Record : Type} (layout : Layout Record) (depth : Nat) (slots : layout.Slots)
    (part : String × Bytes) (next : layout.Slots) : Prop :=
  Written depth part.2 ∧ ∃ reader, layout.fill part.1 slots = some (.ok reader) ∧
    ∀ (setting : Setting) (rest : Bytes), depth ≤ setting.room → Ends rest →
      reader setting (part.2 ++ rest) = .ok (next, rest)

inductive Fills {Record : Type} (layout : Layout Record) (depth : Nat) :
    layout.Slots → List (String × Bytes) → layout.Slots → Prop where
  | nil (slots : layout.Slots) : Fills layout depth slots [] slots
  | cons {slots next last : layout.Slots} {part : String × Bytes} {parts : List (String × Bytes)}
      (takes : layout.Takes depth slots part next) (later : Fills layout depth next parts last) :
      Fills layout depth slots (part :: parts) last

variable {Record : Type} {layout : Layout Record} {depth : Nat}

theorem Fills.written {slots last : layout.Slots} {parts : List (String × Bytes)}
    (fills : layout.Fills depth slots parts last) : ∀ part ∈ parts, Written depth part.2 := by
  induction fills with
  | nil => exact fun _ found => absurd found List.not_mem_nil
  | cons takes later induction =>
      intro part found
      rcases List.mem_cons.1 found with rfl | found
      · exact takes.1
      · exact induction part found

section Field

variable {Value : Type} {name : String} {codec : Codec Value} {absent : Option Value}
  {shown : Value → Bool}

def behind (known : Option Value) (later : layout.Slots) :
    (Layout.field name codec absent shown layout).Slots := (known, later)

private theorem takes_first (form : codec.Faithful depth) (value : Value) (later : layout.Slots) :
    (Layout.field name codec absent shown layout).Takes depth (behind none later)
      (name, codec.write value) (behind (some value) later) := by
  refine ⟨form.written value, fun setting input => (codec.read setting input).bind fun done =>
    .ok (behind (some done.1) later, done.2), ?_, ?_⟩
  · rw [fill, if_pos rfl]
    rfl
  · intro setting rest room ends
    simp only [form.reads value setting rest room ends, Except.bind]

private theorem Takes.behind {slots next : layout.Slots} {part : String × Bytes}
    (takes : layout.Takes depth slots part next) (other : part.1 ≠ name) (known : Option Value) :
    (Layout.field name codec absent shown layout).Takes depth (behind known slots) part
      (behind known next) := by
  rcases takes with ⟨written, reader, filled, reads⟩
  refine ⟨written, fun setting input => (reader setting input).bind fun done =>
    .ok (Layout.behind known done.1, done.2), ?_, ?_⟩
  · rw [fill, if_neg other]
    simp only [Layout.behind, filled]
    rfl
  · intro setting rest room ends
    simp only [reads setting rest room ends, Except.bind]

private theorem Fills.behind {slots last : layout.Slots} {parts : List (String × Bytes)}
    (fills : layout.Fills depth slots parts last) (others : ∀ part ∈ parts, part.1 ≠ name)
    (known : Option Value) :
    (Layout.field name codec absent shown layout).Fills depth (behind known slots) parts
      (behind known last) := by
  induction fills with
  | nil slots => exact .nil _
  | cons takes later induction =>
      apply Fills.cons (takes.behind (others _ List.mem_cons_self) known)
      exact induction fun part member => others part (List.mem_cons_of_mem _ member)

end Field

theorem parts_names (layout : Layout Record) (record : Record) :
    ∀ part ∈ layout.parts record, part.1 ∈ layout.names := by
  induction layout with
  | done => exact fun _ found => absurd found List.not_mem_nil
  | field name codec absent shown others induction =>
      intro part found
      rw [parts] at found
      split at found
      · rcases List.mem_cons.1 found with rfl | found
        · exact List.mem_cons_self
        · exact List.mem_cons_of_mem _ (induction record.2 part found)
      · exact List.mem_cons_of_mem _ (induction record.2 part found)

theorem parts_apart {name : String} (absent : name ∉ layout.names) (record : Record) :
    ∀ part ∈ layout.parts record, part.1 ≠ name :=
  fun part found same => absent (same ▸ layout.parts_names record part found)

theorem Faithful.fills (faithful : layout.Faithful depth) (record : Record) :
    layout.Fills depth layout.empty (layout.parts record) (layout.slotsOf record) := by
  induction layout with
  | done => exact .nil _
  | field name codec absent shown others induction =>
      rcases faithful with ⟨distinct, form, hidden, later⟩
      have fills := induction later record.2
      have apart := parts_apart distinct record.2
      rw [parts, slotsOf]
      split
      · exact .cons (takes_first form record.1 others.empty) (fills.behind apart (some record.1))
      · exact fills.behind apart none

theorem Faithful.finish (faithful : layout.Faithful depth) (record : Record) :
    layout.finish (layout.slotsOf record) = .ok record := by
  induction layout with
  | done => rfl
  | @field Value Others name codec absent shown others induction =>
      rcases faithful with ⟨distinct, form, hidden, later⟩
      rw [Layout.finish, slotsOf]
      cases seen : shown record.1 with
      | true => simp [induction later, bind, Except.bind]
      | false => simp [hidden record.1 seen, induction later, bind, Except.bind]

/-- Fields are read from a record with them, one after another. -/
private theorem Fills.readFields {slots last : layout.Slots} {parts : List (String × Bytes)}
    (fills : layout.Fills depth slots parts last) {setting : Setting}
    (room : depth ≤ setting.room) {fuel : Nat} (enough : parts.length < fuel) (rest : Bytes) :
    layout.readFields setting fuel false slots (trailing (parts.map member) ++ 0x7D :: rest) =
      .ok (last, 0x7D :: rest) := by
  induction fills generalizing fuel with
  | nil slots =>
      rcases Nat.exists_eq_succ_of_ne_zero (Nat.ne_of_gt (Nat.zero_lt_of_lt enough)) with
          ⟨less, rfl⟩
      rw [List.map_nil, trailing, List.flatMap_nil, List.nil_append, Layout.readFields,
        nextMember_end]
      rfl
  | @cons slots next last part parts takes later induction =>
      rcases Nat.exists_eq_succ_of_ne_zero (Nat.ne_of_gt (Nat.zero_lt_of_lt enough)) with
          ⟨less, rfl⟩
      rcases takes with ⟨-, reader, filled, reads⟩
      have value := reads setting _ room (ends_trailing (parts.map member) (ends_brace rest))
      rw [List.map_cons, trailing_cons, Layout.readFields, nextMember_member_later]
      simp only [bind, Except.bind, readStringTail_written, filled, readColon_colon, value]
      apply induction
      simpa using enough

private theorem Fills.read {last : layout.Slots} {parts : List (String × Bytes)}
    (fills : layout.Fills depth layout.empty parts last) {record : Record}
    (finish : layout.finish last = .ok record) {setting : Setting}
    (room : depth + 1 ≤ setting.room) (rest : Bytes) :
    layout.read setting (writeMembers parts ++ rest) = .ok (record, rest) := by
  rcases enter_ok room with ⟨entered, inside⟩
  rw [Layout.read, skipBlanks_writeMembers]
  simp only [entered, bind, Except.bind]
  cases fills with
  | nil =>
      rw [List.map_nil, separated, List.nil_append, Layout.readFields, nextMember_end]
      simp only [bind, Except.bind, finish, endRecord_end]
  | @cons _ next _ part parts takes later =>
      rcases takes with ⟨-, reader, filled, reads⟩
      have value := reads setting.inside _ inside
        (ends_trailing (parts.map member) (ends_brace rest))
      have others := later.readFields inside (length_members part parts (0x7D :: rest)) rest
      rw [List.map_cons, separated_cons, List.append_assoc, Layout.readFields,
        nextMember_member_first]
      simp only [bind, Except.bind, readStringTail_written, filled, readColon_colon, value, others,
        finish, endRecord_end]

theorem Faithful.codec {Value : Type} (faithful : layout.Faithful depth)
    {toParts : Value → Record} {ofParts : Record → Value}
    (back : ∀ value, ofParts (toParts value) = value) :
    (layout.codec toParts ofParts).Faithful (depth + 1) where
  written value := .record _ (faithful.fills (toParts value)).written
  reads value setting rest room _ := by
    have record := (faithful.fills (toParts value)).read (faithful.finish (toParts value)) room rest
    rw [Layout.codec]
    simp only [record, bind, Except.bind, back]

end Layout

end RecordGraph.Json
