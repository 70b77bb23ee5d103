import RecordGraph.Proofs.Json.Passage
import RecordGraph.Proofs.Json.Variant

namespace RecordGraph.Json

/-! Tagged records are read back: the tag comes first, what else there is has been kept, and from
what has been kept the record of a layout is put together again. -/

namespace Tagged

variable {Tag Value : Type} {tagName name : String} {tags : String → Option Tag} {tag : Tag}
  {parts : List (String × Bytes)} {depth : Nat}

private theorem readMembers_written (others : ∀ part ∈ parts, part.1 ≠ tagName)
    (written : ∀ part ∈ parts, Written depth part.2) {setting : Setting}
    (room : depth ≤ setting.room) (collected : List (String × Bytes)) {fuel : Nat}
    (enough : parts.length < fuel) (rest : Bytes) :
    readMembers tagName tags setting fuel false (some tag) collected
        (trailing (parts.map member) ++ 0x7D :: rest) =
      .ok (tag, collected.reverse ++ parts, 0x7D :: rest) := by
  induction parts generalizing collected fuel with
  | nil =>
      rcases Nat.exists_eq_succ_of_ne_zero (Nat.ne_of_gt (Nat.zero_lt_of_lt enough)) with
          ⟨less, rfl⟩
      rw [List.map_nil, trailing, List.flatMap_nil, List.nil_append, readMembers, nextMember_end]
      simp [bind, Except.bind]
  | cons part parts induction =>
      rcases Nat.exists_eq_succ_of_ne_zero (Nat.ne_of_gt (Nat.zero_lt_of_lt enough)) with
          ⟨less, rfl⟩
      have kept := keepValue_written (written part List.mem_cons_self) room
        (ends_trailing (parts.map member) (ends_brace rest))
      rw [List.map_cons, trailing_cons, readMembers, nextMember_member_later]
      simp only [bind, Except.bind, readStringTail_written,
        if_neg (others part List.mem_cons_self), readColon_colon, kept]
      rw [induction]
      · simp
      · exact fun other member => others other (List.mem_cons_of_mem _ member)
      · exact fun other member => written other (List.mem_cons_of_mem _ member)
      · simpa using enough

theorem read_written {choose : Tag → Kept → Except Flaw Value} {value : Value}
    (known : tags name = some tag) (others : ∀ part ∈ parts, part.1 ≠ tagName)
    (written : ∀ part ∈ parts, Written depth part.2)
    (chosen : choose tag (.members parts) = .ok value) {setting : Setting}
    (room : depth + 1 ≤ setting.room) (rest : Bytes) :
    Tagged.read tagName tags choose setting (Tagged.write tagName name parts ++ rest) =
      .ok (value, rest) := by
  rcases enter_ok room with ⟨entered, inside⟩
  have enough := length_members (tagName, writeString name) parts (0x7D :: rest)
  have tagged := readTag_written known setting.inside
    (trailing (parts.map member) ++ 0x7D :: rest)
  have members : readMembers tagName tags setting.inside _ false (some tag) [] _ = _ :=
    readMembers_written others written inside [] enough rest
  rw [Tagged.read, Tagged.readKept, Tagged.write, skipBlanks_writeMembers]
  simp only [entered, bind, Except.bind]
  rw [List.map_cons, separated_cons, List.append_assoc, readMembers, nextMember_member_first]
  simp only [bind, Except.bind, readStringTail_written, if_true, readColon_colon, tagged, members,
    List.reverse_nil, List.nil_append, endRecord_end, chosen]

theorem written_tagged (tagName name : String)
    (written : ∀ part ∈ parts, Written depth part.2) :
    Written (depth + 1) (Tagged.write tagName name parts) := by
  apply Written.record
  intro part found
  rcases List.mem_cons.1 found with rfl | found
  · exact .string depth name
  · exact written part found

end Tagged

/-! ## Records from kept members -/

namespace Layout

variable {Record : Type} {layout : Layout Record} {depth : Nat}

private theorem Takes.readKept {slots next : layout.Slots} {part : String × Bytes}
    (takes : layout.Takes depth slots part next) (long : depth ≤ part.2.length) :
    ∃ reader, layout.fill part.1 slots = some (.ok reader) ∧
      readKept reader part.2 = .ok next := by
  rcases takes with ⟨-, reader, filled, reads⟩
  have read := reads ⟨part.2.length, true⟩ [] long ends_nil
  rw [List.append_nil] at read
  refine ⟨reader, filled, ?_⟩
  rw [Layout.readKept, Codec.parseKept]
  simp only [read]
  rfl

theorem Fills.ofMembers {last : layout.Slots} {parts : List (String × Bytes)}
    (fills : layout.Fills depth layout.empty parts last)
    (long : ∀ part ∈ parts, depth ≤ part.2.length) {record : Record}
    (finish : layout.finish last = .ok record) : layout.ofMembers parts = .ok record := by
  rw [Layout.ofMembers]
  generalize layout.empty = slots at fills
  induction fills with
  | nil slots => exact finish
  | cons takes later induction =>
      rcases takes.readKept (long _ List.mem_cons_self) with ⟨reader, filled, read⟩
      simp only [List.foldlM_cons, filled, read]
      exact induction (fun part member => long part (List.mem_cons_of_mem _ member)) finish

theorem Faithful.ofMembers (faithful : layout.Faithful depth) (record : Record)
    (long : ∀ part ∈ layout.parts record, depth ≤ part.2.length) :
    layout.ofMembers (layout.parts record) = .ok record :=
  (faithful.fills record).ofMembers long (faithful.finish record)

theorem Faithful.long (faithful : layout.Faithful 1) (record : Record) :
    ∀ part ∈ layout.parts record, 1 ≤ part.2.length :=
  fun part member => ((faithful.fills record).written part member).pos

end Layout

/-! ## Values with a tag -/

def ReadBack {Value : Type} (reader : Reader Value) (depth : Nat) (text : Bytes) (value : Value) :
    Prop :=
  Written depth text ∧ ∀ (setting : Setting) (rest : Bytes), depth ≤ setting.room → Ends rest →
    reader setting (text ++ rest) = .ok (value, rest)

theorem Codec.faithful_of_readBack {Value : Type} {codec : Codec Value} {depth : Nat}
    (each : ∀ value, ReadBack codec.read depth (codec.write value) value) :
    codec.Faithful depth where
  written value := (each value).1
  reads value := (each value).2

/-- A record with a tag is read back, if what the tag chooses makes the value of the record. -/
theorem Tagged.readBack {Tag Record Value : Type} {layout : Layout Record} {depth deeper : Nat}
    (faithful : layout.Faithful depth) (record : Record) {tagName name : String}
    (apart : tagName ∉ layout.names) {tags : String → Option Tag} {tag : Tag}
    (known : tags name = some tag) {choose : Tag → Kept → Except Flaw Value} {value : Value}
    (chosen : choose tag (.members (layout.parts record)) = .ok value) (more : depth < deeper) :
    ReadBack (Tagged.read tagName tags choose) deeper
      (Tagged.write tagName name (layout.parts record)) value := by
  have written := (faithful.fills record).written
  constructor
  · exact (written_tagged tagName name written).mono more
  · intro setting rest room _
    exact read_written known (Layout.parts_apart apart record) written chosen
      (Nat.le_trans more room) rest

end RecordGraph.Json
