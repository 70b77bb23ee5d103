import RecordGraph.Proofs.Toml.Number
import RecordGraph.Proofs.Toml.Text
import RecordGraph.Toml.Document

namespace RecordGraph.Toml

/-! Written documents are read back. A document of settings, one on each line, is read as the table
of its names and values. -/

variable {name : String} {value : Value} {rest : List Char} {fuel : Nat}

/-! ## Names -/

def Bare (name : String) : Prop := name.toList ≠ [] ∧ ∀ character ∈ name.toList, isBare character

instance (name : String) : Decidable (Bare name) :=
  @instDecidableAnd _ _ inferInstance (List.decidableBAll _ name.toList)

theorem Bare.cons (bare : Bare name) :
    ∃ first others, name.toList = first :: others ∧ isBare first = true := by
  rcases bare with ⟨some, all⟩
  cases characters : name.toList with
  | nil => exact absurd characters some
  | cons first others => exact ⟨first, others, rfl, all first (characters ▸ List.mem_cons_self)⟩

theorem readName_bare (bare : Bare name) (rest : List Char) :
    readName (name.toList ++ ' ' :: rest) = some (name, ' ' :: rest) := by
  rcases bare.cons with ⟨first, others, characters, start⟩
  have taken : (name.toList ++ ' ' :: rest).takeWhile isBare = name.toList := by
    rw [List.takeWhile_append_of_pos bare.2]
    exact List.append_nil _
  have dropped : (name.toList ++ ' ' :: rest).dropWhile isBare = ' ' :: rest := by
    rw [List.dropWhile_append_of_pos bare.2]
    rfl
  have some : name.toList.isEmpty = false := by
    rw [characters]
    rfl
  rw [readName, taken, dropped, some]
  · rw [if_neg Bool.false_ne_true, String.ofList_toList]
  · intro body same
    rw [characters] at same
    exact ne_of_test start rfl (List.cons.inj same).1
  · intro body same
    rw [characters] at same
    exact ne_of_test start rfl (List.cons.inj same).1

private theorem skipSpaces_of_ne {character : Char} (solid : isSpace character = false)
    (rest : List Char) : skipSpaces (character :: rest) = character :: rest := by
  rw [skipSpaces, List.dropWhile_cons_of_neg]
  rw [solid]
  exact Bool.false_ne_true

theorem skipSpaces_bare (bare : Bare name) (rest : List Char) :
    skipSpaces (name.toList ++ rest) = name.toList ++ rest := by
  rcases bare.cons with ⟨first, others, characters, start⟩
  have solid : isSpace first = false := by
    rw [isSpace, decide_eq_false (ne_of_test start rfl), decide_eq_false (ne_of_test start rfl)]
    rfl
  rw [characters]
  exact skipSpaces_of_ne solid _

theorem readKey_bare (bare : Bare name) (rest : List Char) :
    readKey (name.toList ++ ' ' :: '=' :: rest) = some (([], name), '=' :: rest) := by
  rw [readKey, depthLimit, readNames, skipSpaces_bare bare, readName_bare bare]
  rfl

/-! ## Values -/

def writeValue : Value → List Char
  | .text text => writeText text
  | .integer value => Nat.toDigits 10 value.toNat
  | .other => []

/-- What can be written: texts, and numbers without a sign that fit into 64 bits with one. -/
def Value.Writable : Value → Prop
  | .text _ => True
  | .integer value => 0 ≤ value ∧ value.toNat < Nat.pow 2 63
  | .other => False

theorem writeText_cons (text : String) :
    ∃ (quotes : Quotes) (more : List Char), writeText text = quotes.mark :: more := by
  rw [writeText, TextForm.write_eq]
  split
  · exact ⟨_, _, rfl⟩
  · exact ⟨_, _, rfl⟩

theorem readValue_written (writable : value.Writable) (fuel room : Nat) (rest : List Char) :
    readValue (fuel + 1) room (writeValue value ++ '\n' :: rest) = some (value, '\n' :: rest) := by
  cases value with
  | text text =>
      have other (quotes : Quotes) : ('\n' :: rest).head? ≠ some quotes.mark :=
        fun same => mark_ne_newline quotes (Option.some.inj same).symm
      have read := readText_writeText text other
      rcases writeText_cons text with ⟨quotes, more, same⟩
      rw [writeValue]
      rw [same] at read ⊢
      cases quotes with
      | double =>
          rw [Quotes.mark, List.cons_append] at read ⊢
          rw [readValue, read]
          rfl
      | single =>
          rw [Quotes.mark, List.cons_append] at read ⊢
          rw [readValue, read]
          rfl
  | integer value =>
      have read := readNumber_toDigits writable.2 rest
      rcases toDigits_cons value.toNat with ⟨first, others, same, decimal, -⟩
      have digit := decimal first List.mem_cons_self
      rw [Int.toNat_of_nonneg writable.1] at read
      rw [writeValue]
      rw [same, List.cons_append] at read ⊢
      rw [readValue, read]
      · rfl
      all_goals
        intro more equal
        exact ne_of_test digit rfl (List.cons.inj equal).1
  | other => exact writable.elim

theorem skipSpaces_writeValue (writable : value.Writable) (rest : List Char) :
    skipSpaces (writeValue value ++ rest) = writeValue value ++ rest := by
  cases value with
  | text text =>
      rcases writeText_cons text with ⟨quotes, more, same⟩
      rw [writeValue, same]
      refine skipSpaces_of_ne ?_ _
      cases quotes with
      | double => rfl
      | single => rfl
  | integer value =>
      rcases toDigits_cons value.toNat with ⟨first, others, same, decimal, -⟩
      have digit := decimal first List.mem_cons_self
      rw [writeValue, same]
      refine skipSpaces_of_ne ?_ _
      rw [isSpace, decide_eq_false (ne_of_test digit rfl),
        decide_eq_false (ne_of_test digit rfl)]
      rfl
  | other => exact writable.elim

/-! ## Lines -/

def line (entry : String × Value) : List Char :=
  entry.1.toList ++ [' ', '=', ' '] ++ writeValue entry.2 ++ ['\n']

def plainSetting (entry : String × Value) : Table.Setting := ⟨[], entry.1, entry.2⟩

theorem line_append (entry : String × Value) (rest : List Char) :
    line entry ++ rest =
      entry.1.toList ++ ' ' :: '=' :: ' ' :: (writeValue entry.2 ++ '\n' :: rest) := by
  rw [line, List.append_assoc, List.append_assoc, List.append_assoc]
  rfl

theorem readSetting_line {entry : String × Value} (bare : Bare entry.1)
    (writable : entry.2.Writable) (fuel room : Nat) (rest : List Char) :
    readSetting (fuel + 2) room (line entry ++ rest) =
      some (plainSetting entry, '\n' :: rest) := by
  have start : skipSpaces (' ' :: (writeValue entry.2 ++ '\n' :: rest)) =
      writeValue entry.2 ++ '\n' :: rest := skipSpaces_writeValue writable _
  have equals : expect '=' ('=' :: ' ' :: (writeValue entry.2 ++ '\n' :: rest)) =
      some (' ' :: (writeValue entry.2 ++ '\n' :: rest)) := rfl
  rw [line_append, readSetting, readKey_bare bare]
  simp only [bind, Option.bind, equals, start, readValue_written writable]
  rfl

theorem line_cons {entry : String × Value} (bare : Bare entry.1) (rest : List Char) :
    ∃ first more, line entry ++ rest = first :: more ∧ isBare first = true := by
  rcases bare.cons with ⟨first, others, characters, start⟩
  rw [line_append, characters]
  exact ⟨first, _, rfl, start⟩

theorem readLines_lines {entries : List (String × Value)}
    (bare : ∀ entry ∈ entries, Bare entry.1) (writable : ∀ entry ∈ entries, entry.2.Writable)
    (enough : entries.length < fuel) :
    readLines fuel (entries.flatMap line) = some (entries.map plainSetting, []) := by
  induction entries generalizing fuel with
  | nil =>
      rcases Nat.exists_eq_succ_of_ne_zero (Nat.ne_zero_of_lt enough) with ⟨more, rfl⟩
      rw [readLines]
      rfl
  | cons entry entries induction =>
      rcases Nat.exists_eq_succ_of_ne_zero (Nat.ne_zero_of_lt enough) with ⟨more, rfl⟩
      have own := bare entry List.mem_cons_self
      have others := induction (fun other member => bare other (List.mem_cons_of_mem _ member))
        (fun other member => writable other (List.mem_cons_of_mem _ member))
        (Nat.lt_of_succ_lt_succ enough)
      have setting := readSetting_line own (writable entry List.mem_cons_self)
        (4 * (line entry ++ entries.flatMap line).length + 2) depthLimit (entries.flatMap line)
      have solid : skipSpaces (line entry ++ entries.flatMap line) =
          line entry ++ entries.flatMap line := by
        rw [line_append]
        exact skipSpaces_bare own _
      rcases line_cons own (entries.flatMap line) with ⟨first, later, start, ofName⟩
      have other (character : Char) (different : isBare character = false) (more : List Char) :
          line entry ++ entries.flatMap line ≠ character :: more := by
        rw [start]
        exact fun same => ne_of_test ofName different (List.cons.inj same).1
      have setsName : ['#', '\n', '\r'].contains
          ((line entry ++ entries.flatMap line).headD ' ') = false := by
        rw [start, Bool.eq_false_iff]
        intro among
        have listed := List.contains_iff_mem.1 among
        have different : ['#', '\n', '\r'].all (!isBare ·) = true := by decide
        exact ne_of_test ofName (by simpa using List.all_eq_true.1 different first listed) rfl
      rw [List.flatMap_cons, readLines, solid]
      split
      · rename_i same
        rw [start] at same
        cases same
      · rename_i same
        exact absurd same (other '[' rfl _)
      · rename_i same
        exact absurd same (other '[' rfl _)
      · have ended : endLine ('\n' :: entries.flatMap line) = some (entries.flatMap line) := rfl
        rw [setsName, if_neg Bool.false_ne_true, setting]
        simp only [bind, Option.bind, ended, others]
        rfl

/-! ## Tables -/

namespace Table

variable {table : Table} {item : Item}

theorem put_of_absent (absent : name ∉ table.map Prod.fst) :
    table.put name item = table ++ [(name, item)] := by
  induction table with
  | nil => rfl
  | cons entry table induction =>
      rw [List.map_cons, List.mem_cons, not_or] at absent
      rw [put, if_neg (Ne.symm absent.1), induction absent.2]
      rfl

theorem find?_of_absent (absent : name ∉ table.map Prod.fst) : table.find? name = none := by
  refine List.lookup_eq_none_iff.2 fun entry member => bne_iff_ne.2 ?_
  rintro rfl
  exact absent (List.mem_map_of_mem member)

theorem set_plain {entry : String × Value} (absent : entry.1 ∉ table.map Prod.fst) :
    table.set (plainSetting entry) = some (table ++ [(entry.1, .value entry.2)]) := by
  have missing : table.find? (plainSetting entry).name = none := find?_of_absent absent
  have kept : ¬((plainSetting entry).path.isEmpty = (Origin.heading = .dots : Bool)) := nofun
  rw [set, plainSetting, within, ← plainSetting, set.add, if_neg kept, missing]
  exact congrArg some (put_of_absent absent)

theorem setAll_plain {entries : List (String × Value)}
    (distinct : (table.map Prod.fst ++ entries.map Prod.fst).Nodup) :
    setAll (entries.map plainSetting) table =
      some (table ++ entries.map fun entry => (entry.1, .value entry.2)) := by
  induction entries generalizing table with
  | nil => exact congrArg some (List.append_nil table).symm
  | cons entry entries induction =>
      rw [List.map_cons] at distinct
      have absent : entry.1 ∉ table.map Prod.fst := fun member =>
        (List.nodup_append.1 distinct).2.2 _ member _ List.mem_cons_self rfl
      have later := @induction (table ++ [(entry.1, .value entry.2)]) (by
        rw [List.map_append, List.append_assoc]
        exact distinct)
      rw [setAll] at later ⊢
      rw [List.map_cons, List.foldlM_cons, set_plain absent]
      simp only [bind, Option.bind]
      rw [later, List.append_assoc]
      rfl

end Table

/-! ## Documents -/

theorem length_le_lines (entries : List (String × Value)) :
    entries.length ≤ (entries.flatMap line).length := by
  induction entries with
  | nil => exact Nat.le_refl _
  | cons entry entries induction =>
      rw [List.flatMap_cons, List.length_append, List.length_cons, line, List.length_append,
        List.length_singleton]
      omega

/-- A written document is read as the table of what has been written. -/
theorem read_write {entries : List (String × Value)} (bare : ∀ entry ∈ entries, Bare entry.1)
    (writable : ∀ entry ∈ entries, entry.2.Writable)
    (distinct : (entries.map Prod.fst).Nodup) :
    read (write (entries.map fun entry => (entry.1, writeValue entry.2))) =
      some (entries.map fun entry => (entry.1, .value entry.2)) := by
  have characters :
      (write (entries.map fun entry => (entry.1, writeValue entry.2))).toList =
        entries.flatMap line := by
    rw [write, String.toList_ofList, List.flatMap_map]
    rfl
  have unmarked (more : List Char) : entries.flatMap line ≠ '\uFEFF' :: more := by
    cases entries with
    | nil => exact nofun
    | cons entry entries =>
        rcases line_cons (bare entry List.mem_cons_self) (entries.flatMap line) with
          ⟨first, later, start, ofName⟩
        rw [List.flatMap_cons, start]
        exact fun same => ne_of_test ofName rfl (List.cons.inj same).1
  have lines := readLines_lines bare writable
    (Nat.lt_succ_of_le (length_le_lines entries))
  have table : Table.setAll (entries.map plainSetting) [] =
      some (entries.map fun entry => (entry.1, .value entry.2)) := Table.setAll_plain distinct
  rw [read, characters]
  dsimp only
  split
  · rename_i marked
    exact absurd marked (unmarked _)
  · simp only [lines, bind, Option.bind, Table.ofParts, table]
    rfl

end RecordGraph.Toml
