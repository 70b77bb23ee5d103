import RecordGraph.Proofs.Json.Variant
import RecordGraph.Wire.Value

namespace RecordGraph

/-! Maps, properties and references to nodes are read back as they have been written. -/

theorem foldl_insert_toList {Key Value : Type} [BEq Key] {order : Key → Key → Ordering}
    [Std.TransCmp order] [Std.LawfulEqCmp order] [Std.LawfulBEqCmp order]
    (map : Std.ExtTreeMap Key Value order) :
    map.toList.foldl (fun whole entry => whole.insert entry.1 entry.2) ∅ = map := by
  rw [← Std.ExtTreeMap.insertMany_list_eq_foldl]
  ext1 key
  cases found : map[key]? with
  | some value =>
      have member := Std.ExtTreeMap.mem_toList_iff_getElem?_eq_some.2 found
      exact Std.ExtTreeMap.getElem?_insertMany_list_of_mem Std.ReflCmp.compare_self
        Std.ExtTreeMap.distinct_keys_toList member
  | none =>
      rw [Std.ExtTreeMap.getElem?_insertMany_list_of_contains_eq_false]
      · exact Std.ExtTreeMap.getElem?_empty
      · rw [Std.ExtTreeMap.map_fst_toList_eq_keys, Std.ExtTreeMap.contains_keys,
          Std.ExtTreeMap.contains_eq_isSome_getElem?, found]
        rfl

namespace Wire

open Json

private theorem write_nameMap {Value : Type} (item : Codec Value) (entries : NameMap Value) :
    (nameMap item).write entries = writeMembers (entries.toList.map (entryPart id item)) := rfl

theorem faithful_nameMap {Value : Type} {item : Codec Value} {depth : Nat}
    (faithful : item.Faithful depth) : (nameMap item).Faithful (depth + 1) where
  written entries := by
    rw [write_nameMap]
    exact written_entries faithful entries.toList
  reads entries setting rest room _ := by
    have read : readEntries readStringTail item.read setting
        (writeMembers (entries.toList.map (entryPart id item)) ++ rest) =
          .ok (entries.toList, rest) :=
      readEntries_written faithful readStringTail_written entries.toList setting rest room
    rw [write_nameMap, nameMap]
    simp only [read, bind, Except.bind, foldl_insert_toList]

theorem faithful_propertyValue : propertyValue.Faithful 1 where
  written value := by
    cases value with
    | text value => exact written_described _ _ (Codec.faithful_text.written value)
    | bytes value => exact written_described _ _ (Codec.faithful_bytes.written value)
  reads value setting rest room _ := by
    cases value with
    | text value =>
        have known : PropertyKind.ofName? PropertyKind.text.name = some .text := rfl
        apply Described.read_written PropertyKind.all (by decide) known room
        intro rest ends
        simp only [Codec.faithful_text.reads value _ rest (Nat.zero_le _) ends, bind, Except.bind]
    | bytes value =>
        have known : PropertyKind.ofName? PropertyKind.bytes.name = some .bytes := rfl
        apply Described.read_written PropertyKind.all (by decide) known room
        intro rest ends
        simp only [Codec.faithful_bytes.reads value _ rest (Nat.zero_le _) ends, bind,
          Except.bind]

theorem faithful_properties : properties.Faithful 2 := faithful_nameMap faithful_propertyValue

theorem faithful_nodeReference : nodeReference.Faithful 1 where
  written reference := by
    cases reference with
    | id node => exact written_single _ (Codec.faithful_word.written node)
    | job position => exact written_single _ (Codec.faithful_word.written position)
  reads reference setting rest room _ := by
    cases reference with
    | id node =>
        have known : ReferenceKind.ofName? ReferenceKind.id.name = some .id := rfl
        rw [nodeReference]
        dsimp only
        apply Single.read_written known room
        intro rest ends
        simp only [Codec.faithful_word.reads node _ rest (Nat.zero_le _) ends, bind, Except.bind]
    | job position =>
        have known : ReferenceKind.ofName? ReferenceKind.job.name = some .job := rfl
        rw [nodeReference]
        dsimp only
        apply Single.read_written known room
        intro rest ends
        simp only [Codec.faithful_word.reads position _ rest (Nat.zero_le _) ends, bind,
          Except.bind]

end Wire

end RecordGraph
