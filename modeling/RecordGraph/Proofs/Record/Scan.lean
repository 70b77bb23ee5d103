import RecordGraph.Proofs.Record.Meaning
import RecordGraph.Proofs.Text.Order

namespace RecordGraph

/-! Scans list the records of a range of keys, by key and then from the oldest on. -/

/-! ## Lists in maps -/

section

variable {Key Value Item : Type} {order : Key → Key → Ordering} [Std.TransCmp order]

private def filled (wanted : Key → Bool) (items : Value → List Item)
    (map : Std.ExtTreeMap Key Value order) : List (Key × List Item) :=
  (map.toList.map fun entry => (entry.1, items entry.2)).filter fun entry =>
    wanted entry.1 && !entry.2.isEmpty

private theorem flatMap_filled (wanted : Key → Bool) (items : Value → List Item)
    (map : Std.ExtTreeMap Key Value order) :
    (filled wanted items map).flatMap (·.2) =
      (map.toList.filter fun entry => wanted entry.1).flatMap fun entry => items entry.2 := by
  rw [filled]
  induction map.toList with
  | nil => rfl
  | cons entry entries induction =>
      rw [List.map_cons, List.filter_cons, List.filter_cons]
      cases inside : wanted entry.1 with
      | false => simpa using induction
      | true =>
          cases list : items entry.2 with
          | nil => simpa [list] using induction
          | cons item others => simpa [list] using induction

private theorem ordered_filled (wanted : Key → Bool) (items : Value → List Item)
    (map : Std.ExtTreeMap Key Value order) :
    (filled wanted items map).Pairwise fun first second => order first.1 second.1 = .lt := by
  apply List.Pairwise.filter
  rw [List.pairwise_map]
  exact map.ordered_keys_toList

private theorem mem_filled [Std.LawfulEqCmp order] (wanted : Key → Bool) (items : Value → List Item)
    (map : Std.ExtTreeMap Key Value order) (key : Key) (list : List Item) :
    (key, list) ∈ filled wanted items map ↔
      wanted key = true ∧ list ≠ [] ∧ (map[key]?.map items).getD [] = list := by
  rw [filled, List.mem_filter, List.mem_map]
  constructor
  · rintro ⟨⟨entry, member, same⟩, there⟩
    rcases Prod.mk.inj same with ⟨rfl, rfl⟩
    rw [Std.ExtTreeMap.mem_toList_iff_getElem?_eq_some] at member
    simpa [member] using there
  · rintro ⟨inside, some, under⟩
    cases found : map[key]? with
    | none =>
        rw [found] at under
        exact absurd under.symm some
    | some value =>
        rw [found] at under
        refine ⟨⟨(key, value), Std.ExtTreeMap.mem_toList_iff_getElem?_eq_some.2 found, ?_⟩, ?_⟩
        · rw [← under]
          rfl
        · simpa [inside] using some

theorem flatMap_toList_eq [Std.LawfulEqCmp order] {Other : Type} (wanted : Key → Bool)
    {items : Value → List Item} {others : Other → List Item}
    {first : Std.ExtTreeMap Key Value order} {second : Std.ExtTreeMap Key Other order}
    (same : ∀ key : Key, (first[key]?.map items).getD [] = (second[key]?.map others).getD []) :
    ((first.toList.filter fun entry => wanted entry.1).flatMap fun entry => items entry.2) =
      (second.toList.filter fun entry => wanted entry.1).flatMap fun entry => others entry.2 := by
  rw [← flatMap_filled, ← flatMap_filled]
  congr 1
  have orderedFirst := ordered_filled wanted items first
  have orderedSecond := ordered_filled wanted others second
  have different {one two : Key × List Item} (less : order one.1 two.1 = .lt) : one ≠ two := by
    intro equal
    have none : order two.1 two.1 = .eq := Std.ReflCmp.compare_self
    rw [equal, none] at less
    cases less
  have permutation : (filled wanted items first).Perm (filled wanted others second) := by
    apply (List.perm_ext_iff_of_nodup (orderedFirst.imp different)
      (orderedSecond.imp different)).2
    rintro ⟨key, list⟩
    rw [mem_filled, mem_filled, same]
  apply permutation.eq_of_pairwise _ orderedFirst orderedSecond
  intro one two _ _ less greater
  exact absurd less (Std.OrientedCmp.not_lt_of_lt greater)

end

/-! ## Records of a range -/

namespace Queues

/-- The records under the wanted keys, in the order of the bytes of their keys and then from the
oldest on. -/
def listed (wanted : String → Bool) (queues : Queues) : List FieldMap :=
  ((queues.toList.mergeSort fun first second =>
    decide (Utf8.encode first.1 ≤ Utf8.encode second.1)).filter fun entry =>
      wanted entry.1).flatMap fun entry => entry.2

theorem listed_eq (wanted : String → Bool) (queues : Queues) :
    queues.listed wanted =
      (queues.toList.filter fun entry => wanted entry.1).flatMap fun entry => entry.2 := by
  rw [listed, List.mergeSort_of_pairwise]
  apply queues.ordered_keys_toList.imp
  intro first second less
  apply decide_eq_true
  rw [Utf8.encode_le_encode]
  have smaller : first.1 < second.1 := compareOfLessAndEq_eq_lt.1 less
  rcases String.le_total first.1 second.1 with before | after
  · exact before
  · exact absurd smaller (String.not_lt.2 after)

def scan (keyField start : String) (count : Nat) (queues : Queues) : List FieldMap :=
  ((queues.listed fun key => decide (Utf8.encode start ≤ Utf8.encode key) &&
    decide (Utf8.encode key ≤ Utf8.encode IndexRange.endSentinel)).take count).map
      fun record => record.erase keyField

def scanned (keyField start : String) (count : Nat) (requested : Option FieldSet)
    (queues : Queues) : Except Failure (List FieldMap) :=
  ((queues.listed fun key => decide (Utf8.encode start ≤ Utf8.encode key) &&
    decide (Utf8.encode key ≤ Utf8.encode IndexRange.endSentinel)).take count).mapM
      (select keyField requested)

theorem scanned_none (keyField start : String) (count : Nat) (queues : Queues) :
    queues.scanned keyField start count none = .ok (queues.scan keyField start count) := by
  rw [scanned, scan]
  generalize (queues.listed _).take count = records
  induction records with
  | nil => rfl
  | cons record records induction =>
      rw [List.mapM_cons, induction]
      rfl

private theorem scanned_eq (keyField start : String) (count : Nat) (requested : Option FieldSet)
    (queues : Queues) :
    queues.scanned keyField start count requested =
      (((queues.toList.filter fun entry => decide (start ≤ entry.1) &&
        decide (entry.1 ≤ IndexRange.endSentinel)).flatMap fun entry => entry.2).take count).mapM
          (select keyField requested) := by
  rw [scanned, listed_eq]
  simp only [Utf8.encode_le_encode]

end Queues

namespace Engine.Keeps

variable {engine : Engine} {binding : Binding} {queues : Queues}

private theorem records_range {index : NodeIndex}
    (keeps : Keeps binding.keys queues engine)
    (found : engine.graph.indexes[binding.index]? = some index) (start : String) (count : UInt64) :
    (index.range ((IndexRange.startingAt binding.keyField start).withLimit count)).map
        engine.graph.record? =
      (((queues.toList.filter fun entry => decide (start ≤ entry.1) &&
        decide (entry.1 ≤ IndexRange.endSentinel)).flatMap fun entry => entry.2).take
          count.toNat).map some := by
  have same (key : String) :
      (((index.entries[binding.keyField]?.getD ∅)[key]?).map fun nodes : NodeSet =>
        nodes.toList.map engine.graph.record?).getD [] =
      ((queues[key]?).map fun records => records.map some).getD [] := by
    have records := keeps.represents.records key
    have under : engine.graph.nodesUnder binding.keys key =
        (index.entries[binding.keyField]?.getD ∅)[key]?.getD ∅ := by
      have there : engine.graph.indexes[binding.keys.index]? = some index := found
      rw [Graph.nodesUnder, there]
      rfl
    rw [under, Queues.under] at records
    generalize (index.entries[binding.keyField]?.getD ∅)[key]? = nodes at records
    cases nodes with
    | none =>
        cases stored : queues[key]? with
        | none => rfl
        | some list =>
            rw [stored] at records
            exact records
    | some nodes =>
        cases stored : queues[key]? with
        | none => simpa [stored] using records
        | some list => simpa [stored] using records
  have all := flatMap_toList_eq (fun key => decide (start ≤ key) &&
    decide (key ≤ IndexRange.endSentinel)) same
  have range : index.range ((IndexRange.startingAt binding.keyField start).withLimit count) =
      (((index.entries[binding.keyField]?.getD ∅).toList.filter fun entry =>
        decide (start ≤ entry.1) && decide (entry.1 ≤ IndexRange.endSentinel)).flatMap
          fun entry => entry.2.toList).take count.toNat := rfl
  rw [range, List.map_take, List.map_flatMap, List.map_take, List.map_flatMap, all]

private def answer (keyField : String) (requested : Option FieldSet) (graph : Graph)
    (node : NodeId) : Except Failure FieldMap :=
  match graph.record? node with
  | some record => select keyField requested record
  | none => .error (.noNode node)

private theorem mapM_answer (keyField : String) (requested : Option FieldSet) {graph : Graph}
    {nodes : List NodeId} {records : List FieldMap}
    (all : nodes.map graph.record? = records.map some) :
    nodes.mapM (answer keyField requested graph) = records.mapM (select keyField requested) := by
  induction nodes generalizing records with
  | nil =>
      cases records with
      | nil => rfl
      | cons record records => cases all
  | cons node nodes induction =>
      cases records with
      | nil => cases all
      | cons record records =>
          rcases List.cons.inj all with ⟨first, others⟩
          have known : answer keyField requested graph node = select keyField requested record := by
            rw [answer, first]
          rw [List.mapM_cons, List.mapM_cons, known, induction others]

private theorem run_answer (keeps : Keeps binding.keys queues engine) {nodes : List NodeId}
    {records : List FieldMap} (all : nodes.map engine.graph.record? = records.map some)
    (requested : Option FieldSet) (node : NodeId) (member : node ∈ nodes) :
    (binding.keys.readFields node (.resolve .embedded requested)).run perform engine =
      (answer binding.keyField requested engine.graph node, engine) := by
  have known : engine.graph.record? node ∈ records.map some := by
    rw [← all]
    exact List.mem_map_of_mem member
  obtain ⟨record, -, same⟩ := List.mem_map.1 known
  obtain ⟨properties, found, rfl⟩ := Option.map_eq_some_iff.1 same.symm
  rw [keeps.run_readFields found, answer, ← same]
  rfl

/-- A scan reads the first records of its range. -/
theorem scanned (keeps : Keeps binding.keys queues engine) (embedded : binding.mode = .embedded)
    (policy : binding.scan = .indexRange) (start : String) (count : UInt64)
    (requested : Option FieldSet) :
    (Record.scan start count requested binding).run perform engine =
      (queues.scanned binding.keyField start count.toNat requested, engine) := by
  have there := keeps.represents.index
  rw [Graph.hasIndex_eq, Option.isSome_iff_exists] at there
  rcases there with ⟨index, found⟩
  have list := keeps.records_range found start count
  have ranged : (binding.keys.range start count).run perform engine =
      (.ok (index.range ((IndexRange.startingAt binding.keyField start).withLimit count)),
        engine) := by
    rw [KeyIndex.range]
    split
    · rename_i none
      rw [none]
      rfl
    · rw [Dialogue.run_ask, perform, readIndex, keeps.isOpen, found]
      rfl
  rw [Record.scan, policy, embedded]
  dsimp only
  rw [Dialogue.run_bind_ok ranged,
    Dialogue.run_forEach_still _ _ (keeps.run_answer list requested),
    mapM_answer _ _ list, Queues.scanned_eq]

theorem scan (keeps : Keeps binding.keys queues engine) (embedded : binding.mode = .embedded)
    (policy : binding.scan = .indexRange) (start : String) (count : UInt64) :
    (Record.scan start count none binding).run perform engine =
      (.ok (queues.scan binding.keyField start count.toNat), engine) := by
  rw [keeps.scanned embedded policy, Queues.scanned_none]

end Engine.Keeps

end RecordGraph
