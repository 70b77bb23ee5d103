import Mathlib.Data.Finset.Basic
import RecordGraph.Proofs.Graph.Entry
import RecordGraph.Proofs.Text.Order

namespace RecordGraph

/-! What an index answers. An index is a finite set of entries, whatever has been added, removed and
purged; asked for a key and a value it lists nodes, asked for a range it lists entries, by value and
then by node. Every answer is read off the set. -/

/-! ## A history of an index -/

inductive IndexChange where
  | add (entry : Entry)
  | remove (entry : Entry)
  | purge (node : NodeId)

namespace IndexChange

def perform : IndexChange → NodeIndex → NodeIndex
  | add entry => NodeIndex.add entry.key entry.value entry.node
  | remove entry => NodeIndex.remove entry.key entry.value entry.node
  | purge node => NodeIndex.purge node

def act : IndexChange → Finset Entry → Finset Entry
  | add entry, entries => insert entry entries
  | remove entry, entries => entries.erase entry
  | purge node, entries => entries.filter (·.node ≠ node)

def performAll (changes : List IndexChange) : NodeIndex :=
  changes.foldl (fun index change => change.perform index) {}

def actAll (changes : List IndexChange) : Finset Entry :=
  changes.foldl (fun entries change => change.act entries) ∅

theorem contents_perform (change : IndexChange) (index : NodeIndex) (entries : Finset Entry)
    (same : index.contents = entries) : (change.perform index).contents = change.act entries := by
  cases change with
  | add entry => rw [perform, NodeIndex.contents_add, same, act, Finset.coe_insert]
  | remove entry => rw [perform, NodeIndex.contents_remove, same, act, Finset.coe_erase]
  | purge node => rw [perform, NodeIndex.contents_purge, same, act, Finset.coe_filter]; rfl

private theorem contents_foldl (changes : List IndexChange) (index : NodeIndex)
    (entries : Finset Entry) (same : index.contents = entries) :
    (changes.foldl (fun index change => change.perform index) index).contents =
      changes.foldl (fun entries change => change.act entries) entries := by
  induction changes generalizing index entries with
  | nil => exact same
  | cons change rest induction => exact induction _ _ (contents_perform change index entries same)

/-- The entries of an index are what its history made of the empty set. -/
theorem contents_performAll (changes : List IndexChange) :
    (performAll changes).contents = actAll changes :=
  contents_foldl changes {} ∅ (by simp)

end IndexChange

/-! ## Answers in order -/

/-- One entry is listed before another one: by the bytes of their values, then by their nodes. -/
def Entry.Before (first second : Entry) : Prop :=
  Utf8.encode first.value < Utf8.encode second.value ∨
    first.value = second.value ∧ first.node < second.node

namespace IndexRange

/-- A range asks for an entry: its key is that of the range and its value lies between the bounds,
in the order of bytes. -/
def Covers (range : IndexRange) (entry : Entry) : Prop :=
  entry.key = range.key ∧ Utf8.encode range.lower ≤ Utf8.encode entry.value ∧
    Utf8.encode entry.value ≤ Utf8.encode range.upper

structure Lists (range : IndexRange) (entries : Set Entry) (listed : List Entry) : Prop where
  ordered : listed.Pairwise Entry.Before
  members : ∀ entry, entry ∈ listed ↔ entry ∈ entries ∧ range.Covers entry

def cut (range : IndexRange) (nodes : List NodeId) : List NodeId :=
  match range.limit with
  | none => nodes
  | some limit => nodes.take limit.toNat

theorem includes_iff (range : IndexRange) (value : String) :
    range.includes value = true ↔ Utf8.encode range.lower ≤ Utf8.encode value ∧
      Utf8.encode value ≤ Utf8.encode range.upper := by
  rw [Utf8.encode_le_encode, Utf8.encode_le_encode, includes, Bool.and_eq_true, decide_eq_true_iff,
    decide_eq_true_iff]

theorem not_covers_of_upper_lt {range : IndexRange}
    (reversed : Utf8.encode range.upper < Utf8.encode range.lower) (entry : Entry) :
    ¬ range.Covers entry := by
  rintro ⟨-, lower, upper⟩
  rw [Utf8.encode_le_encode] at lower upper
  exact Utf8.encode_le_encode.2 (String.le_trans lower upper) reversed

@[simp] theorem cut_nil (range : IndexRange) : range.cut [] = [] := by
  unfold cut
  split <;> simp

end IndexRange

namespace NodeIndex

theorem mem_get {index : NodeIndex} {key value : String} {node : NodeId} :
    node ∈ index.get key value ↔ (⟨key, value, node⟩ : Entry) ∈ index.contents := by
  rw [get, Std.ExtTreeSet.mem_toList, mem_contents]

theorem get_ascending (index : NodeIndex) (key value : String) :
    (index.get key value).Pairwise (· < ·) :=
  Std.ExtTreeSet.ordered_toList.imp Std.compare_eq_lt.1

private def valuesWithin (index : NodeIndex) (range : IndexRange) : List (String × NodeSet) :=
  (index.entries[range.key]?.getD ∅).toList.filter fun (value, _) => range.includes value

/-- The entries of a range as the index runs through them: value by value. -/
def listing (index : NodeIndex) (range : IndexRange) : List Entry :=
  (valuesWithin index range).flatMap fun (value, nodes) =>
    nodes.toList.map fun node => ⟨range.key, value, node⟩

theorem range_eq_listing (index : NodeIndex) (range : IndexRange) :
    index.range range = range.cut ((index.listing range).map Entry.node) := by
  have found : (index.listing range).map Entry.node =
      (valuesWithin index range).flatMap fun (_, nodes) => nodes.toList := by
    simp [listing, List.map_flatMap, Function.comp_def]
  rw [found]
  rfl

private theorem mem_valuesWithin {index : NodeIndex} {range : IndexRange} {value : String}
    {nodes : NodeSet} :
    (value, nodes) ∈ valuesWithin index range ↔
      (index.entries[range.key]?.getD ∅)[value]? = some nodes ∧ range.includes value = true := by
  rw [valuesWithin, List.mem_filter, Std.ExtTreeMap.mem_toList_iff_getElem?_eq_some]

theorem mem_listing {index : NodeIndex} {range : IndexRange} {entry : Entry} :
    entry ∈ index.listing range ↔ entry ∈ index.contents ∧ range.Covers entry := by
  have within : entry ∈ index.listing range ↔ ∃ nodes : NodeSet,
      ((index.entries[range.key]?.getD ∅)[entry.value]? = some nodes ∧ entry.node ∈ nodes) ∧
        entry.key = range.key ∧ range.includes entry.value = true := by
    rw [listing, List.mem_flatMap]
    constructor
    · rintro ⟨⟨value, nodes⟩, member, mapped⟩
      rcases List.mem_map.1 mapped with ⟨node, listed, rfl⟩
      rcases mem_valuesWithin.1 member with ⟨found, included⟩
      exact ⟨nodes, ⟨found, Std.ExtTreeSet.mem_toList.1 listed⟩, rfl, included⟩
    · rintro ⟨nodes, ⟨found, listed⟩, key, included⟩
      refine ⟨(entry.value, nodes), mem_valuesWithin.2 ⟨found, included⟩, ?_⟩
      exact List.mem_map.2 ⟨entry.node, Std.ExtTreeSet.mem_toList.2 listed, by rw [← key]⟩
  rw [within, IndexRange.Covers, ← IndexRange.includes_iff]
  constructor
  · rintro ⟨nodes, ⟨found, listed⟩, key, included⟩
    refine ⟨?_, key, included⟩
    rw [mem_contents, nodesAt, key, found]
    exact listed
  · rintro ⟨listed, key, included⟩
    rw [mem_contents, nodesAt, key] at listed
    cases found : (index.entries[range.key]?.getD ∅)[entry.value]? with
    | none =>
        rw [found] at listed
        exact absurd listed Std.ExtTreeSet.not_mem_empty
    | some nodes =>
        rw [found] at listed
        exact ⟨nodes, ⟨rfl, listed⟩, key, included⟩

theorem listing_ordered (index : NodeIndex) (range : IndexRange) :
    (index.listing range).Pairwise Entry.Before := by
  rw [listing, List.pairwise_flatMap]
  constructor
  -- the nodes of one value
  · rintro ⟨value, nodes⟩ -
    rw [List.pairwise_map]
    exact Std.ExtTreeSet.ordered_toList.imp fun less => .inr ⟨rfl, Std.compare_eq_lt.1 less⟩
  -- one value before another one
  · refine List.Pairwise.filter _ (Std.ExtTreeMap.ordered_keys_toList.imp ?_)
    intro first second less one memberOne two memberTwo
    rcases List.mem_map.1 memberOne with ⟨_, -, rfl⟩
    rcases List.mem_map.1 memberTwo with ⟨_, -, rfl⟩
    exact .inl (Utf8.encode_lt (compareOfLessAndEq_eq_lt.1 less))

theorem lists_listing (index : NodeIndex) (range : IndexRange) :
    range.Lists index.contents (index.listing range) where
  ordered := index.listing_ordered range
  members _ := mem_listing

theorem range_eq_nil {index : NodeIndex} {range : IndexRange}
    (uncovered : ∀ entry ∈ index.contents, ¬ range.Covers entry) : index.range range = [] := by
  have empty : index.listing range = [] := by
    rw [List.eq_nil_iff_forall_not_mem]
    intro entry listed
    rcases mem_listing.1 listed with ⟨member, covered⟩
    exact uncovered entry member covered
  rw [range_eq_listing, empty, List.map_nil, IndexRange.cut_nil]

end NodeIndex

/-! ## Answers of an index with a history -/

/-- After any history an index answers as the set that the same history made of no entries: a key
and a value with the nodes registered there, in ascending order; a range with the nodes of its
entries, as far as the limit goes; a range of reversed bounds or of an unknown key with none. -/
theorem answers_of_history (changes : List IndexChange) :
    (∀ key value,
      ((IndexChange.performAll changes).get key value).Pairwise (· < ·) ∧
      ∀ node, node ∈ (IndexChange.performAll changes).get key value ↔
        ⟨key, value, node⟩ ∈ IndexChange.actAll changes) ∧
    ∀ range : IndexRange,
      (∃ listed, range.Lists (IndexChange.actAll changes) listed ∧
        (IndexChange.performAll changes).range range = range.cut (listed.map Entry.node)) ∧
      (Utf8.encode range.upper < Utf8.encode range.lower →
        (IndexChange.performAll changes).range range = []) ∧
      ((∀ entry ∈ IndexChange.actAll changes, entry.key ≠ range.key) →
        (IndexChange.performAll changes).range range = []) := by
  have contents := IndexChange.contents_performAll changes
  generalize IndexChange.performAll changes = index at contents
  refine ⟨fun key value => ⟨index.get_ascending key value, fun node => ?_⟩, fun range => ?_⟩
  · rw [NodeIndex.mem_get, contents, Finset.mem_coe]
  refine ⟨?_, ?_, ?_⟩
  · exact ⟨index.listing range, contents ▸ index.lists_listing range, index.range_eq_listing range⟩
  · intro reversed
    exact NodeIndex.range_eq_nil fun entry _ => IndexRange.not_covers_of_upper_lt reversed entry
  · intro unknown
    refine NodeIndex.range_eq_nil fun entry member covered => ?_
    rw [contents, Finset.mem_coe] at member
    exact unknown entry member covered.1

/-- One node under two values, two nodes under one, and a value emptied again. -/
theorem answers_of_history_crossed :
    let changes : List IndexChange :=
      [.add ⟨"k", "b", 2⟩, .add ⟨"k", "b", 1⟩, .add ⟨"k", "a", 2⟩, .add ⟨"k", "c", 3⟩,
        .remove ⟨"k", "b", 1⟩, .add ⟨"m", "b", 3⟩, .purge 3]
    (Utf8.encode "a" < Utf8.encode "b" ∧
      (IndexChange.performAll changes).range { key := "k", lower := "b", upper := "a" } = []) ∧
    ((∀ entry ∈ IndexChange.actAll changes, entry.key ≠ "m") ∧
      (IndexChange.performAll changes).range (.startingAt "m" "") = []) ∧
    (IndexChange.performAll changes).range (.startingAt "k" "") = [2, 2] := by
  intro changes
  rcases answers_of_history changes with ⟨-, ranges⟩
  have reversed : Utf8.encode "a" < Utf8.encode "b" := by decide +kernel
  have unknown : ∀ entry ∈ IndexChange.actAll changes, entry.key ≠ "m" := by decide +kernel
  exact ⟨⟨reversed, (ranges _).2.1 reversed⟩, ⟨unknown, (ranges (.startingAt "m" "")).2.2 unknown⟩,
    by decide +kernel⟩

end RecordGraph
