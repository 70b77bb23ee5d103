import Mathlib.Data.Set.Insert
import RecordGraph.Graph.Index

namespace RecordGraph

/-! The entries of an index. An index is a set of entries, each of a key, a value and a node; how
they are nested does not matter. -/

structure Entry where
  key : String
  value : String
  node : NodeId
  deriving DecidableEq

namespace NodeIndex

def contents (index : NodeIndex) : Set Entry :=
  {entry | entry.node ∈ index.nodesAt entry.key entry.value}

theorem mem_contents {index : NodeIndex} {entry : Entry} :
    entry ∈ index.contents ↔ entry.node ∈ index.nodesAt entry.key entry.value := Iff.rfl

@[simp] theorem contents_empty : ({} : NodeIndex).contents = ∅ := by
  ext entry
  simp [mem_contents, nodesAt]

/-! ## Collections that are dropped when they are empty -/

private theorem getD_kept_set (nodes : NodeSet) :
    (if nodes.isEmpty then none else some nodes).getD ∅ = nodes := by
  split
  · rename_i empty
    exact (Std.ExtTreeSet.isEmpty_iff.1 empty).symm
  · rfl

private theorem getD_kept_map (values : NameMap NodeSet) :
    (if values.isEmpty then none else some values).getD ∅ = values := by
  split
  · rename_i empty
    exact (Std.ExtTreeMap.isEmpty_iff.1 empty).symm
  · rfl

private theorem getD_put_set (values : NameMap NodeSet) (value other : String) (nodes : NodeSet) :
    (if nodes.isEmpty then values.erase value else values.insert value nodes)[other]?.getD ∅ =
      if value = other then nodes else values[other]?.getD ∅ := by
  by_cases same : value = other
  · subst same
    rw [if_pos rfl, ← getD_kept_set nodes]
    split <;> simp_all
  · rw [if_neg same]
    split <;>
      simp [Std.ExtTreeMap.getElem?_erase, Std.ExtTreeMap.getElem?_insert, same]

private theorem getD_put_map (entries : NameMap (NameMap NodeSet)) (key other : String)
    (values : NameMap NodeSet) :
    (if values.isEmpty then entries.erase key else entries.insert key values)[other]?.getD ∅ =
      if key = other then values else entries[other]?.getD ∅ := by
  by_cases same : key = other
  · subst same
    rw [if_pos rfl, ← getD_kept_map values]
    split <;> simp_all
  · rw [if_neg same]
    split <;>
      simp [Std.ExtTreeMap.getElem?_erase, Std.ExtTreeMap.getElem?_insert, same]

/-! ## What each change does to the entries -/

theorem nodesAt_add (index : NodeIndex) (key value key' value' : String) (node : NodeId) :
    (index.add key value node).nodesAt key' value' =
      if key = key' ∧ value = value' then (index.nodesAt key value).insert node
      else index.nodesAt key' value' := by
  by_cases sameKey : key = key'
  · subst sameKey
    by_cases sameValue : value = value'
    · subst sameValue
      simp [nodesAt, add]
    · simp [nodesAt, add, Std.ExtTreeMap.getElem?_insert, sameValue]
  · simp [nodesAt, add, Std.ExtTreeMap.getElem?_insert, sameKey]

theorem getD_withoutNode (values : NameMap NodeSet) (value value' : String) (node : NodeId) :
    (withoutNode value node values)[value']?.getD ∅ =
      if value = value' then (values[value]?.getD ∅).erase node else values[value']?.getD ∅ := by
  unfold withoutNode
  cases found : values[value]? with
  | none =>
      by_cases same : value = value'
      · subst same
        simp [found]
      · simp [same]
  | some nodes => exact getD_put_set values value value' (nodes.erase node)

theorem nodesAt_remove (index : NodeIndex) (key value key' value' : String) (node : NodeId) :
    (index.remove key value node).nodesAt key' value' =
      if key = key' ∧ value = value' then (index.nodesAt key value).erase node
      else index.nodesAt key' value' := by
  have entries : (index.remove key value node).entries[key']?.getD ∅ =
      if key = key' then withoutNode value node (index.entries[key]?.getD ∅)
      else index.entries[key']?.getD ∅ := by
    unfold remove
    cases found : index.entries[key]? with
    | none =>
        by_cases same : key = key'
        · subst same
          simp [found, withoutNode]
        · simp [same]
    | some values =>
        rw [Option.getD_some, ← getD_put_map]
        exact congrArg (fun kept : NodeIndex => kept.entries[key']?.getD ∅)
          (apply_ite NodeIndex.mk _ _ _).symm
  unfold nodesAt
  rw [entries]
  by_cases sameKey : key = key'
  · subst sameKey
    simp [getD_withoutNode]
  · simp [sameKey]

theorem nodesAt_purge (index : NodeIndex) (key value : String) (node : NodeId) :
    (index.purge node).nodesAt key value = (index.nodesAt key value).erase node := by
  unfold nodesAt purge
  rw [Std.ExtTreeMap.getElem?_filterMap']
  cases index.entries[key]? with
  | none => simp
  | some values =>
      simp only [Option.bind_some, Option.getD_some]
      rw [getD_kept_map, Std.ExtTreeMap.getElem?_filterMap']
      cases values[value]? with
      | none => simp
      | some nodes => exact getD_kept_set (nodes.erase node)

@[simp] theorem contents_add (index : NodeIndex) (key value : String) (node : NodeId) :
    (index.add key value node).contents = insert ⟨key, value, node⟩ index.contents := by
  ext ⟨key', value', node'⟩
  rw [Set.mem_insert_iff, mem_contents, mem_contents, nodesAt_add]
  split
  · rename_i same
    rcases same with ⟨rfl, rfl⟩
    simp [Std.ExtTreeSet.mem_insert, @eq_comm _ node' node]
  · rename_i different
    simp only [Entry.mk.injEq]
    constructor
    · exact Or.inr
    · rintro (⟨rfl, rfl, -⟩ | present)
      · exact absurd ⟨rfl, rfl⟩ different
      · exact present

@[simp] theorem contents_remove (index : NodeIndex) (key value : String) (node : NodeId) :
    (index.remove key value node).contents = index.contents \ {⟨key, value, node⟩} := by
  ext ⟨key', value', node'⟩
  rw [Set.mem_sdiff, Set.mem_singleton_iff, mem_contents, mem_contents, nodesAt_remove]
  split
  · rename_i same
    rcases same with ⟨rfl, rfl⟩
    simp [Std.ExtTreeSet.mem_erase, @eq_comm _ node' node, and_comm]
  · rename_i different
    simp only [Entry.mk.injEq]
    constructor
    · exact fun present => ⟨present, fun same => different ⟨same.1.symm, same.2.1.symm⟩⟩
    · exact And.left

@[simp] theorem contents_purge (index : NodeIndex) (node : NodeId) :
    (index.purge node).contents = {entry ∈ index.contents | entry.node ≠ node} := by
  ext entry
  rw [Set.mem_sep_iff, mem_contents, mem_contents, nodesAt_purge]
  simp [Std.ExtTreeSet.mem_erase, @eq_comm _ entry.node node, and_comm]

end NodeIndex

end RecordGraph
