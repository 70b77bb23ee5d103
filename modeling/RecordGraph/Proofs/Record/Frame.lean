import RecordGraph.Proofs.Graph.Sound
import RecordGraph.Proofs.Record.Keyed

namespace RecordGraph

/-! What the changes of a record do to a graph, and that they do nothing else: which node is
concerned, what becomes of its properties, and which entries come and go in all indexes. -/

/-! ## Properties under fields -/

namespace Graph

variable {keys : KeyIndex} {key : String} {fields : FieldMap} {node : NodeId} {graph : Graph}

private theorem getElem?_foldl_absent {list : List (String × Bytes)} {name : String}
    (absent : ∀ field ∈ list, field.1 ≠ name) (properties : Properties) :
    (list.foldl (fun whole field => whole.insert field.1 (.ofField field.2)) properties)[name]? =
      properties[name]? := by
  induction list generalizing properties with
  | nil => rfl
  | cons field list induction =>
      have other : field.1 ≠ name := absent field List.mem_cons_self
      rw [List.foldl_cons, induction fun later member => absent later (List.mem_cons_of_mem _ member),
        Std.ExtTreeMap.getElem?_insert]
      simp [other]

theorem cover_lookup (properties : Properties) (fields : FieldMap) (name : String) :
    (cover properties fields)[name]? = (fields[name]?.map .bytes).or properties[name]? := by
  rw [cover]
  cases given : fields[name]? with
  | none =>
      refine getElem?_foldl_absent (fun field member same => ?_) properties
      have found := Std.ExtTreeMap.mem_toList_iff_getElem?_eq_some.1 member
      rw [same, given] at found
      cases found
  | some value =>
      -- the fields are in the order of their names, so none of the later ones has this name
      have member := Std.ExtTreeMap.mem_toList_iff_getElem?_eq_some.2 given
      have order := fields.distinct_keys_toList
      rcases List.append_of_mem member with ⟨before, later, split⟩
      rw [split, List.pairwise_append, List.pairwise_cons] at order
      rw [split, List.foldl_append, List.foldl_cons, getElem?_foldl_absent,
        Std.ExtTreeMap.getElem?_insert_self]
      · rfl
      · intro field among same
        exact order.2.1.1 field among (by simp [same])

theorem picture_nodes_settings {properties : Properties} (fields : FieldMap)
    (found : graph.nodes[node]? = some properties) :
    (graph.performAll (settings node fields)).picture.nodes =
      Function.update graph.picture.nodes node (some (cover properties fields)) := by
  funext other
  rw [picture_nodes, (performAll_settings fields found).2]
  by_cases same : other = node
  · rw [if_pos same.symm, same, Function.update_self]
  · rw [if_neg (Ne.symm same), Function.update_of_ne same, picture_nodes]

end Graph

/-! ## An entry that goes and comes back -/

namespace NodeIndex

variable {index : NodeIndex} {key value : String} {node : NodeId}

private theorem insert_found {Value : Type} {map changed : NameMap Value} {name : String}
    {content : Value} (found : map[name]? = some content)
    (same : ∀ other, name ≠ other → changed[other]? = map[other]?) :
    changed.insert name content = map := by
  ext1 other
  rw [Std.ExtTreeMap.getElem?_insert]
  by_cases own : name = other
  · simp [← own, found]
  · simp [own, same other own]

private theorem getElem?_withoutNode {values : NameMap NodeSet} {other : String}
    (different : value ≠ other) : (withoutNode value node values)[other]? = values[other]? := by
  rw [withoutNode]
  split
  · rfl
  · dsimp only
    split
    · simp [Std.ExtTreeMap.getElem?_erase, different]
    · simp [Std.ExtTreeMap.getElem?_insert, different]

private theorem insert_erase {nodes : NodeSet} (member : node ∈ nodes) :
    (nodes.erase node).insert node = nodes := by
  ext1 other
  rw [Std.ExtTreeSet.mem_insert, Std.ExtTreeSet.mem_erase, Std.LawfulEqCmp.compare_eq_iff_eq]
  by_cases same : node = other
  · simp [← same, member]
  · simp [same]

/-- An entry that is taken out and entered again leaves the index as it was, down to the maps that
it is kept in. -/
theorem add_remove (member : node ∈ index.nodesAt key value) :
    (index.remove key value node).add key value node = index := by
  rw [nodesAt] at member
  cases there : index.entries[key]? with
  | none => simp [there] at member
  | some values =>
      rw [there, Option.getD_some] at member
      cases found : values[value]? with
      | none => simp [found] at member
      | some nodes =>
          rw [found, Option.getD_some] at member
          set others := withoutNode value node values with others_eq
          have left : others[value]?.getD ∅ = nodes.erase node := by
            rw [others_eq, getD_withoutNode, if_pos rfl, found, Option.getD_some]
          have refilled : others.insert value ((others[value]?.getD ∅).insert node) = values := by
            rw [left, insert_erase member]
            exact insert_found found fun other different => getElem?_withoutNode different
          have removed : index.remove key value node =
              if others.isEmpty then { entries := index.entries.erase key }
              else { entries := index.entries.insert key others } := by
            rw [remove, there]
          have kept : (index.remove key value node).entries[key]?.getD ∅ = others := by
            rw [removed]
            split
            · rename_i empty
              simp [Std.ExtTreeMap.isEmpty_iff.1 empty]
            · simp
          rw [add, kept]
          dsimp only
          rw [refilled]
          refine congrArg NodeIndex.mk (insert_found there fun other different => ?_)
          rw [removed]
          split
          · simp [Std.ExtTreeMap.getElem?_erase, different]
          · simp [Std.ExtTreeMap.getElem?_insert, different]

end NodeIndex

/-! ## What changes, and what does not -/

namespace Graph

variable {keys : KeyIndex} {key : String} {fields : FieldMap} {node : NodeId}
  {graph before after : Graph}

def Oldest (keys : KeyIndex) (key : String) (node : NodeId) (graph : Graph) : Prop :=
  node ∈ graph.nodesUnder keys key ∧ ∀ other ∈ graph.nodesUnder keys key, node ≤ other

/-- One node has come to the graph, and one entry to the index of the keys. The node has the fields
as its properties, and the key, unless a field is in its place. If there has been a node of this
number, what it has had besides is still there. -/
structure Inserted (keys : KeyIndex) (key : String) (fields : FieldMap) (node : NodeId)
    (before after : Graph) : Prop where
  nodes : ∃ properties : Properties,
    after.picture.nodes = Function.update before.picture.nodes node (some properties) ∧
      ∀ name, properties[name]? = (fields[name]?.map .bytes).or
        (if name = keys.keyField then some (.text key) else before.property? node name)
  indexes : after.picture.indexes = Function.update before.picture.indexes keys.index
    ((before.picture.indexes keys.index).map (insert ⟨keys.keyField, key, node⟩))

/-- The fields are the properties of the node now, of all that have their names. Everything else is as
before, and the indexes are altogether. -/
structure Updated (fields : FieldMap) (node : NodeId) (before after : Graph) : Prop where
  nodes : ∃ properties : Properties,
    after.picture.nodes = Function.update before.picture.nodes node (some properties) ∧
      ∀ name, properties[name]? = (fields[name]?.map .bytes).or (before.property? node name)
  indexes : after.indexes = before.indexes

structure Deleted (node : NodeId) (before after : Graph) : Prop where
  nodes : after.picture.nodes = Function.update before.picture.nodes node none
  indexes : ∀ index, after.picture.indexes index =
    (before.picture.indexes index).map fun entries => {entry ∈ entries | entry.node ≠ node}

theorem oldest_iff :
    graph.Oldest keys key node ↔ (graph.nodesUnder keys key).toList.head? = some node := by
  have ascending : (graph.nodesUnder keys key).toList.Pairwise (· < ·) :=
    Std.ExtTreeSet.ordered_toList.imp Std.compare_eq_lt.1
  have listed (other : NodeId) :
      other ∈ graph.nodesUnder keys key ↔ other ∈ (graph.nodesUnder keys key).toList :=
    Std.ExtTreeSet.mem_toList.symm
  simp only [Oldest, listed]
  cases all : (graph.nodesUnder keys key).toList with
  | nil => simp
  | cons first others =>
      rw [all, List.pairwise_cons] at ascending
      rw [List.head?_cons, Option.some.injEq]
      constructor
      · rintro ⟨member, least⟩
        rcases List.mem_cons.1 member with same | later
        · exact same.symm
        · exact absurd (least first List.mem_cons_self) (UInt64.not_le.2 (ascending.1 node later))
      · rintro rfl
        refine ⟨List.mem_cons_self, fun other member => ?_⟩
        rcases List.mem_cons.1 member with same | later
        · exact same ▸ UInt64.le_refl _
        · exact UInt64.le_of_lt (ascending.1 other later)

theorem indexes_reentered (member : node ∈ graph.nodesUnder keys key) :
    ((graph.perform (.indexRemove keys.index node keys.keyField key)).perform
      (.indexAdd keys.index node keys.keyField key)).indexes = graph.indexes := by
  rw [nodesUnder] at member
  cases found : graph.indexes[keys.index]? with
  | none => simp [found] at member
  | some index =>
      rw [found] at member
      have removed : graph.perform (.indexRemove keys.index node keys.keyField key) =
          { graph with
            indexes := graph.indexes.insert keys.index (index.remove keys.keyField key node) } := by
        rw [perform, changeIndex, found]
      rw [removed, perform, changeIndex, Std.ExtTreeMap.getElem?_insert_self]
      dsimp only
      rw [NodeIndex.add_remove member]
      refine NodeIndex.insert_found found fun other different => ?_
      simp [Std.ExtTreeMap.getElem?_insert, different]

theorem property?_of_found {properties : Properties} (found : graph.nodes[node]? = some properties)
    (name : String) : graph.property? node name = properties[name]? := by
  rw [property?, found, Option.bind_some]

theorem inserted_performAll (graph : Graph) (keys : KeyIndex) (key : String) (fields : FieldMap)
    (node : NodeId) :
    Inserted keys key fields node graph (graph.performAll (keys.insertion node key fields)) := by
  set entered := graph.performAll [.createNode node, .setProperty node keys.keyField (.text key),
    .indexAdd keys.index node keys.keyField key] with entered_eq
  have whole : graph.performAll (keys.insertion node key fields) =
      entered.performAll (settings node fields) := by
    rw [KeyIndex.insertion, performAll_append]
  set keyed := ((graph.nodes[node]?).getD ∅).insert keys.keyField (.text key) with keyed_eq
  have nodes : entered.picture.nodes = Function.update graph.picture.nodes node (some keyed) := by
    rw [entered_eq, picture_performAll]
    simp [Deed.perform, picture_nodes, keyed_eq]
  have indexes : entered.picture.indexes = Function.update graph.picture.indexes keys.index
      ((graph.picture.indexes keys.index).map (insert ⟨keys.keyField, key, node⟩)) := by
    rw [entered_eq, picture_performAll]
    rfl
  have found : entered.nodes[node]? = some keyed := by
    rw [← picture_nodes, nodes, Function.update_self]
  rw [whole]
  refine ⟨⟨cover keyed fields, ?_, fun name => ?_⟩, ?_⟩
  · rw [picture_nodes_settings fields found, nodes, Function.update_idem]
  · rw [cover_lookup, keyed_eq, Std.ExtTreeMap.getElem?_insert, property?]
    congr 1
    by_cases own : name = keys.keyField
    · simp [own]
    · cases graph.nodes[node]? with
      | none => simp [own, Ne.symm own]
      | some properties => simp [own, Ne.symm own]
  · rw [← indexes]
    funext index
    rw [picture_indexes, (performAll_settings fields found).1, picture_indexes]

theorem updated_performAll (member : node ∈ graph.nodesUnder keys key)
    (there : graph.hasNode node = true) (fields : FieldMap) :
    Updated fields node graph (graph.performAll (keys.change node key fields)) := by
  rw [hasNode_eq, Option.isSome_iff_exists] at there
  rcases there with ⟨properties, found⟩
  set covered := graph.performAll (settings node fields) with covered_eq
  have whole : graph.performAll (keys.change node key fields) =
      (covered.perform (.indexRemove keys.index node keys.keyField key)).perform
        (.indexAdd keys.index node keys.keyField key) := by
    rw [KeyIndex.change, performAll_append]
    rfl
  have indexes : covered.indexes = graph.indexes := (performAll_settings fields found).1
  rw [whole]
  refine ⟨⟨cover properties fields, ?_, fun name => ?_⟩, ?_⟩
  · rw [← picture_nodes_settings fields found, ← covered_eq]
    funext other
    rw [picture_nodes, nodes_indexAdd, nodes_indexRemove, picture_nodes]
  · rw [cover_lookup, property?_of_found found]
  · rw [← nodesUnder_congr indexes] at member
    rw [indexes_reentered member, indexes]

theorem deleted_performAll (graph : Graph) (keys : KeyIndex) (key : String) (node : NodeId) :
    Deleted node graph (graph.performAll (keys.deletion node key)) where
  nodes := by
    rw [picture_performAll]
    rfl
  indexes index := by
    rw [picture_performAll]
    simp only [KeyIndex.deletion, List.map_cons, List.map_nil, Picture.after_cons, Picture.after_nil,
      Deed.perform]
    by_cases same : index = keys.index
    · subst same
      rw [Function.update_self, Option.map_map]
      congr 1
      funext entries
      ext entry
      constructor
      · rintro ⟨⟨member, -⟩, other⟩
        exact ⟨member, other⟩
      · rintro ⟨member, other⟩
        refine ⟨⟨member, ?_⟩, other⟩
        rintro rfl
        exact other rfl
    · rw [Function.update_of_ne same]

end Graph

end RecordGraph
