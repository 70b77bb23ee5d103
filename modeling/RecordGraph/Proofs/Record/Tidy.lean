import RecordGraph.Proofs.Record.Queue

namespace RecordGraph

/-! Graphs in which every node stands at one place: in one index, under one name for keys and under
one key. There, a change of a record that is kept by some keys leaves the records that are kept by
others alone, even if they are in the same index, or have the same name for keys. -/

/-! ## Writes at other places -/

def Write.Avoids (keys : KeyIndex) : Write → Prop
  | .indexAdd index _ key _ => ⟨index, key⟩ ≠ keys
  | .indexRemove index _ key _ => ⟨index, key⟩ ≠ keys
  | .deleteNode _ => False
  | _ => True

namespace Graph

variable {keys others : KeyIndex} {key other : String} {graph after : Graph} {node : NodeId}
  {next : NodeId}

private theorem nodesUnder_changeIndex {index : String} {change : NodeIndex → NodeIndex}
    (same : ∀ entries : NodeIndex, index = others.index →
      (change entries).nodesAt others.keyField other = entries.nodesAt others.keyField other) :
    (graph.changeIndex index change).nodesUnder others other = graph.nodesUnder others other := by
  rw [changeIndex]
  split
  · rfl
  · rename_i entries found
    rw [nodesUnder, nodesUnder]
    by_cases own : index = others.index
    · rw [← own, Std.ExtTreeMap.getElem?_insert_self, found]
      exact same entries own
    · have still : (graph.indexes.insert index (change entries))[others.index]? =
          graph.indexes[others.index]? := by
        rw [Std.ExtTreeMap.getElem?_insert, if_neg]
        rwa [Std.LawfulEqCmp.compare_eq_iff_eq]
      rw [still]

theorem nodesUnder_avoiding {write : Write} (avoids : write.Avoids others) :
    (graph.perform write).nodesUnder others other = graph.nodesUnder others other := by
  have elsewhere {index field : String} (apart : (⟨index, field⟩ : KeyIndex) ≠ others)
      (own : index = others.index) : field ≠ others.keyField := by
    intro same
    exact apart (by rw [own, same])
  cases write with
  | createNode node => exact nodesUnder_createNode
  | setProperty node name value => exact nodesUnder_setProperty
  | deleteNode node => exact avoids.elim
  | indexAdd index node field key =>
      refine nodesUnder_changeIndex fun entries own => ?_
      rw [NodeIndex.nodesAt_add, if_neg fun same => elsewhere avoids own same.1]
  | indexRemove index node field key =>
      refine nodesUnder_changeIndex fun entries own => ?_
      rw [NodeIndex.nodesAt_remove, if_neg fun same => elsewhere avoids own same.1]

theorem nodesUnder_performAll {writes : List Write} (avoid : ∀ write ∈ writes, write.Avoids others) :
    (graph.performAll writes).nodesUnder others other = graph.nodesUnder others other := by
  induction writes generalizing graph with
  | nil => rfl
  | cons write writes induction =>
      rw [performAll_cons, induction fun later member => avoid later (List.mem_cons_of_mem _ member),
        nodesUnder_avoiding (avoid write List.mem_cons_self)]

private theorem settings_avoid (node : NodeId) (fields : FieldMap) :
    ∀ write ∈ settings node fields, write.Avoids others := by
  intro write member
  obtain ⟨field, -, rfl⟩ := List.mem_map.1 member
  trivial

private theorem nodesUnder_insertion (apart : keys ≠ others) (fields : FieldMap) :
    (graph.performAll (keys.insertion node key fields)).nodesUnder others other =
      graph.nodesUnder others other := by
  refine nodesUnder_performAll fun write member => ?_
  rcases List.mem_append.1 member with entering | setting
  · simp only [List.mem_cons, List.not_mem_nil, or_false] at entering
    rcases entering with rfl | rfl | rfl
    · trivial
    · trivial
    · exact apart
  · exact settings_avoid node fields write setting

private theorem nodesUnder_change (apart : keys ≠ others) (fields : FieldMap) :
    (graph.performAll (keys.change node key fields)).nodesUnder others other =
      graph.nodesUnder others other := by
  refine nodesUnder_performAll fun write member => ?_
  rcases List.mem_append.1 member with setting | entering
  · exact settings_avoid node fields write setting
  · simp only [List.mem_cons, List.not_mem_nil, or_false] at entering
    rcases entering with rfl | rfl
    · exact apart
    · exact apart

private theorem nodesUnder_deletion (apart : keys ≠ others) :
    (graph.performAll (keys.deletion node key)).nodesUnder others other =
      (graph.nodesUnder others other).erase node := by
  have removed : (graph.perform (.indexRemove keys.index node keys.keyField key)).nodesUnder others
      other = graph.nodesUnder others other := nodesUnder_avoiding apart
  rw [KeyIndex.deletion, performAll_cons, performAll_cons, performAll_nil, nodesUnder_deleteNode,
    removed]

/-! ## Graphs in order -/

/-- All numbers of nodes have been used up, only nodes that are there stand somewhere, and none of
them stands at two places. -/
structure Tidy (next : NodeId) (graph : Graph) : Prop where
  below : ∀ node, graph.hasNode node = true → node < next
  present : ∀ keys key, ∀ node ∈ graph.nodesUnder keys key, graph.hasNode node = true
  apart : ∀ keys others key other node, node ∈ graph.nodesUnder keys key →
    node ∈ graph.nodesUnder others other → keys = others ∧ key = other

def Spares (keys : KeyIndex) (graph after : Graph) : Prop :=
  ∀ key, after.nodesUnder keys key = graph.nodesUnder keys key ∧
    ∀ node ∈ graph.nodesUnder keys key, after.nodes[node]? = graph.nodes[node]?

theorem spares_refl (keys : KeyIndex) (graph : Graph) : graph.Spares keys graph :=
  fun _ => ⟨rfl, fun _ _ => rfl⟩

theorem tidy_empty (next : NodeId) : ({} : Graph).Tidy next where
  below node there := by simp [hasNode] at there
  present keys key node member := by simp [nodesUnder] at member
  apart keys others key other node member := by simp [nodesUnder] at member

namespace Tidy

theorem mono (tidy : graph.Tidy next) {later : NodeId} (more : next ≤ later) : graph.Tidy later :=
  { tidy with below := fun node there => UInt64.lt_of_lt_of_le (tidy.below node there) more }

theorem lt (tidy : graph.Tidy next) (member : node ∈ graph.nodesUnder keys key) : node < next :=
  tidy.below node (tidy.present keys key node member)

theorem createIndex (tidy : graph.Tidy next) {index : String}
    (absent : graph.hasIndex index = false) :
    let after : Graph := { graph with indexes := graph.indexes.insert index {} }
    after.Tidy next ∧ ∀ keys, graph.Spares keys after := by
  intro after
  have under (keys : KeyIndex) (key : String) :
      after.nodesUnder keys key = graph.nodesUnder keys key := nodesUnder_createIndex absent
  refine ⟨⟨tidy.below, fun keys key node member => ?_, fun keys others key other node => ?_⟩,
    fun keys key => ⟨under keys key, fun _ _ => rfl⟩⟩
  · rw [under] at member
    exact tidy.present keys key node member
  · rw [under, under]
    exact tidy.apart keys others key other node

/-! ## Changes of records -/

theorem insert (tidy : graph.Tidy next) (there : graph.hasIndex keys.index = true)
    (room : next.toNat + 1 < 2 ^ 64) (key : String) (fields : FieldMap) :
    let after := graph.performAll (keys.insertion next key fields)
    after.Tidy (next + 1) ∧ ∀ others, keys ≠ others → graph.Spares others after := by
  intro after
  obtain ⟨-, nodes, -⟩ := KeyIndex.performAll_insertion there (absent_of_below tidy.below) key fields
  have above := lt_add_one_of_room room
  have fresh {others : KeyIndex} {other : String} {node : NodeId}
      (before : node ∈ graph.nodesUnder others other) : next ≠ node :=
    (UInt64.ne_of_lt (tidy.lt before)).symm
  have memberOf {others : KeyIndex} {other : String} {node : NodeId}
      (member : node ∈ after.nodesUnder others other) :
      (next = node ∧ keys = others ∧ key = other) ∨
        (next ≠ node ∧ node ∈ graph.nodesUnder others other) := by
    by_cases own : keys = others
    · subst own
      rcases KeyIndex.mem_of_insertion there (absent_of_below tidy.below) member with
        ⟨first, same⟩ | before
      · exact .inl ⟨first, rfl, same⟩
      · exact .inr ⟨fresh before, before⟩
    · rw [nodesUnder_insertion own] at member
      exact .inr ⟨fresh member, member⟩
  refine ⟨⟨fun node present => ?_, fun others other node member => ?_,
    fun first second key other node member memberOther => ?_⟩, fun others apart other => ?_⟩
  · by_cases own : next = node
    · exact own ▸ above
    · rw [hasNode_eq, nodes, if_neg own, ← hasNode_eq] at present
      exact UInt64.lt_trans (tidy.below node present) above
  · rw [hasNode_eq, nodes]
    rcases memberOf member with ⟨own, -⟩ | ⟨different, before⟩
    · rw [if_pos own]
      rfl
    · rw [if_neg different, ← hasNode_eq]
      exact tidy.present others other node before
  · rcases memberOf member with ⟨own, rfl, rfl⟩ | ⟨different, before⟩
    · rcases memberOf memberOther with ⟨-, same⟩ | ⟨different, -⟩
      · exact same
      · exact absurd own different
    · rcases memberOf memberOther with ⟨own, -⟩ | ⟨-, beforeOther⟩
      · exact absurd own different
      · exact tidy.apart first second key other node before beforeOther
  · refine ⟨nodesUnder_insertion apart fields, fun node member => ?_⟩
    rw [nodes, if_neg (fresh member)]

theorem update (tidy : graph.Tidy next) (there : graph.hasIndex keys.index = true)
    (member : node ∈ graph.nodesUnder keys key) (fields : FieldMap) :
    let after := graph.performAll (keys.change node key fields)
    after.Tidy next ∧ ∀ others, keys ≠ others → graph.Spares others after := by
  intro after
  have present := tidy.present keys key node member
  rw [hasNode_eq, Option.isSome_iff_exists] at present
  obtain ⟨properties, found⟩ := present
  obtain ⟨-, nodes, own⟩ := KeyIndex.performAll_change there member found fields
  have under (others : KeyIndex) (other : String) :
      after.nodesUnder others other = graph.nodesUnder others other := by
    by_cases same : keys = others
    · rw [← same]
      exact own other
    · exact nodesUnder_change same fields
  have kept (other : NodeId) : after.hasNode other = graph.hasNode other := by
    rw [hasNode_eq, hasNode_eq, nodes]
    split
    · rename_i same
      rw [← same, found]
      rfl
    · rfl
  refine ⟨⟨fun other there => ?_, fun others other inside memberOther => ?_,
    fun first second key other inside => ?_⟩, fun others apart other => ?_⟩
  · exact tidy.below other (kept other ▸ there)
  · rw [under] at memberOther
    rw [kept]
    exact tidy.present others other inside memberOther
  · rw [under, under]
    exact tidy.apart first second key other inside
  · refine ⟨under others other, fun inside memberOther => ?_⟩
    rw [nodes, if_neg]
    intro same
    exact apart (tidy.apart keys others key other node member (same ▸ memberOther)).1

theorem delete (tidy : graph.Tidy next) (there : graph.hasIndex keys.index = true)
    (member : node ∈ graph.nodesUnder keys key) :
    let after := graph.performAll (keys.deletion node key)
    after.Tidy next ∧ ∀ others, keys ≠ others → graph.Spares others after := by
  intro after
  obtain ⟨-, nodes, own⟩ := KeyIndex.performAll_deletion there node key
  have under (others : KeyIndex) (other : String) :
      after.nodesUnder others other = (graph.nodesUnder others other).erase node := by
    by_cases same : keys = others
    · rw [← same]
      exact own other
    · exact nodesUnder_deletion same
  have memberOf {others : KeyIndex} {other : String} {inside : NodeId}
      (memberOther : inside ∈ after.nodesUnder others other) :
      node ≠ inside ∧ inside ∈ graph.nodesUnder others other := by
    rw [under, Std.ExtTreeSet.mem_erase, Ne, Std.LawfulEqCmp.compare_eq_iff_eq] at memberOther
    exact memberOther
  refine ⟨⟨fun other there => ?_, fun others other inside memberOther => ?_,
    fun first second key other inside memberFirst memberSecond => ?_⟩, fun others apart other => ?_⟩
  · rw [hasNode_eq, nodes] at there
    split at there
    · cases there
    · exact tidy.below other ((hasNode_eq graph other).trans there)
  · obtain ⟨different, before⟩ := memberOf memberOther
    rw [hasNode_eq, nodes, if_neg different, ← hasNode_eq]
    exact tidy.present others other inside before
  · exact tidy.apart first second key other inside (memberOf memberFirst).2 (memberOf memberSecond).2
  · have elsewhere {inside : NodeId} (memberOther : inside ∈ graph.nodesUnder others other) :
        node ≠ inside := by
      intro same
      exact apart (tidy.apart keys others key other node member (same ▸ memberOther)).1
    refine ⟨?_, fun inside memberOther => ?_⟩
    · rw [under]
      ext1 inside
      rw [Std.ExtTreeSet.mem_erase, Ne, Std.LawfulEqCmp.compare_eq_iff_eq]
      exact ⟨fun left => left.2, fun before => ⟨elsewhere before, before⟩⟩
    · rw [nodes, if_neg (elsewhere memberOther)]

end Tidy

/-! ## Queues in a graph -/

def Queued (keys : KeyIndex) (queues : Queues) (graph : Graph) : Prop :=
  ∀ key, (graph.nodesUnder keys key).toList.map graph.record? = (queues.under key).map some

/-- Whatever keys are used, the records that they keep are those of some queues. -/
theorem Tidy.exists_queues (tidy : graph.Tidy next) (keys : KeyIndex) :
    ∃ queues, graph.Queued keys queues := by
  refine ⟨(graph.indexes[keys.index]?.getD {}).entries[keys.keyField]?.getD ∅ |>.map
    fun _ nodes => nodes.toList.filterMap graph.record?, fun key => ?_⟩
  have under : graph.nodesUnder keys key =
      (((graph.indexes[keys.index]?.getD {}).entries[keys.keyField]?.getD ∅)[key]?).getD ∅ := by
    rw [nodesUnder]
    cases graph.indexes[keys.index]? with
    | none => simp
    | some index => rfl
  have present (node : NodeId) (member : node ∈ graph.nodesUnder keys key) :
      graph.record? node = some ((graph.record? node).getD ∅) := by
    have there := tidy.present keys key node member
    rw [hasNode_eq, Option.isSome_iff_exists] at there
    obtain ⟨properties, found⟩ := there
    rw [record?, found]
    rfl
  rw [Queues.under, Std.ExtTreeMap.getElem?_map]
  generalize (((graph.indexes[keys.index]?.getD {}).entries[keys.keyField]?.getD ∅)[key]?) = nodes
    at under
  rw [under] at present
  rw [under]
  cases nodes with
  | none => simp
  | some nodes =>
      have all : nodes.toList.filterMap graph.record? =
          nodes.toList.map fun node => (graph.record? node).getD ∅ := by
        rw [← List.filterMap_eq_map]
        refine List.filterMap_congr fun node member => ?_
        exact present node (Std.ExtTreeSet.mem_toList.1 member)
      rw [Option.map_some, Option.getD_some, Option.getD_some, all, List.map_map]
      exact List.map_congr_left fun node member =>
        present node (Std.ExtTreeSet.mem_toList.1 member)

theorem Tidy.represents (tidy : graph.Tidy next) (there : graph.hasIndex keys.index = true)
    {queues : Queues} (queued : graph.Queued keys queues) : Represents keys queues graph next :=
  ⟨there, tidy.below, queued, fun key other node first second =>
    (tidy.apart keys keys key other node first second).2⟩

theorem Queued.of_spares {queues : Queues} (queued : graph.Queued keys queues)
    (spares : graph.Spares keys after) : after.Queued keys queues := by
  intro key
  obtain ⟨under, nodes⟩ := spares key
  rw [under, ← queued key]
  refine List.map_congr_left fun node member => ?_
  rw [record?, record?, nodes node (Std.ExtTreeSet.mem_toList.1 member)]

end Graph

end RecordGraph
