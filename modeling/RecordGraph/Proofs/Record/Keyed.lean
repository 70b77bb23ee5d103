import RecordGraph.Proofs.Engine.Opening
import RecordGraph.Proofs.Record.Change

namespace RecordGraph

/-! The key of a record is kept twice: as a property of its node, and as the entry of the node in
the index. Every node stays under one key. What it has as its property is that key, as long as
nobody has written a field in its place. -/

/-! ## Fields over properties -/

namespace Graph

variable {keys : KeyIndex} {graph : Graph} {node : NodeId} {key : String} {next : NodeId}

def property? (node : NodeId) (name : String) (graph : Graph) : Option PropertyValue :=
  (graph.nodes[node]?).bind (·[name]?)

theorem getElem?_cover (properties : Properties) (fields : FieldMap) (name : String) :
    (cover properties fields)[name]? = properties[name]? ∨
      ∃ value, fields[name]? = some value ∧
        (cover properties fields)[name]? = some (.ofField value) := by
  have all (list : List (String × Bytes)) :
      (list.foldl (fun whole field => whole.insert field.1 (.ofField field.2)) properties)[name]? =
          properties[name]? ∨
        ∃ value, (name, value) ∈ list ∧
          (list.foldl (fun whole field => whole.insert field.1 (.ofField field.2))
            properties)[name]? = some (.ofField value) := by
    induction list generalizing properties with
    | nil => exact .inl rfl
    | cons field list induction =>
        rw [List.foldl_cons]
        rcases induction (properties.insert field.1 (.ofField field.2)) with
          same | ⟨value, member, last⟩
        · rw [same, Std.ExtTreeMap.getElem?_insert]
          split
          · rename_i own
            rw [Std.LawfulEqCmp.compare_eq_iff_eq] at own
            exact .inr ⟨field.2, own ▸ List.mem_cons_self, rfl⟩
          · exact .inl rfl
        · exact .inr ⟨value, List.mem_cons_of_mem _ member, last⟩
  rcases all fields.toList with same | ⟨value, member, last⟩
  · exact .inl same
  · exact .inr ⟨value, Std.ExtTreeMap.mem_toList_iff_getElem?_eq_some.1 member, last⟩

/-! ## Graphs with keys -/

def Shows (covers : String → Bytes → Prop) (key : String) (property : Option PropertyValue) : Prop :=
  property = some (.text key) ∨ ∃ value, covers key value ∧ property = some (.bytes value)

/-- There is no index but that of the keys, and there every node is under one key. -/
structure Keyed (keys : KeyIndex) (covers : String → Bytes → Prop) (next : NodeId) (graph : Graph) :
    Prop where
  only : ∀ index, graph.hasIndex index = true → index = keys.index
  below : ∀ node, graph.hasNode node = true → node < next
  entered : ∀ node, graph.hasNode node = true → ∃ key, node ∈ graph.nodesUnder keys key
  apart : ∀ key other node, node ∈ graph.nodesUnder keys key → node ∈ graph.nodesUnder keys other →
    key = other
  shows : ∀ key, ∀ node ∈ graph.nodesUnder keys key,
    Shows covers key (graph.property? node keys.keyField)

variable {covers : String → Bytes → Prop}

theorem hasNode_of_property? {name : String} {value : PropertyValue}
    (found : graph.property? node name = some value) : graph.hasNode node = true := by
  rcases Option.bind_eq_some_iff.1 found with ⟨properties, there, -⟩
  rw [hasNode_eq, there]
  rfl

theorem Shows.isSome {property : Option PropertyValue} (shows : Shows covers key property) :
    ∃ value, property = some value := by
  rcases shows with same | ⟨value, -, same⟩
  · exact ⟨_, same⟩
  · exact ⟨_, same⟩

theorem Shows.cover {properties : Properties}
    (shows : Shows covers key properties[keys.keyField]?) {fields : FieldMap}
    (covered : ∀ value, fields[keys.keyField]? = some value → covers key value) :
    Shows covers key (Graph.cover properties fields)[keys.keyField]? := by
  rcases getElem?_cover properties fields keys.keyField with same | ⟨value, found, last⟩
  · rw [same]
    exact shows
  · exact .inr ⟨value, covered value found, last⟩

theorem keyed_empty (keys : KeyIndex) (covers : String → Bytes → Prop) (next : NodeId) :
    Keyed keys covers next {} where
  only index there := by simp [hasIndex] at there
  below node there := by simp [hasNode] at there
  entered node there := by simp [hasNode] at there
  apart key other node member := by simp [nodesUnder] at member
  shows key node member := by simp [nodesUnder] at member

namespace Keyed

theorem hasNode (keyed : graph.Keyed keys covers next) (member : node ∈ graph.nodesUnder keys key) :
    graph.hasNode node = true := by
  rcases (keyed.shows key node member).isSome with ⟨value, found⟩
  exact hasNode_of_property? found

theorem mono (keyed : graph.Keyed keys covers next) {later : NodeId} (more : next ≤ later) :
    graph.Keyed keys covers later :=
  { keyed with below := fun node there => UInt64.lt_of_lt_of_le (keyed.below node there) more }

theorem createIndex (keyed : graph.Keyed keys covers next)
    (absent : graph.hasIndex keys.index = false) :
    Keyed keys covers next { graph with indexes := graph.indexes.insert keys.index {} } := by
  have under (key : String) : ({ graph with indexes := graph.indexes.insert keys.index {} } :
      Graph).nodesUnder keys key = graph.nodesUnder keys key := nodesUnder_createIndex absent
  refine ⟨fun index there => ?_, keyed.below, fun node there => ?_, fun key other node => ?_,
    fun key node => ?_⟩
  · by_cases same : keys.index = index
    · exact same.symm
    · apply keyed.only
      simpa [hasIndex, Std.ExtTreeMap.contains_insert, same] using there
  · rcases keyed.entered node there with ⟨key, member⟩
    exact ⟨key, (under key).symm ▸ member⟩
  · rw [under, under]
    exact keyed.apart key other node
  · rw [under]
    exact keyed.shows key node

/-! ## Changes of records -/

theorem insert (keyed : graph.Keyed keys covers next) (there : graph.hasIndex keys.index = true)
    (room : next.toNat + 1 < 2 ^ 64) (key : String) {fields : FieldMap}
    (covered : ∀ value, fields[keys.keyField]? = some value → covers key value) :
    (graph.performAll (keys.insertion next key fields)).Keyed keys covers (next + 1) := by
  rcases KeyIndex.performAll_insertion there (absent_of_below keyed.below) key fields with ⟨-, nodes, under⟩
  have indexes (index : String) := hasIndex_performAll graph (keys.insertion next key fields) index
  set after := graph.performAll (keys.insertion next key fields)
  have above := lt_add_one_of_room room
  have memberOf {other : String} {node : NodeId} (member : node ∈ after.nodesUnder keys other) :
      (next = node ∧ key = other) ∨ (next ≠ node ∧ node ∈ graph.nodesUnder keys other) := by
    rcases KeyIndex.mem_of_insertion there (absent_of_below keyed.below) member with own | before
    · exact .inl own
    · exact .inr ⟨(UInt64.ne_of_lt (keyed.below node (keyed.hasNode before))).symm, before⟩
  refine ⟨fun index there => keyed.only index (indexes index ▸ there), fun node there => ?_,
    fun node there => ?_, fun first second node member other => ?_, fun other node member => ?_⟩
  · by_cases own : next = node
    · exact own ▸ above
    · rw [hasNode_eq, nodes, if_neg own, ← hasNode_eq] at there
      exact UInt64.lt_trans (keyed.below node there) above
  · by_cases own : next = node
    · refine ⟨key, ?_⟩
      rw [under, if_pos rfl, own]
      exact Std.ExtTreeSet.mem_insert_self
    · rw [hasNode_eq, nodes, if_neg own, ← hasNode_eq] at there
      rcases keyed.entered node there with ⟨other, member⟩
      refine ⟨other, ?_⟩
      rw [under]
      split
      · rename_i same
        exact Std.ExtTreeSet.mem_insert.2 (.inr (same ▸ member))
      · exact member
  · rcases memberOf member with ⟨own, same⟩ | ⟨different, before⟩
    · rcases memberOf other with ⟨-, sameOther⟩ | ⟨different, -⟩
      · exact same.symm.trans sameOther
      · exact absurd own different
    · rcases memberOf other with ⟨own, -⟩ | ⟨-, beforeOther⟩
      · exact absurd own different
      · exact keyed.apart first second node before beforeOther
  · rcases memberOf member with ⟨rfl, rfl⟩ | ⟨different, before⟩
    · rw [property?, nodes, if_pos rfl]
      refine Shows.cover (.inl ?_) covered
      rw [KeyIndex.bare, Std.ExtTreeMap.getElem?_insert_self]
    · rw [property?, nodes, if_neg different]
      exact keyed.shows other node before

theorem update (keyed : graph.Keyed keys covers next) (there : graph.hasIndex keys.index = true)
    (member : node ∈ graph.nodesUnder keys key) {fields : FieldMap}
    (covered : ∀ value, fields[keys.keyField]? = some value → covers key value) :
    (graph.performAll (keys.change node key fields)).Keyed keys covers next := by
  rcases Option.isSome_iff_exists.1 ((hasNode_eq graph node).symm.trans (keyed.hasNode member))
    with ⟨properties, found⟩
  rcases KeyIndex.performAll_change there member found fields with ⟨-, nodes, under⟩
  have indexes (index : String) := hasIndex_performAll graph (keys.change node key fields) index
  set after := graph.performAll (keys.change node key fields)
  have present (other : NodeId) : after.hasNode other = graph.hasNode other := by
    rw [hasNode_eq, hasNode_eq, nodes]
    split
    · rename_i own
      rw [← own, found]
      rfl
    · rfl
  refine ⟨fun index there => keyed.only index (indexes index ▸ there), fun other there => ?_,
    fun other there => ?_, fun first second other => ?_, fun shown other inside => ?_⟩
  · exact keyed.below other (present other ▸ there)
  · rcases keyed.entered other (present other ▸ there) with ⟨key, member⟩
    exact ⟨key, (under key).symm ▸ member⟩
  · rw [under, under]
    exact keyed.apart first second other
  · rw [under] at inside
    have before := keyed.shows shown other inside
    rw [property?, nodes]
    split
    · rename_i own
      have same := keyed.apart shown key node (own ▸ inside) member
      rw [← own, property?, found, same] at before
      rw [same]
      exact before.cover covered
    · exact before

theorem delete (keyed : graph.Keyed keys covers next) (there : graph.hasIndex keys.index = true)
    (node : NodeId) (key : String) :
    (graph.performAll (keys.deletion node key)).Keyed keys covers next := by
  rcases KeyIndex.performAll_deletion there node key with ⟨-, nodes, under⟩
  have indexes (index : String) := hasIndex_performAll graph (keys.deletion node key) index
  set after := graph.performAll (keys.deletion node key)
  have left {other : NodeId} (there : after.hasNode other = true) :
      node ≠ other ∧ graph.hasNode other = true := by
    rw [hasNode_eq, nodes] at there
    split at there
    · cases there
    · rename_i different
      exact ⟨different, (hasNode_eq graph other).trans there⟩
  have memberOf {shown : String} {other : NodeId} (member : other ∈ after.nodesUnder keys shown) :
      node ≠ other ∧ other ∈ graph.nodesUnder keys shown := by
    rw [under, Std.ExtTreeSet.mem_erase, Ne, Std.LawfulEqCmp.compare_eq_iff_eq] at member
    exact member
  refine ⟨fun index there => keyed.only index (indexes index ▸ there), fun other there => ?_,
    fun other there => ?_, fun first second other member there => ?_, fun shown other member => ?_⟩
  · exact keyed.below other (left there).2
  · rcases left there with ⟨different, before⟩
    rcases keyed.entered other before with ⟨key, member⟩
    refine ⟨key, ?_⟩
    rw [under, Std.ExtTreeSet.mem_erase, Ne, Std.LawfulEqCmp.compare_eq_iff_eq]
    exact ⟨different, member⟩
  · exact keyed.apart first second other (memberOf member).2 (memberOf there).2
  · rcases memberOf member with ⟨different, before⟩
    rw [property?, nodes, if_neg different]
    exact keyed.shows shown other before

end Keyed

end Graph

/-! ## Engines with keys -/

namespace Engine

variable {keys : KeyIndex} {covers : String → Bytes → Prop} {bound later : Nat} {engine after : Engine}
  {binding : Binding} {key : String} {fields : FieldMap}

structure Keyed (keys : KeyIndex) (covers : String → Bytes → Prop) (bound : Nat) (engine : Engine) :
    Prop where
  settled : engine.transactions = ∅
  graph : engine.graph.Keyed keys covers engine.nextNode
  started : 1 ≤ engine.nextNode
  bounded : engine.nextNode.toNat ≤ bound

namespace Keyed

theorem mono (keyed : engine.Keyed keys covers bound) (more : bound ≤ later) :
    engine.Keyed keys covers later :=
  { keyed with bounded := Nat.le_trans keyed.bounded more }

theorem absent (keyed : engine.Keyed keys covers bound) (id : TransactionId) :
    engine.transactions[id]? = none := by
  rw [keyed.settled, Std.ExtTreeMap.getElem?_empty]

private theorem becomes (keyed : engine.Keyed keys covers bound) (settled : after.transactions = ∅)
    {writes : List Write} {next : NodeId} (becomes : Becomes engine writes next after)
    (more : engine.nextNode ≤ next) (most : next.toNat ≤ later)
    (written : Transaction.checkAll engine.graph {} writes = .ok () →
      (engine.graph.performAll writes).Keyed keys covers next) :
    after.Keyed keys covers later := by
  obtain ⟨least, below⟩ := becomes.next_between more
  have started := UInt64.le_trans keyed.started least
  have bounded := Nat.le_trans (UInt64.le_iff_toNat_le.1 below) most
  cases becomes with
  | unchanged graph _ => exact ⟨settled, graph ▸ keyed.graph.mono least, started, bounded⟩
  | performed checked graph number =>
      refine ⟨settled, ?_, started, bounded⟩
      rw [graph, number]
      exact written checked

/-! ## Changes of records -/

theorem insert (keyed : engine.Keyed binding.keys covers bound) (room : bound + 1 < 2 ^ 64)
    (key : String) (covered : ∀ value, fields[binding.keyField]? = some value → covers key value) :
    ((Record.insert key fields binding).run perform engine).2.Keyed binding.keys covers
      (bound + 1) := by
  have stepwise : (Record.insert key fields binding).run perform engine =
      (binding.keys.insertStepwise key fields).run perform engine := by
    rw [Record.insert]
    cases binding.mode with
    | embedded => rfl
    | remote => rfl
    | remoteBatch => exact run_insertBatched (keyed.absent _)
  have bounded := keyed.bounded
  have small := Nat.lt_of_le_of_lt (Nat.succ_le_succ bounded) room
  have number := toNat_add_one small
  rw [stepwise]
  refine keyed.becomes
    (settles_encloses (KeyIndex.encloses_insertStepwise key fields _) _ keyed.settled)
    (becomes_insertStepwise (keyed.absent _) key fields binding.keys) ?_ ?_ fun checked => ?_
  · rw [UInt64.le_iff_toNat_le, number]
    exact Nat.le_succ _
  · rw [number]
    exact Nat.succ_le_succ bounded
  · have there : engine.graph.hasIndex binding.keys.index = true := by
      rcases Transaction.possible_of_checkAll (Transaction.Standing.sound_empty _) checked with
        ⟨-, -, ⟨-, possible⟩, -⟩
      exact Graph.picture_indexes_ne_none.1 possible
    exact keyed.graph.insert there small key covered

theorem updateNode (keyed : engine.Keyed keys covers bound)
    (there : engine.graph.hasIndex keys.index = true) {node : NodeId}
    (member : node ∈ engine.graph.nodesUnder keys key)
    (covered : ∀ value, fields[keys.keyField]? = some value → covers key value) :
    ((keys.updateNode node key fields).run perform engine).2.Keyed keys covers bound :=
  keyed.becomes (settles_encloses (KeyIndex.encloses_updateNode node key fields _) _ keyed.settled)
    (becomes_updateNode (keyed.absent _) node key fields keys) (UInt64.le_refl _)
    keyed.bounded fun _ => keyed.graph.update there member covered

theorem deleteNode (keyed : engine.Keyed keys covers bound)
    (there : engine.graph.hasIndex keys.index = true) (node : NodeId) (key : String) :
    ((keys.deleteNode node key).run perform engine).2.Keyed keys covers bound :=
  keyed.becomes (settles_encloses (KeyIndex.encloses_deleteNode node key _) _ keyed.settled)
    (becomes_deleteNode (keyed.absent _) node key keys) (UInt64.le_refl _)
    keyed.bounded fun _ => keyed.graph.delete there node key

/-! ## Beginnings and ends -/

theorem provisionIndex (keyed : engine.Keyed keys covers bound) :
    ((provisionIndex keys.index).run perform engine).2.Keyed keys covers bound := by
  have created : (engine.createIndex keys.index).2.Keyed keys covers bound := by
    rw [createIndex]
    split
    · exact keyed
    split
    · exact keyed
    split
    · exact keyed
    · rename_i absent
      exact { keyed with graph := keyed.graph.createIndex (Bool.eq_false_iff.2 absent) }
  rw [RecordGraph.provisionIndex, Dialogue.run_bind, Dialogue.run_attempt, Dialogue.run_ask, perform]
  dsimp only
  split
  all_goals exact created

theorem closed (keyed : engine.Keyed keys covers bound) :
    Keyed keys covers bound { engine with isClosed := true } :=
  ⟨keyed.settled, keyed.graph, keyed.started, keyed.bounded⟩

end Keyed

end Engine

end RecordGraph
