import RecordGraph.Proofs.Engine.Holding
import RecordGraph.Proofs.Engine.Numbering
import RecordGraph.Record.Operation

namespace RecordGraph

/-! Records as queues. Under every key the graph keeps the records of a queue: the nodes under the
key are the records, and the smallest number is the oldest record. -/

/-! ## Sets of nodes as lists -/

private theorem toList_unique {nodes : NodeSet} {list : List NodeId}
    (ordered : list.Pairwise fun first second => compare first second = .lt)
    (members : ∀ node, node ∈ list ↔ node ∈ nodes) : nodes.toList = list := by
  have orderedNodes := nodes.ordered_toList
  have different {first second : NodeId} (less : compare first second = .lt) : first ≠ second := by
    intro same
    simp [same] at less
  have permutation : nodes.toList.Perm list := by
    apply (List.perm_ext_iff_of_nodup (orderedNodes.imp different) (ordered.imp different)).2
    intro node
    rw [Std.ExtTreeSet.mem_toList, members]
  apply permutation.eq_of_pairwise _ orderedNodes ordered
  intro first second _ _ less greater
  exact absurd less (Std.OrientedCmp.not_lt_of_lt greater)

theorem toList_insert_last {nodes : NodeSet} {node : NodeId}
    (last : ∀ other, other ∈ nodes → other < node) :
    (nodes.insert node).toList = nodes.toList ++ [node] := by
  apply toList_unique
  · rw [List.pairwise_append]
    refine ⟨nodes.ordered_toList, List.pairwise_singleton _ _, ?_⟩
    intro first member second own
    rw [List.mem_singleton.1 own]
    exact Std.compare_eq_lt.2 (last first (Std.ExtTreeSet.mem_toList.1 member))
  · intro other
    rw [List.mem_append, List.mem_singleton, Std.ExtTreeSet.mem_toList,
      Std.ExtTreeSet.mem_insert, Std.LawfulEqCmp.compare_eq_iff_eq, or_comm, @eq_comm _ other]

theorem toList_erase_first {nodes : NodeSet} {node : NodeId} {others : List NodeId}
    (list : nodes.toList = node :: others) : (nodes.erase node).toList = others := by
  have ordered := nodes.ordered_toList
  rw [list, List.pairwise_cons] at ordered
  apply toList_unique ordered.2
  intro other
  have member : other ∈ nodes ↔ other = node ∨ other ∈ others := by
    rw [← Std.ExtTreeSet.mem_toList, list, List.mem_cons]
  rw [Std.ExtTreeSet.mem_erase, member, Ne, Std.LawfulEqCmp.compare_eq_iff_eq]
  constructor
  · intro there
    refine ⟨fun same => ?_, .inr there⟩
    have less := ordered.1 other there
    simp [same] at less
  · rintro ⟨different, same | there⟩
    · exact absurd same.symm different
    · exact there

/-! ## The nodes under a key -/

namespace Graph

def nodesUnder (keys : KeyIndex) (key : String) (graph : Graph) : NodeSet :=
  match graph.indexes[keys.index]? with
  | none => ∅
  | some index => index.nodesAt keys.keyField key

def settings (node : NodeId) (fields : FieldMap) : List Write :=
  fields.toList.map fun field => .setProperty node field.1 (.ofField field.2)

variable {keys : KeyIndex} {key other : String} {graph : Graph} {node node' : NodeId}

theorem nodesUnder_congr {graph after : Graph} (same : after.indexes = graph.indexes) :
    after.nodesUnder keys key = graph.nodesUnder keys key := by
  rw [nodesUnder, nodesUnder, same]

theorem nodesUnder_createNode :
    (graph.perform (.createNode node)).nodesUnder keys key = graph.nodesUnder keys key := by
  rw [perform]
  split <;> rfl

theorem nodesUnder_setProperty {name : String} {value : PropertyValue} :
    (graph.perform (.setProperty node name value)).nodesUnder keys key =
      graph.nodesUnder keys key := by
  rw [perform]
  split <;> rfl

theorem nodesUnder_indexAdd (there : graph.hasIndex keys.index = true) :
    (graph.perform (.indexAdd keys.index node keys.keyField key)).nodesUnder keys other =
      if key = other then (graph.nodesUnder keys key).insert node
      else graph.nodesUnder keys other := by
  rw [hasIndex_eq, Option.isSome_iff_exists] at there
  rcases there with ⟨index, found⟩
  simp [perform, changeIndex, nodesUnder, found, NodeIndex.nodesAt_add]

theorem nodesUnder_indexRemove (there : graph.hasIndex keys.index = true) :
    (graph.perform (.indexRemove keys.index node keys.keyField key)).nodesUnder keys other =
      if key = other then (graph.nodesUnder keys key).erase node
      else graph.nodesUnder keys other := by
  rw [hasIndex_eq, Option.isSome_iff_exists] at there
  rcases there with ⟨index, found⟩
  simp [perform, changeIndex, nodesUnder, found, NodeIndex.nodesAt_remove]

theorem nodesUnder_deleteNode :
    (graph.perform (.deleteNode node)).nodesUnder keys key =
      (graph.nodesUnder keys key).erase node := by
  cases found : graph.indexes[keys.index]? with
  | none =>
      simp only [perform, nodesUnder, Std.ExtTreeMap.getElem?_map, found, Option.map_none]
      ext1 other
      simp
  | some index =>
      simp only [perform, nodesUnder, Std.ExtTreeMap.getElem?_map, found, Option.map_some]
      exact NodeIndex.nodesAt_purge index keys.keyField key node

/-! ## The properties of nodes -/

private theorem nodes_changeIndex (index : String) (change : NodeIndex → NodeIndex) :
    (graph.changeIndex index change).nodes = graph.nodes := by
  rw [changeIndex]
  split <;> rfl

theorem nodes_indexAdd (index key value : String) :
    (graph.perform (.indexAdd index node key value)).nodes = graph.nodes := by
  rw [perform, nodes_changeIndex]

theorem nodes_indexRemove (index key value : String) :
    (graph.perform (.indexRemove index node key value)).nodes = graph.nodes := by
  rw [perform, nodes_changeIndex]

theorem nodes_createNode (absent : graph.nodes[node]? = none) :
    (graph.perform (.createNode node)).nodes[node']? =
      if node = node' then some ∅ else graph.nodes[node']? := by
  have gone : graph.hasNode node = false := by
    rw [hasNode_eq, absent]
    rfl
  simp [perform, gone, Std.ExtTreeMap.getElem?_insert]

theorem nodes_setProperty {properties : Properties} {name : String} {value : PropertyValue}
    (found : graph.nodes[node]? = some properties) :
    (graph.perform (.setProperty node name value)).nodes[node']? =
      if node = node' then some (properties.insert name value) else graph.nodes[node']? := by
  simp [perform, found, Std.ExtTreeMap.getElem?_insert]

theorem nodes_deleteNode :
    (graph.perform (.deleteNode node)).nodes[node']? =
      if node = node' then none else graph.nodes[node']? := by
  simp [perform, Std.ExtTreeMap.getElem?_erase]

def cover (properties : Properties) (fields : FieldMap) : Properties :=
  fields.toList.foldl (fun whole field => whole.insert field.1 (.ofField field.2)) properties

private theorem performAll_setProperty {properties : Properties} (fields : List (String × Bytes))
    (found : graph.nodes[node]? = some properties) :
    let after := graph.performAll (fields.map fun field =>
      .setProperty node field.1 (.ofField field.2))
    after.indexes = graph.indexes ∧ ∀ node', after.nodes[node']? =
      if node = node' then
        some (fields.foldl (fun whole field => whole.insert field.1 (.ofField field.2)) properties)
      else graph.nodes[node']? := by
  induction fields generalizing graph properties with
  | nil =>
      refine ⟨rfl, fun node' => ?_⟩
      split
      · rename_i same
        rw [← same]
        exact found
      · rfl
  | cons field fields induction =>
      have next : (graph.perform (.setProperty node field.1 (.ofField field.2))).nodes[node]? =
          some (properties.insert field.1 (.ofField field.2)) := by
        rw [nodes_setProperty found, if_pos rfl]
      rcases induction next with ⟨indexes, nodes⟩
      constructor
      · rw [List.map_cons, performAll_cons, indexes, perform]
        split <;> rfl
      · intro node'
        rw [List.map_cons, performAll_cons, nodes, nodes_setProperty found, List.foldl_cons]
        split <;> rfl

theorem nodesUnder_createIndex {index : String} (absent : graph.hasIndex index = false) :
    ({ graph with indexes := graph.indexes.insert index {} } : Graph).nodesUnder keys key =
      graph.nodesUnder keys key := by
  have missing : graph.indexes[index]? = none := by
    rw [hasIndex_eq, Option.isSome_eq_false_iff, Option.isNone_iff_eq_none] at absent
    exact absent
  by_cases own : index = keys.index
  · simp [nodesUnder, ← own, missing, NodeIndex.nodesAt]
  · simp [nodesUnder, Std.ExtTreeMap.getElem?_insert, own]

theorem absent_of_below {next : NodeId} (below : ∀ node, graph.hasNode node = true → node < next) :
    graph.nodes[next]? = none := by
  cases found : graph.nodes[next]? with
  | none => rfl
  | some properties =>
      have there : graph.hasNode next = true := by
        rw [hasNode_eq, found]
        rfl
      exact absurd rfl (UInt64.ne_of_lt (below next there))

theorem performAll_settings {properties : Properties} (fields : FieldMap)
    (found : graph.nodes[node]? = some properties) :
    (graph.performAll (settings node fields)).indexes = graph.indexes ∧
      ∀ node', (graph.performAll (settings node fields)).nodes[node']? =
        if node = node' then some (cover properties fields) else graph.nodes[node']? :=
  performAll_setProperty fields.toList found

end Graph

/-! ## Queues of records -/

/-- Records by their keys, under every key from the oldest on. -/
abbrev Queues := NameMap (List FieldMap)

namespace Queues

def under (key : String) (queues : Queues) : List FieldMap := queues[key]?.getD []

def put (key : String) (records : List FieldMap) (queues : Queues) : Queues :=
  queues.insert key records

theorem under_put (key other : String) (records : List FieldMap) (queues : Queues) :
    (queues.put key records).under other = if key = other then records else queues.under other := by
  by_cases same : key = other
  · simp [under, put, same]
  · simp [under, put, Std.ExtTreeMap.getElem?_insert, same]

end Queues

def recordOf (properties : Properties) : FieldMap := properties.map fun _ value => value.toField

def Graph.record? (graph : Graph) (node : NodeId) : Option FieldMap :=
  (graph.nodes[node]?).map recordOf

theorem recordOf_cover (properties : Properties) (fields : FieldMap) :
    recordOf (Graph.cover properties fields) = overlay (recordOf properties) fields := by
  rw [overlay, Std.ExtTreeMap.foldl_eq_foldl_toList, Graph.cover]
  generalize fields.toList = list
  induction list generalizing properties with
  | nil => rfl
  | cons field fields induction =>
      rw [List.foldl_cons, List.foldl_cons, induction]
      congr 1
      ext1 name
      simp only [recordOf, Std.ExtTreeMap.getElem?_map, Std.ExtTreeMap.getElem?_insert]
      split <;> rfl

def KeyIndex.bare (key : String) (keys : KeyIndex) : Properties :=
  (∅ : Properties).insert keys.keyField (.text key)

def KeyIndex.insertion (node : NodeId) (key : String) (fields : FieldMap) (keys : KeyIndex) :
    List Write :=
  [.createNode node, .setProperty node keys.keyField (.text key),
    .indexAdd keys.index node keys.keyField key] ++ Graph.settings node fields

def KeyIndex.change (node : NodeId) (key : String) (fields : FieldMap) (keys : KeyIndex) :
    List Write :=
  Graph.settings node fields ++ [.indexRemove keys.index node keys.keyField key,
    .indexAdd keys.index node keys.keyField key]

def KeyIndex.deletion (node : NodeId) (key : String) (keys : KeyIndex) : List Write :=
  [.indexRemove keys.index node keys.keyField key, .deleteNode node]

/-! What the writes do to the nodes, and to the nodes under the keys. -/

namespace KeyIndex

variable {keys : KeyIndex} {graph : Graph} {key : String}

theorem performAll_insertion (there : graph.hasIndex keys.index = true) {node : NodeId}
    (absent : graph.nodes[node]? = none) (key : String) (fields : FieldMap) :
    (graph.performAll (keys.insertion node key fields)).hasIndex keys.index = true ∧
      (∀ other, (graph.performAll (keys.insertion node key fields)).nodes[other]? =
        if node = other then some (Graph.cover (keys.bare key) fields) else graph.nodes[other]?) ∧
      ∀ other, (graph.performAll (keys.insertion node key fields)).nodesUnder keys other =
        if key = other then (graph.nodesUnder keys key).insert node
        else graph.nodesUnder keys other := by
  have created (other : NodeId) : (graph.perform (.createNode node)).nodes[other]? =
      if node = other then some ∅ else graph.nodes[other]? := Graph.nodes_createNode absent
  set entered := ((graph.perform (.createNode node)).perform
    (.setProperty node keys.keyField (.text key))).perform
      (.indexAdd keys.index node keys.keyField key) with entered_eq
  have enteredNodes (other : NodeId) : entered.nodes[other]? =
      if node = other then some (keys.bare key) else graph.nodes[other]? := by
    rw [entered_eq, Graph.nodes_indexAdd,
      Graph.nodes_setProperty (by rw [created, if_pos rfl]), created]
    split <;> rfl
  have enteredIndex : entered.hasIndex keys.index = true := by
    rw [entered_eq, Graph.hasIndex_perform, Graph.hasIndex_perform, Graph.hasIndex_perform]
    exact there
  have enteredUnder (other : String) : entered.nodesUnder keys other =
      if key = other then (graph.nodesUnder keys key).insert node
      else graph.nodesUnder keys other := by
    rw [entered_eq, Graph.nodesUnder_indexAdd]
    · simp only [Graph.nodesUnder_setProperty, Graph.nodesUnder_createNode]
    · rw [Graph.hasIndex_perform, Graph.hasIndex_perform]
      exact there
  have whole : graph.performAll (keys.insertion node key fields) =
      entered.performAll (Graph.settings node fields) := by
    rw [KeyIndex.insertion, Graph.performAll_append]
    rfl
  rcases Graph.performAll_settings fields
    (show entered.nodes[node]? = some (keys.bare key) by rw [enteredNodes, if_pos rfl]) with
    ⟨indexes, nodes⟩
  rw [whole]
  refine ⟨?_, ?_, ?_⟩
  · rw [Graph.hasIndex, indexes]
    exact enteredIndex
  · intro other
    rw [nodes, enteredNodes]
    split <;> rfl
  · intro other
    rw [Graph.nodesUnder_congr indexes, enteredUnder]

/-- What stands under a key after an insertion is the new node or has been there before. -/
theorem mem_of_insertion (there : graph.hasIndex keys.index = true) {node inside : NodeId}
    (absent : graph.nodes[node]? = none) {other : String} {fields : FieldMap}
    (member : inside ∈ (graph.performAll (keys.insertion node key fields)).nodesUnder keys other) :
    (node = inside ∧ key = other) ∨ inside ∈ graph.nodesUnder keys other := by
  rw [(performAll_insertion there absent key fields).2.2] at member
  split at member
  · rename_i same
    rw [Std.ExtTreeSet.mem_insert, Std.LawfulEqCmp.compare_eq_iff_eq] at member
    rcases member with own | before
    · exact .inl ⟨own, same⟩
    · exact .inr (same ▸ before)
  · exact .inr member

theorem performAll_change (there : graph.hasIndex keys.index = true) {node : NodeId}
    (member : node ∈ graph.nodesUnder keys key) {properties : Properties}
    (found : graph.nodes[node]? = some properties) (fields : FieldMap) :
    (graph.performAll (keys.change node key fields)).hasIndex keys.index = true ∧
      (∀ other, (graph.performAll (keys.change node key fields)).nodes[other]? =
        if node = other then some (Graph.cover properties fields) else graph.nodes[other]?) ∧
      ∀ other, (graph.performAll (keys.change node key fields)).nodesUnder keys other =
        graph.nodesUnder keys other := by
  rcases Graph.performAll_settings fields found with ⟨indexes, nodes⟩
  have whole : graph.performAll (keys.change node key fields) =
      ((graph.performAll (Graph.settings node fields)).perform
        (.indexRemove keys.index node keys.keyField key)).perform
          (.indexAdd keys.index node keys.keyField key) := by
    rw [KeyIndex.change, Graph.performAll_append]
    rfl
  set covered := graph.performAll (Graph.settings node fields)
  have coveredIndex : covered.hasIndex keys.index = true := by
    rw [Graph.hasIndex, indexes]
    exact there
  rw [whole]
  refine ⟨?_, ?_, ?_⟩
  · rw [Graph.hasIndex_perform, Graph.hasIndex_perform]
    exact coveredIndex
  · intro other
    rw [Graph.nodes_indexAdd, Graph.nodes_indexRemove, nodes]
  · intro other
    rw [Graph.nodesUnder_indexAdd (by rw [Graph.hasIndex_perform, coveredIndex]),
      Graph.nodesUnder_indexRemove coveredIndex, Graph.nodesUnder_indexRemove coveredIndex,
      Graph.nodesUnder_congr indexes, Graph.nodesUnder_congr indexes, if_pos rfl]
    split
    · rename_i same
      rw [← same]
      ext1 other
      rw [Std.ExtTreeSet.mem_insert, Std.ExtTreeSet.mem_erase, Std.LawfulEqCmp.compare_eq_iff_eq]
      by_cases own : node = other
      · simp [← own, member]
      · simp [own]
    · rfl

theorem performAll_deletion (there : graph.hasIndex keys.index = true) (node : NodeId)
    (key : String) :
    (graph.performAll (keys.deletion node key)).hasIndex keys.index = true ∧
      (∀ other, (graph.performAll (keys.deletion node key)).nodes[other]? =
        if node = other then none else graph.nodes[other]?) ∧
      ∀ other, (graph.performAll (keys.deletion node key)).nodesUnder keys other =
        (graph.nodesUnder keys other).erase node := by
  have whole : graph.performAll (keys.deletion node key) =
      (graph.perform (.indexRemove keys.index node keys.keyField key)).perform
        (.deleteNode node) := rfl
  rw [whole]
  refine ⟨?_, ?_, ?_⟩
  · rw [Graph.hasIndex_perform, Graph.hasIndex_perform]
    exact there
  · intro other
    rw [Graph.nodes_deleteNode, Graph.nodes_indexRemove]
  · intro other
    rw [Graph.nodesUnder_deleteNode, Graph.nodesUnder_indexRemove there]
    split
    · rename_i same
      rw [← same]
      ext1 other
      simp
    · rfl

end KeyIndex

/-- The graph keeps queues, and all numbers of its nodes have been used up. -/
structure Represents (keys : KeyIndex) (queues : Queues) (graph : Graph) (next : NodeId) :
    Prop where
  index : graph.hasIndex keys.index = true
  below : ∀ node, graph.hasNode node = true → node < next
  records : ∀ key, (graph.nodesUnder keys key).toList.map graph.record? =
    (queues.under key).map some
  apart : ∀ key other node, node ∈ graph.nodesUnder keys key → node ∈ graph.nodesUnder keys other →
    key = other

namespace Represents

variable {keys : KeyIndex} {queues : Queues} {graph : Graph} {next : NodeId} {key : String}

theorem exists_properties (represents : Represents keys queues graph next) {node : NodeId}
    (member : node ∈ graph.nodesUnder keys key) :
    ∃ properties, graph.nodes[node]? = some properties := by
  have known : graph.record? node ∈ (queues.under key).map some := by
    rw [← represents.records key]
    exact List.mem_map_of_mem (Std.ExtTreeSet.mem_toList.2 member)
  rcases List.mem_map.1 known with ⟨record, -, same⟩
  cases found : graph.nodes[node]? with
  | none => simp [Graph.record?, found] at same
  | some properties => exact ⟨properties, rfl⟩

theorem hasNode (represents : Represents keys queues graph next) {node : NodeId}
    (member : node ∈ graph.nodesUnder keys key) : graph.hasNode node = true := by
  rcases represents.exists_properties member with ⟨properties, found⟩
  rw [Graph.hasNode_eq, found]
  rfl

theorem nodes_nil (represents : Represents keys queues graph next)
    (empty : queues.under key = []) : (graph.nodesUnder keys key).toList = [] := by
  have records := represents.records key
  rw [empty, List.map_nil, List.map_eq_nil_iff] at records
  exact records

theorem nodes_cons (represents : Represents keys queues graph next) {record : FieldMap}
    {records : List FieldMap} (oldest : queues.under key = record :: records) :
    ∃ node others properties, (graph.nodesUnder keys key).toList = node :: others ∧
      graph.nodes[node]? = some properties ∧ recordOf properties = record := by
  have all := represents.records key
  rw [oldest, List.map_cons] at all
  rcases List.map_eq_cons_iff.1 all with ⟨node, others, list, first, -⟩
  rcases Option.map_eq_some_iff.1 first with ⟨properties, found, same⟩
  exact ⟨node, others, properties, list, found, same⟩

private theorem records_same {graph after : Graph} {nodes : NodeSet}
    (same : ∀ node ∈ nodes, after.nodes[node]? = graph.nodes[node]?) :
    nodes.toList.map after.record? = nodes.toList.map graph.record? := by
  apply List.map_congr_left
  intro node member
  rw [Graph.record?, Graph.record?, same node (Std.ExtTreeSet.mem_toList.1 member)]

/-! ## What changes of records do to the queues -/

theorem hasNode_of_same {graph after : Graph} {node : NodeId}
    (same : after.nodes[node]? = graph.nodes[node]?) : after.hasNode node = graph.hasNode node := by
  rw [Graph.hasNode_eq, Graph.hasNode_eq, same]

theorem next_ne (represents : Represents keys queues graph next) {node : NodeId}
    (member : node ∈ graph.nodesUnder keys key) : next ≠ node :=
  (UInt64.ne_of_lt (represents.below node (represents.hasNode member))).symm

theorem insert (represents : Represents keys queues graph next)
    (room : next.toNat + 1 < 2 ^ 64) (key : String) (fields : FieldMap) :
    Represents keys
      (queues.put key (queues.under key ++ [overlay (recordOf (keys.bare key)) fields]))
      (graph.performAll (keys.insertion next key fields)) (next + 1) := by
  rcases KeyIndex.performAll_insertion represents.index (Graph.absent_of_below represents.below) key fields with
    ⟨index, nodes, under⟩
  set after := graph.performAll (keys.insertion next key fields)
  have others {node : NodeId} (different : next ≠ node) :
      after.nodes[node]? = graph.nodes[node]? := by
    rw [nodes, if_neg different]
  have above := lt_add_one_of_room room
  have memberOf {other : String} {node : NodeId} (member : node ∈ after.nodesUnder keys other) :
      (next = node ∧ key = other) ∨ (next ≠ node ∧ node ∈ graph.nodesUnder keys other) := by
    rcases KeyIndex.mem_of_insertion represents.index
      (Graph.absent_of_below represents.below) member with own | before
    · exact .inl own
    · exact .inr ⟨represents.next_ne before, before⟩
  have kept (other : String) :
      (graph.nodesUnder keys other).toList.map after.record? = (queues.under other).map some := by
    rw [← represents.records other]
    exact records_same fun node member => others (represents.next_ne member)
  refine ⟨index, ?_, ?_, ?_⟩
  · intro node present
    by_cases same : next = node
    · rw [← same]
      exact above
    · rw [hasNode_of_same (others same)] at present
      exact UInt64.lt_trans (represents.below node present) above
  · intro other
    rw [under, Queues.under_put]
    by_cases same : key = other
    · rw [if_pos same, if_pos same,
        toList_insert_last fun node member => represents.below node (represents.hasNode member),
        List.map_append, kept, List.map_append, List.map_singleton, List.map_singleton]
      rw [Graph.record?, nodes, if_pos rfl, Option.map_some, recordOf_cover]
    · rw [if_neg same, if_neg same, kept]
  · intro first second node member memberOther
    rcases memberOf member with ⟨own, same⟩ | ⟨different, before⟩
    · rcases memberOf memberOther with ⟨-, sameOther⟩ | ⟨different, -⟩
      · exact same.symm.trans sameOther
      · exact absurd own different
    · rcases memberOf memberOther with ⟨own, -⟩ | ⟨-, beforeOther⟩
      · exact absurd own different
      · exact represents.apart first second node before beforeOther

theorem update (represents : Represents keys queues graph next) {node : NodeId}
    {others : List NodeId} {properties : Properties}
    (list : (graph.nodesUnder keys key).toList = node :: others)
    (found : graph.nodes[node]? = some properties) (fields : FieldMap) :
    Represents keys
      (queues.put key (overlay (recordOf properties) fields :: (queues.under key).tail))
      (graph.performAll (keys.change node key fields)) next := by
  have member : node ∈ graph.nodesUnder keys key := by
    rw [← Std.ExtTreeSet.mem_toList, list]
    exact List.mem_cons_self
  rcases KeyIndex.performAll_change represents.index member found fields with
    ⟨index, nodes, under⟩
  set after := graph.performAll (keys.change node key fields)
  have kept {nodesKept : NodeSet} (absent : node ∉ nodesKept) :
      nodesKept.toList.map after.record? = nodesKept.toList.map graph.record? := by
    apply records_same
    intro other there
    rw [nodes, if_neg]
    intro same
    exact absent (same ▸ there)
  refine ⟨index, ?_, ?_, ?_⟩
  · intro other present
    by_cases own : node = other
    · rw [← own]
      exact represents.below node (represents.hasNode member)
    · have still : after.nodes[other]? = graph.nodes[other]? := by rw [nodes, if_neg own]
      rw [hasNode_of_same still] at present
      exact represents.below other present
  · intro other
    rw [under, Queues.under_put]
    by_cases same : key = other
    · have rest : others.map after.record? = (queues.under key).tail.map some := by
        have all := represents.records key
        rw [list, List.map_cons] at all
        rw [← toList_erase_first list, kept (by simp), toList_erase_first list, List.map_tail,
          ← all, List.tail_cons]
      rw [if_pos same, ← same, list, List.map_cons, List.map_cons, rest, Graph.record?, nodes,
        if_pos rfl, Option.map_some, recordOf_cover]
    · rw [if_neg same, kept, represents.records other]
      intro there
      exact same (represents.apart key other node member there)
  · intro first second other there thereOther
    rw [under] at there thereOther
    exact represents.apart first second other there thereOther

theorem delete (represents : Represents keys queues graph next) {node : NodeId}
    {others : List NodeId} (list : (graph.nodesUnder keys key).toList = node :: others) :
    Represents keys (queues.put key (queues.under key).tail)
      (graph.performAll (keys.deletion node key)) next := by
  have member : node ∈ graph.nodesUnder keys key := by
    rw [← Std.ExtTreeSet.mem_toList, list]
    exact List.mem_cons_self
  rcases KeyIndex.performAll_deletion represents.index node key with ⟨index, nodes, under⟩
  set after := graph.performAll (keys.deletion node key)
  have kept (other : String) : ((graph.nodesUnder keys other).erase node).toList.map after.record? =
      ((graph.nodesUnder keys other).erase node).toList.map graph.record? := by
    apply records_same
    intro other there
    rw [Std.ExtTreeSet.mem_erase, Ne, Std.LawfulEqCmp.compare_eq_iff_eq] at there
    rw [nodes, if_neg there.1]
  refine ⟨index, ?_, ?_, ?_⟩
  · intro other present
    by_cases own : node = other
    · rw [Graph.hasNode_eq, nodes, if_pos own] at present
      cases present
    · have still : after.nodes[other]? = graph.nodes[other]? := by rw [nodes, if_neg own]
      rw [hasNode_of_same still] at present
      exact represents.below other present
  · intro other
    rw [under, Queues.under_put, kept]
    by_cases same : key = other
    · have all := represents.records key
      rw [list, List.map_cons] at all
      rw [if_pos same, ← same, toList_erase_first list, List.map_tail, ← all, List.tail_cons]
    · have absent : node ∉ graph.nodesUnder keys other := by
        intro there
        exact same (represents.apart key other node member there)
      have still : (graph.nodesUnder keys other).erase node = graph.nodesUnder keys other := by
        ext1 another
        rw [Std.ExtTreeSet.mem_erase, Ne, Std.LawfulEqCmp.compare_eq_iff_eq]
        exact ⟨fun there => there.2, fun there => ⟨fun own => absent (own ▸ there), there⟩⟩
      rw [if_neg same, still, represents.records other]
  · intro first second other there thereOther
    rw [under, Std.ExtTreeSet.mem_erase] at there thereOther
    exact represents.apart first second other there.2 thereOther.2

theorem mono (represents : Represents keys queues graph next) {later : NodeId}
    (more : next ≤ later) : Represents keys queues graph later :=
  ⟨represents.index,
    fun node present => UInt64.lt_of_lt_of_le (represents.below node present) more,
    represents.records, represents.apart⟩

end Represents

end RecordGraph
