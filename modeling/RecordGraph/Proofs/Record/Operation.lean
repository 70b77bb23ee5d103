import RecordGraph.Proofs.Record.Queue

namespace RecordGraph

/-! What is done with records on an engine that keeps queues. The dialogue of every operation comes
to what the operation means for the queues. -/

/-! ## Writing fields -/

namespace Engine

variable {engine : Engine} {transaction : Transaction} {node : NodeId}

private theorem run_setField (id : TransactionId) (isOpen : engine.isClosed = false)
    (sees : transaction.seesNode engine.graph node = true) {name : String} (named : name ≠ "")
    (value : Bytes) :
    (KeyIndex.setField id node name value).run perform (engine.hold id transaction) =
      (.ok (), engine.hold id (transaction.push (.setProperty node name (.ofField value)))) :=
  run_stage_hold (stageIn_setProperty isOpen sees named (.ofField value))

private theorem run_setFields (id : TransactionId) (isOpen : engine.isClosed = false)
    (sees : transaction.seesNode engine.graph node = true) {fields : List (String × Bytes)}
    (named : ∀ field ∈ fields, field.1 ≠ "") :
    ∃ done, (Dialogue.forEach (fun (name, value) => KeyIndex.setField id node name value)
      fields).run perform (engine.hold id transaction) =
        (.ok done, engine.hold id (transaction.pushAll
          (fields.map fun field => .setProperty node field.1 (.ofField field.2)))) := by
  induction fields generalizing transaction with
  | nil => exact ⟨[], by rw [List.map_nil, Transaction.pushAll_nil]; rfl⟩
  | cons field fields induction =>
      rcases field with ⟨name, value⟩
      have first := run_setField id isOpen sees (named _ List.mem_cons_self) value
      have seesNext : (transaction.push (.setProperty node name (.ofField value))).seesNode
          engine.graph node = true := sees
      rcases induction seesNext
        fun other member => named other (List.mem_cons_of_mem _ member) with ⟨done, rest⟩
      refine ⟨() :: done, ?_⟩
      rw [Dialogue.forEach]
      dsimp only
      rw [Dialogue.run_bind_ok first, Dialogue.run_bind_ok rest, Transaction.pushAll_push]
      rfl

private theorem run_setFields_unnamed (id : TransactionId) (isOpen : engine.isClosed = false)
    (sees : transaction.seesNode engine.graph node = true) {fields : List (String × Bytes)}
    (unnamed : ∃ field ∈ fields, field.1 = "") :
    ∃ staged, (Dialogue.forEach (fun (name, value) => KeyIndex.setField id node name value)
      fields).run perform (engine.hold id transaction) =
        (.error .emptyPropertyName, engine.hold id staged) := by
  induction fields generalizing transaction with
  | nil =>
      rcases unnamed with ⟨field, member, -⟩
      cases member
  | cons field fields induction =>
      rcases field with ⟨name, value⟩
      rw [Dialogue.forEach]
      dsimp only
      by_cases empty : name = ""
      · have failed : (KeyIndex.setField id node name value).run perform
            (engine.hold id transaction) =
              (.error .emptyPropertyName, engine.hold id transaction) := by
          rw [KeyIndex.setField, empty]
          exact run_stage_hold_error (stageIn_setProperty_unnamed isOpen _)
        exact ⟨transaction, Dialogue.run_bind_error failed⟩
      · have later : ∃ other ∈ fields, other.1 = "" := by
          rcases unnamed with ⟨other, member, same⟩
          rcases List.mem_cons.1 member with own | rest
          · rw [own] at same
            exact absurd same empty
          · exact ⟨other, rest, same⟩
        have first := run_setField id isOpen sees empty value
        have seesNext : (transaction.push (.setProperty node name (.ofField value))).seesNode
            engine.graph node = true := sees
        rcases induction seesNext later with ⟨staged, rest⟩
        exact ⟨staged, by rw [Dialogue.run_bind_ok first, Dialogue.run_bind_error rest]⟩

theorem run_writeFields (id : TransactionId) (isOpen : engine.isClosed = false)
    (sees : transaction.seesNode engine.graph node = true) {fields : FieldMap}
    (named : "" ∉ fields) :
    (KeyIndex.writeFields id node fields).run perform (engine.hold id transaction) =
      (.ok (), engine.hold id (transaction.pushAll (Graph.settings node fields))) := by
  obtain ⟨done, outcome⟩ := run_setFields id isOpen sees (by
    intro field (member : field ∈ fields.toList) same
    rw [Std.ExtTreeMap.mem_toList_iff_getElem?_eq_some, same] at member
    exact named (Std.ExtTreeMap.mem_iff_isSome_getElem?.2 (by rw [member]; rfl)))
  rw [KeyIndex.writeFields, Dialogue.run_bind_ok outcome]
  rfl

theorem run_writeFields_unnamed (id : TransactionId) (isOpen : engine.isClosed = false)
    (sees : transaction.seesNode engine.graph node = true) {fields : FieldMap}
    (unnamed : "" ∈ fields) :
    ∃ staged, (KeyIndex.writeFields id node fields).run perform (engine.hold id transaction) =
      (.error .emptyPropertyName, engine.hold id staged) := by
  have there := Std.ExtTreeMap.mem_iff_isSome_getElem?.1 unnamed
  rcases Option.isSome_iff_exists.1 there with ⟨value, found⟩
  rcases run_setFields_unnamed id isOpen sees
    ⟨("", value), Std.ExtTreeMap.mem_toList_iff_getElem?_eq_some.2 found, rfl⟩ with
      ⟨staged, outcome⟩
  exact ⟨staged, by rw [KeyIndex.writeFields, Dialogue.run_bind_error outcome]⟩

private theorem checked_setProperties {graph : Graph} (checked : transaction.Checked graph)
    (sees : transaction.seesNode graph node = true) (fields : List (String × Bytes)) :
    (transaction.pushAll (fields.map fun field =>
      .setProperty node field.1 (.ofField field.2))).Checked graph := by
  induction fields generalizing transaction with
  | nil => rwa [List.map_nil, Transaction.pushAll_nil]
  | cons field fields induction =>
      rw [List.map_cons, ← Transaction.pushAll_push]
      apply induction
      · exact checked.setProperty sees field.1 (.ofField field.2)
      · exact sees

/-! ## Engines that keep queues -/

/-- The engine is open, has no open transactions, and keeps the queues. -/
structure Keeps (keys : KeyIndex) (queues : Queues) (engine : Engine) : Prop where
  isOpen : engine.isClosed = false
  settled : engine.transactions = ∅
  represents : Represents keys queues engine.graph engine.nextNode

namespace Keeps

variable {keys : KeyIndex} {queues : Queues} {key : String} {fields : FieldMap}

theorem absent (keeps : Keeps keys queues engine) (id : TransactionId) :
    engine.transactions[id]? = none := by
  rw [keeps.settled]
  simp

def registering (node : NodeId) (key : String) (keys : KeyIndex) : Transaction :=
  ((Transaction.create node {}).push (.setProperty node keys.keyField (.text key))).push
    (.indexAdd keys.index node keys.keyField key)

private theorem registering_sees (key : String) (keys : KeyIndex) (graph : Graph)
    (node : NodeId) :
    (registering node key keys).seesNode graph node = true := by
  simp [registering, Transaction.seesNode, Transaction.push, Transaction.create]

private theorem registering_checked {graph : Graph} (there : graph.hasIndex keys.index = true)
    (node : NodeId) : (registering node key keys).Checked graph := by
  have sees := registering_sees key keys graph node
  have created := (Transaction.checked_empty graph).create node
  exact (created.setProperty sees keys.keyField (.text key)).indexAdd there sees keys.keyField key

private theorem run_register (keeps : Keeps keys queues engine) (named : keys.keyField ≠ "")
    (id : TransactionId) {Result : Type} (next : NodeId → Dialogue Result) :
    (do
      let node ← createNode id
      keys.register id node key
      next node : Dialogue Result).run perform (engine.begun.hold id {}) =
    (next engine.nextNode).run perform
      (Engine.hold id (registering engine.nextNode key keys)
        { engine.begun with nextNode := engine.nextNode + 1 }) := by
  have isOpen : engine.begun.isClosed = false := keeps.isOpen
  have sees : (Transaction.create engine.nextNode {}).seesNode engine.graph engine.nextNode = true :=
    registering_sees key keys engine.graph engine.nextNode
  have creating : (createNode id).run perform (engine.begun.hold id {}) =
      (.ok engine.nextNode, Engine.hold id (Transaction.create engine.nextNode {})
        { engine.begun with nextNode := engine.nextNode + 1 }) := run_createNode id isOpen
  rw [Dialogue.run_bind_ok creating]
  set started : Engine := { engine.begun with nextNode := engine.nextNode + 1 }
  have startedOpen : started.isClosed = false := keeps.isOpen
  have keyed : (Dialogue.stage id (.setProperty engine.nextNode keys.keyField (.text key))).run
      perform (started.hold id (Transaction.create engine.nextNode {})) =
        (.ok (), started.hold id ((Transaction.create engine.nextNode {}).push
          (.setProperty engine.nextNode keys.keyField (.text key)))) :=
    run_stage_hold (stageIn_setProperty startedOpen sees named _)
  have seesKeyed : ((Transaction.create engine.nextNode {}).push
      (.setProperty engine.nextNode keys.keyField (.text key))).seesNode started.graph
        engine.nextNode = true := sees
  have entered : (keys.enter id engine.nextNode key).run perform
      (started.hold id ((Transaction.create engine.nextNode {}).push
        (.setProperty engine.nextNode keys.keyField (.text key)))) =
        (.ok (), started.hold id (registering engine.nextNode key keys)) :=
    run_stage_hold (stageIn_indexAdd startedOpen keeps.represents.index seesKeyed keys.keyField key)
  have registered : (keys.register id engine.nextNode key).run perform
      (started.hold id (Transaction.create engine.nextNode {})) =
        (.ok (), started.hold id (registering engine.nextNode key keys)) := by
    rw [KeyIndex.register, Dialogue.run_bind_ok keyed, entered]
  rw [Dialogue.run_bind_ok registered]

theorem run_insert (keeps : Keeps keys queues engine) (keyed : keys.keyField ≠ "")
    (room : engine.nextNode.toNat + 1 < 2 ^ 64) (key : String) (named : "" ∉ fields) :
    ∃ after, (keys.insertStepwise key fields).run perform engine = (.ok (), after) ∧
      Keeps keys (queues.put key
        (queues.under key ++ [overlay (recordOf (keys.bare key)) fields])) after ∧
      after.location = engine.location ∧ after.nextNode = engine.nextNode + 1 := by
  set id := engine.nextTransaction with id_eq
  set node := engine.nextNode
  set started : Engine := { engine.begun with nextNode := node + 1 } with started_eq
  have sees : (registering node key keys).seesNode started.graph node = true :=
    registering_sees key keys started.graph node
  have startedOpen : started.isClosed = false := keeps.isOpen
  have startedAbsent : started.transactions[id]? = none := keeps.absent id
  have written := run_writeFields id startedOpen sees named
  set staged := (registering node key keys).pushAll (Graph.settings node fields)
  have writes : staged.writes = keys.insertion node key fields := rfl
  have checked : staged.Checked started.graph :=
    checked_setProperties (registering_checked keeps.represents.index node) sees fields.toList
  refine ⟨{ started with graph := started.graph.performAll staged.writes }, ?_, ?_, rfl, rfl⟩
  · rw [KeyIndex.insertStepwise]
    apply run_inTransaction keeps.isOpen _ startedOpen startedAbsent checked
    rw [keeps.run_register keyed]
    exact written
  · rw [writes]
    exact ⟨keeps.isOpen, keeps.settled, keeps.represents.insert room key fields⟩

/-- A record with a field without a name is refused, and only a number is lost. -/
theorem run_insert_unnamed (keeps : Keeps keys queues engine) (keyed : keys.keyField ≠ "")
    (room : engine.nextNode.toNat + 1 < 2 ^ 64) (key : String) (unnamed : "" ∈ fields) :
    ∃ after, (keys.insertStepwise key fields).run perform engine =
        (.error .emptyPropertyName, after) ∧
      Keeps keys queues after ∧
      after.location = engine.location ∧ after.nextNode = engine.nextNode + 1 := by
  set id := engine.nextTransaction with id_eq
  set node := engine.nextNode
  set started : Engine := { engine.begun with nextNode := node + 1 } with started_eq
  have sees : (registering node key keys).seesNode started.graph node = true :=
    registering_sees key keys started.graph node
  have startedOpen : started.isClosed = false := keeps.isOpen
  have startedAbsent : started.transactions[id]? = none := keeps.absent id
  rcases run_writeFields_unnamed id startedOpen sees unnamed with ⟨staged, failed⟩
  refine ⟨started, ?_, ⟨keeps.isOpen, keeps.settled, ?_⟩, rfl, rfl⟩
  · rw [KeyIndex.insertStepwise]
    apply run_inTransaction_error keeps.isOpen _ startedAbsent
    · exact staged
    · rw [keeps.run_register keyed]
      exact failed
  · apply keeps.represents.mono
    exact UInt64.le_of_lt (lt_add_one_of_room room)

/-! ## Changing and deleting -/

theorem run_lookup (keeps : Keeps keys queues engine) :
    (keys.lookup key).run perform engine =
      (.ok (engine.graph.nodesUnder keys key).toList.head?, engine) := by
  have there := keeps.represents.index
  rw [Graph.hasIndex_eq, Option.isSome_iff_exists] at there
  rcases there with ⟨index, found⟩
  have answered : (Dialogue.ask (.indexGet keys.index keys.keyField key)).run perform engine =
      (.ok (engine.graph.nodesUnder keys key).toList, engine) := by
    rw [Dialogue.run_ask, perform, readIndex, keeps.isOpen, found, Graph.nodesUnder, found]
    rfl
  rw [KeyIndex.lookup, Dialogue.run_bind_ok answered]
  rfl

private theorem sees_first (keeps : Keeps keys queues engine) {others : List NodeId}
    (list : (engine.graph.nodesUnder keys key).toList = node :: others) :
    Transaction.seesNode engine.graph node {} = true := by
  have member : node ∈ engine.graph.nodesUnder keys key := by
    rw [← Std.ExtTreeSet.mem_toList, list]
    exact List.mem_cons_self
  simpa [Transaction.seesNode] using keeps.represents.hasNode member

theorem run_updateNode (keeps : Keeps keys queues engine) {others : List NodeId}
    {properties : Properties}
    (list : (engine.graph.nodesUnder keys key).toList = node :: others)
    (found : engine.graph.nodes[node]? = some properties) (named : "" ∉ fields) :
    ∃ after, (keys.updateNode node key fields).run perform engine = (.ok (), after) ∧
      Keeps keys (queues.put key
        (overlay (recordOf properties) fields :: (queues.under key).tail)) after ∧
      after.location = engine.location ∧ after.nextNode = engine.nextNode := by
  set id := engine.nextTransaction with id_eq
  set started := engine.begun with started_eq
  have startedOpen : started.isClosed = false := keeps.isOpen
  have startedAbsent : started.transactions[id]? = none := keeps.absent id
  have startedIndex : started.graph.hasIndex keys.index = true := keeps.represents.index
  have sees : Transaction.seesNode started.graph node {} = true := keeps.sees_first list
  have written := run_writeFields id startedOpen sees named
  set covered : Transaction := Transaction.pushAll (Graph.settings node fields) {}
  have removed : (keys.unregister id node key).run perform (started.hold id covered) =
      (.ok (), started.hold id (covered.push (.indexRemove keys.index node keys.keyField key))) :=
    run_stage_hold (stageIn_indexRemove startedOpen startedIndex keys.keyField key)
  have seesRemoved : (covered.push (.indexRemove keys.index node keys.keyField key)).seesNode
      started.graph node = true := sees
  set staged := (covered.push (.indexRemove keys.index node keys.keyField key)).push
    (.indexAdd keys.index node keys.keyField key)
  have entered : (keys.enter id node key).run perform (started.hold id
      (covered.push (.indexRemove keys.index node keys.keyField key))) =
        (.ok (), started.hold id staged) :=
    run_stage_hold (stageIn_indexAdd startedOpen startedIndex seesRemoved keys.keyField key)
  have checkedCovered : covered.Checked started.graph :=
    checked_setProperties (Transaction.checked_empty _) sees fields.toList
  have checked : staged.Checked started.graph :=
    (checkedCovered.indexRemove startedIndex node keys.keyField key).indexAdd startedIndex
      seesRemoved keys.keyField key
  have writes : staged.writes = keys.change node key fields := by
    simp [staged, covered, Transaction.push, Transaction.pushAll, KeyIndex.change]
  refine ⟨{ started with graph := started.graph.performAll staged.writes }, ?_, ?_, rfl, rfl⟩
  · rw [KeyIndex.updateNode]
    apply run_inTransaction keeps.isOpen _ startedOpen startedAbsent checked
    rw [Dialogue.run_bind_ok written, KeyIndex.refresh, Dialogue.run_bind_ok removed, entered]
  · rw [writes]
    exact ⟨keeps.isOpen, keeps.settled, keeps.represents.update list found fields⟩

theorem run_updateNode_unnamed (keeps : Keeps keys queues engine) {others : List NodeId}
    (list : (engine.graph.nodesUnder keys key).toList = node :: others) (unnamed : "" ∈ fields) :
    ∃ after, (keys.updateNode node key fields).run perform engine =
        (.error .emptyPropertyName, after) ∧
      Keeps keys queues after ∧
      after.location = engine.location ∧ after.nextNode = engine.nextNode := by
  set id := engine.nextTransaction with id_eq
  set started := engine.begun with started_eq
  have startedOpen : started.isClosed = false := keeps.isOpen
  have startedAbsent : started.transactions[id]? = none := keeps.absent id
  have sees : Transaction.seesNode started.graph node {} = true := keeps.sees_first list
  rcases run_writeFields_unnamed id startedOpen sees unnamed with ⟨staged, failed⟩
  refine ⟨started, ?_, ⟨keeps.isOpen, keeps.settled, keeps.represents⟩, rfl, rfl⟩
  rw [KeyIndex.updateNode]
  apply run_inTransaction_error keeps.isOpen _ startedAbsent
  · exact staged
  · rw [Dialogue.run_bind_error failed]

theorem run_deleteNode (keeps : Keeps keys queues engine) {others : List NodeId}
    (list : (engine.graph.nodesUnder keys key).toList = node :: others) :
    ∃ after, (keys.deleteNode node key).run perform engine = (.ok (), after) ∧
      Keeps keys (queues.put key (queues.under key).tail) after ∧
      after.location = engine.location ∧ after.nextNode = engine.nextNode := by
  set id := engine.nextTransaction with id_eq
  set started := engine.begun with started_eq
  have startedOpen : started.isClosed = false := keeps.isOpen
  have startedAbsent : started.transactions[id]? = none := keeps.absent id
  have startedIndex : started.graph.hasIndex keys.index = true := keeps.represents.index
  set removed : Transaction :=
    Transaction.push (.indexRemove keys.index node keys.keyField key) {}
  have sees : removed.seesNode started.graph node = true := keeps.sees_first list
  have first : (keys.unregister id node key).run perform (started.hold id {}) =
      (.ok (), started.hold id removed) :=
    run_stage_hold (stageIn_indexRemove startedOpen startedIndex keys.keyField key)
  have second := stageIn_deleteNode startedOpen sees
  have checked := ((Transaction.checked_empty started.graph).indexRemove startedIndex node
    keys.keyField key).delete sees
  refine ⟨{ started with graph := started.graph.performAll (keys.deletion node key) }, ?_, ?_,
    rfl, rfl⟩
  · rw [KeyIndex.deleteNode]
    apply run_inTransaction keeps.isOpen _ startedOpen startedAbsent checked
    rw [Dialogue.run_bind_ok first, run_stage_hold second]
  · exact ⟨keeps.isOpen, keeps.settled, keeps.represents.delete list⟩

end Keeps

end Engine

end RecordGraph
