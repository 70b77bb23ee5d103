import RecordGraph.Engine
import RecordGraph.Proofs.Dialogue
import RecordGraph.Proofs.Graph.Staging
import RecordGraph.Record.Mutation

namespace RecordGraph

/-! Dialogues in a transaction. While one dialogue is alone with an engine, the transaction that it
has begun is the last thing in the table, and it leaves when it is finished. -/

namespace Transaction

def pushAll (writes : List Write) (transaction : Transaction) : Transaction :=
  { transaction with writes := transaction.writes ++ writes }

theorem pushAll_nil (transaction : Transaction) : transaction.pushAll [] = transaction := by
  simp [pushAll]

theorem pushAll_push (write : Write) (writes : List Write) (transaction : Transaction) :
    (transaction.push write).pushAll writes = transaction.pushAll (write :: writes) := by
  simp [push, pushAll]

end Transaction

namespace Engine

def hold (id : TransactionId) (transaction : Transaction) (engine : Engine) : Engine :=
  { engine with transactions := engine.transactions.insert id transaction }

theorem hold_hold (id : TransactionId) (first second : Transaction) (engine : Engine) :
    (engine.hold id first).hold id second = engine.hold id second := by
  rw [hold, hold, hold, Engine.mk.injEq]
  refine ⟨rfl, rfl, rfl, rfl, rfl, ?_⟩
  ext1 other
  by_cases same : id = other
  · simp [same]
  · simp [Std.ExtTreeMap.getElem?_insert, same]

theorem forget_hold {id : TransactionId} {engine : Engine}
    (absent : engine.transactions[id]? = none) (transaction : Transaction) :
    (engine.hold id transaction).forget id = engine := by
  rw [hold, forget]
  congr 1
  ext1 other
  by_cases same : id = other
  · simp [← same, absent]
  · simp [Std.ExtTreeMap.getElem?_insert, Std.ExtTreeMap.getElem?_erase, same]

theorem stageIn_hold (id : TransactionId) (held : Transaction) (step : Step)
    (transaction : Transaction) (engine : Engine) :
    (engine.hold id held).stageIn step transaction =
      ((engine.stageIn step transaction).1, (engine.stageIn step transaction).2.hold id held) := by
  unfold stageIn
  have sameClosed : (engine.hold id held).isClosed = engine.isClosed := rfl
  have sameStage : transaction.stage (engine.hold id held).graph (engine.hold id held).nextNode step =
      transaction.stage engine.graph engine.nextNode step := rfl
  rw [sameClosed, sameStage]
  cases engine.isClosed with
  | true => rfl
  | false =>
      cases transaction.stage engine.graph engine.nextNode step with
      | error failure => rfl
      | ok answer =>
          rcases answer with ⟨created, staged⟩
          cases created <;> rfl

theorem stage_hold {id : TransactionId} {step : Step} {transaction staged : Transaction}
    {engine after : Engine} {created : Option NodeId}
    (done : engine.stageIn step transaction = (.ok (created, staged), after)) :
    (engine.hold id transaction).stage id step = (.ok created, after.hold id staged) := by
  have found : (engine.hold id transaction).transactions[id]? = some transaction := by
    simp [hold]
  rw [stage, found]
  simp only [stageIn_hold, done]
  rw [← hold_hold id transaction staged after]
  rfl

theorem stage_hold_error {id : TransactionId} {step : Step} {transaction : Transaction}
    {engine after : Engine} {failure : Failure}
    (failed : engine.stageIn step transaction = (.error failure, after)) :
    (engine.hold id transaction).stage id step = (.error failure, after.hold id transaction) := by
  have found : (engine.hold id transaction).transactions[id]? = some transaction := by
    simp [hold]
  rw [stage, found]
  simp only [stageIn_hold, failed]

/-! ## Single steps -/

section Steps

variable {engine : Engine} {transaction : Transaction} {node : NodeId} {index name : String}

theorem stageIn_createNode (isOpen : engine.isClosed = false) :
    engine.stageIn .createNode transaction =
      (.ok (some engine.nextNode, transaction.create engine.nextNode),
        { engine with nextNode := engine.nextNode + 1 }) := by
  rw [stageIn, isOpen]
  rfl

theorem stageIn_setProperty (isOpen : engine.isClosed = false)
    (sees : transaction.seesNode engine.graph node = true) (named : name ≠ "")
    (value : PropertyValue) :
    engine.stageIn (.setProperty node name value) transaction =
      (.ok (none, transaction.push (.setProperty node name value)), engine) := by
  have full : name.isEmpty = false := by simpa using named
  simp only [stageIn, isOpen, Transaction.stage, full, Transaction.pushOn, sees]
  rfl

theorem stageIn_setProperty_unnamed (isOpen : engine.isClosed = false) (value : PropertyValue) :
    engine.stageIn (.setProperty node "" value) transaction =
      (.error .emptyPropertyName, engine) := by
  rw [stageIn, isOpen]
  rfl

theorem stageIn_indexAdd (isOpen : engine.isClosed = false)
    (there : engine.graph.hasIndex index = true)
    (sees : transaction.seesNode engine.graph node = true) (key value : String) :
    engine.stageIn (.indexAdd index node key value) transaction =
      (.ok (none, transaction.push (.indexAdd index node key value)), engine) := by
  simp only [stageIn, isOpen, Transaction.stage, there, Transaction.pushOn, sees]
  rfl

theorem stageIn_indexRemove (isOpen : engine.isClosed = false)
    (there : engine.graph.hasIndex index = true) (key value : String) :
    engine.stageIn (.indexRemove index node key value) transaction =
      (.ok (none, transaction.push (.indexRemove index node key value)), engine) := by
  simp only [stageIn, isOpen, Transaction.stage, there]
  rfl

theorem stageIn_deleteNode (isOpen : engine.isClosed = false)
    (sees : transaction.seesNode engine.graph node = true) :
    engine.stageIn (.deleteNode node) transaction =
      (.ok (none, { transaction.push (.deleteNode node) with
        created := transaction.created.erase node
        deleted := transaction.deleted.insert node }), engine) := by
  simp only [stageIn, isOpen, Transaction.stage, Transaction.pushOn, sees]
  rfl

end Steps

/-! ## Dialogues -/

section Dialogues

variable {id : TransactionId} {step : Step} {transaction staged : Transaction}
  {engine after : Engine} {created : Option NodeId} {failure : Failure}

theorem run_ask_stage_hold (done : engine.stageIn step transaction = (.ok (created, staged), after)) :
    (Dialogue.ask (.stage id step)).run perform (engine.hold id transaction) =
      (.ok created, after.hold id staged) :=
  stage_hold done

theorem run_stage_hold (done : engine.stageIn step transaction = (.ok (created, staged), after)) :
    (Dialogue.stage id step).run perform (engine.hold id transaction) =
      (.ok (), after.hold id staged) := by
  have staging : (engine.hold id transaction).perform (.stage id step) =
      (.ok created, after.hold id staged) := stage_hold done
  rw [Dialogue.run_stage, staging]
  rfl

theorem run_stage_hold_error (failed : engine.stageIn step transaction = (.error failure, after)) :
    (Dialogue.stage id step).run perform (engine.hold id transaction) =
      (.error failure, after.hold id transaction) := by
  have staging : (engine.hold id transaction).perform (.stage id step) =
      (.error failure, after.hold id transaction) := stage_hold_error failed
  rw [Dialogue.run_stage, staging]
  rfl

theorem run_createNode (id : TransactionId) (isOpen : engine.isClosed = false) :
    (createNode id).run perform (engine.hold id transaction) = (.ok engine.nextNode,
      Engine.hold id (transaction.create engine.nextNode)
        { engine with nextNode := engine.nextNode + 1 }) := by
  rw [createNode, Dialogue.run_bind_ok (run_ask_stage_hold (stageIn_createNode isOpen))]
  rfl

def begun (engine : Engine) : Engine :=
  { engine with nextTransaction := engine.nextTransaction + 1 }

theorem executeBatch_closed (closed : engine.isClosed = true) (batch : Batch) :
    engine.executeBatch batch = (.error .closed, engine) := by
  rw [executeBatch, if_pos closed]

/-- A batch is numbered like a transaction, and then its jobs are staged and committed. -/
theorem executeBatch_begun (isOpen : engine.isClosed = false) (batch : Batch) :
    engine.executeBatch batch = match stageJobs [] batch {} engine.begun with
      | (.error failure, after) => (.error failure, after)
      | (.ok (created, transaction), after) =>
          ((after.commitIn transaction).1.map fun _ => created,
            (after.commitIn transaction).2) := by
  have started : { engine with nextTransaction := engine.nextTransaction + 1 } = engine.begun := rfl
  rw [executeBatch, if_neg (by simp [isOpen])]
  dsimp only
  rw [started]
  rcases stageJobs [] batch {} engine.begun with ⟨failure | ⟨created, transaction⟩, after⟩
  · rfl
  · dsimp only
    rcases after.commitIn transaction with ⟨failure | _, last⟩
    · rfl
    · rfl

theorem perform_begin (isOpen : engine.isClosed = false) :
    engine.perform .beginTransaction =
      (.ok engine.nextTransaction, engine.begun.hold engine.nextTransaction {}) := by
  rw [perform, beginTransaction, if_neg (by simp [isOpen])]
  rfl

theorem run_inTransaction_closed {Result : Type} {body : TransactionId → Dialogue Result}
    (closed : engine.isClosed = true) :
    (inTransaction body).run perform engine = (.error .closed, engine) := by
  rw [Dialogue.run_inTransaction, perform, beginTransaction, closed]
  rfl

theorem run_inTransaction_ok {Result : Type} {body : TransactionId → Dialogue Result}
    {value : Result} (isOpen : engine.isClosed = false)
    (done : (body engine.nextTransaction).run perform
      (engine.begun.hold engine.nextTransaction {}) =
        (.ok value, after.hold engine.nextTransaction transaction))
    (absent : after.transactions[engine.nextTransaction]? = none) :
    (inTransaction body).run perform engine =
      ((after.commitIn transaction).1.map fun _ => value, (after.commitIn transaction).2) := by
  have committing : (after.hold engine.nextTransaction transaction).perform
      (.commit engine.nextTransaction) = after.commitIn transaction := by
    have found : (after.hold engine.nextTransaction transaction).transactions[
        engine.nextTransaction]? = some transaction := by
      simp [hold]
    rw [perform, commit, found]
    simp only [forget_hold absent]
  rw [Dialogue.run_inTransaction, perform_begin isOpen]
  dsimp only
  rw [done]
  dsimp only
  rw [committing]

theorem run_inTransaction {Result : Type} {body : TransactionId → Dialogue Result} {value : Result}
    (isOpen : engine.isClosed = false)
    (done : (body engine.nextTransaction).run perform
      (engine.begun.hold engine.nextTransaction {}) =
        (.ok value, after.hold engine.nextTransaction transaction))
    (isOpenAfter : after.isClosed = false)
    (absent : after.transactions[engine.nextTransaction]? = none)
    (checked : transaction.Checked after.graph) :
    (inTransaction body).run perform engine =
      (.ok value, { after with graph := after.graph.performAll transaction.writes }) := by
  have committed : after.commitIn transaction =
      (.ok (), { after with graph := after.graph.performAll transaction.writes }) := by
    simp only [commitIn, isOpenAfter, checked.commit]
    rfl
  rw [run_inTransaction_ok isOpen done absent, committed]
  rfl

theorem run_inTransaction_error {Result : Type} {body : TransactionId → Dialogue Result}
    (isOpen : engine.isClosed = false)
    (failed : (body engine.nextTransaction).run perform
      (engine.begun.hold engine.nextTransaction {}) =
        (.error failure, after.hold engine.nextTransaction transaction))
    (absent : after.transactions[engine.nextTransaction]? = none) :
    (inTransaction body).run perform engine = (.error failure, after) := by
  have discarding : ((after.hold engine.nextTransaction transaction).perform
      (.rollback engine.nextTransaction)).2 = after := by
    have found : (after.hold engine.nextTransaction transaction).transactions[
        engine.nextTransaction]? = some transaction := by
      simp [hold]
    rw [perform, rollback, found]
    exact forget_hold absent transaction
  rw [Dialogue.run_inTransaction, perform_begin isOpen]
  dsimp only
  rw [failed]
  dsimp only
  rw [discarding]

end Dialogues

end Engine

end RecordGraph
