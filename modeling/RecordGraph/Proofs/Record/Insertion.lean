import Mathlib.Data.List.Forall2
import RecordGraph.Proofs.Engine.Holding
import RecordGraph.Proofs.Engine.Outcome

namespace RecordGraph

/-! A record may be inserted step by step in a transaction, or by one batch. On one and the same
engine both come to the same: the batch stages the same steps in the same order, and it is numbered
like a transaction. -/

namespace Engine

variable {engine : Engine} {node : NodeId} {id : TransactionId} {key : String} {fields : FieldMap}
  {keys : KeyIndex}

/-! ## Dialogues that only stage -/

theorem stageSteps_append (first second : List Step) (transaction : Transaction)
    (engine : Engine) :
    stageSteps (first ++ second) transaction engine =
      match stageSteps first transaction engine with
      | (.ok staged, after) => stageSteps second staged after
      | (.error failure, after) => (.error failure, after) := by
  induction first generalizing transaction engine with
  | nil => rfl
  | cons step steps induction =>
      rw [List.cons_append, stageSteps, stageSteps]
      rcases engine.stageIn step transaction with ⟨outcome, after⟩
      cases outcome with
      | error failure => rfl
      | ok answer => exact induction answer.2 after

/-- The dialogue stages steps in a transaction, up to the first that fails, and does nothing
else. -/
def Stages {Result : Type} (id : TransactionId) (steps : List Step)
    (dialogue : Dialogue Result) : Prop :=
  ∀ transaction engine,
    (∃ value staged after, stageSteps steps transaction engine = (.ok staged, after) ∧
      dialogue.run perform (engine.hold id transaction) = (.ok value, after.hold id staged)) ∨
    ∃ failure staged after, stageSteps steps transaction engine = (.error failure, after) ∧
      dialogue.run perform (engine.hold id transaction) = (.error failure, after.hold id staged)

theorem stages_pure {Result : Type} (value : Result) : Stages id [] (pure value) :=
  fun transaction engine => .inl ⟨value, transaction, engine, rfl, rfl⟩

theorem stages_stage (id : TransactionId) (step : Step) :
    Stages id [step] (Dialogue.stage id step) := by
  intro transaction engine
  rw [stageSteps]
  cases staging : engine.stageIn step transaction with
  | mk outcome after =>
      cases outcome with
      | error failure =>
          exact .inr ⟨failure, transaction, after, rfl, run_stage_hold_error staging⟩
      | ok answer => exact .inl ⟨(), answer.2, after, rfl, run_stage_hold staging⟩

theorem Stages.bind {First Result : Type} {first second : List Step} {dialogue : Dialogue First}
    {next : First → Dialogue Result} (stages : Stages id first dialogue)
    (later : ∀ value, Stages id second (next value)) :
    Stages id (first ++ second) (dialogue >>= next) := by
  intro transaction engine
  rw [stageSteps_append]
  rcases stages transaction engine with
    ⟨value, staged, after, steps, run⟩ | ⟨failure, staged, after, steps, run⟩
  · rw [steps, Dialogue.run_bind_ok run]
    exact later value staged after
  · rw [steps, Dialogue.run_bind_error run]
    exact .inr ⟨failure, staged, after, rfl, rfl⟩

theorem stages_forEach {Item Result : Type} {dialogue : Item → Dialogue Result}
    {step : Item → Step} (each : ∀ item, Stages id [step item] (dialogue item))
    (items : List Item) : Stages id (items.map step) (Dialogue.forEach dialogue items) := by
  induction items with
  | nil => exact stages_pure []
  | cons item items induction =>
      have rest (result : Result) := induction.bind fun results => stages_pure (result :: results)
      rw [List.append_nil] at rest
      exact (each item).bind rest

theorem stages_writeFields (id : TransactionId) (node : NodeId) (fields : FieldMap) :
    Stages id (fields.toList.map fun field => .setProperty node field.1 (.ofField field.2))
      (KeyIndex.writeFields id node fields) := by
  have written := (stages_forEach (fun field : String × Bytes =>
    stages_stage id (.setProperty node field.1 (.ofField field.2))) fields.toList).bind
      fun _ => stages_pure ()
  rwa [List.append_nil] at written

def describing (node : NodeId) (key : String) (fields : FieldMap) (keys : KeyIndex) : List Step :=
  .setProperty node keys.keyField (.text key) :: .indexAdd keys.index node keys.keyField key ::
    fields.toList.map fun field => .setProperty node field.1 (.ofField field.2)

theorem stages_describing (id : TransactionId) (node : NodeId) (key : String)
    (fields : FieldMap) (keys : KeyIndex) :
    Stages id (describing node key fields keys) (do
      keys.register id node key
      KeyIndex.writeFields id node fields) := by
  have registered : Stages id [.setProperty node keys.keyField (.text key),
      .indexAdd keys.index node keys.keyField key] (keys.register id node key) :=
    (stages_stage id _).bind fun _ => stages_stage id _
  exact registered.bind fun _ => stages_writeFields id node fields

private theorem snd_describing (node : NodeId) (key : String) (fields : FieldMap)
    (keys : KeyIndex) (transaction : Transaction) (engine : Engine) :
    (stageSteps (describing node key fields keys) transaction engine).2 = engine := by
  have plain : .createNode ∉ describing node key fields keys := by simp [describing]
  rcases engine.stageSteps_cases plain transaction with ⟨_, outcome⟩ | ⟨_, -, outcome⟩
  · rw [outcome]
  · rw [outcome]

/-! ## Jobs that refer to one node -/

def Refers (node : NodeId) (job : Job) (step : Step) : Prop :=
  step ≠ .createNode ∧ ∀ created transaction engine, created[0]? = some (some node) →
    stageJob created job transaction engine = engine.stageIn step transaction

theorem refers_setProperty (node : NodeId) (name : String) (value : PropertyValue) :
    Refers node (.setProperty (.job 0) name value) (.setProperty node name value) := by
  refine ⟨by simp, fun created transaction engine first => ?_⟩
  simp [stageJob, resolve, first]

theorem refers_indexAdd (node : NodeId) (index key value : String) :
    Refers node (.indexAdd index (.job 0) key value) (.indexAdd index node key value) := by
  refine ⟨by simp, fun created transaction engine first => ?_⟩
  simp [stageJob, resolve, first]

theorem stageJobs_refers {jobs : List Job} {steps : List Step}
    (refers : List.Forall₂ (Refers node) jobs steps) {created : List (Option NodeId)}
    (first : created[0]? = some (some node)) (transaction : Transaction) (engine : Engine) :
    ∃ all, stageJobs created jobs transaction engine =
      ((stageSteps steps transaction engine).1.map fun staged => (all, staged),
        (stageSteps steps transaction engine).2) := by
  induction refers generalizing created transaction engine with
  | nil => exact ⟨created, rfl⟩
  | cons refer refers induction =>
      rename_i job step jobs steps
      rw [stageJobs, stageSteps, refer.2 created transaction engine first]
      rcases engine.stageIn_cases step transaction with
        ⟨failure, staging⟩ | ⟨creates, -⟩ | ⟨-, staged, -, -, -, staging⟩
      · rw [staging]
        exact ⟨[], rfl⟩
      · exact absurd creates refer.1
      · rw [staging]
        apply induction
        rw [List.getElem?_append_left]
        · exact first
        · exact (List.getElem?_eq_some_iff.1 first).1

private theorem toList_singleton (name : String) (value : PropertyValue) :
    ((∅ : Properties).insert name value).toList = [(name, value)] := by
  have one : ((∅ : Properties).insert name value).toList.length = 1 := by
    rw [Std.ExtTreeMap.length_toList, Std.ExtTreeMap.size_insert]
    simp
  rcases List.length_eq_one_iff.1 one with ⟨only, all⟩
  have member : (name, value) ∈ ((∅ : Properties).insert name value).toList := by
    rw [Std.ExtTreeMap.mem_toList_iff_getElem?_eq_some, Std.ExtTreeMap.getElem?_insert_self]
  rw [all, List.mem_singleton] at member
  rw [all, member]

/-- The jobs of an insert stage the creation of a node and then what describes it. -/
theorem stageJobs_insertBatch (isOpen : engine.isClosed = false) (key : String)
    (fields : FieldMap) (keys : KeyIndex) :
    ∃ all, stageJobs [] (keys.insertBatch key fields) {} engine =
      let outcome := stageSteps (describing engine.nextNode key fields keys)
        (Transaction.create engine.nextNode {}) { engine with nextNode := engine.nextNode + 1 }
      (outcome.1.map fun staged => (all, staged), outcome.2) := by
  set rest : List Job := .indexAdd keys.index (.job 0) keys.keyField key ::
    fields.toList.map fun field => .setProperty (.job 0) field.1 (.ofField field.2) with rest_eq
  have batch : keys.insertBatch key fields =
      .createNode ((∅ : Properties).insert keys.keyField (.text key)) :: rest := rfl
  have refers : List.Forall₂ (Refers engine.nextNode) rest
      (describing engine.nextNode key fields keys).tail := by
    refine .cons (refers_indexAdd engine.nextNode keys.index keys.keyField key) ?_
    rw [List.forall₂_map_left_iff, List.forall₂_map_right_iff, List.forall₂_same]
    exact fun field _ => refers_setProperty engine.nextNode field.1 (.ofField field.2)
  have whole : describing engine.nextNode key fields keys =
      [.setProperty engine.nextNode keys.keyField (.text key)] ++
        (describing engine.nextNode key fields keys).tail := rfl
  rw [batch, stageJobs, stageJob, stageIn_createNode isOpen, whole, stageSteps_append,
    toList_singleton]
  dsimp only [List.map]
  cases stageSteps [.setProperty engine.nextNode keys.keyField (.text key)]
      (Transaction.create engine.nextNode {})
      { engine with nextNode := engine.nextNode + 1 } with
  | mk outcome after =>
      cases outcome with
      | error failure => exact ⟨[], rfl⟩
      | ok staged => exact stageJobs_refers refers rfl staged after

/-! ## Both ways to insert -/

def inserting (key : String) (fields : FieldMap) (keys : KeyIndex) (transaction : TransactionId) :
    Dialogue Unit := do
  let node ← createNode transaction
  keys.register transaction node key
  KeyIndex.writeFields transaction node fields

/-- The batch of an insert comes to what its steps come to in a transaction. -/
theorem run_insertBatched (absent : engine.transactions[engine.nextTransaction]? = none) :
    (keys.insertBatched key fields).run perform engine =
      (keys.insertStepwise key fields).run perform engine := by
  have asked : (keys.insertBatched key fields).run perform engine =
      ((engine.executeBatch (keys.insertBatch key fields)).1.map fun _ => (),
        (engine.executeBatch (keys.insertBatch key fields)).2) := by
    rw [KeyIndex.insertBatched, Dialogue.run_bind, Dialogue.run_ask, perform]
    rcases engine.executeBatch (keys.insertBatch key fields) with ⟨_ | _, after⟩
    · rfl
    · rfl
  have stepwise : keys.insertStepwise key fields = inTransaction (inserting key fields keys) := rfl
  rw [asked, stepwise]
  cases isOpen : engine.isClosed with
  | true =>
      rw [run_inTransaction_closed isOpen, executeBatch_closed isOpen]
      rfl
  | false =>
      have begun : engine.begun.isClosed = false := isOpen
      set id := engine.nextTransaction with id_eq
      set node := engine.begun.nextNode with node_eq
      set started : Engine := { engine.begun with nextNode := node + 1 } with started_eq
      have creating : (createNode id).run perform (engine.begun.hold id {}) =
          (.ok node, started.hold id (Transaction.create node {})) := run_createNode id begun
      have absentAfter : started.transactions[id]? = none := absent
      rcases stageJobs_insertBatch begun key fields keys with ⟨all, jobs⟩
      rw [← node_eq, ← started_eq] at jobs
      rw [executeBatch_begun isOpen, jobs]
      have same := snd_describing node key fields keys (Transaction.create node {}) started
      rcases stages_describing id node key fields keys (Transaction.create node {}) started with
        ⟨value, staged, after, steps, run⟩ | ⟨failure, staged, after, steps, run⟩
      · rw [steps] at same ⊢
        rcases same with rfl
        have done : (inserting key fields keys id).run perform (engine.begun.hold id {}) =
            (.ok value, started.hold id staged) := by
          rw [inserting, Dialogue.run_bind_ok creating]
          exact run
        rw [run_inTransaction_ok isOpen done absentAfter]
        dsimp only [Except.map]
        rcases started.commitIn staged with ⟨_ | _, last⟩
        · rfl
        · rfl
      · rw [steps] at same ⊢
        rcases same with rfl
        have failed : (inserting key fields keys id).run perform (engine.begun.hold id {}) =
            (.error failure, started.hold id staged) := by
          rw [inserting, Dialogue.run_bind_ok creating]
          exact run
        rw [run_inTransaction_error isOpen failed absentAfter]
        rfl

end Engine

end RecordGraph
