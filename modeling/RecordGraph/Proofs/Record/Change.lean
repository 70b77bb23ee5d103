import RecordGraph.Proofs.Record.Course
import RecordGraph.Proofs.Record.Insertion

namespace RecordGraph

/-! What changes of records come to on an engine where nothing else is going on. Whatever is in
their way, they leave the graph as it is, or all of their writes have been checked and are
performed. -/

namespace Engine

variable {engine after : Engine} {keys : KeyIndex} {key : String} {fields : FieldMap}
  {node : NodeId}

/-- The graph is as before, or with writes that have been checked. Numbers of nodes may have been
used up in both cases. -/
inductive Becomes (engine : Engine) (writes : List Write) (next : NodeId) (after : Engine) :
    Prop where
  | unchanged (graph : after.graph = engine.graph)
      (number : after.nextNode = engine.nextNode ∨ after.nextNode = next)
  | performed (checked : Transaction.checkAll engine.graph {} writes = .ok ())
      (graph : after.graph = engine.graph.performAll writes) (number : after.nextNode = next)

theorem Becomes.next_between {writes : List Write} {next : NodeId}
    (becomes : Becomes engine writes next after) (more : engine.nextNode ≤ next) :
    engine.nextNode ≤ after.nextNode ∧ after.nextNode ≤ next := by
  cases becomes with
  | unchanged _ number =>
      rcases number with same | same
      · rw [same]
        exact ⟨UInt64.le_refl _, more⟩
      · rw [same]
        exact ⟨more, UInt64.le_refl _⟩
  | performed _ _ number =>
      rw [number]
      exact ⟨more, UInt64.le_refl _⟩

/-! ## In a transaction -/

private theorem becomes_commitIn (graph : after.graph = engine.graph) (transaction : Transaction) :
    Becomes engine transaction.writes after.nextNode (after.commitIn transaction).2 := by
  rcases after.commitIn_cases transaction with ⟨failure, outcome⟩ | ⟨checked, outcome⟩
  · rw [outcome]
    exact .unchanged graph (.inr rfl)
  · rw [outcome, graph]
    exact .performed (graph ▸ checked) rfl rfl

/-- What goes on by staging steps comes to the writes that are staged so far and those that the steps
ask for. -/
private theorem becomes_staging {Result : Type} {body : TransactionId → Dialogue Result}
    {rest : Dialogue Result} {steps : List Step} {started : Engine} {transaction : Transaction}
    (isOpen : engine.isClosed = false)
    (goesOn : (body engine.nextTransaction).run perform
        (engine.begun.hold engine.nextTransaction {}) =
      rest.run perform (started.hold engine.nextTransaction transaction))
    (stages : Stages engine.nextTransaction steps rest) (plain : .createNode ∉ steps)
    (graph : started.graph = engine.graph)
    (absent : started.transactions[engine.nextTransaction]? = none) :
    Becomes engine (transaction.writes ++ steps.filterMap (·.write? none)) started.nextNode
      ((inTransaction body).run perform engine).2 := by
  have cases_ := started.stageSteps_cases plain transaction
  rcases stages transaction started with
    ⟨value, staged, after, staging, run⟩ | ⟨failure, staged, after, staging, run⟩
  · rw [staging] at cases_
    rcases cases_ with ⟨failure, failed⟩ | ⟨last, writes, done⟩
    · cases failed
    · cases done
      rw [run_inTransaction_ok isOpen (goesOn.trans run) absent, ← writes]
      exact becomes_commitIn graph staged
  · rw [staging] at cases_
    rcases cases_ with ⟨failure, failed⟩ | ⟨last, writes, done⟩
    · cases failed
      rw [run_inTransaction_error isOpen (goesOn.trans run) absent]
      exact .unchanged graph (.inr rfl)
    · cases done

/-- What only stages steps, and creates no node, comes to the writes that the steps ask for. -/
theorem becomes_inTransaction {Result : Type} {body : TransactionId → Dialogue Result}
    {steps : List Step} (stages : ∀ id, Stages id steps (body id)) (plain : .createNode ∉ steps)
    (absent : engine.transactions[engine.nextTransaction]? = none) :
    Becomes engine (steps.filterMap (·.write? none)) engine.nextNode
      ((inTransaction body).run perform engine).2 := by
  cases isOpen : engine.isClosed with
  | true =>
      rw [run_inTransaction_closed isOpen]
      exact .unchanged rfl (.inl rfl)
  | false => exact becomes_staging isOpen rfl (stages _) plain rfl absent

/-! ## Changes of records -/

private theorem writes_settings (node : NodeId) (fields : FieldMap) :
    (fields.toList.map fun field => Step.setProperty node field.1 (.ofField field.2)).filterMap
      (·.write? none) = Graph.settings node fields := by
  simp [List.filterMap_map, Step.write?, Graph.settings]

theorem becomes_insertStepwise (absent : engine.transactions[engine.nextTransaction]? = none)
    (key : String) (fields : FieldMap) (keys : KeyIndex) :
    Becomes engine (keys.insertion engine.nextNode key fields) (engine.nextNode + 1)
      ((keys.insertStepwise key fields).run perform engine).2 := by
  cases isOpen : engine.isClosed with
  | true =>
      have stepwise : keys.insertStepwise key fields = inTransaction (inserting key fields keys) :=
        rfl
      rw [stepwise, run_inTransaction_closed isOpen]
      exact .unchanged rfl (.inl rfl)
  | false =>
      have begun : engine.begun.isClosed = false := isOpen
      have plain : .createNode ∉ describing engine.nextNode key fields keys := by simp [describing]
      have asked : (describing engine.nextNode key fields keys).filterMap (·.write? none) =
          [.setProperty engine.nextNode keys.keyField (.text key),
            .indexAdd keys.index engine.nextNode keys.keyField key] ++
            Graph.settings engine.nextNode fields := by
        rw [← writes_settings]
        rfl
      have goesOn : (inserting key fields keys engine.nextTransaction).run perform
          (engine.begun.hold engine.nextTransaction {}) = _ :=
        Dialogue.run_bind_ok (run_createNode engine.nextTransaction begun)
      have becomes := becomes_staging isOpen goesOn
        (stages_describing engine.nextTransaction engine.nextNode key fields keys) plain rfl absent
      rw [asked] at becomes
      exact becomes

theorem stages_stageEach (id : TransactionId) (steps : List Step) :
    Stages id steps (Dialogue.stageEach id steps) := by
  induction steps with
  | nil => exact stages_pure ()
  | cons step steps induction =>
      have first := (stages_stage id step).bind fun _ => induction
      rwa [Dialogue.stage_eq, Dialogue.stageEach_append] at first

theorem becomes_change (absent : engine.transactions[engine.nextTransaction]? = none)
    (change : Change) (node : NodeId) :
    Becomes engine (change.writes node) engine.nextNode
      ((inTransaction fun id => Dialogue.stageEach id (change.steps node)).run perform engine).2 :=
  becomes_inTransaction (fun id => stages_stageEach id _) (change.plain node) absent

theorem becomes_updateNode (absent : engine.transactions[engine.nextTransaction]? = none)
    (node : NodeId) (key : String) (fields : FieldMap) (keys : KeyIndex) :
    Becomes engine (keys.change node key fields) engine.nextNode
      ((keys.updateNode node key fields).run perform engine).2 := by
  rw [Change.updateNode_eq, ← Change.writes_update]
  exact becomes_change absent (.update keys key fields) node

theorem becomes_deleteNode (absent : engine.transactions[engine.nextTransaction]? = none)
    (node : NodeId) (key : String) (keys : KeyIndex) :
    Becomes engine (keys.deletion node key) engine.nextNode
      ((keys.deleteNode node key).run perform engine).2 := by
  rw [Change.deleteNode_eq, ← Change.writes_delete]
  exact becomes_change absent (.delete keys key) node

/-! ## Finding records -/

/-- A lookup fails, or tells the first node under the key in the index. -/
theorem run_lookup_cases (key : String) (keys : KeyIndex) (engine : Engine) :
    (∃ failure, (keys.lookup key).run perform engine = (.error failure, engine)) ∨
      engine.graph.hasIndex keys.index = true ∧ (keys.lookup key).run perform engine =
        (.ok (engine.graph.nodesUnder keys key).toList.head?, engine) := by
  have answer : (Dialogue.ask (.indexGet keys.index keys.keyField key)).run perform engine =
      (engine.readIndex keys.index (·.get keys.keyField key), engine) := rfl
  rw [KeyIndex.lookup]
  cases reading : engine.readIndex keys.index (·.get keys.keyField key) with
  | error failure => exact .inl ⟨failure, Dialogue.run_bind_error (reading ▸ answer)⟩
  | ok nodes =>
      rw [Dialogue.run_bind_ok (reading ▸ answer)]
      rw [readIndex] at reading
      split at reading
      · cases reading
      · split at reading
        · cases reading
        · rename_i entries found
          rw [Graph.hasIndex_eq, Graph.nodesUnder, found, ← Except.ok.inj reading]
          exact .inr ⟨rfl, rfl⟩

end Engine

end RecordGraph
