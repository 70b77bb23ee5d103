import RecordGraph.Proofs.Crowd.Course
import RecordGraph.Proofs.Engine.Jobs
import RecordGraph.Proofs.Engine.Pending
import RecordGraph.Proofs.Record.Change

namespace RecordGraph

/-! Exactly what a change of a record comes to on an engine where nothing else is going on. What has
been staged on a graph passes the check of a commit on the same graph. So either a step is refused,
and only numbers have been used up, or all writes are performed. -/

theorem Transaction.Checked.note {graph : Graph} {fresh : NodeId} {transaction : Transaction}
    {write : Write} (checked : Checked graph transaction)
    (admits : transaction.Admits graph fresh write) : Checked graph (transaction.note write) := by
  cases write with
  | createNode node => exact checked.create node
  | setProperty node name value => exact checked.setProperty (admits.node node rfl) name value
  | deleteNode node => exact checked.delete (admits.node node rfl)
  | indexAdd index node key value =>
      exact checked.indexAdd (admits.index index rfl) (admits.node node rfl) key value
  | indexRemove index node key value =>
      exact checked.indexRemove (admits.index index rfl) node key value

/-- What is in the way of an insert. The first thing in the way counts: the key is written before it
is entered, and entered before the fields are written. -/
def KeyIndex.refusal? (fields : FieldMap) (engine : Engine) (keys : KeyIndex) : Option Failure :=
  if engine.isClosed then some .closed
  else if keys.keyField = "" then some .emptyPropertyName
  else if engine.graph.hasIndex keys.index = false then some (.noIndex keys.index)
  else if "" ∈ fields then some .emptyPropertyName
  else none

namespace Engine

variable {engine started after : Engine} {transaction staged : Transaction} {steps : List Step}
  {node : NodeId} {keys : KeyIndex} {key : String} {fields : FieldMap}

theorem checked_stageSteps (checked : transaction.Checked engine.graph)
    (done : stageSteps steps transaction engine = (.ok staged, after)) :
    staged.Checked engine.graph := by
  induction steps generalizing transaction engine with
  | nil =>
      cases done
      exact checked
  | cons step steps induction =>
      rw [stageSteps] at done
      rcases engine.stageIn_notes step transaction with
        ⟨failure, outcome⟩ | ⟨created, write, count, admits, outcome⟩
      · rw [outcome] at done
        cases done
      · rw [outcome] at done
        have next : (transaction.note write).Checked (engine.skip count).graph :=
          checked.note admits
        have last : staged.Checked (engine.skip count).graph := induction next done
        exact last

/-! ## Transactions that only stage -/

def performing (writes : List Write) (engine : Engine) : Engine :=
  { engine with graph := engine.graph.performAll writes }

/-- How staging steps ends in a transaction that nobody interferes with: at the first step that is
refused, or with all writes performed. -/
def settle (steps : List Step) (transaction : Transaction) (started : Engine) :
    Except Failure Unit × Engine :=
  match (stageSteps steps transaction started).1 with
  | .error failure => (.error failure, started)
  | .ok _ => (.ok (), started.performing (transaction.writes ++ steps.filterMap (·.write? none)))

private theorem commitIn_checked (isOpen : engine.isClosed = false)
    (checked : transaction.Checked engine.graph) :
    engine.commitIn transaction = (.ok (), engine.performing transaction.writes) := by
  rw [commitIn, if_neg (by simp [isOpen]), checked.commit]
  rfl

private theorem run_settling {body : TransactionId → Dialogue Unit} {rest : Dialogue Unit}
    (isOpen : engine.isClosed = false)
    (goesOn : (body engine.nextTransaction).run perform
        (engine.begun.hold engine.nextTransaction {}) =
      rest.run perform (started.hold engine.nextTransaction transaction))
    (stages : Stages engine.nextTransaction steps rest) (plain : .createNode ∉ steps)
    (stillOpen : started.isClosed = false) (checked : transaction.Checked started.graph)
    (absent : started.transactions[engine.nextTransaction]? = none) :
    (inTransaction body).run perform engine = settle steps transaction started := by
  rcases stages transaction started with
    ⟨value, staged, after, staging, run⟩ | ⟨failure, staged, after, staging, run⟩
  · have passes := checked_stageSteps checked staging
    rcases started.stageSteps_cases plain transaction with
      ⟨failure, failed⟩ | ⟨last, writes, done⟩
    · cases staging.symm.trans failed
    · cases staging.symm.trans done
      rw [run_inTransaction_ok isOpen (goesOn.trans run) absent, commitIn_checked stillOpen passes,
        settle, staging, writes]
      rfl
  · rcases started.stageSteps_cases plain transaction with
      ⟨other, failed⟩ | ⟨last, writes, done⟩
    · cases staging.symm.trans failed
      rw [run_inTransaction_error isOpen (goesOn.trans run) absent, settle, staging]
    · cases staging.symm.trans done

def beginning (engine : Engine) : Engine := (engine.forget engine.nextTransaction).begun

/-- What is done in a new transaction takes the place of whatever has had its number. -/
theorem run_inTransaction_forget {Result : Type} (isOpen : engine.isClosed = false)
    (body : TransactionId → Dialogue Result) :
    (inTransaction body).run perform (engine.forget engine.nextTransaction) =
      (inTransaction body).run perform engine := by
  have still : (engine.forget engine.nextTransaction).isClosed = false := isOpen
  have begins : (engine.forget engine.nextTransaction).perform .beginTransaction =
      engine.perform .beginTransaction := by
    rw [perform_begin isOpen, perform_begin still]
    exact congrArg _ (hold_forget engine.nextTransaction {} engine.begun)
  rw [Dialogue.run_inTransaction, Dialogue.run_inTransaction, begins]

theorem forgotten (engine : Engine) :
    (engine.forget engine.nextTransaction).transactions[engine.nextTransaction]? = none :=
  Std.ExtTreeMap.getElem?_erase_self

theorem run_change (isOpen : engine.isClosed = false) (change : Change) (node : NodeId) :
    (inTransaction fun id => Dialogue.stageEach id (change.steps node)).run perform engine =
      settle (change.steps node) {} engine.beginning := by
  have still : (engine.forget engine.nextTransaction).isClosed = false := isOpen
  rw [← run_inTransaction_forget isOpen]
  exact run_settling still rfl (stages_stageEach _ _) (change.plain node) isOpen
    (Transaction.checked_empty _) engine.forgotten

/-! ## Inserting -/

def allotting (engine : Engine) : Engine :=
  { engine.beginning with nextNode := engine.nextNode + 1 }

theorem run_insertStepwise (isOpen : engine.isClosed = false) :
    (keys.insertStepwise key fields).run perform engine =
      settle (describing engine.nextNode key fields keys)
        (Transaction.create engine.nextNode {}) engine.allotting := by
  have still : (engine.forget engine.nextTransaction).isClosed = false := isOpen
  have begun : (engine.forget engine.nextTransaction).begun.isClosed = false := isOpen
  have goesOn : (inserting key fields keys engine.nextTransaction).run perform
      (engine.beginning.hold engine.nextTransaction {}) = _ :=
    Dialogue.run_bind_ok (run_createNode engine.nextTransaction begun)
  have stepwise : keys.insertStepwise key fields = inTransaction (inserting key fields keys) := rfl
  rw [stepwise, ← run_inTransaction_forget isOpen]
  exact run_settling still goesOn (stages_describing _ _ key fields keys) (by simp [describing])
    isOpen ((Transaction.checked_empty _).create _) engine.forgotten

theorem run_insertBatched_eq (engine : Engine) :
    (keys.insertBatched key fields).run perform engine =
      ((engine.executeBatch (keys.insertBatch key fields)).1.map fun _ => (),
        (engine.executeBatch (keys.insertBatch key fields)).2) :=
  Dialogue.run_map (Dialogue.ask (.executeBatch (keys.insertBatch key fields))) (fun _ => ()) engine

theorem run_insertStepwise_batched (isOpen : engine.isClosed = false) :
    (keys.insertStepwise key fields).run perform engine =
      (((keys.insertBatched key fields).run perform engine).1,
        ((keys.insertBatched key fields).run perform engine).2.forget engine.nextTransaction) := by
  have absent : (engine.forget engine.nextTransaction).transactions[
      (engine.forget engine.nextTransaction).nextTransaction]? = none := engine.forgotten
  have reframed := engine.executeBatch_reframed (fun same => same) (·.erase engine.nextTransaction)
    (keys.insertBatch key fields)
  have without : engine.reframed (fun same => same) (·.erase engine.nextTransaction) =
    engine.forget engine.nextTransaction := rfl
  have stepwise : keys.insertStepwise key fields = inTransaction (inserting key fields keys) := rfl
  rw [without] at reframed
  rw [stepwise, ← run_inTransaction_forget isOpen, ← stepwise, ← run_insertBatched absent,
    run_insertBatched_eq, run_insertBatched_eq, reframed]
  rfl

/-! ## What is refused -/

section Refusals

variable (isOpen : engine.isClosed = false) (sees : transaction.seesNode engine.graph node = true)
include isOpen sees

private theorem stageSteps_fields (list : List (String × Bytes)) :
    stageSteps (list.map fun field => .setProperty node field.1 (.ofField field.2)) transaction
        engine =
      if ∃ field ∈ list, field.1 = "" then (.error .emptyPropertyName, engine)
      else (.ok (transaction.pushAll
        (list.map fun field => .setProperty node field.1 (.ofField field.2))), engine) := by
  induction list generalizing transaction with
  | nil => simp [stageSteps, Transaction.pushAll_nil]
  | cons field list induction =>
      rw [List.map_cons, stageSteps]
      by_cases empty : field.1 = ""
      · rw [empty, stageIn_setProperty_unnamed isOpen, if_pos ⟨field, List.mem_cons_self, empty⟩]
      · have others : (∃ other ∈ field :: list, other.1 = "") ↔ ∃ other ∈ list, other.1 = "" := by
          simp [empty]
        have still : (transaction.push (.setProperty node field.1 (.ofField field.2))).seesNode
            engine.graph node = true := sees
        rw [stageIn_setProperty isOpen sees empty]
        dsimp only
        rw [induction still]
        simp only [others, List.map_cons, Transaction.pushAll_push]

theorem stageSteps_settings (fields : FieldMap) :
    stageSteps (fields.toList.map fun field => .setProperty node field.1 (.ofField field.2))
        transaction engine =
      if "" ∈ fields then (.error .emptyPropertyName, engine)
      else (.ok (transaction.pushAll (Graph.settings node fields)), engine) := by
  have unnamed : (∃ field ∈ fields.toList, field.1 = "") ↔ "" ∈ fields := by
    constructor
    · rintro ⟨⟨name, value⟩, member, rfl⟩
      rw [Std.ExtTreeMap.mem_toList_iff_getElem?_eq_some] at member
      exact Std.ExtTreeMap.mem_iff_isSome_getElem?.2 (by rw [member]; rfl)
    · intro member
      rcases Option.isSome_iff_exists.1 (Std.ExtTreeMap.mem_iff_isSome_getElem?.1 member) with
        ⟨value, found⟩
      exact ⟨("", value), Std.ExtTreeMap.mem_toList_iff_getElem?_eq_some.2 found, rfl⟩
  rw [stageSteps_fields isOpen sees]
  simp only [unnamed]
  rfl

end Refusals

theorem stageIn_indexAdd_missing (isOpen : engine.isClosed = false) {index : String}
    (missing : engine.graph.hasIndex index = false) (node : NodeId) (key value : String) :
    engine.stageIn (.indexAdd index node key value) transaction =
      (.error (.noIndex index), engine) := by
  simp only [stageIn, isOpen, Transaction.stage, missing]
  rfl

theorem stageSteps_describing (isOpen : engine.isClosed = false)
    (sees : transaction.seesNode engine.graph node = true) (key : String) (fields : FieldMap)
    (keys : KeyIndex) :
    (∃ failure, keys.refusal? fields engine = some failure ∧
      stageSteps (describing node key fields keys) transaction engine = (.error failure, engine)) ∨
    keys.refusal? fields engine = none ∧
      ∃ staged, stageSteps (describing node key fields keys) transaction engine =
        (.ok staged, engine) := by
  have seesKeyed : (transaction.push (.setProperty node keys.keyField (.text key))).seesNode
      engine.graph node = true := sees
  have seesEntered : ((transaction.push (.setProperty node keys.keyField (.text key))).push
      (.indexAdd keys.index node keys.keyField key)).seesNode engine.graph node = true := sees
  rw [KeyIndex.refusal?, if_neg (by simp [isOpen]), describing, stageSteps]
  by_cases unnamed : keys.keyField = ""
  · rw [unnamed, stageIn_setProperty_unnamed isOpen, if_pos rfl]
    exact .inl ⟨_, rfl, rfl⟩
  rw [stageIn_setProperty isOpen sees unnamed, if_neg unnamed]
  dsimp only
  rw [stageSteps]
  cases there : engine.graph.hasIndex keys.index with
  | false =>
      rw [stageIn_indexAdd_missing isOpen there, if_pos rfl]
      exact .inl ⟨_, rfl, rfl⟩
  | true =>
      rw [stageIn_indexAdd isOpen there seesKeyed, if_neg (by simp)]
      dsimp only
      rw [stageSteps_settings isOpen seesEntered]
      by_cases empty : "" ∈ fields
      · rw [if_pos empty, if_pos empty]
        exact .inl ⟨_, rfl, rfl⟩
      · rw [if_neg empty, if_neg empty]
        exact .inr ⟨rfl, _, rfl⟩

theorem run_insertStepwise_refusal (isOpen : engine.isClosed = false) :
    (keys.insertStepwise key fields).run perform engine =
      match keys.refusal? fields engine with
      | some failure => (.error failure, engine.allotting)
      | none => (.ok (), engine.allotting.performing
          (keys.insertion engine.nextNode key fields)) := by
  have open_ : engine.allotting.isClosed = false := isOpen
  have sees : (Transaction.create engine.nextNode {}).seesNode engine.allotting.graph
      engine.nextNode = true := by
    simp [Transaction.seesNode, Transaction.create, Transaction.push]
  have writes : (Transaction.create engine.nextNode {}).writes ++
      (describing engine.nextNode key fields keys).filterMap (·.write? none) =
        keys.insertion engine.nextNode key fields := by
    simp [describing, KeyIndex.insertion, Graph.settings, Transaction.create, Transaction.push,
      Step.write?, List.filterMap_map]
  have same : keys.refusal? fields engine.allotting = keys.refusal? fields engine := rfl
  rw [run_insertStepwise isOpen, settle, writes]
  rcases stageSteps_describing open_ sees key fields keys with
    ⟨failure, refused, staging⟩ | ⟨admitted, staged, staging⟩
  · rw [staging, ← same, refused]
  · rw [staging, ← same, admitted]

/-- On every engine, open or closed, an insert comes to what is in its way, and changes nothing, or to
all of its writes. -/
theorem insertStepwise_verdict (engine : Engine) (keys : KeyIndex) (key : String)
    (fields : FieldMap) :
    let inSteps := (keys.insertStepwise key fields).run perform engine
    (match keys.refusal? fields engine with
      | some failure => inSteps.1 = .error failure ∧ inSteps.2.graph = engine.graph
      | none => inSteps.1 = .ok () ∧ inSteps.2.graph =
          engine.graph.performAll (keys.insertion engine.nextNode key fields)) ∧
    inSteps.2.nextNode = if engine.isClosed then engine.nextNode else engine.nextNode + 1 := by
  intro inSteps
  cases isOpen : engine.isClosed with
  | true =>
      have closed : inSteps = (.error .closed, engine) := run_inTransaction_closed isOpen
      rw [closed, KeyIndex.refusal?, if_pos isOpen]
      exact ⟨⟨rfl, rfl⟩, rfl⟩
  | false =>
      have outcome : inSteps = _ := run_insertStepwise_refusal isOpen
      rw [outcome]
      cases keys.refusal? fields engine with
      | some failure => exact ⟨⟨rfl, rfl⟩, rfl⟩
      | none => exact ⟨⟨rfl, rfl⟩, rfl⟩

/-- At most the batch and the steps differ in whether a transaction is still open that has had the
number of theirs. -/
theorem insertBatched_alike (engine : Engine) (keys : KeyIndex) (key : String)
    (fields : FieldMap) :
    let atOnce := (keys.insertBatched key fields).run perform engine
    let inSteps := (keys.insertStepwise key fields).run perform engine
    atOnce.1 = inSteps.1 ∧
      atOnce.2.forget engine.nextTransaction = inSteps.2.forget engine.nextTransaction := by
  intro atOnce inSteps
  cases isOpen : engine.isClosed with
  | true =>
      have closed : inSteps = (.error .closed, engine) := run_inTransaction_closed isOpen
      have closedToo : atOnce = (.error .closed, engine) := by
        have asked : atOnce = _ := run_insertBatched_eq engine
        rw [asked, executeBatch_closed isOpen]
        rfl
      rw [closed, closedToo]
      exact ⟨rfl, rfl⟩
  | false =>
      have same : inSteps = (atOnce.1, atOnce.2.forget engine.nextTransaction) :=
        run_insertStepwise_batched isOpen
      rw [same]
      exact ⟨rfl, (forget_absent _ _ Std.ExtTreeMap.getElem?_erase_self).symm⟩

/-- On every engine, open or closed, the batch of an insert and its steps answer the same, and leave
the same graph and the same number for the next node. They answer with what is in the way of the
insert, which changes nothing then, or all of its writes are performed; a number is used up unless
the engine is closed. -/
theorem insertBatched_insertStepwise (engine : Engine) (keys : KeyIndex) (key : String)
    (fields : FieldMap) :
    let atOnce := (keys.insertBatched key fields).run perform engine
    let inSteps := (keys.insertStepwise key fields).run perform engine
    (atOnce.1 = inSteps.1 ∧ atOnce.2.graph = inSteps.2.graph ∧
      atOnce.2.nextNode = inSteps.2.nextNode ∧
      atOnce.2.forget engine.nextTransaction = inSteps.2.forget engine.nextTransaction) ∧
    (match keys.refusal? fields engine with
      | some failure => inSteps.1 = .error failure ∧ inSteps.2.graph = engine.graph
      | none => inSteps.1 = .ok () ∧ inSteps.2.graph =
          engine.graph.performAll (keys.insertion engine.nextNode key fields)) ∧
    inSteps.2.nextNode = if engine.isClosed then engine.nextNode else engine.nextNode + 1 := by
  intro atOnce inSteps
  rcases insertBatched_alike engine keys key fields with ⟨answers, engines⟩
  have graphs := congrArg Engine.graph engines
  have numbers := congrArg Engine.nextNode engines
  exact ⟨⟨answers, graphs, numbers, engines⟩, insertStepwise_verdict engine keys key fields⟩

/-! ## Changing what is there -/

/-- Either a step of a change is refused, or the node is there and all writes are performed. -/
theorem settle_change (change : Change) (node : NodeId) (started : Engine) :
    (∃ failure, settle (change.steps node) {} started = (.error failure, started)) ∨
      started.graph.hasNode node = true ∧ settle (change.steps node) {} started =
        (.ok (), started.performing (change.writes node)) := by
  rw [settle]
  cases staging : stageSteps (change.steps node) {} started with
  | mk outcome after =>
      cases outcome with
      | error failure => exact .inl ⟨failure, rfl⟩
      | ok staged =>
          rcases started.stageSteps_cases (change.plain node) {} with
            ⟨failure, failed⟩ | ⟨last, writes, done⟩
          · cases staging.symm.trans failed
          · cases staging.symm.trans done
            rw [List.nil_append] at writes
            rcases checked_stageSteps (Transaction.checked_empty _) staging with
              ⟨standing, passed, -⟩
            have checked : Transaction.checkAll started.graph {} (change.writes node) = .ok () := by
              rw [Transaction.Standing.checkAll_eq, Change.writes, ← writes, passed]
              rfl
            exact .inr ⟨Change.present_of_checkAll checked, rfl⟩

theorem settle_update (isOpen : started.isClosed = false)
    (there : started.graph.hasIndex keys.index = true)
    (present : started.graph.hasNode node = true) (key : String) (named : "" ∉ fields) :
    settle ((Change.update keys key fields).steps node) {} started =
      (.ok (), started.performing (keys.change node key fields)) := by
  set covering := ({} : Transaction).pushAll (Graph.settings node fields) with covering_eq
  have seesFirst : ({} : Transaction).seesNode started.graph node = true := by
    simp [Transaction.seesNode, present]
  have seesLast : (covering.push (.indexRemove keys.index node keys.keyField key)).seesNode
      started.graph node = true := seesFirst
  have staging : stageSteps ((Change.update keys key fields).steps node) {} started =
      (.ok ((covering.push (.indexRemove keys.index node keys.keyField key)).push
        (.indexAdd keys.index node keys.keyField key)), started) := by
    rw [Change.update, stageSteps_append, stageSteps_settings isOpen seesFirst, if_neg named]
    dsimp only
    rw [← covering_eq, stageSteps, stageIn_indexRemove isOpen there]
    dsimp only
    rw [stageSteps, stageIn_indexAdd isOpen there seesLast]
    rfl
  rw [settle, staging, ← Change.writes_update]
  rfl

theorem settle_delete (isOpen : started.isClosed = false)
    (there : started.graph.hasIndex keys.index = true)
    (present : started.graph.hasNode node = true) (key : String) :
    settle ((Change.delete keys key).steps node) {} started =
      (.ok (), started.performing (keys.deletion node key)) := by
  have sees : (({} : Transaction).push (.indexRemove keys.index node keys.keyField key)).seesNode
      started.graph node = true := by
    simp [Transaction.seesNode, Transaction.push, present]
  rw [settle, Change.delete, stageSteps, stageIn_indexRemove isOpen there]
  dsimp only
  rw [stageSteps, stageIn_deleteNode isOpen sees]
  rfl

/-! ## Whole operations -/

theorem run_change_dialogue {change : Change} (isOpen : engine.isClosed = false)
    (there : engine.graph.hasIndex change.keys.index = true) :
    change.dialogue.run perform engine =
      match (engine.graph.nodesUnder change.keys change.key).toList.head? with
      | none => (.ok false, engine)
      | some node => ((settle (change.steps node) {} engine.beginning).1.map fun _ => true,
          (settle (change.steps node) {} engine.beginning).2) := by
  rw [Graph.hasIndex_eq, Option.isSome_iff_exists] at there
  rcases there with ⟨index, found⟩
  have answer : engine.perform (.indexGet change.keys.index change.keys.keyField change.key) =
      (.ok (engine.graph.nodesUnder change.keys change.key).toList, engine) := by
    rw [perform, readIndex, if_neg (by simp [isOpen]), found, Graph.nodesUnder, found]
    rfl
  rw [Change.dialogue, Dialogue.run, answer]
  dsimp only
  cases (engine.graph.nodesUnder change.keys change.key).toList with
  | nil => rfl
  | cons node others =>
      dsimp only [List.head?_cons]
      rw [← Dialogue.inTransaction_stageEach, Dialogue.run_map _ fun _ => true, run_change isOpen]

theorem run_insert (engine : Engine) (binding : Binding) (key : String) (fields : FieldMap) :
    let run := (Record.insert key fields binding).run perform engine
    match binding.keys.refusal? fields engine with
    | some failure => run.1 = .error failure ∧ run.2.graph = engine.graph
    | none => run.1 = .ok () ∧ run.2.graph =
        engine.graph.performAll (binding.keys.insertion engine.nextNode key fields) := by
  have inSteps := (insertStepwise_verdict engine binding.keys key fields).1
  rcases insertBatched_alike engine binding.keys key fields with ⟨answers, engines⟩
  have graphs := congrArg Engine.graph engines
  dsimp only [forget] at graphs
  rw [Record.insert]
  cases binding.mode with
  | embedded => exact inSteps
  | remote => exact inSteps
  | remoteBatch =>
      rw [← answers, ← graphs] at inSteps
      exact inSteps

end Engine

end RecordGraph
