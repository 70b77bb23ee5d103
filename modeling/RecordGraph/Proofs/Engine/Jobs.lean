import RecordGraph.Proofs.Engine.Effect
import RecordGraph.Proofs.Engine.Handing
import RecordGraph.Proofs.Engine.Place
import RecordGraph.Proofs.Record.Insertion

namespace RecordGraph

/-! Batches in steps. Whoever has no batches can do the jobs of one in a transaction, one after
another, keeping account of the nodes that they create. On every engine this comes to the same as
the batch. -/

open Dialogue

def Job.creates : Job → Bool
  | .createNode _ => true
  | _ => false

/-- Does a job in a transaction, when it is known which nodes its references mean: the node that it
has created. -/
def Job.inSteps (id : TransactionId) (refer : NodeReference → Except Failure NodeId) :
    Job → Dialogue (Option NodeId)
  | .createNode properties => do
      let node ← RecordGraph.createNode id
      let _ ← forEach (fun setting : String × PropertyValue =>
        stage id (.setProperty node setting.1 setting.2)) properties.toList
      pure (some node)
  | .indexAdd index reference key value =>
      match refer reference with
      | .ok node => do
          stage id (.indexAdd index node key value)
          pure none
      | .error failure => fail failure
  | .setProperty reference name value =>
      match refer reference with
      | .ok node => do
          stage id (.setProperty node name value)
          pure none
      | .error failure => fail failure

namespace Batch

/-- The node that a reference means to the job at a place, when nodes are known by the places of the
jobs that have created them: only a job before it that creates a node can be referred to. -/
def refer (batch : Batch) (place : Nat) (nodes : Nat → NodeId) :
    NodeReference → Except Failure NodeId
  | .id node => .ok node
  | .job position =>
      if position.toNat < place ∧ batch[position.toNat]?.any Job.creates then
        .ok (nodes position.toNat)
      else .error (.invalidArgument
        ("batch job " ++ toString position.toNat ++ " did not create a node"))

def jobsInSteps (batch : Batch) (id : TransactionId) :
    List Job → (place : Nat) → (nodes : Nat → NodeId) → Dialogue (List (Option NodeId))
  | [], _, _ => pure []
  | job :: jobs, place, nodes => do
      let created ← job.inSteps id (batch.refer place nodes)
      let others ← batch.jobsInSteps id jobs (place + 1)
        (Function.update nodes place (created.getD 0))
      pure (created :: others)

def inSteps (batch : Batch) : Dialogue (List (Option NodeId)) :=
  inTransaction fun id => batch.jobsInSteps id batch 0 fun _ => 0

/-! ## What jobs create -/

theorem isSome_numbers (next : NodeId) (batch : Batch) :
    (batch.numbers next).map Option.isSome = batch.map Job.creates := by
  induction batch generalizing next with
  | nil => rfl
  | cons job jobs induction =>
      rw [numbers, List.map_cons, List.map_cons, induction]
      cases job with
      | _ => rfl

theorem filterMap_numbers (next : NodeId) (batch : Batch) :
    (batch.numbers next).filterMap id = counted next batch.cost := by
  induction batch generalizing next with
  | nil => rfl
  | cons job jobs induction =>
      rw [numbers, cost, counted_append, ← induction]
      cases job with
      | createNode properties => rw [Job.cost, counted_one]; rfl
      | _ => rfl

/-! ## Accounts -/

/-- The nodes that have been noted for the jobs at the front of a batch are those that they have
created. -/
def Accounts (batch : Batch) (nodes : Nat → NodeId) (created : List (Option NodeId)) : Prop :=
  ∀ place < created.length,
    created[place]? = some (if batch[place]?.any Job.creates then some (nodes place) else none)

theorem accounts_nil (batch : Batch) (nodes : Nat → NodeId) : Accounts batch nodes [] :=
  fun place less => absurd less (Nat.not_lt_zero place)

namespace Accounts

variable {batch : Batch} {nodes : Nat → NodeId} {created : List (Option NodeId)}

theorem resolve_eq (accounts : Accounts batch nodes created) (reference : NodeReference) :
    Engine.resolve created reference = batch.refer created.length nodes reference := by
  cases reference with
  | id node => rfl
  | job position =>
      rw [Engine.resolve, refer]
      by_cases before : position.toNat < created.length
      · rw [accounts position.toNat before]
        by_cases creates : batch[position.toNat]?.any Job.creates = true
        · rw [if_pos creates, if_pos ⟨before, creates⟩]
        · rw [if_neg creates, if_neg fun both => creates both.2]
      · rw [List.getElem?_eq_none_iff.2 (Nat.le_of_not_lt before), if_neg fun both => before both.1]

theorem append (accounts : Accounts batch nodes created) {job : Job}
    (place : batch[created.length]? = some job) (next : NodeId) :
    Accounts batch (Function.update nodes created.length ((job.number next).getD 0))
      (created ++ [job.number next]) := by
  intro position less
  rw [List.length_append, List.length_singleton, Nat.lt_succ_iff_lt_or_eq] at less
  rcases less with before | rfl
  · rw [List.getElem?_append_left before, accounts position before,
      Function.update_of_ne (Nat.ne_of_lt before)]
  · rw [List.getElem?_concat_length, place, Function.update_self]
    cases job with
    | _ => rfl

end Accounts

end Batch

namespace Engine

variable {engine : Engine}

/-! ## Jobs in a transaction -/

/-- What the dialogue does in a transaction that it keeps in the table is what the staging does with
one that it holds, up to the form of the answer. -/
def Mirrors {Result Answer : Type} (id : TransactionId) (form : Result → Answer)
    (staging : Transaction → Engine → Except Failure (Answer × Transaction) × Engine)
    (dialogue : Dialogue Result) : Prop :=
  ∀ transaction engine,
    (∃ value staged after, staging transaction engine = (.ok (form value, staged), after) ∧
      dialogue.run perform (engine.hold id transaction) = (.ok value, after.hold id staged)) ∨
    ∃ failure staged after, staging transaction engine = (.error failure, after) ∧
      dialogue.run perform (engine.hold id transaction) = (.error failure, after.hold id staged)

private theorem mirrors_staged (id : TransactionId) {step : Step} (plain : step ≠ .createNode) :
    Mirrors id (fun created => created) (fun transaction engine => engine.stageIn step transaction)
      (do
        Dialogue.stage id step
        pure none) := by
  intro transaction engine
  rcases engine.stageIn_cases step transaction with
    ⟨failure, staging⟩ | ⟨creates, -⟩ | ⟨-, staged, -, -, -, staging⟩
  · refine .inr ⟨failure, transaction, engine, staging, ?_⟩
    exact run_bind_error (run_stage_hold_error staging)
  · exact absurd creates plain
  · exact .inl ⟨none, staged, engine, staging, run_bind_ok (run_stage_hold staging)⟩

private theorem mirrors_creation (id : TransactionId) (created : List (Option NodeId))
    (refer : NodeReference → Except Failure NodeId) (properties : Properties) :
    Mirrors id (fun created => created) (stageJob created (.createNode properties))
      ((Job.createNode properties).inSteps id refer) := by
  intro transaction engine
  rw [stageJob, Job.inSteps]
  rcases engine.stageIn_cases .createNode transaction with
    ⟨failure, staging⟩ | ⟨-, staging⟩ | ⟨other, -⟩
  · have refused : (RecordGraph.createNode id).run perform (engine.hold id transaction) =
        (.error failure, engine.hold id transaction) := run_bind_error (stage_hold_error staging)
    rw [staging, run_bind_error refused]
    exact .inr ⟨failure, transaction, engine, rfl, rfl⟩
  · have creating : (RecordGraph.createNode id).run perform (engine.hold id transaction) =
        (.ok engine.nextNode, (engine.skip 1).hold id (transaction.create engine.nextNode)) :=
      run_bind_ok (run_ask_stage_hold staging)
    rw [staging, run_bind_ok creating]
    have setting := stages_forEach (fun setting : String × PropertyValue =>
      stages_stage id (.setProperty engine.nextNode setting.1 setting.2)) properties.toList
    rcases setting (transaction.create engine.nextNode) (engine.skip 1) with
      ⟨value, staged, after, steps, run⟩ | ⟨failure, staged, after, steps, run⟩
    · refine .inl ⟨some engine.nextNode, staged, after, ?_, run_bind_ok run⟩
      dsimp only
      rw [steps]
    · refine .inr ⟨failure, staged, after, ?_, run_bind_error run⟩
      dsimp only
      rw [steps]
  · exact absurd rfl other

theorem mirrors_job {created : List (Option NodeId)}
    {refer : NodeReference → Except Failure NodeId}
    (same : ∀ reference, resolve created reference = refer reference) (id : TransactionId)
    (job : Job) :
    Mirrors id (fun created => created) (stageJob created job) (job.inSteps id refer) := by
  cases job with
  | createNode properties => exact mirrors_creation id created refer properties
  | indexAdd index reference key value =>
      intro transaction engine
      rw [stageJob, Job.inSteps, same]
      cases refer reference with
      | error failure => exact .inr ⟨failure, transaction, engine, rfl, rfl⟩
      | ok node => exact mirrors_staged id (by simp) transaction engine
  | setProperty reference name value =>
      intro transaction engine
      rw [stageJob, Job.inSteps, same]
      cases refer reference with
      | error failure => exact .inr ⟨failure, transaction, engine, rfl, rfl⟩
      | ok node => exact mirrors_staged id (by simp) transaction engine

theorem stageJob_number {created : List (Option NodeId)} {job : Job}
    {transaction staged : Transaction} {after : Engine} {node : Option NodeId}
    (done : stageJob created job transaction engine = (.ok (node, staged), after)) :
    node = job.number engine.nextNode := by
  rcases engine.stageJob_cases created job transaction with
    ⟨failure, count, -, outcome⟩ | ⟨last, -, outcome⟩
  · cases done.symm.trans outcome
  · exact (Prod.mk.inj (Except.ok.inj (Prod.mk.inj (done.symm.trans outcome)).1)).1

theorem mirrors_jobs {batch : Batch} {nodes : Nat → NodeId} {created : List (Option NodeId)}
    {jobs : List Job} (rest : batch.drop created.length = jobs)
    (accounts : batch.Accounts nodes created) (id : TransactionId) :
    Mirrors id (created ++ ·) (stageJobs created jobs)
      (batch.jobsInSteps id jobs created.length nodes) := by
  induction jobs generalizing created nodes with
  | nil =>
      intro transaction engine
      refine .inl ⟨[], transaction, engine, ?_, rfl⟩
      dsimp only
      rw [stageJobs, List.append_nil]
  | cons job jobs induction =>
      intro transaction engine
      rw [stageJobs, Batch.jobsInSteps]
      rcases mirrors_job accounts.resolve_eq id job transaction engine with
        ⟨node, staged, after, staging, run⟩ | ⟨failure, staged, after, staging, run⟩
      · have place : batch[created.length]? = some job := by
          rw [← List.head?_drop, rest, List.head?_cons]
        rcases stageJob_number staging with rfl
        have others : batch.drop (created ++ [job.number engine.nextNode]).length = jobs := by
          rw [List.length_append, List.length_singleton, ← List.tail_drop, rest, List.tail_cons]
        have later := induction others (accounts.append place engine.nextNode) staged after
        rw [List.length_append, List.length_singleton] at later
        rw [staging, run_bind_ok run]
        dsimp only
        rcases later with
          ⟨value, last, final, stagings, runs⟩ | ⟨failure, last, final, stagings, runs⟩
        · refine .inl ⟨job.number engine.nextNode :: value, last, final, ?_, run_bind_ok runs⟩
          rw [stagings]
          dsimp only
          rw [List.append_assoc, List.singleton_append]
        · exact .inr ⟨failure, last, final, stagings, run_bind_error runs⟩
      · rw [staging, run_bind_error run]
        exact .inr ⟨failure, staged, after, rfl, rfl⟩

/-! ## Whole batches -/

/-- Where the number of the transaction is free, a batch in steps and a batch at once are the
same. -/
theorem run_inSteps_absent (absent : engine.transactions[engine.nextTransaction]? = none)
    (batch : Batch) : batch.inSteps.run perform engine = engine.executeBatch batch := by
  cases isOpen : engine.isClosed with
  | true => rw [Batch.inSteps, run_inTransaction_closed isOpen, executeBatch_closed isOpen]
  | false =>
      have begun : engine.begun.isClosed = false := isOpen
      have skipped := stageJobs_skip begun [] batch {}
      rw [executeBatch_begun isOpen]
      have whole : batch.drop ([] : List (Option NodeId)).length = batch := rfl
      rcases mirrors_jobs whole (batch.accounts_nil fun _ => 0) engine.nextTransaction {}
          engine.begun with
        ⟨created, staged, after, staging, run⟩ | ⟨failure, staged, after, staging, run⟩
      · rw [staging] at skipped ⊢
        rcases skipped with rfl
        exact run_inTransaction_ok isOpen run absent
      · rw [staging] at skipped ⊢
        rcases skipped with rfl
        exact run_inTransaction_error isOpen run absent

theorem hold_forget (id : TransactionId) (transaction : Transaction) (engine : Engine) :
    (engine.forget id).hold id transaction = engine.hold id transaction := by
  have same : (engine.transactions.erase id).insert id transaction =
      engine.transactions.insert id transaction := by
    ext1 other
    by_cases same : id = other
    · simp [same]
    · simp [Std.ExtTreeMap.getElem?_insert, Std.ExtTreeMap.getElem?_erase, same]
  rw [hold, hold, forget, same]

/-- Otherwise the transaction takes the place of another, and is finished in its place. -/
theorem run_inSteps (isOpen : engine.isClosed = false) (batch : Batch) :
    batch.inSteps.run perform engine = ((engine.executeBatch batch).1,
      (engine.executeBatch batch).2.forget engine.nextTransaction) := by
  have absent : (engine.forget engine.nextTransaction).transactions[
      (engine.forget engine.nextTransaction).nextTransaction]? = none :=
    Std.ExtTreeMap.getElem?_erase_self
  have still : (engine.forget engine.nextTransaction).isClosed = false := isOpen
  have begins : (engine.forget engine.nextTransaction).perform .beginTransaction =
      engine.perform .beginTransaction := by
    rw [perform_begin isOpen, perform_begin still]
    exact congrArg _ (hold_forget engine.nextTransaction {} engine.begun)
  have same : batch.inSteps.run perform engine =
      batch.inSteps.run perform (engine.forget engine.nextTransaction) := by
    rw [Batch.inSteps, Dialogue.run_inTransaction, Dialogue.run_inTransaction, begins]
  rw [same, run_inSteps_absent absent]
  exact engine.executeBatch_reframed (fun same => same) (·.erase engine.nextTransaction) batch

/-! ## What a batch answers -/

theorem answer_executeBatch {batch : Batch} {created : List (Option NodeId)}
    (done : (engine.executeBatch batch).1 = .ok created) :
    created = batch.numbers engine.nextNode := by
  rcases engine.executeBatch_cases batch with
    ⟨failure, next, count, -, outcome⟩ | ⟨next, -, outcome⟩
  · rw [outcome] at done
    cases done
  · rw [outcome] at done
    exact (Except.ok.inj done).symm

theorem Numbered.unused (numbered : engine.Numbered) {count : Nat}
    (room : engine.nextNode.toNat + count ≤ 2 ^ 64) {node : NodeId}
    (member : node ∈ counted engine.nextNode count) : ¬ engine.InUse node := by
  have least := le_of_mem_counted room member
  rintro (there | ⟨other, transaction, open_, creates⟩)
  · exact UInt64.not_lt.2 least (numbered.graph node there)
  · exact UInt64.not_lt.2 least (numbered.staged other transaction open_ node creates).1

/-- On every engine a batch acts like a transaction that does its jobs in steps: it answers the
same, and leaves the same graph, which is the one before if it fails. If it succeeds, it answers
with a node for every job that creates one, in the order of counting, and with none for all others.
The nodes are different ones if there are not more of them than numbers, and new ones as long as the
numbers do not run out. -/
theorem executeBatch_inSteps (batch : Batch) (engine : Engine) :
    let atOnce := engine.perform (.executeBatch batch)
    let inSteps := batch.inSteps.run perform engine
    inSteps.1 = atOnce.1 ∧ inSteps.2.graph = atOnce.2.graph ∧
    inSteps.2.forget engine.nextTransaction = atOnce.2.forget engine.nextTransaction ∧
    (∀ failure, atOnce.1 = .error failure → atOnce.2.graph = engine.graph) ∧
    ∀ created, atOnce.1 = .ok created →
      created.map Option.isSome = batch.map Job.creates ∧
      created.filterMap id = counted engine.nextNode batch.cost ∧
      (batch.cost ≤ 2 ^ 64 → (created.filterMap id).Nodup) ∧
      (engine.Numbered → engine.nextNode.toNat + batch.cost ≤ 2 ^ 64 →
        ∀ node, some node ∈ created → ¬ engine.InUse node) := by
  intro atOnce inSteps
  have same : inSteps.1 = atOnce.1 ∧ inSteps.2.forget engine.nextTransaction =
      atOnce.2.forget engine.nextTransaction := by
    cases isOpen : engine.isClosed with
    | true =>
        have closed : atOnce = (.error .closed, engine) := executeBatch_closed isOpen batch
        have closedToo : inSteps = (.error .closed, engine) := run_inTransaction_closed isOpen
        rw [closed, closedToo]
        exact ⟨rfl, rfl⟩
    | false =>
        have whole : inSteps = (atOnce.1, atOnce.2.forget engine.nextTransaction) :=
          run_inSteps isOpen batch
        rw [whole]
        exact ⟨rfl, forget_absent _ _ Std.ExtTreeMap.getElem?_erase_self⟩
  have graphs := congrArg Engine.graph same.2
  refine ⟨same.1, graphs, same.2, fun failure failed => ?_, fun created done => ?_⟩
  · rcases engine.graph_perform (.executeBatch batch) with kept | ⟨-, ⟨answer, done⟩, -⟩
    · exact kept
    · cases failed.symm.trans done
  · rcases answer_executeBatch done with rfl
    have numbers := batch.filterMap_numbers engine.nextNode
    refine ⟨batch.isSome_numbers engine.nextNode, numbers, fun few => ?_, ?_⟩
    · rw [numbers]
      exact counted_nodup few
    · intro numbered room node member
      refine numbered.unused room ?_
      rw [← numbers]
      exact List.mem_filterMap.2 ⟨some node, member, rfl⟩

/-- A node with a property, a setting of another one, and a second node: in steps they get the same
numbers, which nobody has. -/
theorem executeBatch_inSteps_two :
    let batch : Batch := [.createNode (.insert ∅ "a" (.text "b")),
      .setProperty (.job 0) "c" (.bytes [1]), .createNode ∅]
    (batch.inSteps.run perform inMemory).1 = .ok [some 1, none, some 2] ∧
      ∀ node, some node ∈ [some 1, none, some 2] → ¬ inMemory.InUse node := by
  intro batch
  have answer : (inMemory.perform (.executeBatch batch)).1 = .ok [some 1, none, some 2] := by
    decide +kernel
  have both := executeBatch_inSteps batch inMemory
  exact ⟨both.1.trans answer, (both.2.2.2.2 _ answer).2.2.2 numbered_inMemory (by decide)⟩

/-- Where the numbers run out, a batch creates a node that is there already. -/
theorem executeBatch_runs_over :
    let engine := ofGraph none { nodes := .insert ∅ 1 ∅ } 18446744073709551615
    let batch : Batch := [.createNode ∅, .createNode ∅, .createNode ∅]
    (engine.perform (.executeBatch batch)).1 =
        .ok [some 18446744073709551615, some 0, some 1] ∧
      engine.InUse 1 := by
  intro engine batch
  exact ⟨by decide +kernel, .inl (by decide +kernel)⟩

end Engine

end RecordGraph
