import Mathlib.Algebra.Group.Nat.Defs
import Mathlib.Tactic.Set
import RecordGraph.Engine
import RecordGraph.Proofs.Graph.Validation

namespace RecordGraph

/-! What the calls of an engine can come to. Each is described once, so that nothing else has to
look into its definition. -/

/-! ## Counters -/

theorem toNat_add_ofNat {next : UInt64} {count : Nat} (room : next.toNat + count < 2 ^ 64) :
    (next + UInt64.ofNat count).toNat = next.toNat + count := by
  rw [UInt64.toNat_add, UInt64.toNat_ofNat']
  omega

theorem toNat_add_one {next : UInt64} (room : next.toNat + 1 < 2 ^ 64) :
    (next + 1).toNat = next.toNat + 1 := toNat_add_ofNat room

theorem lt_add_one_of_room {next : UInt64} (room : next.toNat + 1 < 2 ^ 64) : next < next + 1 := by
  rw [UInt64.lt_iff_toNat_lt, toNat_add_one room]
  exact Nat.lt_succ_self _

/-! ## What has been staged -/

def Step.write? (created : Option NodeId) : Step → Option Write
  | .createNode => created.map .createNode
  | .setProperty node name value => some (.setProperty node name value)
  | .deleteNode node => some (.deleteNode node)
  | .indexAdd index node key value => some (.indexAdd index node key value)
  | .indexRemove index node key value => some (.indexRemove index node key value)

namespace Write

/-- The node that a write needs. To take a node out of an index it does not have to be there. -/
def target? : Write → Option NodeId
  | .setProperty node _ _ => some node
  | .deleteNode node => some node
  | .indexAdd _ node _ _ => some node
  | _ => none

def index? : Write → Option String
  | .indexAdd index _ _ _ => some index
  | .indexRemove index _ _ _ => some index
  | _ => none

def Indexed (graph : Graph) (write : Write) : Prop :=
  ∀ index, write.index? = some index → graph.hasIndex index = true

end Write

def NodeReference.node? (created : List (Option NodeId)) : NodeReference → Option NodeId
  | .id node => some node
  | .job position => (created[position.toNat]?).join

def Job.writes (created : List (Option NodeId)) (own : Option NodeId) : Job → List Write
  | .createNode properties =>
      own.toList.flatMap fun node =>
        .createNode node :: properties.toList.map fun (name, value) => .setProperty node name value
  | .indexAdd index node key value =>
      (node.node? created).toList.map fun node => .indexAdd index node key value
  | .setProperty node name value =>
      (node.node? created).toList.map fun node => .setProperty node name value

def Batch.writes (created : List (Option NodeId)) (batch : Batch) : List Write :=
  (batch.zip created).flatMap fun pair => pair.1.writes created pair.2

def Job.cost : Job → Nat
  | .createNode _ => 1
  | _ => 0

def Job.number (next : NodeId) : Job → Option NodeId
  | .createNode _ => some next
  | _ => none

namespace Batch

def cost : Batch → Nat
  | [] => 0
  | job :: jobs => job.cost + cost jobs

def numbers (next : NodeId) : Batch → List (Option NodeId)
  | [] => []
  | job :: jobs => job.number next :: numbers (next + UInt64.ofNat job.cost) jobs

end Batch

namespace Transaction

theorem pushOn_ok {graph : Graph} {node : NodeId} {write : Write} {transaction staged : Transaction}
    (pushed : transaction.pushOn graph node write = .ok staged) :
    transaction.seesNode graph node = true ∧ staged = transaction.push write := by
  unfold pushOn at pushed
  split at pushed
  · rename_i sees
    exact ⟨sees, (Except.ok.inj pushed).symm⟩
  · cases pushed

def note (write : Write) (transaction : Transaction) : Transaction :=
  match write with
  | .createNode node => transaction.create node
  | .deleteNode node =>
      { transaction.push (.deleteNode node) with
        created := transaction.created.erase node
        deleted := transaction.deleted.insert node }
  | other => transaction.push other

/-- The transaction sees the node that a write needs, and the graph has its index. A node is created
under the number that is free. -/
structure Admits (graph : Graph) (fresh : NodeId) (write : Write) (transaction : Transaction) :
    Prop where
  node : ∀ node, write.target? = some node → transaction.seesNode graph node = true
  index : write.Indexed graph
  new : ∀ node, write = .createNode node → node = fresh

section

variable {graph : Graph} {fresh node : NodeId} {step : Step} {created : Option NodeId}
  {transaction staged : Transaction} {write : Write}

theorem writes_note : (transaction.note write).writes = transaction.writes ++ [write] := by
  cases write with
  | _ => rfl

theorem mem_deleted_note :
    node ∈ (transaction.note write).deleted ↔
      node ∈ transaction.deleted ∨ write = .deleteNode node := by
  cases write with
  | deleteNode other =>
      rw [note, Std.ExtTreeSet.mem_insert, Std.compare_eq_iff_eq, or_comm, Write.deleteNode.injEq]
  | _ => simp [note, create, push]

theorem mem_created_note :
    node ∈ (transaction.note write).created ↔
      write = .createNode node ∨ write ≠ .deleteNode node ∧ node ∈ transaction.created := by
  cases write with
  | createNode other => simp [note, create, Std.ExtTreeSet.mem_insert]
  | deleteNode other => simp [note, Std.ExtTreeSet.mem_erase]
  | _ => simp [note, push]

/-- Everything that a step can stage: one write that is admitted. Only a step that creates a node
answers with one. -/
theorem stage_notes (done : transaction.stage graph fresh step = .ok (created, staged)) :
    ∃ write, step.write? created = some write ∧ (step ≠ .createNode → created = none) ∧
      transaction.Admits graph fresh write ∧ staged = transaction.note write := by
  cases step with
  | createNode =>
      rcases Prod.mk.inj (Except.ok.inj done) with ⟨rfl, rfl⟩
      refine ⟨.createNode fresh, rfl, absurd rfl, ⟨?_, ?_, ?_⟩, rfl⟩
      all_goals simp [Write.target?, Write.Indexed, Write.index?]
  | setProperty target name value =>
      rw [stage] at done
      split at done
      · cases done
      rcases ok_of_bind done with ⟨pushed, outcome, answer⟩
      rcases Prod.mk.inj (Except.ok.inj answer) with ⟨rfl, rfl⟩
      rcases pushOn_ok outcome with ⟨sees, rfl⟩
      refine ⟨.setProperty target name value, rfl, fun _ => rfl, ⟨?_, ?_, ?_⟩, rfl⟩
      all_goals simp [Write.target?, Write.Indexed, Write.index?, sees]
  | deleteNode target =>
      rcases ok_of_bind done with ⟨pushed, outcome, answer⟩
      rcases Prod.mk.inj (Except.ok.inj answer) with ⟨rfl, rfl⟩
      rcases pushOn_ok outcome with ⟨sees, rfl⟩
      refine ⟨.deleteNode target, rfl, fun _ => rfl, ⟨?_, ?_, ?_⟩, rfl⟩
      all_goals simp [Write.target?, Write.Indexed, Write.index?, sees]
  | indexAdd index target key value =>
      rw [stage] at done
      split at done
      · rename_i there
        rcases ok_of_bind done with ⟨pushed, outcome, answer⟩
        rcases Prod.mk.inj (Except.ok.inj answer) with ⟨rfl, rfl⟩
        rcases pushOn_ok outcome with ⟨sees, rfl⟩
        refine ⟨.indexAdd index target key value, rfl, fun _ => rfl, ⟨?_, ?_, ?_⟩, rfl⟩
        all_goals simp [Write.target?, Write.Indexed, Write.index?, sees, there]
      · cases done
  | indexRemove index target key value =>
      rw [stage] at done
      split at done
      · rename_i there
        rcases Prod.mk.inj (Except.ok.inj done) with ⟨rfl, rfl⟩
        refine ⟨.indexRemove index target key value, rfl, fun _ => rfl, ⟨?_, ?_, ?_⟩, rfl⟩
        all_goals simp [Write.target?, Write.Indexed, Write.index?, there]
      · cases done

theorem stage_ok (done : transaction.stage graph fresh step = .ok (created, staged)) :
    (step = .createNode ∧ created = some fresh ∧ staged = transaction.create fresh) ∨
      (step ≠ .createNode ∧ created = none ∧
        ∃ write, step.write? none = some write ∧
          staged.writes = transaction.writes ++ [write]) := by
  by_cases creates : step = .createNode
  · subst creates
    rcases Prod.mk.inj (Except.ok.inj done) with ⟨rfl, rfl⟩
    exact .inl ⟨rfl, rfl, rfl⟩
  · rcases stage_notes done with ⟨write, asks, plain, -, rfl⟩
    rw [plain creates] at asks
    exact .inr ⟨creates, plain creates, write, asks, writes_note⟩

end

end Transaction

namespace Engine

def skip (count : Nat) (engine : Engine) : Engine :=
  { engine with nextNode := engine.nextNode + UInt64.ofNat count }

@[simp] theorem skip_zero (engine : Engine) : engine.skip 0 = engine := by simp [skip]

theorem skip_skip (first second : Nat) (engine : Engine) :
    (engine.skip first).skip second = engine.skip (first + second) := by
  simp [skip, UInt64.add_assoc]

theorem stageIn_cases (step : Step) (transaction : Transaction) (engine : Engine) :
    (∃ failure, engine.stageIn step transaction = (.error failure, engine)) ∨
      (step = .createNode ∧ engine.stageIn step transaction =
        (.ok (some engine.nextNode, transaction.create engine.nextNode), engine.skip 1)) ∨
      (step ≠ .createNode ∧ ∃ staged write, step.write? none = some write ∧
        staged.writes = transaction.writes ++ [write] ∧
        engine.stageIn step transaction = (.ok (none, staged), engine)) := by
  unfold stageIn
  split
  · exact .inl ⟨_, rfl⟩
  · cases done : transaction.stage engine.graph engine.nextNode step with
    | error failure => exact .inl ⟨failure, rfl⟩
    | ok answer =>
        rcases answer with ⟨created, staged⟩
        rcases Transaction.stage_ok done with ⟨rfl, rfl, rfl⟩ | ⟨other, rfl, write, asks, writes⟩
        · exact .inr (.inl ⟨rfl, rfl⟩)
        · exact .inr (.inr ⟨other, staged, write, asks, writes, rfl⟩)

/-- A commit that fails changes nothing; one that succeeds performs writes that have been
checked. -/
theorem commitIn_cases (transaction : Transaction) (engine : Engine) :
    (∃ failure, engine.commitIn transaction = (.error failure, engine)) ∨
      (Transaction.checkAll engine.graph {} transaction.writes = .ok () ∧
        engine.commitIn transaction =
          (.ok (), { engine with graph := engine.graph.performAll transaction.writes })) := by
  unfold commitIn Transaction.commit
  split
  · exact .inl ⟨_, rfl⟩
  · cases checked : Transaction.checkAll engine.graph {} transaction.writes with
    | error failure => exact .inl ⟨failure, rfl⟩
    | ok => exact .inr ⟨rfl, rfl⟩

/-! ## Batches -/

theorem stageSteps_cases {steps : List Step} (plain : .createNode ∉ steps)
    (transaction : Transaction) (engine : Engine) :
    (∃ failure, stageSteps steps transaction engine = (.error failure, engine)) ∨
      ∃ staged, staged.writes = transaction.writes ++ steps.filterMap (·.write? none) ∧
        stageSteps steps transaction engine = (.ok staged, engine) := by
  induction steps generalizing transaction with
  | nil => exact .inr ⟨transaction, by simp, rfl⟩
  | cons step steps induction =>
      have parts := not_or.1 (mt List.mem_cons.2 plain)
      rw [stageSteps]
      rcases engine.stageIn_cases step transaction with
        ⟨failure, outcome⟩ | ⟨creates, -⟩ | ⟨-, staged, write, asks, writes, outcome⟩
      · exact .inl ⟨failure, by rw [outcome]⟩
      · exact absurd creates.symm parts.1
      · rw [outcome]
        rcases induction parts.2 staged with ⟨failure, later⟩ | ⟨last, lastWrites, later⟩
        · exact .inl ⟨failure, later⟩
        · exact .inr ⟨last, by simp [lastWrites, writes, asks], later⟩

theorem node?_of_resolve {created : List (Option NodeId)} {reference : NodeReference}
    {node : NodeId} (resolved : resolve created reference = .ok node) :
    reference.node? created = some node := by
  cases reference with
  | id other => exact congrArg some (Except.ok.inj resolved)
  | job position =>
      simp only [resolve] at resolved
      split at resolved
      · rename_i found
        rw [NodeReference.node?, found]
        exact congrArg some (Except.ok.inj resolved)
      · cases resolved

theorem node?_append {created : List (Option NodeId)} {reference : NodeReference} {node : NodeId}
    (means : reference.node? created = some node) (later : List (Option NodeId)) :
    reference.node? (created ++ later) = some node := by
  cases reference with
  | id other => exact means
  | job position =>
      simp only [NodeReference.node?, Option.join_eq_some_iff] at means ⊢
      rcases List.getElem?_eq_some_iff.1 means with ⟨within, -⟩
      rw [List.getElem?_append_left within, means]

private theorem stageReferred_cases (created : List (Option NodeId)) (reference : NodeReference)
    (step : NodeId → Step) (write : NodeId → Write)
    (asks : ∀ node, step node ≠ .createNode ∧ (step node).write? none = some (write node))
    (transaction : Transaction) (engine : Engine) :
    let outcome : Except Failure (Option NodeId × Transaction) × Engine :=
      match resolve created reference with
      | .ok node => engine.stageIn (step node) transaction
      | .error failure => (.error failure, engine)
    (∃ failure, outcome = (.error failure, engine)) ∨
      ∃ node staged, reference.node? created = some node ∧
        staged.writes = transaction.writes ++ [write node] ∧
        outcome = (.ok (none, staged), engine) := by
  intro outcome
  cases resolved : resolve created reference with
  | error failure => exact .inl ⟨failure, by simp only [outcome, resolved]⟩
  | ok node =>
      simp only [outcome, resolved]
      rcases engine.stageIn_cases (step node) transaction with
        ⟨failure, staging⟩ | ⟨creates, -⟩ | ⟨-, staged, asked, named, writes, staging⟩
      · exact .inl ⟨failure, staging⟩
      · exact absurd creates (asks node).1
      · rw [(asks node).2] at named
        rcases Option.some.inj named with rfl
        exact .inr ⟨node, staged, node?_of_resolve resolved, writes, staging⟩

/-- A job uses up a number if it gets as far as creating a node, and nothing else of the engine
changes. What later jobs create does not change what it has staged. -/
theorem stageJob_cases (created : List (Option NodeId)) (job : Job) (transaction : Transaction)
    (engine : Engine) :
    (∃ failure count, count ≤ job.cost ∧
        stageJob created job transaction engine = (.error failure, engine.skip count)) ∨
      ∃ staged,
        (∀ later, staged.writes =
          transaction.writes ++ job.writes (created ++ later) (job.number engine.nextNode)) ∧
        stageJob created job transaction engine =
          (.ok (job.number engine.nextNode, staged), engine.skip job.cost) := by
  cases job with
  | createNode properties =>
      rw [stageJob]
      rcases engine.stageIn_cases .createNode transaction with
        ⟨failure, staging⟩ | ⟨-, staging⟩ | ⟨other, -⟩
      · exact .inl ⟨failure, 0, Nat.zero_le _, by rw [staging, skip_zero]⟩
      · rw [staging]
        set settings := properties.toList.map fun (name, value) =>
          Step.setProperty engine.nextNode name value with settings_eq
        have plain : .createNode ∉ settings := by simp [settings_eq]
        simp only
        rcases stageSteps_cases plain (transaction.create engine.nextNode) (engine.skip 1) with
          ⟨failure, later⟩ | ⟨staged, writes, later⟩
        · exact .inl ⟨failure, 1, Nat.le_refl _, by rw [later]⟩
        · refine .inr ⟨staged, fun _ => ?_, by rw [later]; rfl⟩
          have asked : settings.filterMap (·.write? none) = properties.toList.map
              fun (name, value) => .setProperty engine.nextNode name value := by
            rw [settings_eq, List.filterMap_map, ← List.filterMap_eq_map]
            rfl
          rw [writes, asked]
          simp [Transaction.create, Transaction.push, Job.writes, Job.number]
      · exact absurd rfl other
  | indexAdd index reference key value =>
      rcases stageReferred_cases created reference
          (fun node => .indexAdd index node key value) (fun node => .indexAdd index node key value)
          (fun node => ⟨by simp, rfl⟩) transaction engine with
        ⟨failure, outcome⟩ | ⟨node, staged, means, writes, outcome⟩
      · exact .inl ⟨failure, 0, Nat.zero_le _, by rw [skip_zero]; exact outcome⟩
      · refine .inr ⟨staged, fun later => ?_, ?_⟩
        · simp [writes, Job.writes, node?_append means later]
        · simp only [Job.cost, Job.number, skip_zero]
          exact outcome
  | setProperty reference name value =>
      rcases stageReferred_cases created reference
          (fun node => .setProperty node name value) (fun node => .setProperty node name value)
          (fun node => ⟨by simp, rfl⟩) transaction engine with
        ⟨failure, outcome⟩ | ⟨node, staged, means, writes, outcome⟩
      · exact .inl ⟨failure, 0, Nat.zero_le _, by rw [skip_zero]; exact outcome⟩
      · refine .inr ⟨staged, fun later => ?_, ?_⟩
        · simp [writes, Job.writes, node?_append means later]
        · simp only [Job.cost, Job.number, skip_zero]
          exact outcome

/-- If a job of a batch fails, the numbers used up so far stay used. -/
theorem stageJobs_cases (created : List (Option NodeId)) (jobs : Batch)
    (transaction : Transaction) (engine : Engine) :
    (∃ failure count, count ≤ jobs.cost ∧
        stageJobs created jobs transaction engine = (.error failure, engine.skip count)) ∨
      ∃ staged,
        (∀ later, staged.writes = transaction.writes ++
          (jobs.zip (jobs.numbers engine.nextNode)).flatMap fun pair =>
            pair.1.writes (created ++ (jobs.numbers engine.nextNode ++ later)) pair.2) ∧
        stageJobs created jobs transaction engine =
          (.ok (created ++ jobs.numbers engine.nextNode, staged), engine.skip jobs.cost) := by
  induction jobs generalizing created transaction engine with
  | nil => exact .inr ⟨transaction, by simp, by simp [stageJobs, Batch.numbers, Batch.cost]⟩
  | cons job jobs induction =>
      rw [stageJobs]
      rcases engine.stageJob_cases created job transaction with
        ⟨failure, count, few, outcome⟩ | ⟨staged, writes, outcome⟩
      · exact .inl ⟨failure, count, Nat.le_trans few (Nat.le_add_right _ _), by rw [outcome]⟩
      · rw [outcome]
        rcases induction (created ++ [job.number engine.nextNode]) staged (engine.skip job.cost)
          with ⟨failure, count, few, later⟩ | ⟨last, lastWrites, later⟩
        · exact .inl ⟨failure, job.cost + count, Nat.add_le_add_left few _, by
            simp only [later, skip_skip]⟩
        · refine .inr ⟨last, fun more => ?_, ?_⟩
          · rw [lastWrites more, writes (Batch.numbers engine.nextNode (job :: jobs) ++ more)]
            simp [Batch.numbers, skip]
          · simp only [later, skip_skip]
            simp [Batch.numbers, Batch.cost, skip]

/-- A batch that fails changes at most the numbering; one that succeeds performs writes that have
been checked. -/
theorem executeBatch_cases (batch : Batch) (engine : Engine) :
    (∃ failure nextTransaction count, count ≤ batch.cost ∧ engine.executeBatch batch =
        (.error failure, { engine.skip count with nextTransaction })) ∨
      ∃ nextTransaction,
        Transaction.checkAll engine.graph {}
            (batch.writes (batch.numbers engine.nextNode)) = .ok () ∧
          engine.executeBatch batch = (.ok (batch.numbers engine.nextNode),
            { engine.skip batch.cost with
              nextTransaction
              graph := engine.graph.performAll
                (batch.writes (batch.numbers engine.nextNode)) }) := by
  unfold executeBatch
  split
  · exact .inl ⟨_, engine.nextTransaction, 0, Nat.zero_le _, by rw [skip_zero]⟩
  · rcases stageJobs_cases [] batch {}
        { engine with nextTransaction := engine.nextTransaction + 1 } with
      ⟨failure, count, few, outcome⟩ | ⟨staged, writes, outcome⟩
    · exact .inl ⟨failure, engine.nextTransaction + 1, count, few, by simp only [outcome]; rfl⟩
    · have all : staged.writes = batch.writes (batch.numbers engine.nextNode) := by
        simpa [Batch.writes] using writes []
      simp only [outcome, List.nil_append]
      rcases commitIn_cases staged
          (skip batch.cost { engine with nextTransaction := engine.nextTransaction + 1 }) with
        ⟨failure, committing⟩ | ⟨checked, committing⟩
      · exact .inl ⟨failure, engine.nextTransaction + 1, batch.cost, Nat.le_refl _, by
          rw [committing]; rfl⟩
      · rw [all] at checked committing
        exact .inr ⟨engine.nextTransaction + 1, checked, by rw [committing]; rfl⟩

end Engine

end RecordGraph
