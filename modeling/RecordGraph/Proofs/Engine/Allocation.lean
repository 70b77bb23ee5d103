import RecordGraph.Proofs.Engine.Numbering
import RecordGraph.Proofs.Engine.Opening

namespace RecordGraph

/-! How many numbers of nodes are really used up. A step that creates a node uses one if it gets
that far, and a batch one for every creation among the jobs that it comes to. -/

theorem Write.allCreated_of_asks {step : Step} (other : step ≠ .createNode) {write : Write}
    (asks : step.write? none = some write) : Write.allCreated [write] = [] := by
  cases step with
  | createNode => exact absurd rfl other
  | _ =>
      rcases Option.some.inj asks with rfl
      rfl

namespace Engine

variable {engine : Engine}

/-! ## Jobs that a batch comes to -/

/-- The jobs that are tried: all up to the first that fails. -/
def tried : (created : List (Option NodeId)) → List Job → Transaction → Engine → Batch
  | _, [], _, _ => []
  | created, job :: jobs, transaction, engine =>
      match stageJob created job transaction engine with
      | (.error _, _) => [job]
      | (.ok (node, staged), engine) => job :: tried (created ++ [node]) jobs staged engine

theorem stageJob_skip (isOpen : engine.isClosed = false) (created : List (Option NodeId))
    (job : Job) (transaction : Transaction) :
    (stageJob created job transaction engine).2 = engine.skip job.cost := by
  have free (cost : job.cost = 0) :
      (stageJob created job transaction engine).2 = engine.skip job.cost := by
    rcases engine.stageJob_cases created job transaction with
      ⟨failure, count, few, outcome⟩ | ⟨staged, -, outcome⟩
    · rw [outcome, cost]
      rw [cost, Nat.le_zero] at few
      rw [few]
    · rw [outcome]
  cases job with
  | createNode properties =>
      rw [stageJob, stageIn_createNode isOpen]
      dsimp only
      generalize settings_eq : List.map _ properties.toList = settings
      have plain : .createNode ∉ settings := by simp [← settings_eq]
      rcases stageSteps_cases plain (transaction.create engine.nextNode)
          { engine with nextNode := engine.nextNode + 1 } with
        ⟨failure, later⟩ | ⟨staged, -, later⟩
      · rw [later]
        rfl
      · rw [later]
        rfl
  | indexAdd index node key value => exact free rfl
  | setProperty node name value => exact free rfl

theorem stageJobs_skip (isOpen : engine.isClosed = false) (created : List (Option NodeId))
    (jobs : List Job) (transaction : Transaction) :
    (stageJobs created jobs transaction engine).2 =
      engine.skip (tried created jobs transaction engine).cost := by
  induction jobs generalizing created transaction engine with
  | nil =>
      rw [stageJobs, tried, Batch.cost, skip_zero]
  | cons job jobs induction =>
      have skipped := stageJob_skip isOpen created job transaction
      rw [stageJobs, tried]
      rcases staging : stageJob created job transaction engine with
        ⟨failure | ⟨node, staged⟩, after⟩
      · rw [staging] at skipped
        rw [skipped]
        rfl
      · rw [staging] at skipped
        rcases skipped with rfl
        dsimp only
        have later : (engine.skip job.cost).isClosed = false := isOpen
        rw [induction later, skip_skip]
        rfl

theorem tried_ok {created all : List (Option NodeId)} {jobs : List Job}
    {transaction staged : Transaction} {after : Engine}
    (done : stageJobs created jobs transaction engine = (.ok (all, staged), after)) :
    tried created jobs transaction engine = jobs := by
  induction jobs generalizing created transaction engine with
  | nil => rfl
  | cons job jobs induction =>
      rw [stageJobs] at done
      rw [tried]
      rcases staging : stageJob created job transaction engine with
        ⟨failure | ⟨node, next⟩, later⟩
      · rw [staging] at done
        cases done
      · rw [staging] at done
        exact congrArg (job :: ·) (induction done)

/-! ## Calls -/

def allocations (engine : Engine) : Call → Nat
  | .stage id .createNode => if (engine.stage id .createNode).1.toOption.isSome then 1 else 0
  | .executeBatch batch => if engine.isClosed then 0 else Batch.cost (tried [] batch {} engine.begun)
  | _ => 0

private theorem nextNode_commitIn (transaction : Transaction) (engine : Engine) :
    (engine.commitIn transaction).2.nextNode = engine.nextNode := by
  rcases engine.commitIn_cases transaction with ⟨failure, outcome⟩ | ⟨-, outcome⟩
  · rw [outcome]
  · rw [outcome]

private theorem nextNode_stage (id : TransactionId) (step : Step) (engine : Engine) :
    (engine.stage id step).2.nextNode =
      engine.nextNode + UInt64.ofNat (engine.allocations (.stage id step)) := by
  have still (other : step ≠ .createNode) : engine.allocations (.stage id step) = 0 := by
    cases step with
    | createNode => exact absurd rfl other
    | _ => rfl
  rw [stage]
  cases found : engine.transactions[id]? with
  | none =>
      by_cases other : step = .createNode
      · subst other
        simp [allocations, stage, found, Except.toOption]
      · simp [still other]
  | some transaction =>
      rcases engine.stageIn_cases step transaction with
        ⟨failure, outcome⟩ | ⟨rfl, outcome⟩ | ⟨other, staged, write, -, -, outcome⟩
      · by_cases other : step = .createNode
        · subst other
          simp [allocations, stage, found, outcome, Except.toOption]
        · simp [still other, outcome]
      · simp [allocations, stage, found, outcome, Except.toOption, skip]
      · simp [still other, outcome]

/-- A call moves the counter on by the numbers that it uses up. -/
theorem nextNode_perform (call : Call) (engine : Engine) :
    (engine.perform call).2.nextNode =
      engine.nextNode + UInt64.ofNat (engine.allocations call) := by
  have still : engine.nextNode = engine.nextNode + UInt64.ofNat 0 := (UInt64.add_zero _).symm
  cases call with
  | stage id step => exact engine.nextNode_stage id step
  | executeBatch batch =>
      rw [perform, allocations]
      cases isOpen : engine.isClosed with
      | true =>
          rw [executeBatch_closed isOpen]
          exact still
      | false =>
          have begun : engine.begun.isClosed = false := isOpen
          have skipped := stageJobs_skip begun [] batch {}
          have next : (engine.begun.skip (tried [] batch {} engine.begun).cost).nextNode =
              engine.nextNode + UInt64.ofNat (tried [] batch {} engine.begun).cost := rfl
          rw [executeBatch_begun isOpen, if_neg Bool.false_ne_true, ← next, ← skipped]
          rcases stageJobs [] batch {} engine.begun with ⟨failure | ⟨created, transaction⟩, after⟩
          · rfl
          · exact nextNode_commitIn transaction after
  | createIndex name =>
      dsimp only [perform, createIndex]
      split
      · exact still
      split
      · exact still
      split
      · exact still
      · exact still
  | beginTransaction =>
      dsimp only [perform, beginTransaction]
      split
      · exact still
      · exact still
  | commit id =>
      rw [perform, commit]
      cases engine.transactions[id]? with
      | none => exact still
      | some transaction =>
          exact (nextNode_commitIn transaction (engine.forget id)).trans still
  | rollback id =>
      rw [perform, rollback]
      cases engine.transactions[id]? with
      | none => exact still
      | some transaction => exact still
  | _ => exact still

/-! ## Numbers in use -/

def InUse (node : NodeId) (engine : Engine) : Prop :=
  engine.graph.hasNode node = true ∨
    ∃ (id : TransactionId) (transaction : Transaction),
      engine.transactions[id]? = some transaction ∧ node ∈ Write.allCreated transaction.writes

variable {node : NodeId} {other : Engine}

private theorem InUse.of_less (inUse : other.InUse node)
    (graph : other.graph.hasNode node = true → engine.graph.hasNode node = true)
    (transactions : ∀ (id : TransactionId) (transaction : Transaction),
      other.transactions[id]? = some transaction →
        engine.transactions[id]? = some transaction) : engine.InUse node := by
  rcases inUse with there | ⟨id, transaction, found, member⟩
  · exact .inl (graph there)
  · exact .inr ⟨id, transaction, transactions id transaction found, member⟩

theorem InUse.of_forget {id : TransactionId} (inUse : (engine.forget id).InUse node) :
    engine.InUse node := by
  refine inUse.of_less (fun there => there) fun other transaction found => ?_
  rw [Engine.forget, Std.ExtTreeMap.getElem?_erase] at found
  split at found
  · cases found
  · exact found

private theorem InUse.of_insert (inUse : other.InUse node) {id : TransactionId}
    {transaction staged : Transaction} {created : List NodeId}
    (found : engine.transactions[id]? = some transaction) (graph : other.graph = engine.graph)
    (transactions : other.transactions = engine.transactions.insert id staged)
    (writes : Write.allCreated staged.writes = Write.allCreated transaction.writes ++ created) :
    engine.InUse node ∨ node ∈ created := by
  rcases inUse with there | ⟨another, last, standing, member⟩
  · rw [graph] at there
    exact .inl (.inl there)
  · rw [transactions, Std.ExtTreeMap.getElem?_insert] at standing
    split at standing
    · rw [← Option.some.inj standing, writes] at member
      rcases List.mem_append.1 member with before | own
      · exact .inl (.inr ⟨id, transaction, found, before⟩)
      · exact .inr own
    · exact .inl (.inr ⟨another, last, standing, member⟩)

private theorem inUse_stage {id : TransactionId} {step : Step}
    (inUse : (engine.stage id step).2.InUse node) :
    engine.InUse node ∨
      node = engine.nextNode ∧ engine.allocations (.stage id step) = 1 := by
  rw [stage] at inUse
  cases found : engine.transactions[id]? with
  | none =>
      rw [found] at inUse
      exact .inl inUse
  | some transaction =>
      rw [found] at inUse
      dsimp only at inUse
      rcases engine.stageIn_cases step transaction with
        ⟨failure, outcome⟩ | ⟨rfl, outcome⟩ | ⟨other, staged, write, asks, writes, outcome⟩
      · rw [outcome] at inUse
        exact .inl inUse
      · rw [outcome] at inUse
        have created : Write.allCreated (transaction.create engine.nextNode).writes =
            Write.allCreated transaction.writes ++ [engine.nextNode] :=
          Write.allCreated_append _ _
        have one : engine.allocations (.stage id .createNode) = 1 := by
          simp [allocations, stage, found, outcome, Except.toOption]
        exact (inUse.of_insert found rfl rfl created).imp_right fun own =>
          ⟨List.mem_singleton.1 own, one⟩
      · rw [outcome] at inUse
        have created : Write.allCreated staged.writes =
            Write.allCreated transaction.writes ++ [] := by
          rw [writes, Write.allCreated_append, Write.allCreated_of_asks other asks]
        exact (inUse.of_insert found rfl rfl created).imp_right fun none => by cases none

private theorem inUse_commit {id : TransactionId}
    (inUse : (engine.commit id).2.InUse node) : engine.InUse node := by
  rw [commit] at inUse
  cases found : engine.transactions[id]? with
  | none =>
      rw [found] at inUse
      exact inUse
  | some transaction =>
      rw [found] at inUse
      dsimp only at inUse
      rcases (engine.forget id).commitIn_cases transaction with
        ⟨failure, outcome⟩ | ⟨-, outcome⟩
      · rw [outcome] at inUse
        exact inUse.of_forget
      · rw [outcome] at inUse
        rcases inUse with there | ⟨other, last, standing, member⟩
        · rcases Graph.hasNode_of_performAll there with before | own
          · exact .inl before
          · exact .inr ⟨id, transaction, found, own⟩
        · exact InUse.of_forget (.inr ⟨other, last, standing, member⟩)

theorem allocations_executeBatch {batch : Batch} {created : List (Option NodeId)}
    (done : (engine.executeBatch batch).1 = .ok created) :
    engine.allocations (.executeBatch batch) = batch.cost := by
  cases isOpen : engine.isClosed with
  | true =>
      rw [executeBatch_closed isOpen] at done
      cases done
  | false =>
      rw [allocations, if_neg (by simp [isOpen])]
      rw [executeBatch_begun isOpen] at done
      rcases staging : stageJobs [] batch {} engine.begun with
        ⟨failure | ⟨all, transaction⟩, after⟩
      · rw [staging] at done
        cases done
      · rw [tried_ok staging]

private theorem inUse_executeBatch {batch : Batch}
    (room : engine.nextNode.toNat + engine.allocations (.executeBatch batch) < 2 ^ 64)
    (inUse : (engine.executeBatch batch).2.InUse node) :
    engine.InUse node ∨ engine.nextNode ≤ node ∧
      node.toNat < engine.nextNode.toNat + engine.allocations (.executeBatch batch) := by
  rcases engine.executeBatch_cases batch with
    ⟨failure, next, count, -, outcome⟩ | ⟨next, -, outcome⟩
  · rw [outcome] at inUse
    exact .inl (inUse.of_less (fun there => there) fun _ _ found => found)
  · rw [allocations_executeBatch (by rw [outcome])] at room ⊢
    rw [outcome] at inUse
    rcases inUse with there | staged
    · rcases Graph.hasNode_of_performAll there with before | own
      · exact .inl (.inl before)
      · rw [Batch.allCreated_writes] at own
        rcases List.mem_filterMap.1 own with ⟨found, member, same⟩
        obtain rfl : found = some node := same
        exact .inr (Batch.mem_numbers room member)
    · exact .inl (.inr staged)

theorem inUse_perform {call : Call} (room : engine.nextNode.toNat + engine.allocations call < 2 ^ 64)
    (inUse : (engine.perform call).2.InUse node) :
    engine.InUse node ∨
      engine.nextNode ≤ node ∧ node.toNat < engine.nextNode.toNat + engine.allocations call := by
  cases call with
  | createIndex name =>
      dsimp only [perform, createIndex] at inUse
      split at inUse
      · exact .inl inUse
      split at inUse
      · exact .inl inUse
      split at inUse
      · exact .inl inUse
      · exact .inl inUse
  | beginTransaction =>
      dsimp only [perform, beginTransaction] at inUse
      split at inUse
      · exact .inl inUse
      · rcases inUse with there | ⟨id, transaction, found, member⟩
        · exact .inl (.inl there)
        · rw [Std.ExtTreeMap.getElem?_insert] at found
          split at found
          · rw [← Option.some.inj found] at member
            cases member
          · exact .inl (.inr ⟨id, transaction, found, member⟩)
  | stage id step =>
      rcases inUse_stage inUse with before | ⟨rfl, one⟩
      · exact .inl before
      · rw [one]
        exact .inr ⟨UInt64.le_refl _, Nat.lt_succ_self _⟩
  | commit id => exact .inl (inUse_commit inUse)
  | rollback id =>
      rw [forget_rollback] at inUse
      exact .inl inUse.of_forget
  | executeBatch batch => exact inUse_executeBatch room inUse
  | _ => exact .inl inUse

/-! ## Engines that count from one -/

/-- The counter has started at one, and has gone past every number in use. -/
structure Counted (engine : Engine) : Prop where
  started : 1 ≤ engine.nextNode
  inUse : ∀ node, engine.InUse node → 1 ≤ node ∧ node < engine.nextNode

/-- As long as the counter does not run over, numbers are used once only. -/
theorem Counted.perform (counted : engine.Counted) {call : Call}
    (room : engine.nextNode.toNat + engine.allocations call < 2 ^ 64) :
    (engine.perform call).2.Counted ∧ (engine.perform call).2.nextNode.toNat =
      engine.nextNode.toNat + engine.allocations call := by
  have next : (engine.perform call).2.nextNode.toNat =
      engine.nextNode.toNat + engine.allocations call := by
    rw [nextNode_perform, toNat_add_ofNat room]
  have started := UInt64.le_iff_toNat_le.1 counted.started
  refine ⟨⟨?_, fun node inUse => ?_⟩, next⟩
  · rw [UInt64.le_iff_toNat_le, next]
    omega
  · rw [UInt64.le_iff_toNat_le, UInt64.lt_iff_toNat_lt, next]
    rcases inUse_perform room inUse with before | ⟨least, most⟩
    · obtain ⟨positive, below⟩ := counted.inUse node before
      rw [UInt64.le_iff_toNat_le] at positive
      rw [UInt64.lt_iff_toNat_lt] at below
      omega
    · rw [UInt64.le_iff_toNat_le] at least
      omega

theorem Counted.forget (counted : engine.Counted) (id : TransactionId) :
    (engine.forget id).Counted where
  started := counted.started
  inUse node inUse := counted.inUse node inUse.of_forget

/-- An engine over a stored graph goes on counting where the graph has been left. -/
theorem counted_ofGraph (location : Option String) {graph : Graph} {next : NodeId}
    (started : 1 ≤ next)
    (inUse : ∀ node, graph.hasNode node = true → 1 ≤ node ∧ node < next) :
    (ofGraph location graph next).Counted ∧ (ofGraph location graph next).nextNode = next := by
  have same := nextNode_ofGraph (fun node there => (inUse node there).2) started location
  refine ⟨⟨?_, ?_⟩, same⟩
  · rw [same]
    exact started
  · rintro node (there | ⟨id, transaction, found, -⟩)
    · rw [same]
      exact inUse node there
    · simp [ofGraph] at found

end Engine

end RecordGraph
