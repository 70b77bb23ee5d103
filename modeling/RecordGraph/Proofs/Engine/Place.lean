import RecordGraph.Proofs.Engine.Holding

namespace RecordGraph.Engine

/-! What an engine does not look at. Where it is saved does not matter for what it answers, or for
what it holds afterwards; nor does an open transaction matter that a call is not about. -/

def reframed (move : Option String → Option String)
    (change : Std.ExtTreeMap TransactionId Transaction compare →
      Std.ExtTreeMap TransactionId Transaction compare) (engine : Engine) : Engine :=
  { engine with location := move engine.location, transactions := change engine.transactions }

variable (move : Option String → Option String)
  (change : Std.ExtTreeMap TransactionId Transaction compare →
    Std.ExtTreeMap TransactionId Transaction compare)
  (engine : Engine)

theorem stageIn_reframed (step : Step) (transaction : Transaction) :
    (engine.reframed move change).stageIn step transaction =
      ((engine.stageIn step transaction).1,
        (engine.stageIn step transaction).2.reframed move change) := by
  have same : transaction.stage (engine.reframed move change).graph (engine.reframed move change).nextNode
      step = transaction.stage engine.graph engine.nextNode step := rfl
  have closed : (engine.reframed move change).isClosed = engine.isClosed := rfl
  rw [stageIn, stageIn, same, closed]
  cases engine.isClosed with
  | true => rfl
  | false =>
      rcases transaction.stage engine.graph engine.nextNode step with
        failure | ⟨_ | node, staged⟩
      · rfl
      · rfl
      · rfl

theorem commitIn_reframed (transaction : Transaction) :
    (engine.reframed move change).commitIn transaction =
      ((engine.commitIn transaction).1, (engine.commitIn transaction).2.reframed move change) := by
  have same : transaction.commit (engine.reframed move change).graph =
      transaction.commit engine.graph := rfl
  have closed : (engine.reframed move change).isClosed = engine.isClosed := rfl
  rw [commitIn, commitIn, same, closed]
  cases engine.isClosed with
  | true => rfl
  | false =>
      rcases transaction.commit engine.graph with failure | graph
      · rfl
      · rfl

theorem stageSteps_reframed (steps : List Step) (transaction : Transaction) :
    stageSteps steps transaction (engine.reframed move change) =
      ((stageSteps steps transaction engine).1,
        (stageSteps steps transaction engine).2.reframed move change) := by
  induction steps generalizing transaction engine with
  | nil => rfl
  | cons step steps induction =>
      rw [stageSteps, stageSteps, stageIn_reframed]
      rcases engine.stageIn step transaction with ⟨failure | ⟨_, staged⟩, after⟩
      · rfl
      · exact induction after staged

theorem stageJob_reframed (created : List (Option NodeId)) (job : Job)
    (transaction : Transaction) :
    stageJob created job transaction (engine.reframed move change) =
      ((stageJob created job transaction engine).1,
        (stageJob created job transaction engine).2.reframed move change) := by
  cases job with
  | createNode properties =>
      rw [stageJob, stageJob, stageIn_reframed]
      rcases engine.stageIn .createNode transaction with ⟨failure | ⟨_ | node, staged⟩, after⟩
      · rfl
      · rfl
      · dsimp only
        generalize properties.toList.map _ = settings
        rw [stageSteps_reframed]
        rcases stageSteps settings staged after with ⟨failure | last, later⟩
        · rfl
        · rfl
  | indexAdd index reference key value =>
      rw [stageJob, stageJob]
      cases resolve created reference with
      | error failure => rfl
      | ok node => exact engine.stageIn_reframed move change _ transaction
  | setProperty reference name value =>
      rw [stageJob, stageJob]
      cases resolve created reference with
      | error failure => rfl
      | ok node => exact engine.stageIn_reframed move change _ transaction

theorem stageJobs_reframed (created : List (Option NodeId)) (jobs : List Job)
    (transaction : Transaction) :
    stageJobs created jobs transaction (engine.reframed move change) =
      ((stageJobs created jobs transaction engine).1,
        (stageJobs created jobs transaction engine).2.reframed move change) := by
  induction jobs generalizing created transaction engine with
  | nil => rfl
  | cons job jobs induction =>
      rw [stageJobs, stageJobs, stageJob_reframed]
      rcases stageJob created job transaction engine with ⟨failure | ⟨node, staged⟩, after⟩
      · rfl
      · exact induction after (created ++ [node]) staged

theorem executeBatch_reframed (batch : Batch) :
    (engine.reframed move change).executeBatch batch =
      ((engine.executeBatch batch).1, (engine.executeBatch batch).2.reframed move change) := by
  cases isOpen : engine.isClosed with
  | true =>
      have closed : (engine.reframed move change).isClosed = true := isOpen
      rw [executeBatch_closed closed, executeBatch_closed isOpen]
  | false =>
      have moved : (engine.reframed move change).isClosed = false := isOpen
      have begun : (engine.reframed move change).begun = engine.begun.reframed move change := rfl
      rw [executeBatch_begun moved, executeBatch_begun isOpen, begun, stageJobs_reframed]
      rcases stageJobs [] batch {} engine.begun with ⟨failure | ⟨created, transaction⟩, after⟩
      · rfl
      · dsimp only
        rw [commitIn_reframed]

/-! ## Where an engine is saved -/

def movedTo (location : Option String) (engine : Engine) : Engine := { engine with location }

variable (location : Option String)

theorem perform_movedTo (call : Call) :
    (engine.movedTo location).perform call =
      ((engine.perform call).1, (engine.perform call).2.movedTo location) := by
  cases call with
  | createIndex name =>
      dsimp only [perform, createIndex, movedTo]
      split
      · rfl
      split
      · rfl
      split
      · rfl
      · rfl
  | beginTransaction =>
      dsimp only [perform, beginTransaction, movedTo]
      split
      · rfl
      · rfl
  | stage id step =>
      have same : (engine.movedTo location).transactions = engine.transactions := rfl
      rw [perform, perform, stage, stage, same]
      cases engine.transactions[id]? with
      | none => rfl
      | some transaction =>
          have staged := engine.stageIn_reframed (fun _ => location) (fun same => same) step transaction
          have moved : engine.reframed (fun _ => location) (fun same => same) =
              engine.movedTo location := rfl
          rw [moved] at staged
          dsimp only
          rw [staged]
          rcases engine.stageIn step transaction with ⟨failure | ⟨created, staged⟩, after⟩
          · rfl
          · rfl
  | commit id =>
      have same : (engine.movedTo location).transactions = engine.transactions := rfl
      rw [perform, perform, commit, commit, same]
      cases engine.transactions[id]? with
      | none => rfl
      | some transaction =>
          exact (engine.forget id).commitIn_reframed (fun _ => location) (fun same => same) transaction
  | rollback id =>
      have same : (engine.movedTo location).transactions = engine.transactions := rfl
      rw [perform, perform, rollback, rollback, same]
      cases engine.transactions[id]? with
      | none => rfl
      | some transaction => rfl
  | executeBatch batch => exact engine.executeBatch_reframed (fun _ => location) (fun same => same) batch
  | indexGet _ _ _ => rfl
  | indexRange _ _ => rfl
  | nodeProperty _ _ => rfl
  | nodeProperties _ => rfl

theorem run_movedTo {Result : Type} (dialogue : Dialogue Result) :
    dialogue.run perform (engine.movedTo location) =
      ((dialogue.run perform engine).1, (dialogue.run perform engine).2.movedTo location) := by
  induction dialogue generalizing engine with
  | finished outcome => rfl
  | asking call next induction =>
      rw [Dialogue.run, Dialogue.run, perform_movedTo]
      exact induction _ _

/-! ## Other transactions -/

variable (own : TransactionId)

private theorem erase_erase (transactions : Std.ExtTreeMap TransactionId Transaction compare)
    (id : TransactionId) :
    (transactions.erase own).erase id = (transactions.erase id).erase own := by
  ext1 other
  simp only [Std.ExtTreeMap.getElem?_erase]
  split
  · split
    · rfl
    · rfl
  · rfl

private theorem insert_erase (transactions : Std.ExtTreeMap TransactionId Transaction compare)
    {id : TransactionId} (different : id ≠ own) (transaction : Transaction) :
    (transactions.erase own).insert id transaction =
      (transactions.insert id transaction).erase own := by
  ext1 other
  simp only [Std.ExtTreeMap.getElem?_erase, Std.ExtTreeMap.getElem?_insert,
    Std.compare_eq_iff_eq]
  by_cases same : id = other
  · rw [if_pos same, if_neg (same ▸ different.symm), if_pos same]
  · rw [if_neg same, if_neg same]

theorem forget_forget (id : TransactionId) :
    (engine.forget own).forget id = (engine.forget id).forget own := by
  rw [forget, forget, forget, forget]
  dsimp only
  rw [erase_erase]

/-- Without a transaction that a call is not about, and does not begin, the call comes to the
same. -/
theorem perform_forget {call : Call} (elsewhere : call.transaction? ≠ some own)
    (fresh : call = .beginTransaction → engine.nextTransaction ≠ own) :
    (engine.forget own).perform call =
      ((engine.perform call).1, (engine.perform call).2.forget own) := by
  have kept {id : TransactionId} (about : call.transaction? = some id) :
      id ≠ own ∧ (engine.forget own).transactions[id]? = engine.transactions[id]? := by
    have different : id ≠ own := fun same => elsewhere (same ▸ about)
    refine ⟨different, ?_⟩
    rw [forget, Std.ExtTreeMap.getElem?_erase, if_neg]
    rw [Std.compare_eq_iff_eq]
    exact different.symm
  cases call with
  | createIndex name =>
      dsimp only [perform, createIndex, forget]
      split
      · rfl
      split
      · rfl
      split
      · rfl
      · rfl
  | beginTransaction =>
      dsimp only [perform, beginTransaction, forget]
      split
      · rfl
      · rw [insert_erase own engine.transactions (fresh rfl)]
  | stage id step =>
      rcases kept rfl with ⟨different, same⟩
      rw [perform, perform, stage, stage, same]
      cases engine.transactions[id]? with
      | none => rfl
      | some transaction =>
          have staged := engine.stageIn_reframed (fun same => same) (·.erase own) step transaction
          have without : engine.reframed (fun same => same) (·.erase own) = engine.forget own := rfl
          rw [without] at staged
          dsimp only
          rw [staged]
          rcases engine.stageIn step transaction with ⟨failure | ⟨created, later⟩, after⟩
          · rfl
          · dsimp only [reframed, forget]
            rw [insert_erase own after.transactions different]
  | commit id =>
      rcases kept rfl with ⟨different, same⟩
      rw [perform, perform, commit, commit, same]
      cases engine.transactions[id]? with
      | none => rfl
      | some transaction =>
          dsimp only
          rw [forget_forget]
          exact (engine.forget id).commitIn_reframed (fun same => same) (·.erase own) transaction
  | rollback id =>
      rcases kept rfl with ⟨different, same⟩
      rw [perform, perform, rollback, rollback, same]
      cases engine.transactions[id]? with
      | none => rfl
      | some transaction =>
          dsimp only
          rw [forget_forget]
          rfl
  | executeBatch batch => exact engine.executeBatch_reframed (fun same => same) (·.erase own) batch
  | indexGet _ _ _ => rfl
  | indexRange _ _ => rfl
  | nodeProperty _ _ => rfl
  | nodeProperties _ => rfl

end RecordGraph.Engine
