import Mathlib.Algebra.Group.Nat.Defs
import RecordGraph.Proofs.Engine.Holding
import RecordGraph.Proofs.Engine.Outcome
import RecordGraph.Proofs.Record.Asking

namespace RecordGraph

/-! Open transactions. A call concerns at most one of them, and every other one stays as it is; a
dialogue in a transaction of its own leaves none behind. -/

namespace Engine

variable (engine : Engine) (id other : TransactionId)

theorem transactions_createIndex (name : String) :
    (engine.createIndex name).2.transactions = engine.transactions := by
  rw [createIndex]
  split
  · rfl
  split
  · rfl
  split
  all_goals rfl

theorem transactions_executeBatch (batch : Batch) :
    (engine.executeBatch batch).2.transactions = engine.transactions := by
  rcases engine.executeBatch_cases batch with ⟨_, _, _, -, outcome⟩ | ⟨_, -, outcome⟩
  · rw [outcome]
    rfl
  · rw [outcome]
    rfl

theorem transactions_commitIn (transaction : Transaction) :
    (engine.commitIn transaction).2.transactions = engine.transactions := by
  rcases engine.commitIn_cases transaction with ⟨_, outcome⟩ | ⟨-, outcome⟩
  · rw [outcome]
  · rw [outcome]

theorem transactions_stageIn (step : Step) (transaction : Transaction) :
    (engine.stageIn step transaction).2.transactions = engine.transactions := by
  rcases engine.stageIn_cases step transaction with
    ⟨_, outcome⟩ | ⟨-, outcome⟩ | ⟨-, _, _, -, -, outcome⟩
  · rw [outcome]
  · rw [outcome]
    rfl
  · rw [outcome]

theorem mem_transactions_stage (step : Step) :
    other ∈ (engine.stage id step).2.transactions ↔ other ∈ engine.transactions := by
  rw [stage]
  split
  · rfl
  · rename_i transaction found
    have kept := engine.transactions_stageIn step transaction
    have open_ : id ∈ engine.transactions := by
      rw [Std.ExtTreeMap.mem_iff_isSome_getElem?, found]
      rfl
    split
    · rename_i outcome
      rw [outcome] at kept
      dsimp only at kept ⊢
      rw [kept]
    · rename_i outcome
      rw [outcome] at kept
      dsimp only at kept ⊢
      rw [kept, Std.ExtTreeMap.mem_insert, Std.compare_eq_iff_eq]
      constructor
      · rintro (rfl | member)
        · exact open_
        · exact member
      · exact .inr

theorem mem_transactions_forget :
    other ∈ (engine.forget id).transactions ↔ id ≠ other ∧ other ∈ engine.transactions := by
  rw [forget, Std.ExtTreeMap.mem_erase, Ne, Std.compare_eq_iff_eq]

theorem transactions_commit {transaction : Transaction}
    (open_ : engine.transactions[id]? = some transaction) :
    (engine.commit id).2.transactions = (engine.forget id).transactions := by
  rw [commit, open_]
  exact (engine.forget id).transactions_commitIn transaction

theorem perform_absent {call : Call} (about : call.transaction? = some id)
    (absent : engine.transactions[id]? = none) :
    engine.perform call = (.error (.noTransaction id), engine) := by
  cases call with
  | stage found step =>
      cases about
      rw [perform, stage, absent]
  | commit found =>
      cases about
      rw [perform, commit, absent]
  | rollback found =>
      cases about
      rw [perform, rollback, absent]
  | createIndex _ => cases about
  | indexGet _ _ _ => cases about
  | indexRange _ _ => cases about
  | nodeProperty _ _ => cases about
  | nodeProperties _ => cases about
  | beginTransaction => cases about
  | executeBatch _ => cases about

theorem forget_absent (absent : engine.transactions[id]? = none) :
    engine.forget id = engine := by
  have same : engine.transactions.erase id = engine.transactions := by
    ext1 other
    rw [Std.ExtTreeMap.getElem?_erase]
    split
    · rename_i equal
      rw [← Std.LawfulEqCmp.eq_of_compare equal, absent]
    · rfl
  rw [forget, same]

theorem forget_rollback : (engine.perform (.rollback id)).2 = engine.forget id := by
  rw [perform, rollback]
  split
  · rename_i absent
    rw [engine.forget_absent id absent]
  · rfl

/-! ## Other transactions -/

theorem transactions_stage (step : Step) (different : id ≠ other) :
    (engine.stage id step).2.transactions[other]? = engine.transactions[other]? := by
  rw [stage]
  split
  · rfl
  · have kept := engine.transactions_stageIn step ‹Transaction›
    split
    · rename_i outcome
      rw [outcome] at kept
      rw [kept]
    · rename_i outcome
      rw [outcome] at kept
      dsimp only at kept ⊢
      rw [kept, Std.ExtTreeMap.getElem?_insert]
      simp [different]

theorem transactions_forget (different : id ≠ other) :
    (engine.forget id).transactions[other]? = engine.transactions[other]? := by
  rw [forget, Std.ExtTreeMap.getElem?_erase]
  simp [different]

theorem transactions_perform {call : Call} (elsewhere : call.transaction? ≠ some other)
    (fresh : call = .beginTransaction → engine.nextTransaction ≠ other) :
    (engine.perform call).2.transactions[other]? = engine.transactions[other]? := by
  cases call with
  | createIndex name => rw [perform, transactions_createIndex]
  | beginTransaction =>
      rw [perform, beginTransaction]
      split
      · rfl
      · simp [Std.ExtTreeMap.getElem?_insert, fresh rfl]
  | stage found step =>
      have different : found ≠ other := fun same => elsewhere (congrArg some same)
      exact engine.transactions_stage found other step different
  | commit found =>
      have different : found ≠ other := fun same => elsewhere (congrArg some same)
      cases open_ : engine.transactions[found]? with
      | none => rw [engine.perform_absent found rfl open_]
      | some transaction =>
          rw [perform, engine.transactions_commit found open_]
          exact engine.transactions_forget found other different
  | rollback found =>
      have different : found ≠ other := fun same => elsewhere (congrArg some same)
      rw [perform, rollback]
      split
      · rfl
      · exact engine.transactions_forget found other different
  | executeBatch batch => rw [perform, transactions_executeBatch]
  | indexGet _ _ _ => rfl
  | indexRange _ _ => rfl
  | nodeProperty _ _ => rfl
  | nodeProperties _ => rfl

theorem mem_perform {call : Call} (there : id ∈ engine.transactions)
    (kept : call.finishes = true → call.transaction? ≠ some id) :
    id ∈ (engine.perform call).2.transactions := by
  have elsewhere (other : call.transaction? ≠ some id) (same : call ≠ .beginTransaction) :
      id ∈ (engine.perform call).2.transactions := by
    rw [Std.ExtTreeMap.mem_iff_isSome_getElem?] at there ⊢
    rw [engine.transactions_perform id other fun begins => absurd begins same]
    exact there
  cases call with
  | beginTransaction =>
      rw [perform, beginTransaction]
      split
      · exact there
      · exact Std.ExtTreeMap.mem_insert.2 (.inr there)
  | stage own step => exact (engine.mem_transactions_stage own id step).2 there
  | commit own => exact elsewhere (kept rfl) (fun same => by cases same)
  | rollback own => exact elsewhere (kept rfl) (fun same => by cases same)
  | _ => exact elsewhere (fun same => by cases same) (fun same => by cases same)

/-- A transaction that begins is open, under the next number. -/
theorem perform_begun {number : TransactionId}
    (begun : (engine.perform .beginTransaction).1 = .ok number) :
    number = engine.nextTransaction ∧ number ∈ (engine.perform .beginTransaction).2.transactions := by
  rw [perform, beginTransaction] at begun ⊢
  split at begun
  · cases begun
  · rename_i isOpen
    cases begun
    rw [if_neg isOpen]
    exact ⟨rfl, Std.ExtTreeMap.mem_insert_self⟩

theorem transactions_finished {call : Call} (about : call.transaction? = some id)
    (finishes : call.finishes = true) :
    (engine.perform call).2.transactions[id]? = none := by
  have gone : (engine.forget id).transactions[id]? = none := by
    rw [forget, Std.ExtTreeMap.getElem?_erase_self]
  cases open_ : engine.transactions[id]? with
  | none =>
      rw [engine.perform_absent id about open_]
      exact open_
  | some transaction =>
      cases call with
      | commit found =>
          cases about
          rw [perform, engine.transactions_commit id open_]
          exact gone
      | rollback found =>
          cases about
          rw [perform, rollback, open_]
          exact gone
      | _ => cases finishes

/-! ## Numbers of transactions -/

theorem nextTransaction_stage (id : TransactionId) (step : Step) :
    (engine.stage id step).2.nextTransaction = engine.nextTransaction := by
  rw [stage]
  cases engine.transactions[id]? with
  | none => rfl
  | some transaction =>
      rcases engine.stageIn_cases step transaction with
        ⟨failure, outcome⟩ | ⟨-, outcome⟩ | ⟨-, staged, write, -, -, outcome⟩
      · simp only [outcome]
      · simp only [outcome, skip]
      · simp only [outcome]

theorem nextTransaction_commit (id : TransactionId) :
    (engine.commit id).2.nextTransaction = engine.nextTransaction := by
  rw [commit]
  cases engine.transactions[id]? with
  | none => rfl
  | some transaction =>
      rcases (engine.forget id).commitIn_cases transaction with ⟨failure, outcome⟩ | ⟨-, outcome⟩
      · exact congrArg (·.2.nextTransaction) outcome
      · exact congrArg (·.2.nextTransaction) outcome

theorem nextTransaction_executeBatch (batch : Batch) :
    (engine.executeBatch batch).2.nextTransaction = engine.nextTransaction ∨
      (engine.executeBatch batch).2.nextTransaction = engine.nextTransaction + 1 := by
  cases isOpen : engine.isClosed with
  | true =>
      rw [executeBatch_closed isOpen]
      exact .inl rfl
  | false =>
      rw [executeBatch_begun isOpen]
      refine .inr ?_
      rcases stageJobs_cases [] batch {} engine.begun with
        ⟨failure, count, -, outcome⟩ | ⟨staged, -, outcome⟩
      · rw [outcome]
        rfl
      · rw [outcome]
        dsimp only
        rcases (engine.begun.skip batch.cost).commitIn_cases staged with ⟨failure, last⟩ | ⟨-, last⟩
        · rw [last]
          rfl
        · rw [last]
          rfl

/-- A call begins at most one transaction, under the next number. -/
theorem begun_perform (call : Call) :
    ((engine.perform call).2.nextTransaction = engine.nextTransaction ∧
        ∀ id ∈ (engine.perform call).2.transactions, id ∈ engine.transactions) ∨
      (engine.perform call).2.nextTransaction = engine.nextTransaction + 1 ∧
        ∀ id ∈ (engine.perform call).2.transactions,
          id = engine.nextTransaction ∨ id ∈ engine.transactions := by
  cases call with
  | createIndex name =>
      refine .inl ⟨?_, fun id member => ?_⟩
      · dsimp only [perform, createIndex]
        split
        · rfl
        split
        · rfl
        split
        all_goals rfl
      · rwa [perform, transactions_createIndex] at member
  | beginTransaction =>
      rw [perform, beginTransaction]
      split
      · exact .inl ⟨rfl, fun id member => member⟩
      · refine .inr ⟨rfl, fun id member => ?_⟩
        rw [Std.ExtTreeMap.mem_insert, Std.compare_eq_iff_eq] at member
        exact member.imp_left Eq.symm
  | stage id step =>
      exact .inl ⟨engine.nextTransaction_stage id step,
        fun other member => (engine.mem_transactions_stage id other step).1 member⟩
  | commit id =>
      refine .inl ⟨engine.nextTransaction_commit id, fun other member => ?_⟩
      cases open_ : engine.transactions[id]? with
      | none => rwa [engine.perform_absent id rfl open_] at member
      | some transaction =>
          rw [perform, engine.transactions_commit id open_] at member
          exact ((engine.mem_transactions_forget id other).1 member).2
  | rollback id =>
      rw [forget_rollback]
      exact .inl ⟨rfl, fun other member => ((engine.mem_transactions_forget id other).1 member).2⟩
  | executeBatch batch =>
      rw [perform, transactions_executeBatch]
      rcases engine.nextTransaction_executeBatch batch with same | more
      · exact .inl ⟨same, fun id member => member⟩
      · exact .inr ⟨more, fun id member => .inr member⟩
  | _ => exact .inl ⟨rfl, fun id member => member⟩

theorem below_perform (below : ∀ id ∈ engine.transactions, id < engine.nextTransaction)
    (room : engine.nextTransaction.toNat + 1 < 2 ^ 64) (call : Call) :
    (∀ id ∈ (engine.perform call).2.transactions, id < (engine.perform call).2.nextTransaction) ∧
      (engine.perform call).2.nextTransaction.toNat ≤ engine.nextTransaction.toNat + 1 := by
  have next := toNat_add_one room
  have above := lt_add_one_of_room room
  rcases engine.begun_perform call with ⟨number, kept⟩ | ⟨number, kept⟩
  · rw [number]
    exact ⟨fun id member => below id (kept id member), Nat.le_succ _⟩
  · rw [number, next]
    refine ⟨fun id member => ?_, Nat.le_refl _⟩
    rcases kept id member with rfl | before
    · exact above
    · exact UInt64.lt_trans (below id before) above

/-! ## What calls in an open transaction come to -/

section

variable {engine : Engine} {id : TransactionId} {transaction : Transaction} {step : Step}

theorem stage_cases (open_ : engine.transactions[id]? = some transaction)
    (plain : step ≠ .createNode) :
    (∃ failure, engine.stage id step = (.error failure, engine)) ∨
      ∃ staged write, step.write? none = some write ∧
        staged.writes = transaction.writes ++ [write] ∧
        engine.stage id step = (.ok none, engine.hold id staged) := by
  rw [stage, open_]
  dsimp only
  rcases engine.stageIn_cases step transaction with
    ⟨failure, outcome⟩ | ⟨creates, -⟩ | ⟨-, staged, write, asks, writes, outcome⟩
  · rw [outcome]
    exact .inl ⟨failure, rfl⟩
  · exact absurd creates plain
  · rw [outcome]
    exact .inr ⟨staged, write, asks, writes, rfl⟩

/-- What the commit of an open transaction comes to. -/
theorem commit_cases (open_ : engine.transactions[id]? = some transaction) :
    (∃ failure, engine.commit id = (.error failure, engine.forget id)) ∨
      (Transaction.checkAll engine.graph {} transaction.writes = .ok () ∧
        engine.commit id = (.ok (),
          { engine.forget id with graph := engine.graph.performAll transaction.writes })) := by
  rw [commit, open_]
  exact (engine.forget id).commitIn_cases transaction

end

/-! ## Dialogues that leave none behind -/

variable {engine} {id other}

theorem perform_reads {call : Call} (reads : call.reads = true) :
    (engine.perform call).2 = engine := by
  cases call with
  | indexGet index key value => rfl
  | indexRange index range => rfl
  | nodeProperty node name => rfl
  | nodeProperties node => rfl
  | _ => cases reads

theorem run_reads {Result : Type} {dialogue : Dialogue Result}
    (asks : dialogue.Asks (·.reads = true)) : (dialogue.run perform engine).2 = engine := by
  refine asks.run_keeps (· = engine) (fun call state reads same => ?_) rfl
  rw [perform_reads reads, same]

def Settles {Result : Type} (dialogue : Dialogue Result) : Prop :=
  ∀ engine : Engine, engine.transactions = ∅ → (dialogue.run perform engine).2.transactions = ∅

theorem settles_reads {Result : Type} {dialogue : Dialogue Result}
    (asks : dialogue.Asks (·.reads = true)) : Settles dialogue := by
  intro engine settled
  rw [run_reads asks]
  exact settled

theorem settles_executeBatch (batch : Batch) : Settles (Dialogue.ask (.executeBatch batch)) := by
  intro engine settled
  rw [Dialogue.run_ask, perform, transactions_executeBatch]
  exact settled

theorem Settles.bind {First Result : Type} {dialogue : Dialogue First}
    {next : First → Dialogue Result} (settles : Settles dialogue)
    (later : ∀ value, Settles (next value)) : Settles (dialogue >>= next) := by
  intro engine settled
  have first := settles engine settled
  cases run : dialogue.run perform engine with
  | mk outcome after =>
      rw [run] at first
      cases outcome with
      | error failure =>
          rw [Dialogue.run_bind_error run]
          exact first
      | ok value =>
          rw [Dialogue.run_bind_ok run]
          exact later value after first

theorem settles_pure {Result : Type} (value : Result) : Settles (pure value) :=
  fun _ settled => settled

private def Alone (id : TransactionId) (engine : Engine) : Prop :=
  ∀ other, id ≠ other → engine.transactions[other]? = none

private theorem Alone.stage (alone : Alone id engine) (step : Step) :
    Alone id (engine.perform (.stage id step)).2 := by
  intro other different
  rw [perform, engine.transactions_stage id other step different]
  exact alone other different

private theorem Alone.finish (alone : Alone id engine) (call : Call)
    (about : call.transaction? = some id) (finishes : call.finishes = true) :
    (engine.perform call).2.transactions = ∅ := by
  ext1 other
  rw [Std.ExtTreeMap.getElem?_empty]
  by_cases same : id = other
  · rw [← same]
    exact engine.transactions_finished id about finishes
  · have elsewhere : call.transaction? ≠ some other := by
      rw [about]
      exact fun equal => same (Option.some.inj equal)
    rw [engine.transactions_perform other elsewhere]
    · exact alone other same
    · rintro rfl
      cases about

theorem settles_encloses {Result : Type} {dialogue : Dialogue Result}
    (encloses : KeyIndex.Encloses dialogue) : Settles dialogue := by
  rcases encloses with ⟨body, rfl, asks⟩
  intro engine settled
  cases isOpen : engine.isClosed with
  | true =>
      rw [run_inTransaction_closed isOpen]
      exact settled
  | false =>
      have alone : Alone engine.nextTransaction (engine.begun.hold engine.nextTransaction {}) := by
        intro other different
        simp [hold, begun, different, settled]
      have step (call : Call) (state : Engine) (stages : call.StagesIn engine.nextTransaction)
          (alone : Alone engine.nextTransaction state) :
          Alone engine.nextTransaction (state.perform call).2 := by
        rcases stages with ⟨step, rfl⟩
        exact alone.stage step
      have aloneAfter := (asks engine.nextTransaction).run_keeps _ step alone
      rw [Dialogue.run_inTransaction, perform_begin isOpen]
      dsimp only
      cases run : (body engine.nextTransaction).run perform
          (engine.begun.hold engine.nextTransaction {}) with
      | mk outcome after =>
          rw [run] at aloneAfter
          cases outcome with
          | error failure => exact aloneAfter.finish (.rollback _) rfl rfl
          | ok value => exact aloneAfter.finish (.commit _) rfl rfl

end Engine

end RecordGraph
