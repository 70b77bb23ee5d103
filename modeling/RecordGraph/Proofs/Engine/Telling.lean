import RecordGraph.Engine

namespace RecordGraph

/-! Which failures an engine can have. All of them are failures that a client can act on, and so
are told to remote clients as they are. -/

def Failure.isTold : Failure → Bool
  | notFound _ => true
  | missingField _ => true
  | indexExists _ => true
  | invalidArgument _ => true
  | conflict _ => true
  | closed => true
  | _ => false

def Tells {Answer : Type} (outcome : Except Failure Answer) : Prop :=
  ∀ failure, outcome = .error failure → failure.isTold = true

section

variable {First Second : Type}

theorem tells_ok (answer : First) : Tells (.ok answer) := fun _ same => by cases same

theorem tells_error {failure : Failure} (told : failure.isTold = true) :
    Tells (.error failure : Except Failure First) := by
  intro other same
  rw [← Except.error.inj same]
  exact told

theorem Tells.bind {first : Except Failure First} {next : First → Except Failure Second}
    (tells : Tells first) (later : ∀ value, Tells (next value)) : Tells (first >>= next) := by
  cases first with
  | ok value => exact later value
  | error failure => exact tells_error (tells failure rfl)

end

namespace Transaction

variable (graph : Graph)

theorem tells_pushOn (node : NodeId) (write : Write) (transaction : Transaction) :
    Tells (transaction.pushOn graph node write) := by
  rw [pushOn]
  split
  · exact tells_ok _
  · exact tells_error rfl

theorem tells_stage (fresh : NodeId) (step : Step) (transaction : Transaction) :
    Tells (transaction.stage graph fresh step) := by
  cases step with
  | createNode => exact tells_ok _
  | setProperty node name value =>
      rw [stage]
      split
      · exact tells_error rfl
      · exact (tells_pushOn graph node _ transaction).bind fun _ => tells_ok _
  | deleteNode node =>
      exact (tells_pushOn graph node _ transaction).bind fun _ => tells_ok _
  | indexAdd index node key value =>
      rw [stage]
      split
      · exact (tells_pushOn graph node _ transaction).bind fun _ => tells_ok _
      · exact tells_error rfl
  | indexRemove index node key value =>
      rw [stage]
      split
      · exact tells_ok _
      · exact tells_error rfl

theorem tells_check (standing : Standing) (write : Write) :
    Tells (standing.check graph write) := by
  cases write with
  | createNode node => exact tells_ok _
  | setProperty node name value =>
      rw [Standing.check]
      split
      · exact tells_ok _
      · exact tells_error rfl
  | deleteNode node =>
      rw [Standing.check]
      split
      · exact tells_ok _
      · exact tells_error rfl
  | indexAdd index node key value =>
      rw [Standing.check]
      split
      · exact tells_error rfl
      split
      · exact tells_ok _
      · exact tells_error rfl
  | indexRemove index node key value =>
      rw [Standing.check]
      split
      · exact tells_ok _
      · exact tells_error rfl

theorem tells_checkAll (standing : Standing) (writes : List Write) :
    Tells (checkAll graph standing writes) := by
  induction writes generalizing standing with
  | nil => exact tells_ok _
  | cons write writes induction => exact (tells_check graph standing write).bind induction

theorem tells_commit (transaction : Transaction) : Tells (transaction.commit graph) :=
  (tells_checkAll graph {} transaction.writes).bind fun _ => tells_ok _

end Transaction

namespace Engine

theorem tells_createIndex (name : String) (engine : Engine) :
    Tells (engine.createIndex name).1 := by
  rw [createIndex]
  split
  · exact tells_error rfl
  split
  · exact tells_error rfl
  split
  · exact tells_error rfl
  · exact tells_ok _

theorem tells_readIndex {Found : Type} (index : String) (read : NodeIndex → Found)
    (engine : Engine) : Tells (engine.readIndex index read) := by
  rw [readIndex]
  split
  · exact tells_error rfl
  split
  · exact tells_error rfl
  · exact tells_ok _

theorem tells_readNode {Found : Type} (node : NodeId) (read : Properties → Found)
    (engine : Engine) : Tells (engine.readNode node read) := by
  rw [readNode]
  split
  · exact tells_error rfl
  split
  · exact tells_error rfl
  · exact tells_ok _

/-! ## Transactions -/

theorem tells_beginTransaction (engine : Engine) : Tells engine.beginTransaction.1 := by
  rw [beginTransaction]
  split
  · exact tells_error rfl
  · exact tells_ok _

theorem tells_stageIn (step : Step) (transaction : Transaction) (engine : Engine) :
    Tells (engine.stageIn step transaction).1 := by
  have staging := Transaction.tells_stage engine.graph engine.nextNode step transaction
  rw [stageIn]
  split
  · exact tells_error rfl
  split
  · rename_i failure outcome
    exact tells_error (staging failure outcome)
  · exact tells_ok _
  · exact tells_ok _

theorem tells_stage (id : TransactionId) (step : Step) (engine : Engine) :
    Tells (engine.stage id step).1 := by
  rw [stage]
  split
  · exact tells_error rfl
  · rename_i transaction found
    have staging := tells_stageIn step transaction engine
    split
    · rename_i outcome
      rw [outcome] at staging
      exact tells_error (staging _ rfl)
    · exact tells_ok _

theorem tells_commitIn (transaction : Transaction) (engine : Engine) :
    Tells (engine.commitIn transaction).1 := by
  have committing := Transaction.tells_commit engine.graph transaction
  rw [commitIn]
  split
  · exact tells_error rfl
  split
  · rename_i failure outcome
    exact tells_error (committing failure outcome)
  · exact tells_ok _

theorem tells_commit (id : TransactionId) (engine : Engine) : Tells (engine.commit id).1 := by
  rw [commit]
  split
  · exact tells_error rfl
  · rename_i transaction found
    exact tells_commitIn transaction (engine.forget id)

theorem tells_rollback (id : TransactionId) (engine : Engine) :
    Tells (engine.rollback id).1 := by
  rw [rollback]
  split
  · exact tells_error rfl
  · dsimp only
    split
    · exact tells_error rfl
    · exact tells_ok _

/-! ## Batches -/

theorem tells_resolve (created : List (Option NodeId)) (reference : NodeReference) :
    Tells (resolve created reference) := by
  cases reference with
  | id node => exact tells_ok _
  | job position =>
      rw [resolve]
      split
      · exact tells_ok _
      · exact tells_error rfl

theorem tells_stageSteps (steps : List Step) (transaction : Transaction) (engine : Engine) :
    Tells (stageSteps steps transaction engine).1 := by
  induction steps generalizing transaction engine with
  | nil => exact tells_ok _
  | cons step steps induction =>
      have staging := tells_stageIn step transaction engine
      rw [stageSteps]
      split
      · rename_i outcome
        rw [outcome] at staging
        exact tells_error (staging _ rfl)
      · exact induction _ _

theorem tells_stageJob (created : List (Option NodeId)) (job : Job) (transaction : Transaction)
    (engine : Engine) : Tells (stageJob created job transaction engine).1 := by
  cases job with
  | createNode properties =>
      have staging := tells_stageIn .createNode transaction engine
      rw [stageJob]
      split
      · dsimp only
        split
        · exact tells_ok _
        · rename_i outcome
          have setting := congrArg Prod.fst outcome
          exact tells_error (tells_stageSteps _ _ _ _ setting)
      · exact tells_ok _
      · rename_i outcome
        rw [outcome] at staging
        exact tells_error (staging _ rfl)
  | indexAdd index node key value =>
      rw [stageJob]
      split
      · exact tells_stageIn _ _ _
      · rename_i failure outcome
        exact tells_error (tells_resolve created node failure outcome)
  | setProperty node name value =>
      rw [stageJob]
      split
      · exact tells_stageIn _ _ _
      · rename_i failure outcome
        exact tells_error (tells_resolve created node failure outcome)

theorem tells_stageJobs (created : List (Option NodeId)) (jobs : List Job)
    (transaction : Transaction) (engine : Engine) :
    Tells (stageJobs created jobs transaction engine).1 := by
  induction jobs generalizing created transaction engine with
  | nil => exact tells_ok _
  | cons job jobs induction =>
      have staging := tells_stageJob created job transaction engine
      rw [stageJobs]
      split
      · rename_i outcome
        rw [outcome] at staging
        exact tells_error (staging _ rfl)
      · exact induction _ _ _

theorem tells_executeBatch (batch : Batch) (engine : Engine) :
    Tells (engine.executeBatch batch).1 := by
  rw [executeBatch]
  split
  · exact tells_error rfl
  dsimp only
  split
  · rename_i outcome
    have staging := congrArg Prod.fst outcome
    exact tells_error (tells_stageJobs _ _ _ _ _ staging)
  · split
    · rename_i outcome
      have committing := congrArg Prod.fst outcome
      exact tells_error (tells_commitIn _ _ _ committing)
    · exact tells_ok _

theorem tells_perform (call : Call) (engine : Engine) : Tells (engine.perform call).1 := by
  cases call with
  | createIndex name => exact tells_createIndex name engine
  | indexGet index key value => exact tells_readIndex index _ engine
  | indexRange index range => exact tells_readIndex index _ engine
  | nodeProperty node name => exact tells_readNode node _ engine
  | nodeProperties node => exact tells_readNode node _ engine
  | beginTransaction => exact tells_beginTransaction engine
  | stage id step => exact tells_stage id step engine
  | commit id => exact tells_commit id engine
  | rollback id => exact tells_rollback id engine
  | executeBatch batch => exact tells_executeBatch batch engine

end Engine

end RecordGraph
