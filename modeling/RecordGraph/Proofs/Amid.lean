import RecordGraph.Proofs.Engine.Effect
import RecordGraph.Proofs.Engine.Place
import RecordGraph.Proofs.Reaching

namespace RecordGraph

/-! Dialogues amid others. Between the calls of a dialogue anything may happen on the host. Others
keep a ledger of what they do to the engine: if it stays right although nobody has entered what the
dialogue has done, then nothing of that can be seen. -/

/-! ## Others -/

/-- The event uses a transaction: it is about it, or begins another one with its number. -/
def Event.uses (engine : Engine) (transaction : TransactionId) : Event → Bool
  | call made => made.transaction? = some transaction ||
      (made = .beginTransaction && engine.nextTransaction = transaction)
  | drop other => other = transaction
  | shutdown _ => false

def Call.begun : (call : Call) → Except Failure call.Answer → List TransactionId
  | .beginTransaction, .ok transaction => [transaction]
  | _, _ => []

/-- A host on which somebody holds a dialogue amid others. -/
structure Amid where
  host : Host
  /-- What others do before each of the calls to come. -/
  ahead : List (List Turn)
  /-- What others have done to the engine. -/
  ledger : Ledger
  /-- The transactions that the dialogue has begun. -/
  own : List TransactionId := []
  /-- No transaction of the dialogue has been used by others. -/
  apart : Bool := true
  /-- The host before and after each call of the dialogue. -/
  calls : List (Host × Host) := []

namespace Amid

def outset (id : EngineId) (host : Host) (ahead : List (List Turn)) : Amid where
  host := host
  ahead := ahead
  ledger := .opening (host.engine id)

def meanwhile (id : EngineId) (amid : Amid) (turn : Turn) : Amid :=
  match turn.event? id amid.host with
  | none => { amid with host := amid.host.turn turn }
  | some event =>
      { amid with
        host := amid.host.turn turn
        ledger := event.enter (amid.host.engine id) amid.ledger
        apart := amid.apart && !(amid.own.any (event.uses (amid.host.engine id))) }

def others (id : EngineId) (amid : Amid) : Amid :=
  (amid.ahead.headD []).foldl (meanwhile id) { amid with ahead := amid.ahead.tail }

def make (connection : Connection) (call : Call) (amid : Amid) :
    Except Failure call.Answer × Amid :=
  let (answer, after) := amid.host.perform connection call
  (answer, { amid with
    host := after
    own := amid.own ++ call.begun answer
    calls := amid.calls ++ [(amid.host, after)] })

def perform (connection : Connection) (id : EngineId) (call : Call) (amid : Amid) :
    Except Failure call.Answer × Amid :=
  (amid.others id).make connection call

/-- Nothing that the dialogue has done can be seen: no call of it has changed the committed graph,
and whatever happens later, the graph is what the ledger of the others says, unless somebody has
used a transaction of the dialogue. -/
def Unseen (id : EngineId) (start : Picture) (amid : Amid) : Prop :=
  (∀ pair ∈ amid.calls, (pair.2.engine id).graph = (pair.1.engine id).graph) ∧
    (amid.apart = true → ∀ events : List Event,
      ((amid.host.engine id).follow amid.ledger events).1.graph.picture =
        start.after ((amid.host.engine id).follow amid.ledger events).2.committed)

end Amid

/-! ## What one transaction does not concern -/

theorem Event.change_forget {engine : Engine} {transaction : TransactionId} {event : Event}
    (unused : event.uses engine transaction = false) (ledger : Ledger) :
    event.change (engine.forget transaction) = (event.change engine).forget transaction ∧
      event.enter (engine.forget transaction) ledger = event.enter engine ledger := by
  cases event with
  | call made =>
      rw [uses, Bool.or_eq_false_iff, decide_eq_false_iff_not] at unused
      have fresh : made = .beginTransaction → engine.nextTransaction ≠ transaction := by
        rintro rfl
        simpa using unused.2
      have same := engine.perform_forget transaction unused.1 fresh
      rw [change, change, enter, enter, same]
      exact ⟨rfl, rfl⟩
  | drop other => exact ⟨engine.forget_forget transaction other, rfl⟩
  | shutdown disk =>
      refine ⟨?_, rfl⟩
      dsimp only [change, Engine.shutdown, Engine.forget]
      split
      · rfl
      · rfl

namespace Ledger.Right

variable {start : Picture} {engine other : Engine} {ledger : Ledger}

theorem without (right : Right start engine ledger) (transaction : TransactionId) :
    Right start (engine.forget transaction) ledger where
  picture := right.picture
  possible := right.possible
  staged id found there := by
    rw [Engine.forget, Std.ExtTreeMap.getElem?_erase] at there
    split at there
    · cases there
    · exact right.staged id found there

theorem of_others {transaction : TransactionId}
    (right : Right start (engine.forget transaction) ledger) (graph : other.graph = engine.graph)
    (same : ∀ id, transaction ≠ id → other.transactions[id]? = engine.transactions[id]?) :
    Right start (other.forget transaction) ledger where
  picture := (congrArg Graph.picture graph).trans right.picture
  possible := right.possible
  staged id found there := by
    apply right.staged id found
    by_cases own : transaction = id
    · rw [own, Engine.forget, Std.ExtTreeMap.getElem?_erase_self] at there
      cases there
    · rw [Engine.transactions_forget engine transaction id own, ← same id own,
        ← Engine.transactions_forget other transaction id own]
      exact there

end Ledger.Right

namespace Engine

/-- A transaction that cannot be committed is forgotten all the same. -/
theorem forget_commit {engine : Engine} {transaction : TransactionId} {failure : Failure}
    (failed : (engine.perform (.commit transaction)).1 = .error failure) :
    (engine.perform (.commit transaction)).2 = engine.forget transaction := by
  rw [perform, commit] at failed ⊢
  cases found : engine.transactions[transaction]? with
  | none => exact (engine.forget_absent transaction found).symm
  | some held =>
      rw [found] at failed
      rcases (engine.forget transaction).commitIn_cases held with ⟨_, outcome⟩ | ⟨-, outcome⟩
      · dsimp only
        rw [outcome]
      · dsimp only at failed
        rw [outcome] at failed
        cases failed

end Engine

namespace Amid

/-! ## What stays -/

variable {connection : Connection} {id : EngineId} {start : Picture} {amid : Amid}
  {transaction : TransactionId}

/-- The connection reaches the engine, and no call of the dialogue has changed the graph. -/
structure Calm (connection : Connection) (id : EngineId) (amid : Amid) : Prop where
  reaches : amid.host.Reaches connection id
  still : ∀ pair ∈ amid.calls, (pair.2.engine id).graph = (pair.1.engine id).graph

structure Outside (connection : Connection) (id : EngineId) (start : Picture) (amid : Amid) : Prop
    extends Calm connection id amid where
  right : amid.apart = true → Ledger.Right start (amid.host.engine id) amid.ledger

/-- The dialogue is in a transaction, without which the ledger is right. -/
structure Inside (connection : Connection) (id : EngineId) (start : Picture)
    (transaction : TransactionId) (amid : Amid) : Prop extends Calm connection id amid where
  own : transaction ∈ amid.own
  right : amid.apart = true → amid.host.Admits connection id transaction ∧
    Ledger.Right start ((amid.host.engine id).forget transaction) amid.ledger

theorem Outside.unseen (outside : Outside connection id start amid) : amid.Unseen id start :=
  ⟨outside.still, fun apart events => ((outside.right apart).follow events).picture⟩

theorem outside_outset {host : Host} (reaches : host.Reaches connection id)
    (ahead : List (List Turn)) :
    Outside connection id (host.engine id).graph.picture (outset id host ahead) where
  reaches := reaches
  still _ member := by cases member
  right _ := Ledger.right_opening (host.engine id)

/-! ## Others between the calls -/

private theorem meanwhile_none {turn : Turn} (none_ : turn.event? id amid.host = none) :
    amid.meanwhile id turn = { amid with host := amid.host.turn turn } := by
  rw [meanwhile, none_]

private theorem meanwhile_some {turn : Turn} {event : Event}
    (some_ : turn.event? id amid.host = some event) :
    amid.meanwhile id turn = { amid with
      host := amid.host.turn turn
      ledger := event.enter (amid.host.engine id) amid.ledger
      apart := amid.apart && !(amid.own.any (event.uses (amid.host.engine id))) } := by
  rw [meanwhile, some_]

theorem Outside.meanwhile (outside : Outside connection id start amid) (turn : Turn) :
    Outside connection id start (amid.meanwhile id turn) := by
  have engine := Host.engine_turn outside.reaches.1 turn
  cases happens : turn.event? id amid.host with
  | none =>
      rw [happens] at engine
      rw [meanwhile_none happens]
      refine ⟨⟨outside.reaches.turn turn, outside.still⟩, fun apart => ?_⟩
      rw [engine]
      exact outside.right apart
  | some event =>
      rw [happens] at engine
      rw [meanwhile_some happens]
      refine ⟨⟨outside.reaches.turn turn, outside.still⟩, fun apart => ?_⟩
      rw [engine]
      exact (outside.right (Bool.and_eq_true_iff.1 apart).1).change event

theorem Inside.meanwhile (inside : Inside connection id start transaction amid) (turn : Turn) :
    Inside connection id start transaction (amid.meanwhile id turn) := by
  have engine := Host.engine_turn inside.reaches.1 turn
  cases happens : turn.event? id amid.host with
  | none =>
      rw [happens] at engine
      rw [meanwhile_none happens]
      refine ⟨⟨inside.reaches.turn turn, inside.still⟩, inside.own, fun apart => ?_⟩
      rcases inside.right apart with ⟨admits, right⟩
      refine ⟨admits.turn fun call event => ?_, ?_⟩
      · rw [happens] at event
        cases event
      · rw [engine]
        exact right
  | some event =>
      rw [happens] at engine
      rw [meanwhile_some happens]
      refine ⟨⟨inside.reaches.turn turn, inside.still⟩, inside.own, fun apart => ?_⟩
      rcases Bool.and_eq_true_iff.1 apart with ⟨before, unused⟩
      have unused : event.uses (amid.host.engine id) transaction = false := by
        rw [Bool.not_eq_true', List.any_eq_false] at unused
        simpa using unused transaction inside.own
      rcases inside.right before with ⟨admits, right⟩
      rcases event.change_forget unused amid.ledger with ⟨change, enter⟩
      refine ⟨admits.turn fun call same _ about => ?_, ?_⟩
      · rw [happens] at same
        rcases Option.some.inj same with rfl
        simp [Event.uses, about] at unused
      · rw [engine, ← enter]
        exact change ▸ right.change event

theorem Outside.others (outside : Outside connection id start amid) :
    Outside connection id start (amid.others id) := by
  have all (turns : List Turn) {before : Amid} (outside : Outside connection id start before) :
      Outside connection id start (turns.foldl (Amid.meanwhile id) before) := by
    induction turns generalizing before with
    | nil => exact outside
    | cons turn turns induction => exact induction (outside.meanwhile turn)
  exact all _ ⟨⟨outside.reaches, outside.still⟩, outside.right⟩

theorem Inside.others (inside : Inside connection id start transaction amid) :
    Inside connection id start transaction (amid.others id) := by
  have all (turns : List Turn) {before : Amid}
      (inside : Inside connection id start transaction before) :
      Inside connection id start transaction (turns.foldl (Amid.meanwhile id) before) := by
    induction turns generalizing before with
    | nil => exact inside
    | cons turn turns induction => exact induction (inside.meanwhile turn)
  exact all _ ⟨⟨inside.reaches, inside.still⟩, inside.own, inside.right⟩

/-! ## Calls of the dialogue -/

variable {call : Call}

private theorem graph_perform {host : Host} (reaches : host.Reaches connection id)
    (unchanging : call.changes = false ∨ ∃ failure, (host.perform connection call).1 = .error failure) :
    ((host.perform connection call).2.engine id).graph = (host.engine id).graph := by
  rcases (reaches.perform call).2 with ⟨same, -⟩ | ⟨answer, after⟩
  · rw [same]
  · rw [after]
    rcases (host.engine id).graph_perform call with same | ⟨changes, ⟨given, done⟩, -⟩
    · exact same
    · rcases unchanging with quiet | ⟨failure, failed⟩
      · rw [quiet] at changes
        cases changes
      · rw [answer, done] at failed
        cases failed

theorem Calm.make (calm : Calm connection id amid)
    (unchanging : call.changes = false ∨ ∃ failure, (amid.make connection call).1 = .error failure) :
    Calm connection id (amid.make connection call).2 where
  reaches := (calm.reaches.perform call).1
  still pair member := by
    rcases List.mem_append.1 member with before | own
    · exact calm.still pair before
    · rw [List.mem_singleton.1 own]
      exact graph_perform calm.reaches unchanging

private theorem Outside.same (outside : Outside connection id start amid)
    (calm : Calm connection id (amid.make connection call).2)
    (same : (amid.make connection call).2.host.engine id = amid.host.engine id) :
    Outside connection id start (amid.make connection call).2 where
  toCalm := calm
  right apart := by
    rw [same]
    exact outside.right apart

private theorem changes_of_reads (reads : call.reads = true) : call.changes = false := by
  cases call with
  | createIndex name => cases reads
  | commit other => cases reads
  | executeBatch batch => cases reads
  | _ => rfl

theorem Outside.reads (outside : Outside connection id start amid) (reads : call.reads = true) :
    Outside connection id start (amid.make connection call).2 := by
  apply outside.same (outside.make (.inl (changes_of_reads reads)))
  rcases (outside.reaches.perform call).2 with ⟨same, -⟩ | ⟨-, after⟩
  · exact same
  · exact after.trans (Engine.perform_reads reads)

theorem Outside.begin_error (outside : Outside connection id start amid) {failure : Failure}
    (failed : (amid.make connection .beginTransaction).1 = .error failure) :
    Outside connection id start (amid.make connection .beginTransaction).2 := by
  apply outside.same (outside.make (.inl rfl))
  rcases (outside.reaches.perform .beginTransaction).2 with ⟨same, -⟩ | ⟨answer, after⟩
  · exact same
  · refine after.trans ?_
    rw [Engine.perform, Engine.beginTransaction] at answer ⊢
    split
    · rfl
    · rename_i isOpen
      rw [if_neg isOpen] at answer
      cases answer.symm.trans failed

theorem Outside.begin_ok (outside : Outside connection id start amid)
    (begun : (amid.make connection .beginTransaction).1 = .ok transaction) :
    Inside connection id start transaction (amid.make connection .beginTransaction).2 := by
  refine ⟨outside.make (.inl rfl), ?_, fun apart => ⟨outside.reaches.admits_begun begun, ?_⟩⟩
  · have entered : Call.begun .beginTransaction (amid.host.perform connection .beginTransaction).1 =
        [transaction] := by
      rw [show (amid.host.perform connection .beginTransaction).1 = .ok transaction from begun]
      rfl
    exact List.mem_append_right _ (entered ▸ List.mem_singleton_self transaction)
  · have right := (outside.right apart).without transaction
    rcases (outside.reaches.perform .beginTransaction).2 with
      ⟨-, reads | ⟨failure, failed⟩⟩ | ⟨answer, after⟩
    · cases reads
    · cases failed.symm.trans begun
    · have own := answer.symm.trans begun
      refine right.of_others ?_ fun other different => ?_
      · exact graph_perform outside.reaches (.inl rfl)
      · refine (congrArg (·.transactions[other]?) after).trans ?_
        rw [Engine.perform, Engine.beginTransaction] at own ⊢
        split
        · rfl
        · rename_i isOpen
          rw [if_neg isOpen] at own
          have number : (amid.host.engine id).nextTransaction = transaction := Except.ok.inj own
          dsimp only
          rw [Std.ExtTreeMap.getElem?_insert, number, if_neg]
          rw [Std.compare_eq_iff_eq]
          exact different

theorem Inside.make (inside : Inside connection id start transaction amid)
    (quiet : call.StagesIn transaction ∨ call.reads = true) :
    Inside connection id start transaction (amid.make connection call).2 := by
  have changes : call.changes = false := by
    rcases quiet with ⟨step, rfl⟩ | reads
    · rfl
    · exact changes_of_reads reads
  have unfinished : call.finishes = true → call.transaction? ≠ some transaction := by
    rcases quiet with ⟨step, rfl⟩ | reads
    · exact fun finishes => by cases finishes
    · intro finishes
      cases call with
      | commit other => cases reads
      | rollback other => cases reads
      | _ => cases finishes
  refine ⟨inside.toCalm.make (.inl changes), List.mem_append_left _ inside.own, fun apart => ?_⟩
  rcases inside.right apart with ⟨admits, right⟩
  refine ⟨inside.reaches.admits_perform admits unfinished, right.of_others ?_ fun other different => ?_⟩
  · exact graph_perform inside.reaches (.inl changes)
  · rcases (inside.reaches.perform call).2 with ⟨same, -⟩ | ⟨-, after⟩
    · exact congrArg (·.transactions[other]?) same
    · refine (congrArg (·.transactions[other]?) after).trans ?_
      rcases quiet with ⟨step, rfl⟩ | reads
      · exact (amid.host.engine id).transactions_stage transaction other step different
      · rw [Engine.perform_reads reads]

theorem Inside.rollback (inside : Inside connection id start transaction amid) :
    Outside connection id start (amid.make connection (.rollback transaction)).2 where
  toCalm := inside.toCalm.make (.inl rfl)
  right apart := by
    rcases inside.right apart with ⟨admits, right⟩
    have after := (inside.reaches.perform_finishes (.rollback transaction) admits rfl rfl).2
    rw [Engine.forget_rollback] at after
    exact after ▸ right

theorem Inside.commit_error (inside : Inside connection id start transaction amid)
    {failure : Failure}
    (failed : (amid.make connection (.commit transaction)).1 = .error failure) :
    Outside connection id start (amid.make connection (.commit transaction)).2 where
  toCalm := inside.toCalm.make (.inr ⟨failure, failed⟩)
  right apart := by
    rcases inside.right apart with ⟨admits, right⟩
    rcases inside.reaches.perform_finishes (.commit transaction) admits rfl rfl with
      ⟨answer, after⟩
    rw [Engine.forget_commit (answer.symm.trans failed)] at after
    exact after ▸ right

theorem Outside.batch_error (outside : Outside connection id start amid) {batch : Batch}
    {failure : Failure} (failed : (amid.make connection (.executeBatch batch)).1 = .error failure) :
    Outside connection id start (amid.make connection (.executeBatch batch)).2 where
  toCalm := outside.toCalm.make (.inr ⟨failure, failed⟩)
  right apart := by
    have right := outside.right apart
    rcases (outside.reaches.perform (.executeBatch batch)).2 with ⟨same, -⟩ | ⟨-, after⟩
    · exact same ▸ right
    · refine right.of_same (graph_perform outside.reaches (.inr ⟨failure, failed⟩)) ?_
      exact (congrArg Engine.transactions after).trans
        ((amid.host.engine id).transactions_executeBatch batch)

/-! ## Dialogues -/

open Dialogue

variable {Result : Type}

theorem Outside.run_reads (outside : Outside connection id start amid)
    {dialogue : Dialogue Result} (asks : dialogue.Asks (·.reads = true)) :
    Outside connection id start (dialogue.run (Amid.perform connection id) amid).2 :=
  asks.run_keeps _ (fun _ _ reads outside => outside.others.reads reads) outside

theorem Inside.run (inside : Inside connection id start transaction amid)
    {dialogue : Dialogue Result}
    (asks : dialogue.Asks fun call => call.StagesIn transaction ∨ call.reads = true) :
    Inside connection id start transaction (dialogue.run (Amid.perform connection id) amid).2 :=
  asks.run_keeps _ (fun _ _ quiet inside => inside.others.make quiet) inside

/-- What has been done in a transaction of its own is out of sight if the transaction fails. -/
theorem Outside.inTransaction (outside : Outside connection id start amid)
    {body : TransactionId → Dialogue Result}
    (asks : ∀ transaction,
      (body transaction).Asks fun call => call.StagesIn transaction ∨ call.reads = true)
    {failure : Failure}
    (failed : ((RecordGraph.inTransaction body).run (Amid.perform connection id) amid).1 =
      .error failure) :
    Outside connection id start
      ((RecordGraph.inTransaction body).run (Amid.perform connection id) amid).2 := by
  rw [run_inTransaction] at failed ⊢
  rcases beginning : Amid.perform connection id .beginTransaction amid with
    ⟨refused | transaction, begun⟩
  · have after := outside.others.begin_error (congrArg Prod.fst beginning)
    exact (congrArg Prod.snd beginning) ▸ after
  have inside : Inside connection id start transaction
      (Amid.perform connection id .beginTransaction amid).2 :=
    outside.others.begin_ok (congrArg Prod.fst beginning)
  rw [beginning] at inside
  have later := inside.run (asks transaction)
  rw [beginning] at failed
  dsimp only at failed ⊢
  rcases running : (body transaction).run (Amid.perform connection id) begun with
    ⟨stopped | value, last⟩
  · rw [running] at later
    exact later.others.rollback
  · rw [running] at later failed
    dsimp only at failed ⊢
    cases ended : (Amid.perform connection id (.commit transaction) last).1 with
    | ok done =>
        rw [ended] at failed
        cases failed
    | error refused => exact later.others.commit_error ended

end Amid

end RecordGraph
