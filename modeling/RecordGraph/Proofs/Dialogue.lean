import RecordGraph.Record.Mutation

namespace RecordGraph

/-! Outcomes of dialogues. What a dialogue comes to is put together from what its parts come to,
whoever answers. -/

namespace Dialogue

variable {State First Result Item : Type}
  {perform : (call : Call) → State → Except Failure call.Answer × State}

@[simp] theorem run_finished (outcome : Except Failure Result) (state : State) :
    (finished outcome).run perform state = (outcome, state) := rfl

@[simp] theorem run_pure (value : Result) (state : State) :
    (pure value : Dialogue Result).run perform state = (.ok value, state) := rfl

@[simp] theorem run_ask (call : Call) (state : State) :
    (ask call).run perform state = perform call state := rfl

theorem run_andThen (next : First → Dialogue Result) (dialogue : Dialogue First) (state : State) :
    (andThen next dialogue).run perform state = match dialogue.run perform state with
      | (.ok value, after) => (next value).run perform after
      | (.error failure, after) => (.error failure, after) := by
  induction dialogue generalizing state with
  | finished outcome => cases outcome <;> rfl
  | asking call following induction =>
      rw [andThen, run, run]
      exact induction (perform call state).1 (perform call state).2

theorem run_bind (dialogue : Dialogue First) (next : First → Dialogue Result) (state : State) :
    (dialogue >>= next).run perform state = match dialogue.run perform state with
      | (.ok value, after) => (next value).run perform after
      | (.error failure, after) => (.error failure, after) :=
  run_andThen next dialogue state

theorem run_bind_ok {dialogue : Dialogue First} {next : First → Dialogue Result} {value : First}
    {state after : State} (done : dialogue.run perform state = (.ok value, after)) :
    (dialogue >>= next).run perform state = (next value).run perform after := by
  rw [run_bind, done]

theorem run_bind_error {dialogue : Dialogue First} {next : First → Dialogue Result}
    {failure : Failure} {state after : State}
    (failed : dialogue.run perform state = (.error failure, after)) :
    (dialogue >>= next).run perform state = (.error failure, after) := by
  rw [run_bind, failed]

theorem run_map (dialogue : Dialogue First) (change : First → Result) (state : State) :
    (dialogue >>= fun value => pure (change value)).run perform state =
      ((dialogue.run perform state).1.map change, (dialogue.run perform state).2) := by
  rw [run_bind]
  rcases dialogue.run perform state with ⟨_ | value, after⟩
  · rfl
  · rfl

@[simp] theorem run_attempt (dialogue : Dialogue Result) (state : State) :
    dialogue.attempt.run perform state =
      (.ok (dialogue.run perform state).1, (dialogue.run perform state).2) := by
  induction dialogue generalizing state with
  | finished outcome => rfl
  | asking call following induction =>
      rw [attempt, run, run]
      exact induction (perform call state).1 (perform call state).2

theorem run_stage (transaction : TransactionId) (step : Step) (state : State) :
    (stage transaction step).run perform state =
      ((perform (.stage transaction step) state).1.map fun _ => (),
        (perform (.stage transaction step) state).2) := by
  rw [stage, run_andThen, run_ask]
  rcases perform (.stage transaction step) state with ⟨outcome, after⟩
  cases outcome <;> rfl

theorem run_forEach_still {dialogue : Item → Dialogue Result} {state : State}
    (answer : Item → Except Failure Result) (items : List Item)
    (still : ∀ item ∈ items, (dialogue item).run perform state = (answer item, state)) :
    (forEach dialogue items).run perform state = (items.mapM answer, state) := by
  induction items with
  | nil => rfl
  | cons item items induction =>
      have first := still item List.mem_cons_self
      have induction := induction fun later member => still later (List.mem_cons_of_mem _ member)
      rw [forEach, List.mapM_cons]
      cases outcome : answer item with
      | error failure =>
          rw [run_bind_error (by rw [first, outcome])]
          rfl
      | ok result =>
          rw [run_bind_ok (by rw [first, outcome])]
          cases rest : items.mapM answer with
          | error failure =>
              rw [run_bind_error (by rw [induction, rest])]
              rfl
          | ok results =>
              rw [run_bind_ok (by rw [induction, rest])]
              rfl

/-! ## What a dialogue asks

Some dialogues make only calls of one sort, whatever they are answered. Whatever such calls keep is
kept by the whole dialogue. -/

def Asks (allowed : Call → Prop) : Dialogue Result → Prop
  | finished _ => True
  | asking call next => allowed call ∧ ∀ answer, (next answer).Asks allowed

section Asks

variable {Other : Type} {allowed wider : Call → Prop} {dialogue : Dialogue Result}

theorem asks_ask {call : Call} (allows : allowed call) : (ask call).Asks allowed :=
  ⟨allows, fun _ => trivial⟩

namespace Asks

theorem mono (asks : dialogue.Asks allowed) (more : ∀ call, allowed call → wider call) :
    dialogue.Asks wider := by
  induction dialogue with
  | finished outcome => trivial
  | asking call next induction =>
      exact ⟨more call asks.1, fun answer => induction answer (asks.2 answer)⟩

theorem bind {first : Dialogue First} {next : First → Dialogue Result}
    (asks : first.Asks allowed) (later : ∀ value, (next value).Asks allowed) :
    (first >>= next).Asks allowed := by
  induction first with
  | finished outcome =>
      cases outcome with
      | ok value => exact later value
      | error failure => trivial
  | asking call following induction =>
      exact ⟨asks.1, fun answer => induction answer (asks.2 answer)⟩

theorem stage {transaction : TransactionId} {step : Step}
    (allows : allowed (.stage transaction step)) :
    (Dialogue.stage transaction step).Asks allowed :=
  (asks_ask allows).bind fun _ => trivial

theorem attempt (asks : dialogue.Asks allowed) : dialogue.attempt.Asks allowed := by
  induction dialogue with
  | finished outcome => trivial
  | asking call next induction =>
      exact ⟨asks.1, fun answer => induction answer (asks.2 answer)⟩

theorem forEach {each : Item → Dialogue Result} {items : List Item}
    (asks : ∀ item ∈ items, (each item).Asks allowed) : (forEach each items).Asks allowed := by
  induction items with
  | nil => trivial
  | cons item items induction =>
      have rest := induction fun other member => asks other (List.mem_cons_of_mem _ member)
      exact (asks item List.mem_cons_self).bind fun _ => rest.bind fun _ => trivial

theorem run_keeps (holds : State → Prop)
    (keeps : ∀ call state, allowed call → holds state → holds (perform call state).2)
    (asks : dialogue.Asks allowed) {state : State} (held : holds state) :
    holds (dialogue.run perform state).2 := by
  induction dialogue generalizing state with
  | finished outcome => exact held
  | asking call next induction =>
      rw [run]
      exact induction _ (asks.2 _) (keeps call state asks.1 held)

/-- Two that answer alike, and stay alike, come to the same. -/
theorem run_alike {performOther : (call : Call) → Other → Except Failure call.Answer × Other}
    (alike : State → Other → Prop)
    (step : ∀ call state other, allowed call → alike state other →
      (perform call state).1 = (performOther call other).1 ∧
        alike (perform call state).2 (performOther call other).2)
    (asks : dialogue.Asks allowed) {state : State} {other : Other} (same : alike state other) :
    (dialogue.run perform state).1 = (dialogue.run performOther other).1 ∧
      alike (dialogue.run perform state).2 (dialogue.run performOther other).2 := by
  induction dialogue generalizing state other with
  | finished outcome => exact ⟨rfl, same⟩
  | asking call next induction =>
      rcases step call state other asks.1 same with ⟨answers, later⟩
      rw [run, run]
      dsimp only
      rw [answers]
      exact induction _ (asks.2 _) later

end Asks

end Asks

/-! ## Dialogues in a transaction -/

/-- How a transaction of its own goes: it begins, and how it ends depends on what is done in it. -/
theorem run_inTransaction (body : TransactionId → Dialogue Result) (state : State) :
    (inTransaction body).run perform state = match perform .beginTransaction state with
      | (.error failure, after) => (.error failure, after)
      | (.ok transaction, begun) => match (body transaction).run perform begun with
        | (.error failure, after) => (.error failure, (perform (.rollback transaction) after).2)
        | (.ok value, after) => ((perform (.commit transaction) after).1.map fun _ => value,
            (perform (.commit transaction) after).2) := by
  rw [inTransaction, run_bind, run_ask]
  rcases perform .beginTransaction state with ⟨_ | transaction, begun⟩
  · rfl
  · dsimp only
    rw [run_bind, run_attempt]
    rcases (body transaction).run perform begun with ⟨_ | value, after⟩
    · rfl
    · dsimp only
      rw [run_bind, run_ask]
      rcases perform (.commit transaction) after with ⟨_ | _, last⟩
      · rfl
      · rfl

theorem asks_inTransaction {allowed : Call → Prop} {body : TransactionId → Dialogue Result}
    (begins : allowed .beginTransaction)
    (ends : ∀ transaction, allowed (.commit transaction) ∧ allowed (.rollback transaction))
    (asks : ∀ transaction, (body transaction).Asks allowed) :
    (inTransaction body).Asks allowed := by
  refine (asks_ask begins).bind fun transaction => (asks transaction).attempt.bind ?_
  rintro (failure | value)
  · exact (asks_ask (ends transaction).2).attempt.bind fun _ => trivial
  · exact (asks_ask (ends transaction).1).bind fun _ => trivial

end Dialogue

end RecordGraph
