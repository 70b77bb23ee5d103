import RecordGraph.Proofs.Engine.Footing
import RecordGraph.Proofs.Engine.Handing
import RecordGraph.Proofs.Engine.Retirement

namespace RecordGraph

/-! Pending transactions. Whatever happens on an engine, an open transaction has been open before,
has just begun, or has got one more write that was admitted; so what holds of every transaction is
proved write by write. -/

namespace Engine

variable {engine : Engine} {id : TransactionId} {transaction : Transaction}

theorem stageIn_notes (step : Step) (transaction : Transaction) (engine : Engine) :
    (∃ failure, engine.stageIn step transaction = (.error failure, engine)) ∨
      ∃ created write count, transaction.Admits engine.graph engine.nextNode write ∧
        engine.stageIn step transaction =
          (.ok (created, transaction.note write), engine.skip count) := by
  rw [stageIn]
  split
  · exact .inl ⟨_, rfl⟩
  cases done : transaction.stage engine.graph engine.nextNode step with
  | error failure => exact .inl ⟨failure, rfl⟩
  | ok answer =>
      rcases answer with ⟨created, staged⟩
      rcases Transaction.stage_notes done with ⟨write, -, -, admits, rfl⟩
      cases created with
      | none => exact .inr ⟨none, write, 0, admits, by rw [skip_zero]⟩
      | some node => exact .inr ⟨some node, write, 1, admits, rfl⟩

theorem stage_notes (open_ : engine.transactions[id]? = some transaction) (step : Step) :
    (engine.stage id step).2 = engine ∨
      ∃ write count, transaction.Admits engine.graph engine.nextNode write ∧
        (engine.stage id step).2 = (engine.skip count).hold id (transaction.note write) := by
  rw [stage, open_]
  dsimp only
  rcases engine.stageIn_notes step transaction with
    ⟨failure, outcome⟩ | ⟨created, write, count, admits, outcome⟩
  · rw [outcome]
    exact .inl rfl
  · rw [outcome]
    exact .inr ⟨write, count, admits, rfl⟩

end Engine

namespace Event

variable {engine : Engine} {id : TransactionId} {staged : Transaction}

/-- Everything that an event can do to an open transaction. -/
theorem pending {event : Event} (found : (event.change engine).transactions[id]? = some staged) :
    engine.transactions[id]? = some staged ∨
      (event = .call .beginTransaction ∧ staged = {}) ∨
      ∃ before write, engine.transactions[id]? = some before ∧
        before.Admits engine.graph engine.nextNode write ∧ staged = before.note write := by
  have elsewhere {call : Call} (other : call.transaction? ≠ some id)
      (begins : call ≠ .beginTransaction)
      (found : (engine.perform call).2.transactions[id]? = some staged) :
      engine.transactions[id]? = some staged := by
    rwa [engine.transactions_perform id other fun same => absurd same begins] at found
  have finished {call : Call} {own : TransactionId} (about : call.transaction? = some own)
      (finishes : call.finishes = true) (begins : call ≠ .beginTransaction)
      (found : (engine.perform call).2.transactions[id]? = some staged) :
      engine.transactions[id]? = some staged := by
    by_cases same : own = id
    · subst same
      rw [engine.transactions_finished own about finishes] at found
      cases found
    · exact elsewhere (by simpa [about] using same) begins found
  cases event with
  | drop other =>
      rw [change, Engine.forget, Std.ExtTreeMap.getElem?_erase] at found
      split at found
      · cases found
      · exact .inl found
  | shutdown disk =>
      dsimp only [change, Engine.shutdown] at found
      split at found
      all_goals exact .inl found
  | call made =>
      rw [change] at found
      cases made with
      | beginTransaction =>
          rw [Engine.perform, Engine.beginTransaction] at found
          split at found
          · exact .inl found
          · rw [Std.ExtTreeMap.getElem?_insert] at found
            split at found
            · exact .inr (.inl ⟨rfl, (Option.some.inj found).symm⟩)
            · exact .inl found
      | stage own step =>
          by_cases same : own = id
          · subst same
            cases open_ : engine.transactions[own]? with
            | none =>
                rw [engine.perform_absent own rfl open_, open_] at found
                cases found
            | some before =>
                rw [Engine.perform] at found
                rcases Engine.stage_notes open_ step with still | ⟨write, count, admits, noted⟩
                · rw [still, open_] at found
                  exact .inl found
                · rw [noted, Engine.hold, Std.ExtTreeMap.getElem?_insert_self] at found
                  exact .inr (.inr ⟨before, write, rfl, admits, (Option.some.inj found).symm⟩)
          · exact .inl (elsewhere (by simpa [Call.transaction?] using same) (by simp) found)
      | commit own => exact .inl (finished rfl rfl (by simp) found)
      | rollback own => exact .inl (finished rfl rfl (by simp) found)
      | _ => exact .inl (elsewhere (by simp [Call.transaction?]) (by simp) found)

theorem hasIndex_change (event : Event) {index : String}
    (there : engine.graph.hasIndex index = true) :
    (event.change engine).graph.hasIndex index = true := by
  cases event with
  | drop other => exact there
  | shutdown disk =>
      dsimp only [change, Engine.shutdown]
      split
      all_goals exact there
  | call made =>
      rw [change]
      rcases engine.graph_perform made with same | ⟨-, -, ⟨writes, -, after⟩ | ⟨name, after⟩⟩
      · rw [same]
        exact there
      · rw [after, Graph.hasIndex_performAll]
        exact there
      · rw [after, Graph.hasIndex, Std.ExtTreeMap.contains_insert, Bool.or_eq_true]
        exact .inr there

end Event

namespace Engine

variable {engine : Engine}

/-! ## Orderly transactions -/

def Orderly (engine : Engine) : Prop :=
  ∀ (id : TransactionId) (transaction : Transaction),
    engine.transactions[id]? = some transaction → transaction.Orderly engine.graph

theorem orderly_of_empty (empty : engine.transactions = ∅) : engine.Orderly := by
  intro id transaction found
  rw [empty, Std.ExtTreeMap.getElem?_empty] at found
  cases found

theorem Orderly.change (orderly : engine.Orderly) (event : Event) :
    (event.change engine).Orderly := by
  intro id staged found
  have before : staged.Orderly engine.graph := by
    rcases event.pending found with same | ⟨-, rfl⟩ | ⟨before, write, open_, admits, rfl⟩
    · exact orderly id staged same
    · exact Transaction.orderly_empty engine.graph
    · exact (orderly id before open_).note admits
  exact before.of_indexes fun index there => event.hasIndex_change there

theorem Orderly.follow (orderly : engine.Orderly) (ledger : Ledger) (events : List Event) :
    (engine.follow ledger events).1.Orderly := by
  induction events generalizing engine ledger with
  | nil => exact orderly
  | cons event events induction => exact induction (orderly.change event) _

/-! ## Counters that are ahead -/

structure Ahead (engine : Engine) : Prop where
  numbered : engine.Numbered
  behind : ∀ (id : TransactionId) (transaction : Transaction),
    engine.transactions[id]? = some transaction → transaction.Behind engine.nextNode

theorem ahead_of_empty (empty : engine.transactions = ∅) (numbered : engine.Numbered) :
    engine.Ahead := by
  refine ⟨numbered, fun id transaction found => ?_⟩
  rw [empty, Std.ExtTreeMap.getElem?_empty] at found
  cases found

theorem Numbered.event (numbered : engine.Numbered) {event : Event}
    (room : engine.nextNode.toNat + event.allocations engine < 2 ^ 64) :
    (event.change engine).Numbered := by
  cases event with
  | call made => exact numbered.perform room
  | drop other => exact numbered.forget other
  | shutdown disk => exact (numbered.change (.shutdown disk) engine.nextNode.toNat_lt).1

namespace Ahead

theorem change (ahead : engine.Ahead) (orderly : engine.Orderly) {event : Event}
    (room : engine.nextNode.toNat + event.allocations engine < 2 ^ 64) :
    (event.change engine).Ahead where
  numbered := ahead.numbered.event room
  behind id staged found := by
    have more : engine.nextNode ≤ (event.change engine).nextNode := by
      rw [event.nextNode_change, UInt64.le_iff_toNat_le, toNat_add_ofNat room]
      exact Nat.le_add_right _ _
    refine Transaction.Behind.mono ?_ more
    rcases event.pending found with same | ⟨-, rfl⟩ | ⟨before, write, open_, admits, rfl⟩
    · exact ahead.behind id staged same
    · exact Transaction.behind_empty _
    · refine (ahead.behind id before open_).note admits fun node sees => ?_
      rcases ((orderly id before open_).sees_iff.1 sees).2 with creates | there
      · exact (ahead.numbered.staged id before open_ node (Write.mem_allCreated.2 creates)).1
      · exact ahead.numbered.graph node there

theorem follow (ahead : engine.Ahead) (orderly : engine.Orderly) (ledger : Ledger)
    (events : List Event)
    (room : engine.nextNode.toNat + engine.allocatedThrough events < 2 ^ 64) :
    (engine.follow ledger events).1.Ahead := by
  induction events generalizing engine ledger with
  | nil => exact ahead
  | cons event events induction =>
      rw [allocatedThrough] at room
      have now : engine.nextNode.toNat + event.allocations engine < 2 ^ 64 := by omega
      refine induction (ahead.change orderly now) (orderly.change event) _ ?_
      rw [event.nextNode_change, toNat_add_ofNat now]
      omega

end Ahead

end Engine

end RecordGraph
