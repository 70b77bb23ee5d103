import RecordGraph.Proofs.Engine.Outcome
import RecordGraph.Proofs.Graph.Sound

namespace RecordGraph

/-! What a call can do to the committed graph. -/

namespace Call

def changes : Call → Bool
  | createIndex _ => true
  | commit _ => true
  | executeBatch _ => true
  | _ => false

end Call

namespace Engine

/-- A call leaves the committed graph as it is, or it is one that changes the graph, succeeds, and
performs writes that have passed the check or makes an index. -/
theorem graph_perform (call : Call) (engine : Engine) :
    (engine.perform call).2.graph = engine.graph ∨
      call.changes = true ∧ (∃ answer, (engine.perform call).1 = .ok answer) ∧
        ((∃ writes, Transaction.checkAll engine.graph {} writes = .ok () ∧
            (engine.perform call).2.graph = engine.graph.performAll writes) ∨
          ∃ name, (engine.perform call).2.graph =
            { engine.graph with indexes := engine.graph.indexes.insert name {} }) := by
  cases call with
  | createIndex name =>
      dsimp only [perform, createIndex]
      split
      · exact .inl rfl
      split
      · exact .inl rfl
      split
      · exact .inl rfl
      · exact .inr ⟨rfl, ⟨(), rfl⟩, .inr ⟨name, rfl⟩⟩
  | indexGet index key value => exact .inl rfl
  | indexRange index range => exact .inl rfl
  | nodeProperty node name => exact .inl rfl
  | nodeProperties node => exact .inl rfl
  | beginTransaction =>
      dsimp only [perform, beginTransaction]
      split
      · exact .inl rfl
      · exact .inl rfl
  | stage id step =>
      rw [perform, stage]
      cases engine.transactions[id]? with
      | none => exact .inl rfl
      | some transaction =>
          rcases engine.stageIn_cases step transaction with
            ⟨failure, outcome⟩ | ⟨rfl, outcome⟩ | ⟨-, staged, write, -, -, outcome⟩
          all_goals
            dsimp only
            rw [outcome]
            exact .inl rfl
  | commit id =>
      rw [perform, commit]
      cases engine.transactions[id]? with
      | none => exact .inl rfl
      | some transaction =>
          rcases (engine.forget id).commitIn_cases transaction with
            ⟨failure, outcome⟩ | ⟨checked, outcome⟩
          · dsimp only
            rw [outcome]
            exact .inl rfl
          · dsimp only
            rw [outcome]
            exact .inr ⟨rfl, ⟨(), rfl⟩, .inl ⟨transaction.writes, checked, rfl⟩⟩
  | rollback id =>
      rw [perform, rollback]
      cases engine.transactions[id]? with
      | none => exact .inl rfl
      | some transaction => exact .inl rfl
  | executeBatch batch =>
      rcases engine.executeBatch_cases batch with
        ⟨failure, next, count, -, outcome⟩ | ⟨next, checked, outcome⟩
      · rw [perform, outcome]
        exact .inl rfl
      · rw [perform, outcome]
        exact .inr ⟨rfl, ⟨_, rfl⟩, .inl ⟨_, checked, rfl⟩⟩

/-- Whatever is called, a sound graph stays sound. -/
theorem sound_perform {engine : Engine} (sound : engine.graph.Sound) (call : Call) :
    (engine.perform call).2.graph.Sound := by
  rcases engine.graph_perform call with
    same | ⟨-, -, ⟨writes, checked, after⟩ | ⟨name, after⟩⟩
  · rw [same]
    exact sound
  · rw [after]
    exact sound.performAll checked
  · rw [after]
    exact sound.createIndex name

theorem frame_perform (call : Call) (engine : Engine) :
    (engine.perform call).2.location = engine.location ∧
      (engine.perform call).2.isClosed = engine.isClosed := by
  cases call with
  | createIndex name =>
      dsimp only [perform, createIndex]
      split
      · exact ⟨rfl, rfl⟩
      split
      · exact ⟨rfl, rfl⟩
      split
      · exact ⟨rfl, rfl⟩
      · exact ⟨rfl, rfl⟩
  | beginTransaction =>
      dsimp only [perform, beginTransaction]
      split
      · exact ⟨rfl, rfl⟩
      · exact ⟨rfl, rfl⟩
  | stage id step =>
      rw [perform, stage]
      cases engine.transactions[id]? with
      | none => exact ⟨rfl, rfl⟩
      | some transaction =>
          rcases engine.stageIn_cases step transaction with
            ⟨failure, outcome⟩ | ⟨rfl, outcome⟩ | ⟨-, staged, write, -, -, outcome⟩
          all_goals
            dsimp only
            rw [outcome]
            exact ⟨rfl, rfl⟩
  | commit id =>
      rw [perform, commit]
      cases engine.transactions[id]? with
      | none => exact ⟨rfl, rfl⟩
      | some transaction =>
          rcases (engine.forget id).commitIn_cases transaction with
            ⟨failure, outcome⟩ | ⟨-, outcome⟩
          all_goals
            dsimp only
            rw [outcome]
            exact ⟨rfl, rfl⟩
  | rollback id =>
      rw [perform, rollback]
      cases engine.transactions[id]? with
      | none => exact ⟨rfl, rfl⟩
      | some transaction => exact ⟨rfl, rfl⟩
  | executeBatch batch =>
      rcases engine.executeBatch_cases batch with
        ⟨failure, next, count, -, outcome⟩ | ⟨next, -, outcome⟩
      · rw [perform, outcome]
        exact ⟨rfl, rfl⟩
      · rw [perform, outcome]
        exact ⟨rfl, rfl⟩
  | _ => exact ⟨rfl, rfl⟩

/-- The graph of an engine that has been closed does not change any more. -/
theorem graph_perform_closed {engine : Engine} (closed : engine.isClosed = true) (call : Call) :
    (engine.perform call).2.graph = engine.graph := by
  rcases engine.graph_perform call with same | ⟨changes, ⟨answer, done⟩, -⟩
  · exact same
  cases call with
  | createIndex name =>
      rw [perform, createIndex, if_pos closed] at done
      cases done
  | commit id =>
      rw [perform, commit] at done
      cases found : engine.transactions[id]? with
      | none =>
          rw [found] at done
          cases done
      | some transaction =>
          have still : (engine.forget id).isClosed = true := closed
          rw [found] at done
          dsimp only at done
          rw [commitIn, if_pos still] at done
          cases done
  | executeBatch batch =>
      rw [perform, executeBatch, if_pos closed] at done
      cases done
  | _ => cases changes

end Engine

end RecordGraph
