import RecordGraph.Proofs.Engine.Effect
import RecordGraph.Proofs.Engine.Handing
import RecordGraph.Proofs.Engine.Place
import RecordGraph.Proofs.Graph.Validation

namespace RecordGraph

/-! Nodes that are gone for good. After a commit that has deleted a node nobody has the number of the
node, and the counter has gone past it, so that nobody gets it again. What other transactions have
staged for the node does not pass the check any more. -/

namespace Graph

variable {graph : Graph} {node : NodeId}

theorem hasNode_deleteNode (graph : Graph) (node : NodeId) :
    (graph.perform (.deleteNode node)).hasNode node = false := by
  rw [← Bool.not_eq_true, ← picture_nodes_ne_none, picture_perform]
  simp [Deed.perform]

/-- Among writes that are possible and create new nodes only, nothing comes after the deletion of a
node that brings it back. The node has been there, or one of the writes has created it. -/
theorem absent_of_deletes {writes : List Write} (deletes : .deleteNode node ∈ writes)
    (possible : graph.picture.Throughout Deed.Possible (writes.map .write))
    (new : ∀ node ∈ Write.allCreated writes, graph.hasNode node = false)
    (once : (Write.allCreated writes).Nodup) :
    (graph.performAll writes).hasNode node = false ∧
      (graph.hasNode node = true ∨ node ∈ Write.allCreated writes) := by
  rcases List.append_of_mem deletes with ⟨before, later, rfl⟩
  have created : Write.allCreated (before ++ .deleteNode node :: later) =
      Write.allCreated before ++ Write.allCreated later := Write.allCreated_append _ _
  rw [List.map_append, Picture.throughout_append, ← picture_performAll] at possible
  have there := hasNode_of_performAll (picture_nodes_ne_none.1 possible.2.1)
  rw [created] at new once ⊢
  have gone : node ∉ Write.allCreated later := by
    intro again
    rcases there with old | own
    · exact Bool.false_ne_true ((new node (List.mem_append_right _ again)).symm.trans old)
    · exact (List.nodup_append'.1 once).2.2 own again
  refine ⟨?_, there.imp_right (List.mem_append_left _)⟩
  rw [← Bool.not_eq_true, performAll_append, performAll_cons]
  intro present
  rcases hasNode_of_performAll present with left | again
  · exact Bool.false_ne_true ((hasNode_deleteNode _ node).symm.trans left)
  · exact gone again

end Graph

namespace Engine

variable {engine : Engine} {node : NodeId}

/-! ## Numbering with failures -/

theorem stage_error {id : TransactionId} {step : Step} {failure : Failure}
    (failed : (engine.stage id step).1 = .error failure) : (engine.stage id step).2 = engine := by
  rw [stage] at failed ⊢
  cases found : engine.transactions[id]? with
  | none => rfl
  | some transaction =>
      rw [found] at failed
      dsimp only at failed ⊢
      rcases engine.stageIn_cases step transaction with
        ⟨failure, outcome⟩ | ⟨-, outcome⟩ | ⟨-, staged, write, -, -, outcome⟩
      · rw [outcome]
      · rw [outcome] at failed
        cases failed
      · rw [outcome] at failed
        cases failed

theorem Numbered.perform (numbered : engine.Numbered) {call : Call}
    (room : engine.nextNode.toNat + engine.allocations call < 2 ^ 64) :
    (engine.perform call).2.Numbered := by
  have free (cost : (Event.call call).cost = 0) : (engine.perform call).2.Numbered := by
    refine (numbered.change (.call call) ?_).1
    rw [cost]
    exact engine.nextNode.toNat_lt
  cases call with
  | stage id step =>
      cases step with
      | createNode =>
          cases outcome : (engine.stage id .createNode).1 with
          | ok created =>
              rw [allocations, outcome] at room
              exact (numbered.stage id .createNode room).1
          | error failure =>
              rw [Engine.perform, stage_error outcome]
              exact numbered
      | _ => exact free rfl
  | executeBatch batch =>
      rcases engine.executeBatch_cases batch with
        ⟨failure, next, count, -, outcome⟩ | ⟨next, -, outcome⟩
      · have later := nextNode_perform (.executeBatch batch) engine
        refine numbered.of_same ?_ ?_ fun id transaction found => ?_
        · rw [Engine.perform, outcome]
          rfl
        · rw [later, UInt64.le_iff_toNat_le, toNat_add_ofNat room]
          exact Nat.le_add_right _ _
        · rwa [Engine.perform, transactions_executeBatch] at found
      · rw [allocations_executeBatch (congrArg Prod.fst outcome)] at room
        exact (numbered.executeBatch batch room).1
  | _ => exact free rfl

/-! ## Nodes that nobody has -/

/-- Nobody has the number, and nobody will get it. -/
structure Retired (node : NodeId) (engine : Engine) : Prop where
  unused : ¬ engine.InUse node
  passed : node < engine.nextNode

theorem Retired.absent (retired : engine.Retired node) : engine.graph.hasNode node = false := by
  rw [← Bool.not_eq_true]
  exact fun there => retired.unused (.inl there)

theorem Retired.perform (retired : engine.Retired node) {call : Call}
    (room : engine.nextNode.toNat + engine.allocations call < 2 ^ 64) :
    (engine.perform call).2.Retired node where
  unused inUse := by
    rcases inUse_perform room inUse with before | ⟨above, -⟩
    · exact retired.unused before
    · exact UInt64.not_lt.2 above retired.passed
  passed := by
    have before := UInt64.lt_iff_toNat_lt.1 retired.passed
    rw [nextNode_perform, UInt64.lt_iff_toNat_lt, toNat_add_ofNat room]
    exact Nat.lt_add_right _ before

theorem Retired.forget (retired : engine.Retired node) (id : TransactionId) :
    (engine.forget id).Retired node :=
  ⟨fun inUse => retired.unused inUse.of_forget, retired.passed⟩

theorem Retired.change (retired : engine.Retired node) {event : Event}
    (room : engine.nextNode.toNat + event.allocations engine < 2 ^ 64) :
    (event.change engine).Retired node := by
  cases event with
  | call made => exact retired.perform room
  | drop id => exact retired.forget id
  | shutdown disk =>
      dsimp only [Event.change, Engine.shutdown]
      split
      · exact retired
      · exact ⟨retired.unused, retired.passed⟩

/-- An engine that goes on with the graph of another does not get back what the other had deleted. -/
theorem Retired.reopen (retired : engine.Retired node) {location : Option String} {next : NodeId}
    (same : (ofGraph location engine.graph next).nextNode = engine.nextNode) :
    (ofGraph location engine.graph next).Retired node where
  unused := by
    rintro (there | ⟨id, transaction, found, -⟩)
    · exact retired.unused (.inl there)
    · simp [ofGraph] at found
  passed := by
    rw [same]
    exact retired.passed

theorem retired_commit (numbered : engine.Numbered) {id : TransactionId}
    {transaction : Transaction} (found : engine.transactions[id]? = some transaction)
    (deletes : .deleteNode node ∈ transaction.writes) (done : (engine.commit id).1 = .ok ()) :
    (engine.commit id).2.Retired node := by
  rw [commit, found] at done ⊢
  dsimp only at done ⊢
  rcases (engine.forget id).commitIn_cases transaction with ⟨failure, outcome⟩ | ⟨checked, outcome⟩
  · rw [outcome] at done
    cases done
  rw [outcome]
  rcases Graph.absent_of_deletes deletes
    (Transaction.possible_of_checkAll (Transaction.Standing.sound_empty _) checked)
    (fun node member => (numbered.staged id transaction found node member).2)
    (numbered.once id transaction found) with ⟨absent, before⟩
  constructor
  · rintro (there | ⟨other, another, standing, member⟩)
    · exact Bool.false_ne_true (absent.symm.trans there)
    · dsimp only [Engine.forget] at standing
      rw [Std.ExtTreeMap.getElem?_erase] at standing
      split at standing
      · cases standing
      · rename_i different
        rw [Std.LawfulEqCmp.compare_eq_iff_eq] at different
        rcases before with old | own
        · have new := (numbered.staged other another standing node member).2
          exact Bool.false_ne_true (new.symm.trans old)
        · exact numbered.apart id other transaction another different found standing own member
  · rcases before with old | own
    · exact numbered.graph node old
    · exact (numbered.staged id transaction found node own).1

end Engine

end RecordGraph
