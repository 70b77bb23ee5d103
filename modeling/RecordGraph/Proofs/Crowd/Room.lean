import RecordGraph.Proofs.Crowd.Basic
import RecordGraph.Proofs.Engine.Allocation

namespace RecordGraph

/-! Room for many at work. Every transaction uses up a number, and every node; both are counted with
64 bits. No errand creates more than one node with a call, so there is room for as many moves as there
are numbers left. -/

/-! ## How many nodes an errand creates -/

def Call.Frugal (call : Call) : Prop := ∀ engine : Engine, engine.allocations call ≤ 1

namespace Engine

theorem cost_tried_le (created : List (Option NodeId)) (jobs : List Job) (transaction : Transaction)
    (engine : Engine) : (tried created jobs transaction engine).cost ≤ Batch.cost jobs := by
  induction jobs generalizing created transaction engine with
  | nil => exact Nat.le_refl _
  | cons job jobs induction =>
      rw [tried]
      split
      · exact Nat.add_le_add_left (Nat.zero_le _) _
      · exact Nat.add_le_add_left (induction _ _ _) _

end Engine

namespace Call

theorem frugal_of_single {call : Call} (single : ∀ batch, call ≠ .executeBatch batch) :
    call.Frugal := by
  intro engine
  cases call with
  | executeBatch batch => exact absurd rfl (single batch)
  | stage id step =>
      cases step with
      | createNode =>
          rw [Engine.allocations]
          split <;> omega
      | _ => exact Nat.zero_le _
  | _ => exact Nat.zero_le _

theorem frugal_executeBatch {batch : Batch} (few : batch.cost ≤ 1) :
    (executeBatch batch).Frugal := by
  intro engine
  rw [Engine.allocations]
  split
  · exact Nat.zero_le _
  · exact Nat.le_trans (Engine.cost_tried_le [] batch {} engine.begun) few

theorem frugal_of_reads {call : Call} (reads : call.reads = true) : call.Frugal := by
  refine frugal_of_single ?_
  rintro batch rfl
  cases reads

end Call

namespace KeyIndex

open Dialogue

theorem cost_insertBatch (key : String) (fields : FieldMap) (keys : KeyIndex) :
    (keys.insertBatch key fields).cost = 1 := by
  have settings (list : List (String × Bytes)) :
      Batch.cost (list.map fun field => .setProperty (.job 0) field.1 (.ofField field.2)) = 0 := by
    induction list with
    | nil => rfl
    | cons field fields induction => exact (Nat.zero_add _).trans induction
  exact congrArg (1 + ·) ((Nat.zero_add _).trans (settings fields.toList))

theorem Encloses.frugal {Result : Type} {dialogue : Dialogue Result}
    (encloses : Encloses dialogue) : dialogue.Asks Call.Frugal := by
  rcases encloses with ⟨body, rfl, asks⟩
  have single {call : Call} (plain : ∀ batch, call ≠ .executeBatch batch) : call.Frugal :=
    Call.frugal_of_single plain
  refine asks_inTransaction (single (by simp)) (fun id => ⟨single (by simp), single (by simp)⟩) ?_
  intro id
  refine (asks id).mono ?_
  rintro call ⟨step, rfl⟩
  exact single (by simp)

end KeyIndex

/-- No errand creates more than one node with one call. -/
theorem Errand.frugal (errand : Errand) (binding : Binding) :
    (errand.dialogue binding).Asks Call.Frugal := by
  have consults {Result : Type} {dialogue : Dialogue Result}
      (asks : dialogue.Asks binding.keys.Consults) : dialogue.Asks Call.Frugal :=
    asks.mono fun call consults => Call.frugal_of_reads consults.1
  have about {key : String} {action : NodeId → Dialogue Unit}
      (encloses : ∀ node, KeyIndex.Encloses (action node)) :
      (Record.withNode key binding action >>= fun done => pure done.isSome).Asks Call.Frugal := by
    refine .bind (.bind (consults (KeyIndex.asks_lookup key binding.keys)) ?_) fun _ => trivial
    rintro (_ | node)
    · trivial
    · exact (encloses node).frugal.bind fun _ => trivial
  cases errand with
  | insert key fields =>
      unfold dialogue Record.insert KeyIndex.insertNode
      split
      · exact (KeyIndex.encloses_insertStepwise key fields binding.keys).frugal
      · exact (KeyIndex.encloses_insertStepwise key fields binding.keys).frugal
      · have few := Nat.le_of_eq (KeyIndex.cost_insertBatch key fields binding.keys)
        exact (Dialogue.asks_ask (Call.frugal_executeBatch few)).bind fun _ => trivial
  | update key fields => exact about fun node => KeyIndex.encloses_updateNode node key fields _
  | delete key => exact about fun node => KeyIndex.encloses_deleteNode node key _
  | read key requested into => exact consults (Record.consults_read key requested)
  | scan start count requested into => exact consults (Record.consults_scan start count requested)

namespace Crowd

def allocations (move : Move) (crowd : Crowd) : Nat :=
  match crowd.call? move with
  | none => 0
  | some call => crowd.engine.allocations call

/-- There are numbers left, for transactions and for nodes. -/
structure Fits (crowd : Crowd) (move : Move) : Prop where
  fresh : crowd.Fresh
  room : crowd.engine.nextNode.toNat + crowd.allocations move < 2 ^ 64

theorem fresh_of_few {crowd : Crowd} {moves : List Move}
    (below : ∀ id ∈ crowd.engine.transactions, id < crowd.engine.nextTransaction)
    (few : crowd.engine.nextTransaction.toNat + moves.length < 2 ^ 64) :
    Throughout (fun crowd _ => crowd.Fresh) moves crowd := by
  induction moves generalizing crowd with
  | nil => trivial
  | cons move moves induction =>
      rw [List.length_cons] at few
      have fresh : crowd.Fresh := by
        rw [Fresh, ← Option.not_isSome_iff_eq_none, ← Std.ExtTreeMap.mem_iff_isSome_getElem?]
        exact fun member => absurd rfl (UInt64.ne_of_lt (below _ member))
      refine ⟨fresh, ?_⟩
      rcases (crowd.steps_step move).asks with ⟨same, -⟩ | ⟨asker, call, -, same, -⟩
      · refine induction (same ▸ below) ?_
        rw [same]
        omega
      · rcases crowd.engine.below_perform below (by omega) call with ⟨later, least⟩
        refine induction (same ▸ later) ?_
        rw [same]
        omega

def Frugal (crowd : Crowd) : Prop :=
  ∀ (number : Nat) (task : Task), crowd.tasks[number]? = some task → task.rest.Asks Call.Frugal

variable {crowd later : Crowd} {move : Move} {moves : List Move}

theorem Frugal.step (frugal : crowd.Frugal) (steps : Steps crowd move later) : later.Frugal := by
  cases steps with
  | idle => exact frugal
  | read call => exact frugal
  | start binding errand =>
      intro number task found
      rcases of_getElem?_append found with before | ⟨-, rfl⟩
      · exact frugal number task before
      · exact errand.frugal binding
  | advance number binding errand call next found =>
      intro other task standing
      rcases of_set standing with ⟨-, rfl⟩ | ⟨-, before⟩
      · exact (frugal number _ found).2 _
      · exact frugal other task before

theorem Frugal.allocations_le (frugal : crowd.Frugal) (move : Move) :
    crowd.allocations move ≤ 1 := by
  rw [allocations]
  cases makes : crowd.call? move with
  | none => exact Nat.zero_le _
  | some call =>
      suffices call.Frugal from this crowd.engine
      cases move with
      | start binding errand => cases makes
      | read asked =>
          cases makes
          exact Call.frugal_of_reads asked.2
      | advance number =>
          rw [call?] at makes
          split at makes
          · rename_i found
            cases makes
            exact (frugal number _ found).1
          · cases makes

theorem Frugal.room (frugal : crowd.Frugal)
    (few : crowd.engine.nextNode.toNat + moves.length < 2 ^ 64) :
    Throughout (fun crowd move => crowd.engine.nextNode.toNat + crowd.allocations move < 2 ^ 64)
      moves crowd := by
  induction moves generalizing crowd with
  | nil => trivial
  | cons move moves induction =>
      rw [List.length_cons] at few
      have least := frugal.allocations_le move
      have steps := crowd.steps_step move
      refine ⟨by omega, induction (frugal.step steps) ?_⟩
      rcases steps.asks with ⟨same, -⟩ | ⟨asker, call, makes, same, -⟩
      · rw [same]
        omega
      · rw [allocations, makes] at least
        dsimp only at least
        rw [same, Engine.nextNode_perform, toNat_add_ofNat (by omega)]
        omega

theorem fits_of_few (frugal : crowd.Frugal)
    (below : ∀ id ∈ crowd.engine.transactions, id < crowd.engine.nextTransaction)
    (few : crowd.engine.nextTransaction.toNat + moves.length < 2 ^ 64)
    (room : crowd.engine.nextNode.toNat + moves.length < 2 ^ 64) : Throughout Fits moves crowd :=
  (fresh_of_few below few).join (frugal.room room) fun _ _ fresh left => ⟨fresh, left⟩

end Crowd

end RecordGraph
