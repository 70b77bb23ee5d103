import RecordGraph.Proofs.Client.Modes
import RecordGraph.Proofs.Record.Change
import RecordGraph.Proofs.Record.Store
import RecordGraph.Proofs.Record.Tidy

namespace RecordGraph

/-! Engines whose graph is in order, and what an errand does there: the graph stays in order, and the
records that are kept by other keys are left alone. -/

namespace Engine

variable {keys : KeyIndex} {binding : Binding} {bound later : Nat} {engine after : Engine}
  {node : NodeId} {key : String} {fields : FieldMap}

structure Tidy (bound : Nat) (engine : Engine) : Prop where
  settled : engine.transactions = ∅
  graph : engine.graph.Tidy engine.nextNode
  started : 1 ≤ engine.nextNode
  bounded : engine.nextNode.toNat ≤ bound

theorem Tidy.mono (tidy : engine.Tidy bound) (more : bound ≤ later) : engine.Tidy later :=
  { tidy with bounded := Nat.le_trans tidy.bounded more }

theorem Tidy.absent (tidy : engine.Tidy bound) (id : TransactionId) :
    engine.transactions[id]? = none := by
  rw [tidy.settled, Std.ExtTreeMap.getElem?_empty]

/-- The graph has stayed in order, and what is kept by other keys has been left alone. -/
structure Sparing (keys : KeyIndex) (bound : Nat) (engine after : Engine) : Prop where
  tidy : after.Tidy bound
  spares : ∀ others, keys ≠ others → engine.graph.Spares others after.graph

theorem Tidy.sparing (tidy : engine.Tidy bound) (keys : KeyIndex) :
    Sparing keys bound engine engine := ⟨tidy, fun others _ => Graph.spares_refl others _⟩

namespace Tidy

/-! ## Changes of records -/

private theorem sparing_becomes (tidy : engine.Tidy bound) (settled : after.transactions = ∅)
    {writes : List Write} {next : NodeId} (becomes : Becomes engine writes next after)
    (more : engine.nextNode ≤ next) (most : next.toNat ≤ later)
    (written : (engine.graph.performAll writes).Tidy next ∧
      ∀ others, keys ≠ others → engine.graph.Spares others (engine.graph.performAll writes)) :
    Sparing keys later engine after := by
  obtain ⟨least, below⟩ := becomes.next_between more
  have started := UInt64.le_trans tidy.started least
  have bounded := Nat.le_trans (UInt64.le_iff_toNat_le.1 below) most
  cases becomes with
  | unchanged graph _ =>
      refine ⟨⟨settled, graph ▸ tidy.graph.mono least, started, bounded⟩, fun others _ => ?_⟩
      rw [graph]
      exact Graph.spares_refl others _
  | performed _ graph number =>
      obtain ⟨ordered, spares⟩ := written
      refine ⟨⟨settled, ?_, started, bounded⟩, ?_⟩
      · rw [graph, number]
        exact ordered
      · rw [graph]
        exact spares

theorem insertStepwise (tidy : engine.Tidy bound)
    (there : engine.graph.hasIndex keys.index = true) (room : bound + 1 < 2 ^ 64) (key : String)
    (fields : FieldMap) :
    Sparing keys (bound + 1) engine ((keys.insertStepwise key fields).run perform engine).2 := by
  have bounded := tidy.bounded
  have small := Nat.lt_of_le_of_lt (Nat.succ_le_succ bounded) room
  have number := toNat_add_one small
  refine tidy.sparing_becomes
    (settles_encloses (KeyIndex.encloses_insertStepwise key fields keys) _ tidy.settled)
    (becomes_insertStepwise (tidy.absent _) key fields keys) ?_ ?_
    (tidy.graph.insert there small key fields)
  · rw [UInt64.le_iff_toNat_le, number]
    exact Nat.le_succ _
  · rw [number]
    exact Nat.succ_le_succ bounded

theorem updateNode (tidy : engine.Tidy bound) (there : engine.graph.hasIndex keys.index = true)
    (member : node ∈ engine.graph.nodesUnder keys key) (fields : FieldMap) :
    Sparing keys bound engine ((keys.updateNode node key fields).run perform engine).2 :=
  tidy.sparing_becomes
    (settles_encloses (KeyIndex.encloses_updateNode node key fields keys) _ tidy.settled)
    (becomes_updateNode (tidy.absent _) node key fields keys) (UInt64.le_refl _) tidy.bounded
    (tidy.graph.update there member fields)

theorem deleteNode (tidy : engine.Tidy bound) (there : engine.graph.hasIndex keys.index = true)
    (member : node ∈ engine.graph.nodesUnder keys key) :
    Sparing keys bound engine ((keys.deleteNode node key).run perform engine).2 :=
  tidy.sparing_becomes
    (settles_encloses (KeyIndex.encloses_deleteNode node key keys) _ tidy.settled)
    (becomes_deleteNode (tidy.absent _) node key keys) (UInt64.le_refl _) tidy.bounded
    (tidy.graph.delete there member)

private theorem sparing_withNode (tidy : engine.Tidy bound) (key : String)
    {action : NodeId → Dialogue Unit}
    (acts : ∀ node ∈ engine.graph.nodesUnder binding.keys key,
      Sparing binding.keys bound engine ((action node).run perform engine).2) :
    Sparing binding.keys bound engine ((Record.withNode key binding action >>= fun done =>
      pure done.isSome).run perform engine).2 := by
  have still := tidy.sparing binding.keys
  have around : Sparing binding.keys bound engine
      ((Record.withNode key binding action).run perform engine).2 := by
    rw [Record.withNode]
    rcases run_lookup_cases key binding.keys engine with ⟨failure, failed⟩ | ⟨-, looked⟩
    · rw [Dialogue.run_bind_error failed]
      exact still
    · rw [Dialogue.run_bind_ok looked]
      cases first : (engine.graph.nodesUnder binding.keys key).toList.head? with
      | none => exact still
      | some node =>
          have acted := acts node (Std.ExtTreeSet.mem_toList.1 (List.mem_of_head? first))
          dsimp only
          rw [Dialogue.run_bind]
          generalize (action node).run perform engine = done at acted
          rcases done with ⟨failure | done, after⟩
          · exact acted
          · exact acted
  rw [Dialogue.run_bind]
  generalize (Record.withNode key binding action).run perform engine = done at around
  rcases done with ⟨failure | done, after⟩
  · exact around
  · exact around

end Tidy

end Engine

/-! ## Errands -/

namespace Errand

def isInsert : Errand → Bool
  | insert _ _ => true
  | _ => false

def changes : Errand → Bool
  | insert _ _ => true
  | update _ _ => true
  | delete _ => true
  | _ => false

/-- An errand that is not there to change records leaves the engine as it is. -/
theorem run_still {errand : Errand} (still : errand.changes = false) (binding : Binding)
    (engine : Engine) : ((errand.dialogue binding).run Engine.perform engine).2 = engine := by
  cases errand with
  | insert key fields => cases still
  | update key fields => cases still
  | delete key => cases still
  | read key requested into =>
      exact Engine.run_reads ((Record.consults_read key requested).mono fun _ => And.left)
  | scan start count requested into =>
      exact Engine.run_reads ((Record.consults_scan start count requested).mono fun _ => And.left)

end Errand

namespace Engine.Tidy

variable {binding : Binding} {bound : Nat} {engine : Engine}

theorem sparing_dialogue (tidy : engine.Tidy bound) (embedded : binding.mode = .embedded)
    (there : engine.graph.hasIndex binding.keys.index = true) (errand : Errand)
    (room : bound + (if errand.isInsert then 1 else 0) < 2 ^ 64) :
    Sparing binding.keys (bound + if errand.isInsert then 1 else 0) engine
      ((errand.dialogue binding).run perform engine).2 := by
  have still (errand : Errand) (still : errand.changes = false) :
      Sparing binding.keys bound engine ((errand.dialogue binding).run perform engine).2 := by
    rw [Errand.run_still still]
    exact tidy.sparing binding.keys
  cases errand with
  | insert key fields =>
      have stepwise : Errand.dialogue binding (.insert key fields) =
          binding.keys.insertStepwise key fields := by
        rw [Errand.dialogue, Record.insert, embedded]
        rfl
      rw [stepwise]
      exact tidy.insertStepwise there room key fields
  | update key fields =>
      exact tidy.sparing_withNode key fun node member => tidy.updateNode there member fields
  | delete key =>
      exact tidy.sparing_withNode key fun node member => tidy.deleteNode there member
  | read key requested into => exact still (.read key requested into) rfl
  | scan start count requested into => exact still (.scan start count requested into) rfl

/-! ## Beginnings and ends -/

theorem provisionIndex (tidy : engine.Tidy bound) (isOpen : engine.isClosed = false)
    {index : String} (named : index ≠ "") :
    ∃ ready, (provisionIndex index).run perform engine = (.ok (), ready) ∧ ready.Tidy bound ∧
      ready.isClosed = false ∧ ready.location = engine.location ∧
      ∀ keys, engine.graph.Spares keys ready.graph := by
  cases there : engine.graph.hasIndex index with
  | true =>
      exact ⟨engine, run_provisionIndex_present isOpen there named, tidy, isOpen, rfl,
        fun keys => Graph.spares_refl keys _⟩
  | false =>
      obtain ⟨ordered, spares⟩ := tidy.graph.createIndex there
      exact ⟨_, run_provisionIndex_absent isOpen there named, { tidy with graph := ordered }, isOpen,
        rfl, spares⟩

end Engine.Tidy

end RecordGraph
