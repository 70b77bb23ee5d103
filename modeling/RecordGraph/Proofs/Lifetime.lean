import RecordGraph.Proofs.Engine.Allocation
import RecordGraph.Proofs.Engine.Effect
import RecordGraph.Proofs.Turn
import RecordGraph.Proofs.Upholding

namespace RecordGraph

/-! Engines over their lifetimes. The engines of a host are made, opened, called at hand and through
services, and shut down, in any order and with any number of them over one directory, while the disk
may fail at any moment. Their graphs stay sound, and the numbers of their nodes stay below the
counters. -/

namespace Host

def allocations : Turn → Host → Nat
  | .call id call, host => (host.engine id).allocations call
  | .request service request, host =>
      match host.passed service request with
      | none => 0
      | some (id, call) => (host.engine id).allocations call
  | _, _ => 0

def allocated : List Turn → Host → Nat
  | [], _ => 0
  | turn :: later, host => host.allocations turn + allocated later (host.turn turn)

end Host

/-! ## Health -/

/-- The graph is sound, and the counter has gone past its nodes but not past a bound. -/
structure Snapshot.Healthy (bound : Nat) (snapshot : Snapshot) : Prop where
  sound : snapshot.graph.Sound
  started : 1 ≤ snapshot.nextNode
  below : ∀ node, snapshot.graph.hasNode node = true → 1 ≤ node ∧ node < snapshot.nextNode
  bounded : snapshot.nextNode.toNat ≤ bound

/-- The graph is sound, and the counter has gone past all numbers in use but not past a bound. -/
structure Engine.Healthy (bound : Nat) (engine : Engine) : Prop where
  sound : engine.graph.Sound
  counted : engine.Counted
  bounded : engine.nextNode.toNat ≤ bound

abbrev Host.Healthy (bound : Nat) (host : Host) : Prop :=
  host.Upholds (Engine.Healthy bound) (Snapshot.Healthy bound)

variable {bound : Nat}

theorem Snapshot.Healthy.mono {snapshot : Snapshot} (healthy : snapshot.Healthy bound) {more : Nat}
    (most : bound ≤ more) : snapshot.Healthy more :=
  { healthy with bounded := Nat.le_trans healthy.bounded most }

namespace Engine

variable {engine : Engine}

theorem Healthy.mono (healthy : engine.Healthy bound) {more : Nat} (most : bound ≤ more) :
    engine.Healthy more :=
  { healthy with bounded := Nat.le_trans healthy.bounded most }

theorem Healthy.snapshot (healthy : engine.Healthy bound) : engine.snapshot.Healthy bound where
  sound := healthy.sound
  started := healthy.counted.started
  below node there := healthy.counted.inUse node (.inl there)
  bounded := healthy.bounded

theorem healthy_ofGraph {snapshot : Snapshot} (healthy : snapshot.Healthy bound)
    (location : Option String) :
    (ofGraph location snapshot.graph snapshot.nextNode).Healthy bound := by
  obtain ⟨counted, next⟩ := counted_ofGraph location healthy.started healthy.below
  refine ⟨healthy.sound, counted, ?_⟩
  rw [next]
  exact healthy.bounded

theorem healthy_new (least : 1 ≤ bound) (graph : engine.graph = {}) (next : engine.nextNode = 1)
    (transactions : engine.transactions = ∅) : engine.Healthy bound where
  sound := graph ▸ Graph.sound_empty
  counted := {
    started := UInt64.le_of_eq next.symm
    inUse := by
      rintro node (there | ⟨id, transaction, found, -⟩)
      · simp [graph, Graph.hasNode] at there
      · simp [transactions] at found }
  bounded := by
    rw [next]
    exact least

theorem Healthy.perform (healthy : engine.Healthy bound) {call : Call}
    (room : bound + engine.allocations call < 2 ^ 64) :
    (engine.perform call).2.Healthy (bound + engine.allocations call) := by
  have own := Nat.add_le_add_right healthy.bounded (engine.allocations call)
  obtain ⟨counted, next⟩ := healthy.counted.perform (Nat.lt_of_le_of_lt own room)
  exact ⟨sound_perform healthy.sound call, counted, next ▸ own⟩

theorem Healthy.forget (healthy : engine.Healthy bound) (id : TransactionId) :
    (engine.forget id).Healthy bound :=
  ⟨healthy.sound, healthy.counted.forget id, healthy.bounded⟩

/-- What is healthy stays healthy from one opening to the next. -/
theorem lasting_healthy (least : 1 ≤ bound) :
    Lasting (Engine.Healthy bound) (Snapshot.Healthy bound) where
  new location := by
    have next : (ofGraph none {} 0).nextNode = 1 := by decide
    exact healthy_new least rfl next rfl
  snapshot _ healthy := healthy.snapshot
  opened location _ healthy := healthy_ofGraph healthy location
  closed _ healthy :=
    ⟨healthy.sound, ⟨healthy.counted.started, healthy.counted.inUse⟩, healthy.bounded⟩

end Engine

namespace Host

variable {host : Host}

theorem Healthy.mono (healthy : host.Healthy bound) {more : Nat} (most : bound ≤ more) :
    host.Healthy more :=
  Upholds.mono healthy (fun _ own => own.mono most) fun _ own => own.mono most

theorem Healthy.engine (healthy : host.Healthy bound) (least : 1 ≤ bound) (id : EngineId) :
    (host.engine id).Healthy bound := by
  rw [Host.engine]
  cases found : host.engines[id]? with
  | none => exact Engine.healthy_new least rfl rfl rfl
  | some engine => exact healthy.engines engine (List.mem_of_getElem? found)

theorem Healthy.respond (healthy : host.Healthy bound) (least : 1 ≤ bound)
    {service : ServiceId} {request : Http.Request}
    (room : bound + host.allocations (.request service request) < 2 ^ 64) :
    (host.respond service request).2.Healthy
      (bound + host.allocations (.request service request)) := by
  have engines := host.engines_respond service request
  have disk := host.disk_respond service request
  rw [allocations] at room ⊢
  cases through : host.passed service request with
  | none =>
      rw [through] at engines
      exact ⟨engines ▸ healthy.engines, disk ▸ healthy.files⟩
  | some found =>
      rcases found with ⟨id, call⟩
      rw [through] at engines room
      exact Upholds.of_set (healthy.mono (Nat.le_add_right _ _))
        ((healthy.engine least id).perform room) engines disk

/-! ## Histories -/

theorem Healthy.turn (healthy : host.Healthy bound) (least : 1 ≤ bound) {turn : Turn}
    (room : bound + host.allocations turn < 2 ^ 64) :
    (host.turn turn).Healthy (bound + host.allocations turn) := by
  cases turn with
  | create => exact healthy.addEngine (Engine.healthy_new least rfl rfl rfl)
  | openAt directory => exact healthy.openEngine (Engine.lasting_healthy least) directory
  | call id call =>
      exact Upholds.setEngine (healthy.mono (Nat.le_add_right _ _)) id
        ((healthy.engine least id).perform room)
  | request service request => exact healthy.respond least room
  | drop id transaction => exact healthy.setEngine id ((healthy.engine least id).forget transaction)
  | shutDown id => exact healthy.shutdownEngine (Engine.lasting_healthy least) id

theorem Healthy.turns (healthy : host.Healthy bound) (least : 1 ≤ bound) {turns : List Turn}
    (room : bound + host.allocated turns < 2 ^ 64) :
    (host.turns turns).Healthy (bound + host.allocated turns) := by
  induction turns generalizing host bound with
  | nil => exact healthy
  | cons turn later induction =>
      rw [allocated, ← Nat.add_assoc] at room ⊢
      exact induction
        (healthy.turn least (Nat.lt_of_le_of_lt (Nat.le_add_right _ _) room))
        (Nat.le_trans least (Nat.le_add_right _ _)) room

/-- Whatever is done with the engines of a host that has started without any engine and any
snapshot, and whatever goes wrong on its disk: as long as the numbers for nodes do not run out, the
indexes of every engine lead to nodes that exist and hold nothing empty, and every node has a number
from one on and below the next number. -/
theorem sound_turns (unused : host.engines = [])
    (blank : host.disk.tree.Bears Snapshot.fileName fun _ => False) (turns : List Turn)
    (room : 1 + host.allocated turns < 2 ^ 64) (id : EngineId) :
    ((host.turns turns).engine id).graph.Sound ∧
      ∀ node, ((host.turns turns).engine id).graph.hasNode node = true →
        1 ≤ node ∧ node < ((host.turns turns).engine id).nextNode := by
  have fresh : host.Healthy 1 := {
    engines := fun engine member => by
      rw [unused] at member
      cases member
    files := fun location file last standing => (blank location file last standing).elim }
  have healthy := (fresh.turns (Nat.le_refl 1) room).engine (Nat.le_add_right _ _) id
  exact ⟨healthy.sound, fun node there => healthy.counted.inUse node (.inl there)⟩

def frail : Host := { disk := { mishaps := List.replicate 9 none ++ [some 3] } }

/-- A node is stored, and one that has been created in a dropped transaction is not. The graph is
opened again, gets a node in an index, and then cannot be saved. -/
def lifetimes : List Turn := [
  .openAt "/g",
  .call 0 (.executeBatch [.createNode ∅]),
  .call 0 .beginTransaction,
  .call 0 (.stage 2 .createNode),
  .drop 0 2,
  .shutDown 0,
  .openAt "/g",
  .call 1 (.createIndex "by"),
  .call 1 (.executeBatch [.createNode ∅, .indexAdd "by" (.job 0) "key" "k"]),
  .shutDown 1]

theorem sound_turns_reopened :
    ((frail.turns lifetimes).engine 1).graph.nodes.keys = [1, 3] ∧
      ((frail.turns lifetimes).engine 1).graph.Sound ∧
      ∀ node, ((frail.turns lifetimes).engine 1).graph.hasNode node = true →
        1 ≤ node ∧ node < ((frail.turns lifetimes).engine 1).nextNode := by
  have blank := FileTree.bears_empty Snapshot.fileName fun _ => False
  exact ⟨by decide +kernel, sound_turns rfl blank lifetimes (by decide +kernel) 1⟩

end Host

end RecordGraph
