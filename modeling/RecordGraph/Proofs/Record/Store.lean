import RecordGraph.Proofs.Engine.Numbering
import RecordGraph.Proofs.File.Disk
import RecordGraph.Proofs.Record.Meaning
import RecordGraph.Proofs.Snapshot

namespace RecordGraph

/-! Queues of records on a disk: what an engine keeps when it is shut down is kept by the engine
that is opened there next. -/

namespace Engine

variable {keys : KeyIndex} {queues : Queues} {engine : Engine} {directory : String}
  {disk : Disk} {bound : Nat}

/-! ## The index of the keys -/

theorem run_provisionIndex_present (isOpen : engine.isClosed = false) {index : String}
    (there : engine.graph.hasIndex index = true) (named : index ≠ "") :
    (provisionIndex index).run perform engine = (.ok (), engine) := by
  have created : engine.createIndex index = (.error (.indexExists index), engine) := by
    simp [createIndex, isOpen, named, there]
  rw [provisionIndex, Dialogue.run_bind, Dialogue.run_attempt, Dialogue.run_ask, perform, created]
  rfl

theorem Keeps.run_provisionIndex (keeps : Keeps keys queues engine) (named : keys.index ≠ "") :
    (provisionIndex keys.index).run perform engine = (.ok (), engine) :=
  run_provisionIndex_present keeps.isOpen keeps.represents.index named

theorem run_provisionIndex_absent (isOpen : engine.isClosed = false) {index : String}
    (absent : engine.graph.hasIndex index = false) (named : index ≠ "") :
    (provisionIndex index).run perform engine = (.ok (), { engine with
      graph := { engine.graph with indexes := engine.graph.indexes.insert index {} } }) := by
  have created : engine.createIndex index = (.ok (), { engine with
      graph := { engine.graph with indexes := engine.graph.indexes.insert index {} } }) := by
    simp [createIndex, isOpen, named, absent]
  rw [provisionIndex, Dialogue.run_bind, Dialogue.run_attempt, Dialogue.run_ask, perform, created]
  rfl

theorem run_provisionIndex_new (isOpen : engine.isClosed = false)
    (settled : engine.transactions = ∅) (empty : engine.graph = {}) (named : keys.index ≠ "")
    (nothing : ∀ key, queues.under key = []) :
    ∃ after, (provisionIndex keys.index).run perform engine = (.ok (), after) ∧
      Keeps keys queues after ∧ after.location = engine.location ∧
      after.nextNode = engine.nextNode := by
  have absent : engine.graph.hasIndex keys.index = false := by simp [empty, Graph.hasIndex]
  refine ⟨_, run_provisionIndex_absent isOpen absent named, ⟨isOpen, settled, ?_⟩, rfl, rfl⟩
  set graph : Graph :=
    { engine.graph with indexes := engine.graph.indexes.insert keys.index {} } with graph_eq
  have none (key : String) : graph.nodesUnder keys key = ∅ := by
    simp [graph_eq, empty, Graph.nodesUnder, NodeIndex.nodesAt]
  constructor
  · simp [graph_eq, Graph.hasIndex]
  · simp [graph_eq, empty, Graph.hasNode]
  · intro key
    dsimp only
    rw [none, nothing]
    rfl
  · intro key other node member
    dsimp only at member
    rw [none] at member
    exact absurd member Std.ExtTreeSet.not_mem_empty

/-! ## Opening again -/

theorem keeps_ofGraph {graph : Graph} {next : NodeId}
    (represents : Represents keys queues graph next) (started : 1 ≤ next)
    (location : Option String) : Keeps keys queues (ofGraph location graph next) where
  isOpen := rfl
  settled := rfl
  represents := by
    rw [nextNode_ofGraph represents.below started location]
    exact represents

end Engine

/-! ## What is on the disk -/

/-- The disk is ready to keep queues in a directory and keeps them, with nodes numbered up to a
bound: there is nothing yet, or there is a snapshot of a graph that keeps them. -/
inductive Stored (directory : String) (keys : KeyIndex) (queues : Queues) (bound : Nat)
    (disk : Disk) : Prop where
  | vacant (vacant : Disk.Vacant directory disk) (nothing : ∀ key, queues.under key = [])
      (started : 1 ≤ bound)
  | held (prepared : Disk.Prepared directory disk) (snapshot : Snapshot)
      (holds : Disk.Holds directory snapshot.encode disk) (fits : snapshot.Fits)
      (represents : Represents keys queues snapshot.graph snapshot.nextNode)
      (started : 1 ≤ snapshot.nextNode) (bounded : snapshot.nextNode.toNat ≤ bound)

structure Engine.Serves (directory : String) (keys : KeyIndex) (queues : Queues) (bound : Nat)
    (engine : Engine) : Prop where
  keeps : Engine.Keeps keys queues engine
  location : engine.location = some directory
  started : 1 ≤ engine.nextNode
  bounded : engine.nextNode.toNat ≤ bound

namespace Stored

variable {keys : KeyIndex} {queues : Queues} {directory : String} {disk : Disk} {bound : Nat}

/-- What is on a disk is kept by the engine that is opened there, once it has its index. -/
theorem openAt (stored : Stored directory keys queues bound disk) (named : keys.index ≠ "") :
    ∃ engine after ready, Engine.openAt directory disk = (.ok engine, after) ∧
      Disk.Prepared directory after ∧
      (provisionIndex keys.index).run Engine.perform engine = (.ok (), ready) ∧
      ready.Serves directory keys queues bound := by
  cases stored with
  | vacant vacant nothing started =>
      rcases vacant.open_new with ⟨after, opened, prepared⟩
      set engine := Engine.ofGraph (some directory) {} 0
      have isOpen : engine.isClosed = false := rfl
      obtain ⟨ready, provisioned, keeps, location, next⟩ :=
        Engine.run_provisionIndex_new isOpen rfl rfl named nothing
      have first : ready.nextNode = 1 := by
        rw [next]
        rfl
      refine ⟨engine, after, ready, opened, prepared, provisioned, keeps, location, ?_, ?_⟩
      · rw [first]
        exact UInt64.le_refl 1
      · rw [first]
        exact started
  | held prepared snapshot holds fits represents started bounded =>
      have opened := prepared.open_held holds (Snapshot.decode_encode _ fits)
      have keeps := Engine.keeps_ofGraph represents started (some directory)
      have next := Engine.nextNode_ofGraph represents.below started (some directory)
      refine ⟨_, disk, _, opened, prepared, keeps.run_provisionIndex named, keeps, rfl, ?_, ?_⟩
      · rw [next]
        exact started
      · rw [next]
        exact bounded

theorem mono (stored : Stored directory keys queues bound disk) {later : Nat}
    (more : bound ≤ later) : Stored directory keys queues later disk := by
  cases stored with
  | vacant vacant nothing started => exact .vacant vacant nothing (Nat.le_trans started more)
  | held prepared snapshot holds fits represents started bounded =>
      exact .held prepared snapshot holds fits represents started (Nat.le_trans bounded more)

end Stored

namespace Engine.Serves

variable {keys : KeyIndex} {queues : Queues} {directory : String} {bound : Nat} {engine : Engine}

theorem mono (serves : engine.Serves directory keys queues bound) {later : Nat}
    (more : bound ≤ later) : engine.Serves directory keys queues later :=
  { serves with bounded := Nat.le_trans serves.bounded more }

theorem change (serves : engine.Serves directory keys queues bound) {others : Queues}
    {after : Engine} (keeps : Engine.Keeps keys others after)
    (location : after.location = engine.location) (next : after.nextNode = engine.nextNode) :
    after.Serves directory keys others bound where
  keeps
  location := location.trans serves.location
  started := by
    rw [next]
    exact serves.started
  bounded := by
    rw [next]
    exact serves.bounded

theorem change_next (serves : engine.Serves directory keys queues bound)
    (room : bound + 1 < 2 ^ 64) {others : Queues} {after : Engine}
    (keeps : Engine.Keeps keys others after) (location : after.location = engine.location)
    (next : after.nextNode = engine.nextNode + 1) :
    after.Serves directory keys others (bound + 1) := by
  have bounded := serves.bounded
  have more : after.nextNode.toNat = engine.nextNode.toNat + 1 := by
    rw [next, toNat_add_one (Nat.lt_of_le_of_lt (Nat.succ_le_succ bounded) room)]
  refine ⟨keeps, location.trans serves.location, ?_, ?_⟩
  · rw [UInt64.le_iff_toNat_le, more]
    exact Nat.le_add_left _ _
  · rw [more]
    exact Nat.succ_le_succ bounded

end Engine.Serves

/-- An engine that is shut down leaves on the disk what it has kept. -/
theorem Engine.Serves.shutdown {directory : String} {keys : KeyIndex} {queues : Queues}
    {bound : Nat} {engine : Engine} {disk : Disk}
    (serves : engine.Serves directory keys queues bound) (prepared : Disk.Prepared directory disk)
    (fits : engine.snapshot.Fits) :
    ∃ closed after, engine.shutdown disk = (.ok (), closed, after) ∧
      Stored directory keys queues bound after := by
  rcases prepared.save engine.snapshot with ⟨after, saved, preparedAfter, holds⟩
  refine ⟨{ engine with isClosed := true }, after, ?_,
    .held preparedAfter engine.snapshot holds fits serves.keeps.represents serves.started
      serves.bounded⟩
  rw [Engine.shutdown, serves.keeps.isOpen, Engine.persist, serves.location]
  simp only [saved]
  rfl

end RecordGraph
