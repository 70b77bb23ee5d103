import RecordGraph.Host
import RecordGraph.Proofs.File.Saving

namespace RecordGraph

/-! What the engines of a host uphold. An engine that is shut down leaves a snapshot, and from the
snapshot another engine is opened; what lasts from the one to the other holds of all engines that a
host ever has. -/

/-- What holds of an engine holds of its snapshot, of the engine that is opened from the snapshot,
and of an engine that is opened without any. -/
structure Lasting (engines : Engine → Prop) (snapshots : Snapshot → Prop) : Prop where
  new : ∀ location, engines (.ofGraph location {} 0)
  snapshot : ∀ engine, engines engine → snapshots engine.snapshot
  opened : ∀ location (snapshot : Snapshot), snapshots snapshot →
    engines (.ofGraph location snapshot.graph snapshot.nextNode)
  closed : ∀ engine, engines engine → engines { engine with isClosed := true }

/-- Every engine is as it should be, and so is every snapshot that can be read from the disk. -/
structure Host.Upholds (engines : Engine → Prop) (snapshots : Snapshot → Prop) (host : Host) :
    Prop where
  engines : ∀ engine ∈ host.engines, engines engine
  files : host.disk.tree.Bears Snapshot.fileName fun file =>
    ∀ name snapshot, Snapshot.decode name file = .ok snapshot → snapshots snapshot

namespace Host.Upholds

variable {host : Host} {engines : Engine → Prop} {snapshots : Snapshot → Prop} {engine : Engine}
  {disk : Disk}

theorem withDisk (upholds : host.Upholds engines snapshots)
    (files : disk.tree.Bears Snapshot.fileName fun file =>
      ∀ name snapshot, Snapshot.decode name file = .ok snapshot → snapshots snapshot) :
    Upholds engines snapshots { host with disk } :=
  ⟨upholds.engines, files⟩

theorem mono (upholds : host.Upholds engines snapshots) {moreEngines : Engine → Prop}
    {moreSnapshots : Snapshot → Prop} (engine : ∀ engine, engines engine → moreEngines engine)
    (snapshot : ∀ snapshot, snapshots snapshot → moreSnapshots snapshot) :
    host.Upholds moreEngines moreSnapshots where
  engines own member := engine own (upholds.engines own member)
  files location file last standing name found decoded :=
    snapshot found (upholds.files location file last standing name found decoded)

theorem of_same (upholds : host.Upholds engines snapshots) {later : Host}
    (same : later.engines = host.engines) (disk : later.disk = host.disk) :
    later.Upholds engines snapshots where
  engines own member := upholds.engines own (same ▸ member)
  files := by
    rw [disk]
    exact upholds.files

theorem of_set (upholds : host.Upholds engines snapshots) {id : EngineId} (own : engines engine)
    {later : Host} (changed : later.engines = host.engines.set id engine)
    (disk : later.disk = host.disk) : later.Upholds engines snapshots where
  engines other member := by
    rw [changed] at member
    rcases List.mem_or_eq_of_mem_set member with before | rfl
    · exact upholds.engines other before
    · exact own
  files := by
    rw [disk]
    exact upholds.files

theorem setEngine (upholds : host.Upholds engines snapshots) (id : EngineId)
    (own : engines engine) : (host.setEngine id engine).Upholds engines snapshots :=
  upholds.of_set own rfl rfl

theorem addEngine (upholds : host.Upholds engines snapshots) (own : engines engine) :
    (host.addEngine engine).2.Upholds engines snapshots where
  engines other member := by
    rcases List.mem_append.1 member with before | last
    · exact upholds.engines other before
    · rcases List.mem_singleton.1 last with rfl
      exact own
  files := upholds.files

theorem openEngine (upholds : host.Upholds engines snapshots) (lasting : Lasting engines snapshots)
    (directory : String) : (host.openEngine directory).2.Upholds engines snapshots := by
  have files := Engine.bears_openAt upholds.files directory
  rw [Host.openEngine]
  rcases opening : Engine.openAt directory host.disk with ⟨failure | engine, disk⟩
  · rw [opening] at files
    exact upholds.withDisk files
  · rw [opening] at files
    refine (upholds.withDisk files).addEngine ?_
    rcases Engine.openAt_ok upholds.files (congrArg Prod.fst opening) with
      rfl | ⟨file, snapshot, usable, decoded, rfl⟩
    · exact lasting.new _
    · exact lasting.opened _ snapshot (usable _ snapshot decoded)

theorem shutdownEngine (upholds : host.Upholds engines snapshots)
    (lasting : Lasting engines snapshots) (id : EngineId) :
    (host.shutdownEngine id).2.Upholds engines snapshots := by
  rw [Host.shutdownEngine]
  cases found : host.engines[id]? with
  | none =>
      have nowhere : host.engine id = { isClosed := true } := by
        rw [Host.engine, found]
        rfl
      have same : host.setEngine id { isClosed := true } = host := by
        rw [Host.setEngine, List.set_eq_of_length_le (List.getElem?_eq_none_iff.1 found)]
      rw [nowhere]
      change (host.setEngine id { isClosed := true }).Upholds engines snapshots
      rw [same]
      exact upholds
  | some engine =>
      have own := upholds.engines engine (List.mem_of_getElem? found)
      have there : host.engine id = engine := by
        rw [Host.engine, found]
        rfl
      rw [there]
      have fits (name : String) (snapshot : Snapshot)
          (decoded : Snapshot.decode name engine.snapshot.encode = .ok snapshot) :
          snapshots snapshot :=
        Snapshot.eq_of_decode_encode decoded ▸ lasting.snapshot engine own
      have files := Engine.bears_shutdown upholds.files fits
      refine (upholds.withDisk files).setEngine id ?_
      rw [Engine.shutdown]
      split
      · exact own
      · exact lasting.closed engine own

end Host.Upholds

end RecordGraph
