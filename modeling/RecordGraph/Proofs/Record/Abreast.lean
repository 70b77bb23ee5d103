import RecordGraph.Proofs.File.Alike
import RecordGraph.Proofs.Record.Scan
import RecordGraph.Proofs.Record.Sparing

namespace RecordGraph

/-! Engines that keep the same records for some keys, and otherwise anything. What is done by these
keys is answered alike by both of them, whatever else they keep and however their nodes are
numbered. -/

/-! ## What errands come to -/

def Queues.carryOut (binding : Binding) (errand : Errand) (queues : Queues) : Report × Queues :=
  match errand with
  | .insert key fields =>
      let (status, queues) := queues.insert binding.keyField key fields
      (.done status, queues)
  | .update key fields =>
      let (status, queues) := queues.update key fields
      (.done status, queues)
  | .delete key =>
      let (status, queues) := queues.delete key
      (.done status, queues)
  | .read key requested into =>
      let (status, fields) := queues.read binding.keyField key requested into
      (.found status fields, queues)
  | .scan start count requested into =>
      (Errand.report (.scan start count requested into) (match binding.scan with
        | .unsupported => .error (.unsupported "scan")
        | .indexRange => queues.scanned binding.keyField start count.toNat requested), queues)

namespace Engine

variable {keys : KeyIndex} {binding : Binding} {queues : Queues} {bound later : Nat}
  {engine first second : Engine}

theorem Keeps.carryOut (keeps : Keeps binding.keys queues engine)
    (embedded : binding.mode = .embedded) (keyed : binding.keyField ≠ "") (errand : Errand)
    (room : errand.isInsert = true → engine.nextNode.toNat + 1 < 2 ^ 64) :
    ∃ outcome after, (errand.dialogue binding).run perform engine = (outcome, after) ∧
      errand.report outcome = (queues.carryOut binding errand).1 ∧
      Keeps binding.keys (queues.carryOut binding errand).2 after ∧
      after.location = engine.location := by
  cases errand with
  | insert key fields =>
      obtain ⟨outcome, after, run, status, kept, location, -⟩ :=
        keeps.insert embedded keyed (room rfl) key fields
      exact ⟨outcome, after, run, congrArg Report.done status, kept, location⟩
  | update key fields =>
      obtain ⟨outcome, after, run, status, kept, location, -⟩ := keeps.update key fields
      exact ⟨outcome, after, run, congrArg Report.done status, kept, location⟩
  | delete key =>
      obtain ⟨outcome, after, run, status, kept, location, -⟩ := keeps.delete key
      exact ⟨outcome, after, run, congrArg Report.done status, kept, location⟩
  | read key requested into =>
      obtain ⟨outcome, run, answer⟩ := keeps.read embedded key requested into
      refine ⟨outcome, engine, run, ?_, keeps, rfl⟩
      rw [Queues.carryOut, ← answer]
      rcases outcome with failure | _ | fields
      · rfl
      · rfl
      · rfl
  | scan start count requested into =>
      cases policy : binding.scan with
      | unsupported =>
          refine ⟨.error (.unsupported "scan"), engine, ?_, ?_, keeps, rfl⟩
          · rw [Errand.dialogue, Record.scan, policy]
            rfl
          · rw [Queues.carryOut, policy]
      | indexRange =>
          refine ⟨_, engine, keeps.scanned embedded policy start count requested, ?_, keeps, rfl⟩
          rw [Queues.carryOut, policy]

/-- Both engines are open and in order, for one location, and for the keys they keep the same
queues. -/
structure Abreast (keys : KeyIndex) (bound : Nat) (first second : Engine) : Prop where
  isOpen : first.isClosed = false ∧ second.isClosed = false
  tidy : first.Tidy bound ∧ second.Tidy bound
  location : second.location = first.location
  queues : ∃ queues, first.graph.Queued keys queues ∧ second.graph.Queued keys queues

/-- What one engine does with an errand by its own, while it is open and in order. -/
structure Does (binding : Binding) (errand : Errand) (bound : Nat) (queues : Queues)
    (engine after : Engine) : Prop where
  isOpen : after.isClosed = false
  location : after.location = engine.location
  sparing : Sparing binding.keys (bound + if errand.isInsert then 1 else 0) engine after
  queued : after.graph.Queued binding.keys (queues.carryOut binding errand).2

theorem Tidy.does (tidy : engine.Tidy bound) (isOpen : engine.isClosed = false)
    (embedded : binding.mode = .embedded) (keyed : binding.keyField ≠ "")
    (there : engine.graph.hasIndex binding.index = true)
    (queued : engine.graph.Queued binding.keys queues) (errand : Errand)
    (room : bound + (if errand.isInsert then 1 else 0) < 2 ^ 64) :
    ∃ outcome after, (errand.dialogue binding).run perform engine = (outcome, after) ∧
      errand.report outcome = (queues.carryOut binding errand).1 ∧
      Does binding errand bound queues engine after := by
  have keeps : Keeps binding.keys queues engine :=
    ⟨isOpen, tidy.settled, tidy.graph.represents there queued⟩
  have bounded := tidy.bounded
  obtain ⟨outcome, after, run, report, kept, location⟩ :=
    keeps.carryOut embedded keyed errand fun inserting => by
      rw [if_pos inserting] at room
      omega
  have sparing := tidy.sparing_dialogue embedded there errand room
  rw [run] at sparing
  exact ⟨outcome, after, run, report, kept.isOpen, location, sparing, kept.represents.records⟩

namespace Abreast

theorem mono (abreast : Abreast keys bound first second) (more : bound ≤ later) :
    Abreast keys later first second :=
  { abreast with tidy := ⟨abreast.tidy.1.mono more, abreast.tidy.2.mono more⟩ }

/-- Both engines carry out an errand by the keys for which they keep the same. -/
theorem carryOut (abreast : Abreast binding.keys bound first second)
    (embedded : binding.mode = .embedded) (keyed : binding.keyField ≠ "")
    (there : first.graph.hasIndex binding.index = true)
    (thereSecond : second.graph.hasIndex binding.index = true) (errand : Errand)
    (room : bound + (if errand.isInsert then 1 else 0) < 2 ^ 64) :
    let one := (errand.dialogue binding).run perform first
    let two := (errand.dialogue binding).run perform second
    errand.report one.1 = errand.report two.1 ∧
      Abreast binding.keys (bound + if errand.isInsert then 1 else 0) one.2 two.2 := by
  obtain ⟨queues, queued, queuedSecond⟩ := abreast.queues
  obtain ⟨_, _, run, report, does⟩ :=
    abreast.tidy.1.does abreast.isOpen.1 embedded keyed there queued errand room
  obtain ⟨_, _, runSecond, reportSecond, doesSecond⟩ :=
    abreast.tidy.2.does abreast.isOpen.2 embedded keyed thereSecond queuedSecond errand room
  rw [run, runSecond]
  refine ⟨report.trans reportSecond.symm, ⟨does.isOpen, doesSecond.isOpen⟩,
    ⟨does.sparing.tidy, doesSecond.sparing.tidy⟩, ?_, _, does.queued, doesSecond.queued⟩
  rw [doesSecond.location, does.location]
  exact abreast.location

/-- An errand by other keys makes no difference, even if only one of the engines carries it out. -/
theorem carryOut_first (abreast : Abreast keys bound first second)
    (embedded : binding.mode = .embedded) (keyed : binding.keyField ≠ "")
    (there : first.graph.hasIndex binding.index = true) (apart : binding.keys ≠ keys)
    (errand : Errand) (room : bound + (if errand.isInsert then 1 else 0) < 2 ^ 64) :
    Abreast keys (bound + if errand.isInsert then 1 else 0)
      ((errand.dialogue binding).run perform first).2 second := by
  obtain ⟨others, queuedOthers⟩ := abreast.tidy.1.graph.exists_queues binding.keys
  obtain ⟨queues, queued, queuedSecond⟩ := abreast.queues
  obtain ⟨_, _, run, -, does⟩ :=
    abreast.tidy.1.does abreast.isOpen.1 embedded keyed there queuedOthers errand room
  rw [run]
  exact {
    isOpen := ⟨does.isOpen, abreast.isOpen.2⟩
    tidy := ⟨does.sparing.tidy, abreast.tidy.2.mono (Nat.le_add_right _ _)⟩
    location := abreast.location.trans does.location.symm
    queues := ⟨queues, queued.of_spares (does.sparing.spares keys apart), queuedSecond⟩ }

theorem provisionIndex (abreast : Abreast keys bound first second) {index : String}
    (named : index ≠ "") :
    ∃ ready readySecond, (provisionIndex index).run perform first = (.ok (), ready) ∧
      (RecordGraph.provisionIndex index).run perform second = (.ok (), readySecond) ∧
      Abreast keys bound ready readySecond := by
  obtain ⟨queues, queued, queuedSecond⟩ := abreast.queues
  obtain ⟨ready, run, tidy, isOpen, location, spares⟩ :=
    abreast.tidy.1.provisionIndex abreast.isOpen.1 named
  obtain ⟨readySecond, runSecond, tidySecond, isOpenSecond, locationSecond, sparesSecond⟩ :=
    abreast.tidy.2.provisionIndex abreast.isOpen.2 named
  refine ⟨ready, readySecond, run, runSecond, ⟨isOpen, isOpenSecond⟩, ⟨tidy, tidySecond⟩, ?_,
    queues, queued.of_spares (spares keys), queuedSecond.of_spares (sparesSecond keys)⟩
  rw [location, locationSecond]
  exact abreast.location

end Abreast

end Engine

/-! ## Snapshots -/

namespace Snapshot

variable {keys : KeyIndex} {bound later : Nat} {one two : Snapshot}

structure Tidy (bound : Nat) (snapshot : Snapshot) : Prop where
  graph : snapshot.graph.Tidy snapshot.nextNode
  started : 1 ≤ snapshot.nextNode
  bounded : snapshot.nextNode.toNat ≤ bound

structure Abreast (keys : KeyIndex) (bound : Nat) (one two : Snapshot) : Prop where
  tidy : one.Tidy bound ∧ two.Tidy bound
  queues : ∃ queues, one.graph.Queued keys queues ∧ two.graph.Queued keys queues

theorem Tidy.abreast (tidy : one.Tidy bound) (keys : KeyIndex) : Abreast keys bound one one := by
  obtain ⟨queues, queued⟩ := tidy.graph.exists_queues keys
  exact ⟨⟨tidy, tidy⟩, queues, queued, queued⟩

theorem Tidy.mono (tidy : one.Tidy bound) (more : bound ≤ later) : one.Tidy later :=
  { tidy with bounded := Nat.le_trans tidy.bounded more }

theorem Abreast.mono (abreast : Abreast keys bound one two) (more : bound ≤ later) :
    Abreast keys later one two :=
  ⟨⟨abreast.tidy.1.mono more, abreast.tidy.2.mono more⟩, abreast.queues⟩

end Snapshot

namespace Engine

variable {keys : KeyIndex} {bound : Nat} {first second : Engine}

theorem Tidy.snapshot {engine : Engine} (tidy : engine.Tidy bound) : engine.snapshot.Tidy bound :=
  ⟨tidy.graph, tidy.started, tidy.bounded⟩

theorem tidy_ofGraph {snapshot : Snapshot} (tidy : snapshot.Tidy bound)
    (location : Option String) : (ofGraph location snapshot.graph snapshot.nextNode).Tidy bound := by
  have next := nextNode_ofGraph tidy.graph.below tidy.started location
  refine ⟨rfl, ?_, ?_, ?_⟩
  · rw [next]
    exact tidy.graph
  · rw [next]
    exact tidy.started
  · rw [next]
    exact tidy.bounded

theorem Opened.abreast {directory : String}
    (opened : Opened (Snapshot.Abreast keys bound) directory first second) (least : 1 ≤ bound) :
    Abreast keys bound first second := by
  obtain ⟨one, two, snapshots, rfl, rfl⟩ := opened
  rcases snapshots with abreast | ⟨rfl, rfl⟩
  · exact ⟨⟨rfl, rfl⟩, ⟨tidy_ofGraph abreast.tidy.1 _, tidy_ofGraph abreast.tidy.2 _⟩, rfl,
      abreast.queues⟩
  · have tidy : (ofGraph (some directory) {} 0).Tidy bound :=
      ⟨rfl, Graph.tidy_empty _, UInt64.le_refl 1, least⟩
    obtain ⟨queues, queued⟩ := tidy.graph.exists_queues keys
    exact ⟨⟨rfl, rfl⟩, ⟨tidy, tidy⟩, rfl, queues, queued, queued⟩

/-- Engines abreast leave snapshots that are decoded to snapshots abreast. -/
theorem Abreast.decoding (abreast : Abreast keys bound first second) (fits : first.snapshot.Fits)
    (fitsSecond : second.snapshot.Fits) :
    Snapshot.Decoding (Snapshot.Abreast keys bound) first.snapshot.encode
      second.snapshot.encode := by
  intro name
  rw [Snapshot.decode_encode name fits, Snapshot.decode_encode name fitsSecond]
  exact .done ⟨⟨abreast.tidy.1.snapshot, abreast.tidy.2.snapshot⟩, abreast.queues⟩

end Engine

end RecordGraph
