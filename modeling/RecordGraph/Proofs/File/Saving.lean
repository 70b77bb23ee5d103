import RecordGraph.Proofs.File.Naming
import RecordGraph.Proofs.Snapshot

namespace RecordGraph

/-! Saving and opening on disks that may fail at any moment. Whatever goes wrong, every file with the
name of a snapshot is one that has been there or one that has been saved to its end. -/

namespace Disk

variable {disk after : Disk} {path source target : FilePath} {content : Bytes} {name : String}
  {fit : Bytes → Prop}

/-! ## Single actions -/

theorem tree_act {Result : Type} {broken : Nat → FileTree → FileTree}
    {action : FileTree → Except FileFault Result × FileTree} (holds : FileTree → Prop)
    (whole : holds (action disk.tree).2) (part : ∀ reached, holds (broken reached disk.tree)) :
    holds (disk.act broken action).2.tree := by
  rw [act]
  split
  · exact part _
  · exact whole
  · exact whole

theorem act_ok {Result : Type} {broken : Nat → FileTree → FileTree}
    {action : FileTree → Except FileFault Result × FileTree} {result : Result}
    (done : disk.act broken action = (.ok result, after)) :
    action disk.tree = (.ok result, after.tree) := by
  have outcome {mishaps : List (Option Nat)} (same : ((action disk.tree).1.mapError failed,
      ({ tree := (action disk.tree).2, mishaps } : Disk)) = (.ok result, after)) :
      action disk.tree = (.ok result, after.tree) := by
    rcases (Prod.mk.inj same) with ⟨answer, rfl⟩
    cases outcome : (action disk.tree).1 with
    | error fault =>
        rw [outcome] at answer
        cases answer
    | ok found =>
        rw [outcome] at answer
        rw [← Except.ok.inj answer, ← outcome]
  rw [act] at done
  split at done
  · cases done
  · exact outcome done
  · exact outcome done

private theorem tree_change {action : FileTree → Except FileFault FileTree}
    {holds : FileTree → Prop} (same : holds disk.tree)
    (changed : ∀ later, action disk.tree = .ok later → holds later) :
    holds (change action disk.tree).2 := by
  rw [change]
  split
  · rename_i later done
    exact changed later done
  · exact same

theorem change_ok {action : FileTree → Except FileFault FileTree} {tree later : FileTree}
    (done : change action tree = (.ok (), later)) : action tree = .ok later := by
  rw [change] at done
  split at done
  · rename_i changed same
    rw [same, (Prod.mk.inj done).2]
  · cases done

/-! ## Files by their names -/

private theorem bears_write (bears : disk.tree.Bears name fit) {other : String}
    (down : other ≠ "..") (last : path.steps.getLast? = some other) (different : other ≠ name)
    (content : Bytes) : (change (·.writeFile path content) disk.tree).2.Bears name fit :=
  tree_change bears fun _ written => bears.writeFile down last different written

theorem bears_createFile (bears : disk.tree.Bears name fit) {other : String} (down : other ≠ "..")
    (last : path.steps.getLast? = some other) (different : other ≠ name) :
    (disk.createFile path).2.tree.Bears name fit :=
  tree_act (·.Bears name fit) (bears_write bears down last different []) fun _ => bears

theorem bears_writeFile (bears : disk.tree.Bears name fit) {other : String} (down : other ≠ "..")
    (last : path.steps.getLast? = some other) (different : other ≠ name) (content : Bytes) :
    (disk.writeFile path content).2.tree.Bears name fit :=
  tree_act (·.Bears name fit) (bears_write bears down last different content) fun reached =>
    bears_write bears down last different (content.take reached)

theorem tree_syncFile (path : FilePath) (disk : Disk) :
    (disk.syncFile path).2.tree = disk.tree :=
  tree_act (· = disk.tree) rfl fun _ => rfl

theorem bears_moveFile (bears : disk.tree.Bears name fit)
    (fits : ∀ content, disk.tree.contentOf source = .ok content → fit content) :
    (disk.moveFile source target).2.tree.Bears name fit :=
  tree_act (·.Bears name fit) (tree_change bears fun _ moved => bears.moveFile fits moved) fun _ => bears

theorem contentOf_writeFile (done : disk.writeFile path content = (.ok (), after)) :
    after.tree.contentOf path = .ok content := by
  have written : disk.tree.writeFile path content = .ok after.tree := change_ok (act_ok done)
  rcases ok_of_bind written with ⟨location, found, rest⟩
  have other := (FileTree.locateFile_iff.1 found).2.1
  rw [← Except.ok.inj rest]
  exact (FileTree.contentOf_of_entry ((FileTree.put_sameDirectories other).locateFile found)
    (FileTree.entryAt?_put_self other)).1

theorem tree_sees (path : FilePath) (disk : Disk) : (disk.sees path).2.tree = disk.tree := by
  have same : (disk.act untouched fun tree => (.ok (tree.contains path), tree)).2.tree = disk.tree :=
    tree_act (· = disk.tree) rfl fun _ => rfl
  rw [sees]
  split
  · rename_i looked
    rw [looked] at same
    exact same
  · rename_i looked
    rw [looked] at same
    exact same

theorem contains_of_sees (seen : disk.sees path = (true, after)) :
    disk.tree.contains path = true := by
  rw [sees] at seen
  split at seen
  · cases seen
  · rename_i looked
    rw [(Prod.mk.inj seen).1] at looked
    exact Except.ok.inj (Prod.mk.inj (act_ok looked)).1

theorem tree_readFile (path : FilePath) (disk : Disk) :
    (disk.readFile path).2.tree = disk.tree :=
  tree_act (· = disk.tree) rfl fun _ => rfl

theorem tree_contentOf? (path : FilePath) (disk : Disk) :
    (disk.contentOf? path).2.tree = disk.tree := by
  have looked := tree_sees path disk
  rcases looking : disk.sees path with ⟨_ | _, between⟩
  · rw [looking] at looked
    rw [contentOf?_unseen looking]
    exact looked
  · rw [looking] at looked
    rw [contentOf?_seen looking]
    exact (tree_readFile path between).trans looked

theorem contentOf_of_contentOf? (read : disk.contentOf? path = (.ok (some content), after)) :
    disk.tree.contentOf path = .ok content := by
  have same := tree_sees path disk
  rcases looking : disk.sees path with ⟨_ | _, between⟩
  · rw [contentOf?_unseen looking] at read
    cases read
  · rw [looking] at same
    rw [contentOf?_seen looking] at read
    rcases reading : between.readFile path with ⟨failure | found, later⟩
    · rw [reading] at read
      cases read
    · rw [reading] at read
      rw [← Option.some.inj (Except.ok.inj (Prod.mk.inj read).1), ← same]
      exact (Prod.mk.inj (act_ok reading)).1

theorem bears_contentOf? (bears : disk.tree.Bears name fit) (down : name ≠ "..")
    (last : path.steps.getLast? = some name)
    (read : disk.contentOf? path = (.ok (some content), after)) : fit content :=
  bears.contentOf down last (contentOf_of_contentOf? read)

end Disk

/-! ## Snapshots -/

namespace Snapshot

variable {disk : Disk} {fit : Bytes → Prop}

private theorem plain_fileName : FilePath.Plain fileName := by decide

private theorem plain_draftName : FilePath.Plain draftName := by decide

private theorem tree_inTurn {holds : FileTree → Prop}
    {action : Disk → Except Failure Unit × Disk} {actions : List (Disk → Except Failure Unit × Disk)}
    (first : holds (action disk).2.tree)
    (rest : ∀ after, action disk = (.ok (), after) → holds (inTurn actions after).2.tree) :
    holds (inTurn (action :: actions) disk).2.tree := by
  rw [inTurn]
  split
  · rename_i outcome
    rw [outcome] at first
    exact first
  · rename_i outcome
    exact rest _ outcome

/-- Saving brings in no other file with the name of a snapshot than the whole snapshot. -/
theorem bears_save (bears : disk.tree.Bears fileName fit) (directory : String)
    {snapshot : Snapshot} (fits : fit snapshot.encode) :
    (snapshot.save directory disk).2.tree.Bears fileName fit := by
  set draft := FilePath.ofText (FilePath.below directory draftName) with draft_eq
  have down : draftName ≠ ".." := by decide
  have different : draftName ≠ fileName := by decide
  have last : draft.steps.getLast? = some draftName := FilePath.last_below directory plain_draftName
  rw [save, ← draft_eq]
  have created := Disk.bears_createFile bears down last different
  refine tree_inTurn created fun first creating => ?_
  rw [creating] at created
  have written := Disk.bears_writeFile created down last different snapshot.encode
  refine tree_inTurn written fun second writing => ?_
  rw [writing] at written
  have content := Disk.contentOf_writeFile writing
  have synced := Disk.tree_syncFile draft second
  refine tree_inTurn (synced ▸ written) fun third syncing => ?_
  rw [syncing] at synced
  have moved : (third.moveFile draft (.ofText (FilePath.below directory fileName))).2.tree.Bears
      fileName fit := by
    refine Disk.bears_moveFile (synced ▸ written) fun found same => ?_
    rw [synced, content] at same
    exact Except.ok.inj same ▸ fits
  refine tree_inTurn moved fun fourth moving => ?_
  rw [moving] at moved
  exact moved

theorem tree_load (directory : String) (disk : Disk) :
    (load directory disk).2.tree = disk.tree := by
  have same := Disk.tree_contentOf? (.ofText (FilePath.below directory fileName)) disk
  rw [load]
  rcases reading : disk.contentOf? (.ofText (FilePath.below directory fileName)) with
    ⟨failure | stored, after⟩
  · rw [reading] at same
    exact same
  · rw [reading] at same
    cases stored with
    | none => exact same
    | some file => exact same

/-- What is loaded has been decoded from a file with the name of a snapshot. -/
theorem load_some (bears : disk.tree.Bears fileName fit) {directory : String}
    {snapshot : Snapshot} (found : (load directory disk).1 = .ok (some snapshot)) :
    ∃ file, fit file ∧ decode (FilePath.below directory fileName) file = .ok snapshot := by
  rw [load] at found
  rcases reading : disk.contentOf? (.ofText (FilePath.below directory fileName)) with
    ⟨failure | - | file, after⟩
  · rw [reading] at found
    cases found
  · rw [reading] at found
    cases found
  · rw [reading] at found
    refine ⟨file, Disk.bears_contentOf? bears (by decide)
      (FilePath.last_below directory plain_fileName) reading, ?_⟩
    dsimp only at found
    cases decoding : decode (FilePath.below directory fileName) file with
    | error failure =>
        rw [decoding] at found
        cases found
    | ok decoded =>
        rw [decoding] at found
        rw [Option.some.inj (Except.ok.inj found)]

end Snapshot

/-! ## Engines -/

namespace Engine

variable {disk : Disk} {fit : Bytes → Prop}

theorem tree_openAt (directory : String) (disk : Disk) :
    (openAt directory disk).2.tree = (disk.makeDirectories (.ofText directory)).2.tree := by
  rw [openAt]
  rcases disk.makeDirectories (.ofText directory) with ⟨failure | done, ready⟩
  · rfl
  have same := Snapshot.tree_load directory ready
  dsimp only
  rcases loading : Snapshot.load directory ready with ⟨failure | stored, after⟩
  · rw [loading] at same
    exact same
  · rw [loading] at same
    exact same

theorem frame_openAt {directory : String} {engine : Engine}
    (opened : (openAt directory disk).1 = .ok engine) :
    engine.location = some directory ∧ engine.isClosed = false := by
  rw [openAt] at opened
  split at opened
  · cases opened
  split at opened
  · cases opened
  · cases opened
    exact ⟨rfl, rfl⟩

theorem unbegun_openAt {directory : String} {engine : Engine}
    (opened : (openAt directory disk).1 = .ok engine) :
    engine.transactions = ∅ ∧ engine.nextTransaction = 1 := by
  rw [openAt] at opened
  split at opened
  · cases opened
  split at opened
  · cases opened
  · cases opened
    exact ⟨rfl, rfl⟩

theorem frame_shutdown (engine : Engine) (disk : Disk) :
    (engine.shutdown disk).2.1.isClosed = true ∧
      (engine.shutdown disk).2.1.snapshot = engine.snapshot := by
  rw [shutdown]
  split
  · rename_i closed
    exact ⟨closed, rfl⟩
  · exact ⟨rfl, rfl⟩

theorem bears_openAt (bears : disk.tree.Bears Snapshot.fileName fit) (directory : String) :
    (openAt directory disk).2.tree.Bears Snapshot.fileName fit := by
  rw [tree_openAt]
  exact Disk.tree_act (·.Bears Snapshot.fileName fit) (bears.makeDirectories _) fun _ => bears

/-- An engine starts without any nodes, or from what has been decoded from a file with the name of
a snapshot. -/
theorem openAt_ok (bears : disk.tree.Bears Snapshot.fileName fit) {directory : String}
    {engine : Engine} (opened : (openAt directory disk).1 = .ok engine) :
    engine = ofGraph (some directory) {} 0 ∨
      ∃ file snapshot, fit file ∧
        Snapshot.decode (FilePath.below directory Snapshot.fileName) file = .ok snapshot ∧
        engine = ofGraph (some directory) snapshot.graph snapshot.nextNode := by
  have made : (disk.makeDirectories (.ofText directory)).2.tree.Bears Snapshot.fileName fit :=
    Disk.tree_act (·.Bears Snapshot.fileName fit) (bears.makeDirectories _) fun _ => bears
  rw [openAt] at opened
  rcases making : disk.makeDirectories (.ofText directory) with ⟨failure | done, ready⟩
  · rw [making] at opened
    cases opened
  rw [making] at opened made
  dsimp only at opened
  rcases loading : Snapshot.load directory ready with ⟨failure | - | snapshot, after⟩
  · rw [loading] at opened
    cases opened
  · rw [loading] at opened
    exact .inl (Except.ok.inj opened).symm
  · have found : (Snapshot.load directory ready).1 = .ok (some snapshot) := by rw [loading]
    rcases Snapshot.load_some made found with ⟨file, fits, decoded⟩
    rw [loading] at opened
    exact .inr ⟨file, snapshot, fits, decoded, (Except.ok.inj opened).symm⟩

/-- Shutting an engine down brings in no other file with the name of a snapshot than that of its
graph. -/
theorem bears_shutdown (bears : disk.tree.Bears Snapshot.fileName fit) {engine : Engine}
    (fits : fit engine.snapshot.encode) :
    (engine.shutdown disk).2.2.tree.Bears Snapshot.fileName fit := by
  rw [shutdown]
  split
  · exact bears
  · dsimp only
    rw [persist]
    split
    · exact bears
    · exact Snapshot.bears_save bears _ fits

end Engine

end RecordGraph
