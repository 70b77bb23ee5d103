import RecordGraph.Proofs.File.Tree
import RecordGraph.Snapshot

namespace RecordGraph

/-! Disks on which all goes well. What is saved in a directory that has been made is found there
when it is opened again. -/

namespace FileTree

variable {tree later : FileTree} {path : FilePath} {location : Location} {content : Bytes}

theorem locateFile_iff :
    tree.locateFile path = .ok location ↔
      tree.locate path = .ok location ∧ tree.entryAt? location ≠ some .directory ∧
        path.toDirectory = false := by
  rw [locateFile]
  cases located : tree.locate path with
  | error fault => simp [bind, Except.bind]
  | ok found =>
      simp only [bind, Except.bind, Except.ok.injEq]
      cases standing : tree.entryAt? found with
      | none =>
          cases directory : path.toDirectory with
          | true => simp
          | false =>
              simp only [Bool.false_eq_true, if_false, Except.ok.injEq, and_true]
              exact ⟨fun same => ⟨same, by simp [← same, standing]⟩, And.left⟩
      | some entry =>
          cases entry with
          | directory =>
              simp only [reduceCtorEq, false_iff]
              rintro ⟨rfl, other, -⟩
              exact other standing
          | file old =>
              cases directory : path.toDirectory with
              | true => simp
              | false =>
                  simp only [Bool.false_eq_true, if_false, Except.ok.injEq, and_true]
                  exact ⟨fun same => ⟨same, by simp [← same, standing]⟩, And.left⟩

theorem SameDirectories.locateFile (same : tree.SameDirectories later)
    (found : tree.locateFile path = .ok location) : later.locateFile path = .ok location := by
  rcases locateFile_iff.1 found with ⟨located, other, file⟩
  exact locateFile_iff.2 ⟨same.kept.locate located, mt (same location).2 other, file⟩

theorem put_sameDirectories (other : tree.entryAt? location ≠ some .directory) :
    tree.SameDirectories (tree.put location (.file content)) := by
  intro place
  rw [entryAt?_put]
  split
  · rename_i same
    rw [← same.1]
    simp [other]
  · rfl

theorem writeFile_ok (found : tree.locateFile path = .ok location) (content : Bytes) :
    tree.writeFile path content = .ok (tree.put location (.file content)) := by
  rw [writeFile, found]
  rfl

theorem contentOf_of_entry (found : tree.locateFile path = .ok location)
    (standing : tree.entryAt? location = some (.file content)) :
    tree.contentOf path = .ok content ∧ tree.contains path = true := by
  rcases locateFile_iff.1 found with ⟨located, -, file⟩
  have leads : tree.find path = .ok (.file content) := by
    rw [find, located]
    simp only [bind, Except.bind, standing, file]
    rfl
  rw [contentOf, contains, leads]
  exact ⟨rfl, rfl⟩

theorem entryAt?_put_self (other : tree.entryAt? location ≠ some .directory) :
    (tree.put location (.file content)).entryAt? location = some (.file content) := by
  rw [entryAt?_put, if_pos]
  refine ⟨rfl, fun root => other ?_⟩
  rw [root]
  rfl

theorem moveFile_ok {source target : FilePath} {old new : Location}
    (foundOld : tree.locateFile source = .ok old) (foundNew : tree.locateFile target = .ok new)
    (standing : tree.entryAt? old = some (.file content)) :
    ∃ moved, tree.moveFile source target = .ok moved ∧ tree.SameDirectories moved ∧
      moved.entryAt? new = some (.file content) := by
  have otherNew := (locateFile_iff.1 foundNew).2.1
  have without : tree.SameDirectories { entries := tree.entries.erase old } := by
    intro place
    rw [entryAt?_erase]
    split
    · rename_i same
      rw [← same.1, standing]
      simp
    · rfl
  have otherWithout : FileTree.entryAt? new { entries := tree.entries.erase old } ≠
      some .directory := mt (without new).2 otherNew
  refine ⟨FileTree.put new (.file content) { entries := tree.entries.erase old }, ?_, ?_, ?_⟩
  · rw [moveFile, (contentOf_of_entry foundOld standing).1, foundOld, foundNew]
    rfl
  · exact without.trans (put_sameDirectories otherWithout)
  · exact entryAt?_put_self otherWithout

end FileTree

namespace Disk

/-! ## Prepared directories -/

def targetPath (directory : String) : FilePath :=
  .ofText (FilePath.below directory Snapshot.fileName)

def draftPath (directory : String) : FilePath :=
  .ofText (FilePath.below directory Snapshot.draftName)

structure Prepared (directory : String) (disk : Disk) : Prop where
  calm : disk.mishaps = []
  made : ∀ later, disk.tree.Extends later →
    later.makeDirectories (.ofText directory) = (.ok (), later)
  target : ∃ location, disk.tree.locateFile (targetPath directory) = .ok location
  draft : ∃ location, disk.tree.locateFile (draftPath directory) = .ok location

/-- The directory can be made, the snapshot can be written into it but does not exist yet, and
nothing goes wrong. -/
structure Vacant (directory : String) (disk : Disk) : Prop where
  calm : disk.mishaps = []
  made : (disk.tree.makeDirectories (.ofText directory)).1 = .ok ()
  target : ∃ location, (disk.tree.makeDirectories (.ofText directory)).2.locateFile
    (targetPath directory) = .ok location
  draft : ∃ location, (disk.tree.makeDirectories (.ofText directory)).2.locateFile
    (draftPath directory) = .ok location
  absent : (disk.tree.makeDirectories (.ofText directory)).2.contains (targetPath directory) =
    false

variable {directory : String} {disk : Disk}

theorem act_calm {Result : Type} (calm : disk.mishaps = []) (broken : Nat → FileTree → FileTree)
    (action : FileTree → Except FileFault Result × FileTree) :
    disk.act broken action =
      ((action disk.tree).1.mapError failed, { tree := (action disk.tree).2 }) := by
  rw [act, calm]
  rfl

theorem contentOf?_seen {path : FilePath} {between : Disk}
    (looking : disk.sees path = (true, between)) :
    disk.contentOf? path = ((between.readFile path).1.map some, (between.readFile path).2) := by
  rw [contentOf?, looking]

theorem contentOf?_unseen {path : FilePath} {between : Disk}
    (looking : disk.sees path = (false, between)) : disk.contentOf? path = (.ok none, between) := by
  rw [contentOf?, looking]

theorem contentOf?_calm (calm : disk.mishaps = []) (path : FilePath) :
    disk.contentOf? path =
      if disk.tree.contains path then
        ((disk.tree.contentOf path).mapError failed |>.map some, { tree := disk.tree })
      else (.ok none, { tree := disk.tree }) := by
  have looked : disk.sees path = (disk.tree.contains path, { tree := disk.tree }) := by
    rw [sees, act_calm calm]
    rfl
  cases there : disk.tree.contains path with
  | false => exact contentOf?_unseen (there ▸ looked)
  | true => exact contentOf?_seen (there ▸ looked)

theorem Prepared.of_same (prepared : Prepared directory disk) {tree : FileTree}
    (same : disk.tree.SameDirectories tree) : Prepared directory { tree } where
  calm := rfl
  made later kept := prepared.made later (same.kept.trans kept)
  target := by
    rcases prepared.target with ⟨location, found⟩
    exact ⟨location, same.locateFile found⟩
  draft := by
    rcases prepared.draft with ⟨location, found⟩
    exact ⟨location, same.locateFile found⟩

def Holds (directory : String) (file : Bytes) (disk : Disk) : Prop :=
  disk.tree.contentOf (targetPath directory) = .ok file ∧
    disk.tree.contains (targetPath directory) = true

private theorem act_writeFile {location : Location} {path : FilePath} (calm : disk.mishaps = [])
    (found : disk.tree.locateFile path = .ok location) (broken : Nat → FileTree → FileTree)
    (content : Bytes) :
    disk.act broken (change (·.writeFile path content)) =
      (.ok (), { tree := disk.tree.put location (.file content) }) := by
  rw [act_calm calm, change, FileTree.writeFile_ok found]
  rfl

theorem Prepared.save (prepared : Prepared directory disk) (snapshot : Snapshot) :
    ∃ after, snapshot.save directory disk = (.ok (), after) ∧ Prepared directory after ∧
      Holds directory snapshot.encode after := by
  rcases prepared.draft with ⟨old, foundOld⟩
  rcases prepared.target with ⟨new, foundNew⟩
  set created : Disk := { tree := disk.tree.put old (.file []) } with created_eq
  have creating : disk.createFile (draftPath directory) = (.ok (), created) :=
    act_writeFile prepared.calm foundOld _ _
  have sameCreated : disk.tree.SameDirectories created.tree :=
    FileTree.put_sameDirectories (FileTree.locateFile_iff.1 foundOld).2.1
  have foundCreated := sameCreated.locateFile foundOld
  set written : Disk := { tree := created.tree.put old (.file snapshot.encode) } with written_eq
  have writing : created.writeFile (draftPath directory) snapshot.encode = (.ok (), written) :=
    act_writeFile rfl foundCreated _ _
  have other := (FileTree.locateFile_iff.1 foundCreated).2.1
  have sameWritten : disk.tree.SameDirectories written.tree :=
    sameCreated.trans (FileTree.put_sameDirectories other)
  have syncing : written.syncFile (draftPath directory) = (.ok (), written) := rfl
  rcases FileTree.moveFile_ok
    (sameWritten.locateFile foundOld) (sameWritten.locateFile foundNew)
    (FileTree.entryAt?_put_self other) with ⟨moved, moving, sameMoved, standing⟩
  have replacing : written.moveFile (draftPath directory) (targetPath directory) =
      (.ok (), { tree := moved }) := by
    rw [Disk.moveFile, act_calm rfl, change, moving]
    rfl
  have same := sameWritten.trans sameMoved
  refine ⟨{ tree := moved }, ?_, prepared.of_same same,
    FileTree.contentOf_of_entry (same.locateFile foundNew) standing⟩
  rw [Snapshot.save, Snapshot.inTurn]
  simp only [draftPath, targetPath] at creating writing syncing replacing
  rw [creating]
  simp only [Snapshot.inTurn, writing, syncing, replacing]

theorem Prepared.open_held (prepared : Prepared directory disk) {snapshot : Snapshot} {file : Bytes}
    (holds : Holds directory file disk)
    (decoded : Snapshot.decode (FilePath.below directory Snapshot.fileName) file = .ok snapshot) :
    Engine.openAt directory disk =
      (.ok (.ofGraph (some directory) snapshot.graph snapshot.nextNode), disk) := by
  have still : ({ tree := disk.tree } : Disk) = disk := by
    have calm := prepared.calm
    cases disk
    rw [← calm]
  have making : disk.makeDirectories (.ofText directory) = (.ok (), disk) := by
    rw [Disk.makeDirectories, act_calm prepared.calm,
      prepared.made disk.tree (FileTree.Extends.refl _), still]
    rfl
  have reading : disk.contentOf? (targetPath directory) = (.ok (some file), disk) := by
    rw [contentOf?_calm prepared.calm, if_pos holds.2, holds.1, still]
    rfl
  have loading : Snapshot.load directory disk = (.ok (some snapshot), disk) := by
    rw [targetPath] at reading
    rw [Snapshot.load]
    simp only [reading, decoded]
    rfl
  rw [Engine.openAt, making]
  simp only [loading]
  rfl

theorem Vacant.open_new (vacant : Vacant directory disk) :
    ∃ after, Engine.openAt directory disk = (.ok (.ofGraph (some directory) {} 0), after) ∧
      Prepared directory after := by
  set made : Disk := { tree := (disk.tree.makeDirectories (.ofText directory)).2 } with made_eq
  have making : disk.makeDirectories (.ofText directory) = (.ok (), made) := by
    rw [Disk.makeDirectories, act_calm vacant.calm, vacant.made]
    rfl
  have reading : made.contentOf? (targetPath directory) = (.ok none, made) := by
    rw [contentOf?_calm rfl, vacant.absent]
    rfl
  have loading : Snapshot.load directory made = (.ok none, made) := by
    rw [targetPath] at reading
    rw [Snapshot.load]
    simp only [reading]
  refine ⟨made, ?_, rfl, fun later kept => ?_, vacant.target, vacant.draft⟩
  · rw [Engine.openAt, making]
    simp only [loading]
    rfl
  · exact FileTree.makeDirectories_again vacant.made kept

end Disk

end RecordGraph
