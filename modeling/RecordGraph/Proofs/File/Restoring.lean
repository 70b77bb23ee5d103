import RecordGraph.Proofs.File.Saving

namespace RecordGraph

/-! Restoring what has been saved. A snapshot that has been saved to its end stands in its directory
as it was written, and stays there as long as nothing but directories is made; whoever reads it gets
back the graph and the number of the next node. -/

namespace FileTree

variable {tree later : FileTree} {path source target : FilePath} {content : Bytes}

/-! ## What has been read or moved -/

theorem entry_of_contentOf (read : tree.contentOf path = .ok content) :
    ∃ location, tree.locate path = .ok location ∧ path.toDirectory = false ∧
      tree.entryAt? location = some (.file content) := by
  rcases ok_of_bind read with ⟨entry, found, rest⟩
  rcases ok_of_bind found with ⟨location, located, standing⟩
  refine ⟨location, located, ?_⟩
  split at standing
  · cases standing
  · rw [← Except.ok.inj standing] at rest
    cases rest
  · rename_i there
    split at standing
    · cases standing
    · rename_i file
      rw [← Except.ok.inj standing] at rest
      exact ⟨Bool.eq_false_iff.2 file, there.trans (congrArg _ (congrArg _ (Except.ok.inj rest)))⟩

theorem locateFile_of_contentOf (read : tree.contentOf path = .ok content) :
    ∃ location, tree.locateFile path = .ok location ∧
      tree.entryAt? location = some (.file content) := by
  rcases entry_of_contentOf read with ⟨location, located, file, standing⟩
  exact ⟨location, locateFile_iff.2 ⟨located, by simp [standing], file⟩, standing⟩

theorem contains_of_contentOf (read : tree.contentOf path = .ok content) :
    tree.contains path = true := by
  rcases locateFile_of_contentOf read with ⟨location, found, standing⟩
  exact (contentOf_of_entry found standing).2

theorem contentOf_moveFile (read : tree.contentOf source = .ok content)
    (moved : tree.moveFile source target = .ok later) : later.contentOf target = .ok content := by
  rcases locateFile_of_contentOf read with ⟨old, foundOld, standing⟩
  rcases ok_of_bind moved with ⟨_, -, rest⟩
  rcases ok_of_bind rest with ⟨_, -, rest⟩
  rcases ok_of_bind rest with ⟨new, foundNew, -⟩
  rcases moveFile_ok foundOld foundNew standing with ⟨other, same, directories, stands⟩
  rw [moved] at same
  rw [Except.ok.inj same]
  exact (contentOf_of_entry (directories.locateFile foundNew) stands).1

/-! ## Trees that only grow -/

def Within (tree later : FileTree) : Prop :=
  ∀ location entry, tree.entryAt? location = some entry → later.entryAt? location = some entry

theorem Within.refl (tree : FileTree) : tree.Within tree := fun _ _ standing => standing

theorem Within.trans {latest : FileTree} (first : tree.Within later)
    (second : later.Within latest) : tree.Within latest :=
  fun location entry standing => second location entry (first location entry standing)

theorem Within.contentOf (within_ : tree.Within later) (read : tree.contentOf path = .ok content) :
    later.contentOf path = .ok content := by
  have directories : tree.Extends later := fun location => within_ location .directory
  rcases entry_of_contentOf read with ⟨location, located, file, standing⟩
  have stands := within_ location _ standing
  have found : later.locateFile path = .ok location :=
    locateFile_iff.2 ⟨directories.locate located, by simp [stands], file⟩
  exact (contentOf_of_entry found stands).1

theorem within_makeDirectory (made : tree.makeDirectory path = .ok later) : tree.Within later := by
  rcases ok_of_bind made with ⟨location, -, rest⟩
  split at rest
  · cases rest
  · rename_i vacant
    split at rest
    · cases rest
    · intro other entry standing
      rw [← Except.ok.inj rest, entryAt?_put]
      split
      · rename_i same
        rw [← same.1, vacant] at standing
        cases standing
      · exact standing

theorem within_makeDirectoriesAlong (endsInDot : Bool) (backwards : List String)
    (tree : FileTree) : tree.Within (makeDirectoriesAlong endsInDot backwards tree).2 := by
  induction backwards generalizing tree endsInDot with
  | nil => exact .refl tree
  | cons step before induction =>
      rw [makeDirectoriesAlong]
      dsimp only
      split
      · rename_i made
        exact within_makeDirectory made
      · exact .refl tree
      · have parents := induction false tree
        split
        · rename_i outcome
          rw [outcome] at parents
          exact parents
        · rename_i outcome
          rw [outcome] at parents
          split
          · rename_i made
            exact parents.trans (within_makeDirectory made)
          · exact parents

theorem within_makeDirectories (path : FilePath) (tree : FileTree) :
    tree.Within (tree.makeDirectories path).2 := by
  rw [makeDirectories]
  split
  · exact within_makeDirectoriesAlong path.endsInDot path.steps.reverse tree
  · exact .refl tree

end FileTree

/-! ## Directories that hold a file -/

namespace Disk

variable {directory : String} {disk other : Disk} {file : Bytes}

theorem holds_iff :
    Holds directory file disk ↔ disk.tree.contentOf (targetPath directory) = .ok file :=
  ⟨And.left, fun read => ⟨read, FileTree.contains_of_contentOf read⟩⟩

theorem Holds.of_tree (holds : Holds directory file disk) (same : other.tree = disk.tree) :
    Holds directory file other := by
  rw [Holds, same]
  exact holds

theorem Holds.makeDirectories (holds : Holds directory file disk) (path : FilePath) :
    Holds directory file (disk.makeDirectories path).2 := by
  have kept : (disk.makeDirectories path).2.tree.contentOf (targetPath directory) = .ok file :=
    tree_act (fun tree => tree.contentOf (targetPath directory) = .ok file)
      ((FileTree.within_makeDirectories path disk.tree).contentOf holds.1) fun _ => holds.1
  exact holds_iff.2 kept

end Disk

namespace Snapshot

variable {directory : String} {snapshot : Snapshot} {disk after : Disk} {file : Bytes}

/-! ## Saving -/

private theorem inTurn_ok {action : Disk → Except Failure Unit × Disk}
    {actions : List (Disk → Except Failure Unit × Disk)}
    (done : inTurn (action :: actions) disk = (.ok (), after)) :
    ∃ between, action disk = (.ok (), between) ∧ inTurn actions between = (.ok (), after) := by
  rw [inTurn] at done
  split at done
  · cases done
  · rename_i between first
    exact ⟨between, first, done⟩

/-- A snapshot that has been saved is what its directory holds. -/
theorem holds_save (saved : snapshot.save directory disk = (.ok (), after)) :
    Disk.Holds directory snapshot.encode after := by
  rcases inTurn_ok saved with ⟨created, -, rest⟩
  rcases inTurn_ok rest with ⟨written, writing, rest⟩
  rcases inTurn_ok rest with ⟨synced, syncing, rest⟩
  rcases inTurn_ok rest with ⟨moved, moving, last⟩
  have content := Disk.contentOf_writeFile writing
  have same := Disk.tree_syncFile (.ofText (FilePath.below directory draftName)) written
  rw [syncing] at same
  dsimp only at same
  rw [← same] at content
  have replaced := FileTree.contentOf_moveFile content (Disk.change_ok (Disk.act_ok moving))
  rw [← (Prod.mk.inj last).2]
  exact Disk.holds_iff.2 replaced

/-! ## Loading -/

def Seen (directory : String) (disk : Disk) : Prop :=
  (disk.sees (Disk.targetPath directory)).1 = disk.tree.contains (Disk.targetPath directory)

instance (directory : String) (disk : Disk) : Decidable (Seen directory disk) :=
  inferInstanceAs (Decidable (_ = _))

/-- Loading reads the file that the directory holds, unless something goes wrong on the way. If it
is the look that goes wrong, nothing is found. -/
theorem load_held (holds : Disk.Holds directory file disk) :
    (load directory disk).1 = (decode (FilePath.below directory fileName) file).map some ∨
      (∃ failure, (load directory disk).1 = .error failure) ∨
      (load directory disk).1 = .ok none ∧ ¬ Seen directory disk := by
  rw [load, ← Disk.targetPath]
  rcases reading : disk.contentOf? (Disk.targetPath directory) with ⟨failure | - | stored, between⟩
  · exact .inr (.inl ⟨failure, rfl⟩)
  · refine .inr (.inr ⟨rfl, fun seen => ?_⟩)
    rw [Seen, holds.2] at seen
    rw [Disk.contentOf?_seen (Prod.ext seen rfl)] at reading
    rcases found : ((disk.sees (Disk.targetPath directory)).2.readFile
      (Disk.targetPath directory)).1 with failure | content
    all_goals
      rw [found] at reading
      cases reading
  · rw [← Except.ok.inj (holds.1.symm.trans (Disk.contentOf_of_contentOf? reading))]
    exact .inl rfl

theorem load_calm (holds : Disk.Holds directory file disk) (calm : disk.mishaps = []) :
    load directory disk = ((decode (FilePath.below directory fileName) file).map some, disk) := by
  have still : ({ tree := disk.tree } : Disk) = disk := by
    cases disk
    rw [← calm]
  have reading : disk.contentOf? (Disk.targetPath directory) = (.ok (some file), disk) := by
    rw [Disk.contentOf?_calm calm, if_pos holds.2, holds.1, still]
    rfl
  rw [Disk.targetPath] at reading
  rw [load, reading]

/-- A snapshot that has been saved, whatever it holds, is loaded as it was. -/
theorem load_save (fits : snapshot.Fits)
    (saved : (snapshot.save directory disk).1 = .ok ()) :
    (snapshot.save directory disk).2.tree.contentOf (Disk.targetPath directory) =
        .ok snapshot.encode ∧
      ∀ later : Disk, later.tree = (snapshot.save directory disk).2.tree → later.mishaps = [] →
        load directory later = (.ok (some snapshot), later) := by
  have holds := holds_save (Prod.ext saved rfl)
  refine ⟨holds.1, fun later same calm => ?_⟩
  rw [load_calm (holds.of_tree same) calm, decode_encode _ fits]
  rfl

/-- Names and values with quotes, controls and characters of every length, the greatest number, and
sets and maps with nothing in them. -/
def uncommon : Snapshot where
  nextNode := 18446744073709551615
  graph :=
    let properties := ((∅ : Properties).insert "" (.text "\x00\t\"\\é\uFFFF😀")).insert "\n"
      (.bytes [0, 10, 255, 128])
    let nodes := ((∅ : NodeSet).insert 3).insert 18446744073709551615
    let values := ((∅ : NameMap NodeSet).insert "v" nodes).insert "" ∅
    let entries := ((∅ : NameMap (NameMap NodeSet)).insert "k" ∅).insert "\x7F" values
    { nodes := ((∅ : Std.ExtTreeMap NodeId Properties compare).insert 0 ∅).insert
        18446744073709551615 properties
      indexes := ((∅ : NameMap NodeIndex).insert "" {}).insert "/" { entries } }

theorem load_save_uncommon :
    let disk := (Disk.makeDirectories (.ofText "/g") {}).2
    uncommon.Fits ∧ (uncommon.save "/g" disk).1 = .ok () ∧
      load "/g" (uncommon.save "/g" disk).2 = (.ok (some uncommon), (uncommon.save "/g" disk).2) := by
  intro disk
  have fits : uncommon.Fits := by decide +kernel
  have saved : (uncommon.save "/g" disk).1 = .ok () := by decide +kernel
  have calm : (uncommon.save "/g" disk).2.mishaps = [] := by decide +kernel
  exact ⟨fits, saved, (load_save fits saved).2 _ rfl calm⟩

end Snapshot

theorem Disk.Holds.openAt {directory : String} {file : Bytes} {disk : Disk}
    (holds : Holds directory file disk) (other : String) :
    Holds directory file (Engine.openAt other disk).2 :=
  (holds.makeDirectories (.ofText other)).of_tree (Engine.tree_openAt other disk)

/-- Whoever opens an engine at the directory sees whether there is a snapshot. -/
def Engine.Sighted (directory : String) (disk : Disk) : Prop :=
  Snapshot.Seen directory (disk.makeDirectories (.ofText directory)).2

instance (directory : String) (disk : Disk) : Decidable (Engine.Sighted directory disk) :=
  inferInstanceAs (Decidable (Snapshot.Seen _ _))

/-- An engine that has been opened where a snapshot is held starts from this snapshot, unless the
snapshot has been overlooked. -/
theorem Engine.openAt_held {directory : String} {snapshot : Snapshot} {disk : Disk}
    {engine : Engine} (holds : Disk.Holds directory snapshot.encode disk)
    (sighted : Sighted directory disk) (opened : (openAt directory disk).1 = .ok engine) :
    engine = ofGraph (some directory) snapshot.graph snapshot.nextNode := by
  have kept := holds.makeDirectories (.ofText directory)
  rw [Sighted] at sighted
  rw [openAt] at opened
  split at opened
  · cases opened
  rename_i made making
  rw [making] at kept sighted
  split at opened
  · cases opened
  rename_i found read loading
  have decoded : (Snapshot.decode (FilePath.below directory Snapshot.fileName)
      snapshot.encode).map some = .ok found := by
    rcases Snapshot.load_held kept with outcome | ⟨failure, outcome⟩ | ⟨-, overlooked⟩
    · rw [← outcome, loading]
    · rw [loading] at outcome
      cases outcome
    · exact absurd sighted overlooked
  cases outcome : Snapshot.decode (FilePath.below directory Snapshot.fileName) snapshot.encode with
  | error failure =>
      rw [outcome] at decoded
      cases decoded
  | ok restored =>
      rw [outcome, Snapshot.eq_of_decode_encode outcome] at decoded
      rw [← Except.ok.inj opened, ← Except.ok.inj decoded]
      rfl

end RecordGraph
