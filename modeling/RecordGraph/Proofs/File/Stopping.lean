import RecordGraph.Proofs.File.Restoring

namespace RecordGraph

/-! Saving that stops on the way. A snapshot is written beside the old one and replaces it at one
stroke, so wherever saving stops, a reader of the directory is told what was there before or the
whole new snapshot. -/

namespace FileTree

variable {tree later : FileTree} {path other : FilePath} {location : Location} {content : Bytes}

/-! ## Trees that differ in one file -/

theorem SameDirectories.refl (tree : FileTree) : tree.SameDirectories tree := fun _ => Iff.rfl

theorem SameDirectories.symm (same : tree.SameDirectories later) : later.SameDirectories tree :=
  fun location => (same location).symm

theorem SameDirectories.locate_iff (same : tree.SameDirectories later) :
    later.locate path = .ok location ↔ tree.locate path = .ok location :=
  ⟨same.symm.kept.locate, same.kept.locate⟩

theorem SameDirectories.locateFile_iff (same : tree.SameDirectories later) :
    later.locateFile path = .ok location ↔ tree.locateFile path = .ok location :=
  ⟨same.symm.locateFile, same.locateFile⟩

/-- The directories are the same, and so is everything but the file that the path leads to. -/
def SameBeside (path : FilePath) (tree later : FileTree) : Prop :=
  tree.SameDirectories later ∧ ∀ location, tree.locateFile path ≠ .ok location →
    later.entryAt? location = tree.entryAt? location

theorem SameBeside.refl (path : FilePath) (tree : FileTree) : tree.SameBeside path tree :=
  ⟨.refl tree, fun _ _ => rfl⟩

theorem SameBeside.trans {latest : FileTree} (first : tree.SameBeside path later)
    (second : later.SameBeside path latest) : tree.SameBeside path latest := by
  refine ⟨first.1.trans second.1, fun location apart => ?_⟩
  rw [second.2 location (mt first.1.locateFile_iff.1 apart), first.2 location apart]

theorem sameBeside_writeFile (written : tree.writeFile path content = .ok later) :
    tree.SameBeside path later := by
  rcases ok_of_bind written with ⟨place, found, rest⟩
  rw [← Except.ok.inj rest]
  refine ⟨put_sameDirectories (FileTree.locateFile_iff.1 found).2.1, fun location apart => ?_⟩
  rw [entryAt?_put, if_neg]
  rintro ⟨rfl, -⟩
  exact apart found

/-- What a reader is told of a path: nothing if there is no file. -/
def reading (path : FilePath) (tree : FileTree) : Except FileFault (Option Bytes) :=
  if tree.contains path then (tree.contentOf path).map some else .ok none

theorem reading_of_error {fault : FileFault} (lost : tree.locate path = .error fault) :
    tree.reading path = .ok none := by
  have nothing : tree.contains path = false := by
    rw [contains, find, lost]
    rfl
  rw [reading, nothing]
  rfl

theorem reading_none_iff : tree.reading path = .ok none ↔ tree.contains path = false := by
  rw [reading]
  cases tree.contains path with
  | false => exact iff_of_true rfl rfl
  | true =>
      refine iff_of_false (fun none => ?_) Bool.true_eq_false_eq_False.elim
      rw [if_pos rfl] at none
      cases read : tree.contentOf path with
      | error fault =>
          rw [read] at none
          cases none
      | ok content =>
          rw [read] at none
          cases none

theorem reading_congr (here : tree.locate path = .ok location)
    (there : later.locate path = .ok location)
    (standing : later.entryAt? location = tree.entryAt? location) :
    later.reading path = tree.reading path := by
  have found : later.find path = tree.find path := by
    rw [find, find, here, there]
    simp only [bind, Except.bind, standing]
  rw [reading, reading, contains, contains, contentOf, contentOf, found]

theorem SameBeside.reading_eq (same : tree.SameBeside path later)
    (apart : ∀ location, tree.locate other = .ok location → tree.locateFile path ≠ .ok location) :
    later.reading other = tree.reading other := by
  cases located : tree.locate other with
  | ok location =>
      exact reading_congr located (same.1.locate_iff.2 located)
        (same.2 location (apart location located))
  | error fault =>
      cases locatedLater : later.locate other with
      | ok location =>
          rw [same.1.locate_iff.1 locatedLater] at located
          cases located
      | error faultLater => rw [reading_of_error located, reading_of_error locatedLater]

end FileTree

namespace Disk

variable {disk after : Disk} {path source target : FilePath}

/-! ## Actions on one file -/

private theorem sameBeside_change (path : FilePath) (content : Bytes) (tree : FileTree) :
    tree.SameBeside path (change (·.writeFile path content) tree).2 := by
  rw [change]
  split
  · rename_i written
    exact FileTree.sameBeside_writeFile written
  · exact .refl path tree

theorem sameBeside_createFile (path : FilePath) (disk : Disk) :
    disk.tree.SameBeside path (disk.createFile path).2.tree :=
  tree_act (disk.tree.SameBeside path) (sameBeside_change path [] disk.tree) fun _ =>
    .refl path disk.tree

theorem sameBeside_writeFile (path : FilePath) (content : Bytes) (disk : Disk) :
    disk.tree.SameBeside path (disk.writeFile path content).2.tree :=
  tree_act (disk.tree.SameBeside path) (sameBeside_change path content disk.tree) fun reached =>
    sameBeside_change path (content.take reached) disk.tree

theorem sameBeside_syncFile (path : FilePath) (disk : Disk) :
    disk.tree.SameBeside path (disk.syncFile path).2.tree := by
  rw [tree_syncFile]
  exact .refl path disk.tree

theorem tree_act_error {Result : Type} {failure : Failure}
    {action : FileTree → Except FileFault Result × FileTree}
    (kept : ∀ fault, (action disk.tree).1 = .error fault → (action disk.tree).2 = disk.tree)
    (wrong : disk.act untouched action = (.error failure, after)) : after.tree = disk.tree := by
  have refused {mishaps : List (Option Nat)} (same : ((action disk.tree).1.mapError failed,
      ({ tree := (action disk.tree).2, mishaps } : Disk)) = (.error failure, after)) :
      after.tree = disk.tree := by
    rw [← (Prod.mk.inj same).2]
    cases answer : (action disk.tree).1 with
    | error fault => exact kept fault answer
    | ok result =>
        rw [answer] at same
        cases same
  rw [act] at wrong
  split at wrong
  · rw [← (Prod.mk.inj wrong).2]
    rfl
  · exact refused wrong
  · exact refused wrong

theorem tree_moveFile_error {failure : Failure}
    (wrong : disk.moveFile source target = (.error failure, after)) : after.tree = disk.tree := by
  refine tree_act_error (fun fault refused => ?_) wrong
  rw [change] at refused ⊢
  split at refused
  · cases refused
  · rfl

/-! ## Readers of like trees -/

/-- An action answers the same, and leaves the same mishaps, where nothing but the rest of the tree
differs. -/
theorem act_congr {Result : Type} {other : Disk} (broken : Nat → FileTree → FileTree)
    (action : FileTree → Except FileFault Result × FileTree)
    (mishaps : disk.mishaps = other.mishaps) (same : (action disk.tree).1 = (action other.tree).1) :
    (disk.act broken action).1 = (other.act broken action).1 ∧
      (disk.act broken action).2.mishaps = (other.act broken action).2.mishaps := by
  rw [act, act, ← mishaps]
  split
  · exact ⟨rfl, rfl⟩
  · exact ⟨congrArg (·.mapError failed) same, rfl⟩
  · exact ⟨congrArg (·.mapError failed) same, rfl⟩

theorem sees_congr {other : Disk} (mishaps : disk.mishaps = other.mishaps)
    (same : disk.tree.contains path = other.tree.contains path) :
    (disk.sees path).1 = (other.sees path).1 ∧
      (disk.sees path).2.mishaps = (other.sees path).2.mishaps := by
  obtain ⟨answer, later⟩ := act_congr untouched
    (fun tree => (.ok (tree.contains path), tree)) mishaps (congrArg Except.ok same)
  rw [sees, sees]
  generalize disk.act untouched _ = one at answer later
  generalize other.act untouched _ = two at answer later
  rcases one with ⟨one, after⟩
  rcases two with ⟨two, afterOther⟩
  dsimp only at answer later
  subst answer
  cases one with
  | error failure => exact ⟨rfl, later⟩
  | ok found => exact ⟨rfl, later⟩

private theorem map_some_inj {Cause Result : Type} {one other : Except Cause Result}
    (same : one.map some = other.map some) : one = other := by
  cases one with
  | error cause =>
      cases other with
      | error => rw [Except.error.inj same]
      | ok => cases same
  | ok result =>
      cases other with
      | error => cases same
      | ok => rw [Option.some.inj (Except.ok.inj same)]

theorem contentOf?_congr {other : Disk} (mishaps : disk.mishaps = other.mishaps)
    (told : disk.tree.reading path = other.tree.reading path) :
    (disk.contentOf? path).1 = (other.contentOf? path).1 := by
  have there : disk.tree.contains path = other.tree.contains path := by
    rw [Bool.eq_iff_iff, ← not_iff_not, Bool.not_eq_true, Bool.not_eq_true,
      ← FileTree.reading_none_iff, ← FileTree.reading_none_iff, told]
  obtain ⟨answer, later⟩ := sees_congr mishaps there
  have tree := tree_sees path disk
  have treeOther := tree_sees path other
  rcases looking : disk.sees path with ⟨found, between⟩
  rcases lookingOther : other.sees path with ⟨foundOther, betweenOther⟩
  rw [looking, lookingOther] at answer later
  rw [looking] at tree
  rw [lookingOther] at treeOther
  dsimp only at answer later tree treeOther
  subst answer
  cases found with
  | false => rw [contentOf?_unseen looking, contentOf?_unseen lookingOther]
  | true =>
      have exists_ := contains_of_sees looking
      rw [FileTree.reading, FileTree.reading, ← there, if_pos exists_, if_pos exists_] at told
      have content : between.tree.contentOf path = betweenOther.tree.contentOf path := by
        rw [tree, treeOther]
        exact map_some_inj told
      have read := act_congr untouched (fun tree => (tree.contentOf path, tree)) later content
      rw [contentOf?_seen looking, contentOf?_seen lookingOther]
      exact congrArg (·.map some) read.1

end Disk

namespace Snapshot

variable {directory : String} {snapshot : Snapshot} {disk after : Disk} {path : FilePath}

/-! ## Steps of saving -/

def steps (directory : String) (snapshot : Snapshot) : List (Disk → Except Failure Unit × Disk) :=
  let draft := Disk.draftPath directory
  [(·.createFile draft), (·.writeFile draft snapshot.encode), (·.syncFile draft),
    (·.moveFile draft (Disk.targetPath directory))]

/-- The first steps of saving, all of them if there are no more than `count`. One that goes wrong is
the last. -/
def saveFor (count : Nat) (directory : String) (snapshot : Snapshot) (disk : Disk) :
    Except Failure Unit × Disk :=
  inTurn ((steps directory snapshot).take count) disk

theorem saveFor_of_le {count : Nat} (all : 4 ≤ count) :
    saveFor count directory snapshot disk = snapshot.save directory disk := by
  rw [saveFor, List.take_of_length_le all]
  rfl

theorem sameBeside_inTurn {actions : List (Disk → Except Failure Unit × Disk)}
    (beside : ∀ action ∈ actions, ∀ disk : Disk, disk.tree.SameBeside path (action disk).2.tree)
    (disk : Disk) : disk.tree.SameBeside path (inTurn actions disk).2.tree := by
  induction actions generalizing disk with
  | nil => exact .refl path disk.tree
  | cons action actions induction =>
      have first := beside action List.mem_cons_self disk
      rw [inTurn]
      split
      · rename_i outcome
        rw [outcome] at first
        exact first
      · rename_i between outcome
        rw [outcome] at first
        exact first.trans
          (induction (fun other member => beside other (List.mem_cons_of_mem _ member)) between)

private theorem sameBeside_draft (directory : String) (snapshot : Snapshot) :
    ∀ action ∈ (steps directory snapshot).take 3, ∀ disk : Disk,
      disk.tree.SameBeside (Disk.draftPath directory) (action disk).2.tree := by
  intro action member disk
  simp only [steps, List.take_succ_cons, List.take_zero, List.mem_cons, List.not_mem_nil,
    or_false] at member
  rcases member with rfl | rfl | rfl
  · exact Disk.sameBeside_createFile _ disk
  · exact Disk.sameBeside_writeFile _ _ disk
  · exact Disk.sameBeside_syncFile _ disk

theorem inTurn_append (first second : List (Disk → Except Failure Unit × Disk)) (disk : Disk) :
    inTurn (first ++ second) disk = match inTurn first disk with
      | (.error failure, disk) => (.error failure, disk)
      | (.ok (), disk) => inTurn second disk := by
  induction first generalizing disk with
  | nil => rfl
  | cons action actions induction =>
      rw [List.cons_append, inTurn, inTurn]
      rcases action disk with ⟨failure | done, between⟩
      · rfl
      · exact induction between

theorem sameBeside_save {failure : Failure}
    (failed : snapshot.save directory disk = (.error failure, after)) :
    disk.tree.SameBeside (Disk.draftPath directory) after.tree := by
  have drafted := sameBeside_inTurn (sameBeside_draft directory snapshot) disk
  have parts : snapshot.save directory disk = inTurn ((steps directory snapshot).take 3 ++
      [(·.moveFile (Disk.draftPath directory) (Disk.targetPath directory))]) disk := rfl
  rw [parts, inTurn_append] at failed
  rcases drafting : inTurn ((steps directory snapshot).take 3) disk with ⟨refused | done, between⟩
  · rw [drafting] at failed drafted
    rw [← (Prod.mk.inj failed).2]
    exact drafted
  · rw [drafting] at failed drafted
    dsimp only [inTurn] at failed
    rcases moving : between.moveFile (Disk.draftPath directory) (Disk.targetPath directory) with
      ⟨refused | done, moved⟩
    · rw [moving] at failed
      rw [← (Prod.mk.inj failed).2, Disk.tree_moveFile_error moving]
      exact drafted
    · rw [moving] at failed
      cases failed

/-- Wherever saving stops, only the draft has been touched, or the snapshot is in its place. -/
theorem sameBeside_or_holds (count : Nat) (directory : String) (snapshot : Snapshot)
    (disk : Disk) :
    disk.tree.SameBeside (Disk.draftPath directory)
        (saveFor count directory snapshot disk).2.tree ∨
      Disk.Holds directory snapshot.encode (saveFor count directory snapshot disk).2 := by
  rcases Nat.lt_or_ge count 4 with few | all
  · have shortened : (steps directory snapshot).take count =
        ((steps directory snapshot).take 3).take count := by
      rw [List.take_take, Nat.min_eq_left (Nat.le_of_lt_succ few)]
    rw [saveFor, shortened]
    exact .inl (sameBeside_inTurn
      (fun action member => sameBeside_draft directory snapshot action
        (List.mem_of_mem_take member)) disk)
  · rw [saveFor_of_le all]
    rcases saving : snapshot.save directory disk with ⟨failure | done, after⟩
    · exact .inl (sameBeside_save saving)
    · exact .inr (holds_save saving)

/-! ## Loading afterwards -/

theorem answer_load (directory : String) (disk : Disk) :
    (load directory disk).1 = match (disk.contentOf? (Disk.targetPath directory)).1 with
      | .error failure => .error failure
      | .ok none => .ok none
      | .ok (some file) => (decode (FilePath.below directory fileName) file).map some := by
  rw [load, ← Disk.targetPath]
  rcases disk.contentOf? (Disk.targetPath directory) with ⟨failure | - | file, after⟩
  · rfl
  · rfl
  · rfl

theorem load_congr {other : Disk} (mishaps : disk.mishaps = other.mishaps)
    (told : disk.tree.reading (Disk.targetPath directory) =
      other.tree.reading (Disk.targetPath directory)) :
    (load directory disk).1 = (load directory other).1 := by
  rw [answer_load, answer_load, Disk.contentOf?_congr mishaps told]

theorem draft_apart (directory : String) (tree : FileTree) (location : Location)
    (found : tree.locate (Disk.targetPath directory) = .ok location) :
    tree.locateFile (Disk.draftPath directory) ≠ .ok location := by
  intro same
  have target : location.getLast? = some fileName :=
    FileTree.last_locate (by decide) (FilePath.last_below directory (by decide)) found
  have draft : location.getLast? = some draftName :=
    FileTree.last_locate (by decide) (FilePath.last_below directory (by decide))
      (FileTree.locateFile_iff.1 same).1
  rw [target] at draft
  exact absurd (Option.some.inj draft) (by decide)

/-- The disk fails once more, after a reader has seen the snapshot and before it has read it. -/
def Unread (directory : String) (disk : Disk) : Prop :=
  disk.mishaps ≠ [] ∧ (load directory disk).1 = .error Disk.mishap

private theorem load_replaced (fits : snapshot.Fits)
    (holds : Disk.Holds directory snapshot.encode disk) (tree : FileTree) :
    (load directory disk).1 = (load directory { disk with tree }).1 ∨
      (load directory disk).1 = .ok (some snapshot) ∨ Unread directory disk := by
  rcases disk with ⟨whole, - | ⟨- | reached, mishaps⟩⟩
  · rw [load_calm holds rfl, decode_encode _ fits]
    exact .inr (.inl rfl)
  · have looked : (⟨whole, none :: mishaps⟩ : Disk).sees (Disk.targetPath directory) =
        (true, ⟨whole, mishaps⟩) := congrArg (·, (⟨whole, mishaps⟩ : Disk)) holds.2
    have answer := answer_load directory ⟨whole, none :: mishaps⟩
    rw [Disk.contentOf?_seen looked] at answer
    have told (read : ((⟨whole, mishaps⟩ : Disk).readFile (Disk.targetPath directory)).1 =
        .ok snapshot.encode) : (load directory ⟨whole, none :: mishaps⟩).1 = .ok (some snapshot) := by
      rw [answer, read]
      exact congrArg (·.map some) (decode_encode _ fits)
    have content := congrArg (·.mapError Disk.failed) holds.1
    rcases mishaps with - | ⟨- | reached, rest⟩
    · exact .inr (.inl (told content))
    · exact .inr (.inl (told content))
    · exact .inr (.inr ⟨List.cons_ne_nil _ _, answer⟩)
  · exact .inl rfl

/-- After a save that has stopped anywhere a reader is told what was there before, or the new
snapshot. -/
theorem load_saveFor (fits : snapshot.Fits) {count : Nat} {later : Disk}
    (same : later.tree = (saveFor count directory snapshot disk).2.tree) :
    (load directory later).1 = (load directory { later with tree := disk.tree }).1 ∨
      (load directory later).1 = .ok (some snapshot) ∨ Unread directory later := by
  rcases sameBeside_or_holds count directory snapshot disk with beside | holds
  · refine .inl (load_congr rfl ?_)
    rw [same]
    exact beside.reading_eq (draft_apart directory disk.tree)
  · exact load_replaced fits (holds.of_tree same) disk.tree

/-- Whatever has been tried, a reader is told what was there in the beginning or one of the snapshots
that have been tried. -/
theorem load_attempts {attempts : List (Snapshot × Nat)}
    (fits : ∀ attempt ∈ attempts, attempt.1.Fits) {later : Disk}
    (same : later.tree = (attempts.foldl (fun disk attempt =>
      (saveFor attempt.2 directory attempt.1 disk).2) disk).tree) :
    (load directory later).1 = (load directory { later with tree := disk.tree }).1 ∨
      (∃ attempt ∈ attempts, (load directory later).1 = .ok (some attempt.1)) ∨
      Unread directory later := by
  induction attempts generalizing disk with
  | nil =>
      rw [List.foldl_nil] at same
      exact .inl (by rw [← same])
  | cons attempt attempts induction =>
      rw [List.foldl_cons] at same
      rcases induction (fun other member => fits other (List.mem_cons_of_mem _ member)) same with
        before | ⟨other, member, told⟩ | unread
      · have first : ({ later with tree := (saveFor attempt.2 directory attempt.1 disk).2.tree } :
            Disk).tree = (saveFor attempt.2 directory attempt.1 disk).2.tree := rfl
        rw [Unread, before]
        exact (load_saveFor (fits attempt List.mem_cons_self) first).imp_right
          (.imp_left fun told => ⟨attempt, List.mem_cons_self, told⟩)
      · exact .inr (.inl ⟨other, List.mem_cons_of_mem _ member, told⟩)
      · exact .inr (.inr unread)

/-- Replacing a snapshot is all or nothing. The steps of saving may end early, and one of them may go
wrong, after any number of bytes if it writes; whatever the directory held before, and whatever has
been left in the draft, a reader is told afterwards exactly what it would have been told before, or
exactly the new snapshot, unless the disk fails under the reader itself, who then is told of the
failure. It is told the new snapshot if saving has succeeded. -/
theorem load_stopped (directory : String) {snapshot : Snapshot} (fits : snapshot.Fits)
    (disk : Disk) (count : Nat) :
    (∀ later : Disk, later.tree = (saveFor count directory snapshot disk).2.tree →
        (load directory later).1 = (load directory { later with tree := disk.tree }).1 ∨
          (load directory later).1 = .ok (some snapshot) ∨ Unread directory later) ∧
      ((snapshot.save directory disk).1 = .ok () →
        ∀ later : Disk, later.tree = (snapshot.save directory disk).2.tree →
          later.mishaps = [] → load directory later = (.ok (some snapshot), later)) := by
  refine ⟨fun later same => load_saveFor fits same, fun saved later same calm => ?_⟩
  have holds := holds_save (Prod.ext saved rfl)
  rw [load_calm (holds.of_tree same) calm, decode_encode _ fits]
  rfl

/-- A save over an earlier snapshot breaks off after 20 bytes, and succeeds when it is repeated. -/
theorem load_stopped_midway :
    let earlier : Snapshot := { nextNode := 7 }
    let stored := (earlier.save "/g" (Disk.makeDirectories (.ofText "/g") {}).2).2
    let failing : Disk := { stored with mishaps := [none, some 20] }
    let left : Disk := { tree := (uncommon.save "/g" failing).2.tree }
    let finished : Disk := { tree := (uncommon.save "/g" left).2.tree }
    uncommon.Fits ∧ (uncommon.save "/g" failing).1 = .error Disk.mishap ∧
      (left.tree.contentOf (Disk.draftPath "/g")).map List.length = .ok 20 ∧
      (load "/g" left).1 = .ok (some earlier) ∧ (uncommon.save "/g" left).1 = .ok () ∧
      load "/g" finished = (.ok (some uncommon), finished) := by
  intro earlier stored failing left finished
  have fits : uncommon.Fits := by decide +kernel
  have saved : (uncommon.save "/g" left).1 = .ok () := by decide +kernel
  have before : (load "/g" { left with tree := failing.tree }).1 = .ok (some earlier) := by
    decide +kernel
  have old : (load "/g" left).1 ≠ .ok (some uncommon) := by decide +kernel
  have stopped := ((load_stopped "/g" fits failing 4).1 left rfl).resolve_right fun other =>
    other.elim old fun unread => unread.1 rfl
  exact ⟨fits, by decide +kernel, by decide +kernel, stopped.trans before, saved,
    (load_stopped "/g" fits left 4).2 saved finished rfl rfl⟩

end Snapshot

end RecordGraph
