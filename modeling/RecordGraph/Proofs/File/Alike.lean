import RecordGraph.Proofs.File.Saving

namespace RecordGraph

/-! Disks that differ in nothing but the contents of files. The same is done on both of them, and it
goes well or wrong in the same way, as long as the files with the name of a snapshot are decoded in
the same way. -/

inductive Together {Cause First Second : Type} (related : First → Second → Prop) :
    Except Cause First → Except Cause Second → Prop where
  | failed (cause : Cause) : Together related (.error cause) (.error cause)
  | done {first : First} {second : Second} (same : related first second) :
      Together related (.ok first) (.ok second)

theorem Together.mapError {Cause Other First Second : Type} {related : First → Second → Prop}
    {one : Except Cause First} {two : Except Cause Second} (together : Together related one two)
    (change : Cause → Other) : Together related (one.mapError change) (two.mapError change) := by
  cases together with
  | failed cause => exact .failed (change cause)
  | done same => exact .done same

/-! ## Trees -/

inductive FileEntry.Pairs (fit : Bytes → Bytes → Prop) : FileEntry → FileEntry → Prop where
  | directory : Pairs fit .directory .directory
  | file {one other : Bytes} (fits : fit one other) : Pairs fit (.file one) (.file other)

namespace FileTree

/-- The same directories and files are there, and those files that have the name fit each other. -/
def Alike (name : String) (fit : Bytes → Bytes → Prop) (tree other : FileTree) : Prop :=
  ∀ location, Option.Rel
    (FileEntry.Pairs fun one two => location.getLast? = some name → fit one two)
    (tree.entryAt? location) (other.entryAt? location)

variable {name : String} {fit : Bytes → Bytes → Prop} {tree other : FileTree} {path : FilePath}
  {location : Location}

namespace Alike

theorem mono (alike : tree.Alike name fit other) {more : Bytes → Bytes → Prop}
    (fits : ∀ one two, fit one two → more one two) : tree.Alike name more other := by
  intro location
  have standing := alike location
  generalize tree.entryAt? location = one at standing
  generalize other.entryAt? location = two at standing
  cases standing with
  | none => exact .none
  | some pairs =>
      cases pairs with
      | directory => exact .some .directory
      | file fit => exact .some (.file fun last => fits _ _ (fit last))

theorem put (alike : tree.Alike name fit other) {one two : FileEntry}
    (pairs : FileEntry.Pairs (fun one two => location.getLast? = some name → fit one two) one two) :
    (tree.put location one).Alike name fit (other.put location two) := by
  intro place
  rw [entryAt?_put, entryAt?_put]
  split
  · rename_i same
    exact .some (same.1 ▸ pairs)
  · exact alike place

theorem erase (alike : tree.Alike name fit other) (location : Location) :
    Alike name fit { entries := tree.entries.erase location }
      { entries := other.entries.erase location } := by
  intro place
  rw [entryAt?_erase, entryAt?_erase]
  split
  · exact .none
  · exact alike place

/-! ## Paths -/

theorem follow_eq (alike : tree.Alike name fit other) (here : Location) (steps : List String) :
    tree.follow here steps = other.follow here steps := by
  induction steps generalizing here with
  | nil => rfl
  | cons step steps induction =>
      rw [follow, follow, induction, induction]
      have standing := alike here
      generalize tree.entryAt? here = one at standing
      generalize other.entryAt? here = two at standing
      cases standing with
      | none => rfl
      | some pairs =>
          cases pairs with
          | directory => rfl
          | file fits => rfl

theorem locate_eq (alike : tree.Alike name fit other) (path : FilePath) :
    tree.locate path = other.locate path := by
  rw [locate, locate, alike.follow_eq]

theorem find (alike : tree.Alike name fit other) (path : FilePath) :
    Together (FileEntry.Pairs fun one two => ∀ location, tree.locate path = .ok location →
      location.getLast? = some name → fit one two) (tree.find path) (other.find path) := by
  rw [FileTree.find, FileTree.find, alike.locate_eq]
  cases other.locate path with
  | error fault => exact .failed fault
  | ok location =>
      have standing := alike location
      simp only [bind, Except.bind]
      generalize tree.entryAt? location = one at standing
      generalize other.entryAt? location = two at standing
      cases standing with
      | none => exact .failed FileFault.missing
      | some pairs =>
          cases pairs with
          | directory => exact .done .directory
          | file fits =>
              dsimp only
              split
              · exact .failed FileFault.refused
              · refine .done (.file fun place same => ?_)
                rw [← Except.ok.inj same]
                exact fits

theorem contains_eq (alike : tree.Alike name fit other) (path : FilePath) :
    tree.contains path = other.contains path := by
  have found := alike.find path
  rw [contains, contains]
  generalize tree.find path = one at found
  generalize other.find path = two at found
  cases found with
  | failed fault => rfl
  | done pairs => rfl

theorem isDirectory_eq (alike : tree.Alike name fit other) (path : FilePath) :
    tree.isDirectory path = other.isDirectory path := by
  have found := alike.find path
  rw [isDirectory, isDirectory]
  generalize tree.find path = one at found
  generalize other.find path = two at found
  cases found with
  | failed fault => rfl
  | done pairs =>
      cases pairs with
      | directory => rfl
      | file fits => rfl

theorem contentOf (alike : tree.Alike name fit other) (down : name ≠ "..") (path : FilePath) :
    Together (fun one two => path.steps.getLast? = some name → fit one two) (tree.contentOf path)
      (other.contentOf path) := by
  have found := alike.find path
  rw [FileTree.contentOf, FileTree.contentOf]
  rcases located : tree.locate path with fault | location
  · have missing {tree : FileTree} (located : tree.locate path = .error fault) :
        tree.find path = .error fault := by
      rw [FileTree.find, located]
      rfl
    rw [missing located, missing ((alike.locate_eq path).symm.trans located)]
    exact .failed fault
  · generalize tree.find path = one at found
    generalize other.find path = two at found
    cases found with
    | failed fault => exact .failed fault
    | done pairs =>
        cases pairs with
        | directory => exact .failed FileFault.refused
        | file fits =>
            exact .done fun last => fits location located (last_locate down last located)

theorem locateFile_eq (alike : tree.Alike name fit other) (path : FilePath) :
    tree.locateFile path = other.locateFile path := by
  rw [locateFile, locateFile, alike.locate_eq]
  cases other.locate path with
  | error fault => rfl
  | ok location =>
      have standing := alike location
      simp only [bind, Except.bind]
      generalize tree.entryAt? location = one at standing
      generalize other.entryAt? location = two at standing
      cases standing with
      | none => rfl
      | some pairs =>
          cases pairs with
          | directory => rfl
          | file fits => rfl

/-! ## Changes -/

theorem writeFile (alike : tree.Alike name fit other) {own : String} (down : own ≠ "..")
    (last : path.steps.getLast? = some own) (different : own ≠ name) (one two : Bytes) :
    Together (Alike name fit) (tree.writeFile path one) (other.writeFile path two) := by
  rw [FileTree.writeFile, FileTree.writeFile, ← alike.locateFile_eq]
  cases found : tree.locateFile path with
  | error fault => exact .failed fault
  | ok location =>
      refine .done (alike.put (.file fun same => ?_))
      rw [last_locate down last (locateFile_iff.1 found).1] at same
      exact absurd (Option.some.inj same) different

theorem moveFile (alike : tree.Alike name fit other) (down : name ≠ "..") {source : FilePath}
    (fits : ∀ one two, tree.contentOf source = .ok one → other.contentOf source = .ok two →
      fit one two) (target : FilePath) :
    Together (Alike name fit) (tree.moveFile source target) (other.moveFile source target) := by
  have read := alike.contentOf down source
  rw [FileTree.moveFile, FileTree.moveFile, ← alike.locateFile_eq, ← alike.locateFile_eq]
  generalize tree.contentOf source = one at read fits
  generalize other.contentOf source = two at read fits
  cases read with
  | failed fault => exact .failed fault
  | done =>
      cases tree.locateFile source with
      | error fault => exact .failed fault
      | ok old =>
          cases tree.locateFile target with
          | error fault => exact .failed fault
          | ok new => exact .done ((alike.erase old).put (.file fun _ => fits _ _ rfl rfl))

theorem makeDirectory (alike : tree.Alike name fit other) (path : FilePath) :
    Together (Alike name fit) (tree.makeDirectory path) (other.makeDirectory path) := by
  rw [FileTree.makeDirectory, FileTree.makeDirectory, ← alike.locate_eq]
  cases tree.locate path with
  | error fault => exact .failed fault
  | ok location =>
      have standing := alike location
      simp only [bind, Except.bind]
      generalize tree.entryAt? location = one at standing
      generalize other.entryAt? location = two at standing
      cases standing with
      | some pairs => exact .failed FileFault.refused
      | none =>
          dsimp only
          split
          · exact .failed FileFault.missing
          · exact .done (alike.put .directory)

theorem makeDirectoriesAlong (alike : tree.Alike name fit other) (endsInDot : Bool)
    (backwards : List String) :
    (makeDirectoriesAlong endsInDot backwards tree).1 =
        (makeDirectoriesAlong endsInDot backwards other).1 ∧
      (makeDirectoriesAlong endsInDot backwards tree).2.Alike name fit
        (makeDirectoriesAlong endsInDot backwards other).2 := by
  induction backwards generalizing tree other endsInDot with
  | nil => exact ⟨rfl, alike⟩
  | cons step before induction =>
      rw [FileTree.makeDirectoriesAlong, FileTree.makeDirectoriesAlong]
      dsimp only
      set whole : FilePath := { steps := (step :: before).reverse, endsInDot }
      have first := alike.makeDirectory whole
      generalize tree.makeDirectory whole = one at first
      generalize other.makeDirectory whole = two at first
      cases first with
      | done made => exact ⟨rfl, made⟩
      | failed fault =>
          cases fault with
          | refused => exact ⟨by rw [alike.isDirectory_eq], alike⟩
          | missing =>
              obtain ⟨outcome, parents⟩ := induction alike false
              dsimp only
              generalize FileTree.makeDirectoriesAlong false before tree = one at outcome parents
              generalize FileTree.makeDirectoriesAlong false before other = two at outcome parents
              rcases one with ⟨one, grown⟩
              rcases two with ⟨two, grownOther⟩
              dsimp only at outcome parents
              subst outcome
              cases one with
              | error fault => exact ⟨rfl, parents⟩
              | ok =>
                  dsimp only
                  have second := parents.makeDirectory whole
                  generalize grown.makeDirectory whole = one at second
                  generalize grownOther.makeDirectory whole = two at second
                  cases second with
                  | done made => exact ⟨rfl, made⟩
                  | failed fault => exact ⟨by rw [parents.isDirectory_eq], parents⟩

theorem makeDirectories (alike : tree.Alike name fit other) (path : FilePath) :
    (tree.makeDirectories path).1 = (other.makeDirectories path).1 ∧
      (tree.makeDirectories path).2.Alike name fit (other.makeDirectories path).2 := by
  rw [FileTree.makeDirectories, FileTree.makeDirectories]
  split
  · exact alike.makeDirectoriesAlong path.endsInDot path.steps.reverse
  · exact ⟨rfl, alike⟩

end Alike

end FileTree

/-! ## Disks -/

/-- The files are decoded in the same way, and to snapshots that are related. -/
def Snapshot.Decoding (related : Snapshot → Snapshot → Prop) (one two : Bytes) : Prop :=
  ∀ name, Together related (decode name one) (decode name two)

namespace Disk

/-- The same mishaps are to come, and the trees differ in contents only. -/
structure Alike (related : Snapshot → Snapshot → Prop) (disk other : Disk) : Prop where
  mishaps : disk.mishaps = other.mishaps
  tree : disk.tree.Alike Snapshot.fileName (Snapshot.Decoding related) other.tree

variable {related : Snapshot → Snapshot → Prop} {disk other : Disk} {path : FilePath}

theorem Alike.act (alike : disk.Alike related other) {First Second : Type}
    {same : First → Second → Prop} {broken brokenOther : Nat → FileTree → FileTree}
    {action : FileTree → Except FileFault First × FileTree}
    {actionOther : FileTree → Except FileFault Second × FileTree}
    (outcomes : Together same (action disk.tree).1 (actionOther other.tree).1)
    (whole : (action disk.tree).2.Alike Snapshot.fileName (Snapshot.Decoding related)
      (actionOther other.tree).2)
    (part : ∀ reached, (broken reached disk.tree).Alike Snapshot.fileName
      (Snapshot.Decoding related) (brokenOther reached other.tree)) :
    Together same (disk.act broken action).1 (other.act brokenOther actionOther).1 ∧
      (disk.act broken action).2.Alike related (other.act brokenOther actionOther).2 := by
  rw [Disk.act, Disk.act, ← alike.mishaps]
  split
  · exact ⟨.failed _, rfl, part _⟩
  · exact ⟨outcomes.mapError failed, rfl, whole⟩
  · exact ⟨outcomes.mapError failed, rfl, whole⟩

private theorem alike_change (alike : disk.Alike related other)
    {action actionOther : FileTree → Except FileFault FileTree}
    (outcomes : Together (FileTree.Alike Snapshot.fileName (Snapshot.Decoding related))
      (action disk.tree) (actionOther other.tree)) :
    Together (fun _ _ => True) (change action disk.tree).1 (change actionOther other.tree).1 ∧
      (change action disk.tree).2.Alike Snapshot.fileName (Snapshot.Decoding related)
        (change actionOther other.tree).2 := by
  rw [change, change]
  generalize action disk.tree = one at outcomes
  generalize actionOther other.tree = two at outcomes
  cases outcomes with
  | failed fault => exact ⟨.failed fault, alike.tree⟩
  | done changed => exact ⟨.done trivial, changed⟩

def Answers (related : Snapshot → Snapshot → Prop) (one two : Except Failure Unit × Disk) : Prop :=
  Together (fun _ _ => True) one.1 two.1 ∧ one.2.Alike related two.2

theorem Alike.makeDirectories (alike : disk.Alike related other) (path : FilePath) :
    Answers related (disk.makeDirectories path) (other.makeDirectories path) := by
  obtain ⟨outcome, made⟩ := alike.tree.makeDirectories path
  refine alike.act ?_ made fun _ => alike.tree
  rw [outcome]
  cases (other.tree.makeDirectories path).1 with
  | error fault => exact .failed fault
  | ok => exact .done trivial

theorem Alike.writeFile (alike : disk.Alike related other) {own : String} (down : own ≠ "..")
    (last : path.steps.getLast? = some own) (different : own ≠ Snapshot.fileName)
    (one two : Bytes) : Answers related (disk.writeFile path one) (other.writeFile path two) := by
  have written (one two : Bytes) :=
    alike_change alike (alike.tree.writeFile down last different one two)
  exact alike.act (written one two).1 (written one two).2 fun reached =>
    (written (one.take reached) (two.take reached)).2

theorem Alike.createFile (alike : disk.Alike related other) {own : String} (down : own ≠ "..")
    (last : path.steps.getLast? = some own) (different : own ≠ Snapshot.fileName) :
    Answers related (disk.createFile path) (other.createFile path) := by
  obtain ⟨outcome, created⟩ :=
    alike_change alike (alike.tree.writeFile down last different [] [])
  exact alike.act outcome created fun _ => alike.tree

theorem Alike.syncFile (alike : disk.Alike related other) (path : FilePath) :
    Answers related (disk.syncFile path) (other.syncFile path) :=
  alike.act (.done trivial) alike.tree fun _ => alike.tree

theorem Alike.moveFile (alike : disk.Alike related other) {source : FilePath}
    (fits : ∀ one two, disk.tree.contentOf source = .ok one → other.tree.contentOf source = .ok two →
      Snapshot.Decoding related one two) (target : FilePath) :
    Answers related (disk.moveFile source target) (other.moveFile source target) := by
  have down : Snapshot.fileName ≠ ".." := by decide
  obtain ⟨outcome, moved⟩ := alike_change alike (alike.tree.moveFile down fits target)
  exact alike.act outcome moved fun _ => alike.tree

theorem Alike.sees (alike : disk.Alike related other) (path : FilePath) :
    (disk.sees path).1 = (other.sees path).1 ∧
      (disk.sees path).2.Alike related (other.sees path).2 := by
  let look : FileTree → Except FileFault Bool × FileTree :=
    fun tree => (.ok (tree.contains path), tree)
  have looked : Together Eq (disk.act untouched look).1 (other.act untouched look).1 ∧
      (disk.act untouched look).2.Alike related (other.act untouched look).2 :=
    alike.act (.done (alike.tree.contains_eq path)) alike.tree fun _ => alike.tree
  obtain ⟨outcome, after⟩ := looked
  rw [Disk.sees, Disk.sees]
  generalize disk.act untouched _ = one at outcome after
  generalize other.act untouched _ = two at outcome after
  rcases one with ⟨one, between⟩
  rcases two with ⟨two, betweenOther⟩
  dsimp only at outcome after
  cases outcome with
  | failed failure => exact ⟨rfl, after⟩
  | done same => exact ⟨same, after⟩

theorem Alike.readFile (alike : disk.Alike related other)
    (last : path.steps.getLast? = some Snapshot.fileName) :
    Together (Snapshot.Decoding related) (disk.readFile path).1 (other.readFile path).1 ∧
      (disk.readFile path).2.Alike related (other.readFile path).2 := by
  refine alike.act ?_ alike.tree fun _ => alike.tree
  have read := alike.tree.contentOf (by decide) path
  dsimp only
  generalize disk.tree.contentOf path = one at read
  generalize other.tree.contentOf path = two at read
  cases read with
  | failed fault => exact .failed fault
  | done fits => exact .done (fits last)

theorem Alike.contentOf? (alike : disk.Alike related other)
    (last : path.steps.getLast? = some Snapshot.fileName) :
    Together (Option.Rel (Snapshot.Decoding related)) (disk.contentOf? path).1
        (other.contentOf? path).1 ∧
      (disk.contentOf? path).2.Alike related (other.contentOf? path).2 := by
  obtain ⟨seen, between⟩ := alike.sees path
  rcases looking : disk.sees path with ⟨found, after⟩
  rcases lookingOther : other.sees path with ⟨foundOther, afterOther⟩
  rw [looking, lookingOther] at seen between
  dsimp only at seen between
  subst seen
  cases found with
  | false =>
      rw [contentOf?_unseen looking, contentOf?_unseen lookingOther]
      exact ⟨.done .none, between⟩
  | true =>
      rw [contentOf?_seen looking, contentOf?_seen lookingOther]
      obtain ⟨outcome, last⟩ := between.readFile last
      generalize (after.readFile path).1 = one at outcome
      generalize (afterOther.readFile path).1 = two at outcome
      refine ⟨?_, last⟩
      cases outcome with
      | failed failure => exact .failed failure
      | done decoding => exact .done (.some decoding)

end Disk

/-! ## Snapshots -/

namespace Snapshot

variable {related : Snapshot → Snapshot → Prop} {disk other : Disk}

/-- Actions in turn go on as long as they go well, and on both disks equally far. -/
private theorem answers_inTurn {action actionOther : Disk → Except Failure Unit × Disk}
    {actions actionsOther : List (Disk → Except Failure Unit × Disk)}
    (first : Disk.Answers related (action disk) (actionOther other))
    (rest : ∀ after afterOther, action disk = (.ok (), after) →
      actionOther other = (.ok (), afterOther) → after.Alike related afterOther →
      Disk.Answers related (inTurn actions after) (inTurn actionsOther afterOther)) :
    Disk.Answers related (inTurn (action :: actions) disk)
      (inTurn (actionOther :: actionsOther) other) := by
  rw [inTurn, inTurn]
  rcases acted : action disk with ⟨one, after⟩
  rcases actedOther : actionOther other with ⟨two, afterOther⟩
  rw [acted, actedOther] at first
  obtain ⟨outcome, alike⟩ := first
  dsimp only at outcome alike
  cases outcome with
  | failed failure => exact ⟨.failed failure, alike⟩
  | done => exact rest after afterOther acted actedOther alike

/-- Snapshots that are decoded in the same way are saved in the same way. -/
theorem alike_save (alike : disk.Alike related other) (directory : String)
    {snapshot snapshotOther : Snapshot} (fits : Decoding related snapshot.encode snapshotOther.encode) :
    Disk.Answers related (snapshot.save directory disk) (snapshotOther.save directory other) := by
  set draft := FilePath.ofText (FilePath.below directory draftName) with draft_eq
  have down : draftName ≠ ".." := by decide
  have different : draftName ≠ fileName := by decide
  have last : draft.steps.getLast? = some draftName := FilePath.last_below directory (by decide)
  rw [save, save, ← draft_eq]
  refine answers_inTurn (alike.createFile down last different) fun _ _ _ _ alike => ?_
  refine answers_inTurn (alike.writeFile down last different _ _)
    fun written writtenOther writing writingOther alike => ?_
  have content := Disk.contentOf_writeFile writing
  have contentOther := Disk.contentOf_writeFile writingOther
  have synced := Disk.tree_syncFile draft written
  have syncedOther := Disk.tree_syncFile draft writtenOther
  refine answers_inTurn (alike.syncFile draft) fun third thirdOther syncing syncingOther alike => ?_
  rw [syncing] at synced
  rw [syncingOther] at syncedOther
  have moving (one two : Bytes) (read : third.tree.contentOf draft = .ok one)
      (readOther : thirdOther.tree.contentOf draft = .ok two) : Decoding related one two := by
    rw [synced, content] at read
    rw [syncedOther, contentOther] at readOther
    rw [← Except.ok.inj read, ← Except.ok.inj readOther]
    exact fits
  have moved := alike.moveFile moving (.ofText (FilePath.below directory fileName))
  exact answers_inTurn moved fun _ _ _ _ alike => ⟨.done trivial, alike⟩

theorem alike_load (alike : disk.Alike related other) (directory : String) :
    Together (Option.Rel related) (load directory disk).1 (load directory other).1 ∧
      (load directory disk).2.Alike related (load directory other).2 := by
  have last : (FilePath.ofText (FilePath.below directory fileName)).steps.getLast? = some fileName :=
    FilePath.last_below directory (by decide)
  obtain ⟨outcome, alike⟩ := alike.contentOf? last
  rw [load, load]
  generalize disk.contentOf? (.ofText (FilePath.below directory fileName)) = one at outcome alike
  generalize other.contentOf? (.ofText (FilePath.below directory fileName)) = two at outcome alike
  rcases one with ⟨one, after⟩
  rcases two with ⟨two, afterOther⟩
  dsimp only at outcome alike
  cases outcome with
  | failed failure => exact ⟨.failed failure, alike⟩
  | done read =>
      cases read with
      | none => exact ⟨.done .none, alike⟩
      | some decoding =>
          refine ⟨?_, alike⟩
          have decoded := decoding (FilePath.below directory fileName)
          dsimp only
          generalize decode (FilePath.below directory fileName) _ = one at decoded
          generalize decode (FilePath.below directory fileName) _ = two at decoded
          cases decoded with
          | failed failure => exact .failed failure
          | done same => exact .done (.some same)

end Snapshot

/-! ## Engines -/

namespace Engine

variable {related : Snapshot → Snapshot → Prop} {disk other : Disk}

def Opened (related : Snapshot → Snapshot → Prop) (directory : String) (engine other : Engine) :
    Prop :=
  ∃ one two : Snapshot, (related one two ∨ one = {} ∧ two = {}) ∧
    engine = ofGraph (some directory) one.graph one.nextNode ∧
    other = ofGraph (some directory) two.graph two.nextNode

theorem alike_openAt (alike : disk.Alike related other) (directory : String) :
    Together (Opened related directory) (openAt directory disk).1 (openAt directory other).1 ∧
      (openAt directory disk).2.Alike related (openAt directory other).2 := by
  obtain ⟨outcome, made⟩ := alike.makeDirectories (.ofText directory)
  rw [openAt, openAt]
  generalize disk.makeDirectories (.ofText directory) = one at outcome made
  generalize other.makeDirectories (.ofText directory) = two at outcome made
  rcases one with ⟨one, ready⟩
  rcases two with ⟨two, readyOther⟩
  dsimp only at outcome made
  cases outcome with
  | failed failure => exact ⟨.failed failure, made⟩
  | done =>
      obtain ⟨outcome, read⟩ := Snapshot.alike_load made directory
      dsimp only
      generalize Snapshot.load directory ready = one at outcome read
      generalize Snapshot.load directory readyOther = two at outcome read
      rcases one with ⟨one, after⟩
      rcases two with ⟨two, afterOther⟩
      dsimp only at outcome read
      cases outcome with
      | failed failure => exact ⟨.failed failure, read⟩
      | done loaded =>
          refine ⟨.done ?_, read⟩
          cases loaded with
          | none => exact ⟨{}, {}, .inr ⟨rfl, rfl⟩, rfl, rfl⟩
          | some same => exact ⟨_, _, .inl same, rfl, rfl⟩

theorem alike_shutdown (alike : disk.Alike related other) {first second : Engine}
    (isOpen : first.isClosed = false) (isOpenOther : second.isClosed = false)
    (location : second.location = first.location)
    (fits : Snapshot.Decoding related first.snapshot.encode second.snapshot.encode) :
    (first.shutdown disk).2.2.Alike related (second.shutdown other).2.2 := by
  rw [shutdown, shutdown, isOpen, isOpenOther, persist, persist, location]
  cases first.location with
  | none => exact alike
  | some directory => exact (Snapshot.alike_save alike directory fits).2

end Engine

end RecordGraph
