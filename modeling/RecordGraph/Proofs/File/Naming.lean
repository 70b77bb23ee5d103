import RecordGraph.Proofs.File.Disk

namespace RecordGraph

/-! Files by their names. A snapshot is written under the name of a draft, and only what has been
written to its end is moved to the name of a snapshot. So whatever goes wrong, the files with that
name are those that were there before and those that have been saved as a whole. -/

/-! ## Names at the ends of paths -/

namespace FilePath

/-- A name that is one step of a path, and leads down. -/
def Plain (name : String) : Prop :=
  '/' ∉ name.toList ∧ name ≠ "" ∧ name ≠ "." ∧ name ≠ ".."

instance (name : String) : Decidable (Plain name) :=
  inferInstanceAs (Decidable ('/' ∉ name.toList ∧ name ≠ "" ∧ name ≠ "." ∧ name ≠ ".."))

theorem last_below (directory : String) {name : String} (plain : Plain name) :
    (ofText (below directory name)).steps.getLast? = some name := by
  rcases plain with ⟨whole, named, single, -⟩
  have alone : Text.pieces '/' name.toList = [name.toList] := Text.pieces_of_not_mem whole
  have cut : ∃ before : List (List Char),
      Text.pieces '/' (below directory name).toList = before ++ [name.toList] := by
    rw [below]
    split
    · rename_i closed
      rcases Bool.or_eq_true_iff.1 closed with empty | slash
      · rw [String.isEmpty_iff.1 empty, String.empty_append]
        exact ⟨[], alone⟩
      · rw [String.endsWith_eq_endsWith_toSlice, String.Slice.endsWith_string_iff,
          String.copy_toSlice] at slash
        rcases slash with ⟨front, ends⟩
        have parts : (directory ++ name).toList = front ++ '/' :: name.toList := by
          rw [String.toList_append, ← ends, List.append_assoc]
          rfl
        rw [parts, Text.pieces_append_separator, alone]
        exact ⟨_, rfl⟩
    · have parts : (directory ++ "/" ++ name).toList = directory.toList ++ '/' :: name.toList := by
        rw [String.toList_append, String.toList_append, List.append_assoc]
        rfl
      rw [parts, Text.pieces_append_separator, alone]
      exact ⟨_, rfl⟩
  rcases cut with ⟨before, pieces⟩
  rw [ofText]
  dsimp only
  rw [pieces, List.map_append, List.filter_append, List.map_cons, List.map_nil,
    String.ofList_toList]
  simp [named, single]

end FilePath

namespace FileTree

variable {tree later : FileTree} {path : FilePath} {location : Location} {name : String}
  {fit : Bytes → Prop}

private theorem last_follow (down : name ≠ "..") {here : Location} {steps : List String}
    (last : steps.getLast? = some name) (found : tree.follow here steps = .ok location) :
    location.getLast? = some name := by
  induction steps generalizing here with
  | nil => cases last
  | cons step steps induction =>
      rw [follow] at found
      split at found
      · cases found
      · cases found
      · cases steps with
        | nil =>
            have own : step = name := Option.some.inj last
            rw [if_neg (own ▸ down)] at found
            split at found
            · cases found
            · rw [← Except.ok.inj found, List.getLast?_concat, own]
        | cons next rest =>
            rw [List.getLast?_cons_cons] at last
            split at found
            · exact induction last found
            split at found
            · cases found
            · exact induction last found

theorem last_locate (down : name ≠ "..") (last : path.steps.getLast? = some name)
    (found : tree.locate path = .ok location) : location.getLast? = some name := by
  rw [locate] at found
  split at found
  · exact last_follow down last found
  · cases found

/-! ## Files with one name -/

def Bears (name : String) (fit : Bytes → Prop) (tree : FileTree) : Prop :=
  ∀ location content, location.getLast? = some name →
    tree.entryAt? location = some (.file content) → fit content

theorem bears_empty (name : String) (fit : Bytes → Prop) : Bears name fit {} := by
  intro location content last standing
  cases location with
  | nil => cases last
  | cons step steps => simp [entryAt?] at standing

theorem Bears.put_directory (bears : tree.Bears name fit) (location : Location) :
    (tree.put location .directory).Bears name fit := by
  intro other content last standing
  rw [entryAt?_put] at standing
  split at standing
  · cases standing
  · exact bears other content last standing

theorem Bears.put_file (bears : tree.Bears name fit) {content : Bytes}
    (fits : location.getLast? = some name → fit content) :
    (tree.put location (.file content)).Bears name fit := by
  intro other found last standing
  rw [entryAt?_put] at standing
  split at standing
  · rename_i same
    rw [← FileEntry.file.inj (Option.some.inj standing)]
    apply fits
    rw [same.1, last]
  · exact bears other found last standing

theorem Bears.makeDirectory (bears : tree.Bears name fit)
    (made : tree.makeDirectory path = .ok later) : later.Bears name fit := by
  rcases ok_of_bind made with ⟨location, -, rest⟩
  split at rest
  · cases rest
  split at rest
  · cases rest
  · rw [← Except.ok.inj rest]
    exact bears.put_directory location

theorem Bears.makeDirectoriesAlong (bears : tree.Bears name fit) (endsInDot : Bool)
    (backwards : List String) :
    (makeDirectoriesAlong endsInDot backwards tree).2.Bears name fit := by
  induction backwards generalizing tree endsInDot with
  | nil => exact bears
  | cons step before induction =>
      rw [FileTree.makeDirectoriesAlong]
      dsimp only
      split
      · rename_i made
        exact bears.makeDirectory made
      · exact bears
      · have parents := induction bears false
        split
        · rename_i outcome
          rw [outcome] at parents
          exact parents
        · rename_i outcome
          rw [outcome] at parents
          split
          · rename_i made
            exact parents.makeDirectory made
          · exact parents

theorem Bears.makeDirectories (bears : tree.Bears name fit) (path : FilePath) :
    (tree.makeDirectories path).2.Bears name fit := by
  rw [FileTree.makeDirectories]
  split
  · exact bears.makeDirectoriesAlong path.endsInDot path.steps.reverse
  · exact bears

theorem Bears.writeFile (bears : tree.Bears name fit) {other : String} (down : other ≠ "..")
    (last : path.steps.getLast? = some other) (different : other ≠ name) {content : Bytes}
    (written : tree.writeFile path content = .ok later) : later.Bears name fit := by
  rcases ok_of_bind written with ⟨location, found, rest⟩
  rw [← Except.ok.inj rest]
  have ends := last_locate down last (locateFile_iff.1 found).1
  refine bears.put_file fun same => ?_
  rw [ends] at same
  exact absurd (Option.some.inj same) different

theorem Bears.moveFile (bears : tree.Bears name fit) {source target : FilePath}
    (fits : ∀ content, tree.contentOf source = .ok content → fit content)
    (moved : tree.moveFile source target = .ok later) : later.Bears name fit := by
  rcases ok_of_bind moved with ⟨content, read, rest⟩
  rcases ok_of_bind rest with ⟨old, -, rest⟩
  rcases ok_of_bind rest with ⟨new, -, rest⟩
  rw [← Except.ok.inj rest]
  have without : Bears name fit { entries := tree.entries.erase old } := by
    intro location found last standing
    rw [entryAt?_erase] at standing
    split at standing
    · cases standing
    · exact bears location found last standing
  exact without.put_file fun _ => fits content read

theorem Bears.contentOf (bears : tree.Bears name fit) (down : name ≠ "..")
    (last : path.steps.getLast? = some name) {content : Bytes}
    (read : tree.contentOf path = .ok content) : fit content := by
  rcases ok_of_bind read with ⟨entry, found, rest⟩
  rcases ok_of_bind found with ⟨location, located, standing⟩
  have ends := last_locate down last located
  refine bears location content ends ?_
  split at standing
  · cases standing
  · rw [← Except.ok.inj standing] at rest
    cases rest
  · rename_i there
    split at standing
    · cases standing
    · rw [← Except.ok.inj standing] at rest
      rw [there, ← Except.ok.inj rest]

end FileTree

end RecordGraph
