import Mathlib.Tactic.ByContra
import Mathlib.Tactic.Set
import RecordGraph.File.Tree
import RecordGraph.Proofs.Graph.Validation

namespace RecordGraph

/-! Trees in which files come and go while the directories stay. A path that leads somewhere still
leads there as long as every directory is kept. -/

namespace FileTree

def Extends (tree later : FileTree) : Prop :=
  ∀ location, tree.entryAt? location = some .directory → later.entryAt? location = some .directory

def SameDirectories (tree later : FileTree) : Prop :=
  ∀ location, tree.entryAt? location = some .directory ↔ later.entryAt? location = some .directory

variable {tree later : FileTree} {path : FilePath} {location : Location}

theorem Extends.refl (tree : FileTree) : tree.Extends tree := fun _ found => found

theorem Extends.trans {latest : FileTree} (first : tree.Extends later)
    (second : later.Extends latest) : tree.Extends latest :=
  fun location found => second location (first location found)

theorem SameDirectories.trans {latest : FileTree} (first : tree.SameDirectories later)
    (second : later.SameDirectories latest) : tree.SameDirectories latest :=
  fun location => (first location).trans (second location)

theorem SameDirectories.kept (same : tree.SameDirectories later) : tree.Extends later :=
  fun location => (same location).1

theorem entryAt?_put (tree : FileTree) (location other : Location) (entry : FileEntry) :
    (tree.put location entry).entryAt? other =
      if location = other ∧ other ≠ [] then some entry else tree.entryAt? other := by
  cases other with
  | nil => simp [entryAt?]
  | cons step steps =>
      by_cases same : location = step :: steps
      · simp [entryAt?, put, same]
      · simp [entryAt?, put, Std.ExtTreeMap.getElem?_insert, same]

theorem entryAt?_erase (tree : FileTree) (location other : Location) :
    entryAt? other { entries := tree.entries.erase location } =
      if location = other ∧ other ≠ [] then none else tree.entryAt? other := by
  cases other with
  | nil => simp [entryAt?]
  | cons step steps =>
      by_cases same : location = step :: steps
      · simp [entryAt?, same]
      · simp [entryAt?, Std.ExtTreeMap.getElem?_erase, same]

/-! ## Paths -/

theorem Extends.follow (kept : tree.Extends later) {here : Location} {steps : List String}
    (found : tree.follow here steps = .ok location) : later.follow here steps = .ok location := by
  induction steps generalizing here with
  | nil => exact found
  | cons step steps induction =>
      rw [FileTree.follow] at found ⊢
      cases standing : tree.entryAt? here with
      | none => simp [standing] at found
      | some entry =>
          cases entry with
          | file content => simp [standing] at found
          | directory =>
              rw [standing] at found
              rw [kept here standing]
              dsimp only at found ⊢
              split
              · rename_i up
                rw [if_pos up] at found
                exact induction found
              · rename_i down
                rw [if_neg down] at found
                split
                · rename_i long
                  simp [long] at found
                · rename_i short
                  rw [if_neg short] at found
                  exact induction found

theorem Extends.locate (kept : tree.Extends later) (found : tree.locate path = .ok location) :
    later.locate path = .ok location := by
  rw [FileTree.locate] at found ⊢
  split
  · rename_i usable
    rw [if_pos usable] at found
    exact kept.follow found
  · rename_i unusable
    rw [if_neg unusable] at found
    cases found

theorem isDirectory_iff :
    tree.isDirectory path = true ↔
      ∃ location, tree.locate path = .ok location ∧ tree.entryAt? location = some .directory := by
  rw [isDirectory, find]
  cases located : tree.locate path with
  | error fault => simp [bind, Except.bind]
  | ok location =>
      simp only [bind, Except.bind]
      cases found : tree.entryAt? location with
      | none => simp [found]
      | some entry =>
          cases entry with
          | directory => simp [found]
          | file content =>
              by_cases directory : path.toDirectory = true
              · simp [found, directory]
              · simp [found, directory]

theorem Extends.isDirectory (kept : tree.Extends later) (there : tree.isDirectory path = true) :
    later.isDirectory path = true := by
  rcases isDirectory_iff.1 there with ⟨location, located, found⟩
  exact isDirectory_iff.2 ⟨location, kept.locate located, kept location found⟩

/-! ## Making directories -/

theorem makeDirectory_ok {made : FileTree} (done : tree.makeDirectory path = .ok made) :
    tree.Extends made ∧ made.isDirectory path = true := by
  rcases ok_of_bind done with ⟨location, located, rest⟩
  cases standing : tree.entryAt? location with
  | some entry => simp [standing] at rest
  | none =>
      simp only [standing] at rest
      split at rest
      · cases rest
      · rcases Except.ok.inj rest with rfl
        have kept : tree.Extends (tree.put location .directory) := by
          intro other found
          rw [entryAt?_put]
          split
          · rfl
          · exact found
        refine ⟨kept, isDirectory_iff.2 ⟨location, kept.locate located, ?_⟩⟩
        rw [entryAt?_put, if_pos]
        refine ⟨rfl, fun root => ?_⟩
        rw [root] at standing
        cases standing

theorem makeDirectory_again (there : tree.isDirectory path = true) :
    tree.makeDirectory path = .error .refused := by
  rcases isDirectory_iff.1 there with ⟨location, located, found⟩
  rw [makeDirectory, located]
  simp only [bind, Except.bind, found]

theorem isDirectory_congr {other : FilePath} (steps : path.steps = other.steps)
    (usable : path.usable = other.usable) : tree.isDirectory path = tree.isDirectory other := by
  rw [Bool.eq_iff_iff, isDirectory_iff, isDirectory_iff, locate, locate, steps, usable]

theorem makeDirectoriesAlong_kept (endsInDot : Bool) (backwards : List String) (tree : FileTree) :
    tree.Extends (makeDirectoriesAlong endsInDot backwards tree).2 ∧
      ((makeDirectoriesAlong endsInDot backwards tree).1 = .ok () → backwards ≠ [] →
        (makeDirectoriesAlong endsInDot backwards tree).2.isDirectory
          { steps := backwards.reverse } = true) := by
  induction backwards generalizing endsInDot tree with
  | nil => exact ⟨.refl tree, fun _ other => absurd rfl other⟩
  | cons step before induction =>
      set whole : FilePath := { steps := (step :: before).reverse, endsInDot } with whole_eq
      have same (tree : FileTree) :
          tree.isDirectory { steps := (step :: before).reverse } = tree.isDirectory whole :=
        isDirectory_congr rfl rfl
      have settled (tree : FileTree) (fault : FileFault)
          (done : (if tree.isDirectory whole then .ok () else .error fault : Except FileFault Unit) =
            .ok ()) : tree.isDirectory whole = true := by
        by_contra other
        rw [if_neg other] at done
        cases done
      rw [makeDirectoriesAlong]
      cases first : tree.makeDirectory whole with
      | ok made =>
          rcases makeDirectory_ok first with ⟨kept, there⟩
          exact ⟨kept, fun _ _ => by rw [same]; exact there⟩
      | error fault =>
          cases fault with
          | refused => exact ⟨.refl tree, fun done _ => by rw [same]; exact settled tree _ done⟩
          | missing =>
              rcases induction false tree with ⟨kept, -⟩
              rcases outcome : makeDirectoriesAlong false before tree with ⟨result, parents⟩
              rw [outcome] at kept
              dsimp only at kept ⊢
              cases result with
              | error fault => exact ⟨kept, fun done => by cases done⟩
              | ok =>
                  dsimp only
                  cases second : parents.makeDirectory whole with
                  | ok made =>
                      rcases makeDirectory_ok second with ⟨keptMade, there⟩
                      exact ⟨kept.trans keptMade, fun _ _ => by rw [same]; exact there⟩
                  | error fault =>
                      exact ⟨kept, fun done _ => by rw [same]; exact settled parents _ done⟩

theorem makeDirectories_again (done : (tree.makeDirectories path).1 = .ok ())
    (kept : (tree.makeDirectories path).2.Extends later) :
    later.makeDirectories path = (.ok (), later) := by
  rw [makeDirectories] at done kept ⊢
  split
  · rename_i able
    rw [if_pos able] at done kept
    cases backwards : path.steps.reverse with
    | nil => rfl
    | cons step before =>
        have there := (makeDirectoriesAlong_kept path.endsInDot path.steps.reverse tree).2 done
          (by rw [backwards]; exact List.cons_ne_nil _ _)
        have thereLater := kept.isDirectory there
        rw [backwards] at thereLater
        have whole : later.isDirectory
            { steps := (step :: before).reverse, endsInDot := path.endsInDot } = true :=
          (isDirectory_congr rfl rfl).trans thereLater
        rw [makeDirectoriesAlong, makeDirectory_again whole]
        simp only [whole, if_true]
  · rename_i unable
    rw [if_neg unable] at done
    cases done

end FileTree

end RecordGraph
