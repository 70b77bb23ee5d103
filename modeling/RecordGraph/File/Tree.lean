import Std.Data.ExtTreeMap
import RecordGraph.Text.Pieces
import RecordGraph.Text.Utf8

namespace RecordGraph

/-! Trees of files and directories. A file is found by the names on the way to it, from the root. -/

/-! ## Paths -/

abbrev Location := List String

structure FilePath where
  steps : List String
  /-- The path ends in a way that only directories may have. -/
  toDirectory : Bool := false
  /-- The last name of the path is a single dot, so that it does not name the directory itself. -/
  endsInDot : Bool := false
  /-- The path can be used at all. -/
  usable : Bool := true
  deriving DecidableEq

namespace FilePath

def longestName : Nat := 255

def longestPath : Nat := 4095

/-- The path that a text spells. Doubled slashes and single dots do not count. -/
def ofText (text : String) : FilePath :=
  let names := (Text.pieces '/' text.toList).map String.ofList
  { steps := names.filter fun name => name ≠ "" && name ≠ "."
    toDirectory := names.getLast?.any fun name => name = "" || name = "."
    endsInDot := (names.reverse.find? (· ≠ "")).any (· = ".")
    usable := !text.isEmpty && !text.toList.contains '\x00' && text.utf8ByteSize ≤ longestPath }

def below (directory name : String) : String :=
  if directory.isEmpty || directory.endsWith "/" then directory ++ name
  else directory ++ "/" ++ name

example : (ofText "/a//b/./c").steps = ["a", "b", "c"] := by decide
example : (ofText "a/.//").endsInDot = true := by decide

end FilePath

/-! ## Trees -/

inductive FileEntry where
  | file (content : Bytes)
  | directory
  deriving DecidableEq

inductive FileFault where
  /-- A directory on the way does not exist, or the file itself. -/
  | missing
  /-- What exists stands in the way. -/
  | refused
  deriving DecidableEq, Repr

def FileFault.message : FileFault → String
  | missing => "no such file or directory"
  | refused => "not permitted here"

/-- The entries by location. The root is a directory and needs no entry. -/
structure FileTree where
  entries : Std.ExtTreeMap Location FileEntry compare := ∅
  deriving DecidableEq

namespace FileTree

def entryAt? (location : Location) (tree : FileTree) : Option FileEntry :=
  if location.isEmpty then some .directory else tree.entries[location]?

/-- The location that steps lead to from another one. Every place that is left must be a
directory. -/
def follow (tree : FileTree) : Location → (steps : List String) → Except FileFault Location
  | here, [] => .ok here
  | here, step :: steps =>
      match tree.entryAt? here with
      | none => .error .missing
      | some (.file _) => .error .refused
      | some .directory =>
          if step = ".." then follow tree here.dropLast steps
          else if FilePath.longestName < step.utf8ByteSize then .error .refused
          else follow tree (here ++ [step]) steps

def locate (path : FilePath) (tree : FileTree) : Except FileFault Location :=
  if path.usable then tree.follow [] path.steps else .error .refused

def find (path : FilePath) (tree : FileTree) : Except FileFault FileEntry := do
  match tree.entryAt? (← tree.locate path) with
  | none => .error .missing
  | some .directory => .ok .directory
  | some (.file content) => if path.toDirectory then .error .refused else .ok (.file content)

def contains (path : FilePath) (tree : FileTree) : Bool := (tree.find path).toOption.isSome

def isDirectory (path : FilePath) (tree : FileTree) : Bool :=
  match tree.find path with
  | .ok .directory => true
  | _ => false

def contentOf (path : FilePath) (tree : FileTree) : Except FileFault Bytes := do
  match ← tree.find path with
  | .file content => .ok content
  | .directory => .error .refused

def put (location : Location) (entry : FileEntry) (tree : FileTree) : FileTree :=
  { entries := tree.entries.insert location entry }

def locateFile (path : FilePath) (tree : FileTree) : Except FileFault Location := do
  let location ← tree.locate path
  match tree.entryAt? location with
  | some .directory => .error .refused
  | _ => if path.toDirectory then .error .refused else .ok location

def writeFile (path : FilePath) (content : Bytes) (tree : FileTree) :
    Except FileFault FileTree := do
  .ok (tree.put (← tree.locateFile path) (.file content))

def moveFile (source target : FilePath) (tree : FileTree) : Except FileFault FileTree := do
  let content ← tree.contentOf source
  let old ← tree.locateFile source
  let new ← tree.locateFile target
  .ok { entries := (tree.entries.erase old).insert new (.file content) }

/-! ## Directories -/

/-- Makes one directory where nothing is. A dot at the end of the path stands for a directory that
is there already. -/
def makeDirectory (path : FilePath) (tree : FileTree) : Except FileFault FileTree := do
  let location ← tree.locate path
  match tree.entryAt? location with
  | some _ => .error .refused
  | none => if path.endsInDot then .error .missing else .ok (tree.put location .directory)

/-- Makes a directory, after those that are missing on the way to it. What has been made stays, also
if more cannot be made. The steps come last first. -/
def makeDirectoriesAlong (endsInDot : Bool) :
    (backwards : List String) → FileTree → Except FileFault Unit × FileTree
  | [], tree => (.ok (), tree)
  | step :: before, tree =>
      let whole : FilePath := { steps := (step :: before).reverse, endsInDot }
      let settle (tree : FileTree) (fault : FileFault) : Except FileFault Unit × FileTree :=
        (if tree.isDirectory whole then .ok () else .error fault, tree)
      match tree.makeDirectory whole with
      | .ok made => (.ok (), made)
      | .error .refused => settle tree .refused
      | .error .missing =>
          match makeDirectoriesAlong false before tree with
          | (.error fault, tree) => (.error fault, tree)
          | (.ok (), tree) =>
              match tree.makeDirectory whole with
              | .ok made => (.ok (), made)
              | .error fault => settle tree fault

def makeDirectories (path : FilePath) (tree : FileTree) : Except FileFault Unit × FileTree :=
  if path.usable || path.steps.isEmpty then
    makeDirectoriesAlong path.endsInDot path.steps.reverse tree
  else (.error .refused, tree)

def listDirectory (path : FilePath) (tree : FileTree) : Except FileFault (List String) := do
  let location ← tree.locate path
  match ← tree.find path with
  | .file _ => .error .refused
  | .directory => .ok (tree.entries.toList.filterMap fun (other, _) =>
      if other.dropLast = location then other.getLast? else none)

def emptyDirectory (location : Location) (tree : FileTree) : FileTree :=
  { entries := tree.entries.filter fun other _ =>
      !(location.isPrefixOf other && other ≠ location) }

/-- Takes away a directory and all that is in it. Where a path ends in dots, the directory itself
stays; a single dot is refused for that, two dots lead through what is gone. -/
def removeDirectory (path : FilePath) (tree : FileTree) : Except FileFault Unit × FileTree :=
  match tree.locate path, tree.find path with
  | .ok location, .ok .directory =>
      let emptied := tree.emptyDirectory location
      if path.endsInDot then (.error .refused, emptied)
      else if path.steps.getLast? = some ".." then (.ok (), emptied)
      else (.ok (), { entries := emptied.entries.erase location })
  | .ok _, .ok (.file _) => (.error .refused, tree)
  | .error fault, _ => (.error fault, tree)
  | _, .error fault => (.error fault, tree)

end FileTree

end RecordGraph
