import RecordGraph.Failure
import RecordGraph.File.Tree

namespace RecordGraph

/-! Disks: a tree of files on which actions may go wrong for reasons of their own. -/

/-- A disk. `mishaps` says of the actions to come, one by one, whether they go wrong, and after how
many bytes; once it is used up, all goes well. -/
structure Disk where
  tree : FileTree := {}
  mishaps : List (Option Nat) := []

namespace Disk

def failed (fault : FileFault) : Failure := .io fault.message

def mishap : Failure := .io "the disk has failed"

/-- One action. If it goes wrong after some bytes, `broken` is what it leaves behind. -/
def act {Result : Type} (broken : Nat → FileTree → FileTree)
    (action : FileTree → Except FileFault Result × FileTree) (disk : Disk) :
    Except Failure Result × Disk :=
  match disk.mishaps with
  | some reached :: later => (.error mishap, { tree := broken reached disk.tree, mishaps := later })
  | [] | none :: _ =>
      let (outcome, tree) := action disk.tree
      (outcome.mapError failed, { tree, mishaps := disk.mishaps.tail })

def untouched (_ : Nat) (tree : FileTree) : FileTree := tree

def change (action : FileTree → Except FileFault FileTree) (tree : FileTree) :
    Except FileFault Unit × FileTree :=
  match action tree with
  | .ok changed => (.ok (), changed)
  | .error fault => (.error fault, tree)

def makeDirectories (path : FilePath) (disk : Disk) : Except Failure Unit × Disk :=
  disk.act untouched (·.makeDirectories path)

/-- Looks whether there is anything at a path. Who cannot look sees nothing. -/
def sees (path : FilePath) (disk : Disk) : Bool × Disk :=
  match disk.act untouched fun tree => (.ok (tree.contains path), tree) with
  | (.error _, disk) => (false, disk)
  | (.ok found, disk) => (found, disk)

def readFile (path : FilePath) (disk : Disk) : Except Failure Bytes × Disk :=
  disk.act untouched fun tree => (tree.contentOf path, tree)

def contentOf? (path : FilePath) (disk : Disk) : Except Failure (Option Bytes) × Disk :=
  match disk.sees path with
  | (false, disk) => (.ok none, disk)
  | (true, disk) =>
      let (outcome, disk) := disk.readFile path
      (outcome.map some, disk)

def createFile (path : FilePath) (disk : Disk) : Except Failure Unit × Disk :=
  disk.act untouched (change (·.writeFile path []))

/-- Gives a file its content. Of an action that goes wrong a part may be left in the file. -/
def writeFile (path : FilePath) (content : Bytes) (disk : Disk) : Except Failure Unit × Disk :=
  disk.act
    (fun reached tree => (change (·.writeFile path (content.take reached)) tree).2)
    (change (·.writeFile path content))

def syncFile (_ : FilePath) (disk : Disk) : Except Failure Unit × Disk :=
  disk.act untouched fun tree => (.ok (), tree)

def moveFile (source target : FilePath) (disk : Disk) : Except Failure Unit × Disk :=
  disk.act untouched (change (·.moveFile source target))

end Disk

end RecordGraph
