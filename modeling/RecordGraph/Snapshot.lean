import RecordGraph.Checksum
import RecordGraph.Engine
import RecordGraph.File.Disk
import RecordGraph.Wire.Value

namespace RecordGraph

/-! Snapshots: whole graphs as files. A snapshot starts with a mark, the checksum of its body and
the length of its body. It is first written to a file beside the old one, which it then replaces at
one stroke. -/

structure Snapshot where
  nextNode : NodeId := 0
  graph : Graph := {}
  deriving DecidableEq

namespace Snapshot

/-! ## The body -/

def nodeSet : Json.Codec NodeSet where
  read := fun setting input => do
    let (nodes, rest) ← (Json.Codec.list .word).read setting input
    .ok (nodes.foldl (fun set node => set.insert node) ∅, rest)
  write nodes := (Json.Codec.list .word).write nodes.toList

def nodes : Json.Codec (Std.ExtTreeMap NodeId Properties compare) where
  read := fun setting input => do
    let (entries, rest) ←
      Json.readEntries Json.readWordName Wire.properties.read setting input
    .ok (entries.foldl (fun whole (node, properties) => whole.insert node properties) ∅, rest)
  write entries := Json.writeMembers (entries.toList.map fun (node, properties) =>
    (String.ofList (Nat.toDigits 10 node.toNat), Wire.properties.write properties))

def index : Json.Codec NodeIndex :=
  (Json.Layout.required "entries" (Wire.nameMap (Wire.nameMap nodeSet)) .done).codec
    (fun index => (index.entries, ())) fun (entries, ()) => { entries }

def body : Json.Codec Snapshot :=
  (Json.Layout.defaulted "next_node_id" .word 0 <| .required "nodes" nodes <|
    .required "indexes" (Wire.nameMap index) .done).codec
    (fun it => (it.nextNode, it.graph.nodes, it.graph.indexes, ()))
    fun (nextNode, nodes, indexes, ()) => { nextNode, graph := { nodes, indexes } }

/-! ## The whole file -/

def mark : Bytes := Utf8.encode "GBS1"

def headerLength : Nat := 16

def frame (content : Bytes) : Bytes :=
  mark ++ LittleEndian.encode 4 (Checksum.crc32 content).toNat ++
    LittleEndian.encode 8 content.length ++ content

def encode (snapshot : Snapshot) : Bytes := frame (body.write snapshot)

def describeFlaw : Json.Flaw → String
  | .malformed => "malformed text"
  | .unfinished => "unfinished text"
  | .mismatched => "text of another form"

/-- The body of a file, once its header has been checked. `name` stands for the file in words. -/
def unframe (name : String) (file : Bytes) : Except Failure Bytes :=
  if file.length < headerLength ∨ file.take 4 ≠ mark then
    .error (.corruption (name ++ " is not a graph snapshot"))
  else
    let checksum := LittleEndian.decode ((file.drop 4).take 4)
    let length := LittleEndian.decode ((file.drop 8).take 8)
    let content := file.drop headerLength
    if content.length ≠ length then
      .error (.corruption ("snapshot body is " ++ toString content.length ++
        " bytes, header says " ++ toString length))
    else if (Checksum.crc32 content).toNat ≠ checksum then
      .error (.corruption "snapshot checksum mismatch")
    else .ok content

def decode (name : String) (file : Bytes) : Except Failure Snapshot := do
  let content ← unframe name file
  (body.parse content).mapError fun flaw => .serialization (describeFlaw flaw)

/-! ## On a disk -/

def fileName : String := "graph.snapshot"

def draftName : String := "graph.tmp"

def load (directory : String) (disk : Disk) : Except Failure (Option Snapshot) × Disk :=
  let path := FilePath.below directory fileName
  match disk.contentOf? (.ofText path) with
  | (.error failure, disk) => (.error failure, disk)
  | (.ok none, disk) => (.ok none, disk)
  | (.ok (some file), disk) => ((decode path file).map some, disk)

def inTurn : List (Disk → Except Failure Unit × Disk) → Disk → Except Failure Unit × Disk
  | [], disk => (.ok (), disk)
  | action :: actions, disk =>
      match action disk with
      | (.error failure, disk) => (.error failure, disk)
      | (.ok (), disk) => inTurn actions disk

def save (directory : String) (snapshot : Snapshot) (disk : Disk) : Except Failure Unit × Disk :=
  let target := FilePath.ofText (FilePath.below directory fileName)
  let draft := FilePath.ofText (FilePath.below directory draftName)
  inTurn [
    (·.createFile draft),
    (·.writeFile draft snapshot.encode),
    (·.syncFile draft),
    (·.moveFile draft target)] disk

end Snapshot

/-! ## Engines on a disk -/

namespace Engine

def snapshot (engine : Engine) : Snapshot := ⟨engine.nextNode, engine.graph⟩

def openAt (directory : String) (disk : Disk) : Except Failure Engine × Disk :=
  match disk.makeDirectories (.ofText directory) with
  | (.error failure, disk) => (.error failure, disk)
  | (.ok (), disk) =>
      match Snapshot.load directory disk with
      | (.error failure, disk) => (.error failure, disk)
      | (.ok stored, disk) =>
          let stored := stored.getD {}
          (.ok (.ofGraph (some directory) stored.graph stored.nextNode), disk)

def persist (engine : Engine) (disk : Disk) : Except Failure Unit × Disk :=
  match engine.location with
  | none => (.ok (), disk)
  | some directory => engine.snapshot.save directory disk

/-- Closes the engine and saves its graph. An engine that is closed already is left as it is; one
whose graph cannot be saved is closed all the same. -/
def shutdown (engine : Engine) (disk : Disk) : Except Failure Unit × Engine × Disk :=
  if engine.isClosed then (.ok (), engine, disk)
  else
    let (outcome, disk) := engine.persist disk
    (outcome, { engine with isClosed := true }, disk)

end Engine

end RecordGraph
