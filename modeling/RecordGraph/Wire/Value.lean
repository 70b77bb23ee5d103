import RecordGraph.Graph.Batch
import RecordGraph.Graph.Index
import RecordGraph.Graph.Transaction
import RecordGraph.Json.Variant

namespace RecordGraph.Wire

/-! How property values, references to nodes, jobs and steps are written as JSON. -/

open Json

/-! ## Maps and properties -/

/-- Maps from texts, as records. Of a name that comes twice the last value counts. -/
def nameMap {Value : Type} (item : Codec Value) : Codec (NameMap Value) where
  read := fun setting input => do
    let (entries, rest) ← readEntries readStringTail item.read setting input
    .ok (entries.foldl (fun whole (name, value) => whole.insert name value) ∅, rest)
  write entries := writeMembers (entries.toList.map fun (name, value) => (name, item.write value))

inductive PropertyKind where
  | text
  | bytes
  deriving DecidableEq

namespace PropertyKind

def all : List PropertyKind := [text, bytes]

def name : PropertyKind → String
  | text => "str"
  | bytes => "bytes"

def ofName? : String → Option PropertyKind
  | "str" => some text
  | "bytes" => some bytes
  | _ => none

end PropertyKind

def propertyNames : Described.Names := ⟨"type", "data"⟩

def propertyValue : Codec PropertyValue where
  read := Described.read propertyNames PropertyKind.ofName? PropertyKind.all fun
    | .text => fun setting input => do
        let (value, rest) ← Codec.text.read setting input
        .ok (.text value, rest)
    | .bytes => fun setting input => do
        let (value, rest) ← Codec.bytes.read setting input
        .ok (.bytes value, rest)
  write
    | .text value =>
        Described.write propertyNames PropertyKind.text.name (Codec.text.write value)
    | .bytes value =>
        Described.write propertyNames PropertyKind.bytes.name (Codec.bytes.write value)

def properties : Codec Properties := nameMap propertyValue

/-! ## References -/

inductive ReferenceKind where
  | id
  | job
  deriving DecidableEq

namespace ReferenceKind

def name : ReferenceKind → String
  | id => "id"
  | job => "job"

def ofName? : String → Option ReferenceKind
  | "id" => some id
  | "job" => some job
  | _ => none

end ReferenceKind

def nodeReference : Codec NodeReference where
  read := Single.read ReferenceKind.ofName? fun kind setting input => do
    let (number, rest) ← Codec.word.read setting input
    match kind with
    | .id => .ok (.id number, rest)
    | .job => .ok (.job number, rest)
  write
    | .id node => Single.write ReferenceKind.id.name (Codec.word.write node)
    | .job position => Single.write ReferenceKind.job.name (Codec.word.write position)

/-! ## Jobs -/

def operationName : String := "op"

inductive JobKind where
  | createNode
  | indexAdd
  | setProperty
  deriving DecidableEq

namespace JobKind

def name : JobKind → String
  | createNode => "create_node"
  | indexAdd => "index_add"
  | setProperty => "set_property"

def ofName? : String → Option JobKind
  | "create_node" => some createNode
  | "index_add" => some indexAdd
  | "set_property" => some setProperty
  | _ => none

end JobKind

def entryLayout {Node : Type} (node : Codec Node) :
    Layout (String × Node × String × String × Unit) :=
  .required "index" .text <| .required "node" node <| .required "key" .text <|
    .required "value" .text .done

def settingLayout {Node : Type} (node : Codec Node) :
    Layout (Node × String × PropertyValue × Unit) :=
  .required "node" node <| .required "name" .text <| .required "value" propertyValue .done

def creationLayout : Layout (Properties × Unit) := .defaulted "properties" properties ∅ .done

def job : Codec Job where
  read := Tagged.read operationName JobKind.ofName? fun
    | .createNode, kept => do
        let (given, ()) ← Tagged.ofKept creationLayout kept
        .ok (.createNode given)
    | .indexAdd, kept => do
        let (index, node, key, value, ()) ← Tagged.ofKept (entryLayout nodeReference) kept
        .ok (.indexAdd index node key value)
    | .setProperty, kept => do
        let (node, name, value, ()) ← Tagged.ofKept (settingLayout nodeReference) kept
        .ok (.setProperty node name value)
  write
    | .createNode given =>
        Tagged.write operationName JobKind.createNode.name (creationLayout.parts (given, ()))
    | .indexAdd index node key value =>
        Tagged.write operationName JobKind.indexAdd.name
          ((entryLayout nodeReference).parts (index, node, key, value, ()))
    | .setProperty node name value =>
        Tagged.write operationName JobKind.setProperty.name
          ((settingLayout nodeReference).parts (node, name, value, ()))

def batch : Codec Batch := Codec.list job

/-! ## Steps -/

inductive StepKind where
  | createNode
  | setProperty
  | deleteNode
  | indexAdd
  | indexRemove
  deriving DecidableEq

namespace StepKind

def name : StepKind → String
  | createNode => "create_node"
  | setProperty => "set_property"
  | deleteNode => "delete_node"
  | indexAdd => "index_add"
  | indexRemove => "index_remove"

def ofName? : String → Option StepKind
  | "create_node" => some createNode
  | "set_property" => some setProperty
  | "delete_node" => some deleteNode
  | "index_add" => some indexAdd
  | "index_remove" => some indexRemove
  | _ => none

end StepKind

def deletionLayout : Layout (NodeId × Unit) := .required "node" .word .done

def step : Codec Step where
  read := Tagged.read operationName StepKind.ofName? fun
    | .createNode, kept => do
        Tagged.alone kept
        .ok .createNode
    | .setProperty, kept => do
        let (node, name, value, ()) ← Tagged.ofKept (settingLayout .word) kept
        .ok (.setProperty node name value)
    | .deleteNode, kept => do
        let (node, ()) ← Tagged.ofKept deletionLayout kept
        .ok (.deleteNode node)
    | .indexAdd, kept => do
        let (index, node, key, value, ()) ← Tagged.ofKept (entryLayout .word) kept
        .ok (.indexAdd index node key value)
    | .indexRemove, kept => do
        let (index, node, key, value, ()) ← Tagged.ofKept (entryLayout .word) kept
        .ok (.indexRemove index node key value)
  write
    | .createNode => Tagged.write operationName StepKind.createNode.name []
    | .setProperty node name value =>
        Tagged.write operationName StepKind.setProperty.name
          ((settingLayout .word).parts (node, name, value, ()))
    | .deleteNode node =>
        Tagged.write operationName StepKind.deleteNode.name (deletionLayout.parts (node, ()))
    | .indexAdd index node key value =>
        Tagged.write operationName StepKind.indexAdd.name
          ((entryLayout .word).parts (index, node, key, value, ()))
    | .indexRemove index node key value =>
        Tagged.write operationName StepKind.indexRemove.name
          ((entryLayout .word).parts (index, node, key, value, ()))

end RecordGraph.Wire
