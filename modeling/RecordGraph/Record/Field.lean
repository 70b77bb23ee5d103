import RecordGraph.Binding.Basic
import RecordGraph.Record.Key

namespace RecordGraph

/-! Fields of records. They are the properties of a record's node, but for the one that holds the
key. -/

open Dialogue

/-! ## Reading -/

inductive FieldSelection where
  /-- All of them, without the key. -/
  | all
  /-- Exactly these; if one is missing, nothing is read. -/
  | requested (names : FieldSet)
  /-- None: it matters only that the record is there. -/
  | nothing

/-- What is read when `requested` is asked for. Without a request an embedded client reads the whole
record, and a remote one spares itself the requests. -/
def FieldSelection.resolve (mode : Mode) (requested : Option FieldSet) : FieldSelection :=
  match requested with
  | some names => .requested names
  | none => if mode.isRemote then .nothing else .all

namespace KeyIndex

def getField (node : NodeId) (name : String) : Dialogue Bytes := do
  match ← ask (.nodeProperty node name) with
  | some value => pure value.toField
  | none => fail (.missingField name)

def withoutKey (properties : Properties) (keys : KeyIndex) : Properties :=
  properties.erase keys.keyField

def fieldNames (node : NodeId) (keys : KeyIndex) : Dialogue FieldSet := do
  let properties ← ask (.nodeProperties node)
  pure ((keys.withoutKey properties).keys.foldl (fun names name => names.insert name) ∅)

def readFields (node : NodeId) (selection : FieldSelection) (keys : KeyIndex) :
    Dialogue FieldMap :=
  match selection with
  | .nothing => pure ∅
  | .all => do
      let properties ← ask (.nodeProperties node)
      pure ((keys.withoutKey properties).map fun _ value => value.toField)
  | .requested names => do
      let fields ← forEach (fun name => do pure (name, ← getField node name)) names.toList
      pure (fields.foldl (fun whole (name, value) => whole.insert name value) ∅)

/-! ## Writing -/

def setField (transaction : TransactionId) (node : NodeId) (name : String) (value : Bytes) :
    Dialogue Unit :=
  stage transaction (.setProperty node name (.ofField value))

def writeFields (transaction : TransactionId) (node : NodeId) (fields : FieldMap) :
    Dialogue Unit := do
  let _ ← forEach (fun (name, value) => setField transaction node name value) fields.toList

def writeFieldsIn (batch : Batch) (node : NodeReference) (fields : FieldMap) : Batch :=
  batch ++ fields.toList.map fun (name, value) => .setProperty node name (.ofField value)

end KeyIndex

end RecordGraph
