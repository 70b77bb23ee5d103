import RecordGraph.Record.Field

namespace RecordGraph

/-! Changes of records. Every change is one transaction or one batch: it is made as a whole or not
at all. -/

open Dialogue

/-! ## Transactions around a dialogue -/

/-- Runs a dialogue in a transaction of its own: what it stages is committed if it succeeds and
discarded if it fails. That the discarding may fail does not matter. -/
def inTransaction {Result : Type} (body : TransactionId → Dialogue Result) :
    Dialogue Result := do
  let transaction ← ask .beginTransaction
  match ← (body transaction).attempt with
  | .ok value => do
      ask (.commit transaction)
      pure value
  | .error failure => do
      let _ ← (ask (.rollback transaction)).attempt
      fail failure

def createNode (transaction : TransactionId) : Dialogue NodeId := do
  match ← ask (.stage transaction .createNode) with
  | some node => pure node
  | none => fail (.remote 200 "engine did not return the created node")

namespace KeyIndex

/-! ## Step by step -/

def insertStepwise (key : String) (fields : FieldMap) (keys : KeyIndex) : Dialogue Unit :=
  inTransaction fun transaction => do
    let node ← createNode transaction
    keys.register transaction node key
    writeFields transaction node fields

def updateNode (node : NodeId) (key : String) (fields : FieldMap) (keys : KeyIndex) :
    Dialogue Unit :=
  inTransaction fun transaction => do
    writeFields transaction node fields
    keys.refresh transaction node key

def deleteNode (node : NodeId) (key : String) (keys : KeyIndex) : Dialogue Unit :=
  inTransaction fun transaction => do
    keys.unregister transaction node key
    stage transaction (.deleteNode node)

/-! ## All at once -/

def insertBatch (key : String) (fields : FieldMap) (keys : KeyIndex) : Batch :=
  let (node, batch) := keys.registerIn [] key
  writeFieldsIn batch node fields

def insertBatched (key : String) (fields : FieldMap) (keys : KeyIndex) : Dialogue Unit := do
  let _ ← ask (.executeBatch (keys.insertBatch key fields))

def insertNode (mode : Mode) (key : String) (fields : FieldMap) (keys : KeyIndex) :
    Dialogue Unit :=
  match mode with
  | .embedded => keys.insertStepwise key fields
  | .remote => keys.insertStepwise key fields
  | .remoteBatch => keys.insertBatched key fields

end KeyIndex

end RecordGraph
