import RecordGraph.Dialogue

namespace RecordGraph

/-! Keys of records. A record is a node; its key is a property of the node, and an index leads from
the key to the node. -/

open Dialogue

structure KeyIndex where
  index : String := "node_index"
  keyField : String := "_id"
  deriving DecidableEq, Repr

namespace KeyIndex

/-! ## Finding records -/

/-- The node under a key. If there are several, the oldest. -/
def lookup (key : String) (keys : KeyIndex) : Dialogue (Option NodeId) := do
  let nodes ← ask (.indexGet keys.index keys.keyField key)
  pure nodes.head?

def range (start : String) (limit : UInt64) (keys : KeyIndex) : Dialogue (List NodeId) :=
  if limit = 0 then pure []
  else
    let wanted := (IndexRange.startingAt keys.keyField start).withLimit limit
    ask (.indexRange keys.index wanted)

/-! ## Changing keys in a transaction -/

def enter (transaction : TransactionId) (node : NodeId) (key : String) (keys : KeyIndex) :
    Dialogue Unit :=
  stage transaction (.indexAdd keys.index node keys.keyField key)

def unregister (transaction : TransactionId) (node : NodeId) (key : String) (keys : KeyIndex) :
    Dialogue Unit :=
  stage transaction (.indexRemove keys.index node keys.keyField key)

def register (transaction : TransactionId) (node : NodeId) (key : String) (keys : KeyIndex) :
    Dialogue Unit := do
  stage transaction (.setProperty node keys.keyField (.text key))
  keys.enter transaction node key

def refresh (transaction : TransactionId) (node : NodeId) (key : String) (keys : KeyIndex) :
    Dialogue Unit := do
  keys.unregister transaction node key
  keys.enter transaction node key

/-! ## Keys in a batch -/

def registerIn (batch : Batch) (key : String) (keys : KeyIndex) : NodeReference × Batch :=
  let creation := Job.createNode ((∅ : Properties).insert keys.keyField (.text key))
  let (node, batch) := batch.push creation
  (node, (batch.push (.indexAdd keys.index node keys.keyField key)).2)

end KeyIndex

def provisionIndex (index : String) : Dialogue Unit := do
  match ← (ask (.createIndex index)).attempt with
  | .error (.indexExists _) => pure ()
  | .error failure => fail failure
  | .ok () => pure ()

end RecordGraph
