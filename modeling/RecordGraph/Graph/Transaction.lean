import RecordGraph.Graph.Basic

namespace RecordGraph

/-! Transactions. A transaction stages writes without changing the graph, answering from its own
writes and the graph as it is committed at the moment. When it commits, the writes are checked
again against the graph of that moment, and then performed all or not at all. -/

abbrev TransactionId := UInt64

inductive Step where
  | createNode
  | setProperty (node : NodeId) (name : String) (value : PropertyValue)
  | deleteNode (node : NodeId)
  | indexAdd (index : String) (node : NodeId) (key value : String)
  | indexRemove (index : String) (node : NodeId) (key value : String)
  deriving DecidableEq, Repr

/-- The writes of an open transaction in the order of their staging, and which nodes it has created
and deleted. -/
structure Transaction where
  writes : List Write := []
  created : NodeSet := ∅
  deleted : NodeSet := ∅
  deriving DecidableEq

namespace Transaction

/-! ## Staging -/

def seesNode (graph : Graph) (node : NodeId) (transaction : Transaction) : Bool :=
  !transaction.deleted.contains node &&
    (transaction.created.contains node || graph.hasNode node)

def push (write : Write) (transaction : Transaction) : Transaction :=
  { transaction with writes := transaction.writes ++ [write] }

def create (node : NodeId) (transaction : Transaction) : Transaction :=
  { transaction.push (.createNode node) with created := transaction.created.insert node }

def pushOn (graph : Graph) (node : NodeId) (write : Write) (transaction : Transaction) :
    Except Failure Transaction :=
  if transaction.seesNode graph node then .ok (transaction.push write)
  else .error (.noNode node)

/-- Stages one step. `fresh` is the number that a created node gets; the answer says whether it was
used. -/
def stage (graph : Graph) (fresh : NodeId) (step : Step) (transaction : Transaction) :
    Except Failure (Option NodeId × Transaction) :=
  match step with
  | .createNode => .ok (some fresh, transaction.create fresh)
  | .setProperty node name value =>
      if name.isEmpty then .error .emptyPropertyName
      else do .ok (none, ← transaction.pushOn graph node (.setProperty node name value))
  | .deleteNode node => do
      let staged ← transaction.pushOn graph node (.deleteNode node)
      .ok (none, { staged with
        created := staged.created.erase node
        deleted := staged.deleted.insert node })
  | .indexAdd index node key value =>
      if graph.hasIndex index then do
        .ok (none, ← transaction.pushOn graph node (.indexAdd index node key value))
      else .error (.noIndex index)
  | .indexRemove index node key value =>
      if graph.hasIndex index then
        .ok (none, transaction.push (.indexRemove index node key value))
      else .error (.noIndex index)

/-! ## Committing -/

structure Standing where
  created : NodeSet := ∅
  deleted : NodeSet := ∅

def Standing.hasNode (graph : Graph) (node : NodeId) (standing : Standing) : Bool :=
  !standing.deleted.contains node && (standing.created.contains node || graph.hasNode node)

def Standing.check (graph : Graph) (standing : Standing) : Write → Except Failure Standing
  | .createNode node => .ok { standing with created := standing.created.insert node }
  | .setProperty node _ _ =>
      if standing.hasNode graph node then .ok standing else .error (.nodeRemoved node)
  | .deleteNode node =>
      if standing.hasNode graph node then
        .ok { standing with deleted := standing.deleted.insert node }
      else .error (.nodeRemoved node)
  | .indexAdd index node _ _ =>
      if !standing.hasNode graph node then .error (.nodeRemoved node)
      else if graph.hasIndex index then .ok standing
      else .error (.indexDropped index)
  | .indexRemove index _ _ _ =>
      if graph.hasIndex index then .ok standing else .error (.indexDropped index)

def checkAll (graph : Graph) : Standing → List Write → Except Failure Unit
  | _, [] => .ok ()
  | standing, write :: writes => do
      let standing ← standing.check graph write
      checkAll graph standing writes

def commit (graph : Graph) (transaction : Transaction) : Except Failure Graph := do
  checkAll graph {} transaction.writes
  .ok (graph.performAll transaction.writes)

end Transaction

end RecordGraph
