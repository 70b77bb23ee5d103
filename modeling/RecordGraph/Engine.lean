import RecordGraph.Call

namespace RecordGraph

/-! Engines: a graph with the counters that number its nodes and transactions, and the transactions
that are open on it. Whatever is done on an engine is one call; a call that fails leaves the
committed graph as it was. -/

/-- An engine. An engine without a location is never saved. -/
structure Engine where
  location : Option String := none
  graph : Graph := {}
  /-- The number of the next node. -/
  nextNode : NodeId := 1
  /-- The number of the next transaction. -/
  nextTransaction : TransactionId := 1
  isClosed : Bool := false
  /-- The transactions that have been begun and not finished. -/
  transactions : Std.ExtTreeMap TransactionId Transaction compare := ∅
  deriving DecidableEq

namespace Engine

/-- An engine over a stored graph. Nodes are numbered from above the stored ones, from the stored
counter, or from one, whichever is most. -/
def ofGraph (location : Option String) (graph : Graph) (storedNext : NodeId) : Engine :=
  let afterLast := match graph.nodes.keys.getLast? with
    | none => 1
    | some last => last + 1
  { location, graph, nextNode := max (max afterLast storedNext) 1 }

def inMemory : Engine := {}

def describe (engine : Engine) : String :=
  match engine.location with
  | some path => "embedded:" ++ path
  | none => "embedded:memory"

/-! ## Reading -/

def createIndex (name : String) (engine : Engine) : Except Failure Unit × Engine :=
  if engine.isClosed then (.error .closed, engine)
  else if name.isEmpty then (.error .emptyIndexName, engine)
  else if engine.graph.hasIndex name then (.error (.indexExists name), engine)
  else
    let graph := { engine.graph with indexes := engine.graph.indexes.insert name {} }
    (.ok (), { engine with graph })

def readIndex {Found : Type} (index : String) (read : NodeIndex → Found) (engine : Engine) :
    Except Failure Found :=
  if engine.isClosed then .error .closed
  else match engine.graph.indexes[index]? with
    | none => .error (.noIndex index)
    | some entries => .ok (read entries)

def readNode {Found : Type} (node : NodeId) (read : Properties → Found) (engine : Engine) :
    Except Failure Found :=
  if engine.isClosed then .error .closed
  else match engine.graph.nodes[node]? with
    | none => .error (.noNode node)
    | some properties => .ok (read properties)

/-! ## Transactions -/

def beginTransaction (engine : Engine) : Except Failure TransactionId × Engine :=
  if engine.isClosed then (.error .closed, engine)
  else
    let id := engine.nextTransaction
    (.ok id, { engine with
      nextTransaction := id + 1
      transactions := engine.transactions.insert id {} })

/-- Stages a step in a transaction that the caller holds. A created node uses up its number,
whatever becomes of the transaction. -/
def stageIn (step : Step) (transaction : Transaction) (engine : Engine) :
    Except Failure (Option NodeId × Transaction) × Engine :=
  if engine.isClosed then (.error .closed, engine)
  else match transaction.stage engine.graph engine.nextNode step with
    | .error failure => (.error failure, engine)
    | .ok (none, staged) => (.ok (none, staged), engine)
    | .ok (some node, staged) =>
        (.ok (some node, staged), { engine with nextNode := engine.nextNode + 1 })

def stage (id : TransactionId) (step : Step) (engine : Engine) :
    Except Failure (Option NodeId) × Engine :=
  match engine.transactions[id]? with
  | none => (.error (.noTransaction id), engine)
  | some transaction =>
      match engine.stageIn step transaction with
      | (.error failure, engine) => (.error failure, engine)
      | (.ok (created, staged), engine) =>
          (.ok created, { engine with transactions := engine.transactions.insert id staged })

def commitIn (transaction : Transaction) (engine : Engine) : Except Failure Unit × Engine :=
  if engine.isClosed then (.error .closed, engine)
  else match transaction.commit engine.graph with
    | .error failure => (.error failure, engine)
    | .ok graph => (.ok (), { engine with graph })

def forget (id : TransactionId) (engine : Engine) : Engine :=
  { engine with transactions := engine.transactions.erase id }

def commit (id : TransactionId) (engine : Engine) : Except Failure Unit × Engine :=
  match engine.transactions[id]? with
  | none => (.error (.noTransaction id), engine)
  | some transaction => (engine.forget id).commitIn transaction

def rollback (id : TransactionId) (engine : Engine) : Except Failure Unit × Engine :=
  match engine.transactions[id]? with
  | none => (.error (.noTransaction id), engine)
  | some _ => (if engine.isClosed then .error .closed else .ok (), engine.forget id)

/-! ## Batches -/

def resolve (created : List (Option NodeId)) : NodeReference → Except Failure NodeId
  | .id node => .ok node
  | .job position =>
      match created[position.toNat]? with
      | some (some node) => .ok node
      | _ => .error (.invalidArgument
          ("batch job " ++ toString position.toNat ++ " did not create a node"))

def stageSteps : List Step → Transaction → Engine → Except Failure Transaction × Engine
  | [], transaction, engine => (.ok transaction, engine)
  | step :: steps, transaction, engine =>
      match engine.stageIn step transaction with
      | (.error failure, engine) => (.error failure, engine)
      | (.ok (_, staged), engine) => stageSteps steps staged engine

def stageJob (created : List (Option NodeId)) (job : Job) (transaction : Transaction)
    (engine : Engine) : Except Failure (Option NodeId × Transaction) × Engine :=
  match job with
  | .createNode properties =>
      match engine.stageIn .createNode transaction with
      | (.ok (some node, staged), engine) =>
          let settings := properties.toList.map fun (name, value) =>
            Step.setProperty node name value
          match stageSteps settings staged engine with
          | (.ok staged, engine) => (.ok (some node, staged), engine)
          | (.error failure, engine) => (.error failure, engine)
      | (.ok (none, staged), engine) => (.ok (none, staged), engine)
      | (.error failure, engine) => (.error failure, engine)
  | .indexAdd index node key value =>
      match resolve created node with
      | .ok node => engine.stageIn (.indexAdd index node key value) transaction
      | .error failure => (.error failure, engine)
  | .setProperty node name value =>
      match resolve created node with
      | .ok node => engine.stageIn (.setProperty node name value) transaction
      | .error failure => (.error failure, engine)

def stageJobs : (created : List (Option NodeId)) → List Job → Transaction → Engine →
    Except Failure (List (Option NodeId) × Transaction) × Engine
  | created, [], transaction, engine => (.ok (created, transaction), engine)
  | created, job :: jobs, transaction, engine =>
      match stageJob created job transaction engine with
      | (.error failure, engine) => (.error failure, engine)
      | (.ok (node, staged), engine) => stageJobs (created ++ [node]) jobs staged engine

/-- Does all jobs of a batch in one transaction, or none. The answer says which node each job has
created. The transaction is numbered like any other. -/
def executeBatch (batch : Batch) (engine : Engine) :
    Except Failure (List (Option NodeId)) × Engine :=
  if engine.isClosed then (.error .closed, engine)
  else
    let engine := { engine with nextTransaction := engine.nextTransaction + 1 }
    match stageJobs [] batch {} engine with
    | (.error failure, engine) => (.error failure, engine)
    | (.ok (created, transaction), engine) =>
        match engine.commitIn transaction with
        | (.error failure, engine) => (.error failure, engine)
        | (.ok (), engine) => (.ok created, engine)

/-! ## Every call in one place -/

def perform : (call : Call) → Engine → Except Failure call.Answer × Engine
  | .createIndex name, engine => engine.createIndex name
  | .indexGet index key value, engine => (engine.readIndex index (·.get key value), engine)
  | .indexRange index range, engine => (engine.readIndex index (·.range range), engine)
  | .nodeProperty node name, engine => (engine.readNode node (·[name]?), engine)
  | .nodeProperties node, engine => (engine.readNode node id, engine)
  | .beginTransaction, engine => engine.beginTransaction
  | .stage id step, engine => engine.stage id step
  | .commit id, engine => engine.commit id
  | .rollback id, engine => engine.rollback id
  | .executeBatch batch, engine => engine.executeBatch batch

end Engine

end RecordGraph
