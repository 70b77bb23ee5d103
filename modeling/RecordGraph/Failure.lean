namespace RecordGraph

/-! Why an operation on a graph store fails, and what a client is told. -/

inductive Failure where
  /-- The file system refused. -/
  | io (cause : String)
  /-- A text in a data format could not be read or written. -/
  | serialization (cause : String)
  /-- Stored data is damaged. -/
  | corruption (detail : String)
  /-- The binding is not configured in a usable way. -/
  | config (detail : String)
  /-- A node, an index or a transaction does not exist. -/
  | notFound (subject : String)
  /-- A record does not have the requested field. -/
  | missingField (name : String)
  /-- The index to be created is already there. -/
  | indexExists (name : String)
  | invalidArgument (detail : String)
  /-- A staged write no longer applies. -/
  | conflict (detail : String)
  /-- The connection has been shut down. -/
  | closed
  /-- The client has no session. -/
  | notInitialized
  | unsupported (operation : String)
  /-- The remote engine answered with a failure of its own. -/
  | remote (status : Nat) (detail : String)
  /-- The remote engine could not be reached or understood. -/
  | http (cause : String)
  deriving DecidableEq, Repr

namespace Failure

def kind : Failure → String
  | io _ => "io"
  | serialization _ => "serialization"
  | corruption _ => "corruption"
  | config _ => "config"
  | notFound _ => "not_found"
  | missingField _ => "missing_field"
  | indexExists _ => "index_exists"
  | invalidArgument _ => "invalid_argument"
  | conflict _ => "conflict"
  | closed => "closed"
  | notInitialized => "not_initialized"
  | unsupported _ => "unsupported"
  | remote _ _ => "remote"
  | http _ => "http"

def message : Failure → String
  | io cause => "I/O error: " ++ cause
  | serialization cause => "serialization error: " ++ cause
  | corruption detail => "corruption detected: " ++ detail
  | config detail => "configuration error: " ++ detail
  | notFound subject => subject ++ " not found"
  | missingField name => "field '" ++ name ++ "' is not set on the entity"
  | indexExists name => "index '" ++ name ++ "' already exists"
  | invalidArgument detail => "invalid argument: " ++ detail
  | conflict detail => "transaction conflict: " ++ detail
  | closed => "connection is closed"
  | notInitialized => "client is not initialized"
  | unsupported operation => "unsupported operation: " ++ operation
  | remote status detail => "remote engine error (" ++ toString status ++ "): " ++ detail
  | http cause => "http error: " ++ cause

/-! ## Failures by what is missing or in the way -/

def nodeNamed (node : UInt64) : String := "node " ++ toString node.toNat

def indexNamed (index : String) : String := "index '" ++ index ++ "'"

def noNode (node : UInt64) : Failure := .notFound (nodeNamed node)

def noIndex (index : String) : Failure := .notFound (indexNamed index)

def noTransaction (transaction : UInt64) : Failure :=
  .notFound ("transaction " ++ toString transaction.toNat)

def nodeRemoved (node : UInt64) : Failure := .conflict (nodeNamed node ++ " was removed")

def indexDropped (index : String) : Failure := .conflict (indexNamed index ++ " was dropped")

def emptyPropertyName : Failure := .invalidArgument "property name must not be empty"

def emptyIndexName : Failure := .invalidArgument "index name must not be empty"

example : (noNode 7).message = "node 7 not found" := by decide
example : (noIndex "i").message = "index 'i' not found" := by decide

end Failure

/-! ## Status of a client call -/

inductive Status where
  | ok
  | error
  | notFound
  | notInitialized
  | notImplemented
  deriving DecidableEq, Repr

namespace Status

def name : Status → String
  | ok => "OK"
  | error => "ERROR"
  | notFound => "NOT_FOUND"
  | notInitialized => "NOT_INITIALIZED"
  | notImplemented => "NOT_IMPLEMENTED"

def code : Status → Nat
  | ok => 0
  | _ => 1

def isOk (status : Status) : Bool := status == .ok

def all : List Status := [.ok, .error, .notFound, .notInitialized, .notImplemented]

def ofFailure : Failure → Status
  | .notInitialized => .notInitialized
  | .unsupported _ => .notImplemented
  | _ => .error

end Status

end RecordGraph
