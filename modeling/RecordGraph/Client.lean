import RecordGraph.Host

namespace RecordGraph

/-! Clients: they keep records in the store of a binding. Between its initialization and its cleanup
a client has a session; outside of a session nothing is done. Calls come in two forms: one tells
what has failed, the other only answers a status and fills in results. -/

structure Client where
  binding : Binding
  /-- Where its embedded engine is counted. -/
  registry : RegistryId
  session : Option Connection := none
  deriving DecidableEq, Repr

namespace Client

/-! ## Sessions -/

def isInitialized (client : Client) : Bool := client.session.isSome

def refused (fault : BindingFault) : Failure := .config fault.message

def init (client : Client) (host : Host) : Except Failure Unit × Client × Host :=
  if client.isInitialized then (.ok (), client, host)
  else match client.binding.validate with
    | .error fault => (.error (refused fault), client, host)
    | .ok () =>
        match host.connectBy client.binding client.registry with
        | (.error failure, host) => (.error failure, client, host)
        | (.ok connection, host) => (.ok (), { client with session := some connection }, host)

def cleanup (client : Client) (host : Host) : Client × Host :=
  match client.session with
  | none => (client, host)
  | some connection =>
      ({ client with session := none }, host.disconnect connection client.registry)

/-! ## Calls that tell what has failed -/

def converse {Result : Type} (dialogue : Dialogue Result) (client : Client) (host : Host) :
    Except Failure Result × Host :=
  match client.session with
  | none => (.error .notInitialized, host)
  | some connection => host.converse connection dialogue

def tryInsert (key : String) (fields : FieldMap) (client : Client) :
    Host → Except Failure Unit × Host :=
  client.converse (Record.insert key fields client.binding)

def tryRead (key : String) (requested : Option FieldSet) (client : Client) :
    Host → Except Failure (Option FieldMap) × Host :=
  client.converse (Record.read key requested client.binding)

def tryUpdate (key : String) (fields : FieldMap) (client : Client) :
    Host → Except Failure Bool × Host :=
  client.converse (Record.update key fields client.binding)

def tryDelete (key : String) (client : Client) : Host → Except Failure Bool × Host :=
  client.converse (Record.delete key client.binding)

def tryScan (start : String) (count : UInt64) (requested : Option FieldSet) (client : Client) :
    Host → Except Failure (List FieldMap) × Host :=
  client.converse (Record.scan start count requested client.binding)

/-! ## Calls that answer a status -/

def statusOf : Except Failure Bool → Status
  | .ok true => .ok
  | .ok false => .notFound
  | .error failure => .ofFailure failure

def insert (key : String) (fields : FieldMap) (client : Client) (host : Host) :
    Status × Host :=
  let (outcome, host) := client.tryInsert key fields host
  (statusOf (outcome.map fun () => true), host)

def read (key : String) (requested : Option FieldSet) (into : FieldMap) (client : Client)
    (host : Host) : Status × FieldMap × Host :=
  let (outcome, host) := client.tryRead key requested host
  let result := match outcome with
    | .ok (some fields) => overlay into fields
    | _ => into
  (statusOf (outcome.map Option.isSome), result, host)

def update (key : String) (fields : FieldMap) (client : Client) (host : Host) :
    Status × Host :=
  let (outcome, host) := client.tryUpdate key fields host
  (statusOf outcome, host)

def delete (key : String) (client : Client) (host : Host) : Status × Host :=
  let (outcome, host) := client.tryDelete key host
  (statusOf outcome, host)

def scan (start : String) (count : UInt64) (requested : Option FieldSet)
    (into : List FieldMap) (client : Client) (host : Host) :
    Status × List FieldMap × Host :=
  let (outcome, host) := client.tryScan start count requested host
  let result := match outcome with
    | .ok records => into ++ records
    | .error _ => into
  (statusOf (outcome.map fun _ => true), result, host)

end Client

end RecordGraph
