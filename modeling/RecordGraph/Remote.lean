import RecordGraph.Http.Client

namespace RecordGraph

/-! Links to remote engines. A link turns calls into requests; how a request gets to the service,
and whether it does, is left to a carrier. -/

structure RemoteLink where
  base : Url
  isClosed : Bool := false
  deriving DecidableEq, Repr

abbrev Carrier (World : Type) :=
  Url → Http.Request → World → Except Failure Http.Response × World

namespace RemoteLink

def describe (link : RemoteLink) : String := link.base.text

def serviceRoot : String := "/db/data"

/-- The address of the service that is named by a text. It has to be an address by itself, and to
have a path with parts. -/
def baseOf (url : String) : Except Failure Url :=
  match Url.parse? (Text.dropTrailing '/' url ++ serviceRoot) with
  | none => .error (.config ("invalid engine url '" ++ url ++ "': not an address"))
  | some base => match base.path with
      | .undivided _ => .error (.config ("engine url '" ++ url ++ "' cannot carry a path"))
      | .parts _ => .ok base

def send {World Answer : Type} (carrier : Carrier World) (request : Http.Request)
    (read : Http.Response → Except Failure Answer) (link : RemoteLink) (world : World) :
    Except Failure Answer × World :=
  match carrier link.base request world with
  | (.error failure, world) => (.error failure, world)
  | (.ok response, world) => (read response, world)

def connect {World : Type} (carrier : Carrier World) (url : String) (world : World) :
    Except Failure RemoteLink × World :=
  match baseOf url with
  | .error failure => (.error failure, world)
  | .ok base =>
      let link : RemoteLink := { base }
      let (outcome, world) :=
        link.send carrier (.forRoot base) (·.value Wire.serviceRoot) world
      (outcome.map fun _ => link, world)

/-- Performs a call by one request. A closed link only finishes the transactions that are open. -/
def perform {World : Type} (carrier : Carrier World) (link : RemoteLink) (call : Call)
    (world : World) : Except Failure call.Answer × World :=
  if link.isClosed && !call.finishes then (.error .closed, world)
  else link.send carrier (.ofCall link.base call) (·.toAnswer call) world

def shutdown (link : RemoteLink) : RemoteLink := { link with isClosed := true }

end RemoteLink

end RecordGraph
