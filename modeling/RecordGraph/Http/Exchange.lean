import RecordGraph.Call
import RecordGraph.Http.MediaType
import RecordGraph.Http.Percent
import RecordGraph.Wire.Message

namespace RecordGraph.Http

/-! Calls as requests of the web, and answers as responses. Each kind of call has a route: a path
below the root of the service, a method, and a form for what is asked. -/

open Json

/-! ## Messages -/

/-- A request. The target is the path with the query, as it is sent; a whole address may stand for
it. The service may have set a bound on the length of the body. -/
structure Request where
  method : String
  target : String
  contentType : Option String := none
  body : Bytes := []
  bodyLimit : Option Nat := none
  deriving DecidableEq, Repr

structure Response where
  status : Nat
  body : Option Bytes := none
  deriving DecidableEq, Repr

def Response.bare (status : Nat) : Response := { status }

def jsonType : String := "application/json"

/-! ## Targets -/

def pathParts (path : String) : List String :=
  (Text.pieces 0x2F (Utf8.encode path)).map Utf8.decodeLossy

def isSchemeChar (character : Char) : Bool :=
  character.isAlphanum || ['+', '-', '.'].contains character

/-- The part of a target that the service looks at: from its first slash on, or in a whole address
from where the scheme and the host end. -/
def localTarget (target : List Char) : List Char :=
  match target.dropWhile isSchemeChar with
  | ':' :: '/' :: '/' :: rest => rest.dropWhile fun character =>
      !(['/', '?', '#'].contains character)
  | _ => target

/-- The path of a target and its query. What follows a number sign does not count. -/
def splitTarget (target : String) : String × String :=
  let kept := (localTarget target.toList).takeWhile (· ≠ '#')
  let path := kept.takeWhile (· ≠ '?')
  (String.ofList path, String.ofList ((kept.drop path.length).drop 1))

example : splitTarget "/a?b#c" = ("/a", "b") := by decide
example : splitTarget "http://h:80/a?b" = ("/a", "b") := by decide

def rootParts : List String := ["db", "data"]

/-! ## Routes -/

inductive Route where
  | root
  | indexes
  | lookup (index : String)
  | range (index : String)
  | properties (node : String)
  | property (node : String)
  | transactions
  | transaction (id : String)
  | commit (id : String)
  | batch
  deriving DecidableEq, Repr

namespace Route

def ofParts? : List String → Option Route
  | [] => some root
  | ["index", "node"] => some indexes
  | ["index", "node", index, "lookup"] => some (lookup index)
  | ["index", "node", index, "range"] => some (range index)
  | ["node", node, "properties"] => some (properties node)
  | ["node", node, "property"] => some (property node)
  | ["transaction"] => some transactions
  | ["transaction", id] => if id.isEmpty then none else some (transaction id)
  | ["transaction", id, "commit"] => some (commit id)
  | ["batch"] => some batch
  | _ => none

def ofPath? (path : String) : Option Route :=
  match pathParts path with
  | "" :: "db" :: "data" :: parts => ofParts? parts
  | _ => none

end Route

/-! ## What a request demands -/

inductive Demand where
  | root
  | call (call : Call)

def textPart (part : String) : Except Nat String :=
  match decodePart? part with
  | some text => .ok text
  | none => .error 400

def wordPart (part : String) : Except Nat UInt64 := do
  match Decimal.word? (← textPart part) with
  | some word => .ok word
  | none => .error 400

/-- The value in the body of a request, which has to be declared as JSON and within its bound. What
follows the value in the body does not matter. -/
def readBody {Value : Type} (form : Codec Value) (request : Request) : Except Nat Value :=
  if request.contentType.any isJsonType then
    if request.bodyLimit.any (· < request.body.length) then .error 413
    else
      match form.parseFront request.body with
      | .ok value => .ok value
      | .error .mismatched => .error 422
      | .error _ => .error 400
  else .error 415

def readName (query : String) : Except Nat String :=
  match (decodeQuery query).filter (·.1 = "name") with
  | [(_, name)] => .ok name
  | _ => .error 400

def Route.demand (request : Request) (query : String) : Route → Except Nat Demand
  | root => reading do .ok .root
  | indexes => writing do
      .ok (.call (.createIndex (← readBody Wire.named request)))
  | lookup index => writing do
      let index ← textPart index
      let wanted ← readBody Wire.lookup request
      .ok (.call (.indexGet index wanted.key wanted.value))
  | range index => writing do
      let index ← textPart index
      .ok (.call (.indexRange index (← readBody Wire.indexRange request)))
  | properties node => reading do .ok (.call (.nodeProperties (← wordPart node)))
  | property node => reading do
      let node ← wordPart node
      .ok (.call (.nodeProperty node (← readName query)))
  | transactions => writing do .ok (.call .beginTransaction)
  | transaction id =>
      if request.method = "DELETE" then do .ok (.call (.rollback (← wordPart id)))
      else writing do
        let id ← wordPart id
        .ok (.call (.stage id (← readBody Wire.step request)))
  | commit id => writing do .ok (.call (.commit (← wordPart id)))
  | batch => writing do .ok (.call (.executeBatch (← readBody Wire.batch request)))
where
  reading (demand : Except Nat Demand) : Except Nat Demand :=
    if request.method = "GET" ∨ request.method = "HEAD" then demand else .error 405
  writing (demand : Except Nat Demand) : Except Nat Demand :=
    if request.method = "POST" then demand else .error 405

def Request.demand (request : Request) : Except Nat Demand :=
  let (path, query) := splitTarget request.target
  match Route.ofPath? path with
  | none => .error 404
  | some route => route.demand request query

/-! ## Responses -/

def Response.ofAnswer : (call : Call) → call.Answer → Response
  | .createIndex _, () => .bare 201
  | .indexGet _ _ _, nodes => ⟨200, some (Wire.nodeIds.write nodes)⟩
  | .indexRange _ _, nodes => ⟨200, some (Wire.nodeIds.write nodes)⟩
  | .nodeProperty _ _, value => ⟨200, some (Wire.optionalProperty.write value)⟩
  | .nodeProperties _, properties => ⟨200, some (Wire.properties.write properties)⟩
  | .beginTransaction, id => ⟨200, some (Wire.begun.write id)⟩
  | .stage _ _, node => ⟨200, some (Wire.staged.write node)⟩
  | .commit _, () => .bare 204
  | .rollback _, () => .bare 204
  | .executeBatch _, nodes => ⟨200, some (Wire.batchDone.write nodes)⟩

def Response.ofFailure (failure : Failure) : Response :=
  ⟨Wire.statusCode failure, some (Wire.failureReport.write (.ofFailure failure))⟩

def Response.ofOutcome (call : Call) : Except Failure call.Answer → Response
  | .ok answer => .ofAnswer call answer
  | .error failure => .ofFailure failure

end RecordGraph.Http
