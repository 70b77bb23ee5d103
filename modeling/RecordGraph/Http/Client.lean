import RecordGraph.Http.Exchange
import RecordGraph.Url.Basic

namespace RecordGraph.Http

/-! The side of a client: how a call is put into a request, and what is made of the response. -/

open Json

/-! ## Requests -/

def callPlace : Call → String × List String
  | .createIndex _ => ("POST", ["index", "node"])
  | .indexGet index _ _ => ("POST", ["index", "node", index, "lookup"])
  | .indexRange index _ => ("POST", ["index", "node", index, "range"])
  | .nodeProperty node _ => ("GET", ["node", toString node.toNat, "property"])
  | .nodeProperties node => ("GET", ["node", toString node.toNat, "properties"])
  | .beginTransaction => ("POST", ["transaction"])
  | .stage id _ => ("POST", ["transaction", toString id.toNat])
  | .commit id => ("POST", ["transaction", toString id.toNat, "commit"])
  | .rollback id => ("DELETE", ["transaction", toString id.toNat])
  | .executeBatch _ => ("POST", ["batch"])

def callBody : Call → Option Bytes
  | .createIndex name => some (Wire.named.write name)
  | .indexGet _ key value => some (Wire.lookup.write ⟨key, value⟩)
  | .indexRange _ range => some (Wire.indexRange.write range)
  | .stage _ step => some (Wire.step.write step)
  | .executeBatch batch => some (Wire.batch.write batch)
  | _ => none

def callQuery : Call → Option String
  | .nodeProperty _ name => some (encodeQuery "name" name)
  | _ => none

def placeBelow (base : Url) (parts : List String) (query : Option String) : Url :=
  let path := match base.path with
    | .undivided text => .undivided text
    | .parts before => .parts (Url.addParts before parts)
  let query := match base.query, query with
    | some before, some more => some (before ++ "&" ++ more)
    | before, more => before <|> more
  { base with path, query }

/-- The request of a call. No bound is set on its body. -/
def Request.ofCall (base : Url) (call : Call) : Request :=
  let (method, parts) := callPlace call
  { method
    target := (placeBelow base parts (callQuery call)).target
    contentType := (callBody call).map fun _ => jsonType
    body := (callBody call).getD [] }

def Request.forRoot (base : Url) : Request :=
  { method := "GET", target := (placeBelow base [] none).target }

/-! ## Responses -/

def reason (status : Nat) : String :=
  match status with
  | 400 => "Bad Request"
  | 404 => "Not Found"
  | 405 => "Method Not Allowed"
  | 409 => "Conflict"
  | 413 => "Payload Too Large"
  | 415 => "Unsupported Media Type"
  | 422 => "Unprocessable Entity"
  | 500 => "Internal Server Error"
  | 501 => "Not Implemented"
  | 503 => "Service Unavailable"
  | _ => "<unknown status code>"

def Response.toFailure (response : Response) : Failure :=
  let told := match response.body.map Wire.failureReport.parse with
    | some (.ok report) => report
    | _ => ⟨"remote", toString response.status ++ " " ++ reason response.status⟩
  told.toFailure response.status

def Response.isSuccess (response : Response) : Bool :=
  200 ≤ response.status && response.status < 300

def Response.value {Value : Type} (form : Codec Value) (response : Response) :
    Except Failure Value :=
  if response.isSuccess then
    match form.parse (response.body.getD []) with
    | .ok value => .ok value
    | .error _ => .error (.http "the response is not of the expected form")
  else .error response.toFailure

def Response.done (response : Response) : Except Failure Unit :=
  if response.isSuccess then .ok () else .error response.toFailure

def Response.toAnswer (response : Response) : (call : Call) → Except Failure call.Answer
  | .createIndex _ => response.done
  | .indexGet _ _ _ => response.value Wire.nodeIds
  | .indexRange _ _ => response.value Wire.nodeIds
  | .nodeProperty _ _ => response.value Wire.optionalProperty
  | .nodeProperties _ => response.value Wire.properties
  | .beginTransaction => response.value Wire.begun
  | .stage _ _ => response.value Wire.staged
  | .commit _ => response.done
  | .rollback _ => response.done
  | .executeBatch _ => response.value Wire.batchDone

end RecordGraph.Http
