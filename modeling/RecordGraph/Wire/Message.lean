import RecordGraph.Binding.Basic
import RecordGraph.Failure
import RecordGraph.Wire.Value

namespace RecordGraph.Wire

/-! The messages between a client and the service in front of an engine: what is asked, what is
answered, and how failures are told. -/

open Json

/-! ## What is asked -/

structure Lookup where
  key : String
  value : String
  deriving DecidableEq, Repr

def lookup : Codec Lookup :=
  (Layout.required "key" .text <| .required "value" .text .done).codec
    (fun asked => (asked.key, asked.value, ())) fun (key, value, ()) => ⟨key, value⟩

def indexRange : Codec IndexRange :=
  (Layout.required "key" .text <| .required "from" .text <| .required "to" .text <|
    .optional "limit" .word .done).codec
    (fun range => (range.key, range.lower, range.upper, range.limit, ()))
    fun (key, lower, upper, limit, ()) => { key, lower, upper, limit }

def named : Codec String :=
  (Layout.required "name" .text .done).codec (fun name => (name, ())) (·.1)

/-! ## What is answered -/

structure ServiceRoot where
  engine : String
  version : String
  deriving DecidableEq, Repr

def ServiceRoot.current : ServiceRoot := ⟨"graphbench", "0.4.0"⟩

def serviceRoot : Codec ServiceRoot :=
  (Layout.required "engine" .text <| .required "version" .text .done).codec
    (fun root => (root.engine, root.version, ())) fun (engine, version, ()) => ⟨engine, version⟩

def begun : Codec TransactionId :=
  (Layout.required "id" .word .done).codec (fun id => (id, ())) (·.1)

def staged : Codec (Option NodeId) :=
  (Layout.optional "node" .word .done).codec (fun node => (node, ())) (·.1)

def batchDone : Codec (List (Option NodeId)) :=
  (Layout.required "nodes" (.list (.option .word)) .done).codec (fun nodes => (nodes, ())) (·.1)

def nodeIds : Codec (List NodeId) := .list .word

def optionalProperty : Codec (Option PropertyValue) := .option propertyValue

/-! ## How failures are told -/

structure FailureReport where
  kind : String
  detail : String
  deriving DecidableEq, Repr

def failureReport : Codec FailureReport :=
  (Layout.required "kind" .text <| .required "detail" .text .done).codec
    (fun report => (report.kind, report.detail, ())) fun (kind, detail, ()) => ⟨kind, detail⟩

namespace FailureReport

/-- The report of a failure. The details of failures that a client can act on are told as they are,
and all others in words. -/
def ofFailure (failure : Failure) : FailureReport where
  kind := failure.kind
  detail := match failure with
    | .notFound detail => detail
    | .missingField detail => detail
    | .indexExists detail => detail
    | .invalidArgument detail => detail
    | .conflict detail => detail
    | other => other.message

def toFailure (status : Nat) (report : FailureReport) : Failure :=
  match report.kind with
  | "not_found" => .notFound report.detail
  | "missing_field" => .missingField report.detail
  | "index_exists" => .indexExists report.detail
  | "invalid_argument" => .invalidArgument report.detail
  | "conflict" => .conflict report.detail
  | "closed" => .closed
  | "unsupported" => .unsupported "remote engine operation"
  | _ => .remote status report.detail

end FailureReport

def statusCode : Failure → Nat
  | .notFound _ => 404
  | .missingField _ => 404
  | .indexExists _ => 409
  | .conflict _ => 409
  | .invalidArgument _ => 400
  | .serialization _ => 400
  | .unsupported _ => 501
  | .closed => 503
  | _ => 500

/-! ## Bindings -/

def mode : Codec Mode := Codec.text.imap Mode.name Mode.ofName?

def scanPolicy : Codec ScanPolicy := Codec.text.imap ScanPolicy.name ScanPolicy.ofName?

def binding : Codec Binding :=
  let absent : Binding := {}
  (Layout.defaulted "url" .text absent.url <| .defaulted "mode" mode absent.mode <|
    .defaulted "scan" scanPolicy absent.scan <| .defaulted "index" .text absent.index <|
    .defaulted "key_field" .text absent.keyField <|
    .defaulted "timeout_ms" (.option .word) absent.timeout .done).codec
    (fun it => (it.url, it.mode, it.scan, it.index, it.keyField, it.timeout, ()))
    fun (url, mode, scan, index, keyField, timeout, ()) =>
      { url, mode, scan, index, keyField, timeout }

end RecordGraph.Wire
