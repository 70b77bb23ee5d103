import RecordGraph.Engine
import RecordGraph.Http.Exchange

namespace RecordGraph.Http

/-! The service in front of an engine. It keeps a table of the transactions that were begun through
it, and knows no others. -/

structure Service where
  /-- The transactions that have been begun through the service and not finished. -/
  transactions : Std.ExtTreeSet TransactionId compare := ∅
  deriving DecidableEq

namespace Service

def forget (id : TransactionId) (service : Service) : Service :=
  { transactions := service.transactions.erase id }

/-- The service after a call that is not about an open transaction: a transaction that has begun
enters the table. -/
def remember : (call : Call) → Except Failure call.Answer → Service → Service
  | .beginTransaction, .ok id, service => { transactions := service.transactions.insert id }
  | _, _, service => service

/-- Performs a call for a client. A call about a transaction needs one of the table, and takes it
from there if it finishes it. -/
def perform (call : Call) (service : Service) (engine : Engine) :
    Except Failure call.Answer × Service × Engine :=
  match call.transaction? with
  | none =>
      let (outcome, engine) := engine.perform call
      (outcome, service.remember call outcome, engine)
  | some id =>
      if service.transactions.contains id then
        let (outcome, engine) := engine.perform call
        (outcome, if call.finishes then service.forget id else service, engine)
      else (.error (.noTransaction id), service, engine)

def answer (request : Request) (service : Service) (engine : Engine) :
    Response × Service × Engine :=
  match request.demand with
  | .error status => (.bare status, service, engine)
  | .ok .root => (⟨200, some (Wire.serviceRoot.write .current)⟩, service, engine)
  | .ok (.call call) =>
      let (outcome, service, engine) := service.perform call engine
      (.ofOutcome call outcome, service, engine)

/-- The response to a request. A request for the head of a response gets no body. -/
def respond (request : Request) (service : Service) (engine : Engine) :
    Response × Service × Engine :=
  let (response, service, engine) := service.answer request engine
  if request.method = "HEAD" then ({ response with body := none }, service, engine)
  else (response, service, engine)

end Service

end RecordGraph.Http
