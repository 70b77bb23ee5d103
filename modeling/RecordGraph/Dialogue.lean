import RecordGraph.Call

namespace RecordGraph

/-! Dialogues: sequences of calls in which every call may depend on the answers before it. A
dialogue does not say who answers: an engine of the same process or one behind a service. Between
two of its calls others may be answered. -/

inductive Dialogue (Result : Type) where
  | finished (outcome : Except Failure Result)
  | asking (call : Call) (next : Except Failure call.Answer → Dialogue Result)

namespace Dialogue

def andThen {First Result : Type} (next : First → Dialogue Result) :
    Dialogue First → Dialogue Result
  | .finished (.ok value) => next value
  | .finished (.error failure) => .finished (.error failure)
  | .asking call following => .asking call fun answer => andThen next (following answer)

instance : Monad Dialogue where
  pure value := .finished (.ok value)
  bind dialogue next := andThen next dialogue

def ask (call : Call) : Dialogue call.Answer := .asking call .finished

def stage (transaction : TransactionId) (step : Step) : Dialogue Unit :=
  andThen (fun _ => .finished (.ok ())) (ask (.stage transaction step))

def fail {Result : Type} (failure : Failure) : Dialogue Result := .finished (.error failure)

def attempt {Result : Type} : Dialogue Result → Dialogue (Except Failure Result)
  | .finished outcome => .finished (.ok outcome)
  | .asking call next => .asking call fun answer => attempt (next answer)

def run {State Result : Type}
    (perform : (call : Call) → State → Except Failure call.Answer × State) :
    Dialogue Result → State → Except Failure Result × State
  | .finished outcome, state => (outcome, state)
  | .asking call next, state =>
      let (answer, state) := perform call state
      (next answer).run perform state

def forEach {Item Result : Type} (dialogue : Item → Dialogue Result) :
    List Item → Dialogue (List Result)
  | [] => pure []
  | item :: items => do
      let result ← dialogue item
      let results ← forEach dialogue items
      pure (result :: results)

end Dialogue

end RecordGraph
