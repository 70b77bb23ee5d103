import RecordGraph.Http.Client
import RecordGraph.Proofs.Engine.Telling
import RecordGraph.Proofs.Wire.Message

namespace RecordGraph.Http

/-! Responses say what they have been made of: an answer, or a failure that is told. -/

open Json

theorem toFailure_ofFailure {failure : Failure} (told : failure.isTold = true) :
    (Response.ofFailure failure).toFailure = failure := by
  have report := Wire.faithful_failureReport.parse (by decide) (.ofFailure failure)
  rw [Response.toFailure, Response.ofFailure]
  simp only [Option.map_some, report]
  cases failure
  all_goals first | rfl | cases told

theorem isSuccess_ofFailure (failure : Failure) :
    (Response.ofFailure failure).isSuccess = false := by
  cases failure
  all_goals rfl

theorem value_ofFailure {Value : Type} (form : Codec Value) {failure : Failure}
    (told : failure.isTold = true) :
    (Response.ofFailure failure).value form = .error failure := by
  rw [Response.value, isSuccess_ofFailure, toFailure_ofFailure told]
  rfl

theorem value_notFound {Value : Type} (form : Codec Value) :
    (Response.bare 404).value form = .error (.remote 404 "404 Not Found") := rfl

theorem done_ofFailure {failure : Failure} (told : failure.isTold = true) :
    (Response.ofFailure failure).done = .error failure := by
  rw [Response.done, isSuccess_ofFailure, toFailure_ofFailure told]
  rfl

theorem value_written {Value : Type} {form : Codec Value} {depth : Nat}
    (faithful : form.Faithful depth) (shallow : depth ≤ Setting.outset.room) (value : Value) :
    Response.value form ⟨200, some (form.write value)⟩ = .ok value := by
  have success : Response.isSuccess ⟨200, some (form.write value)⟩ = true := rfl
  rw [Response.value, if_pos success, Option.getD_some, faithful.parse shallow]

theorem toAnswer_ofFailure (call : Call) {failure : Failure} (told : failure.isTold = true) :
    (Response.ofFailure failure).toAnswer call = .error failure := by
  cases call with
  | createIndex name => exact done_ofFailure told
  | indexGet index key value => exact value_ofFailure Wire.nodeIds told
  | indexRange index range => exact value_ofFailure Wire.nodeIds told
  | nodeProperty node name => exact value_ofFailure Wire.optionalProperty told
  | nodeProperties node => exact value_ofFailure Wire.properties told
  | beginTransaction => exact value_ofFailure Wire.begun told
  | stage id step => exact value_ofFailure Wire.staged told
  | commit id => exact done_ofFailure told
  | rollback id => exact done_ofFailure told
  | executeBatch batch => exact value_ofFailure Wire.batchDone told

theorem toAnswer_ofAnswer (call : Call) (answer : call.Answer) :
    (Response.ofAnswer call answer).toAnswer call = .ok answer := by
  cases call with
  | createIndex name => rfl
  | indexGet index key value => exact value_written Wire.faithful_nodeIds (by decide) answer
  | indexRange index range => exact value_written Wire.faithful_nodeIds (by decide) answer
  | nodeProperty node name => exact value_written Wire.faithful_optionalProperty (by decide) answer
  | nodeProperties node => exact value_written Wire.faithful_properties (by decide) answer
  | beginTransaction => exact value_written Wire.faithful_begun (by decide) answer
  | stage id step => exact value_written Wire.faithful_staged (by decide) answer
  | commit id => rfl
  | rollback id => rfl
  | executeBatch batch => exact value_written Wire.faithful_batchDone (by decide) answer

/-- What a client makes of the response to a call is what the call has come to. -/
theorem toAnswer_ofOutcome {call : Call} {outcome : Except Failure call.Answer}
    (tells : Tells outcome) : (Response.ofOutcome call outcome).toAnswer call = outcome := by
  cases outcome with
  | ok answer => exact toAnswer_ofAnswer call answer
  | error failure => exact toAnswer_ofFailure call (tells failure rfl)

end RecordGraph.Http
