import RecordGraph.Client
import RecordGraph.Proofs.Record.Asking

namespace RecordGraph

/-! Errands: what a client can be asked to do with records. All of them go the same way: a dialogue
is held over the connection of the client, and its outcome is turned into a report. -/

/-- Something to be done with records. What is read is added to what the caller has already. -/
inductive Errand where
  | insert (key : String) (fields : FieldMap)
  | update (key : String) (fields : FieldMap)
  | delete (key : String)
  | read (key : String) (requested : Option FieldSet) (into : FieldMap)
  | scan (start : String) (count : UInt64) (requested : Option FieldSet) (into : List FieldMap)
  deriving DecidableEq

inductive Report where
  | done (status : Status)
  | found (status : Status) (fields : FieldMap)
  | listed (status : Status) (records : List FieldMap)
  deriving DecidableEq

def Report.status : Report → Status
  | done status => status
  | found status _ => status
  | listed status _ => status

def Client.carryOut (errand : Errand) (client : Client) (host : Host) : Report × Host :=
  match errand with
  | .insert key fields =>
      let (status, host) := client.insert key fields host
      (.done status, host)
  | .update key fields =>
      let (status, host) := client.update key fields host
      (.done status, host)
  | .delete key =>
      let (status, host) := client.delete key host
      (.done status, host)
  | .read key requested into =>
      let (status, fields, host) := client.read key requested into host
      (.found status fields, host)
  | .scan start count requested into =>
      let (status, records, host) := client.scan start count requested into host
      (.listed status records, host)

namespace Errand

@[reducible] def Result : Errand → Type
  | insert _ _ => Unit
  | update _ _ => Bool
  | delete _ => Bool
  | read _ _ _ => Option FieldMap
  | scan _ _ _ _ => List FieldMap

def dialogue (binding : Binding) : (errand : Errand) → Dialogue errand.Result
  | insert key fields => Record.insert key fields binding
  | update key fields => Record.update key fields binding
  | delete key => Record.delete key binding
  | read key requested _ => Record.read key requested binding
  | scan start count requested _ => Record.scan start count requested binding

def report : (errand : Errand) → Except Failure errand.Result → Report
  | insert _ _, outcome => .done (Client.statusOf (outcome.map fun () => true))
  | update _ _, outcome => .done (Client.statusOf outcome)
  | delete _, outcome => .done (Client.statusOf outcome)
  | read _ _ into, outcome => .found (Client.statusOf (outcome.map Option.isSome))
      (match outcome with
        | .ok (some fields) => overlay into fields
        | _ => into)
  | scan _ _ _ into, outcome => .listed (Client.statusOf (outcome.map fun _ => true))
      (match outcome with
        | .ok records => into ++ records
        | .error _ => into)

def idle (status : Status) : Errand → Report
  | insert _ _ => .done status
  | update _ _ => .done status
  | delete _ => .done status
  | read _ _ into => .found status into
  | scan _ _ _ into => .listed status into

theorem report_idle (errand : Errand) (outcome : Except Failure errand.Result)
    (undone : (errand.report outcome).status ≠ .ok) :
    errand.report outcome = errand.idle (errand.report outcome).status := by
  cases errand with
  | insert key fields => rfl
  | update key fields => rfl
  | delete key => rfl
  | read key requested into =>
      rcases outcome with failure | _ | fields
      · rfl
      · rfl
      · exact absurd rfl undone
  | scan start count requested into =>
      rcases outcome with failure | records
      · rfl
      · exact absurd rfl undone

theorem asks_dialogue (errand : Errand) (binding : Binding) :
    (errand.dialogue binding).Asks binding.keys.Uses := by
  cases errand with
  | insert key fields => exact Record.asks_insert key fields
  | update key fields => exact Record.asks_update key fields
  | delete key => exact Record.asks_delete key
  | read key requested into =>
      exact (Record.consults_read key requested).mono fun _ consults => consults.2
  | scan start count requested into =>
      exact (Record.consults_scan start count requested).mono fun _ consults => consults.2

end Errand

theorem Client.carryOut_eq (errand : Errand) (client : Client) (host : Host) :
    client.carryOut errand host =
      (errand.report (client.converse (errand.dialogue client.binding) host).1,
        (client.converse (errand.dialogue client.binding) host).2) := by
  cases errand with
  | insert key fields => rfl
  | update key fields => rfl
  | delete key => rfl
  | read key requested into =>
      rw [carryOut, read, tryRead, Errand.dialogue]
      rcases client.converse (Record.read key requested client.binding) host with
        ⟨_ | _ | fields, after⟩
      · rfl
      · rfl
      · rfl
  | scan start count requested into =>
      rw [carryOut, scan, tryScan, Errand.dialogue]
      rcases client.converse (Record.scan start count requested client.binding) host with
        ⟨_ | records, after⟩
      · rfl
      · rfl

end RecordGraph
