import Mathlib.Logic.Function.Basic
import RecordGraph.Client
import RecordGraph.Proofs.Record.Store

namespace RecordGraph

/-! Clients that share a host, and the store that they seem to share: queues of records that are
there whether or not anybody has a session. -/

/-! ## Calls of clients -/

inductive Request where
  | init
  | cleanup
  | insert (key : String) (fields : FieldMap)
  | update (key : String) (fields : FieldMap)
  | delete (key : String)
  | read (key : String) (requested : Option FieldSet) (into : FieldMap)

inductive Reply where
  | started (outcome : Except Failure Unit)
  | ended
  | status (status : Status)
  | record (status : Status) (fields : FieldMap)
  deriving DecidableEq

/-- A new record uses up a number for its node, even if it is refused. -/
def Request.isInsert : Request → Bool
  | .insert _ _ => true
  | _ => false

structure Party where
  clients : Nat → Client
  host : Host

namespace Party

def step (who : Nat) (request : Request) (party : Party) : Reply × Party :=
  let client := party.clients who
  match request with
  | .init =>
      let (outcome, client, host) := client.init party.host
      (.started outcome, { clients := Function.update party.clients who client, host })
  | .cleanup =>
      let (client, host) := client.cleanup party.host
      (.ended, { clients := Function.update party.clients who client, host })
  | .insert key fields =>
      let (status, host) := client.insert key fields party.host
      (.status status, { party with host })
  | .update key fields =>
      let (status, host) := client.update key fields party.host
      (.status status, { party with host })
  | .delete key =>
      let (status, host) := client.delete key party.host
      (.status status, { party with host })
  | .read key requested into =>
      let (status, fields, host) := client.read key requested into party.host
      (.record status fields, { party with host })

def run : List (Nat × Request) → Party → List Reply × Party
  | [], party => ([], party)
  | (who, request) :: calls, party =>
      let (reply, party) := party.step who request
      let (replies, party) := run calls party
      (reply :: replies, party)

def Fits (place : RegistryId) (party : Party) : Prop :=
  ∀ id ∈ (party.host.registry place).engine, (party.host.engine id).snapshot.Fits

instance (place : RegistryId) (party : Party) : Decidable (party.Fits place) :=
  inferInstanceAs (Decidable (∀ id ∈ _, _))

end Party

/-! ## The store that they seem to share -/

/-- The clients that have a session, and the queues. -/
structure Reference where
  sessions : Std.ExtTreeSet Nat compare := ∅
  queues : Queues := ∅

namespace Reference

def step (keyField : String) (who : Nat) (request : Request) (reference : Reference) :
    Reply × Reference :=
  match request with
  | .init => (.started (.ok ()), { reference with sessions := reference.sessions.insert who })
  | .cleanup => (.ended, { reference with sessions := reference.sessions.erase who })
  | .insert key fields =>
      if who ∈ reference.sessions then
        let (status, queues) := reference.queues.insert keyField key fields
        (.status status, { reference with queues })
      else (.status .notInitialized, reference)
  | .update key fields =>
      if who ∈ reference.sessions then
        let (status, queues) := reference.queues.update key fields
        (.status status, { reference with queues })
      else (.status .notInitialized, reference)
  | .delete key =>
      if who ∈ reference.sessions then
        let (status, queues) := reference.queues.delete key
        (.status status, { reference with queues })
      else (.status .notInitialized, reference)
  | .read key requested into =>
      if who ∈ reference.sessions then
        let (status, fields) := reference.queues.read keyField key requested into
        (.record status fields, reference)
      else (.record .notInitialized into, reference)

def run (keyField : String) : List (Nat × Request) → Reference → List Reply × Reference
  | [], reference => ([], reference)
  | (who, request) :: calls, reference =>
      let (reply, reference) := reference.step keyField who request
      let (replies, reference) := run keyField calls reference
      (reply :: replies, reference)

end Reference

end RecordGraph
