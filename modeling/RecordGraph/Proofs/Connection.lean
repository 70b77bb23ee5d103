import RecordGraph.Proofs.Record.Asking
import RecordGraph.Proofs.Remote

namespace RecordGraph

/-! Connections to an engine. Whether the engine is at hand or behind a service, a dialogue over
the connection comes to what it comes to on the engine itself. -/

theorem KeyIndex.Uses.sendable {keys : KeyIndex} (keeps : Url.Keeps keys.index) {call : Call}
    (uses : keys.Uses call) : Http.Sendable call := by
  intro index named
  cases call with
  | indexGet other key value =>
      cases named
      rwa [show index = keys.index from uses]
  | indexRange other range =>
      cases named
      rwa [show index = keys.index from uses]
  | _ => cases named

theorem sends_provisionIndex (index : String) : (provisionIndex index).Asks Http.Sendable := by
  apply (asks_provisionIndex index).mono
  rintro call rfl
  exact Http.sendable_of_unnamed rfl

namespace Host

def Attached (connection : Connection) (id : EngineId) (host : Host) : Prop :=
  match connection with
  | .embedded own => own = id ∧ id < host.engines.length
  | .remote link => ∃ service, Served link service id host

variable {host : Host} {connection : Connection} {id : EngineId}

theorem Attached.perform (attached : Attached connection id host) {call : Call}
    (sendable : Http.Sendable call) :
    (host.perform connection call).1 = ((host.engine id).perform call).1 ∧
      Attached connection id (host.perform connection call).2 ∧
      (host.perform connection call).2.engine id = ((host.engine id).perform call).2 := by
  cases connection with
  | embedded own =>
      rcases attached with ⟨rfl, there⟩
      rw [Host.perform]
      refine ⟨rfl, ⟨rfl, ?_⟩, engine_setEngine there _⟩
      rw [length_setEngine]
      exact there
  | remote link =>
      rcases attached with ⟨service, served⟩
      rcases served.perform sendable with ⟨later, performed, after, engine, -⟩
      rw [performed]
      exact ⟨rfl, ⟨service, after⟩, engine⟩

theorem Attached.converse (attached : Attached connection id host) {Result : Type}
    {dialogue : Dialogue Result} (asks : dialogue.Asks Http.Sendable) :
    (host.converse connection dialogue).1 = (dialogue.run Engine.perform (host.engine id)).1 ∧
      Attached connection id (host.converse connection dialogue).2 ∧
      (host.converse connection dialogue).2.engine id =
        (dialogue.run Engine.perform (host.engine id)).2 := by
  refine asks.run_alike
    (fun host engine => Attached connection id host ∧ host.engine id = engine) ?_ ⟨attached, rfl⟩
  rintro call host _ sendable ⟨attached, rfl⟩
  exact attached.perform sendable

end Host

end RecordGraph
