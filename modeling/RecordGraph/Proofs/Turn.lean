import RecordGraph.Host
import RecordGraph.Proofs.Engine.Ledger
import RecordGraph.Proofs.Host
import RecordGraph.Proofs.Http.Service

namespace RecordGraph

/-! What is done on a host, one thing after another: engines are opened, called at hand and through
services, and shut down. For each engine every turn is one event, or none. -/

inductive Turn where
  /-- An engine without a location is made. -/
  | create
  | openAt (directory : String)
  | call (id : EngineId) (call : Call)
  /-- Somebody sends a request to a service. -/
  | request (service : ServiceId) (request : Http.Request)
  /-- An open transaction is forgotten without being rolled back. -/
  | drop (id : EngineId) (transaction : TransactionId)
  | shutDown (id : EngineId)

namespace Host

def turn : Turn → Host → Host
  | .create, host => (host.addEngine .inMemory).2
  | .openAt directory, host => (host.openEngine directory).2
  | .call id call, host => (host.perform (.embedded id) call).2
  | .request service request, host => (host.respond service request).2
  | .drop id transaction, host => host.abandon (.embedded id) transaction
  | .shutDown id, host => (host.shutdownEngine id).2

def turns : List Turn → Host → Host
  | [], host => host
  | turn :: later, host => turns later (host.turn turn)

def passed (service : ServiceId) (request : Http.Request) (host : Host) :
    Option (EngineId × Call) :=
  match host.fronts[service]? with
  | none => none
  | some front => (front.service.passed request).map fun call => (front.engine, call)

variable {host : Host}

theorem front_of_passed {service : ServiceId} {sent : Http.Request} {id : EngineId} {call : Call}
    (through : host.passed service sent = some (id, call)) :
    ∃ front : Front, host.fronts[service]? = some front ∧ front.engine = id ∧
      front.service.passed sent = some call := by
  rw [passed] at through
  cases found : host.fronts[service]? with
  | none =>
      rw [found] at through
      cases through
  | some front =>
      rw [found] at through
      rcases Option.map_eq_some_iff.1 through with ⟨made, passed, ⟨⟩⟩
      exact ⟨front, rfl, rfl, passed⟩

theorem set_engine (host : Host) (id : EngineId) :
    host.engines.set id (host.engine id) = host.engines := by
  rw [engine]
  cases found : host.engines[id]? with
  | none => exact List.set_eq_of_length_le (List.getElem?_eq_none_iff.1 found)
  | some engine =>
      rcases List.getElem?_eq_some_iff.1 found with ⟨inside, same⟩
      rw [Option.getD_some, ← same, List.set_getElem_self]

theorem engines_respond (service : ServiceId) (request : Http.Request) (host : Host) :
    (host.respond service request).2.engines = match host.passed service request with
      | none => host.engines
      | some (id, call) => host.engines.set id ((host.engine id).perform call).2 := by
  rw [respond, passed]
  cases host.fronts[service]? with
  | none => rfl
  | some front =>
      have engine := front.service.engine_respond request (host.engine front.engine)
      dsimp only
      rw [setEngine, engine]
      cases front.service.passed request with
      | none => exact set_engine host front.engine
      | some call => rfl

theorem disk_respond (service : ServiceId) (request : Http.Request) (host : Host) :
    (host.respond service request).2.disk = host.disk := by
  rw [respond]
  cases host.fronts[service]? with
  | none => rfl
  | some front =>
      dsimp only
      rcases front.service.respond request (host.engine front.engine) with ⟨_, _, _⟩
      rfl

end Host

/-! ## Turns as events -/

def Turn.event? (id : EngineId) (host : Host) : Turn → Option Event
  | create => none
  | openAt _ => none
  | call own made => if own = id then some (.call made) else none
  | request service asked =>
      match host.passed service asked with
      | none => none
      | some (own, made) => if own = id then some (.call made) else none
  | drop own transaction => if own = id then some (.drop transaction) else none
  | shutDown own => if own = id then some (.shutdown host.disk) else none

/-- All that can be done to an engine in a turn, and the turns in which it is done. -/
theorem Turn.event?_cases {turn : Turn} {id : EngineId} {host : Host} {event : Event}
    (happens : turn.event? id host = some event) :
    (∃ call, event = .call call ∧ (turn = .call id call ∨
      ∃ service asked, turn = .request service asked ∧ host.passed service asked = some (id, call))) ∨
    (∃ transaction, event = .drop transaction ∧ turn = .drop id transaction) ∨
    event = .shutdown host.disk ∧ turn = .shutDown id := by
  have inverted {own : EngineId} {done : Event}
      (same : (if own = id then some done else none) = some event) : own = id ∧ done = event := by
    split at same
    · exact ⟨‹_›, Option.some.inj same⟩
    · cases same
  cases turn with
  | create => cases happens
  | openAt directory => cases happens
  | call own made =>
      obtain ⟨rfl, rfl⟩ := inverted happens
      exact .inl ⟨made, rfl, .inl rfl⟩
  | request service asked =>
      rw [Turn.event?] at happens
      cases through : host.passed service asked with
      | none =>
          rw [through] at happens
          cases happens
      | some found =>
          rw [through] at happens
          obtain ⟨rfl, rfl⟩ := inverted happens
          exact .inl ⟨found.2, rfl, .inr ⟨service, asked, rfl, through⟩⟩
  | drop own transaction =>
      obtain ⟨rfl, rfl⟩ := inverted happens
      exact .inr (.inl ⟨transaction, rfl, rfl⟩)
  | shutDown own =>
      obtain ⟨rfl, rfl⟩ := inverted happens
      exact .inr (.inr ⟨rfl, rfl⟩)

namespace Host

variable {host : Host} {id : EngineId}

private theorem engine_set (there : id < host.engines.length) (own : EngineId) (changed : Engine) :
    ((host.engines.set own changed)[id]?).getD { isClosed := true } =
      if own = id then changed else host.engine id := by
  rw [List.getElem?_set]
  split
  · rename_i same
    rw [if_pos (same ▸ there), Option.getD_some]
  · rfl

private theorem engine_append (there : id < host.engines.length) (added : Engine) :
    ((host.engines ++ [added])[id]?).getD { isClosed := true } = host.engine id := by
  rw [List.getElem?_append_left there]
  rfl

theorem engine_turn (there : id < host.engines.length) (turn : Turn) :
    (host.turn turn).engine id = match turn.event? id host with
      | none => host.engine id
      | some event => event.change (host.engine id) := by
  cases turn with
  | create => exact engine_append there _
  | openAt directory =>
      rw [Host.turn, openEngine, Turn.event?]
      rcases Engine.openAt directory host.disk with ⟨failure | opened, disk⟩
      · rfl
      · dsimp only [addEngine]
        rw [engine]
        exact engine_append there opened
  | call own made =>
      refine (engine_set there own _).trans ?_
      rw [Turn.event?]
      split
      · rename_i same
        rw [same]
        rfl
      · rfl
  | request service asked =>
      have engines := host.engines_respond service asked
      rw [Host.turn, engine, engines, Turn.event?]
      cases host.passed service asked with
      | none => rfl
      | some found =>
          rcases found with ⟨own, made⟩
          refine (engine_set there own _).trans ?_
          dsimp only
          split
          · rename_i same
            rw [same]
            rfl
          · rfl
  | drop own transaction =>
      refine (engine_set there own _).trans ?_
      rw [Turn.event?]
      split
      · rename_i same
        rw [same]
        rfl
      · rfl
  | shutDown own =>
      refine (engine_set there own _).trans ?_
      rw [Turn.event?]
      split
      · rename_i same
        rw [same]
        rfl
      · rfl

/-! ## What turns leave alone -/

theorem length_turn (host : Host) (turn : Turn) :
    host.engines.length ≤ (host.turn turn).engines.length := by
  cases turn with
  | create => simp [Host.turn, addEngine]
  | openAt directory =>
      rw [Host.turn, openEngine]
      rcases Engine.openAt directory host.disk with ⟨failure | engine, disk⟩
      · exact Nat.le_refl _
      · simp [addEngine]
  | call own made => simp [Host.turn, perform, setEngine]
  | request service asked =>
      rw [Host.turn, engines_respond]
      split
      · exact Nat.le_refl _
      · simp
  | drop own transaction => simp [Host.turn, abandon, setEngine]
  | shutDown own => simp [Host.turn, shutdownEngine, setEngine]

theorem link_turn (host : Host) (turn : Turn) (link : LinkId) :
    (host.turn turn).link link = host.link link ∧ (host.turn turn).network = host.network := by
  cases turn with
  | openAt directory =>
      rw [Host.turn, openEngine]
      rcases Engine.openAt directory host.disk with ⟨failure | engine, disk⟩
      · exact ⟨rfl, rfl⟩
      · exact ⟨rfl, rfl⟩
  | request service asked =>
      rw [Host.turn, respond]
      cases host.fronts[service]? with
      | none => exact ⟨rfl, rfl⟩
      | some front =>
          dsimp only
          rcases front.service.respond asked (host.engine front.engine) with ⟨_, _, _⟩
          exact ⟨rfl, rfl⟩
  | _ => exact ⟨rfl, rfl⟩

theorem links_turn (host : Host) (turn : Turn) : (host.turn turn).links = host.links := by
  cases turn with
  | openAt directory =>
      rw [Host.turn, openEngine]
      rcases Engine.openAt directory host.disk with ⟨failure | engine, disk⟩
      · rfl
      · rfl
  | request service sent =>
      rw [Host.turn, respond]
      cases host.fronts[service]? with
      | none => rfl
      | some front => rfl
  | _ => rfl

theorem fronts_turn_still {turn : Turn} {service : ServiceId}
    (elsewhere : ∀ sent, turn ≠ .request service sent) :
    (host.turn turn).fronts[service]? = host.fronts[service]? := by
  cases turn with
  | openAt directory =>
      rw [Host.turn, openEngine]
      rcases Engine.openAt directory host.disk with ⟨failure | engine, disk⟩
      · rfl
      · rfl
  | request asked sent =>
      have other : asked ≠ service := fun same => elsewhere sent (same ▸ rfl)
      rw [Host.turn, respond]
      split
      · rfl
      · dsimp only [setEngine]
        rw [List.getElem?_set_ne other]
  | _ => rfl

theorem fronts_turn_request (host : Host) (service : ServiceId) (sent : Http.Request) :
    (host.turn (.request service sent)).fronts[service]? =
      host.fronts[service]?.map fun front =>
        { front with service := (front.service.respond sent (host.engine front.engine)).2.1 } := by
  rw [Host.turn, respond]
  cases found : host.fronts[service]? with
  | none => exact found
  | some front =>
      dsimp only [setEngine]
      rw [List.getElem?_set_self (List.getElem?_eq_some_iff.1 found).1, Option.map_some]

/-- A service stays in front of its engine. A transaction of its table stays there as long as
nothing finishes it. -/
theorem front_turn (turn : Turn) {service : ServiceId} {table : Http.Service}
    (found : host.fronts[service]? = some ⟨id, table⟩) :
    ∃ later : Http.Service, (host.turn turn).fronts[service]? = some ⟨id, later⟩ ∧
      ∀ transaction ∈ table.transactions,
        (∀ call, turn.event? id host = some (.call call) → call.finishes = true →
          call.transaction? ≠ some transaction) → transaction ∈ later.transactions := by
  by_cases asks : ∃ sent, turn = .request service sent
  · rcases asks with ⟨sent, rfl⟩
    refine ⟨(table.respond sent (host.engine id)).2.1, ?_, fun transaction member kept => ?_⟩
    · rw [fronts_turn_request, found]
      rfl
    · refine Http.Service.mem_respond member fun call through => kept call ?_
      rw [Turn.event?, passed, found]
      simp [Option.mem_def.1 through]
  · refine ⟨table, ?_, fun _ member _ => member⟩
    rw [fronts_turn_still (not_exists.1 asks), found]

/-! ## Calls over a link -/

/-- A call over a link is a request to the service that can be reached, or leaves the host as it
is. -/
theorem perform_turn (host : Host) (link : LinkId) (call : Call) :
    (host.perform (.remote link) call).2 = host ∨ ∃ origin service,
      host.network.reachable = some (origin, service) ∧
        (host.perform (.remote link) call).2 =
          host.turn (.request service (.ofCall (host.link link).base call)) := by
  rw [perform, RemoteLink.perform]
  split
  · exact .inl rfl
  rw [RemoteLink.send, carrier]
  cases host.network.reachable with
  | none => exact .inl rfl
  | some reachable =>
      rcases reachable with ⟨origin, service⟩
      dsimp only
      by_cases own : (host.link link).base.origin = origin
      · rw [if_pos own]
        exact .inr ⟨origin, service, rfl, rfl⟩
      · rw [if_neg own]
        exact .inl rfl

end Host

end RecordGraph
