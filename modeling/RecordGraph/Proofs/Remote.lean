import RecordGraph.Host
import RecordGraph.Proofs.Host
import RecordGraph.Proofs.Http.Demand
import RecordGraph.Proofs.Http.Response
import RecordGraph.Proofs.Http.Service

namespace RecordGraph

/-! An engine behind a service is as good as one at hand: whatever is done through an open link to
the service comes to what it would come to on the engine itself. -/

/-! ## Single requests -/

namespace Http

variable {base : Url} {service : Service} {engine : Engine} {call : Call}

/-- The service answers the request of a call with what the engine makes of the call, if the call is
what the request demands. -/
theorem Service.Knows.respond (knows : service.Knows engine)
    (demand : (Request.ofCall base call).demand = .ok (.call call)) :
    ∃ later : Service, later.Knows (engine.perform call).2 ∧
      service.respond (.ofCall base call) engine =
        (.ofOutcome call (engine.perform call).1, later, (engine.perform call).2) := by
  rcases knows.perform call with ⟨later, keeps, performed⟩
  have answered : service.answer (.ofCall base call) engine =
      (.ofOutcome call (engine.perform call).1, later, (engine.perform call).2) := by
    rw [Service.answer, demand]
    simp only [performed]
  refine ⟨later, keeps, ?_⟩
  rw [Service.respond, answered]
  exact if_neg (method_ofCall base call)

end Http

namespace Host

/-- A link that leads to the service in front of an engine, of which nobody else has begun
transactions. -/
structure Served (link : LinkId) (service : ServiceId) (id : EngineId) (host : Host) : Prop where
  there : id < host.engines.length
  rooted : Http.Rooted (host.link link).base
  isOpen : (host.link link).isClosed = false
  leads : host.network = .loopback (host.link link).base.origin service
  front : ∃ table : Http.Service, host.fronts[service]? = some ⟨id, table⟩ ∧
    table.Knows (host.engine id)

/-- A link that leads to the service in front of an engine, of which nobody else has begun
transactions. By the address of the link, the service may take a call for another. -/
structure Tied (link : LinkId) (service : ServiceId) (id : EngineId) (host : Host) : Prop where
  there : id < host.engines.length
  isOpen : (host.link link).isClosed = false
  leads : host.network = .loopback (host.link link).base.origin service
  front : ∃ table : Http.Service, host.fronts[service]? = some ⟨id, table⟩ ∧
    table.Knows (host.engine id)

variable {host : Host} {link : LinkId} {service : ServiceId} {id : EngineId} {call : Call}

theorem Served.tied (served : Served link service id host) : Tied link service id host :=
  ⟨served.there, served.isOpen, served.leads, served.front⟩

theorem Tied.served (tied : Tied link service id host) (rooted : Http.Rooted (host.link link).base) :
    Served link service id host :=
  ⟨tied.there, rooted, tied.isOpen, tied.leads, tied.front⟩

def answered (service : ServiceId) (table : Http.Service) (id : EngineId) (engine : Engine)
    (host : Host) : Host :=
  { host with
    fronts := host.fronts.set service ⟨id, table⟩
    engines := host.engines.set id engine }

theorem Tied.answered (tied : Tied link service id host) {table : Http.Service} {engine : Engine}
    (knows : table.Knows engine) :
    Tied link service id (host.answered service table id engine) ∧
      (host.answered service table id engine).engine id = engine := by
  rcases tied.front with ⟨before, found, -⟩
  have inside : service < host.fronts.length := (List.getElem?_eq_some_iff.1 found).1
  have after : (host.answered service table id engine).engine id = engine :=
    engine_setEngine tied.there engine
  refine ⟨⟨?_, tied.isOpen, tied.leads, table, ?_, ?_⟩, after⟩
  · simpa [Host.answered] using tied.there
  · simp [Host.answered, inside]
  · rw [after]
    exact knows

def Arrives (link : LinkId) (host : Host) (call : Call) : Prop :=
  (Http.Request.ofCall (host.link link).base call).demand = .ok (.call call)

theorem Tied.perform (tied : Tied link service id host) (arrives : host.Arrives link call) :
    ∃ table : Http.Service, table.Knows ((host.engine id).perform call).2 ∧
      host.perform (.remote link) call = (((host.engine id).perform call).1,
        host.answered service table id ((host.engine id).perform call).2) := by
  rcases tied.front with ⟨table, found, knows⟩
  rcases knows.respond arrives with ⟨next, keeps, responded⟩
  have carried : carrier (host.link link).base (.ofCall (host.link link).base call) host =
      (.ok (.ofOutcome call ((host.engine id).perform call).1),
        host.answered service next id ((host.engine id).perform call).2) := by
    rw [carrier, tied.leads]
    simp only [Network.loopback, if_true, respond, found, responded]
    rfl
  have told := Http.toAnswer_ofOutcome ((host.engine id).tells_perform call)
  refine ⟨next, keeps, ?_⟩
  rw [Host.perform, RemoteLink.perform, tied.isOpen, Bool.false_and, if_neg Bool.false_ne_true,
    RemoteLink.send, carried]
  simp only [told]

/-- A dialogue over a link concerns the engine behind the service, and the table of the service. -/
theorem Tied.converse (tied : Tied link service id host) {Result : Type}
    {dialogue : Dialogue Result} (asks : dialogue.Asks (host.Arrives link)) :
    ∃ table : Http.Service, table.Knows (dialogue.run Engine.perform (host.engine id)).2 ∧
      host.converse (.remote link) dialogue = ((dialogue.run Engine.perform (host.engine id)).1,
        host.answered service table id (dialogue.run Engine.perform (host.engine id)).2) := by
  rcases tied.front with ⟨table, found, knows⟩
  have same : host = host.answered service table id (host.engine id) := by
    rcases List.getElem?_eq_some_iff.1 found with ⟨inside, at_⟩
    rw [Host.answered, ← at_, List.set_getElem_self]
    exact (setEngine_engine tied.there).symm
  have step (call : Call) (state : Host) (engine : Engine) (arrives : host.Arrives link call)
      (alike : ∃ table : Http.Service, table.Knows engine ∧
        state = host.answered service table id engine) :
      (state.perform (.remote link) call).1 = (engine.perform call).1 ∧
        ∃ table : Http.Service, table.Knows (engine.perform call).2 ∧
          (state.perform (.remote link) call).2 =
            host.answered service table id (engine.perform call).2 := by
    rcases alike with ⟨table, knows, rfl⟩
    rcases tied.answered knows with ⟨after, own⟩
    rcases after.perform arrives with ⟨next, keeps, performed⟩
    rw [own] at keeps performed
    rw [performed]
    refine ⟨rfl, next, keeps, ?_⟩
    simp only [Host.answered, List.set_set]
  have alike : ∃ table : Http.Service, table.Knows (host.engine id) ∧
      host = host.answered service table id (host.engine id) := ⟨table, knows, same⟩
  rcases asks.run_alike _ step alike with ⟨outcome, next, keeps, after⟩
  exact ⟨next, keeps, Prod.ext outcome after⟩

theorem Served.perform (served : Served link service id host) (sendable : Http.Sendable call) :
    ∃ later : Host, host.perform (.remote link) call = (((host.engine id).perform call).1, later) ∧
      Served link service id later ∧ later.engine id = ((host.engine id).perform call).2 ∧
      later.disk = host.disk := by
  rcases served.tied.perform (Http.demand_ofCall served.rooted sendable) with
    ⟨table, knows, performed⟩
  rcases served.tied.answered knows with ⟨after, engine⟩
  exact ⟨_, performed, after.served served.rooted, engine, rfl⟩

theorem Served.setEngine (served : Served link service id host) {engine : Engine}
    (same : engine.transactions = (host.engine id).transactions) (disk : Disk) :
    Served link service id ({ host with disk }.setEngine id engine) := by
  rcases served.front with ⟨table, found, knows⟩
  have after : ({ host with disk }.setEngine id engine).engine id = engine :=
    engine_setEngine served.there engine
  refine ⟨?_, served.rooted, served.isOpen, served.leads, table, found, ?_⟩
  · rw [length_setEngine]
    exact served.there
  · intro other
    rw [after, same]
    exact knows other

end Host

/-! ## Runs -/

inductive Act where
  | call (call : Call)
  /-- A transaction is given up without being finished. -/
  | abandon (transaction : TransactionId)
  /-- The engine itself is shut down. -/
  | shutdown

@[reducible] def Act.Outcome : Act → Type
  | .call asked => Except Failure asked.Answer
  | .abandon _ => Unit
  | .shutdown => Except Failure Unit

def Act.Sendable : Act → Prop
  | .call asked => Http.Sendable asked
  | _ => True

instance : (act : Act) → Decidable act.Sendable
  | .call asked => inferInstanceAs (Decidable (Http.Sendable asked))
  | .abandon _ => isTrue trivial
  | .shutdown => isTrue trivial

structure Done where
  act : Act
  outcome : act.Outcome
  graph : Graph

namespace Host

def act (connection : Connection) (id : EngineId) :
    (act : Act) → Host → act.Outcome × Host
  | .call call, host => host.perform connection call
  | .abandon transaction, host => ((), host.abandon connection transaction)
  | .shutdown, host => host.shutdownEngine id

def run (connection : Connection) (id : EngineId) : List Act → Host → List Done × Host
  | [], host => ([], host)
  | act :: acts, host =>
      let done := host.act connection id act
      let rest := run connection id acts done.2
      (⟨act, done.1, (done.2.engine id).graph⟩ :: rest.1, rest.2)

structure Mirrors (link : LinkId) (service : ServiceId) (id : EngineId) (own : EngineId)
    (remote direct : Host) : Prop where
  served : Served link service id remote
  there : own < direct.engines.length
  engine : remote.engine id = direct.engine own
  disk : remote.disk = direct.disk

variable {remote direct : Host} {link : LinkId} {service : ServiceId} {id own : EngineId}

theorem Mirrors.call (mirrors : Mirrors link service id own remote direct) {call : Call}
    (sendable : Http.Sendable call) :
    ∃ later : Host, remote.perform (.remote link) call =
        ((direct.perform (.embedded own) call).1, later) ∧
      Mirrors link service id own later (direct.perform (.embedded own) call).2 := by
  rcases mirrors.served.perform sendable with ⟨later, performed, served, engine, disk⟩
  rw [mirrors.engine] at performed engine
  refine ⟨later, performed, served, ?_, ?_, ?_⟩
  · rw [perform, length_setEngine]
    exact mirrors.there
  · rw [perform, engine_setEngine mirrors.there]
    exact engine
  · rw [disk, mirrors.disk]
    rfl

/-- An open transaction that is given up is rolled back by its engine. -/
theorem Mirrors.abandon (mirrors : Mirrors link service id own remote direct)
    (transaction : TransactionId) :
    Mirrors link service id own (remote.abandon (.remote link) transaction)
      (direct.abandon (.embedded own) transaction) := by
  have sendable : Http.Sendable (.rollback transaction) := fun index named => by cases named
  rcases mirrors.call sendable with ⟨later, performed, rolled⟩
  have forgets : (direct.perform (.embedded own) (.rollback transaction)).2 =
      direct.abandon (.embedded own) transaction := by
    rw [perform, Host.abandon]
    exact congrArg (direct.setEngine own) (Engine.forget_rollback _ transaction)
  have asks : remote.abandon (.remote link) transaction =
      (remote.perform (.remote link) (.rollback transaction)).2 := rfl
  rw [asks, performed, ← forgets]
  exact rolled

theorem Mirrors.shutdown (mirrors : Mirrors link service id own remote direct) :
    (remote.shutdownEngine id).1 = (direct.shutdownEngine own).1 ∧
      Mirrors link service id own (remote.shutdownEngine id).2 (direct.shutdownEngine own).2 := by
  have transactions : ((direct.engine own).shutdown direct.disk).2.1.transactions =
      (direct.engine own).transactions := by
    rw [Engine.shutdown]
    split
    all_goals rfl
  rw [shutdownEngine, shutdownEngine, mirrors.engine, mirrors.disk]
  dsimp only
  refine ⟨rfl, ?_, ?_, ?_, rfl⟩
  · apply mirrors.served.setEngine
    rw [transactions, mirrors.engine]
  · rw [length_setEngine]
    exact mirrors.there
  · exact (engine_setEngine mirrors.served.there _).trans
      (engine_setEngine mirrors.there _).symm

theorem Mirrors.act (mirrors : Mirrors link service id own remote direct) {act : Act}
    (sendable : act.Sendable) :
    (remote.act (.remote link) id act).1 = (direct.act (.embedded own) own act).1 ∧
      Mirrors link service id own (remote.act (.remote link) id act).2
        (direct.act (.embedded own) own act).2 := by
  cases act with
  | call call =>
      rcases mirrors.call sendable with ⟨later, performed, mirrors⟩
      rw [Host.act, Host.act, performed]
      exact ⟨rfl, mirrors⟩
  | abandon transaction => exact ⟨rfl, mirrors.abandon transaction⟩
  | shutdown => exact mirrors.shutdown

/-- A link to a service comes about by connecting to its address. Of the engine behind the service
nobody notices anything. -/
theorem connect_mirrors (host : Host) {url : String} {base : Url}
    (based : RemoteLink.baseOf url = .ok base) (rooted : Http.Rooted base)
    (leads : host.network = .loopback base.origin service) (there : id < host.engines.length)
    {table : Http.Service} (found : host.fronts[service]? = some ⟨id, table⟩)
    (knows : table.Knows (host.engine id)) :
    ∃ remote : Host, host.connect url = (.ok host.links.length, remote) ∧
      Mirrors host.links.length service id id remote host := by
  have same : host.fronts.set service ⟨id, table⟩ = host.fronts := by
    rcases List.getElem?_eq_some_iff.1 found with ⟨inside, at_⟩
    rw [← at_, List.set_getElem_self]
  have responded : table.respond (.forRoot base) (host.engine id) =
      (⟨200, some (Wire.serviceRoot.write .current)⟩, table, host.engine id) := by
    have body : (Http.Request.forRoot base).method ≠ "HEAD" := by
      change "GET" ≠ "HEAD"
      decide
    rw [Http.Service.respond, Http.Service.answer, Http.demand_forRoot rooted]
    exact if_neg body
  have carried : carrier base (.forRoot base) host =
      (.ok ⟨200, some (Wire.serviceRoot.write .current)⟩, host) := by
    rw [carrier, leads]
    simp only [Network.loopback, if_true, respond, found, responded, same]
    rw [setEngine_engine there]
  have told := Http.value_written Wire.faithful_serviceRoot (by decide) .current
  refine ⟨{ host with links := host.links ++ [{ base }] }, ?_, ?_⟩
  · rw [connect, RemoteLink.connect, based]
    simp only [RemoteLink.send, carried, told]
    rfl
  · have last : ({ host with links := host.links ++ [{ base }] } : Host).link host.links.length =
        { base } := by
      simp [Host.link]
    refine ⟨⟨there, ?_, ?_, ?_, table, found, knows⟩, there, rfl, rfl⟩
    · rw [last]
      exact rooted
    · rw [last]
    · rw [last]
      exact leads

/-- Whatever is done to an engine, in whatever order, comes to the same through a link as at hand,
and leaves the same graph committed after each act. It is assumed that the service sets no bound on
the bodies of requests; by `Http.demand_bounded` a bound that no body exceeds does not matter. -/
theorem run_remote (mirrors : Mirrors link service id own remote direct) (acts : List Act)
    (sendable : ∀ act ∈ acts, act.Sendable) :
    (remote.run (.remote link) id acts).1 = (direct.run (.embedded own) own acts).1 ∧
      Mirrors link service id own (remote.run (.remote link) id acts).2
        (direct.run (.embedded own) own acts).2 := by
  induction acts generalizing remote direct with
  | nil => exact ⟨rfl, mirrors⟩
  | cons act acts induction =>
      rcases mirrors.act (sendable act List.mem_cons_self) with ⟨same, later⟩
      rcases induction later fun other member =>
        sendable other (List.mem_cons_of_mem _ member) with ⟨rest, last⟩
      constructor
      · rw [run, run]
        dsimp only
        rw [same, rest, later.engine]
      · exact last

/-- Two transactions through a link: one is committed and the other given up, and in between the
engine is shut down. -/
theorem run_remote_connected :
    let direct : Host := {
      engines := [.inMemory]
      fronts := [{ engine := 0 }]
      network := .loopback "http://h" 0 }
    let acts : List Act := [
      .call .beginTransaction,
      .call .beginTransaction,
      .call (.createIndex "a/é?"),
      .call (.stage 1 .createNode),
      .call (.stage 1 (.indexAdd "a/é?" 1 "key" "value")),
      .call (.commit 1),
      .call (.indexGet "a/é?" "key" "value"),
      .call (.nodeProperty 2 "name & more"),
      .call (.stage 2 .createNode),
      .shutdown,
      .call (.stage 2 (.deleteNode 1)),
      .abandon 2,
      .call (.rollback 2)]
    ∃ remote : Host, direct.connect "http://h" = (.ok 0, remote) ∧
      (remote.run (.remote 0) 0 acts).1 = (direct.run (.embedded 0) 0 acts).1 := by
  intro direct acts
  have parsed : Url.parse? (Text.dropTrailing '/' "http://h" ++ RemoteLink.serviceRoot) =
      some ⟨"http", some "h", .parts Http.rootParts, none, none⟩ := by decide +kernel
  have based : RemoteLink.baseOf "http://h" =
      .ok ⟨"http", some "h", .parts Http.rootParts, none, none⟩ := by
    rw [RemoteLink.baseOf, parsed]
  have rooted : Http.Rooted ⟨"http", some "h", .parts Http.rootParts, none, none⟩ :=
    ⟨rfl, fun before given => by cases given⟩
  have knows : Http.Service.Knows {} (direct.engine 0) := fun id =>
    ⟨fun member => absurd member Std.ExtTreeSet.not_mem_empty,
      fun member => absurd member Std.ExtTreeMap.not_mem_empty⟩
  rcases connect_mirrors direct based rooted rfl (by decide) rfl knows with
    ⟨remote, connected, mirrors⟩
  exact ⟨remote, connected, (run_remote mirrors acts (by decide)).1⟩

end Host

end RecordGraph
