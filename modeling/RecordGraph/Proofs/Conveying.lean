import RecordGraph.Proofs.Http.Address
import RecordGraph.Proofs.Reaching
import RecordGraph.Proofs.Record.Change
import RecordGraph.Proofs.Remote

namespace RecordGraph

/-! Connections by any address. What is written over a connection gets to the engine that it leads
to. What is read may not be what has been meant, but it changes nothing, and a record that is found
is the one that is looked for. -/

namespace Host

variable {host : Host} {connection : Connection} {link : LinkId} {service : ServiceId}
  {id : EngineId} {call : Call}

/-! ## Lookups -/

theorem Tied.linked (tied : Tied link service id host)
    (grounded : Http.Grounded (host.link link).base) : Linked link service id host := by
  rcases tied.front with ⟨table, found, -⟩
  exact ⟨grounded, tied.leads, table, found⟩

theorem Tied.perform_reads (tied : Tied link service id host)
    (grounded : Http.Grounded (host.link link).base) (reads : call.reads = true) :
    ∃ table : Http.Service, host.perform (.remote link) call =
      ((table.answer (.ofCall (host.link link).base call) (host.engine id)).1.toAnswer call,
        host) :=
  (tied.linked grounded).told_reads tied.there tied.isOpen reads

/-- A lookup fails, or comes to what it comes to on the engine, if there is no other index. The name
of the index need not arrive as it is sent. -/
private theorem Tied.perform_lookup (tied : Tied link service id host)
    (grounded : Http.Grounded (host.link link).base) {index : String}
    (only : ∀ other, (host.engine id).graph.hasIndex other = true → other = index)
    (key value : String) :
    (∃ failure, host.perform (.remote link) (.indexGet index key value) = (.error failure, host)) ∨
      host.perform (.remote link) (.indexGet index key value) =
        (((host.engine id).perform (.indexGet index key value)).1, host) := by
  rw [(tied.linked grounded).perform_indexGet tied.there tied.isOpen, RemoteLink.readUnder]
  cases Url.arriving? index with
  | none => exact .inl ⟨_, rfl⟩
  | some name =>
      by_cases own : name = index
      · rw [own]
        exact .inr rfl
      · have missing : (host.engine id).graph.indexes[name]? = none := by
          have absent := mt (only name) own
          rw [Graph.hasIndex_eq, Bool.not_eq_true, Option.isSome_eq_false_iff,
            Option.isNone_iff_eq_none] at absent
          exact absent
        left
        dsimp only
        rw [Engine.perform, Engine.readIndex, missing]
        split
        · exact ⟨_, rfl⟩
        · exact ⟨_, rfl⟩

/-! ## Dialogues -/

def Conveys (connection : Connection) (id : EngineId) (host : Host) : Prop :=
  match connection with
  | .embedded own => own = id ∧ id < host.engines.length
  | .remote link => Http.Grounded (host.link link).base ∧ ∃ service, Tied link service id host

theorem Conveys.there (conveys : Conveys connection id host) : id < host.engines.length := by
  cases connection with
  | embedded own => exact conveys.2
  | remote link =>
      rcases conveys with ⟨-, service, tied⟩
      exact tied.there

theorem Conveys.converse_reads (conveys : Conveys connection id host) {Result : Type}
    {dialogue : Dialogue Result} (asks : dialogue.Asks (·.reads = true)) :
    (host.converse connection dialogue).2 = host := by
  refine asks.run_keeps (· = host) ?_ rfl
  rintro call _ reads rfl
  cases connection with
  | embedded own =>
      rcases conveys with ⟨rfl, there⟩
      rw [perform]
      dsimp only
      rw [Engine.perform_reads reads, setEngine_engine there]
  | remote link =>
      rcases conveys with ⟨grounded, service, tied⟩
      rcases tied.perform_reads grounded reads with ⟨table, performed⟩
      rw [performed]

theorem Conveys.lookup_cases (conveys : Conveys connection id host) {keys : KeyIndex}
    (only : ∀ other, (host.engine id).graph.hasIndex other = true → other = keys.index)
    (key : String) :
    (∃ failure, host.converse connection (keys.lookup key) = (.error failure, host)) ∨
      (host.engine id).graph.hasIndex keys.index = true ∧
        host.converse connection (keys.lookup key) =
          (.ok ((host.engine id).graph.nodesUnder keys key).toList.head?, host) := by
  have cases_ := (host.engine id).run_lookup_cases key keys
  cases connection with
  | embedded own =>
      rcases conveys with ⟨rfl, there⟩
      rw [converse_embedded there]
      rcases cases_ with ⟨failure, failed⟩ | ⟨known, found⟩
      · rw [failed, setEngine_engine there]
        exact .inl ⟨failure, rfl⟩
      · rw [found, setEngine_engine there]
        exact .inr ⟨known, rfl⟩
  | remote link =>
      rcases conveys with ⟨grounded, service, tied⟩
      rcases tied.perform_lookup grounded only keys.keyField key with ⟨failure, failed⟩ | same
      · exact .inl ⟨failure, Dialogue.run_bind_error failed⟩
      · have conversed : host.converse (.remote link) (keys.lookup key) =
            (((keys.lookup key).run Engine.perform (host.engine id)).1, host) := by
          rw [converse, KeyIndex.lookup, Dialogue.run_bind, Dialogue.run_bind, Dialogue.run_ask,
            Dialogue.run_ask, same]
          rcases (host.engine id).perform (.indexGet keys.index keys.keyField key) with
            ⟨failure | nodes, after⟩
          · rfl
          · rfl
        rw [conversed]
        rcases cases_ with ⟨failure, failed⟩ | ⟨known, found⟩
        · rw [failed]
          exact .inl ⟨failure, rfl⟩
        · rw [found]
          exact .inr ⟨known, rfl⟩

theorem converse_closed (closed : (host.link link).isClosed = true)
    (begins : call.finishes = false) {Result : Type} (next : call.Answer → Dialogue Result) :
    host.converse (.remote link) (Dialogue.ask call >>= next) = (.error .closed, host) := by
  have failed : (Dialogue.ask call).run (fun call host => host.perform (.remote link) call) host =
      (.error .closed, host) := by
    rw [Dialogue.run_ask, perform, RemoteLink.perform, closed, begins]
    rfl
  exact Dialogue.run_bind_error failed

/-! ## Connecting -/

/-- Connecting fails without a trace, or there is a new link by which a service is reached. -/
theorem connect_cases (fronts : ∀ front ∈ host.fronts, front.engine < host.engines.length)
    (url : String) :
    (∃ failure, host.connect url = (.error failure, host)) ∨
      ∃ base, RemoteLink.baseOf url = .ok base ∧
        (∃ service < host.fronts.length, host.network = .loopback base.origin service) ∧
        host.connect url =
          (.ok host.links.length, { host with links := host.links ++ [{ base }] }) := by
  rw [connect, RemoteLink.connect]
  cases based : RemoteLink.baseOf url with
  | error failure => exact .inl ⟨failure, rfl⟩
  | ok base =>
      dsimp only
      rw [RemoteLink.send, carrier]
      cases network : host.network.reachable with
      | none => exact .inl ⟨_, rfl⟩
      | some reachable =>
          rcases reachable with ⟨origin, service⟩
          dsimp only
          by_cases own : base.origin = origin
          · rw [if_pos own]
            cases found : host.fronts[service]? with
            | none =>
                left
                rw [respond, found]
                exact ⟨_, rfl⟩
            | some front =>
                have inside := (List.getElem?_eq_some_iff.1 found).1
                have get : (Http.Request.forRoot base).method = "GET" := rfl
                have responded := respond_reads found (fronts front (List.mem_of_getElem? found))
                  fun call => Http.reads_of_demand_get get
                rw [responded]
                dsimp only
                cases (front.service.respond (.forRoot base)
                    (host.engine front.engine)).1.value Wire.serviceRoot with
                | error failure => exact .inl ⟨failure, rfl⟩
                | ok root =>
                    refine .inr ⟨base, rfl, ⟨service, inside, ?_⟩, rfl⟩
                    rw [own, Network.loopback, ← network]
          · rw [if_neg own]
            exact .inl ⟨_, rfl⟩

/-- By an open link with the address of another root no index is created. -/
theorem createIndex_elsewhere (isOpen : (host.link link).isClosed = false)
    (leads : host.network = .loopback (host.link link).base.origin service)
    {table : Http.Service} (found : host.fronts[service]? = some ⟨id, table⟩)
    (there : id < host.engines.length) {index : String}
    (elsewhere : (Http.Request.ofCall (host.link link).base (.createIndex index)).demand =
      .error 404) :
    host.perform (.remote link) (.createIndex index) =
      (.error (.remote 404 "404 Not Found"), host) := by
  have responded := respond_reads found there fun call demand =>
    by cases elsewhere.symm.trans demand
  have answer : (table.respond (.ofCall (host.link link).base (.createIndex index))
      (host.engine id)).1 = .bare 404 := by
    rw [Http.Service.respond, Http.Service.answer, elsewhere]
    exact congrArg Prod.fst (if_neg (Http.method_ofCall _ (.createIndex index)))
  have told : (Http.Response.bare 404).done = .error (.remote 404 "404 Not Found") := rfl
  rw [perform, RemoteLink.perform, isOpen, Bool.false_and, if_neg Bool.false_ne_true,
    RemoteLink.send, carrier, leads]
  simp only [Network.loopback, if_true, responded, answer]
  exact congrArg (·, host) told

theorem provision_elsewhere (isOpen : (host.link link).isClosed = false)
    (leads : host.network = .loopback (host.link link).base.origin service)
    {table : Http.Service} (found : host.fronts[service]? = some ⟨id, table⟩)
    (there : id < host.engines.length) {index : String}
    (elsewhere : (Http.Request.ofCall (host.link link).base (.createIndex index)).demand =
      .error 404) :
    ∃ failure, host.converse (.remote link) (provisionIndex index) = (.error failure, host) := by
  refine ⟨.remote 404 "404 Not Found", ?_⟩
  rw [converse, provisionIndex, Dialogue.run_bind, Dialogue.run_attempt, Dialogue.run_ask,
    createIndex_elsewhere isOpen leads found there elsewhere]
  rfl

end Host

end RecordGraph
