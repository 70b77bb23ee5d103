import RecordGraph.Proofs.Http.Reading
import RecordGraph.Proofs.Http.Response
import RecordGraph.Proofs.Turn

namespace RecordGraph

/-! Connections that reach an engine which others reach as well. A call over such a connection is
performed by the engine, or it is not and changes nothing. -/

/-- What comes of reading the index of a name over a link, if it is known what comes of reading
indexes. -/
def RemoteLink.readUnder (index : String) (read : String → Except Failure (List NodeId)) :
    Except Failure (List NodeId) :=
  match Url.arriving? index with
  | none => .error (.remote 404 "404 Not Found")
  | some name => read name

namespace Host

structure Linked (link : LinkId) (service : ServiceId) (id : EngineId) (host : Host) : Prop where
  grounded : Http.Grounded (host.link link).base
  leads : host.network = .loopback (host.link link).base.origin service
  front : ∃ table : Http.Service, host.fronts[service]? = some ⟨id, table⟩

def Reaches (connection : Connection) (id : EngineId) (host : Host) : Prop :=
  id < host.engines.length ∧ match connection with
    | .embedded own => own = id
    | .remote link => ∃ service, Linked link service id host

/-- The transaction can be finished over the connection. -/
def Admits (connection : Connection) (id : EngineId) (transaction : TransactionId) (host : Host) :
    Prop :=
  match connection with
  | .embedded _ => True
  | .remote link => ∃ service table, host.network = .loopback (host.link link).base.origin service ∧
      host.fronts[service]? = some ⟨id, table⟩ ∧ transaction ∈ table.transactions

variable {connection : Connection} {link : LinkId} {service : ServiceId} {id : EngineId} {host : Host}
  {transaction : TransactionId}

/-! ## Others -/

theorem Linked.turn (linked : Linked link service id host) (turn : Turn) :
    Linked link service id (host.turn turn) := by
  rcases host.link_turn turn link with ⟨same, network⟩
  rcases linked.front with ⟨table, found⟩
  rcases front_turn turn found with ⟨later, after, -⟩
  exact ⟨same ▸ linked.grounded, by rw [same, network, linked.leads], later, after⟩

theorem Reaches.turn (reaches : Reaches connection id host) (turn : Turn) :
    Reaches connection id (host.turn turn) := by
  rcases reaches with ⟨there, leads⟩
  refine ⟨Nat.lt_of_lt_of_le there (host.length_turn turn), ?_⟩
  cases connection with
  | embedded own => exact leads
  | remote link =>
      rcases leads with ⟨service, linked⟩
      exact ⟨service, linked.turn turn⟩

theorem Admits.turn (admits : Admits connection id transaction host) {turn : Turn}
    (kept : ∀ call, turn.event? id host = some (.call call) → call.finishes = true →
      call.transaction? ≠ some transaction) :
    Admits connection id transaction (host.turn turn) := by
  cases connection with
  | embedded own => trivial
  | remote link =>
      rcases admits with ⟨service, table, leads, found, member⟩
      rcases host.link_turn turn link with ⟨same, network⟩
      rcases front_turn turn found with ⟨later, after, stays⟩
      exact ⟨service, later, by rw [same, network, leads], after, stays transaction member kept⟩

/-! ## Calls over a link -/

variable {call : Call}

def asked (service : ServiceId) (link : LinkId) (call : Call) (host : Host) : Turn :=
  .request service (.ofCall (host.link link).base call)

theorem Linked.perform_sent (linked : Linked link service id host)
    (sends : ((host.link link).isClosed && !call.finishes) = false) :
    host.perform (.remote link) call =
      ((host.respond service (.ofCall (host.link link).base call)).1.toAnswer call,
        host.turn (host.asked service link call)) := by
  have carried : carrier (host.link link).base (.ofCall (host.link link).base call) host =
      (.ok (host.respond service (.ofCall (host.link link).base call)).1,
        (host.respond service (.ofCall (host.link link).base call)).2) := by
    rw [carrier, linked.leads]
    simp only [Network.loopback, if_true]
  have turned : host.turn (host.asked service link call) =
      (host.respond service (.ofCall (host.link link).base call)).2 := rfl
  rw [perform, RemoteLink.perform, sends, if_neg Bool.false_ne_true, RemoteLink.send, carried,
    turned]

/-- A link that is closed sends only what finishes a transaction. -/
theorem Linked.perform_cases (linked : Linked link service id host) (call : Call) :
    (call.finishes = false ∧ host.perform (.remote link) call = (.error .closed, host)) ∨
      host.perform (.remote link) call =
        ((host.respond service (.ofCall (host.link link).base call)).1.toAnswer call,
          host.turn (host.asked service link call)) := by
  cases shut : ((host.link link).isClosed && !call.finishes) with
  | true =>
      rw [perform, RemoteLink.perform, if_pos shut]
      exact .inl ⟨by simpa using (Bool.and_eq_true_iff.1 shut).2, rfl⟩
  | false => exact .inr (linked.perform_sent shut)

private theorem response_asked {table : Http.Service} (grounded : Http.Grounded (host.link link).base)
    (found : host.fronts[service]? = some ⟨id, table⟩) (writes : call.reads = false) :
    (host.respond service (.ofCall (host.link link).base call)).1 =
      .ofOutcome call (table.perform call (host.engine id)).1 := by
  have response :
      (table.respond (.ofCall (host.link link).base call) (host.engine id)).1 =
        .ofOutcome call (table.perform call (host.engine id)).1 :=
    Http.Service.response_respond (Http.demand_ofCall_writes grounded writes)
      (Http.method_ofCall _ call)
  rw [respond, found]
  dsimp only
  rcases answered : table.respond (.ofCall (host.link link).base call) (host.engine id) with
    ⟨answer, _, _⟩
  rw [answered] at response
  exact response

private theorem event_asked {table : Http.Service} (found : host.fronts[service]? = some ⟨id, table⟩)
    (call : Call) : (host.asked service link call).event? id host =
      (table.passed (.ofCall (host.link link).base call)).map .call := by
  rw [asked, Turn.event?, passed, found]
  dsimp only
  cases table.passed (.ofCall (host.link link).base call) with
  | none => rfl
  | some made => exact if_pos rfl

private theorem front_asked {table : Http.Service}
    (found : host.fronts[service]? = some ⟨id, table⟩) (call : Call) :
    (host.turn (host.asked service link call)).fronts[service]? = some ⟨id,
      (table.respond (.ofCall (host.link link).base call) (host.engine id)).2.1⟩ := by
  have inside : service < host.fronts.length := (List.getElem?_eq_some_iff.1 found).1
  rw [asked, Host.turn, respond, found]
  simp [setEngine, inside]

/-- What gets through is the call itself; of a call that reads it may be another that reads. -/
private theorem passed_asked {table : Http.Service} (grounded : Http.Grounded (host.link link).base)
    {made : Call} (through : made ∈ table.passed (.ofCall (host.link link).base call)) :
    (made = call ∧ call.reads = false) ∨ (made.reads = true ∧ call.reads = true) := by
  have demand := Http.Service.demand_of_passed through
  cases reads : call.reads with
  | true => exact .inr ⟨Http.reads_of_demand_ofCall grounded reads demand, rfl⟩
  | false =>
      rw [Http.demand_ofCall_writes grounded reads] at demand
      cases demand
      exact .inl ⟨rfl, rfl⟩

private theorem finishes_of_reads (reads : call.reads = true) : call.finishes = false := by
  cases call with
  | commit id => cases reads
  | rollback id => cases reads
  | _ => rfl

/-- A call over a link that is performed at all is performed by the engine. -/
private theorem Linked.perform_asked (linked : Linked link service id host)
    (there : id < host.engines.length) {table : Http.Service}
    (found : host.fronts[service]? = some ⟨id, table⟩) (writes : call.reads = false)
    (through : call.transaction?.all table.transactions.contains = true) :
    (host.respond service (.ofCall (host.link link).base call)).1.toAnswer call =
        ((host.engine id).perform call).1 ∧
      (host.turn (host.asked service link call)).engine id = ((host.engine id).perform call).2 := by
  constructor
  · rw [response_asked linked.grounded found writes, Http.Service.perform_through through]
    exact Http.toAnswer_ofOutcome ((host.engine id).tells_perform call)
  · rw [engine_turn there, event_asked found,
      Http.Service.passed_of_demand (Http.demand_ofCall_writes linked.grounded writes),
      if_pos through]
    rfl

theorem Linked.perform_writes (linked : Linked link service id host)
    (there : id < host.engines.length) (isOpen : (host.link link).isClosed = false)
    (writes : call.reads = false) (apart : call.transaction? = none) :
    (host.perform (.remote link) call).1 = ((host.engine id).perform call).1 ∧
      (host.perform (.remote link) call).2.engine id = ((host.engine id).perform call).2 := by
  rcases linked.front with ⟨table, found⟩
  have sends : ((host.link link).isClosed && !call.finishes) = false := by
    rw [isOpen, Bool.false_and]
  have through : call.transaction?.all table.transactions.contains = true := by
    rw [apart]
    rfl
  rw [linked.perform_sent sends]
  exact linked.perform_asked there found writes through

private theorem Linked.perform_refused (linked : Linked link service id host)
    (there : id < host.engines.length) {table : Http.Service}
    (found : host.fronts[service]? = some ⟨id, table⟩) (writes : call.reads = false)
    (refused : call.transaction?.all table.transactions.contains = false) :
    (∃ failure, (host.respond service (.ofCall (host.link link).base call)).1.toAnswer call =
        .error failure) ∧
      (host.turn (host.asked service link call)).engine id = host.engine id := by
  constructor
  · rcases Http.Service.perform_refused (host.engine id) refused with ⟨unknown, answer⟩
    rw [response_asked linked.grounded found writes, answer]
    exact ⟨_, Http.toAnswer_ofFailure call rfl⟩
  · rw [engine_turn there, event_asked found,
      Http.Service.passed_of_demand (Http.demand_ofCall_writes linked.grounded writes), refused]
    rfl

private theorem Linked.perform_reads (linked : Linked link service id host)
    (there : id < host.engines.length) (reads : call.reads = true) :
    (host.turn (host.asked service link call)).engine id = host.engine id := by
  rcases linked.front with ⟨table, found⟩
  rw [engine_turn there, event_asked found]
  cases through : table.passed (.ofCall (host.link link).base call) with
  | none => rfl
  | some made =>
      rcases passed_asked linked.grounded through with ⟨-, writes⟩ | ⟨others, -⟩
      · rw [reads] at writes
        cases writes
      · exact Engine.perform_reads others

/-! ## Calls that read -/

theorem respond_reads {request : Http.Request} {table : Http.Service}
    (found : host.fronts[service]? = some ⟨id, table⟩) (there : id < host.engines.length)
    (reads : ∀ call, request.demand = .ok (.call call) → call.reads = true) :
    host.respond service request = ((table.respond request (host.engine id)).1, host) := by
  have still : (table.respond request (host.engine id)).2 = (table, host.engine id) :=
    Http.Service.respond_reads reads
  have same : host.fronts.set service ⟨id, table⟩ = host.fronts := by
    rcases List.getElem?_eq_some_iff.1 found with ⟨inside, at_⟩
    rw [← at_, List.set_getElem_self]
  rw [respond, found]
  dsimp only
  rcases answered : table.respond request (host.engine id) with ⟨response, later, engine⟩
  rw [answered] at still
  rcases still with ⟨rfl, rfl⟩
  dsimp only
  rw [same]
  exact congrArg _ (setEngine_engine there)

theorem Linked.told_reads (linked : Linked link service id host) (there : id < host.engines.length)
    (isOpen : (host.link link).isClosed = false) (reads : call.reads = true) :
    ∃ table : Http.Service, host.perform (.remote link) call =
      ((table.answer (.ofCall (host.link link).base call) (host.engine id)).1.toAnswer call,
        host) := by
  rcases linked.front with ⟨table, found⟩
  have responded := respond_reads found there fun demanded demand =>
    Http.reads_of_demand_ofCall linked.grounded reads demand
  have turned : host.turn (host.asked service link call) = host := congrArg Prod.snd responded
  have sends : ((host.link link).isClosed && !call.finishes) = false := by
    rw [isOpen, Bool.false_and]
  refine ⟨table, ?_⟩
  rw [linked.perform_sent sends, turned, responded, Http.Service.respond]
  simp only [if_neg (Http.method_ofCall _ call)]

theorem Linked.perform_indexGet (linked : Linked link service id host)
    (there : id < host.engines.length) (isOpen : (host.link link).isClosed = false)
    (index key value : String) :
    host.perform (.remote link) (.indexGet index key value) =
      (RemoteLink.readUnder index fun name =>
        ((host.engine id).perform (.indexGet name key value)).1, host) := by
  have reads : (Call.indexGet index key value).reads = true := rfl
  rcases linked.told_reads there isOpen reads with ⟨table, performed⟩
  rw [performed, Http.Service.answer, Http.demand_indexGet linked.grounded, RemoteLink.readUnder]
  cases Url.arriving? index with
  | none => exact congrArg (·, host) (Http.value_notFound Wire.nodeIds)
  | some name =>
      have told := Http.toAnswer_ofOutcome
        ((host.engine id).tells_perform (.indexGet name key value))
      exact congrArg (·, host) told

theorem Linked.perform_indexRange (linked : Linked link service id host)
    (there : id < host.engines.length) (isOpen : (host.link link).isClosed = false)
    (index : String) (range : IndexRange) :
    host.perform (.remote link) (.indexRange index range) =
      (RemoteLink.readUnder index fun name =>
        ((host.engine id).perform (.indexRange name range)).1, host) := by
  have reads : (Call.indexRange index range).reads = true := rfl
  rcases linked.told_reads there isOpen reads with ⟨table, performed⟩
  rw [performed, Http.Service.answer, Http.demand_indexRange linked.grounded, RemoteLink.readUnder]
  cases Url.arriving? index with
  | none => exact congrArg (·, host) (Http.value_notFound Wire.nodeIds)
  | some name =>
      have told := Http.toAnswer_ofOutcome
        ((host.engine id).tells_perform (.indexRange name range))
      exact congrArg (·, host) told

/-! ## Calls over a connection -/

/-- A call over a connection leaves the engine as it is, and reads or fails, or it is performed by
the engine. -/
theorem Reaches.perform (reaches : Reaches connection id host) (call : Call) :
    Reaches connection id (host.perform connection call).2 ∧
      (((host.perform connection call).2.engine id = host.engine id ∧
          (call.reads = true ∨ ∃ failure, (host.perform connection call).1 = .error failure)) ∨
        (host.perform connection call).1 = ((host.engine id).perform call).1 ∧
          (host.perform connection call).2.engine id = ((host.engine id).perform call).2) := by
  rcases reaches with ⟨there, leads⟩
  cases connection with
  | embedded own =>
      rcases leads with rfl
      have reaches : Reaches (.embedded own) own host := ⟨there, rfl⟩
      exact ⟨reaches.turn (.call own call), .inr ⟨rfl, engine_setEngine there _⟩⟩
  | remote link =>
      rcases leads with ⟨service, linked⟩
      have reaches : Reaches (.remote link) id host := ⟨there, service, linked⟩
      rcases linked.perform_cases call with ⟨-, closed⟩ | sent
      · rw [closed]
        exact ⟨reaches, .inl ⟨rfl, .inr ⟨_, rfl⟩⟩⟩
      rw [sent]
      refine ⟨reaches.turn _, ?_⟩
      cases reads : call.reads with
      | true => exact .inl ⟨linked.perform_reads there reads, .inl rfl⟩
      | false =>
          rcases linked.front with ⟨table, found⟩
          cases through : call.transaction?.all table.transactions.contains with
          | true => exact .inr (linked.perform_asked there found reads through)
          | false =>
              rcases linked.perform_refused there found reads through with ⟨failed, same⟩
              exact .inl ⟨same, .inr failed⟩

theorem Reaches.admits_perform (reaches : Reaches connection id host)
    (admits : Admits connection id transaction host)
    (kept : call.finishes = true → call.transaction? ≠ some transaction) :
    Admits connection id transaction (host.perform connection call).2 := by
  cases connection with
  | embedded own => trivial
  | remote link =>
      rcases reaches.2 with ⟨service, linked⟩
      rcases linked.perform_cases call with ⟨-, closed⟩ | sent
      · rw [closed]
        exact admits
      rw [sent]
      rcases linked.front with ⟨table, found⟩
      refine admits.turn fun made event finishes => ?_
      rw [event_asked found, Option.map_eq_some_iff] at event
      rcases event with ⟨through, passed, same⟩
      cases same
      rcases passed_asked linked.grounded passed with ⟨rfl, -⟩ | ⟨others, -⟩
      · exact kept finishes
      · rw [finishes_of_reads others] at finishes
        cases finishes

theorem Reaches.admits_begun (reaches : Reaches connection id host)
    (begun : (host.perform connection .beginTransaction).1 = .ok transaction) :
    Admits connection id transaction (host.perform connection .beginTransaction).2 := by
  cases connection with
  | embedded own => trivial
  | remote link =>
      rcases reaches with ⟨there, service, linked⟩
      rcases linked.front with ⟨table, found⟩
      have writes : Call.beginTransaction.reads = false := rfl
      have demand := Http.demand_ofCall_writes linked.grounded writes
      rcases linked.perform_cases .beginTransaction with ⟨-, closed⟩ | sent
      · rw [closed] at begun
        cases begun
      rcases linked.perform_asked there found writes rfl with ⟨answer, -⟩
      rw [sent] at begun ⊢
      have member : transaction ∈ (table.respond (.ofCall (host.link link).base .beginTransaction)
          (host.engine id)).2.1.transactions :=
        Http.Service.mem_respond_begun demand (answer.symm.trans begun)
      rcases host.link_turn (host.asked service link .beginTransaction) link with ⟨same, network⟩
      have leads : (host.turn (host.asked service link .beginTransaction)).network =
          .loopback ((host.turn (host.asked service link .beginTransaction)).link link).base.origin
            service := by
        rw [same, network, linked.leads]
      exact ⟨service, _, leads, front_asked found .beginTransaction, member⟩

/-- A transaction that can be finished over a connection is finished by the engine. -/
theorem Reaches.perform_finishes (reaches : Reaches connection id host) (call : Call)
    (admits : Admits connection id transaction host) (finishes : call.finishes = true)
    (about : call.transaction? = some transaction) :
    (host.perform connection call).1 = ((host.engine id).perform call).1 ∧
      (host.perform connection call).2.engine id = ((host.engine id).perform call).2 := by
  rcases reaches with ⟨there, leads⟩
  cases connection with
  | embedded own =>
      rcases leads with rfl
      exact ⟨rfl, engine_setEngine there _⟩
  | remote link =>
      rcases leads with ⟨service, linked⟩
      rcases admits with ⟨other, table, both, found, member⟩
      have same : other = service := by
        have origins := both.symm.trans linked.leads
        rw [Network.loopback, Network.loopback] at origins
        exact (Prod.mk.inj (Option.some.inj (Network.mk.inj origins))).2
      subst same
      have writes : call.reads = false := by
        rw [← Bool.not_eq_true]
        intro reads
        rw [finishes_of_reads reads] at finishes
        cases finishes
      have through : call.transaction?.all table.transactions.contains = true := by
        rw [about]
        exact Std.ExtTreeSet.mem_iff_contains.1 member
      rcases linked.perform_cases call with ⟨unfinished, -⟩ | sent
      · rw [finishes] at unfinished
        cases unfinished
      · rw [sent]
        exact linked.perform_asked there found writes through

end Host

end RecordGraph
