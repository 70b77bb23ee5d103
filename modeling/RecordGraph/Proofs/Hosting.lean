import RecordGraph.Proofs.Conveying
import RecordGraph.Proofs.Reaching
import RecordGraph.Proofs.Record.Course
import RecordGraph.Proofs.Tables

namespace RecordGraph

/-! A service that is asked over links. What a request can do to the table of the service: finish a
transaction that is there, or begin one, which whoever has sent the request comes to know. -/

namespace Host

def table (service : ServiceId) (host : Host) : Http.Service :=
  (host.fronts[service]?.map Front.service).getD {}

variable {host later : Host} {service : ServiceId} {id : EngineId} {origin : String} {bound : Nat}
  {transaction : TransactionId}

theorem table_of_front {table : Http.Service} (found : host.fronts[service]? = some ⟨id, table⟩) :
    host.table service = table := by
  rw [Host.table, found]
  rfl

/-- The host has a service in front of an engine, which is all that can be reached over its links. -/
structure Hosts (origin : String) (service : ServiceId) (id : EngineId) (bound : Nat) (host : Host) :
    Prop where
  ordered : host.Ordered bound
  fronts : ∀ front ∈ host.fronts, front.engine < host.engines.length
  leads : host.network = .loopback origin service
  front : ∃ table : Http.Service, host.fronts[service]? = some ⟨id, table⟩

def KeepsLinks (host later : Host) : Prop :=
  ∀ (link : LinkId) (found : RemoteLink), host.links[link]? = some found →
    ∃ other : RemoteLink, later.links[link]? = some other ∧ other.base = found.base

theorem keepsLinks_of_links (same : later.links = host.links) : host.KeepsLinks later :=
  fun _ found there => ⟨found, by rw [same, there], rfl⟩

theorem keepsLinks_append (host : Host) (added : List RemoteLink) :
    host.KeepsLinks { host with links := host.links ++ added } := by
  intro link found there
  refine ⟨found, ?_, rfl⟩
  rw [List.getElem?_append_left (List.getElem?_eq_some_iff.1 there).1]
  exact there

theorem keepsLinks_shutdown (host : Host) (own : LinkId) :
    host.KeepsLinks (host.shutdown (.remote own)).2 := by
  intro link found there
  have inside := (List.getElem?_eq_some_iff.1 there).1
  by_cases same : own = link
  · subst same
    refine ⟨found.shutdown, ?_, rfl⟩
    have linked : host.link own = found := by
      rw [Host.link, there]
      rfl
    rw [shutdown, linked]
    exact List.getElem?_set_self inside
  · exact ⟨found, (List.getElem?_set_ne same).trans there, rfl⟩

namespace Hosts

theorem there (hosts : host.Hosts origin service id bound) : id < host.engines.length := by
  rcases hosts.front with ⟨table, found⟩
  exact hosts.fronts _ (List.mem_of_getElem? found)

theorem withLinks (hosts : host.Hosts origin service id bound) (links : List RemoteLink) :
    Hosts origin service id (bound + 1) { host with links } where
  ordered := ⟨hosts.ordered.below, fun own => Nat.le_succ_of_le (hosts.ordered.few own),
    hosts.ordered.listed, hosts.ordered.apart⟩
  fronts := hosts.fronts
  leads := hosts.leads
  front := hosts.front

theorem more (hosts : host.Hosts origin service id bound) :
    host.Hosts origin service id (bound + 1) := hosts.withLinks host.links

theorem turn (hosts : host.Hosts origin service id bound) (room : bound + 1 < 2 ^ 64) {turn : Turn}
    (keeps : turn.Keeps host) : (host.turn turn).Hosts origin service id (bound + 1) where
  ordered := hosts.ordered.turn room keeps
  fronts later member := by
    rcases List.getElem?_of_mem member with ⟨other, found⟩
    rcases fronts_turn found with ⟨front, before, same, -⟩
    rw [← same]
    exact Nat.lt_of_lt_of_le (hosts.fronts front (List.mem_of_getElem? before)) (host.length_turn turn)
  leads := (host.link_turn turn 0).2.trans hosts.leads
  front := by
    rcases hosts.front with ⟨table, found⟩
    rcases front_turn turn found with ⟨later, after, -⟩
    exact ⟨later, after⟩

theorem perform_cases (hosts : host.Hosts origin service id bound) (link : LinkId) (call : Call) :
    (host.perform (.remote link) call).2 = host ∨ (host.perform (.remote link) call).2 =
      host.turn (.request service (.ofCall (host.link link).base call)) := by
  rcases host.perform_turn link call with same | ⟨other, found, reaches, turned⟩
  · exact .inl same
  · rw [hosts.leads] at reaches
    cases reaches
    exact .inr turned

theorem perform (hosts : host.Hosts origin service id bound) (room : bound + 1 < 2 ^ 64)
    (link : LinkId) (call : Call) :
    (host.perform (.remote link) call).2.Hosts origin service id (bound + 1) ∧
      host.KeepsLinks (host.perform (.remote link) call).2 := by
  rcases hosts.perform_cases link call with same | turned
  · rw [same]
    exact ⟨hosts.more, keepsLinks_of_links rfl⟩
  · rw [turned]
    exact ⟨hosts.turn room trivial, keepsLinks_of_links (host.links_turn _)⟩

/-- What is in the table after a request has been there before, or the request has begun it. -/
theorem table_request (hosts : host.Hosts origin service id bound) {sent : Http.Request}
    (member : transaction ∈ ((host.turn (.request service sent)).table service).transactions) :
    (transaction ∈ (host.table service).transactions ∧
        ∀ call, sent.demand = .ok (.call call) → call.transaction? = some transaction →
          call.finishes = false) ∨
      transaction ∉ (host.table service).transactions ∧
        sent.demand = .ok (.call .beginTransaction) ∧
        ((host.engine id).perform .beginTransaction).1 = .ok transaction := by
  rcases hosts.front with ⟨table, found⟩
  rcases front_turn (.request service sent) found with ⟨later, after, -⟩
  rw [table_of_front found]
  rw [table_of_front after] at member
  rcases table_turn after member with ⟨front, before, -, ⟨old, kept⟩ | ⟨-, event, begun⟩⟩
  · cases found.symm.trans before
    refine .inl ⟨old, fun call demand about => ?_⟩
    have through : table.passed sent = some call := by
      rw [Http.Service.passed_of_demand demand, about, Option.all_some,
        if_pos (Std.ExtTreeSet.mem_iff_contains.1 old)]
    have event := event?_request found sent
    rw [through] at event
    have goesOn := kept sent rfl (.call call) event
    rw [Event.ends, about, decide_eq_true rfl, Bool.and_true] at goesOn
    exact goesOn
  · cases found.symm.trans before
    rw [event?_request found, Option.map_eq_some_iff] at event
    rcases event with ⟨made, through, same⟩
    cases same
    exact .inr ⟨hosts.ordered.apart_begun found rfl begun,
      Http.Service.demand_of_passed through, begun⟩

/-- Whoever sends a request that begins a transaction gets to know which one it is. -/
theorem leaves_perform (hosts : host.Hosts origin service id bound) {link : LinkId}
    (linked : Linked link service id host) {call : Call}
    (after : (host.perform (.remote link) call).2 =
      host.turn (.request service (.ofCall (host.link link).base call)))
    (demand : (Http.Request.ofCall (host.link link).base call).demand =
      .ok (.call .beginTransaction))
    (begun : ((host.engine id).perform .beginTransaction).1 = .ok transaction) :
    call.leaves (host.perform (.remote link) call).1 = some transaction := by
  have same : call = .beginTransaction := by
    cases reads : call.reads with
    | true => cases Http.reads_of_demand_ofCall linked.1 reads demand
    | false =>
        rw [Http.demand_ofCall_writes linked.1 reads] at demand
        cases demand
        rfl
  subst same
  have reaches : Reaches (.remote link) id host := ⟨hosts.there, service, linked⟩
  have isOpen : (host.engine id).isClosed = false := by
    rw [← Bool.not_eq_true]
    intro closed
    rw [Engine.perform, Engine.beginTransaction, if_pos closed] at begun
    cases begun
  have event : (Turn.request service (.ofCall (host.link link).base .beginTransaction)).event? id
      host = some (.call .beginTransaction) := by
    rcases hosts.front with ⟨table, found⟩
    have through := event?_request found (.ofCall (host.link link).base .beginTransaction)
    rw [Http.Service.passed_of_demand demand] at through
    exact through
  have engine : (host.perform (.remote link) .beginTransaction).2.engine id =
      ((host.engine id).perform .beginTransaction).2 := by
    rw [after, engine_turn hosts.there, event]
    rfl
  rcases (reaches.perform .beginTransaction).2 with ⟨still, -⟩ | ⟨answer, -⟩
  · -- the counter of the engine has gone on
    rw [still, Engine.perform_begin isOpen] at engine
    have next : (host.engine id).nextTransaction = (host.engine id).nextTransaction + 1 :=
      congrArg Engine.nextTransaction engine
    simp at next
  · rw [answer, begun]
    rfl

/-- What is in the table after a call over a link has been there before, and the call does not finish
it, or the client has begun it by the call and knows about it. -/
theorem table_perform (hosts : host.Hosts origin service id bound) {link : LinkId}
    (grounded : Http.Grounded (host.link link).base) (own : (host.link link).base.origin = origin)
    {call : Call} (member : transaction ∈
      ((host.perform (.remote link) call).2.table service).transactions) :
    (transaction ∈ (host.table service).transactions ∧
        (call.transaction? = some transaction → call.finishes = false)) ∨
      transaction ∉ (host.table service).transactions ∧
        call.leaves (host.perform (.remote link) call).1 = some transaction := by
  have linked : Linked link service id host := ⟨grounded, by rw [own, hosts.leads], hosts.front⟩
  have writes (finishes : call.finishes = true) : call.reads = false := by
    cases call with
    | commit _ => rfl
    | rollback _ => rfl
    | _ => cases finishes
  rcases linked.perform_cases call with ⟨stays, closed⟩ | sent
  · rw [closed] at member
    exact .inl ⟨member, fun _ => stays⟩
  have after : (host.perform (.remote link) call).2 =
      host.turn (.request service (.ofCall (host.link link).base call)) := by
    rw [sent]
    rfl
  rw [after] at member
  rcases hosts.table_request member with ⟨old, kept⟩ | ⟨new, demand, begun⟩
  · refine .inl ⟨old, fun about => ?_⟩
    rw [← Bool.not_eq_true]
    intro finishes
    have goesOn := kept call (Http.demand_ofCall_writes grounded (writes finishes)) about
    rw [finishes] at goesOn
    cases goesOn
  · exact .inr ⟨new, hosts.leaves_perform linked after demand begun⟩

end Hosts

/-! ## Making sure of an index -/

theorem converse_provisionIndex (connection : Connection) (index : String) (host : Host) :
    (host.converse connection (provisionIndex index)).2 =
        (host.perform connection (.createIndex index)).2 ∧
      ((host.converse connection (provisionIndex index)).1 = .ok () →
        (host.perform connection (.createIndex index)).1 = .ok () ∨
          ∃ name, (host.perform connection (.createIndex index)).1 = .error (.indexExists name)) := by
  rw [converse, provisionIndex, Dialogue.run_bind, Dialogue.run_attempt, Dialogue.run_ask]
  rcases host.perform connection (.createIndex index) with ⟨failure | done, later⟩
  · cases failure with
    | indexExists name => exact ⟨rfl, fun _ => .inr ⟨name, rfl⟩⟩
    | _ => exact ⟨rfl, fun done => by cases done⟩
  · exact ⟨rfl, fun _ => .inl rfl⟩

namespace Hosts

variable {link : LinkId} {before : List String} {index : String}

theorem table_provision (hosts : host.Hosts origin service id bound)
    (divided : Http.Divided before (host.link link).base) (member : transaction ∈
      ((host.perform (.remote link) (.createIndex index)).2.table service).transactions) :
    transaction ∈ (host.table service).transactions := by
  rcases hosts.perform_cases link (.createIndex index) with same | turned
  · rwa [same] at member
  rw [turned] at member
  rcases hosts.table_request member with ⟨old, -⟩ | ⟨-, demand, -⟩
  · exact old
  · rcases divided.demand_createIndex index with grounded | elsewhere
    · rw [Http.demand_ofCall_writes grounded rfl] at demand
      cases demand
    · cases elsewhere.symm.trans demand

/-- Making sure of an index succeeds only over a link to the root of the service. -/
theorem grounded_of_provision (hosts : host.Hosts origin service id bound)
    (divided : Http.Divided before (host.link link).base)
    (own : (host.link link).base.origin = origin)
    (done : (host.converse (.remote link) (provisionIndex index)).1 = .ok ()) :
    Http.Grounded (host.link link).base := by
  rcases divided.demand_createIndex index with grounded | elsewhere
  · exact grounded
  rcases hosts.front with ⟨table, front⟩
  cases isClosed : (host.link link).isClosed with
  | true =>
      have closed : (host.perform (.remote link) (.createIndex index)).1 = .error .closed := by
        rw [Host.perform, RemoteLink.perform, isClosed]
        rfl
      rcases (host.converse_provisionIndex (.remote link) index).2 done with other | ⟨name, other⟩
      · cases closed.symm.trans other
      · cases closed.symm.trans other
  | false =>
      rcases provision_elsewhere isClosed (by rw [own, hosts.leads]) front hosts.there elsewhere with
        ⟨failure, failed⟩
      rw [failed] at done
      cases done

end Hosts

end Host

end RecordGraph
