import RecordGraph.Proofs.Client.Sharing
import RecordGraph.Proofs.Keyed

namespace RecordGraph

/-! Clients that keep records by the same keys. Whatever they are asked, in whatever mode and by
whatever address they reach an engine, every node is under one key, and what it has as its key
property is that key unless a client has been given a field in its place. -/

variable {keys : KeyIndex} {covers : String → Bytes → Prop} {bound later : Nat}

namespace Host.Keyed

variable {host after : Host} {connection : Connection} {id : EngineId} {binding : Binding}

/-! ## Opening and shutting down -/

private theorem of_upholds (keyed : host.Keyed keys covers bound)
    (upholds : after.Upholds (Engine.Keyed keys covers bound) (Snapshot.Keyed keys covers bound))
    (engines : host.engines.length ≤ after.engines.length) (fronts : after.fronts = host.fronts)
    (links : after.links = host.links) (registries : after.registries = host.registries)
    (network : after.network = host.network) : Sequel keys covers bound host after where
  keyed := by
    refine ⟨upholds, ?_, ?_⟩
    · rw [fronts]
      exact fun front member =>
        (keyed.fronts front member).imp_left fun there => Nat.lt_of_lt_of_le there engines
    · rw [registries]
      exact fun registry member id held =>
        Nat.lt_of_lt_of_le (keyed.holders registry member id held) engines
  continues := by
    refine ⟨engines, ?_, congrArg List.length fronts, network⟩
    rw [links]
    exact host.continues_refl.links

theorem openEngine (keyed : host.Keyed keys covers bound) (least : 1 ≤ bound) (directory : String) :
    Sequel keys covers bound host (host.openEngine directory).2 ∧
      ∀ id, (host.openEngine directory).1 = .ok id →
        id < (host.openEngine directory).2.engines.length := by
  have upholds := keyed.upholds.openEngine (Engine.lasting_keyed least) directory
  rw [Host.openEngine] at upholds ⊢
  rcases opening : Engine.openAt directory host.disk with ⟨failure | engine, disk⟩
  all_goals rw [opening] at upholds
  · exact ⟨keyed.of_upholds upholds (Nat.le_refl _) rfl rfl rfl rfl, fun id opened => by cases opened⟩
  · have length : (({ host with disk } : Host).addEngine engine).2.engines.length =
        host.engines.length + 1 := List.length_append
    refine ⟨keyed.of_upholds upholds ?_ rfl rfl rfl rfl, fun id opened => ?_⟩
    · exact Nat.le_of_lt (length ▸ Nat.lt_succ_self _)
    · rw [← Except.ok.inj opened]
      exact length ▸ Nat.lt_succ_self _

theorem shutdownEngine (keyed : host.Keyed keys covers bound) (least : 1 ≤ bound)
    (id : EngineId) : Sequel keys covers bound host (host.shutdownEngine id).2 := by
  refine keyed.of_upholds (keyed.upholds.shutdownEngine (Engine.lasting_keyed least) id) ?_ rfl rfl
    rfl rfl
  exact Nat.le_of_eq (List.length_set).symm

theorem setRegistry (keyed : host.Keyed keys covers bound) (place : RegistryId)
    {registry : Registry} (held : ∀ id ∈ registry.engine, id < host.engines.length) :
    Sequel keys covers bound host (host.setRegistry place registry) where
  keyed := by
    refine ⟨keyed.upholds.of_same rfl rfl, keyed.fronts, fun other member => ?_⟩
    rcases List.mem_or_eq_of_mem_set member with before | rfl
    · exact keyed.holders other before
    · exact held
  continues := ⟨Nat.le_refl _, host.continues_refl.links, rfl, rfl⟩

theorem registry (keyed : host.Keyed keys covers bound) {place : RegistryId}
    (held : (host.registry place).engine = some id) : id < host.engines.length := by
  rw [Host.registry] at held
  cases found : host.registries[place]? with
  | none =>
      rw [found] at held
      cases held
  | some registry =>
      rw [found] at held
      exact keyed.holders registry (List.mem_of_getElem? found) id held

/-! ## Sessions -/

theorem provisionIndex (keyed : host.Keyed keys covers bound)
    (conveys : Conveys connection id host) :
    Sequel keys covers bound host (host.converse connection (provisionIndex keys.index)).2 := by
  refine keyed.converse conveys ((asks_provisionIndex keys.index).mono ?_) (Nat.le_refl bound)
    (keyed.engine conveys.there).provisionIndex
  rintro call rfl
  rfl

private theorem provision_held (keyed : host.Keyed binding.keys covers bound)
    (there : id < host.engines.length) :
    ∃ outcome later, host.converse (.embedded id) (RecordGraph.provisionIndex binding.index) =
        (outcome, later) ∧
      Sequel binding.keys covers bound host later ∧ id < later.engines.length := by
  have conveys : Conveys (.embedded id) id host := ⟨rfl, there⟩
  have provisioned := keyed.provisionIndex conveys
  exact ⟨_, _, rfl, provisioned, Nat.lt_of_lt_of_le there provisioned.continues.engines⟩

theorem acquire (keyed : host.Keyed binding.keys covers bound) (least : 1 ≤ bound)
    (place : RegistryId) :
    Sequel binding.keys covers bound host (host.acquire place binding).2 ∧
      ∀ id, (host.acquire place binding).1 = .ok id →
        id < (host.acquire place binding).2.engines.length := by
  rw [Host.acquire]
  cases held : (host.registry place).engine with
  | some id =>
      rcases keyed.provision_held (keyed.registry held) with
        ⟨failure | done, later, conversed, provisioned, there⟩
      all_goals
        dsimp only
        rw [conversed]
      · exact ⟨provisioned, fun other failed => by cases failed⟩
      · refine ⟨provisioned.trans (provisioned.keyed.setRegistry place ?_), ?_⟩
        · rintro other ⟨⟩
          exact there
        · rintro other ⟨⟩
          exact there
  | none =>
      rcases keyed.openEngine least binding.url with ⟨opened, there⟩
      dsimp only
      rcases opening : host.openEngine binding.url with ⟨failure | id, ready⟩
      all_goals rw [opening] at opened there
      · exact ⟨opened, fun other failed => by cases failed⟩
      rcases opened.keyed.provision_held (there id rfl) with
        ⟨failure | done, later, conversed, provisioned, there⟩
      all_goals
        dsimp only
        rw [conversed]
      · exact ⟨(opened.trans provisioned).trans (provisioned.keyed.shutdownEngine least id),
          fun other failed => by cases failed⟩
      · refine ⟨(opened.trans provisioned).trans (provisioned.keyed.setRegistry place ?_), ?_⟩
        · rintro other ⟨⟩
          exact there
        · rintro other ⟨⟩
          exact there

theorem release (keyed : host.Keyed keys covers bound) (least : 1 ≤ bound) (place : RegistryId) :
    Sequel keys covers bound host (host.release place) := by
  rw [Host.release]
  dsimp only
  split
  · exact keyed.sequel
  split
  · have nobody : ∀ id ∈ ({ host.registry place with holders := 0, engine := none } :
        Registry).engine, id < host.engines.length := fun id held => by cases held
    have free := keyed.setRegistry place nobody
    exact free.trans (free.keyed.shutdownEngine least _)
  · exact keyed.setRegistry place fun id held => keyed.registry held

/-- By a new link the index is provisioned if the link leads to an engine, and otherwise nothing is
done. -/
private theorem provision_linked (keyed : host.Keyed binding.keys covers bound) {link : LinkId}
    {base : Url} (last : host.links[link]? = some { base }) {before : List String}
    (divided : Http.Divided before base) {service : ServiceId} (inside : service < host.fronts.length)
    (network : host.network = .loopback base.origin service) :
    ∃ outcome later, host.converse (.remote link) (RecordGraph.provisionIndex binding.index) =
        (outcome, later) ∧
      Sequel binding.keys covers bound host later ∧
      (outcome = .ok () → Leads (.remote link) later) := by
  have own : host.link link = { base } := by
    rw [Host.link, last]
    rfl
  have isOpen : (host.link link).isClosed = false := by
    rw [own]
  rcases divided.demand_createIndex binding.index with grounded | elsewhere
  · have leads : Leads (.remote link) host :=
      ⟨{ base }, last, fun _ => ⟨grounded, service, inside, network⟩⟩
    rcases keyed.conveys leads with ⟨_, ⟨⟩, closed⟩ | ⟨id, conveys⟩
    · rw [isOpen] at closed
      cases closed
    · have provisioned := keyed.provisionIndex conveys
      exact ⟨_, _, rfl, provisioned, fun _ => leads.continues provisioned.continues⟩
  · have there := (keyed.fronts _ (List.getElem_mem inside)).1
    have address : (host.link link).base = base := by
      rw [own]
    rw [← address] at elsewhere network
    rcases provision_elsewhere isOpen network (List.getElem?_eq_getElem inside) there elsewhere with
      ⟨failure, failed⟩
    exact ⟨_, _, failed, keyed.sequel, fun done => by cases done⟩

theorem connectBy (keyed : host.Keyed binding.keys covers bound) (least : 1 ≤ bound)
    (place : RegistryId) :
    Sequel binding.keys covers bound host (host.connectBy binding place).2 ∧
      ∀ connection, (host.connectBy binding place).1 = .ok connection →
        Leads connection (host.connectBy binding place).2 := by
  rw [Host.connectBy]
  cases binding.mode.isRemote with
  | false =>
      rcases keyed.acquire least place with ⟨acquired, there⟩
      rw [if_neg Bool.false_ne_true]
      rcases acquiring : host.acquire place binding with ⟨failure | id, later⟩
      all_goals rw [acquiring] at acquired there
      · exact ⟨acquired, fun connection failed => by cases failed⟩
      · refine ⟨acquired, ?_⟩
        rintro connection ⟨⟩
        exact there id rfl
  | true =>
      rw [if_pos rfl]
      rcases connect_cases (fun front member => (keyed.fronts front member).1) binding.url with
        ⟨failure, failed⟩ | ⟨base, based, ⟨service, inside, network⟩, connected⟩
      · rw [failed]
        exact ⟨keyed.sequel, fun connection failed => by cases failed⟩
      set linked : Host := { host with links := host.links ++ [{ base }] } with linked_eq
      have joined : Sequel binding.keys covers bound host linked := by
        refine ⟨⟨keyed.upholds.of_same rfl rfl, keyed.fronts, keyed.holders⟩, Nat.le_refl _,
          fun id link found => ⟨link, ?_, .inl rfl⟩, rfl, rfl⟩
        exact List.getElem?_append_left (List.getElem?_eq_some_iff.1 found).1 ▸ found
      have last : linked.links[host.links.length]? = some { base } := List.getElem?_concat_length
      rcases RemoteLink.divided_baseOf based with ⟨before, divided⟩
      rcases joined.keyed.provision_linked last divided inside network with
        ⟨failure | done, later, conversed, provisioned, leads⟩
      all_goals
        rw [connected]
        dsimp only
        rw [conversed]
      · exact ⟨joined.trans provisioned, fun connection failed => by cases failed⟩
      · refine ⟨joined.trans provisioned, ?_⟩
        rintro connection ⟨⟩
        exact leads rfl

theorem disconnect (keyed : host.Keyed keys covers bound) (least : 1 ≤ bound)
    (connection : Connection) (place : RegistryId) :
    Sequel keys covers bound host (host.disconnect connection place) := by
  cases connection with
  | embedded id => exact keyed.release least place
  | remote id =>
      refine ⟨⟨keyed.upholds.of_same rfl rfl, keyed.fronts, keyed.holders⟩, Nat.le_refl _,
        fun other link found => ?_, rfl, rfl⟩
      have shut : (host.disconnect (.remote id) place).links[other]? =
          if id = other then some (host.link id).shutdown else some link := by
        have inside := (List.getElem?_eq_some_iff.1 found).1
        have links : (host.disconnect (.remote id) place).links =
            host.links.set id (host.link id).shutdown := rfl
        rw [links, List.getElem?_set]
        split
        · rename_i same
          rw [if_pos (same ▸ inside)]
        · exact found
      rw [shut]
      split
      · exact ⟨_, rfl, .inr rfl⟩
      · exact ⟨link, rfl, .inl rfl⟩

end Host.Keyed

/-! ## Calls of clients -/

/-- The field that is written under a name for the record of a key, if there is one. -/
def Request.field? (name key : String) : Request → Option Bytes
  | .insert own fields => if own = key then fields[name]? else none
  | .update own fields => if own = key then fields[name]? else none
  | _ => none

/-- The clients have the same keys, their sessions lead to engines, and the host keeps the keys. -/
structure Party.Keyed (keys : KeyIndex) (covers : String → Bytes → Prop) (bound : Nat) (party : Party) :
    Prop where
  clients : ∀ who, (party.clients who).binding.keys = keys
  sessions : ∀ who connection, (party.clients who).session = some connection →
    Host.Leads connection party.host
  host : party.host.Keyed keys covers bound

namespace Party.Keyed

variable {party : Party} {who : Nat} {request : Request}

theorem withHost (keyed : party.Keyed keys covers bound) {host : Host}
    (sequel : Host.Sequel keys covers later party.host host) :
    Keyed keys covers later { party with host } where
  clients := keyed.clients
  sessions who connection session := (keyed.sessions who connection session).continues sequel.continues
  host := sequel.keyed

theorem withClient (keyed : party.Keyed keys covers bound) {client : Client}
    (own : client.binding.keys = keys)
    (leads : ∀ connection, client.session = some connection → Host.Leads connection party.host) :
    Keyed keys covers bound { party with clients := Function.update party.clients who client } where
  clients other := by
    dsimp only
    by_cases same : other = who
    · rw [same, Function.update_self]
      exact own
    · rw [Function.update_of_ne same]
      exact keyed.clients other
  sessions other connection session := by
    dsimp only at session
    by_cases same : other = who
    · rw [same, Function.update_self] at session
      exact leads connection session
    · rw [Function.update_of_ne same] at session
      exact keyed.sessions other connection session
  host := keyed.host

theorem init (keyed : party.Keyed keys covers bound) (least : 1 ≤ bound) (who : Nat) :
    (party.step who .init).2.Keyed keys covers bound := by
  have own := keyed.clients who
  have unchanged : Keyed keys covers bound { party with
      clients := Function.update party.clients who (party.clients who) } :=
    keyed.withClient own (keyed.sessions who)
  simp only [Party.step, Client.init]
  split
  · exact unchanged
  split
  · exact unchanged
  · rw [← own] at keyed
    rcases keyed.host.connectBy least (party.clients who).registry with ⟨sequel, leads⟩
    rcases connected : party.host.connectBy (party.clients who).binding
      (party.clients who).registry with ⟨failure | connection, host⟩
    all_goals rw [connected] at sequel leads
    · rw [own] at keyed sequel
      have after := keyed.withHost sequel
      exact after.withClient own (after.sessions who)
    · rw [own] at keyed sequel
      refine (keyed.withHost sequel).withClient own fun other session => ?_
      cases session
      exact leads connection rfl

theorem cleanup (keyed : party.Keyed keys covers bound) (least : 1 ≤ bound) (who : Nat) :
    (party.step who .cleanup).2.Keyed keys covers bound := by
  have own := keyed.clients who
  simp only [Party.step, Client.cleanup]
  split
  · exact keyed.withClient own (keyed.sessions who)
  · rename_i connection _
    have sequel := keyed.host.disconnect least connection (party.clients who).registry
    exact (keyed.withHost sequel).withClient own fun other session => by cases session

theorem converse (keyed : party.Keyed keys covers bound) (more : bound ≤ later) (who : Nat)
    {Result : Type} {dialogue : Dialogue Result}
    (acts : ∀ connection, Host.Leads connection party.host →
      Host.Sequel keys covers later party.host (party.host.converse connection dialogue).2) :
    Keyed keys covers later
      { party with host := ((party.clients who).converse dialogue party.host).2 } := by
  apply keyed.withHost
  rw [Client.converse]
  cases session : (party.clients who).session with
  | none => exact (keyed.host.mono more).sequel
  | some connection => exact acts connection (keyed.sessions who connection session)

theorem step (keyed : party.Keyed keys covers bound) (least : 1 ≤ bound) (who : Nat)
    (room : bound + (if request.isInsert then 1 else 0) < 2 ^ 64)
    (covered : ∀ key value, request.field? keys.keyField key = some value → covers key value) :
    (party.step who request).2.Keyed keys covers (bound + if request.isInsert then 1 else 0) := by
  cases keyed.clients who
  cases request with
  | init => exact keyed.init least who
  | cleanup => exact keyed.cleanup least who
  | insert key fields =>
      exact keyed.converse (Nat.le_succ bound) who fun connection leads =>
        keyed.host.insert leads room key fun value given =>
          covered key value ((if_pos rfl).trans given)
  | update key fields =>
      exact keyed.converse (Nat.le_refl bound) who fun connection leads =>
        keyed.host.update leads key fun value given =>
          covered key value ((if_pos rfl).trans given)
  | delete key =>
      exact keyed.converse (Nat.le_refl bound) who fun connection leads =>
        keyed.host.delete leads key
  | read key requested into =>
      exact keyed.converse (Nat.le_refl bound) who fun connection leads =>
        keyed.host.read leads key requested

theorem run (keyed : party.Keyed keys covers bound) (least : 1 ≤ bound)
    (calls : List (Nat × Request)) (room : bound + calls.countP (·.2.isInsert) < 2 ^ 64)
    (covered : ∀ call ∈ calls, ∀ key value,
      call.2.field? keys.keyField key = some value → covers key value) :
    (party.run calls).2.Keyed keys covers (bound + calls.countP (·.2.isInsert)) := by
  induction calls generalizing party bound with
  | nil => exact keyed
  | cons call calls induction =>
      rcases call with ⟨who, request⟩
      have count : ((who, request) :: calls).countP (·.2.isInsert) =
          (if request.isInsert then 1 else 0) + calls.countP (·.2.isInsert) := by
        rw [List.countP_cons, Nat.add_comm]
      rw [count, ← Nat.add_assoc] at room ⊢
      have after := keyed.step least who (Nat.lt_of_le_of_lt (Nat.le_add_right _ _) room)
        (covered _ List.mem_cons_self)
      exact induction after (Nat.le_trans least (Nat.le_add_right _ _)) room
        fun call member => covered call (List.mem_cons_of_mem _ member)

end Party.Keyed

/-! ## Clients of an empty store -/

namespace Party

variable {party : Party}

/-- The clients have the same keys and no sessions yet. The engines that are there are empty, and
there is no snapshot on the disk. -/
structure Unused (keys : KeyIndex) (party : Party) : Prop where
  clients : ∀ who, (party.clients who).binding.keys = keys ∧ (party.clients who).session = none
  engines : ∀ engine ∈ party.host.engines,
    engine.graph = {} ∧ engine.nextNode = 1 ∧ engine.transactions = ∅
  fronts : ∀ front ∈ party.host.fronts,
    front.engine < party.host.engines.length ∧ front.service.transactions = ∅
  holders : ∀ registry ∈ party.host.registries, ∀ id ∈ registry.engine,
    id < party.host.engines.length
  files : party.host.disk.tree.Bears Snapshot.fileName fun _ => False

theorem Unused.keyed (unused : party.Unused keys) (covers : String → Bytes → Prop) :
    party.Keyed keys covers 1 where
  clients who := (unused.clients who).1
  sessions who connection session := by cases (unused.clients who).2.symm.trans session
  host := by
    refine ⟨⟨fun engine member => ?_, ?_⟩, unused.fronts, unused.holders⟩
    · rcases unused.engines engine member with ⟨graph, next, settled⟩
      refine ⟨settled, ?_, ?_, ?_⟩
      · rw [graph]
        exact Graph.keyed_empty keys covers _
      · rw [next]
        exact UInt64.le_refl 1
      · rw [next]
        exact Nat.le_refl 1
    · exact fun location file last standing => (unused.files location file last standing).elim

theorem Keyed.engine (keyed : party.Keyed keys covers bound) (id : EngineId) :
    ∃ next, (party.host.engine id).graph.Keyed keys covers next := by
  by_cases there : id < party.host.engines.length
  · exact ⟨_, (keyed.host.engine there).graph⟩
  · have nowhere : party.host.engine id = { isClosed := true } := by
      rw [Host.engine, List.getElem?_eq_none_iff.2 (Nat.not_lt.1 there)]
      rfl
    rw [nowhere]
    exact ⟨1, Graph.keyed_empty keys covers 1⟩

/-- After any calls every node of an engine is under one key, and a node that shows a key is under
it. A node under a key shows it, unless a client has been given a field in its place for a record of
the key; where that has not happened, the index and the properties agree. -/
theorem keyed_run (unused : party.Unused keys) (calls : List (Nat × Request))
    (room : 1 + calls.countP (·.2.isInsert) < 2 ^ 64) (id : EngineId) :
    let graph := ((party.run calls).2.host.engine id).graph
    (∀ node, graph.hasNode node = true → ∃! key, node ∈ graph.nodesUnder keys key) ∧
      (∀ node key, graph.property? node keys.keyField = some (.text key) →
        node ∈ graph.nodesUnder keys key) ∧
      (∀ key, ∀ node ∈ graph.nodesUnder keys key,
        graph.property? node keys.keyField = some (.text key) ∨
          ∃ call ∈ calls, ∃ value, call.2.field? keys.keyField key = some value ∧
            graph.property? node keys.keyField = some (.bytes value)) ∧
      ∀ key, (∀ call ∈ calls, call.2.field? keys.keyField key = none) → ∀ node,
        node ∈ graph.nodesUnder keys key ↔
          graph.property? node keys.keyField = some (.text key) := by
  intro graph
  set covers := fun key value => ∃ call ∈ calls, call.2.field? keys.keyField key = some value
    with covers_eq
  have after := (unused.keyed covers).run (Nat.le_refl 1) calls room
    fun call member key value given => ⟨call, member, given⟩
  rcases after.engine id with ⟨next, keyed⟩
  have shown (node : NodeId) (key : String)
      (property : graph.property? node keys.keyField = some (.text key)) :
      node ∈ graph.nodesUnder keys key := by
    rcases keyed.entered node (Graph.hasNode_of_property? property) with ⟨other, member⟩
    rcases keyed.shows other node member with own | ⟨value, -, covered⟩
    · cases own.symm.trans property
      exact member
    · cases covered.symm.trans property
  have shows (key : String) (node : NodeId) (member : node ∈ graph.nodesUnder keys key) :
      graph.property? node keys.keyField = some (.text key) ∨
        ∃ call ∈ calls, ∃ value, call.2.field? keys.keyField key = some value ∧
          graph.property? node keys.keyField = some (.bytes value) := by
    rcases keyed.shows key node member with own | ⟨value, ⟨call, among, given⟩, covered⟩
    · exact .inl own
    · exact .inr ⟨call, among, value, given, covered⟩
  refine ⟨fun node there => ?_, shown, shows, fun key plain node => ⟨fun member => ?_, shown node key⟩⟩
  · rcases keyed.entered node there with ⟨key, member⟩
    exact ⟨key, member, fun other found => keyed.apart other key node found member⟩
  · rcases shows key node member with own | ⟨call, among, value, given, -⟩
    · exact own
    · cases (plain call among).symm.trans given

theorem unused_atOutset (binding : Binding) : (atOutset binding).Unused binding.keys where
  clients _ := ⟨rfl, rfl⟩
  engines engine member := by cases member
  fronts front member := by cases member
  holders registry member id held := by
    rw [List.mem_singleton.1 member] at held
    cases held
  files := FileTree.bears_empty Snapshot.fileName fun _ => False

/-- Two clients keep records under two keys. One of them is given a field in the place of its key, and
the other one shows its key after an update. -/
theorem keyed_run_covered :
    let calls : List (Nat × Request) := [(0, .init), (1, .insert "l" ∅),
      (0, .insert "k" ((∅ : FieldMap).insert "_id" [120])), (1, .init),
      (1, .insert "l" ((∅ : FieldMap).insert "f" [7])),
      (0, .update "l" ((∅ : FieldMap).insert "f" [9]))]
    let graph := (((atOutset {}).run calls).2.host.engine 0).graph
    graph.property? 1 "_id" = some (.bytes [120]) ∧
      graph.property? 2 "_id" = some (.text "l") ∧
      (∃! key, 1 ∈ graph.nodesUnder ({} : Binding).keys key) ∧
      ∀ node, node ∈ graph.nodesUnder ({} : Binding).keys "l" ↔
        graph.property? node "_id" = some (.text "l") := by
  intro calls graph
  rcases keyed_run (unused_atOutset {}) calls (by decide) 0 with ⟨single, -, -, agrees⟩
  refine ⟨by decide +kernel, by decide +kernel, single 1 (by decide +kernel), ?_⟩
  exact agrees "l" (by decide +kernel)

/-- A record that is stored with a field in the place of its key is under a key that it does not
show. -/
theorem key_drifts :
    let graph := (((atOutset {}).run [(0, .init),
      (0, .insert "k" ((∅ : FieldMap).insert "_id" [120]))]).2.host.engine 0).graph
    ¬ ∀ node key, node ∈ graph.nodesUnder ({} : Binding).keys key ↔
      graph.property? node "_id" = some (.text key) := by
  intro graph agrees
  have member : 1 ∈ graph.nodesUnder ({} : Binding).keys "k" := by decide +kernel
  have other : graph.property? 1 "_id" ≠ some (.text "k") := by decide +kernel
  exact other ((agrees 1 "k").1 member)

end Party

end RecordGraph
