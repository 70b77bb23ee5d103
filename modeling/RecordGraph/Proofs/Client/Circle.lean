import RecordGraph.Proofs.Client.Errand
import RecordGraph.Proofs.Registry

namespace RecordGraph

/-! Circles: embedded clients that share the engine of one registry. They come and go as they like,
and whatever fails meanwhile, the registry counts those that have a session, and holds an open engine
as long as there are any. -/

/-- Clients that count their engine in one registry, in the order in which they were made. Where a
client has been dropped, there is none any more. -/
structure Circle where
  place : RegistryId
  clients : List (Option Client) := []
  host : Host

namespace Circle

inductive Move where
  /-- A new client is made. -/
  | enter (binding : Binding) (embedded : binding.mode = .embedded)
  | init (who : Nat)
  | cleanup (who : Nat)
  /-- The client is dropped, and cleans up before it is gone. -/
  | drop (who : Nat)
  | errand (who : Nat) (errand : Errand)

def registry (circle : Circle) : Registry := circle.host.registry circle.place

def client? (who : Nat) (circle : Circle) : Option Client := circle.clients[who]?.join

def initialized (circle : Circle) : Nat :=
  circle.clients.countP fun client => client.any Client.isInitialized

def init (who : Nat) (circle : Circle) : Except Failure Unit × Circle :=
  match circle.client? who with
  | none => (.ok (), circle)
  | some client =>
      let (outcome, client, host) := client.init circle.host
      (outcome, { circle with clients := circle.clients.set who (some client), host })

def cleanup (who : Nat) (circle : Circle) : Circle :=
  match circle.client? who with
  | none => circle
  | some client =>
      let (client, host) := client.cleanup circle.host
      { circle with clients := circle.clients.set who (some client), host }

def step : Move → Circle → Circle
  | .enter binding _, circle =>
      { circle with clients := circle.clients ++ [some { binding, registry := circle.place }] }
  | .init who, circle => (circle.init who).2
  | .cleanup who, circle => circle.cleanup who
  | .drop who, circle =>
      let left := circle.cleanup who
      { left with clients := left.clients.set who none }
  | .errand who errand, circle =>
      match circle.client? who with
      | none => circle
      | some client => { circle with host := (client.carryOut errand circle.host).2 }

def run : List Move → Circle → Circle
  | [], circle => circle
  | move :: later, circle => run later (circle.step move)

/-- How often the first client is initialized while no other one is. -/
def starts : List Move → Circle → Nat
  | [], _ => 0
  | move :: later, circle =>
      (if circle.initialized = 0 ∧ (circle.step move).initialized = 1 then 1 else 0) +
        starts later (circle.step move)

variable {circle : Circle} {client : Client} {who : Nat}

/-! ## Counting -/

theorem clients_of_client? (found : circle.client? who = some client) :
    circle.clients[who]? = some (some client) := Option.join_eq_some_iff.1 found

theorem countP_set {clients : List (Option Client)} {old : Option Client}
    (found : clients[who]? = some old) (new : Option Client) (counts : Option Client → Bool) :
    (clients.set who new).countP counts + (if counts old then 1 else 0) =
      clients.countP counts + (if counts new then 1 else 0) := by
  rcases List.getElem?_eq_some_iff.1 found with ⟨inside, same⟩
  have least : (if counts clients[who] then 1 else 0) ≤ clients.countP counts :=
    List.boole_getElem_le_countP inside
  rw [List.countP_set inside, same] at *
  omega

/-! ## Circles in order -/

/-- If the client has a session, it uses the engine that is held, and finds its index there. -/
structure Belongs (place : RegistryId) (host : Host) (client : Client) : Prop where
  embedded : client.binding.mode = .embedded
  registry : client.registry = place
  session : ∀ connection, client.session = some connection →
    ∃ id, connection = .embedded id ∧ (host.registry place).engine = some id ∧
      (host.engine id).graph.hasIndex client.binding.index = true

structure Sound (circle : Circle) : Prop where
  registered : circle.place < circle.host.registries.length
  holders : circle.registry.holders = circle.initialized
  free : circle.registry.engine = none → circle.initialized = 0
  held : ∀ id, circle.registry.engine = some id → 0 < circle.initialized ∧
    id < circle.host.engines.length ∧ (circle.host.engine id).isClosed = false
  clients : ∀ client, some client ∈ circle.clients → Belongs circle.place circle.host client

/-- What one move does: it counts the openings, shuts down the engine that is held when the last
client leaves, and no other one, and leaves no engine open that is not held. -/
structure Goes (circle after : Circle) : Prop where
  opens : after.registry.opens = circle.registry.opens +
    (if circle.initialized = 0 ∧ after.initialized = 1 then 1 else 0)
  shut : ∀ id, (circle.host.engine id).isClosed = false →
    ((after.host.engine id).isClosed = true ↔
      circle.registry.engine = some id ∧ circle.initialized = 1 ∧ after.initialized = 0)
  added : ∀ id, circle.host.engines.length ≤ id →
    ((after.host.engine id).isClosed = false ↔ after.registry.engine = some id)

theorem Sound.acquire_cases (sound : circle.Sound) (binding : Binding) :
    Host.Acquires circle.place binding.index circle.host
      (circle.host.acquire circle.place binding) :=
  Host.acquire_cases circle.place binding fun id held => (sound.held id held).2

theorem Sound.belongs (sound : circle.Sound) (found : circle.client? who = some client) :
    Belongs circle.place circle.host client :=
  sound.clients client (List.mem_of_getElem? (clients_of_client? found))

theorem session_none_of_initialized (nobody : circle.initialized = 0)
    (member : some client ∈ circle.clients) : client.session = none := by
  have uninitialized := List.countP_eq_zero.1 nobody (some client) member
  rw [Option.any_some, Client.isInitialized, Option.not_isSome_iff_eq_none] at uninitialized
  exact uninitialized

/-! ## Moves that change no count -/

/-- The engines of the one host are still there in the other one, and what has been added is
closed. -/
structure Quiet (host later : Host) : Prop where
  registries : later.registries = host.registries
  length : host.engines.length ≤ later.engines.length
  grows : ∀ id, id < host.engines.length → (host.engine id).Grows (later.engine id)
  added : ∀ id, host.engines.length ≤ id → (later.engine id).isClosed = true

theorem quiet_refl (host : Host) : Quiet host host :=
  ⟨rfl, Nat.le_refl _, fun _ _ => Engine.grows_refl _, fun _ => Host.engine_absent⟩

theorem quiet_append (host : Host) (disk : Disk) {shut : List Engine}
    (closed : ∀ engine ∈ shut, engine.isClosed = true) :
    Quiet host { host with disk, engines := host.engines ++ shut } ∧
      ∀ id, id < host.engines.length →
        Host.engine id { host with disk, engines := host.engines ++ shut } = host.engine id := by
  have same (id : EngineId) (inside : id < host.engines.length) :
      Host.engine id { host with disk, engines := host.engines ++ shut } = host.engine id := by
    rw [Host.engine, Host.engine, List.getElem?_append_left inside]
  refine ⟨⟨rfl, by simp, fun id inside => ?_, fun id beyond => ?_⟩, same⟩
  · rw [same id inside]
    exact Engine.grows_refl _
  · rw [Host.engine, List.getElem?_append_right beyond]
    cases found : shut[id - host.engines.length]? with
    | none => rfl
    | some engine => exact closed engine (List.mem_of_getElem? found)

theorem quiet_setEngine {host : Host} {id : EngineId} {engine : Engine}
    (grows : (host.engine id).Grows engine) : Quiet host (host.setEngine id engine) := by
  refine ⟨rfl, by simp [Host.setEngine], fun other inside => ?_, fun other beyond => ?_⟩
  · by_cases same : id = other
    · rw [← same, Host.engine_setEngine (same ▸ inside)]
      exact grows
    · have kept : (host.setEngine id engine).engine other = host.engine other := by
        simp [Host.engine, Host.setEngine, same]
      rw [kept]
      exact Engine.grows_refl _
  · rw [Host.engine, List.getElem?_eq_none_iff.2 (by simpa [Host.setEngine] using beyond)]
    rfl

theorem Sound.goes_still (sound : circle.Sound) {after : Circle}
    (opens : after.registry.opens = circle.registry.opens)
    (engine : after.registry.engine = circle.registry.engine)
    (first : circle.initialized = 0 → after.initialized ≠ 1)
    (last : circle.initialized = 1 → after.initialized ≠ 0)
    (kept : ∀ id, id < circle.host.engines.length →
      (after.host.engine id).isClosed = (circle.host.engine id).isClosed)
    (added : ∀ id, circle.host.engines.length ≤ id → (after.host.engine id).isClosed = true) :
    Goes circle after where
  opens := by
    rw [opens, if_neg fun starts => first starts.1 starts.2]
    rfl
  shut id isOpen := by
    rw [kept id (Host.lt_of_isOpen isOpen), isOpen]
    constructor
    · intro closed
      cases closed
    · rintro ⟨-, one, none⟩
      exact absurd none (last one)
  added id beyond := by
    rw [added id beyond, engine]
    constructor
    · intro isOpen
      cases isOpen
    · intro held
      exact absurd (sound.held id held).2.1 (Nat.not_lt.2 beyond)

theorem Quiet.registry {later : Host} (quiet : Quiet circle.host later) :
    ({ circle with host := later } : Circle).registry = circle.registry := by
  rw [Circle.registry, Host.registry, quiet.registries]
  rfl

theorem Sound.quiet (sound : circle.Sound) {later : Host} (quiet : Quiet circle.host later) :
    Sound { circle with host := later } ∧ Goes circle { circle with host := later } := by
  have registry := quiet.registry
  constructor
  · exact {
      registered := by
        rw [quiet.registries]
        exact sound.registered
      holders := by
        rw [registry]
        exact sound.holders
      free := by
        rw [registry]
        exact sound.free
      held := by
        rw [registry]
        intro id held
        obtain ⟨some_, there, isOpen⟩ := sound.held id held
        exact ⟨some_, Nat.lt_of_lt_of_le there quiet.length,
          (quiet.grows id there).isClosed.trans isOpen⟩
      clients := fun client member => by
        have belongs := sound.clients client member
        refine ⟨belongs.embedded, belongs.registry, fun connection session => ?_⟩
        obtain ⟨id, embedded, held, indexed⟩ := belongs.session connection session
        have there := (sound.held id held).2.1
        exact ⟨id, embedded, (congrArg Registry.engine registry).trans held,
          (quiet.grows id there).indexes _ indexed⟩ }
  · refine sound.goes_still (by rw [registry]) (by rw [registry]) (fun none => ?_) (fun one => ?_)
      (fun id there => (quiet.grows id there).isClosed) quiet.added
    · exact fun one => Nat.zero_ne_one (none.symm.trans one)
    · exact fun none => Nat.one_ne_zero (one.symm.trans none)

theorem Sound.enter (sound : circle.Sound) (binding : Binding)
    (embedded : binding.mode = .embedded) :
    (circle.step (.enter binding embedded)).Sound ∧
      Goes circle (circle.step (.enter binding embedded)) := by
  have count : (circle.step (.enter binding embedded)).initialized = circle.initialized := by
    simp [step, initialized, Client.isInitialized]
  constructor
  · refine ⟨sound.registered, sound.holders.trans count.symm, fun free => ?_, fun id held => ?_,
      fun client member => ?_⟩
    · rw [count]
      exact sound.free free
    · rw [count]
      exact sound.held id held
    · rcases List.mem_append.1 member with old | new
      · exact sound.clients client old
      · rw [Option.some.inj (List.mem_singleton.1 new)]
        exact ⟨embedded, rfl, fun connection none => by cases none⟩
  · refine sound.goes_still rfl rfl (fun none => ?_) (fun one => ?_) (fun id there => rfl)
      fun id => Host.engine_absent
    · rw [count, none]
      exact Nat.zero_ne_one
    · rw [count, one]
      exact Nat.one_ne_zero

/-! ## Joining -/

/-- What can come of an initialization: the client has a session already, or it stays without one and
nothing that counts has changed, or it gets an engine. -/
theorem Sound.init_cases (sound : circle.Sound) (who : Nat) :
    circle.init who = (.ok (), circle) ∨
      (∃ failure client later, circle.client? who = some client ∧ client.session = none ∧
        Quiet circle.host later ∧
        (∀ id, id < circle.host.engines.length → later.engine id = circle.host.engine id) ∧
        circle.init who = (.error failure, { circle with host := later })) ∨
      ∃ client id later, circle.client? who = some client ∧ client.session = none ∧
        Host.Acquires circle.place client.binding.index circle.host (.ok id, later) ∧
        circle.init who = (.ok (), { circle with
          clients := circle.clients.set who (some { client with session := some (.embedded id) })
          host := later }) := by
  rw [init]
  cases found : circle.client? who with
  | none => exact .inl rfl
  | some client =>
      have belongs := sound.belongs found
      have still : circle.clients.set who (some client) = circle.clients := by
        rcases List.getElem?_eq_some_iff.1 (clients_of_client? found) with ⟨inside, same⟩
        rw [← same, List.set_getElem_self]
      dsimp only
      rw [Client.init]
      cases session : client.session with
      | some connection =>
          refine .inl ?_
          rw [Client.isInitialized, session]
          simp [still]
      | none =>
          refine .inr ?_
          rw [Client.isInitialized, session]
          cases client.binding.validate with
          | error fault =>
              refine .inl ⟨Client.refused fault, client, circle.host, rfl, session,
                quiet_refl _, fun id _ => rfl, ?_⟩
              simp [still]
          | ok done =>
              have acquires := sound.acquire_cases client.binding
              have isRemote : client.binding.mode.isRemote = false := by rw [belongs.embedded]; rfl
              simp only [Option.isSome_none, Bool.false_eq_true, if_false, Host.connectBy,
                isRemote, belongs.registry]
              rcases acquiring : circle.host.acquire circle.place client.binding with
                ⟨failure | id, later⟩
              all_goals rw [acquiring] at acquires
              · cases acquires with
                | refused _ disk shut closed =>
                    obtain ⟨quiet, same⟩ := quiet_append circle.host disk closed
                    refine .inl ⟨failure, client, _, rfl, session, quiet, same, ?_⟩
                    simp [Except.map, still]
              · refine .inr ⟨client, id, later, rfl, session, acquires, ?_⟩
                simp [Except.map, belongs.registry]

structure Joined (place : RegistryId) (index : String) (id : EngineId) (host later : Host) :
    Prop where
  registered : later.registries.length = host.registries.length
  engine : (later.registry place).engine = some id
  holders : (later.registry place).holders = (host.registry place).holders + 1
  there : id < later.engines.length
  isOpen : (later.engine id).isClosed = false
  provisioned : (later.engine id).graph.hasIndex index = true
  grows : ∀ own, (host.registry place).engine = some own →
    own = id ∧ (host.engine own).Grows (later.engine own)
  opens : (later.registry place).opens = (host.registry place).opens +
    (if (host.registry place).engine = none then 1 else 0)
  kept : ∀ own, own < host.engines.length →
    (later.engine own).isClosed = (host.engine own).isClosed
  added : ∀ own, host.engines.length ≤ own → ((later.engine own).isClosed = false ↔ id = own)

theorem initialized_join {circle after : Circle} {id : EngineId}
    (found : circle.client? who = some client) (session : client.session = none)
    (clients : after.clients =
      circle.clients.set who (some { client with session := some (.embedded id) })) :
    after.initialized = circle.initialized + 1 := by
  have counted := countP_set (clients_of_client? found)
    (some { client with session := some (.embedded id) })
    fun client => client.any Client.isInitialized
  rw [initialized, clients]
  simpa [Client.isInitialized, session, initialized] using counted

theorem Sound.join {circle after : Circle} {id : EngineId} (sound : circle.Sound)
    (found : circle.client? who = some client) (session : client.session = none)
    (place : after.place = circle.place) (clients : after.clients =
      circle.clients.set who (some { client with session := some (.embedded id) }))
    (joined : Joined circle.place client.binding.index id circle.host after.host) :
    after.Sound := by
  have count := initialized_join found session clients
  have registry : after.registry = after.host.registry circle.place := by
    rw [Circle.registry, place]
  refine ⟨?_, ?_, fun free => ?_, fun own held => ?_, fun other member => ?_⟩
  · rw [place, joined.registered]
    exact sound.registered
  · rw [registry, joined.holders, count, ← sound.holders]
    rfl
  · rw [registry, joined.engine] at free
    cases free
  · rw [registry, joined.engine] at held
    cases held
    exact ⟨by omega, joined.there, joined.isOpen⟩
  · rw [place]
    rw [clients] at member
    rcases List.mem_or_eq_of_mem_set member with old | new
    · have belongs := sound.clients other old
      refine ⟨belongs.embedded, belongs.registry, fun connection session => ?_⟩
      obtain ⟨own, embedded, held, indexed⟩ := belongs.session connection session
      obtain ⟨rfl, grows⟩ := joined.grows own held
      exact ⟨own, embedded, joined.engine, grows.indexes _ indexed⟩
    · rw [Option.some.inj new]
      have belongs := sound.belongs found
      refine ⟨belongs.embedded, belongs.registry, fun connection own => ?_⟩
      exact ⟨id, (Option.some.inj own).symm, joined.engine, joined.provisioned⟩

theorem Sound.goes_join {circle after : Circle} {id : EngineId} (sound : circle.Sound)
    (found : circle.client? who = some client) (session : client.session = none)
    (place : after.place = circle.place) (clients : after.clients =
      circle.clients.set who (some { client with session := some (.embedded id) }))
    (joined : Joined circle.place client.binding.index id circle.host after.host) :
    Goes circle after := by
  have count := initialized_join found session clients
  have registry : after.registry = after.host.registry circle.place := by
    rw [Circle.registry, place]
  refine ⟨?_, fun own isOpen => ?_, fun own beyond => ?_⟩
  · rw [registry, joined.opens, count]
    congr 1
    cases held : (circle.host.registry circle.place).engine with
    | none => simp [sound.free held]
    | some own =>
        have somebody := (sound.held own held).1
        rw [if_neg (Option.some_ne_none own), if_neg (by omega)]
  · rw [joined.kept own (Host.lt_of_isOpen isOpen), isOpen, count]
    constructor
    · intro closed
      cases closed
    · rintro ⟨-, -, none⟩
      omega
  · rw [registry, joined.engine, joined.added own beyond, Option.some.injEq]

private theorem Sound.joined_shared (sound : circle.Sound) {index : String} {id : EngineId}
    {ready : Engine} (held : circle.registry.engine = some id)
    (grows : (circle.host.engine id).Grows ready)
    (provisioned : ready.graph.hasIndex index = true) :
    Joined circle.place index id circle.host ((circle.host.setEngine id ready).setRegistry
      circle.place { engine := some id, holders := circle.registry.holders + 1
                     opens := circle.registry.opens }) := by
  obtain ⟨-, there, isOpen⟩ := sound.held id held
  have quiet := quiet_setEngine grows
  set shared := circle.host.setEngine id ready
  have same : shared.engine id = ready := Host.engine_setEngine there ready
  have registry (registry : Registry) :
      (shared.setRegistry circle.place registry).registry circle.place = registry :=
    Host.registry_setRegistry sound.registered registry
  exact {
    registered := Host.length_setRegistry _
    engine := by rw [registry]
    holders := by
      rw [registry]
      rfl
    there := there.trans_le quiet.length
    isOpen := (quiet.grows id there).isClosed.trans isOpen
    provisioned := (congrArg (fun engine : Engine => engine.graph.hasIndex index) same).trans
      provisioned
    grows := fun own other => by
      obtain rfl : id = own := Option.some.inj (held.symm.trans other)
      exact ⟨rfl, quiet.grows id there⟩
    opens := by
      rw [registry, ← Circle.registry, held, if_neg (Option.some_ne_none id)]
      rfl
    kept := fun own inside => (quiet.grows own inside).isClosed
    added := fun own beyond => by
      have closed : ¬ (shared.engine own).isClosed = false := by
        rw [quiet.added own beyond]
        exact Bool.false_ne_true.symm
      exact ⟨fun isOpen => absurd isOpen closed, fun same => absurd there (Nat.not_lt.2 (same ▸ beyond))⟩ }

private theorem joined_opened {place : RegistryId} {index : String} {host : Host}
    (registered : place < host.registries.length) {ready : Engine} {disk : Disk}
    (free : (host.registry place).engine = none) (isOpen : ready.isClosed = false)
    (provisioned : ready.graph.hasIndex index = true) :
    Joined place index host.engines.length host
      (({ host with disk, engines := host.engines ++ [ready] } : Host).setRegistry place
        { engine := some host.engines.length, holders := (host.registry place).holders + 1
          opens := (host.registry place).opens + 1 }) := by
  set opened : Host := { host with disk, engines := host.engines ++ [ready] }
  have last : opened.engine host.engines.length = ready := by simp [Host.engine, opened]
  have registry (registry : Registry) :
      (opened.setRegistry place registry).registry place = registry :=
    Host.registry_setRegistry registered registry
  exact {
    registered := Host.length_setRegistry _
    engine := by rw [registry]
    holders := by rw [registry]
    there := by simp [Host.setRegistry, opened]
    isOpen := (congrArg Engine.isClosed last).trans isOpen
    provisioned := (congrArg (fun engine : Engine => engine.graph.hasIndex index) last).trans
      provisioned
    grows := fun own held => by
      rw [free] at held
      cases held
    opens := by rw [registry, if_pos free]
    kept := fun own inside => by
      have same : opened.engine own = host.engine own := by
        simp [Host.engine, opened, List.getElem?_append_left inside]
      exact congrArg Engine.isClosed same
    added := fun own beyond => by
      rcases Nat.eq_or_lt_of_le beyond with rfl | after
      · exact ⟨fun _ => rfl, fun _ => (congrArg Engine.isClosed last).trans isOpen⟩
      · have absent : (opened.engine own).isClosed = true :=
          Host.engine_absent (by simp [opened]; omega)
        have closed : ¬ (opened.engine own).isClosed = false := by
          rw [absent]
          exact Bool.false_ne_true.symm
        exact ⟨fun isOpen => absurd isOpen closed, fun same => absurd same (Nat.ne_of_lt after)⟩ }

theorem Sound.joined (sound : circle.Sound) {index : String} {id : EngineId} {later : Host}
    (acquires : Host.Acquires circle.place index circle.host (.ok id, later)) :
    Joined circle.place index id circle.host later := by
  cases acquires with
  | shared _ ready held grows provisioned => exact sound.joined_shared held grows provisioned
  | opened ready disk free isOpen provisioned =>
      exact joined_opened sound.registered free isOpen provisioned

/-! ## Leaving -/

theorem initialized_leave {circle after : Circle} {connection : Connection}
    (found : circle.client? who = some client) (session : client.session = some connection)
    (clients : after.clients = circle.clients.set who (some { client with session := none })) :
    after.initialized + 1 = circle.initialized := by
  have counted := countP_set (clients_of_client? found) (some { client with session := none })
    fun client => client.any Client.isInitialized
  rw [initialized, clients]
  simpa [Client.isInitialized, session, initialized] using counted

theorem Sound.cleanup_cases (sound : circle.Sound) (who : Nat) :
    circle.cleanup who = circle ∨
      ∃ client connection, circle.client? who = some client ∧ client.session = some connection ∧
        circle.cleanup who = { circle with
          clients := circle.clients.set who (some { client with session := none })
          host := circle.host.release circle.place } := by
  rw [cleanup]
  cases found : circle.client? who with
  | none => exact .inl rfl
  | some client =>
      have belongs := sound.belongs found
      dsimp only
      rw [Client.cleanup]
      cases session : client.session with
      | none =>
          refine .inl ?_
          rcases List.getElem?_eq_some_iff.1 (clients_of_client? found) with ⟨inside, same⟩
          dsimp only
          rw [← same, List.set_getElem_self]
      | some connection =>
          refine .inr ⟨client, connection, rfl, session, ?_⟩
          obtain ⟨id, rfl, -⟩ := belongs.session connection session
          dsimp only
          rw [Host.disconnect, belongs.registry]

theorem belongs_uninitialized {place : RegistryId} {host later : Host}
    (belongs : Belongs place host client) :
    Belongs place later { client with session := none } :=
  ⟨belongs.embedded, belongs.registry, fun connection session => by cases session⟩

private theorem Sound.leave_last {connection : Connection} (sound : circle.Sound)
    (found : circle.client? who = some client) (session : client.session = some connection)
    (one : circle.initialized = 1) :
    let after : Circle := { circle with
      clients := circle.clients.set who (some { client with session := none })
      host := circle.host.release circle.place }
    after.Sound ∧ Goes circle after := by
  intro after
  have nobody : after.initialized = 0 := by
    have less : after.initialized + 1 = circle.initialized := initialized_leave found session rfl
    omega
  obtain ⟨id, held⟩ : ∃ id, circle.registry.engine = some id := by
    cases engine : circle.registry.engine with
    | none => exact absurd (sound.free engine) (by omega)
    | some id => exact ⟨id, rfl⟩
  have there := (sound.held id held).2.1
  have gone := (Engine.frame_shutdown (circle.host.engine id) circle.host.disk).1
  rcases shutting : (circle.host.engine id).shutdown circle.host.disk with ⟨outcome, shut, disk⟩
  rw [shutting] at gone
  have host : after.host = _ := Host.release_last held (sound.holders.trans one) shutting
  have registry : after.registry = { circle.registry with holders := 0, engine := none } := by
    rw [Circle.registry, host]
    simp [Host.registry, after, sound.registered, Circle.registry]
  have engine (own : EngineId) (inside : own < circle.host.engines.length) :
      after.host.engine own = if id = own then shut else circle.host.engine own := by
    rw [host, Host.engine, List.getElem?_set]
    split
    · rfl
    · rfl
  have length : after.host.engines.length = circle.host.engines.length := by
    rw [host, List.length_set]
  constructor
  · refine ⟨?_, ?_, fun _ => nobody, fun own other => ?_, fun other member => ?_⟩
    · rw [host, List.length_set]
      exact sound.registered
    · rw [registry, nobody]
    · rw [registry] at other
      cases other
    · have none := session_none_of_initialized nobody member
      rcases List.mem_or_eq_of_mem_set member with old | new
      · have belongs := sound.clients other old
        refine ⟨belongs.embedded, belongs.registry, fun connection own => ?_⟩
        rw [none] at own
        cases own
      · rw [Option.some.inj new]
        exact belongs_uninitialized (sound.belongs found)
  · refine ⟨?_, fun own isOpen => ?_, fun own beyond => ?_⟩
    · rw [registry, if_neg (by omega)]
      rfl
    · rw [engine own (Host.lt_of_isOpen isOpen), held]
      split
      · rename_i same
        exact ⟨fun _ => ⟨congrArg some same, one, nobody⟩, fun _ => gone⟩
      · rename_i different
        rw [isOpen]
        exact ⟨fun closed => absurd closed Bool.false_ne_true,
          fun same => absurd (Option.some.inj same.1) different⟩
    · rw [Host.engine_absent (length ▸ beyond), registry]
      exact ⟨fun isOpen => absurd isOpen Bool.false_ne_true.symm,
        fun held => absurd held.symm (Option.some_ne_none own)⟩

private theorem Sound.leave_other {connection : Connection} (sound : circle.Sound)
    (found : circle.client? who = some client) (session : client.session = some connection)
    {others : Nat} (more : circle.initialized = others + 2) :
    let after : Circle := { circle with
      clients := circle.clients.set who (some { client with session := none })
      host := circle.host.release circle.place }
    after.Sound ∧ Goes circle after := by
  intro after
  have count : after.initialized = others + 1 := by
    have less : after.initialized + 1 = circle.initialized := initialized_leave found session rfl
    omega
  have host : after.host = circle.host.setRegistry circle.place _ :=
    Host.release_other (sound.holders.trans more)
  have registry : after.registry = { circle.registry with holders := others + 1 } := by
    rw [Circle.registry, host]
    exact Host.registry_setRegistry sound.registered _
  have same (id : EngineId) : after.host.engine id = circle.host.engine id := by
    rw [host]
    rfl
  constructor
  · refine ⟨?_, ?_, fun free => ?_, fun id held => ?_, fun other member => ?_⟩
    · rw [host, Host.length_setRegistry]
      exact sound.registered
    · rw [registry, count]
    · rw [registry] at free
      have none := sound.free free
      omega
    · rw [registry] at held
      obtain ⟨-, there, isOpen⟩ := sound.held id held
      rw [same, count, host]
      exact ⟨Nat.succ_pos others, there, isOpen⟩
    · rcases List.mem_or_eq_of_mem_set member with old | new
      · have belongs := sound.clients other old
        refine ⟨belongs.embedded, belongs.registry, fun connection own => ?_⟩
        obtain ⟨id, embedded, held, indexed⟩ := belongs.session connection own
        refine ⟨id, embedded, (congrArg Registry.engine registry).trans held, ?_⟩
        rw [same]
        exact indexed
      · rw [Option.some.inj new]
        exact belongs_uninitialized (sound.belongs found)
  · refine sound.goes_still (by rw [registry]) (by rw [registry]) (fun none => ?_) (fun one => ?_)
      (fun id _ => by rw [same]) fun id beyond => ?_
    · omega
    · omega
    · rw [same]
      exact Host.engine_absent beyond

theorem goes_refl (sound : circle.Sound) : Goes circle circle :=
  sound.goes_still rfl rfl (fun none one => Nat.zero_ne_one (none.symm.trans one))
    (fun one none => Nat.one_ne_zero (one.symm.trans none)) (fun _ _ => rfl)
    fun _ => Host.engine_absent

theorem Sound.cleanup (sound : circle.Sound) (who : Nat) :
    (circle.cleanup who).Sound ∧ Goes circle (circle.cleanup who) := by
  rcases sound.cleanup_cases who with same | ⟨client, connection, found, session, cleaned⟩
  · rw [same]
    exact ⟨sound, goes_refl sound⟩
  · rw [cleaned]
    set left : Circle := { circle with
      clients := circle.clients.set who (some { client with session := none })
      host := circle.host.release circle.place }
    have less : left.initialized + 1 = circle.initialized := initialized_leave found session rfl
    match count : circle.initialized with
    | 0 => omega
    | 1 => exact sound.leave_last found session count
    | others + 2 => exact sound.leave_other found session count

/-! ## Moves -/

theorem Sound.init (sound : circle.Sound) (who : Nat) :
    (circle.init who).2.Sound ∧ Goes circle (circle.init who).2 := by
  rcases sound.init_cases who with
    same | ⟨failure, client, later, -, -, quiet, -, outcome⟩ |
      ⟨client, id, later, found, session, acquires, outcome⟩
  · rw [same]
    exact ⟨sound, goes_refl sound⟩
  · rw [outcome]
    exact sound.quiet quiet
  · rw [outcome]
    have joined := sound.joined acquires
    exact ⟨sound.join found session rfl rfl joined, sound.goes_join found session rfl rfl joined⟩

theorem Sound.forget (sound : circle.Sound)
    (uninitialized : ∀ client, circle.client? who = some client → client.session = none) :
    let after : Circle := { circle with clients := circle.clients.set who none }
    after.Sound ∧ after.initialized = circle.initialized := by
  intro after
  have count : after.initialized = circle.initialized := by
    cases found : circle.clients[who]? with
    | none =>
        have same : after.clients = circle.clients :=
          List.set_eq_of_length_le (List.getElem?_eq_none_iff.1 found)
        rw [initialized, initialized, same]
    | some old =>
        have counted := countP_set found none fun client => client.any Client.isInitialized
        have idle : old.any Client.isInitialized = false := by
          cases old with
          | none => rfl
          | some client =>
              have absent := uninitialized client (by rw [client?, found]; rfl)
              rw [Option.any_some, Client.isInitialized, absent]
              rfl
        simpa [initialized, idle] using counted
  refine ⟨⟨sound.registered, sound.holders.trans count.symm, fun free => ?_, fun id held => ?_,
    fun other member => ?_⟩, count⟩
  · rw [count]
    exact sound.free free
  · rw [count]
    exact sound.held id held
  · rcases List.mem_or_eq_of_mem_set member with old | new
    · exact sound.clients other old
    · cases new

theorem session_cleanup (found : (circle.cleanup who).client? who = some client) :
    client.session = none := by
  rw [cleanup] at found
  cases before : circle.client? who with
  | none =>
      rw [before] at found
      cases before.symm.trans found
  | some old =>
      rw [before] at found
      have inside := (List.getElem?_eq_some_iff.1 (clients_of_client? before)).1
      have same : (old.cleanup circle.host).1 = client := by
        simpa [client?, inside] using found
      rw [← same, Client.cleanup]
      cases session : old.session with
      | none => exact session
      | some connection => rfl

theorem Sound.drop (sound : circle.Sound) (who : Nat) :
    (circle.step (.drop who)).Sound ∧ Goes circle (circle.step (.drop who)) := by
  obtain ⟨left, goes⟩ := sound.cleanup who
  obtain ⟨gone, count⟩ := left.forget fun client => session_cleanup
  exact ⟨gone, count ▸ goes.opens, fun id => count ▸ goes.shut id, goes.added⟩

theorem Sound.errand (sound : circle.Sound) (who : Nat) (errand : Errand) :
    (circle.step (.errand who errand)).Sound ∧ Goes circle (circle.step (.errand who errand)) := by
  rw [step]
  cases found : circle.client? who with
  | none => exact ⟨sound, goes_refl sound⟩
  | some client =>
      apply sound.quiet
      rw [Client.carryOut_eq, Client.converse]
      cases session : client.session with
      | none => exact quiet_refl circle.host
      | some connection =>
          obtain ⟨id, rfl, held, -⟩ := (sound.belongs found).session connection session
          dsimp only
          rw [Host.converse_embedded (sound.held id held).2.1]
          exact quiet_setEngine (Engine.grows_run _ _)

theorem Sound.step (sound : circle.Sound) (move : Move) :
    (circle.step move).Sound ∧ Goes circle (circle.step move) := by
  cases move with
  | enter binding embedded => exact sound.enter binding embedded
  | init who => exact sound.init who
  | cleanup who => exact sound.cleanup who
  | drop who => exact sound.drop who
  | errand who errand => exact sound.errand who errand

theorem Sound.run (sound : circle.Sound) (moves : List Move) :
    (circle.run moves).Sound ∧
      (circle.run moves).registry.opens = circle.registry.opens + circle.starts moves := by
  induction moves generalizing circle with
  | nil => exact ⟨sound, rfl⟩
  | cons move later induction =>
      obtain ⟨stepped, goes⟩ := sound.step move
      obtain ⟨reached, opens⟩ := induction stepped
      refine ⟨reached, opens.trans ?_⟩
      rw [goes.opens, starts, Nat.add_assoc]

theorem sound_alone {host : Host} {place : RegistryId}
    (registered : place < host.registries.length) (unused : host.registry place = {}) :
    Sound { place, host } where
  registered := registered
  holders := congrArg Registry.holders unused
  free _ := rfl
  held id held := by
    rw [Circle.registry, unused] at held
    cases held
  clients client member := by cases member

/-- Embedded clients share one registry that has not been used before. However they are made,
initialized, cleaned up, asked for records and dropped, and whatever fails on the disk: the registry
counts those that are initialized, it holds an engine if there are any, and this engine is open; all
of them use it and find their indexes there; and openings are counted where the first client starts.
An initialization that fails leaves the client as it is, and the count and the engine as well. No
engine is shut down but the one that is held, when the last client leaves, and none is left open that
is not held. -/
theorem run_counts {host : Host} {place : RegistryId} (registered : place < host.registries.length)
    (unused : host.registry place = {}) (moves : List Move) :
    let start : Circle := { place, host }
    let circle := start.run moves
    circle.registry.holders = circle.initialized ∧
      (circle.registry.engine.isSome = true ↔ 0 < circle.initialized) ∧
      (∀ id, circle.registry.engine = some id → (circle.host.engine id).isClosed = false) ∧
      (∀ client, some client ∈ circle.clients → client.isInitialized = true →
        ∃ id, circle.registry.engine = some id ∧ client.session = some (.embedded id) ∧
          (circle.host.engine id).graph.hasIndex client.binding.index = true) ∧
      circle.registry.opens = start.starts moves ∧
      (∀ who failure after, circle.init who = (.error failure, after) →
        after.clients = circle.clients ∧ after.registry = circle.registry ∧
        (∃ client, circle.client? who = some client ∧ client.isInitialized = false) ∧
        ∀ id, circle.registry.engine = some id → after.host.engine id = circle.host.engine id) ∧
      ∀ move, let after := circle.step move
        (∀ id, (circle.host.engine id).isClosed = false →
          ((after.host.engine id).isClosed = true ↔
            circle.registry.engine = some id ∧ circle.initialized = 1 ∧ after.initialized = 0)) ∧
        ∀ id, circle.host.engines.length ≤ id →
          ((after.host.engine id).isClosed = false ↔ after.registry.engine = some id) := by
  intro start circle
  obtain ⟨sound, opens⟩ := (sound_alone registered unused).run moves
  refine ⟨sound.holders, ?_, fun id held => (sound.held id held).2.2, fun client member ready => ?_,
    ?_, fun who failure after failed => ?_, fun move => ?_⟩
  · cases held : circle.registry.engine with
    | none => simp [sound.free held, circle, start]
    | some id => simpa using (sound.held id held).1
  · obtain ⟨connection, session⟩ := Option.isSome_iff_exists.1 ready
    obtain ⟨id, rfl, held, indexed⟩ := (sound.clients client member).session connection session
    exact ⟨id, held, session, indexed⟩
  · have none : start.registry.opens = 0 := congrArg Registry.opens unused
    rw [opens, none, Nat.zero_add]
  · rcases sound.init_cases who with
      done | ⟨_, client, later, found, session, quiet, same, outcome⟩ | ⟨_, _, _, -, -, -, done⟩
    · cases failed.symm.trans done
    · cases failed.symm.trans outcome
      refine ⟨rfl, quiet.registry, ⟨client, found, ?_⟩, fun id held => ?_⟩
      · rw [Client.isInitialized, session]
        rfl
      · exact same id (sound.held id held).2.1
    · cases failed.symm.trans done
  · have goes := (sound.step move).2
    exact ⟨goes.shut, goes.added⟩

/-- The directory of the first client cannot be made when it is initialized, and the third client
has no name for its index. -/
def comings : List Move := [
  .enter { url := "/g" } rfl,
  .enter { url := "/h", index := "other" } rfl,
  .enter { url := "/g", index := "" } rfl,
  .init 0, .init 0, .init 0, .init 1, .init 2,
  .errand 1 (.insert "k" ∅),
  .cleanup 0, .cleanup 0, .drop 0, .cleanup 1, .init 0, .init 1]

theorem run_counts_comings :
    let host : Host := { disk := { mishaps := [some 0] }, registries := [{}] }
    let start : Circle := { place := 0, host }
    let circle := start.run comings
    circle.registry = { engine := some 1, holders := 1, opens := 2 } ∧
      circle.registry.holders = circle.initialized ∧
      circle.registry.opens = start.starts comings ∧
      (circle.host.engine 0).isClosed = true ∧ (circle.host.engine 1).isClosed = false := by
  intro host start circle
  have registered : 0 < host.registries.length := by decide
  obtain ⟨counted, -, isOpen, -, opened, -⟩ := run_counts registered rfl comings
  have registry : circle.registry = { engine := some 1, holders := 1, opens := 2 } := by
    decide +kernel
  exact ⟨registry, counted, opened, by decide +kernel, isOpen 1 (congrArg Registry.engine registry)⟩

end Circle

end RecordGraph
