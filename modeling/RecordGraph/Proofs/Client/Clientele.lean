import RecordGraph.Proofs.Hosting

namespace RecordGraph

/-! The clients of a service. Each of them has something to do and goes on with it request by
request, while the others do so as well, and the engine may be shut down at any time. The table of
the service has a transaction only as long as the client that has begun it is in the midst of an
errand. -/

inductive Pursuit where
  /-- The client is being initialized. It has a link, and is going to make sure of its index. -/
  | provisioning (link : LinkId)
  | errand (errand : Errand) (rest : Dialogue errand.Result)

namespace Pursuit

def transaction? : Pursuit → Option TransactionId
  | provisioning _ => none
  | errand _ rest => rest.transaction?

def ofRest (errand : Errand) : Dialogue errand.Result → Option Pursuit
  | .finished _ => none
  | .asking call next => some (.errand errand (.asking call next))

end Pursuit

structure Patron where
  client : Client
  /-- The client is in the midst of nothing between its calls. -/
  pursuit : Option Pursuit := none

def Patron.transaction? (patron : Patron) : Option TransactionId :=
  patron.pursuit.bind Pursuit.transaction?

structure Clientele where
  service : ServiceId
  host : Host
  patrons : List Patron := []
  /-- The client whose request has put a transaction into the table, the last time that one has. -/
  beginner : TransactionId → Option Nat := fun _ => none

namespace Clientele

inductive Move where
  /-- A new client is made. -/
  | enter (binding : Binding) (registry : RegistryId) (remote : binding.mode.isRemote = true)
  /-- A client connects to its service. -/
  | init (who : Nat)
  /-- A client is given an errand. -/
  | errand (who : Nat) (errand : Errand)
  /-- A client makes its next request. -/
  | advance (who : Nat)
  | cleanup (who : Nat)
  /-- An engine is shut down. -/
  | shutDown (id : EngineId)

def proceed (who : Nat) (patron : Patron) (host : Host) (clientele : Clientele) : Clientele :=
  { clientele with
    host
    patrons := clientele.patrons.set who patron
    beginner := fun transaction =>
      if transaction ∈ (host.table clientele.service).transactions ∧
          transaction ∉ (clientele.host.table clientele.service).transactions then some who
      else clientele.beginner transaction }

/-- Whoever is in the midst of something starts nothing else. -/
def step : Move → Clientele → Clientele
  | .enter binding registry _, clientele =>
      { clientele with patrons := clientele.patrons ++ [{ client := { binding, registry } }] }
  | .init who, clientele =>
      match clientele.patrons[who]? with
      | some ⟨client, none⟩ =>
          if client.isInitialized then clientele
          else match client.binding.validate with
            | .error _ => clientele
            | .ok () => match clientele.host.connect client.binding.url with
                | (.error _, host) => clientele.proceed who ⟨client, none⟩ host
                | (.ok link, host) =>
                    clientele.proceed who ⟨client, some (.provisioning link)⟩ host
      | _ => clientele
  | .errand who errand, clientele =>
      match clientele.patrons[who]? with
      | some ⟨client, none⟩ =>
          if client.isInitialized then
            let pursuit := Pursuit.ofRest errand (errand.dialogue client.binding)
            clientele.proceed who ⟨client, pursuit⟩ clientele.host
          else clientele
      | _ => clientele
  | .advance who, clientele =>
      match clientele.patrons[who]? with
      | some ⟨client, some (.provisioning link)⟩ =>
          match clientele.host.converse (.remote link) (provisionIndex client.binding.index) with
          | (.error _, host) => clientele.proceed who ⟨client, none⟩ host
          | (.ok (), host) =>
              clientele.proceed who ⟨{ client with session := some (.remote link) }, none⟩ host
      | some ⟨client, some (.errand errand (.asking call next))⟩ =>
          match client.session with
          | none => clientele
          | some connection =>
              let (answer, host) := clientele.host.perform connection call
              clientele.proceed who ⟨client, Pursuit.ofRest errand (next answer)⟩ host
      | _ => clientele
  | .cleanup who, clientele =>
      match clientele.patrons[who]? with
      | some ⟨client, none⟩ =>
          let (client, host) := client.cleanup clientele.host
          clientele.proceed who ⟨client, none⟩ host
      | _ => clientele
  | .shutDown id, clientele => { clientele with host := (clientele.host.shutdownEngine id).2 }

def run : List Move → Clientele → Clientele
  | [], clientele => clientele
  | move :: later, clientele => run later (clientele.step move)

variable {clientele : Clientele}

theorem service_step (move : Move) : (clientele.step move).service = clientele.service := by
  cases move with
  | enter binding registry remote => rfl
  | shutDown id => rfl
  | _ =>
      rw [step]
      repeat' split
      all_goals rfl

theorem service_run (moves : List Move) : (clientele.run moves).service = clientele.service := by
  induction moves generalizing clientele with
  | nil => rfl
  | cons move later induction => exact induction.trans (service_step move)

end Clientele

/-! ## Clients in order -/

namespace Patron

/-- The client uses links to places below the root of the service, or has yet to find out that its
own does not lead there; and it has one transaction at a time. -/
structure Connected (origin : String) (host : Host) (patron : Patron) : Prop where
  session : ∀ connection, patron.client.session = some connection → ∃ link found,
    connection = .remote link ∧ host.links[link]? = some found ∧ Http.Grounded found.base ∧
      found.base.origin = origin
  provisioning : ∀ link, patron.pursuit = some (.provisioning link) → ∃ found before,
    host.links[link]? = some found ∧ Http.Divided before found.base ∧ found.base.origin = origin
  errand : ∀ errand rest, patron.pursuit = some (.errand errand rest) →
    rest.Within rest.transaction?

variable {origin : String} {host later : Host} {patron : Patron}

theorem Connected.keepsLinks (connected : patron.Connected origin host)
    (keeps : host.KeepsLinks later) : patron.Connected origin later where
  session connection session := by
    rcases connected.session connection session with ⟨link, found, remote, there, grounded, own⟩
    rcases keeps link found there with ⟨other, after, base⟩
    exact ⟨link, other, remote, after, base ▸ grounded, base ▸ own⟩
  provisioning link pursuit := by
    rcases connected.provisioning link pursuit with ⟨found, before, there, divided, own⟩
    rcases keeps link found there with ⟨other, after, base⟩
    exact ⟨other, before, after, base ▸ divided, base ▸ own⟩
  errand := connected.errand

end Patron

namespace Pursuit

variable {errand : Errand} {rest : Dialogue errand.Result} {own : Option TransactionId}

theorem transaction?_ofRest (within_ : rest.Within own) :
    (ofRest errand rest).bind transaction? = own := by
  cases rest with
  | finished outcome => exact Eq.symm within_
  | asking call next => exact within_.1

theorem within_ofRest (within_ : rest.Within own) {other : Errand}
    {more : Dialogue other.Result} (same : ofRest errand rest = some (.errand other more)) :
    more.Within more.transaction? := by
  cases rest with
  | finished outcome => cases same
  | asking call next =>
      cases same
      exact within_.self

theorem ofRest_ne {link : LinkId} : ofRest errand rest ≠ some (.provisioning link) := by
  intro same
  cases rest with
  | finished outcome => cases same
  | asking call next => cases same

end Pursuit

namespace Clientele

variable {origin : String} {id : EngineId} {bound : Nat} {clientele : Clientele}

/-- Whatever is in the table of the service has been begun by a client that is about it. -/
structure Housed (origin : String) (id : EngineId) (bound : Nat) (clientele : Clientele) : Prop where
  hosts : clientele.host.Hosts origin clientele.service id bound
  patrons : ∀ patron ∈ clientele.patrons, patron.Connected origin clientele.host
  begun : ∀ transaction ∈ (clientele.host.table clientele.service).transactions, ∃ who patron,
    clientele.beginner transaction = some who ∧ clientele.patrons[who]? = some patron ∧
      patron.transaction? = some transaction

namespace Housed

theorem proceed (housed : clientele.Housed origin id bound) {who : Nat} {patron next : Patron}
    (found : clientele.patrons[who]? = some patron) {later : Host}
    (hosts : later.Hosts origin clientele.service id (bound + 1))
    (keeps : clientele.host.KeepsLinks later) (connected : next.Connected origin later)
    (known : ∀ transaction ∈ (later.table clientele.service).transactions,
      (transaction ∈ (clientele.host.table clientele.service).transactions ∧
          (patron.transaction? = some transaction → next.transaction? = some transaction)) ∨
        transaction ∉ (clientele.host.table clientele.service).transactions ∧
          next.transaction? = some transaction) :
    (clientele.proceed who next later).Housed origin id (bound + 1) where
  hosts := hosts
  patrons other member := by
    rcases List.mem_or_eq_of_mem_set member with before | rfl
    · exact (housed.patrons other before).keepsLinks keeps
    · exact connected
  begun transaction member := by
    have inside : who < clientele.patrons.length := (List.getElem?_eq_some_iff.1 found).1
    have own : (clientele.proceed who next later).patrons[who]? = some next :=
      List.getElem?_set_self inside
    rcases known transaction member with ⟨old, stays⟩ | ⟨new, about⟩
    · rcases housed.begun transaction old with ⟨other, another, begun, standing, about⟩
      have same : (clientele.proceed who next later).beginner transaction = some other := by
        rw [Clientele.proceed]
        exact (if_neg fun fresh => fresh.2 old).trans begun
      by_cases self : who = other
      · subst self
        cases found.symm.trans standing
        exact ⟨who, next, same, own, stays about⟩
      · exact ⟨other, another, same, (List.getElem?_set_ne self).trans standing, about⟩
    · exact ⟨who, next, if_pos ⟨member, new⟩, own, about⟩

theorem more (housed : clientele.Housed origin id bound) :
    clientele.Housed origin id (bound + 1) :=
  ⟨housed.hosts.more, housed.patrons, housed.begun⟩

private theorem known_of_table {later : Host} {patron next : Patron}
    (same : ∀ transaction ∈ (later.table clientele.service).transactions,
      transaction ∈ (clientele.host.table clientele.service).transactions)
    (idle : patron.transaction? = none) :
    ∀ transaction ∈ (later.table clientele.service).transactions,
      (transaction ∈ (clientele.host.table clientele.service).transactions ∧
          (patron.transaction? = some transaction → next.transaction? = some transaction)) ∨
        transaction ∉ (clientele.host.table clientele.service).transactions ∧
          next.transaction? = some transaction := by
  intro transaction member
  refine .inl ⟨same transaction member, fun about => ?_⟩
  cases idle.symm.trans about

variable {who : Nat} {client : Client}

theorem init (housed : clientele.Housed origin id bound)
    (found : clientele.patrons[who]? = some ⟨client, none⟩) {link : LinkId} {later : Host}
    (connects : clientele.host.connect client.binding.url = (.ok link, later)) :
    (clientele.proceed who ⟨client, some (.provisioning link)⟩ later).Housed origin id
      (bound + 1) := by
  have idle := housed.patrons _ (List.mem_of_getElem? found)
  rcases Host.connect_cases housed.hosts.fronts client.binding.url with
    ⟨failure, failed⟩ | ⟨base, based, ⟨service, -, network⟩, connected⟩
  · cases failed.symm.trans connects
  cases connected.symm.trans connects
  have keeps := clientele.host.keepsLinks_append [{ base }]
  have own : base.origin = origin := by
    have origins := network.symm.trans housed.hosts.leads
    rw [Network.loopback, Network.loopback] at origins
    exact (Prod.mk.inj (Option.some.inj (Network.mk.inj origins))).1
  refine housed.proceed found (housed.hosts.withLinks _) keeps ⟨?_, ?_, ?_⟩
    (known_of_table (fun _ member => member) rfl)
  · exact (idle.keepsLinks keeps).session
  · intro other same
    cases same
    rcases RemoteLink.divided_baseOf based with ⟨before, divided⟩
    exact ⟨{ base }, before, List.getElem?_concat_length, divided, own⟩
  · intro errand rest same
    cases same

theorem errand (housed : clientele.Housed origin id bound)
    (found : clientele.patrons[who]? = some ⟨client, none⟩) (errand : Errand) :
    (clientele.proceed who ⟨client, Pursuit.ofRest errand (errand.dialogue client.binding)⟩
      clientele.host).Housed origin id (bound + 1) := by
  have idle := housed.patrons _ (List.mem_of_getElem? found)
  refine housed.proceed found housed.hosts.more (Host.keepsLinks_of_links rfl)
    ⟨idle.session, ?_, ?_⟩ (known_of_table (fun _ member => member) rfl)
  · exact fun link same => absurd same Pursuit.ofRest_ne
  · exact fun other rest same => Pursuit.within_ofRest (errand.within_dialogue client.binding) same

theorem provision (housed : clientele.Housed origin id bound) (room : bound + 1 < 2 ^ 64)
    {link : LinkId} (found : clientele.patrons[who]? = some ⟨client, some (.provisioning link)⟩)
    (index : String) (session : Option Connection)
    (initialized : session = client.session ∨ session = some (.remote link) ∧
      (clientele.host.converse (.remote link) (provisionIndex index)).1 = .ok ()) :
    (clientele.proceed who ⟨{ client with session }, none⟩
      (clientele.host.converse (.remote link) (provisionIndex index)).2).Housed origin id
        (bound + 1) := by
  have before := housed.patrons _ (List.mem_of_getElem? found)
  rcases before.provisioning link rfl with ⟨remote, parts, there, divided, own⟩
  have linked : clientele.host.link link = remote := by
    rw [Host.link, there]
    rfl
  rcases housed.hosts.perform room link (.createIndex index) with ⟨hosts, keeps⟩
  rw [(clientele.host.converse_provisionIndex (.remote link) index).1]
  refine housed.proceed found hosts keeps ⟨?_, ?_, ?_⟩ (known_of_table ?_ rfl)
  · intro connection same
    rcases initialized with rfl | ⟨rfl, done⟩
    · exact (before.keepsLinks keeps).session connection same
    · cases same
      rcases keeps link remote there with ⟨other, still, base⟩
      have grounded : Http.Grounded remote.base := by
        rw [← linked] at divided own ⊢
        exact housed.hosts.grounded_of_provision divided own done
      exact ⟨link, other, rfl, still, base ▸ grounded, base ▸ own⟩
  · intro other same
    cases same
  · intro errand rest same
    cases same
  · intro transaction member
    rw [← linked] at divided
    exact housed.hosts.table_provision divided member

theorem advance (housed : clientele.Housed origin id bound) (room : bound + 1 < 2 ^ 64)
    {errand : Errand} {call : Call} {next : Except Failure call.Answer → Dialogue errand.Result}
    (found : clientele.patrons[who]? =
      some ⟨client, some (.errand errand (.asking call next))⟩)
    {connection : Connection} (session : client.session = some connection) :
    (clientele.proceed who
      ⟨client, Pursuit.ofRest errand (next (clientele.host.perform connection call).1)⟩
      (clientele.host.perform connection call).2).Housed origin id (bound + 1) := by
  have before := housed.patrons _ (List.mem_of_getElem? found)
  rcases before.session connection session with ⟨link, remote, rfl, there, grounded, own⟩
  have linked : clientele.host.link link = remote := by
    rw [Host.link, there]
    rfl
  rcases housed.hosts.perform room link call with ⟨hosts, keeps⟩
  have within_ := (before.errand errand _ rfl).2 (clientele.host.perform (.remote link) call).1
  have about : (⟨client, Pursuit.ofRest errand (next (clientele.host.perform (.remote link)
      call).1)⟩ : Patron).transaction? =
        call.leaves (clientele.host.perform (.remote link) call).1 :=
    Pursuit.transaction?_ofRest within_
  refine housed.proceed found hosts keeps
    ⟨(before.keepsLinks keeps).session, ?_, ?_⟩ fun transaction member => ?_
  · exact fun other same => absurd same Pursuit.ofRest_ne
  · exact fun other rest same => Pursuit.within_ofRest within_ same
  · rw [about]
    rw [← linked] at grounded own
    rcases housed.hosts.table_perform grounded own member with ⟨old, stays⟩ | ⟨new, leaves⟩
    · refine .inl ⟨old, fun its => ?_⟩
      have its : call.transaction? = some transaction := its
      have goesOn := stays its
      cases call with
      | stage other step =>
          cases its
          rfl
      | commit other => cases goesOn
      | rollback other => cases goesOn
      | _ => cases its
    · exact .inr ⟨new, leaves⟩

theorem cleanup (housed : clientele.Housed origin id bound)
    (found : clientele.patrons[who]? = some ⟨client, none⟩) :
    (clientele.proceed who ⟨(client.cleanup clientele.host).1, none⟩
      (client.cleanup clientele.host).2).Housed origin id (bound + 1) := by
  have idle := housed.patrons _ (List.mem_of_getElem? found)
  cases session : client.session with
  | none =>
      rw [Client.cleanup, session]
      exact housed.proceed found housed.hosts.more (Host.keepsLinks_of_links rfl) idle
        (known_of_table (fun _ member => member) rfl)
  | some connection =>
      rcases idle.session connection session with ⟨link, remote, rfl, -⟩
      rw [Client.cleanup, session]
      refine housed.proceed found (housed.hosts.withLinks _)
        (clientele.host.keepsLinks_shutdown link) ⟨?_, ?_, ?_⟩
        (known_of_table (fun _ member => member) rfl)
      · intro connection same
        cases same
      · intro link same
        cases same
      · intro errand rest same
        cases same

theorem enter (housed : clientele.Housed origin id bound) (client : Client)
    (session : client.session = none) :
    Housed origin id (bound + 1) { clientele with patrons := clientele.patrons ++ [⟨client, none⟩] }
    where
  hosts := housed.hosts.more
  patrons patron member := by
    rcases List.mem_append.1 member with before | added
    · exact housed.patrons patron before
    · cases List.mem_singleton.1 added
      refine ⟨fun connection same => ?_, fun link same => ?_, fun errand rest same => ?_⟩
      · cases session.symm.trans same
      · cases same
      · cases same
  begun transaction member := by
    rcases housed.begun transaction member with ⟨who, patron, begun, standing, about⟩
    refine ⟨who, patron, begun, ?_, about⟩
    exact (List.getElem?_append_left (List.getElem?_eq_some_iff.1 standing).1).trans standing

theorem shutDown (housed : clientele.Housed origin id bound) (room : bound + 1 < 2 ^ 64)
    (own : EngineId) : Housed origin id (bound + 1)
      { clientele with host := (clientele.host.shutdownEngine own).2 } where
  hosts := by
    have keeps : Turn.Keeps clientele.host (.shutDown own) := trivial
    exact housed.hosts.turn room keeps
  patrons patron member := (housed.patrons patron member).keepsLinks
    (Host.keepsLinks_of_links (clientele.host.links_turn (.shutDown own)))
  begun := housed.begun

theorem step (housed : clientele.Housed origin id bound) (room : bound + 1 < 2 ^ 64) (move : Move) :
    (clientele.step move).Housed origin id (bound + 1) := by
  cases move with
  | enter binding registry remote => exact housed.enter { binding, registry } rfl
  | init who =>
      rw [Clientele.step]
      split
      · rename_i client found
        split
        · exact housed.more
        split
        · exact housed.more
        rcases connects : clientele.host.connect client.binding.url with ⟨failure | link, later⟩
        · have same : later = clientele.host := by
            rcases Host.connect_cases housed.hosts.fronts client.binding.url with
              ⟨_, failed⟩ | ⟨_, -, -, connected⟩
            · cases failed.symm.trans connects
              rfl
            · cases connected.symm.trans connects
          rw [same]
          exact housed.proceed found housed.hosts.more (Host.keepsLinks_of_links rfl)
            (housed.patrons _ (List.mem_of_getElem? found))
            (known_of_table (fun _ member => member) rfl)
        · exact housed.init found connects
      · exact housed.more
  | errand who errand =>
      rw [Clientele.step]
      split
      · rename_i client found
        split
        · exact housed.errand found errand
        · exact housed.more
      · exact housed.more
  | advance who =>
      rw [Clientele.step]
      split
      · rename_i client link found
        have provisions (session : Option Connection) :=
          housed.provision room found client.binding.index session
        rcases conversed : clientele.host.converse (.remote link)
          (provisionIndex client.binding.index) with ⟨failure | done, later⟩
        all_goals rw [conversed] at provisions
        · exact provisions client.session (.inl rfl)
        · exact provisions (some (.remote link)) (.inr ⟨rfl, rfl⟩)
      · rename_i client errand call next found
        split
        · exact housed.more
        · rename_i connection session
          exact housed.advance room found session
      · exact housed.more
  | cleanup who =>
      rw [Clientele.step]
      split
      · rename_i client found
        exact housed.cleanup found
      · exact housed.more
  | shutDown own => exact housed.shutDown room own

theorem run (housed : clientele.Housed origin id bound) {moves : List Move}
    (room : bound + moves.length < 2 ^ 64) :
    (clientele.run moves).Housed origin id (bound + moves.length) := by
  induction moves generalizing clientele bound with
  | nil => exact housed
  | cons move later induction =>
      rw [List.length_cons] at room ⊢
      rw [Nat.add_comm later.length 1, ← Nat.add_assoc]
      exact induction (housed.step (by omega) move) (by omega)

end Housed

/-! ## A client without others -/

variable {who : Nat} {client : Client}

private theorem patrons_proceed {patron next : Patron}
    (found : clientele.patrons[who]? = some patron) (host : Host) :
    (clientele.proceed who next host).patrons[who]? = some next :=
  List.getElem?_set_self (List.getElem?_eq_some_iff.1 found).1

/-- A client that is initialized while the others do nothing is initialized as by itself. -/
theorem init_alone (found : clientele.patrons[who]? = some ⟨client, none⟩)
    (remote : client.binding.mode.isRemote = true) :
    let later := clientele.run [.init who, .advance who]
    later.host = (client.init clientele.host).2.2 ∧
      later.patrons[who]? = some ⟨(client.init clientele.host).2.1, none⟩ := by
  intro later
  have idle (host : Host) : (clientele.proceed who ⟨client, none⟩ host).step (.advance who) =
      clientele.proceed who ⟨client, none⟩ host := by
    rw [step, patrons_proceed found]
  have still : clientele.step (.advance who) = clientele := by
    rw [step, found]
  have started : later = (clientele.step (.init who)).step (.advance who) := rfl
  rw [started, Client.init, step, found]
  dsimp only
  by_cases initialized : client.isInitialized = true
  · rw [if_pos initialized, if_pos initialized, still]
    exact ⟨rfl, found⟩
  rw [if_neg initialized, if_neg initialized]
  rcases client.binding.validate with fault | valid
  · dsimp only
    rw [still]
    exact ⟨rfl, found⟩
  dsimp only
  rw [Host.connectBy, if_pos remote]
  rcases clientele.host.connect client.binding.url with ⟨failure | link, host⟩
  · dsimp only
    rw [idle]
    exact ⟨rfl, patrons_proceed found host⟩
  · have waiting :
        (clientele.proceed who ⟨client, some (.provisioning link)⟩ host).patrons[who]? =
          some ⟨client, some (.provisioning link)⟩ := patrons_proceed found host
    have there : (clientele.proceed who ⟨client, some (.provisioning link)⟩ host).host = host := rfl
    dsimp only
    rw [step, waiting]
    dsimp only
    rw [there]
    rcases host.converse (.remote link) (provisionIndex client.binding.index) with
      ⟨failure | done, last⟩
    · exact ⟨rfl, patrons_proceed waiting last⟩
    · exact ⟨rfl, patrons_proceed waiting last⟩

private theorem rest_alone {errand : Errand} {connection : Connection}
    (session : client.session = some connection) (rest : Dialogue errand.Result)
    (found : clientele.patrons[who]? = some ⟨client, Pursuit.ofRest errand rest⟩) :
    ∃ count, (clientele.run (List.replicate count (.advance who))).host =
        (clientele.host.converse connection rest).2 ∧
      (clientele.run (List.replicate count (.advance who))).patrons[who]? =
        some ⟨client, none⟩ := by
  induction rest generalizing clientele with
  | finished outcome => exact ⟨0, rfl, found⟩
  | asking call next induction =>
      have goesOn : clientele.step (.advance who) = clientele.proceed who
          ⟨client, Pursuit.ofRest errand (next (clientele.host.perform connection call).1)⟩
          (clientele.host.perform connection call).2 := by
        rw [step, found]
        dsimp only [Pursuit.ofRest]
        rw [session]
      rcases induction _ (patrons_proceed found (clientele.host.perform connection call).2) with
        ⟨count, host, idle⟩
      refine ⟨count + 1, ?_⟩
      rw [List.replicate_succ, run, goesOn]
      exact ⟨host, idle⟩

/-- An errand that a client goes on with while the others do nothing is carried out as by itself. -/
theorem errand_alone (found : clientele.patrons[who]? = some ⟨client, none⟩) (errand : Errand) :
    ∃ count, let later := clientele.run (.errand who errand :: List.replicate count (.advance who))
      later.host = (client.carryOut errand clientele.host).2 ∧
        later.patrons[who]? = some ⟨client, none⟩ := by
  rw [Client.carryOut_eq, Client.converse]
  cases session : client.session with
  | none =>
      refine ⟨0, ?_⟩
      have still : clientele.step (.errand who errand) = clientele := by
        rw [step, found]
        dsimp only
        rw [Client.isInitialized, session]
        rfl
      rw [List.replicate_zero, run, still]
      exact ⟨rfl, found⟩
  | some connection =>
      have begins : clientele.step (.errand who errand) = clientele.proceed who
          ⟨client, Pursuit.ofRest errand (errand.dialogue client.binding)⟩ clientele.host := by
        rw [step, found]
        dsimp only
        rw [Client.isInitialized, session]
        rfl
      rcases rest_alone session _ (patrons_proceed found clientele.host) with ⟨count, host, idle⟩
      refine ⟨count, ?_⟩
      rw [run, begins]
      exact ⟨host, idle⟩

/-! ## Clients among each other -/

/-- However the requests of the clients follow on one another, and whatever comes of their errands:
the table of the service has no transaction that has been begun by a client that is in the midst of
nothing; each that it has is the one that the client is about who has begun it. And the number that
the next transaction gets is not that of one in the table. -/
theorem run_holds_own {host : Host} {origin : String} {service : ServiceId} {id : EngineId}
    {bound : Nat} (hosts : host.Hosts origin service id bound)
    (blank : (host.table service).transactions = ∅) (moves : List Move)
    (room : bound + moves.length < 2 ^ 64) :
    let clientele := run moves { service, host }
    let table := (clientele.host.table service).transactions
    (∀ who patron, clientele.patrons[who]? = some patron → patron.pursuit = none →
      ∀ transaction ∈ table, clientele.beginner transaction ≠ some who) ∧
    (∀ transaction ∈ table, ∃ who patron, clientele.beginner transaction = some who ∧
      clientele.patrons[who]? = some patron ∧ patron.transaction? = some transaction) ∧
    (clientele.host.engine id).nextTransaction ∉ table := by
  intro clientele table
  have start : Housed origin id bound { service, host } := by
    refine ⟨hosts, fun patron member => ?_, fun transaction member => ?_⟩
    · cases member
    · rw [blank] at member
      exact absurd member Std.ExtTreeSet.not_mem_empty
  have housed : clientele.Housed origin id (bound + moves.length) := start.run room
  have same : clientele.service = service := service_run moves
  have begun := housed.begun
  have front := housed.hosts.front
  rw [same] at begun front
  refine ⟨fun who patron standing idle transaction member own => ?_, begun, fun member => ?_⟩
  · rcases begun transaction member with ⟨other, another, first, there, about⟩
    cases first.symm.trans own
    cases standing.symm.trans there
    rw [Patron.transaction?, idle] at about
    cases about
  · rcases front with ⟨front, found⟩
    have its : table = front.transactions := by
      rw [← Host.table_of_front found]
    rw [its] at member
    exact UInt64.lt_irrefl _
      (housed.hosts.ordered.below id _ (housed.hosts.ordered.listed _ _ found _ member))

/-- A client is about to insert a record when the engine is shut down. Its transaction is taken out of
the table when it has given up. -/
theorem run_holds_own_interrupted :
    let host : Host := {
      engines := [.inMemory]
      fronts := [{ engine := 0 }]
      network := .loopback "http://h" 0 }
    let moves : List Move := [
      .enter { url := "http://h", mode := .remote } 0 rfl,
      .enter { url := "http://h", mode := .remoteBatch } 0 rfl,
      .init 0, .init 1, .advance 1, .advance 0,
      .errand 0 (.insert "k" ∅), .advance 0, .shutDown 0, .errand 1 (.delete "k"), .advance 0,
      .advance 1]
    let amid := run moves { service := 0, host }
    let after := run (moves ++ [.advance 0]) { service := 0, host }
    amid.beginner 1 = some 0 ∧ 1 ∈ (amid.host.table 0).transactions ∧
      (∀ transaction ∈ (amid.host.table 0).transactions,
        amid.beginner transaction ≠ some 1) ∧
      ∀ transaction ∈ (after.host.table 0).transactions,
        after.beginner transaction ≠ some 0 := by
  intro host moves
  dsimp only
  have unbegun : host.Unbegun := by
    refine ⟨fun engine among => ?_, fun front among => ?_⟩
    · rw [List.mem_singleton.1 among]
      exact ⟨rfl, rfl⟩
    · rw [List.mem_singleton.1 among]
  have hosts : host.Hosts "http://h" 0 0 1 :=
    ⟨unbegun.ordered, by decide, rfl, {}, rfl⟩
  have held := (run_holds_own hosts rfl moves (by decide)).1
  have heldLater := (run_holds_own hosts rfl (moves ++ [.advance 0]) (by decide)).1
  have seen : (run moves { service := 0, host }).beginner 1 = some 0 ∧
      1 ∈ ((run moves { service := 0, host }).host.table 0).transactions ∧
      ((run moves { service := 0, host }).patrons[1]?.map fun patron => patron.pursuit.isNone) =
        some true := by
    decide +kernel
  rcases seen with ⟨begun, listed, idle⟩
  refine ⟨begun, listed, ?_, ?_⟩
  · rcases Option.map_eq_some_iff.1 idle with ⟨other, standing, none_⟩
    exact held 1 other standing (Option.isNone_iff_eq_none.1 none_)
  · have idle : ((run (moves ++ [.advance 0]) { service := 0, host }).patrons[0]?.map
        fun patron => patron.pursuit.isNone) = some true := by
      decide +kernel
    rcases Option.map_eq_some_iff.1 idle with ⟨own, standing, none_⟩
    exact heldLater 0 own standing (Option.isNone_iff_eq_none.1 none_)

end Clientele

end RecordGraph
