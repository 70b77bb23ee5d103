import RecordGraph.Proofs.Client.Reference
import RecordGraph.Proofs.Host

namespace RecordGraph

/-! Clients of one store answer like one store that they share: the engine that the first of them
opens keeps the queues, and the disk keeps them while nobody has a session. -/

variable {binding : Binding} {place : RegistryId} {reference : Reference} {bound : Nat}
  {party : Party} {id : EngineId} {who : Nat}

/-! ## How clients stand to the store -/

/-- Nobody has a session, and the disk keeps the queues. -/
structure Party.Idle (binding : Binding) (place : RegistryId) (reference : Reference)
    (bound : Nat) (party : Party) : Prop where
  nobody : reference.sessions = ∅
  free : (party.host.registry place).engine = none
  sessions : ∀ who, (party.clients who).session = none
  stored : Stored binding.url binding.keys reference.queues bound party.host.disk

/-- Somebody has a session, and an engine keeps the queues. -/
structure Party.Busy (binding : Binding) (place : RegistryId) (reference : Reference)
    (bound : Nat) (id : EngineId) (party : Party) : Prop where
  held : (party.host.registry place).engine = some id
  there : id < party.host.engines.length
  sessions : ∀ who, (party.clients who).session =
    if who ∈ reference.sessions then some (.embedded id) else none
  serves : (party.host.engine id).Serves binding.url binding.keys reference.queues bound
  prepared : Disk.Prepared binding.url party.host.disk

structure Party.Shares (binding : Binding) (place : RegistryId) (reference : Reference)
    (bound : Nat) (party : Party) : Prop where
  clients : ∀ who, (party.clients who).binding = binding ∧ (party.clients who).registry = place
  registered : place < party.host.registries.length
  holders : (party.host.registry place).holders = reference.sessions.size
  state : party.Idle binding place reference bound ∨
    reference.sessions.size ≠ 0 ∧ ∃ id, party.Busy binding place reference bound id

namespace Party

theorem Shares.session_none (shares : party.Shares binding place reference bound)
    (absent : who ∉ reference.sessions) : (party.clients who).session = none := by
  rcases shares.state with idle | ⟨-, id, busy⟩
  · exact idle.sessions who
  · rw [busy.sessions, if_neg absent]

theorem Shares.busy (shares : party.Shares binding place reference bound)
    (member : who ∈ reference.sessions) :
    ∃ id, party.Busy binding place reference bound id ∧
      (party.clients who).session = some (.embedded id) := by
  rcases shares.state with idle | ⟨-, id, busy⟩
  · rw [idle.nobody] at member
    exact absurd member Std.ExtTreeSet.not_mem_empty
  · exact ⟨id, busy, by rw [busy.sessions, if_pos member]⟩

/-! ## Operations on records -/

theorem converse_uninitialized {client : Client} (absent : client.session = none) {Result : Type}
    (dialogue : Dialogue Result) (host : Host) :
    client.converse dialogue host = (.error .notInitialized, host) := by
  rw [Client.converse, absent]

theorem Busy.converse (busy : party.Busy binding place reference bound id)
    (session : (party.clients who).session = some (.embedded id)) {Result : Type}
    {dialogue : Dialogue Result} {outcome : Except Failure Result} {after : Engine}
    (run : dialogue.run Engine.perform (party.host.engine id) = (outcome, after)) :
    (party.clients who).converse dialogue party.host =
      (outcome, party.host.setEngine id after) := by
  rw [Client.converse, session]
  dsimp only
  rw [Host.converse_embedded busy.there, run]

theorem Shares.setEngine (shares : party.Shares binding place reference bound)
    (busy : party.Busy binding place reference bound id) (member : who ∈ reference.sessions)
    {queues : Queues} {later : Nat} {after : Engine}
    (serves : after.Serves binding.url binding.keys queues later) :
    Shares binding place { reference with queues } later
      { party with host := party.host.setEngine id after } where
  clients := shares.clients
  registered := shares.registered
  holders := shares.holders
  state := by
    right
    refine ⟨?_, id, busy.held, ?_, busy.sessions, ?_, busy.prepared⟩
    · intro none
      have empty := Std.ExtTreeSet.eq_empty_iff_size_eq_zero.2 none
      rw [empty] at member
      exact Std.ExtTreeSet.not_mem_empty member
    · rw [Host.length_setEngine]
      exact busy.there
    · rw [Host.engine_setEngine busy.there]
      exact serves

theorem Shares.mono (shares : party.Shares binding place reference bound) {later : Nat}
    (more : bound ≤ later) : party.Shares binding place reference later where
  clients := shares.clients
  registered := shares.registered
  holders := shares.holders
  state := by
    rcases shares.state with idle | ⟨somebody, id, busy⟩
    · exact .inl { idle with stored := idle.stored.mono more }
    · exact .inr ⟨somebody, id, { busy with serves := busy.serves.mono more }⟩

/-- A call is answered as the reference answers it, and what follows stands to the reference as
before. -/
def Follows (binding : Binding) (place : RegistryId) (reference : Reference) (later : Nat)
    (who : Nat) (request : Request) (party : Party) : Prop :=
  (party.step who request).1 = (reference.step binding.keyField who request).1 ∧
    Shares binding place (reference.step binding.keyField who request).2 later
      (party.step who request).2

theorem Shares.insert (shares : party.Shares binding place reference bound)
    (embedded : binding.mode = .embedded) (keyed : binding.keyField ≠ "")
    (room : bound + 1 < 2 ^ 64) (who : Nat) (key : String) (fields : FieldMap) :
    party.Follows binding place reference (bound + 1) who (.insert key fields) := by
  rcases shares.clients who with ⟨own, -⟩
  simp only [Follows, step, Reference.step, Client.insert, Client.tryInsert]
  by_cases member : who ∈ reference.sessions
  · rcases shares.busy member with ⟨id, busy, session⟩
    have small : (party.host.engine id).nextNode.toNat + 1 < 2 ^ 64 :=
      Nat.lt_of_le_of_lt (Nat.succ_le_succ busy.serves.bounded) room
    obtain ⟨outcome, after, run, status, keeps, location, next⟩ :=
      busy.serves.keeps.insert embedded keyed small key fields
    rw [own, busy.converse session run, if_pos member]
    refine ⟨congrArg Reply.status status, shares.setEngine busy member ?_⟩
    exact busy.serves.change_next room keeps location next
  · rw [converse_uninitialized (shares.session_none member), if_neg member]
    exact ⟨rfl, shares.mono (Nat.le_succ bound)⟩

theorem Shares.update (shares : party.Shares binding place reference bound) (who : Nat)
    (key : String) (fields : FieldMap) :
    party.Follows binding place reference bound who (.update key fields) := by
  rcases shares.clients who with ⟨own, -⟩
  simp only [Follows, step, Reference.step, Client.update, Client.tryUpdate]
  by_cases member : who ∈ reference.sessions
  · rcases shares.busy member with ⟨id, busy, session⟩
    obtain ⟨outcome, after, run, status, keeps, location, next⟩ :=
      busy.serves.keeps.update key fields
    rw [own, busy.converse session run, if_pos member]
    refine ⟨congrArg Reply.status status, shares.setEngine busy member ?_⟩
    exact busy.serves.change keeps location next
  · rw [converse_uninitialized (shares.session_none member), if_neg member]
    exact ⟨rfl, shares⟩

theorem Shares.delete (shares : party.Shares binding place reference bound) (who : Nat)
    (key : String) : party.Follows binding place reference bound who (.delete key) := by
  rcases shares.clients who with ⟨own, -⟩
  simp only [Follows, step, Reference.step, Client.delete, Client.tryDelete]
  by_cases member : who ∈ reference.sessions
  · rcases shares.busy member with ⟨id, busy, session⟩
    rcases busy.serves.keeps.delete key with ⟨outcome, after, run, status, keeps, location, next⟩
    rw [own, busy.converse session run, if_pos member]
    refine ⟨congrArg Reply.status status, shares.setEngine busy member ?_⟩
    exact busy.serves.change keeps location next
  · rw [converse_uninitialized (shares.session_none member), if_neg member]
    exact ⟨rfl, shares⟩

theorem Shares.read (shares : party.Shares binding place reference bound)
    (embedded : binding.mode = .embedded) (who : Nat) (key : String)
    (requested : Option FieldSet) (into : FieldMap) :
    party.Follows binding place reference bound who (.read key requested into) := by
  rcases shares.clients who with ⟨own, -⟩
  simp only [Follows, step, Reference.step, Client.read, Client.tryRead]
  by_cases member : who ∈ reference.sessions
  · rcases shares.busy member with ⟨id, busy, session⟩
    rcases busy.serves.keeps.read embedded key requested into with ⟨outcome, run, answer⟩
    rw [own, busy.converse session run, if_pos member, ← answer, Host.setEngine_engine busy.there]
    exact ⟨rfl, shares⟩
  · rw [converse_uninitialized (shares.session_none member), if_neg member]
    exact ⟨rfl, shares⟩

/-! ## Sessions -/

private theorem insert_member {sessions : Std.ExtTreeSet Nat compare} (member : who ∈ sessions) :
    sessions.insert who = sessions := by
  ext1 other
  rw [Std.ExtTreeSet.mem_insert, Std.compare_eq_iff_eq]
  constructor
  · rintro (rfl | there)
    · exact member
    · exact there
  · exact .inr

private theorem erase_absent {sessions : Std.ExtTreeSet Nat compare} (absent : who ∉ sessions) :
    sessions.erase who = sessions := by
  ext1 other
  rw [Std.ExtTreeSet.mem_erase, Ne, Std.compare_eq_iff_eq]
  constructor
  · exact fun there => there.2
  · intro there
    exact ⟨fun same => absent (same ▸ there), there⟩

private theorem clients_update {clients : Nat → Client}
    (all : ∀ who, (clients who).binding = binding ∧ (clients who).registry = place)
    {client : Client} (own : client.binding = binding ∧ client.registry = place) (other : Nat) :
    (Function.update clients who client other).binding = binding ∧
      (Function.update clients who client other).registry = place := by
  by_cases same : other = who
  · rw [same, Function.update_self]
    exact own
  · rw [Function.update_of_ne same]
    exact all other

private theorem sessions_insert {clients : Nat → Client} {sessions : Std.ExtTreeSet Nat compare}
    {connection : Connection}
    (all : ∀ who, (clients who).session = if who ∈ sessions then some connection else none)
    {client : Client} (own : client.session = some connection) (other : Nat) :
    (Function.update clients who client other).session =
      if other ∈ sessions.insert who then some connection else none := by
  by_cases same : other = who
  · rw [same, Function.update_self, own, if_pos Std.ExtTreeSet.mem_insert_self]
  · rw [Function.update_of_ne same, all other]
    simp [Std.ExtTreeSet.mem_insert, Ne.symm same]

private theorem sessions_erase {clients : Nat → Client} {sessions : Std.ExtTreeSet Nat compare}
    {connection : Connection}
    (all : ∀ who, (clients who).session = if who ∈ sessions then some connection else none)
    {client : Client} (own : client.session = none) (other : Nat) :
    (Function.update clients who client other).session =
      if other ∈ sessions.erase who then some connection else none := by
  by_cases same : other = who
  · rw [same, Function.update_self, own, if_neg (by simp)]
  · rw [Function.update_of_ne same, all other]
    simp [Std.ExtTreeSet.mem_erase, Ne.symm same]

theorem init_connected {client : Client} {host after : Host} {connection : Connection}
    (absent : client.session = none) (valid : client.binding.validate = .ok ())
    (connected : host.connectBy client.binding client.registry = (.ok connection, after)) :
    client.init host = (.ok (), { client with session := some connection }, after) := by
  rw [Client.init, Client.isInitialized, absent, valid, connected]
  rfl

theorem init_acquired {client : Client} {host after : Host}
    (absent : client.session = none) (valid : client.binding.validate = .ok ())
    (embedded : client.binding.mode = .embedded)
    (acquired : host.acquire client.registry client.binding = (.ok id, after)) :
    client.init host = (.ok (), { client with session := some (.embedded id) }, after) := by
  apply init_connected absent valid
  rw [Host.connectBy, embedded, acquired]
  rfl

private theorem Shares.init_first (shares : party.Shares binding place reference bound)
    (idle : party.Idle binding place reference bound) (named : binding.index ≠ "") (who : Nat) :
    ∃ id host, party.host.acquire place binding = (.ok id, host) ∧
      Shares binding place { reference with sessions := reference.sessions.insert who } bound
        { clients := Function.update party.clients who
            { party.clients who with session := some (.embedded id) }
          host } := by
  rcases idle.stored.openAt named with ⟨engine, disk, ready, opened, prepared, provisioned, serves⟩
  refine ⟨_, _, Host.acquire_first idle.free opened provisioned, ?_⟩
  have size : (reference.sessions.insert who).size = reference.sessions.size + 1 := by
    rw [Std.ExtTreeSet.size_insert, idle.nobody]
    simp
  have sessions (other : Nat) : (party.clients other).session =
      if other ∈ reference.sessions then some (.embedded party.host.engines.length) else none := by
    rw [idle.sessions, idle.nobody, if_neg Std.ExtTreeSet.not_mem_empty]
  constructor
  · exact clients_update shares.clients (shares.clients who)
  · simpa using shares.registered
  · simp [Host.registry, shares.registered, size, ← shares.holders]
  · right
    refine ⟨?_, party.host.engines.length, ?_⟩
    · rw [size]
      exact Nat.succ_ne_zero _
    constructor
    · simp [Host.registry, shares.registered]
    · simp
    · exact sessions_insert sessions rfl
    · simpa [Host.engine] using serves
    · exact prepared

private theorem Shares.init_again (shares : party.Shares binding place reference bound)
    (busy : party.Busy binding place reference bound id) (named : binding.index ≠ "")
    (absent : who ∉ reference.sessions) :
    ∃ host, party.host.acquire place binding = (.ok id, host) ∧
      Shares binding place { reference with sessions := reference.sessions.insert who } bound
        { clients := Function.update party.clients who
            { party.clients who with session := some (.embedded id) }
          host } := by
  have provisioned := busy.serves.keeps.run_provisionIndex named
  refine ⟨_, Host.acquire_again busy.held busy.there provisioned, ?_⟩
  have size : (reference.sessions.insert who).size = reference.sessions.size + 1 := by
    rw [Std.ExtTreeSet.size_insert, if_neg]
    rw [Std.ExtTreeSet.contains_iff_mem]
    exact absent
  constructor
  · exact clients_update shares.clients (shares.clients who)
  · rw [Host.length_setRegistry]
    exact shares.registered
  · rw [Host.registry_setRegistry shares.registered, size, ← shares.holders]
  · right
    refine ⟨?_, id, ?_⟩
    · rw [size]
      exact Nat.succ_ne_zero _
    constructor
    · rw [Host.registry_setRegistry shares.registered]
      exact busy.held
    · exact busy.there
    · exact sessions_insert busy.sessions rfl
    · exact busy.serves
    · exact busy.prepared

theorem Shares.init (shares : party.Shares binding place reference bound)
    (valid : binding.validate = .ok ()) (embedded : binding.mode = .embedded)
    (named : binding.index ≠ "") (who : Nat) :
    party.Follows binding place reference bound who .init := by
  rcases shares.clients who with ⟨own, registry⟩
  by_cases member : who ∈ reference.sessions
  · rcases shares.busy member with ⟨id, busy, session⟩
    simp only [Follows, step, Reference.step, Client.init, Client.isInitialized, session,
      Option.isSome_some, if_true, Function.update_eq_self, insert_member member]
    exact ⟨trivial, shares⟩
  · have absent := shares.session_none member
    have started {id : EngineId} {host : Host}
        (acquired : party.host.acquire place binding = (.ok id, host)) :=
      init_acquired absent (by rw [own, valid]) (by rw [own, embedded])
        (by rw [own, registry, acquired])
    rcases shares.state with idle | ⟨-, id, busy⟩
    · rcases shares.init_first idle named who with ⟨id, host, acquired, after⟩
      simp only [Follows, step, Reference.step, started acquired]
      exact ⟨trivial, after⟩
    · rcases shares.init_again busy named member with ⟨host, acquired, after⟩
      simp only [Follows, step, Reference.step, started acquired]
      exact ⟨trivial, after⟩

private theorem Shares.cleanup_last (shares : party.Shares binding place reference bound)
    (busy : party.Busy binding place reference bound id) (member : who ∈ reference.sessions)
    (one : reference.sessions.size = 1) (fits : (party.host.engine id).snapshot.Fits) :
    Shares binding place { reference with sessions := reference.sessions.erase who } bound
      { clients := Function.update party.clients who { party.clients who with session := none }
        host := party.host.release place } := by
  rcases busy.serves.shutdown busy.prepared fits with ⟨closed, disk, shut, stored⟩
  have size : (reference.sessions.erase who).size = 0 := by
    rw [Std.ExtTreeSet.size_erase, if_pos (Std.ExtTreeSet.contains_iff_mem.2 member), one]
  have nobody := Std.ExtTreeSet.eq_empty_iff_size_eq_zero.2 size
  rw [Host.release_last busy.held (by rw [shares.holders, one]) shut]
  constructor
  · exact clients_update shares.clients (shares.clients who)
  · simpa using shares.registered
  · simp [Host.registry, shares.registered, size]
  · left
    constructor
    · exact nobody
    · simp [Host.registry, shares.registered]
    · intro other
      rw [sessions_erase busy.sessions rfl, nobody, if_neg Std.ExtTreeSet.not_mem_empty]
    · exact stored

private theorem Shares.cleanup_other (shares : party.Shares binding place reference bound)
    (busy : party.Busy binding place reference bound id) (member : who ∈ reference.sessions)
    {others : Nat} (more : reference.sessions.size = others + 2) :
    Shares binding place { reference with sessions := reference.sessions.erase who } bound
      { clients := Function.update party.clients who { party.clients who with session := none }
        host := party.host.release place } := by
  have size : (reference.sessions.erase who).size = others + 1 := by
    rw [Std.ExtTreeSet.size_erase, if_pos (Std.ExtTreeSet.contains_iff_mem.2 member), more]
    rfl
  rw [Host.release_other (by rw [shares.holders, more])]
  constructor
  · exact clients_update shares.clients (shares.clients who)
  · rw [Host.length_setRegistry]
    exact shares.registered
  · rw [Host.registry_setRegistry shares.registered, size]
  · right
    refine ⟨?_, id, ?_⟩
    · rw [size]
      exact Nat.succ_ne_zero _
    constructor
    · rw [Host.registry_setRegistry shares.registered]
      exact busy.held
    · exact busy.there
    · exact sessions_erase busy.sessions rfl
    · exact busy.serves
    · exact busy.prepared

theorem Shares.cleanup (shares : party.Shares binding place reference bound)
    (fits : party.Fits place) (who : Nat) :
    party.Follows binding place reference bound who .cleanup := by
  by_cases member : who ∈ reference.sessions
  · rcases shares.busy member with ⟨id, busy, session⟩
    have cleaned : (party.clients who).cleanup party.host =
        ({ party.clients who with session := none }, party.host.release place) := by
      rw [Client.cleanup, session]
      simp only [Host.disconnect]
      rw [(shares.clients who).2]
    simp only [Follows, step, Reference.step, cleaned]
    refine ⟨trivial, ?_⟩
    match size : reference.sessions.size with
    | 0 =>
        have empty := Std.ExtTreeSet.eq_empty_iff_size_eq_zero.2 size
        rw [empty] at member
        exact absurd member Std.ExtTreeSet.not_mem_empty
    | 1 => exact shares.cleanup_last busy member size (fits id busy.held)
    | others + 2 => exact shares.cleanup_other busy member size
  · simp only [Follows, step, Reference.step, Client.cleanup, shares.session_none member,
      Function.update_eq_self, erase_absent member]
    exact ⟨trivial, shares⟩

/-! ## Calls one after another -/

theorem Shares.step (shares : party.Shares binding place reference bound)
    (valid : binding.validate = .ok ()) (embedded : binding.mode = .embedded)
    (who : Nat) (request : Request) (fits : request = .cleanup → party.Fits place)
    (room : bound + (if request.isInsert then 1 else 0) < 2 ^ 64) :
    party.Follows binding place reference (bound + if request.isInsert then 1 else 0) who
      request := by
  have named := Binding.named_of_valid valid
  cases request with
  | init => exact shares.init valid embedded named.1 who
  | cleanup => exact shares.cleanup (fits rfl) who
  | insert key fields => exact shares.insert embedded named.2.1 room who key fields
  | update key fields => exact shares.update who key fields
  | delete key => exact shares.delete who key
  | read key requested into => exact shares.read embedded who key requested into

/-- Whatever the clients are asked, they stand to the reference as before. -/
theorem Shares.run (shares : party.Shares binding place reference bound)
    (valid : binding.validate = .ok ()) (embedded : binding.mode = .embedded)
    (calls : List (Nat × Request)) (room : bound + calls.countP (·.2.isInsert) < 2 ^ 64)
    (fits : ∀ count who, calls[count]? = some (who, .cleanup) →
      (party.run (calls.take count)).2.Fits place) :
    (party.run calls).1 = (reference.run binding.keyField calls).1 ∧
      Shares binding place (reference.run binding.keyField calls).2
        (bound + calls.countP (·.2.isInsert)) (party.run calls).2 := by
  induction calls generalizing party reference bound with
  | nil => exact ⟨rfl, shares⟩
  | cons call calls induction =>
      rcases call with ⟨who, request⟩
      have count : ((who, request) :: calls).countP (·.2.isInsert) =
          (if request.isInsert then 1 else 0) + calls.countP (·.2.isInsert) := by
        rw [List.countP_cons, Nat.add_comm]
      rw [count, ← Nat.add_assoc] at room ⊢
      obtain ⟨reply, after⟩ := shares.step valid embedded who request
        (fun cleanup => fits 0 who (by rw [cleanup]; rfl))
        (Nat.lt_of_le_of_lt (Nat.le_add_right _ _) room)
      rcases induction after room fun count => fits (count + 1) with ⟨replies, last⟩
      rw [Party.run, Reference.run]
      exact ⟨congrArg₂ List.cons reply replies, last⟩

/-- The clients have just been made with one binding and one registry, nobody holds its engine,
and the directory of the binding can be used but has no snapshot in it. -/
structure Fresh (binding : Binding) (place : RegistryId) (party : Party) : Prop where
  clients : ∀ who, party.clients who = { binding, registry := place }
  registered : place < party.host.registries.length
  free : (party.host.registry place).engine = none
  unheld : (party.host.registry place).holders = 0
  vacant : Disk.Vacant binding.url party.host.disk

theorem Fresh.shares (fresh : party.Fresh binding place) : party.Shares binding place {} 1 where
  clients who := by
    rw [fresh.clients]
    exact ⟨rfl, rfl⟩
  registered := fresh.registered
  holders := by
    rw [fresh.unheld]
    exact Std.ExtTreeSet.size_empty.symm
  state := by
    left
    refine ⟨rfl, fresh.free, ?_, .vacant fresh.vacant (fun key => ?_) (Nat.le_refl 1)⟩
    · intro who
      rw [fresh.clients]
    · simp [Queues.under]

/-- Clients of one store answer every call as the reference does, in whatever order they are asked
and however often the last of them ends its session, as long as there are numbers for new nodes and
no snapshot that may be saved is longer than its header can tell. -/
theorem run_reference (fresh : party.Fresh binding place) (valid : binding.validate = .ok ())
    (embedded : binding.mode = .embedded) (calls : List (Nat × Request))
    (room : 1 + calls.countP (·.2.isInsert) < 2 ^ 64)
    (fits : ∀ count who, calls[count]? = some (who, .cleanup) →
      (party.run (calls.take count)).2.Fits place) :
    (party.run calls).1 = (Reference.run binding.keyField calls {}).1 :=
  (fresh.shares.run valid embedded calls room fits).1

def atOutset (binding : Binding) : Party where
  clients _ := { binding, registry := 0 }
  host := { registries := [{}] }

theorem fresh_atOutset : (atOutset {}).Fresh {} 0 where
  clients _ := rfl
  registered := by decide
  free := rfl
  unheld := rfl
  vacant := {
    calm := rfl
    made := by decide +kernel
    target := ⟨["data", "graphbench", "graph.snapshot"], by decide +kernel⟩
    draft := ⟨["data", "graphbench", "graph.tmp"], by decide +kernel⟩
    absent := by decide +kernel }

/-- What one client has stored is read by another after the engine has been opened again. -/
theorem run_reference_reopened :
    ((atOutset {}).run [(0, .init), (1, .insert "k" ∅),
      (0, .insert "k" ((∅ : FieldMap).insert "f" [7])), (0, .cleanup), (1, .init),
      (1, .read "k" none ∅)]).1 =
    [.started (.ok ()), .status .notInitialized, .status .ok, .ended, .started (.ok ()),
      .record .ok ((∅ : FieldMap).insert "f" [7])] := by
  refine (run_reference fresh_atOutset (by decide) rfl _ (by decide) ?_).trans (by decide +kernel)
  intro count who cleanup
  match count, cleanup with
  | 3, _ => decide +kernel
  | count + 6, later =>
      exact nomatch later

end Party

end RecordGraph
