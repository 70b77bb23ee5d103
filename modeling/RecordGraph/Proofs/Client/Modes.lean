import RecordGraph.Proofs.Client.Errand
import RecordGraph.Proofs.Client.Sharing
import RecordGraph.Proofs.Connection
import RecordGraph.Proofs.Engine.Opening
import RecordGraph.Proofs.Engine.Place
import RecordGraph.Proofs.Record.Insertion

namespace RecordGraph

/-! The mode of a binding decides how a store is reached, and not what is stored or read there. -/

variable {binding : Binding} {connection : Connection} {host : Host} {id : EngineId}
  {engine : Engine}

def Binding.reaching (mode : Mode) (url : String) (binding : Binding) : Binding :=
  { binding with mode, url }

/-! ## Single errands -/

/-- The fields that are wanted are listed, if any are read. Without a list a remote client only
looks whether there is a record. -/
def Errand.IsListed : Errand → Prop
  | read _ requested _ => requested.isSome = true
  | scan _ _ requested _ => requested.isSome = true
  | _ => True

instance : (errand : Errand) → Decidable errand.IsListed
  | .read _ requested _ => inferInstanceAs (Decidable (requested.isSome = true))
  | .scan _ _ requested _ => inferInstanceAs (Decidable (requested.isSome = true))
  | .insert _ _ => isTrue trivial
  | .update _ _ => isTrue trivial
  | .delete _ => isTrue trivial

namespace Engine

theorem settles_withNode {Result : Type} {key : String} {action : NodeId → Dialogue Result}
    (settles : ∀ node, Settles (action node)) : Settles (Record.withNode key binding action) := by
  refine Settles.bind (settles_reads ((KeyIndex.asks_lookup key _).mono fun _ => And.left)) ?_
  rintro (_ | node)
  · exact settles_pure none
  · exact (settles node).bind fun result => settles_pure (some result)

theorem settles_dialogue (errand : Errand) (binding : Binding) :
    Settles (errand.dialogue binding) := by
  have pure_isSome {Result : Type} (done : Option Result) := settles_pure done.isSome
  cases errand with
  | insert key fields =>
      cases binding with
      | mk url mode =>
          cases mode with
          | embedded => exact settles_encloses (KeyIndex.encloses_insertStepwise key fields _)
          | remote => exact settles_encloses (KeyIndex.encloses_insertStepwise key fields _)
          | remoteBatch => exact (settles_executeBatch _).bind fun _ => settles_pure ()
  | update key fields =>
      exact (settles_withNode fun node =>
        settles_encloses (KeyIndex.encloses_updateNode node key fields _)).bind pure_isSome
  | delete key =>
      exact (settles_withNode fun node =>
        settles_encloses (KeyIndex.encloses_deleteNode node key _)).bind pure_isSome
  | read key requested into =>
      exact settles_withNode fun node =>
        settles_reads ((KeyIndex.asks_readFields node _ _).mono fun _ => And.left)
  | scan start count requested into =>
      rw [Errand.dialogue, Record.scan]
      cases binding.scan with
      | unsupported => exact fun _ settled => settled
      | indexRange =>
          refine settles_reads (.bind ((KeyIndex.asks_range start count _).mono fun _ => And.left)
            fun nodes => .forEach fun node _ => ?_)
          exact (KeyIndex.asks_readFields node _ _).mono fun _ => And.left

/-- On an engine without open transactions an errand comes to the same by every mode. -/
theorem run_dialogue_reaching (settled : engine.transactions = ∅) {errand : Errand}
    (listed : errand.IsListed) (mode : Mode) (url : String) :
    (errand.dialogue (binding.reaching mode url)).run perform engine =
      (errand.dialogue (binding.reaching .embedded "")).run perform engine := by
  cases errand with
  | insert key fields =>
      cases mode with
      | embedded => rfl
      | remote => rfl
      | remoteBatch =>
          apply run_insertBatched
          rw [settled, Std.ExtTreeMap.getElem?_empty]
  | update key fields => rfl
  | delete key => rfl
  | read key requested into =>
      rcases Option.isSome_iff_exists.1 listed with ⟨names, rfl⟩
      rfl
  | scan start count requested into =>
      rcases Option.isSome_iff_exists.1 listed with ⟨names, rfl⟩
      rfl

end Engine

/-! ## Trials -/

/-- Carries out errands, one after another. Tells what is reported of each, and what an engine holds
after it. -/
def Client.carryOutAll (id : EngineId) : List Errand → Client → Host → List (Report × Snapshot)
  | [], _, _ => []
  | errand :: errands, client, host =>
      let (report, host) := client.carryOut errand host
      (report, (host.engine id).snapshot) :: carryOutAll id errands client host

def Client.trial (id : EngineId) (errands : List Errand) (client : Client) (host : Host) :
    Except Failure Unit × Snapshot × List (Report × Snapshot) :=
  let (outcome, client, host) := client.init host
  (outcome, (host.engine id).snapshot, client.carryOutAll id errands host)

def Engine.carryOutAll (binding : Binding) : List Errand → Engine → List (Report × Snapshot)
  | [], _ => []
  | errand :: errands, engine =>
      let (outcome, engine) := (errand.dialogue binding).run perform engine
      (errand.report outcome, engine.snapshot) :: carryOutAll binding errands engine

/-- The host is ready for a client of the binding to use an empty store, which is the one of the
engine: there is a directory for it, or a service in front of the engine, which has answered nobody
yet. -/
inductive Outset (binding : Binding) (place : RegistryId) (id : EngineId) (host : Host) : Prop where
  | near (embedded : binding.mode = .embedded) (free : (host.registry place).engine = none)
      (vacant : Disk.Vacant binding.url host.disk) (next : id = host.engines.length)
  | far (remote : binding.mode.isRemote = true) (base : Url) (service : ServiceId)
      (location : Option String) (based : RemoteLink.baseOf binding.url = .ok base)
      (rooted : Http.Rooted base) (leads : host.network = .loopback base.origin service)
      (there : id < host.engines.length) (found : host.fronts[service]? = some { engine := id })
      (empty : host.engine id = { location })

def Engine.indexed (index : String) : Engine :=
  { graph := { indexes := (∅ : NameMap NodeIndex).insert index {} } }

theorem Engine.run_provisionIndex_empty (location : Option String) {index : String}
    (named : index ≠ "") :
    (provisionIndex index).run perform { location } =
      (.ok (), (indexed index).movedTo location) :=
  run_provisionIndex_absent rfl (by simp [Graph.hasIndex]) named

theorem Outset.init {place : RegistryId} (outset : Outset binding place id host)
    (valid : binding.validate = .ok ()) :
    ∃ connection later location, ({ binding, registry := place } : Client).init host =
        (.ok (), { binding, registry := place, session := some connection }, later) ∧
      Host.Attached connection id later ∧
      later.engine id = (Engine.indexed binding.index).movedTo location := by
  have named := (Binding.named_of_valid valid).1
  cases outset with
  | near embedded free vacant next =>
      rcases vacant.open_new with ⟨disk, opened, -⟩
      have provisioned := Engine.run_provisionIndex_empty (some binding.url) named
      have acquired := Host.acquire_first free opened provisioned
      refine ⟨_, _, some binding.url, Party.init_acquired rfl valid embedded acquired, ?_, ?_⟩
      · exact ⟨next.symm, by simp [next]⟩
      · simp [Host.engine, next]
  | far remote base service location based rooted leads there found empty =>
      have knows : Http.Service.Knows {} (host.engine id) := by
        rw [empty]
        exact fun other => ⟨fun member => absurd member Std.ExtTreeSet.not_mem_empty,
          fun member => absurd member Std.ExtTreeMap.not_mem_empty⟩
      rcases Host.connect_mirrors host based rooted leads there found knows with
        ⟨linked, connected, mirrors⟩
      have attached : Host.Attached (.remote host.links.length) id linked :=
        ⟨service, mirrors.served⟩
      rcases attached.converse (sends_provisionIndex binding.index) with
        ⟨answered, after, holds⟩
      rw [mirrors.engine, empty, Engine.run_provisionIndex_empty location named]
        at answered holds
      refine ⟨_, _, location, Party.init_connected rfl valid ?_, after, holds⟩
      rw [Host.connectBy, if_pos remote, connected]
      cases conversed : linked.converse (.remote host.links.length)
          (provisionIndex binding.index) with
      | mk outcome later =>
          rw [conversed] at answered
          rcases answered with rfl
          simp only [conversed]

/-- With a connection to an engine without open transactions, it does not matter by which mode
errands are carried out, or where the engine is saved. -/
theorem Host.Attached.carryOutAll (attached : Host.Attached connection id host)
    (plain : Url.Keeps binding.index) (settled : engine.transactions = ∅)
    {location : Option String} (same : host.engine id = engine.movedTo location)
    (mode : Mode) (url : String) (place : RegistryId) {errands : List Errand}
    (listed : ∀ errand ∈ errands, errand.IsListed) :
    Client.carryOutAll id errands
        { binding := binding.reaching mode url, registry := place, session := some connection }
        host =
      Engine.carryOutAll (binding.reaching .embedded "") errands engine := by
  induction errands generalizing host engine with
  | nil => rfl
  | cons errand errands induction =>
      have asks : (errand.dialogue (binding.reaching mode url)).Asks Http.Sendable :=
        (errand.asks_dialogue _).mono fun call uses => uses.sendable plain
      rcases attached.converse asks with ⟨answered, after, holds⟩
      rw [same, Engine.run_movedTo,
        Engine.run_dialogue_reaching settled (listed errand List.mem_cons_self)]
        at answered holds
      have rest := induction after (Engine.settles_dialogue errand _ engine settled) holds
        fun other member => listed other (List.mem_cons_of_mem _ member)
      rw [Client.carryOutAll, Engine.carryOutAll, Client.carryOut_eq]
      dsimp only [Client.converse]
      rw [answered, holds, rest]
      rfl

/-- By all three modes the same is reported of every errand, and the same nodes, indexes and number
of the next node are there after the session has begun and after every errand. As in
`Host.run_remote` no bound is set on the bodies of requests. -/
theorem trial_reaching {url : Mode → String} {place : Mode → RegistryId} {id : Mode → EngineId}
    {host : Mode → Host}
    (outset : ∀ mode, Outset (binding.reaching mode (url mode)) (place mode) (id mode) (host mode))
    (valid : ∀ mode, (binding.reaching mode (url mode)).validate = .ok ())
    (plain : Url.Keeps binding.index) (errands : List Errand)
    (listed : ∀ errand ∈ errands, errand.IsListed) :
    ∃ snapshot reports, ∀ mode,
      Client.trial (id mode) errands
          { binding := binding.reaching mode (url mode), registry := place mode } (host mode) =
        (.ok (), snapshot, reports) := by
  refine ⟨(Engine.indexed binding.index).snapshot, Engine.carryOutAll
    (binding.reaching .embedded "") errands (Engine.indexed binding.index), fun mode => ?_⟩
  rcases (outset mode).init (valid mode) with ⟨connection, later, location, begun, attached, holds⟩
  rw [Client.trial, begun]
  dsimp only
  rw [attached.carryOutAll plain rfl holds mode (url mode) (place mode) listed, holds]
  rfl

/-- Records under one key: one with a field in the place of its key, and one that is refused. -/
theorem trial_reaching_queue :
    let url (mode : Mode) := if mode.isRemote then "http://h" else "data/graphbench"
    let host (mode : Mode) : Host := if mode.isRemote then
        { engines := [.inMemory], fronts := [{ engine := 0 }], network := .loopback "http://h" 0 }
      else { registries := [{}] }
    let errands : List Errand := [
      .insert "k" (((∅ : FieldMap).insert "_id" [120]).insert "f" [7]),
      .insert "k" ((∅ : FieldMap).insert "" [7]),
      .insert "k" ((∅ : FieldMap).insert "f" [8]),
      .update "k" ((∅ : FieldMap).insert "f" [9]),
      .read "k" (some ((∅ : FieldSet).insert "f")) ∅,
      .delete "k",
      .scan "" 5 (some ((∅ : FieldSet).insert "f")) []]
    let reported (mode : Mode) : List (Report × NodeId) :=
      (Client.trial 0 errands { binding := ({} : Binding).reaching mode (url mode), registry := 0 }
        (host mode)).2.2.map fun made => (made.1, made.2.nextNode)
    let expected : List (Report × NodeId) := [(.done .ok, 2), (.done .error, 3), (.done .ok, 4),
      (.done .ok, 4), (.found .ok ((∅ : FieldMap).insert "f" [9]), 4), (.done .ok, 4),
      (.listed .ok [(∅ : FieldMap).insert "f" [8]], 4)]
    reported .embedded = expected ∧ reported .remote = expected ∧
      reported .remoteBatch = expected := by
  intro url host errands reported expected
  have parsed : Url.parse? (Text.dropTrailing '/' "http://h" ++ RemoteLink.serviceRoot) =
      some ⟨"http", some "h", .parts Http.rootParts, none, none⟩ := by decide +kernel
  have based : RemoteLink.baseOf "http://h" =
      .ok ⟨"http", some "h", .parts Http.rootParts, none, none⟩ := by
    rw [RemoteLink.baseOf, parsed]
  have rooted : Http.Rooted ⟨"http", some "h", .parts Http.rootParts, none, none⟩ :=
    ⟨rfl, fun before given => by cases given⟩
  have outset (mode : Mode) :
      Outset (({} : Binding).reaching mode (url mode)) 0 0 (host mode) := by
    cases mode with
    | embedded => exact .near rfl rfl Party.fresh_atOutset.vacant rfl
    | remote => exact .far rfl _ 0 none based rooted rfl (by decide) rfl rfl
    | remoteBatch => exact .far rfl _ 0 none based rooted rfl (by decide) rfl rfl
  have valid (mode : Mode) :
      (({} : Binding).reaching mode (url mode)).validate = .ok () := by
    cases mode
    all_goals decide +kernel
  rcases trial_reaching outset valid (by decide) errands (by decide) with
    ⟨snapshot, reports, same⟩
  have alike (mode : Mode) : reported mode = reported .embedded := by
    simp only [reported, same]
  have near : reported .embedded = expected := by decide +kernel
  rw [alike .remote, alike .remoteBatch, near]
  exact ⟨rfl, rfl, rfl⟩

end RecordGraph
