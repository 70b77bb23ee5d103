import RecordGraph.Proofs.Client.Sharing
import RecordGraph.Proofs.Record.Abreast

namespace RecordGraph

/-! Hosts that differ in nothing that matters to some keys. A client comes and goes on both of them in
the same way. -/

/-- The hosts differ in nothing that matters to the keys: the engine that is held in a place keeps the
same records for them, and so do the snapshots. -/
structure Host.Abreast (keys : KeyIndex) (bound : Nat) (place : RegistryId) (host other : Host) :
    Prop where
  registries : other.registries = host.registries
  registered : place < host.registries.length
  length : other.engines.length = host.engines.length
  disks : host.disk.Alike (Snapshot.Abreast keys bound) other.disk
  held : ∀ id, (host.registry place).engine = some id →
    Engine.Abreast keys bound (host.engine id) (other.engine id)

namespace Host.Abreast

variable {keys : KeyIndex} {bound later : Nat} {place : RegistryId} {host other : Host}
  {binding : Binding} {id : EngineId} {first second : Engine}

theorem registry (abreast : Host.Abreast keys bound place host other) (own : RegistryId) :
    other.registry own = host.registry own := by
  rw [Host.registry, Host.registry, abreast.registries]

theorem mono (abreast : Host.Abreast keys bound place host other) (more : bound ≤ later) :
    Host.Abreast keys later place host other where
  registries := abreast.registries
  registered := abreast.registered
  length := abreast.length
  disks := ⟨abreast.disks.mishaps, abreast.disks.tree.mono fun one two decoding name => by
    have decoded := decoding name
    generalize Snapshot.decode name one = one at decoded
    generalize Snapshot.decode name two = two at decoded
    cases decoded with
    | failed failure => exact .failed failure
    | done abreast => exact .done (abreast.mono more)⟩
  held id held := (abreast.held id held).mono more

theorem there (abreast : Host.Abreast keys bound place host other)
    (held : (host.registry place).engine = some id) :
    id < host.engines.length ∧ id < other.engines.length := by
  have isOpen := (abreast.held id held).isOpen
  exact ⟨Host.lt_of_isOpen isOpen.1, Host.lt_of_isOpen isOpen.2⟩

theorem setEngine (abreast : Host.Abreast keys bound place host other)
    (held : (host.registry place).engine = some id) (engines : Engine.Abreast keys bound first second) :
    Host.Abreast keys bound place (host.setEngine id first) (other.setEngine id second) where
  registries := abreast.registries
  registered := abreast.registered
  length := by
    rw [Host.length_setEngine, Host.length_setEngine]
    exact abreast.length
  disks := abreast.disks
  held own heldOwn := by
    cases heldOwn.symm.trans held
    obtain ⟨there, thereOther⟩ := abreast.there held
    rw [Host.engine_setEngine there, Host.engine_setEngine thereOther]
    exact engines

theorem setRegistry (abreast : Host.Abreast keys bound place host other) {registry : Registry}
    (held : ∀ id, registry.engine = some id →
      Engine.Abreast keys bound (host.engine id) (other.engine id)) :
    Host.Abreast keys bound place (host.setRegistry place registry)
      (other.setRegistry place registry) where
  registries := by
    rw [Host.setRegistry, Host.setRegistry, abreast.registries]
  registered := by
    rw [Host.length_setRegistry]
    exact abreast.registered
  length := abreast.length
  disks := abreast.disks
  held id heldId := by
    rw [Host.registry_setRegistry abreast.registered] at heldId
    exact held id heldId

/-! ## Sessions -/

theorem acquire (abreast : Host.Abreast keys bound place host other) (least : 1 ≤ bound)
    (named : binding.index ≠ "") :
    (host.acquire place binding).1 = (other.acquire place binding).1 ∧
      Host.Abreast keys bound place (host.acquire place binding).2
        (other.acquire place binding).2 := by
  have registry := abreast.registry place
  cases held : (host.registry place).engine with
  | some id =>
      obtain ⟨there, thereOther⟩ := abreast.there held
      obtain ⟨ready, readyOther, run, runOther, engines⟩ :=
        (abreast.held id held).provisionIndex named
      have changed := abreast.setEngine held engines
      rw [Host.acquire_held held there run,
        Host.acquire_held (registry ▸ held) thereOther runOther, registry]
      exact ⟨rfl, changed.setRegistry changed.held⟩
  | none =>
      have free : (other.registry place).engine = none := registry ▸ held
      obtain ⟨outcome, disks⟩ := Engine.alike_openAt abreast.disks binding.url
      rcases opening : Engine.openAt binding.url host.disk with ⟨one, disk⟩
      rcases openingOther : Engine.openAt binding.url other.disk with ⟨two, diskOther⟩
      rw [opening, openingOther] at outcome disks
      dsimp only at outcome disks
      cases outcome with
      | failed failure =>
          rw [Host.acquire_unopened held opening, Host.acquire_unopened free openingOther]
          exact ⟨rfl, abreast.registries, abreast.registered, abreast.length, disks, abreast.held⟩
      | done opened =>
          obtain ⟨ready, readyOther, run, runOther, engines⟩ :=
            (opened.abreast least).provisionIndex named
          rw [Host.acquire_first held opening run, Host.acquire_first free openingOther runOther,
            registry, abreast.length]
          refine ⟨rfl, ?_, ?_, ?_, disks, fun id heldId => ?_⟩
          · rw [abreast.registries]
          · rw [List.length_set]
            exact abreast.registered
          · rw [List.length_append, List.length_append, abreast.length]
            rfl
          · have last : id = host.engines.length := by
              simpa [Host.registry, abreast.registered] using heldId.symm
            rw [last]
            simpa [Host.engine, ← abreast.length] using engines

theorem release (abreast : Host.Abreast keys bound place host other)
    (fits : ∀ id, (host.registry place).engine = some id → (host.engine id).snapshot.Fits)
    (fitsOther : ∀ id, (other.registry place).engine = some id →
      (other.engine id).snapshot.Fits) :
    Host.Abreast keys bound place (host.release place) (other.release place) := by
  have registry := abreast.registry place
  match holders : (host.registry place).holders with
  | 0 =>
      rw [Host.release, Host.release, registry]
      simp only [holders]
      exact abreast
  | others + 2 =>
      rw [Host.release_other holders, Host.release_other (registry ▸ holders), registry]
      exact abreast.setRegistry abreast.held
  | 1 =>
      cases held : (host.registry place).engine with
      | none =>
          rw [Host.release, Host.release, registry]
          simp only [holders, held]
          refine abreast.setRegistry fun id heldId => ?_
          cases heldId
      | some id =>
          have heldOther : (other.registry place).engine = some id := registry ▸ held
          have engines := abreast.held id held
          have decoding := engines.decoding (fits id held) (fitsOther id heldOther)
          have disks := Engine.alike_shutdown abreast.disks engines.isOpen.1 engines.isOpen.2
            engines.location decoding
          rcases shutting : (host.engine id).shutdown host.disk with ⟨outcome, shut, disk⟩
          rcases shuttingOther : (other.engine id).shutdown other.disk with
            ⟨outcomeOther, shutOther, diskOther⟩
          rw [shutting, shuttingOther] at disks
          rw [Host.release_last held holders shutting,
            Host.release_last heldOther (registry ▸ holders) shuttingOther, registry]
          refine ⟨?_, ?_, ?_, disks, fun own heldOwn => ?_⟩
          · rw [abreast.registries]
          · rw [List.length_set]
            exact abreast.registered
          · rw [List.length_set, List.length_set]
            exact abreast.length
          · simp [Host.registry, abreast.registered] at heldOwn

theorem init (abreast : Host.Abreast keys bound place host other) (least : 1 ≤ bound)
    {client : Client} (embedded : client.binding.mode = .embedded) (own : client.registry = place) :
    (client.init host).1 = (client.init other).1 ∧
      (client.init host).2.1 = (client.init other).2.1 ∧
      Host.Abreast keys bound place (client.init host).2.2 (client.init other).2.2 := by
  have isRemote : client.binding.mode.isRemote = false := by
    rw [embedded]
    rfl
  rw [Client.init, Client.init]
  split
  · exact ⟨rfl, rfl, abreast⟩
  split
  · exact ⟨rfl, rfl, abreast⟩
  · rename_i valid
    obtain ⟨outcome, acquired⟩ := abreast.acquire least (Binding.named_of_valid valid).1
    simp only [Host.connectBy, isRemote, Bool.false_eq_true, if_false, own]
    generalize host.acquire place client.binding = one at outcome acquired
    generalize other.acquire place client.binding = two at outcome acquired
    rcases one with ⟨one, after⟩
    rcases two with ⟨two, afterOther⟩
    dsimp only at outcome acquired
    subst outcome
    cases one with
    | error failure => exact ⟨rfl, rfl, acquired⟩
    | ok id => exact ⟨rfl, rfl, acquired⟩

end Host.Abreast

def Client.Valid (client : Client) : Prop :=
  client.isInitialized = true → client.binding.validate = .ok ()

theorem Client.Valid.init {client : Client} (valid : client.Valid) (host : Host) :
    (client.init host).2.1.Valid := by
  rw [Client.init]
  split
  · exact valid
  split
  · exact valid
  · rename_i done
    split
    · exact valid
    · exact fun _ => done

end RecordGraph
