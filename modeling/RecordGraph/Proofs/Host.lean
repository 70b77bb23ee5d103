import Mathlib.Tactic.Set
import RecordGraph.Host
import RecordGraph.Proofs.Dialogue

namespace RecordGraph

/-! What happens on a host when its engines are talked to, and when registries count their
holders. -/

namespace Host

variable {host : Host} {id : EngineId} {place : RegistryId}

/-! ## Parts of a host -/

theorem engine_setEngine (there : id < host.engines.length) (engine : Engine) :
    (host.setEngine id engine).engine id = engine := by
  simp [Host.engine, setEngine, there]

theorem engine_absent (beyond : host.engines.length ≤ id) :
    (host.engine id).isClosed = true := by
  rw [engine, List.getElem?_eq_none_iff.2 beyond]
  rfl

theorem lt_of_isOpen (isOpen : (host.engine id).isClosed = false) : id < host.engines.length :=
  Nat.lt_of_not_le fun beyond => Bool.false_ne_true (isOpen.symm.trans (engine_absent beyond))

theorem setEngine_engine (there : id < host.engines.length) :
    host.setEngine id (host.engine id) = host := by
  have same : host.engines.set id (host.engine id) = host.engines := by
    simp [Host.engine, there]
  rw [setEngine, same]

theorem setEngine_setEngine (first second : Engine) :
    (host.setEngine id first).setEngine id second = host.setEngine id second := by
  simp [setEngine]

theorem length_setEngine (engine : Engine) :
    (host.setEngine id engine).engines.length = host.engines.length := by
  simp [setEngine]

theorem registry_setRegistry (there : place < host.registries.length) (registry : Registry) :
    (host.setRegistry place registry).registry place = registry := by
  simp [Host.registry, setRegistry, there]

theorem length_setRegistry (registry : Registry) :
    (host.setRegistry place registry).registries.length = host.registries.length := by
  simp [setRegistry]

/-! ## Talking to an engine -/

theorem converse_embedded (there : id < host.engines.length) {Result : Type}
    (dialogue : Dialogue Result) :
    host.converse (.embedded id) dialogue =
      ((dialogue.run Engine.perform (host.engine id)).1,
        host.setEngine id (dialogue.run Engine.perform (host.engine id)).2) := by
  induction dialogue generalizing host with
  | finished outcome =>
      rw [converse, Dialogue.run_finished, Dialogue.run_finished, setEngine_engine there]
  | asking call next induction =>
      rw [converse, Dialogue.run, Dialogue.run, perform]
      dsimp only
      rcases (host.engine id).perform call with ⟨answer, engine⟩
      have later := @induction answer (host.setEngine id engine) (by
        rw [length_setEngine]
        exact there)
      rw [engine_setEngine there, setEngine_setEngine] at later
      exact later

/-! ## Holders -/

variable {binding : Binding} {engine ready closed : Engine} {disk : Disk}

theorem acquire_first (free : (host.registry place).engine = none)
    (opened : Engine.openAt binding.url host.disk = (.ok engine, disk))
    (provisioned : (provisionIndex binding.index).run Engine.perform engine = (.ok (), ready)) :
    host.acquire place binding = (.ok host.engines.length,
      { host with
        disk
        engines := host.engines ++ [ready]
        registries := host.registries.set place
          { engine := some host.engines.length, holders := (host.registry place).holders + 1
            opens := (host.registry place).opens + 1 } }) := by
  set before : Host := { host with disk, engines := host.engines ++ [engine] } with before_eq
  have there : host.engines.length < before.engines.length := by simp [before]
  have last : before.engine host.engines.length = engine := by simp [Host.engine, before]
  have conversed := converse_embedded there (provisionIndex binding.index)
  rw [last, provisioned] at conversed
  rw [acquire]
  simp only [free, openEngine, opened, addEngine]
  rw [← before_eq, conversed]
  simp [setRegistry, setEngine, before]

theorem acquire_unopened {failure : Failure} (free : (host.registry place).engine = none)
    (failed : Engine.openAt binding.url host.disk = (.error failure, disk)) :
    host.acquire place binding = (.error (unopened binding.url failure), { host with disk }) := by
  rw [acquire]
  simp only [free, openEngine, failed]

theorem acquire_held (held : (host.registry place).engine = some id)
    (there : id < host.engines.length)
    (provisioned : (provisionIndex binding.index).run Engine.perform (host.engine id) =
      (.ok (), ready)) :
    host.acquire place binding = (.ok id, (host.setEngine id ready).setRegistry place
      { host.registry place with holders := (host.registry place).holders + 1 }) := by
  have conversed := converse_embedded there (provisionIndex binding.index)
  rw [provisioned] at conversed
  rw [acquire]
  simp only [held, conversed]

theorem acquire_again (held : (host.registry place).engine = some id)
    (there : id < host.engines.length)
    (provisioned : (provisionIndex binding.index).run Engine.perform (host.engine id) =
      (.ok (), host.engine id)) :
    host.acquire place binding = (.ok id, host.setRegistry place
      { host.registry place with holders := (host.registry place).holders + 1 }) := by
  rw [acquire_held held there provisioned, setEngine_engine there]

theorem release_last (held : (host.registry place).engine = some id)
    (one : (host.registry place).holders = 1) {outcome : Except Failure Unit}
    (shut : (host.engine id).shutdown host.disk = (outcome, closed, disk)) :
    host.release place = { host with
      disk
      engines := host.engines.set id closed
      registries := host.registries.set place
        { host.registry place with holders := 0, engine := none } } := by
  have same : (host.setRegistry place { host.registry place with
      holders := 0, engine := none }).engine id = host.engine id := rfl
  rw [release]
  simp only [one, held, shutdownEngine, same]
  simp only [setRegistry, shut, setEngine]

theorem release_other {others : Nat} (more : (host.registry place).holders = others + 2) :
    host.release place = host.setRegistry place
      { host.registry place with holders := others + 1 } := by
  rw [release]
  simp only [more]

end Host

end RecordGraph
