import RecordGraph.Proofs.Engine.Effect
import RecordGraph.Proofs.File.Saving
import RecordGraph.Proofs.Graph.Validation
import RecordGraph.Proofs.Host

namespace RecordGraph

/-! Registries: all that can come of acquiring and releasing the engine of one. -/

/-! ## Engines that only grow -/

/-- What an engine cannot lose: it stays open or closed, and keeps its indexes. -/
structure Engine.Grows (engine later : Engine) : Prop where
  isClosed : later.isClosed = engine.isClosed
  indexes : ∀ index, engine.graph.hasIndex index = true → later.graph.hasIndex index = true

namespace Engine

variable {engine later : Engine}

theorem grows_refl (engine : Engine) : engine.Grows engine := ⟨rfl, fun _ there => there⟩

theorem Grows.trans {last : Engine} (first : engine.Grows later) (second : later.Grows last) :
    engine.Grows last where
  isClosed := second.isClosed.trans first.isClosed
  indexes index there := second.indexes index (first.indexes index there)

theorem grows_perform (call : Call) (engine : Engine) : engine.Grows (engine.perform call).2 where
  isClosed := (engine.frame_perform call).2
  indexes index there := by
    rcases engine.graph_perform call with same | ⟨-, -, ⟨writes, -, performed⟩ | ⟨name, created⟩⟩
    · rw [same]
      exact there
    · rw [performed, Graph.hasIndex_performAll]
      exact there
    · rw [created, Graph.hasIndex, Std.ExtTreeMap.contains_insert]
      exact Bool.or_eq_true_iff.2 (.inr there)

theorem grows_run {Result : Type} (dialogue : Dialogue Result) (engine : Engine) :
    engine.Grows (dialogue.run perform engine).2 := by
  induction dialogue generalizing engine with
  | finished outcome => exact grows_refl engine
  | asking call next induction =>
      exact (engine.grows_perform call).trans (induction _ (engine.perform call).2)

theorem run_provisionIndex_cases (isOpen : engine.isClosed = false) (index : String) :
    (∃ failure, (provisionIndex index).run perform engine = (.error failure, engine)) ∨
      ∃ ready, (provisionIndex index).run perform engine = (.ok (), ready) ∧
        ready.graph.hasIndex index = true := by
  have still : ¬ engine.isClosed = true := by simp [isOpen]
  rw [provisionIndex, Dialogue.run_bind, Dialogue.run_attempt, Dialogue.run_ask, perform,
    createIndex, if_neg still]
  split_ifs with unnamed there
  · exact .inl ⟨_, rfl⟩
  · exact .inr ⟨engine, rfl, there⟩
  · refine .inr ⟨_, rfl, ?_⟩
    rw [Graph.hasIndex, Std.ExtTreeMap.contains_insert_self]

end Engine

/-! ## Acquiring -/

namespace Host

variable {host : Host} {place : RegistryId} {binding : Binding}

/-- What can come of acquiring the engine of a registry: nothing, but that an engine may have been
opened and shut down again; or one more holder of the engine that is held; or the first holder of an
engine that is opened. Whoever gets an engine finds the index there. -/
inductive Acquires (place : RegistryId) (index : String) (host : Host) :
    Except Failure EngineId × Host → Prop where
  | refused (failure : Failure) (disk : Disk) (shut : List Engine)
      (closed : ∀ engine ∈ shut, engine.isClosed = true) :
      Acquires place index host
        (.error failure, { host with disk, engines := host.engines ++ shut })
  | shared (id : EngineId) (ready : Engine) (held : (host.registry place).engine = some id)
      (grows : (host.engine id).Grows ready) (provisioned : ready.graph.hasIndex index = true) :
      Acquires place index host (.ok id, (host.setEngine id ready).setRegistry place
        { engine := some id, holders := (host.registry place).holders + 1
          opens := (host.registry place).opens })
  | opened (ready : Engine) (disk : Disk) (free : (host.registry place).engine = none)
      (isOpen : ready.isClosed = false) (provisioned : ready.graph.hasIndex index = true) :
      Acquires place index host (.ok host.engines.length,
        ({ host with disk, engines := host.engines ++ [ready] } : Host).setRegistry place
          { engine := some host.engines.length, holders := (host.registry place).holders + 1
            opens := (host.registry place).opens + 1 })

private theorem acquires_held {id : EngineId} (held : (host.registry place).engine = some id)
    (there : id < host.engines.length) (isOpen : (host.engine id).isClosed = false) :
    Acquires place binding.index host (host.acquire place binding) := by
  have conversed := converse_embedded there (provisionIndex binding.index)
  have grows := Engine.grows_run (provisionIndex binding.index) (host.engine id)
  rw [acquire]
  simp only [held]
  rcases Engine.run_provisionIndex_cases isOpen binding.index with
    ⟨failure, failed⟩ | ⟨ready, done, provisioned⟩
  · rw [failed, setEngine_engine there] at conversed
    rw [conversed]
    have unchanged : Acquires place binding.index host (.error (unprovisioned binding.index failure),
        { host with engines := host.engines ++ [] }) :=
      .refused _ host.disk [] fun engine none => by cases none
    rwa [List.append_nil] at unchanged
  · rw [done] at conversed grows
    rw [conversed]
    exact .shared id ready held grows provisioned

private theorem acquires_free (free : (host.registry place).engine = none) :
    Acquires place binding.index host (host.acquire place binding) := by
  rw [acquire]
  simp only [free, openEngine]
  rcases opening : Engine.openAt binding.url host.disk with ⟨failure | engine, disk⟩
  · have unchanged : Acquires place binding.index host (.error (unopened binding.url failure),
        { host with disk, engines := host.engines ++ [] }) :=
      .refused _ disk [] fun engine none => by cases none
    rwa [List.append_nil] at unchanged
  simp only [addEngine]
  set added : Host := { host with disk, engines := host.engines ++ [engine] } with added_eq
  have there : host.engines.length < added.engines.length := by simp [added]
  have last : added.engine host.engines.length = engine := by simp [Host.engine, added]
  have isOpen := (Engine.frame_openAt (congrArg Prod.fst opening)).2
  have conversed := converse_embedded there (provisionIndex binding.index)
  have grows := Engine.grows_run (provisionIndex binding.index) engine
  rw [last] at conversed
  rcases Engine.run_provisionIndex_cases isOpen binding.index with
    ⟨failure, failed⟩ | ⟨ready, done, provisioned⟩
  · rw [failed, ← last, setEngine_engine there] at conversed
    rw [conversed]
    have gone := (Engine.frame_shutdown (added.engine host.engines.length) added.disk).1
    simp only [shutdownEngine]
    rcases shutting : (added.engine host.engines.length).shutdown added.disk with
      ⟨outcome, shut, after⟩
    rw [shutting] at gone
    have set_last : ({ added with disk := after } : Host).setEngine host.engines.length shut =
        { host with disk := after, engines := host.engines ++ [shut] } := by
      simp [added, setEngine]
    rw [set_last]
    refine .refused _ after [shut] fun engine member => ?_
    rw [List.mem_singleton.1 member]
    exact gone
  · rw [done] at conversed grows
    rw [conversed]
    have set_last : added.setEngine host.engines.length ready =
        { host with disk, engines := host.engines ++ [ready] } := by simp [added, setEngine]
    simp only [set_last]
    exact .opened ready disk free (grows.isClosed.trans isOpen) provisioned

theorem acquire_cases (place : RegistryId) (binding : Binding)
    (held : ∀ id, (host.registry place).engine = some id →
      id < host.engines.length ∧ (host.engine id).isClosed = false) :
    Acquires place binding.index host (host.acquire place binding) := by
  cases engine : (host.registry place).engine with
  | none => exact acquires_free engine
  | some id => exact acquires_held engine (held id engine).1 (held id engine).2

end Host

end RecordGraph
