import RecordGraph.Proofs.Succession

namespace RecordGraph

/-! Shutting an engine down again and again. A shutdown closes the engine whether its graph can be
saved or not, and one that finds the engine closed has nothing to do. So an engine of which no
shutdown has failed is what its directory holds; but one that has been closed without being saved is
never saved, and every later shutdown succeeds all the same. -/

def Turn.ShutsOnly (id : EngineId) : Turn → Prop
  | .shutDown own => own = id
  | _ => True

instance (id : EngineId) (turn : Turn) : Decidable (turn.ShutsOnly id) :=
  match turn with
  | .shutDown own => inferInstanceAs (Decidable (own = id))
  | .create => instDecidableTrue
  | .openAt _ => instDecidableTrue
  | .call _ _ => instDecidableTrue
  | .request _ _ => instDecidableTrue
  | .drop _ _ => instDecidableTrue

def Host.savesAll : List Turn → Host → Bool
  | [], _ => true
  | turn :: later, host => turn.saves host && savesAll later (host.turn turn)

/-! ## Events -/

namespace Event

variable {engine : Engine}

theorem location_change (event : Event) (engine : Engine) :
    (event.change engine).location = engine.location := by
  cases event with
  | call made => exact (engine.frame_perform made).1
  | drop id => rfl
  | shutdown disk =>
      rw [change, Engine.shutdown]
      split
      · rfl
      · rfl

/-- An engine that is closed stays closed, with the graph and the counter that it has. -/
theorem change_closed (closed : engine.isClosed = true) (event : Event) :
    (event.change engine).isClosed = true ∧ (event.change engine).snapshot = engine.snapshot := by
  cases event with
  | call made =>
      refine ⟨(engine.frame_perform made).2.trans closed, ?_⟩
      rw [change, Engine.snapshot, Engine.nextNode_perform, Engine.allocations_closed closed,
        Engine.graph_perform_closed closed, Engine.snapshot]
      simp
  | drop id => exact ⟨closed, rfl⟩
  | shutdown disk =>
      rw [change, Engine.shutdown, if_pos closed]
      exact ⟨closed, rfl⟩

end Event

theorem Turn.shutDown_of_event? {id : EngineId} {host : Host} {turn : Turn} {disk : Disk}
    (happens : turn.event? id host = some (.shutdown disk)) : turn = .shutDown id := by
  rcases Turn.event?_cases happens with ⟨_, ⟨⟩, -⟩ | ⟨_, ⟨⟩, -⟩ | ⟨-, shutDown⟩
  exact shutDown

namespace Host

variable {host : Host} {id : EngineId} {directory : String}

/-! ## Turns without a shutdown -/

theorem closed_turn (there : id < host.engines.length)
    (closed : (host.engine id).isClosed = true) (turn : Turn) :
    ((host.turn turn).engine id).isClosed = true ∧
      ((host.turn turn).engine id).snapshot = (host.engine id).snapshot := by
  rw [engine_turn there]
  cases turn.event? id host with
  | none => exact ⟨closed, rfl⟩
  | some event => exact event.change_closed closed

theorem snapshot_turns (there : id < host.engines.length)
    (closed : (host.engine id).isClosed = true) (turns : List Turn) :
    ((host.turns turns).engine id).snapshot = (host.engine id).snapshot := by
  induction turns generalizing host with
  | nil => rfl
  | cons turn later induction =>
      obtain ⟨stays, same⟩ := closed_turn there closed turn
      exact (induction (Nat.lt_of_lt_of_le there (host.length_turn turn)) stays).trans same

theorem location_turn (there : id < host.engines.length) (turn : Turn) :
    ((host.turn turn).engine id).location = (host.engine id).location := by
  rw [engine_turn there]
  cases turn.event? id host with
  | none => rfl
  | some event => exact event.location_change _

theorem isClosed_turn {turn : Turn} (there : id < host.engines.length) (other : turn ≠ .shutDown id) :
    ((host.turn turn).engine id).isClosed = (host.engine id).isClosed := by
  rw [engine_turn there]
  cases happens : turn.event? id host with
  | none => rfl
  | some event =>
      cases event with
      | call made => exact ((host.engine id).frame_perform made).2
      | drop transaction => rfl
      | shutdown disk => exact absurd (Turn.shutDown_of_event? happens) other

theorem holds_turn {turn : Turn} {file : Bytes} (holds : Disk.Holds directory file host.disk)
    (other : ∀ own, turn ≠ .shutDown own) : Disk.Holds directory file (host.turn turn).disk := by
  cases turn with
  | openAt place =>
      have kept := holds.openAt place
      rw [Host.turn, openEngine]
      rcases opening : Engine.openAt place host.disk with ⟨failure | engine, disk⟩
      · rw [opening] at kept
        exact kept
      · rw [opening] at kept
        exact kept
  | request service request =>
      rw [Host.turn, disk_respond]
      exact holds
  | shutDown own => exact absurd rfl (other own)
  | create => exact holds
  | call own call => exact holds
  | drop own transaction => exact holds

/-! ## Shutdowns -/

theorem shutdownEngine_closed (there : id < host.engines.length)
    (closed : (host.engine id).isClosed = true) : host.shutdownEngine id = (.ok (), host) := by
  rw [shutdownEngine, Engine.shutdown, if_pos closed]
  exact congrArg (Prod.mk _) (setEngine_engine there)

theorem engine_shutDown (there : id < host.engines.length) :
    (host.turn (.shutDown id)).engine id = ((host.engine id).shutdown host.disk).2.1 := by
  set written : Host := { host with disk := ((host.engine id).shutdown host.disk).2.2 }
  have inside : id < written.engines.length := there
  exact engine_setEngine inside _

/-! ## The engine that keeps its graph in a directory -/

/-- The engine has been saved if it is closed, unless one of its shutdowns has failed; then it is
closed. -/
structure Kept (directory : String) (id : EngineId) (saved : Bool) (host : Host) : Prop where
  there : id < host.engines.length
  location : (host.engine id).location = some directory
  failed : saved = false → (host.engine id).isClosed = true
  held : saved = true → (host.engine id).isClosed = true →
    Disk.Holds directory (host.engine id).snapshot.encode host.disk

variable {saved : Bool}

theorem kept_open {opened : Host} (opening : host.openEngine directory = (.ok id, opened)) :
    opened.Kept directory id true := by
  rw [openEngine] at opening
  rcases outcome : Engine.openAt directory host.disk with ⟨failure | engine, disk⟩
  · rw [outcome] at opening
    cases opening
  · rw [outcome] at opening
    cases opening
    obtain ⟨location, isOpen⟩ := Engine.frame_openAt (congrArg Prod.fst outcome)
    have last : (({ host with disk } : Host).addEngine engine).2.engine host.engines.length =
        engine := by simp [Host.engine, addEngine]
    rw [← last] at location isOpen
    exact {
      there := by simp
      location := location
      failed := fun unsaved => absurd unsaved Bool.false_ne_true.symm
      held := fun _ closed => absurd (isOpen.symm.trans closed) Bool.false_ne_true }

theorem Kept.pass {turn : Turn} (kept : host.Kept directory id saved)
    (other : ∀ own, turn ≠ .shutDown own) :
    (host.turn turn).Kept directory id saved where
  there := Nat.lt_of_lt_of_le kept.there (host.length_turn turn)
  location := (location_turn kept.there turn).trans kept.location
  failed unsaved := (isClosed_turn kept.there (other id)).trans (kept.failed unsaved)
  held safe closed := by
    have before := (isClosed_turn kept.there (other id)).symm.trans closed
    rw [(closed_turn kept.there before turn).2]
    exact holds_turn (kept.held safe before) other

theorem Kept.shutDown (kept : host.Kept directory id saved) :
    (host.turn (.shutDown id)).Kept directory id (saved && Turn.saves host (.shutDown id)) := by
  cases isClosed : (host.engine id).isClosed with
  | true =>
      rw [Host.turn, Turn.saves, shutdownEngine_closed kept.there isClosed]
      rw [Except.isOk, Except.toBool, Bool.and_true]
      exact kept
  | false =>
      exact {
        there := Nat.lt_of_lt_of_le kept.there (host.length_turn _)
        location := (location_turn kept.there _).trans kept.location
        failed := fun _ => by
          rw [engine_shutDown kept.there]
          exact (Engine.frame_shutdown _ _).1
        held := fun safe _ => by
          rw [engine_shutDown kept.there]
          exact Engine.holds_shutdown isClosed kept.location (Bool.and_eq_true_iff.1 safe).2 }

theorem Kept.turn {turn : Turn} (kept : host.Kept directory id saved)
    (only : turn.ShutsOnly id) :
    (host.turn turn).Kept directory id (saved && turn.saves host) := by
  have passes (saves : turn.saves host = true) (other : ∀ own, turn ≠ .shutDown own) :
      (host.turn turn).Kept directory id (saved && turn.saves host) := by
    rw [saves, Bool.and_true]
    exact kept.pass other
  cases turn with
  | shutDown own =>
      rcases only with rfl
      exact kept.shutDown
  | _ => exact passes rfl fun own same => by cases same

theorem Kept.turns {turns : List Turn} (kept : host.Kept directory id saved)
    (only : ∀ turn ∈ turns, turn.ShutsOnly id) :
    (host.turns turns).Kept directory id (saved && host.savesAll turns) := by
  induction turns generalizing host saved with
  | nil =>
      rw [savesAll, Bool.and_true]
      exact kept
  | cons turn later induction =>
      rw [savesAll, ← Bool.and_assoc]
      exact induction (kept.turn (only turn List.mem_cons_self))
        fun other among => only other (List.mem_cons_of_mem _ among)

/-! ## Every shutdown that succeeds -/

/-- Whatever is done after an engine has been opened on a directory, and whatever goes wrong on the
disk: where a shutdown of the engine succeeds and none before it has failed, the directory holds what
the engine has come to, loading it gives just this, and the engine never changes again. Where one
before it has failed, the shutdown that succeeds does nothing. -/
theorem shutdown_succeeds {opened : Host} (opening : host.openEngine directory = (.ok id, opened))
    (turns : List Turn) (only : ∀ turn ∈ turns, turn.ShutsOnly id) :
    let before := opened.turns turns
    let after := (before.shutdownEngine id).2
    let final := (before.engine id).snapshot
    (before.shutdownEngine id).1 = .ok () →
      (opened.savesAll turns = true →
        Disk.Holds directory final.encode after.disk ∧
        (final.Fits → ∀ later : Disk, later.tree = after.disk.tree → later.mishaps = [] →
          Snapshot.load directory later = (.ok (some final), later)) ∧
        ∀ more, ((after.turns more).engine id).snapshot = final) ∧
      (opened.savesAll turns = false → (before.engine id).isClosed = true ∧ after = before) := by
  intro before after final succeeded
  have kept : before.Kept directory id (opened.savesAll turns) := (kept_open opening).turns only
  constructor
  · intro safe
    have saves : Turn.saves before (.shutDown id) = true := by rw [Turn.saves, succeeded]; rfl
    have later : after.Kept directory id true := by
      have reached := kept.shutDown
      rwa [safe, saves] at reached
    obtain ⟨closed, same⟩ : (after.engine id).isClosed = true ∧
        (after.engine id).snapshot = final := by
      have shut := engine_shutDown kept.there
      rw [Host.turn] at shut
      rw [shut]
      exact Engine.frame_shutdown _ _
    have holds : Disk.Holds directory final.encode after.disk := by
      have held := later.held rfl closed
      rwa [same] at held
    refine ⟨holds, fun fits disk tree calm => ?_, fun more => ?_⟩
    · rw [Snapshot.load_calm (holds.of_tree tree) calm, Snapshot.decode_encode _ fits]
      rfl
    · exact (snapshot_turns later.there closed more).trans same
  · intro unsaved
    have closed := kept.failed unsaved
    exact ⟨closed, congrArg Prod.snd (shutdownEngine_closed kept.there closed)⟩

/-- A node is stored, and its engine is shut down twice on a disk that is sound. -/
theorem shutdown_succeeds_twice :
    let opened := (({} : Host).openEngine "/g").2
    let turns := [Turn.call 0 (.executeBatch [.createNode ∅]), .shutDown 0]
    let before := opened.turns turns
    let after := (before.shutdownEngine 0).2
    (before.shutdownEngine 0).1 = .ok () ∧ (before.engine 0).graph.nodes.keys = [1] ∧
      (Snapshot.load "/g" after.disk).1 = .ok (some (before.engine 0).snapshot) := by
  intro opened turns before after
  have opening : (({} : Host).openEngine "/g").1 = .ok 0 := by decide +kernel
  have succeeded : (before.shutdownEngine 0).1 = .ok () := by decide +kernel
  have calm : after.disk.mishaps = [] := by decide +kernel
  obtain ⟨-, loads, -⟩ := (shutdown_succeeds (Prod.ext opening rfl) turns (by decide)
    succeeded).1 (by decide +kernel)
  exact ⟨succeeded, by decide +kernel, congrArg Prod.fst (loads (by decide +kernel) _ rfl calm)⟩

/-- The draft of the snapshot cannot be written to its end when the engine is shut down. When it is
shut down again, there is nothing that goes wrong, and nothing that is saved. -/
theorem shutdown_succeeds_unsaved :
    let host : Host := { disk := { mishaps := [none, none, none, some 3] } }
    let before := host.turns [.openAt "/g", .call 0 (.executeBatch [.createNode ∅])]
    let between := before.shutdownEngine 0
    let after := between.2.shutdownEngine 0
    between.1.isOk = false ∧ after.1 = .ok () ∧
      (after.2.engine 0).graph.nodes.keys = [1] ∧ after.2.disk.mishaps = [] ∧
      (Snapshot.load "/g" after.2.disk).1 = .ok none := by
  intro host before between after
  exact ⟨by decide +kernel, by decide +kernel, by decide +kernel, by decide +kernel,
    by decide +kernel⟩

end Host

end RecordGraph
