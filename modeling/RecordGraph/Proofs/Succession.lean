import RecordGraph.Proofs.Engine.Retirement
import RecordGraph.Proofs.File.Restoring
import RecordGraph.Proofs.Lifetime

namespace RecordGraph

/-! Engines over one directory, one after another. Each is shut down before the next is opened, which
goes on where it has stopped: with its graph, and with the number that would have been its next. So
the numbers that all of them hand out are counted through, and what one of them has deleted none of
them brings back. -/

/-! ## Orderly runs -/

def Turn.saves (host : Host) : Turn → Bool
  | .shutDown id => (host.shutdownEngine id).1.isOk
  | _ => true

/-- Engines are opened at one directory only, and only if all others have been shut down and saved.
Whoever opens the directory can see whether it has a snapshot: where the disk fails at this look,
there seems to be none, and the numbers begin again. -/
def Turn.Orderly (directory : String) (saved : Bool) (host : Host) : Turn → Prop
  | .create => False
  | .openAt other =>
      other = directory ∧ saved = true ∧ (∀ engine ∈ host.engines, engine.isClosed = true) ∧
        Engine.Sighted directory host.disk
  | _ => True

instance (directory : String) (saved : Bool) (host : Host) (turn : Turn) :
    Decidable (turn.Orderly directory saved host) :=
  match turn with
  | .create => instDecidableFalse
  | .openAt other => inferInstanceAs (Decidable (other = directory ∧ saved = true ∧
      (∀ engine ∈ host.engines, engine.isClosed = true) ∧ Engine.Sighted directory host.disk))
  | .call _ _ => instDecidableTrue
  | .request _ _ => instDecidableTrue
  | .drop _ _ => instDecidableTrue
  | .shutDown _ => instDecidableTrue

namespace Host

/-- Turns that are orderly one after another. `saved` says whether everything that has been shut
down before has been saved. -/
def Orderly (directory : String) : (saved : Bool) → List Turn → Host → Prop
  | _, [], _ => True
  | saved, turn :: later, host =>
      turn.Orderly directory saved host ∧
        Orderly directory (saved && turn.saves host) later (host.turn turn)

instance decidableOrderly (directory : String) : (saved : Bool) → (turns : List Turn) →
    (host : Host) → Decidable (host.Orderly directory saved turns)
  | _, [], _ => instDecidableTrue
  | saved, turn :: later, host =>
      have := decidableOrderly directory (saved && turn.saves host) later (host.turn turn)
      inferInstanceAs (Decidable (turn.Orderly directory saved host ∧
        Orderly directory (saved && turn.saves host) later (host.turn turn)))

def made : Turn → Host → Option (EngineId × Call)
  | .call id call, _ => some (id, call)
  | .request service request, host => host.passed service request
  | _, _ => none

def handed (turn : Turn) (host : Host) : List NodeId :=
  match host.made turn with
  | none => []
  | some (id, call) => (host.engine id).handed call

def handedThrough : List Turn → Host → List NodeId
  | [], _ => []
  | turn :: later, host => host.handed turn ++ handedThrough later (host.turn turn)

end Host

def Turn.Deletes (node : NodeId) (id : EngineId) (host : Host) (turn : Turn) : Prop :=
  ∃ (own : TransactionId) (transaction : Transaction),
    turn.event? id host = some (.call (.commit own)) ∧
      (host.engine id).transactions[own]? = some transaction ∧
      .deleteNode node ∈ transaction.writes ∧ ((host.engine id).commit own).1 = .ok ()

namespace Host

variable {host : Host} {turn : Turn} {id : EngineId} {call : Call}

theorem allocations_eq (turn : Turn) (host : Host) :
    host.allocations turn = match host.made turn with
      | none => 0
      | some (id, call) => (host.engine id).allocations call := by
  cases turn with
  | _ => rfl

theorem turn_made (called : host.made turn = some (id, call)) :
    (host.turn turn).engines = host.engines.set id ((host.engine id).perform call).2 ∧
      (host.turn turn).disk = host.disk := by
  cases turn with
  | call own other =>
      obtain ⟨rfl, rfl⟩ := Prod.mk.inj (Option.some.inj called)
      exact ⟨rfl, rfl⟩
  | request service request =>
      have engines := host.engines_respond service request
      have through : host.passed service request = some (id, call) := called
      rw [through] at engines
      exact ⟨engines, host.disk_respond service request⟩
  | _ => cases called

theorem made_of_event? (happens : turn.event? id host = some (.call call)) :
    host.made turn = some (id, call) := by
  rcases Turn.event?_cases happens with
    ⟨_, ⟨⟩, rfl | ⟨service, asked, rfl, through⟩⟩ | ⟨_, ⟨⟩, -⟩ | ⟨⟨⟩, -⟩
  · rfl
  · exact through

theorem opens_of_length_lt (more : host.engines.length < (host.turn turn).engines.length) :
    turn = .create ∨ ∃ directory engine, turn = .openAt directory ∧
      (Engine.openAt directory host.disk).1 = .ok engine ∧
      (host.turn turn).engines = host.engines ++ [engine] := by
  cases turn with
  | create => exact .inl rfl
  | openAt directory =>
      refine .inr ?_
      rw [Host.turn, openEngine] at more ⊢
      rcases opening : Engine.openAt directory host.disk with ⟨failure | engine, disk⟩
      · rw [opening] at more
        exact absurd more (Nat.lt_irrefl _)
      · exact ⟨directory, engine, rfl, congrArg Prod.fst opening, rfl⟩
  | request service request =>
      rw [Host.turn, engines_respond] at more
      split at more
      · exact absurd more (Nat.lt_irrefl _)
      · simp at more
  | _ => simp [Host.turn, Host.perform, abandon, shutdownEngine, setEngine] at more

end Host

/-! ## The engine that serves a directory -/

structure Engine.Serving (directory : String) (next : NodeId) (engine : Engine) : Prop where
  location : engine.location = some directory
  numbered : engine.Numbered
  started : 1 ≤ engine.nextNode
  next : engine.nextNode = next

namespace Engine

variable {engine : Engine} {directory : String} {next : NodeId}

theorem serving_new (directory : String) : (ofGraph (some directory) {} 0).Serving directory 1 :=
  have first : (ofGraph none {} 0).nextNode = 1 := by decide
  { location := rfl
    numbered := numbered_ofGraph _ _ fun node there => by simp [Graph.hasNode] at there
    started := UInt64.le_of_eq first.symm
    next := first }

theorem Serving.perform (serving : engine.Serving directory next) {call : Call}
    (room : next.toNat + engine.allocations call < 2 ^ 64) :
    (engine.perform call).2.Serving directory
      (next + UInt64.ofNat (engine.allocations call)) where
  location := (engine.frame_perform call).1.trans serving.location
  numbered := serving.numbered.perform (serving.next ▸ room)
  started := by
    have started := UInt64.le_iff_toNat_le.1 serving.started
    rw [serving.next] at started
    rw [nextNode_perform, serving.next, UInt64.le_iff_toNat_le, toNat_add_ofNat room]
    exact Nat.le_add_right_of_le started
  next := by rw [nextNode_perform, serving.next]

theorem Serving.forget (serving : engine.Serving directory next) (id : TransactionId) :
    (engine.forget id).Serving directory next :=
  { serving with numbered := serving.numbered.forget id }

theorem Serving.shutdown (serving : engine.Serving directory next) (disk : Disk) :
    (engine.shutdown disk).2.1.Serving directory next := by
  rw [Engine.shutdown]
  split
  · exact serving
  · exact { serving with
      numbered := serving.numbered.of_same rfl (UInt64.le_refl _) fun _ _ found => found }

theorem Serving.nextNode_reopen (serving : engine.Serving directory next) :
    (ofGraph (some directory) engine.graph engine.nextNode).nextNode = engine.nextNode :=
  nextNode_ofGraph serving.numbered.graph serving.started (some directory)

/-- Who opens the graph of an engine counts on where the engine has stopped. -/
theorem Serving.reopen (serving : engine.Serving directory next) :
    (ofGraph (some directory) engine.graph engine.nextNode).Serving directory next where
  location := rfl
  numbered := numbered_ofGraph _ _ fun node there => by
    have below := UInt64.lt_iff_toNat_lt.1 (serving.numbered.graph node there)
    have word := engine.nextNode.toNat_lt
    omega
  started := by
    rw [serving.nextNode_reopen]
    exact serving.started
  next := serving.nextNode_reopen.trans serving.next

theorem holds_shutdown {disk : Disk} (isOpen : engine.isClosed = false)
    (location : engine.location = some directory)
    (saved : (engine.shutdown disk).1.isOk = true) :
    Disk.Holds directory (engine.shutdown disk).2.1.snapshot.encode
      (engine.shutdown disk).2.2 := by
  have still : ¬ engine.isClosed = true := by simp [isOpen]
  rw [shutdown, if_neg still, persist, location] at saved ⊢
  dsimp only at saved ⊢
  rcases saving : engine.snapshot.save directory disk with ⟨failure | done, after⟩
  · rw [saving] at saved
    cases saved
  · exact Snapshot.holds_save saving

end Engine

/-! ## One engine after another -/

/-- No engine has been opened yet, and nothing is stored; or there is a last engine, all before it
are closed, and when it is closed as well, its directory holds what it has left. -/
inductive Host.Succession (directory : String) (saved : Bool) (next : NodeId) (host : Host) : Prop
  | unopened (unused : host.engines = [])
      (blank : host.disk.tree.Bears Snapshot.fileName fun _ => False) (first : next = 1)
  | opened (earlier : List Engine) (last : Engine) (engines : host.engines = earlier ++ [last])
      (closed : ∀ engine ∈ earlier, engine.isClosed = true)
      (serving : last.Serving directory next)
      (held : saved = true → last.isClosed = true →
        Disk.Holds directory last.snapshot.encode host.disk)

namespace Host.Succession

variable {directory : String} {saved : Bool} {next : NodeId} {host later : Host} {id : EngineId}

theorem engine_cases (succession : host.Succession directory saved next) (id : EngineId) :
    (host.engine id).isClosed = true ∨
      host.engines.length = id + 1 ∧ (host.engine id).Serving directory next := by
  cases succession with
  | unopened unused => exact .inl (engine_absent (by simp [unused]))
  | opened earlier last engines closed serving =>
      rcases Nat.lt_trichotomy id earlier.length with before | rfl | after
      · refine .inl (closed _ ?_)
        rw [engine, engines, List.getElem?_append_left before, List.getElem?_eq_getElem before]
        exact List.getElem_mem before
      · refine .inr ⟨by simp [engines], ?_⟩
        have same : host.engine earlier.length = last := by simp [engine, engines]
        rwa [same]
      · exact .inl (engine_absent (by simp [engines]; omega))

theorem change {changed : Engine} {savedLater : Bool} {nextLater : NodeId}
    (succession : host.Succession directory saved next)
    (engines : later.engines = host.engines.set id changed)
    (saves : savedLater = true → saved = true)
    (quiet : (host.engine id).isClosed = true → changed.isClosed = true ∧
      changed.snapshot = (host.engine id).snapshot ∧ nextLater = next ∧ later.disk = host.disk)
    (serving : (host.engine id).Serving directory next → changed.Serving directory nextLater)
    (held : (host.engine id).isClosed = false → (host.engine id).location = some directory →
      savedLater = true → changed.isClosed = true →
        Disk.Holds directory changed.snapshot.encode later.disk) :
    later.Succession directory savedLater nextLater := by
  cases succession with
  | unopened unused blank first =>
      obtain ⟨-, -, same, disk⟩ := quiet (engine_absent (by simp [unused]))
      refine .unopened (by simp [engines, unused]) ?_ (same.trans first)
      rw [disk]
      exact blank
  | opened earlier last before closed own kept =>
      -- the engine is one that is closed already, or the last one, or there is none
      rcases Nat.lt_trichotomy id earlier.length with inside | rfl | beyond
      · have member : host.engine id ∈ earlier := by
          rw [engine, before, List.getElem?_append_left inside, List.getElem?_eq_getElem inside]
          exact List.getElem_mem inside
        obtain ⟨shut, -, same, disk⟩ := quiet (closed _ member)
        rw [before, List.set_append_left _ _ inside] at engines
        refine .opened (earlier.set id changed) last engines (fun other among => ?_)
          (same ▸ own) fun safe rests => ?_
        · rcases List.mem_or_eq_of_mem_set among with old | rfl
          · exact closed other old
          · exact shut
        · rw [disk]
          exact kept (saves safe) rests
      · have same : host.engine earlier.length = last := by simp [engine, before]
        rw [same] at quiet serving held
        rw [before, List.set_append_right _ _ (Nat.le_refl _), Nat.sub_self] at engines
        refine .opened earlier changed engines closed (serving own) fun safe rests => ?_
        cases isOpen : last.isClosed with
        | false => exact held isOpen own.location safe rests
        | true =>
            obtain ⟨-, left, -, disk⟩ := quiet isOpen
            rw [left, disk]
            exact kept (saves safe) isOpen
      · have absent : host.engines.length ≤ id := by
          simp [before]
          omega
        obtain ⟨-, -, same, disk⟩ := quiet (engine_absent absent)
        rw [List.set_eq_of_length_le absent] at engines
        refine .opened earlier last (engines.trans before) closed (same ▸ own) fun safe rests => ?_
        rw [disk]
        exact kept (saves safe) rests

theorem perform {turn : Turn} {call : Call} (succession : host.Succession directory saved next)
    (called : host.made turn = some (id, call))
    (room : next.toNat + (host.engine id).allocations call < 2 ^ 64) :
    (host.turn turn).Succession directory saved
      (next + UInt64.ofNat ((host.engine id).allocations call)) := by
  obtain ⟨engines, disk⟩ := turn_made called
  have frame := ((host.engine id).frame_perform call).2
  refine succession.change engines (fun safe => safe) (fun closed => ?_)
    (fun serving => serving.perform room) fun isOpen _ _ shut => ?_
  · have none := Engine.allocations_closed closed call
    refine ⟨frame.trans closed, ?_, by simp [none], disk⟩
    rw [Engine.snapshot, Engine.nextNode_perform, none, Engine.graph_perform_closed closed,
      Engine.snapshot]
    simp
  · exact absurd (isOpen.symm.trans (frame.symm.trans shut)) Bool.false_ne_true

theorem forget (succession : host.Succession directory saved next) (id : EngineId)
    (transaction : TransactionId) :
    (host.turn (.drop id transaction)).Succession directory saved next := by
  refine succession.change rfl (fun safe => safe) (fun closed => ⟨closed, rfl, rfl, rfl⟩)
    (fun serving => serving.forget transaction) fun isOpen _ _ shut => ?_
  exact absurd (isOpen.symm.trans shut) Bool.false_ne_true

theorem shutDown (succession : host.Succession directory saved next) (id : EngineId) :
    (host.turn (.shutDown id)).Succession directory (saved && Turn.saves host (.shutDown id))
      next := by
  have engines : (host.turn (.shutDown id)).engines =
      host.engines.set id ((host.engine id).shutdown host.disk).2.1 := rfl
  have disk : (host.turn (.shutDown id)).disk = ((host.engine id).shutdown host.disk).2.2 := rfl
  refine succession.change engines (fun safe => (Bool.and_eq_true_iff.1 safe).1) (fun closed => ?_)
    (fun serving => serving.shutdown host.disk) fun isOpen location safe _ => ?_
  · rw [disk, Engine.shutdown, if_pos closed]
    exact ⟨closed, rfl, rfl, rfl⟩
  · exact Engine.holds_shutdown isOpen location (Bool.and_eq_true_iff.1 safe).2

/-- The engine that is opened next goes on where the last one has stopped. -/
theorem engine_openAt {engine : Engine} (succession : host.Succession directory true next)
    (closed : ∀ engine ∈ host.engines, engine.isClosed = true)
    (sighted : Engine.Sighted directory host.disk)
    (opened : (Engine.openAt directory host.disk).1 = .ok engine) :
    engine.isClosed = false ∧ engine.Serving directory next ∧
      ∀ own, host.engines.length = own + 1 → engine.nextNode = (host.engine own).nextNode ∧
        engine = .ofGraph (some directory) (host.engine own).graph (host.engine own).nextNode := by
  cases succession with
  | unopened unused blank first =>
      rcases Engine.openAt_ok blank opened with rfl | ⟨file, snapshot, none, -⟩
      · refine ⟨rfl, first ▸ Engine.serving_new directory, fun own last => ?_⟩
        simp [unused] at last
      · exact none.elim
  | opened earlier last engines before serving held =>
      have rests := closed last (by simp [engines])
      rcases Engine.openAt_held (held rfl rests) sighted opened with rfl
      refine ⟨rfl, serving.reopen, fun own length => ?_⟩
      have place : own = earlier.length := by simpa [engines] using length.symm
      have same : host.engine own = last := by simp [engine, engines, place]
      rw [same]
      exact ⟨serving.nextNode_reopen, rfl⟩

theorem openAt (succession : host.Succession directory true next)
    (closed : ∀ engine ∈ host.engines, engine.isClosed = true)
    (sighted : Engine.Sighted directory host.disk) :
    (host.turn (.openAt directory)).Succession directory true next := by
  rw [Host.turn, openEngine]
  rcases opening : Engine.openAt directory host.disk with ⟨failure | engine, disk⟩
  · dsimp only
    cases succession with
    | unopened unused blank first =>
        have bears := Engine.bears_openAt blank directory
        rw [opening] at bears
        exact .unopened unused bears first
    | opened earlier last engines before serving held =>
        refine .opened earlier last engines before serving fun safe rests => ?_
        have holds := (held safe rests).openAt directory
        rw [opening] at holds
        exact holds
  · obtain ⟨isOpen, serving, -⟩ := succession.engine_openAt closed sighted (congrArg Prod.fst opening)
    refine .opened host.engines engine rfl closed serving fun _ rests => ?_
    rw [isOpen] at rests
    cases rests

theorem of_same (succession : host.Succession directory saved next)
    (engines : later.engines = host.engines) (disk : later.disk = host.disk) :
    later.Succession directory saved next := by
  cases succession with
  | unopened unused blank first => exact .unopened (engines.trans unused) (disk ▸ blank) first
  | opened earlier last before closed serving held =>
      exact .opened earlier last (engines.trans before) closed serving (disk ▸ held)

/-! ## Turns -/

theorem turn {turn : Turn} (succession : host.Succession directory saved next)
    (orderly : turn.Orderly directory saved host)
    (room : next.toNat + host.allocations turn < 2 ^ 64) :
    (host.turn turn).Succession directory (saved && turn.saves host)
      (next + UInt64.ofNat (host.allocations turn)) := by
  have saves (same : turn.saves host = true) : (saved && turn.saves host) = saved := by
    rw [same, Bool.and_true]
  rw [allocations_eq] at room ⊢
  cases called : host.made turn with
  | some found =>
      rw [called] at room
      have kept : turn.saves host = true := by
        cases turn with
        | call | request => rfl
        | _ => cases called
      rw [saves kept]
      exact succession.perform called room
  | none =>
      dsimp only
      rw [show next + UInt64.ofNat 0 = next from UInt64.add_zero next]
      cases turn with
      | create => exact orderly.elim
      | openAt other =>
          obtain ⟨rfl, rfl, closed, sighted⟩ := orderly
          exact succession.openAt closed sighted
      | call => cases called
      | request service request =>
          have through : host.passed service request = none := called
          have engines := host.engines_respond service request
          rw [through] at engines
          rw [saves rfl]
          exact succession.of_same engines (host.disk_respond service request)
      | drop id transaction =>
          rw [saves rfl]
          exact succession.forget id transaction
      | shutDown id => exact succession.shutDown id

theorem handed_turn (succession : host.Succession directory saved next) (turn : Turn) :
    host.handed turn = counted next (host.allocations turn) := by
  rw [handed, allocations_eq]
  rcases host.made turn with - | ⟨id, call⟩
  · rfl
  · dsimp only
    rw [Engine.handed_eq]
    rcases succession.engine_cases id with closed | ⟨-, serving⟩
    · rw [Engine.allocations_closed closed, counted_zero, counted_zero]
    · rw [serving.next]

/-- All that engines hand out one after another is counted through. -/
theorem handedThrough_eq {turns : List Turn} (succession : host.Succession directory saved next)
    (orderly : host.Orderly directory saved turns)
    (room : next.toNat + host.allocated turns < 2 ^ 64) :
    host.handedThrough turns = counted next (host.allocated turns) := by
  induction turns generalizing host saved next with
  | nil => rfl
  | cons turn later induction =>
      rw [allocated] at room ⊢
      have few : next.toNat + host.allocations turn < 2 ^ 64 := by omega
      rw [handedThrough, succession.handed_turn, counted_append]
      refine congrArg _ (induction (succession.turn orderly.1 few) orderly.2 ?_)
      rwa [toNat_add_ofNat few, Nat.add_assoc]

theorem advance {first second : List Turn} (succession : host.Succession directory saved next)
    (orderly : host.Orderly directory saved (first ++ second))
    (room : next.toNat + host.allocated (first ++ second) < 2 ^ 64) :
    ∃ savedLater nextLater, (host.turns first).Succession directory savedLater nextLater ∧
      (host.turns first).Orderly directory savedLater second ∧
      nextLater.toNat + (host.turns first).allocated second < 2 ^ 64 := by
  induction first generalizing host saved next with
  | nil => exact ⟨saved, next, succession, orderly, room⟩
  | cons turn later induction =>
      rw [List.cons_append, allocated] at room
      have few : next.toNat + host.allocations turn < 2 ^ 64 := by omega
      refine induction (succession.turn orderly.1 few) orderly.2 ?_
      rwa [toNat_add_ofNat few, Nat.add_assoc]

end Host.Succession

/-! ## Deleted nodes -/

structure Host.Gone (node : NodeId) (id : EngineId) (host : Host) : Prop where
  there : id < host.engines.length
  retired : ∀ own, id ≤ own → own < host.engines.length → (host.engine own).Retired node

namespace Host

variable {directory : String} {saved : Bool} {next : NodeId} {host : Host} {id : EngineId}
  {node : NodeId}

/-- What a commit has deleted is gone: the engine is the last one, since it is open. -/
theorem gone_deletes {turn : Turn} (succession : host.Succession directory saved next)
    (deletes : turn.Deletes node id host) : (host.turn turn).Gone node id := by
  rcases deletes with ⟨own, transaction, happens, found, member, done⟩
  have length : (host.turn turn).engines.length = host.engines.length := by
    rw [(turn_made (made_of_event? happens)).1, List.length_set]
  rcases succession.engine_cases id with closed | ⟨last, serving⟩
  · have still : ((host.engine id).forget own).isClosed = true := closed
    rw [Engine.commit, found] at done
    dsimp only at done
    rw [Engine.commitIn, if_pos still] at done
    cases done
  · have there : id < host.engines.length := last ▸ Nat.lt_succ_self id
    refine ⟨length ▸ there, fun other after within_ => ?_⟩
    rw [length, last] at within_
    obtain rfl : other = id := Nat.le_antisymm (Nat.lt_succ_iff.1 within_) after
    rw [engine_turn there turn, happens]
    exact Engine.retired_commit serving.numbered found member done

namespace Gone

theorem turn {turn : Turn} (gone : host.Gone node id)
    (succession : host.Succession directory saved next) (orderly : turn.Orderly directory saved host)
    (room : next.toNat + host.allocations turn < 2 ^ 64) : (host.turn turn).Gone node id := by
  refine ⟨Nat.lt_of_lt_of_le gone.there (host.length_turn turn), fun own after within_ => ?_⟩
  rcases Nat.lt_or_ge own host.engines.length with before | new
  · have retired := gone.retired own after before
    rw [engine_turn before]
    cases happens : turn.event? own host with
    | none => exact retired
    | some event =>
        refine retired.change ?_
        have word := (host.engine own).nextNode.toNat_lt
        cases event with
        | drop | shutdown => exact word
        | call call =>
            rw [allocations_eq, made_of_event? happens] at room
            rcases succession.engine_cases own with closed | ⟨-, serving⟩
            · rw [Event.allocations, Engine.allocations_closed closed]
              exact word
            · rw [serving.next]
              exact room
  · rcases opens_of_length_lt (Nat.lt_of_le_of_lt new within_) with
      rfl | ⟨other, engine, rfl, opened, engines⟩
    · exact orderly.elim
    · obtain ⟨rfl, rfl, closed, sighted⟩ := orderly
      -- the new engine goes on with the graph of the last one, which is not before the one that
      -- has deleted the node
      rcases Nat.exists_eq_add_one_of_ne_zero (Nat.ne_zero_of_lt gone.there) with ⟨last, length⟩
      have inside : last < host.engines.length := length ▸ Nat.lt_succ_self last
      have latest : id ≤ last := Nat.lt_succ_iff.1 (Nat.lt_of_lt_of_eq gone.there length)
      obtain ⟨same, reopened⟩ := (succession.engine_openAt closed sighted opened).2.2 last length
      have retired : engine.Retired node := by
        rw [reopened] at same ⊢
        exact (gone.retired last latest inside).reopen same
      rw [engines, List.length_append, List.length_singleton] at within_
      obtain rfl : own = host.engines.length := Nat.le_antisymm (Nat.lt_succ_iff.1 within_) new
      have added : (host.turn (.openAt other)).engine host.engines.length = engine := by
        simp [Host.engine, engines]
      rwa [added]

theorem turns {turns : List Turn} (gone : host.Gone node id)
    (succession : host.Succession directory saved next)
    (orderly : host.Orderly directory saved turns)
    (room : next.toNat + host.allocated turns < 2 ^ 64) : (host.turns turns).Gone node id := by
  induction turns generalizing host saved next with
  | nil => exact gone
  | cons turn later induction =>
      rw [allocated] at room
      have few : next.toNat + host.allocations turn < 2 ^ 64 := by omega
      refine induction (gone.turn succession orderly.1 few) (succession.turn orderly.1 few)
        orderly.2 ?_
      rwa [toNat_add_ofNat few, Nat.add_assoc]

theorem absent (gone : host.Gone node id) {later : EngineId} (latest : id ≤ later) :
    (host.engine later).graph.hasNode node = false := by
  rcases Nat.lt_or_ge later host.engines.length with there | beyond
  · exact (gone.retired later latest there).absent
  · rw [engine, List.getElem?_eq_none_iff.2 beyond]
    simp [Graph.hasNode]

end Gone

theorem turns_append (first second : List Turn) (host : Host) :
    host.turns (first ++ second) = (host.turns first).turns second := by
  induction first generalizing host with
  | nil => rfl
  | cons turn later induction => exact induction (host.turn turn)

/-- What a commit deletes in the middle of a run is still gone at its end. -/
theorem gone_turns {before after : List Turn} {turn : Turn}
    (succession : host.Succession directory saved next)
    (orderly : host.Orderly directory saved (before ++ turn :: after))
    (room : next.toNat + host.allocated (before ++ turn :: after) < 2 ^ 64)
    (deletes : turn.Deletes node id (host.turns before)) :
    (host.turns (before ++ turn :: after)).Gone node id := by
  obtain ⟨saved, next, reached, rest, left⟩ := succession.advance orderly room
  rw [allocated] at left
  have few : next.toNat + (host.turns before).allocations turn < 2 ^ 64 := by omega
  rw [turns_append]
  refine (gone_deletes reached deletes).turns (reached.turn rest.1 few) rest.2 ?_
  rwa [toNat_add_ofNat few, Nat.add_assoc]

/-- However the engines over one directory are used, one after another, from an empty directory on,
as long as none of them overlooks what has been saved and the numbers for nodes do not run out: no
number is handed out twice, whatever has become of its node. After a commit that has deleted a node
there is no such node, and no index leads to it, in the engine and in all that are opened later. -/
theorem handed_once {directory : String} (unused : host.engines = [])
    (blank : host.disk.tree.Bears Snapshot.fileName fun _ => False) (turns : List Turn)
    (orderly : host.Orderly directory true turns) (room : 1 + host.allocated turns < 2 ^ 64) :
    (host.handedThrough turns).Nodup ∧
      ∀ (before after : List Turn) (turn : Turn) (node : NodeId) (id : EngineId),
        turns = before ++ turn :: after → turn.Deletes node id (host.turns before) →
          ∀ later, id ≤ later →
            ((host.turns turns).engine later).graph.hasNode node = false ∧
              ∀ (index : String) (entries : NodeIndex),
                ((host.turns turns).engine later).graph.indexes[index]? = some entries →
                  ∀ key value, node ∉ entries.nodesAt key value := by
  have outset : host.Succession directory true 1 := .unopened unused blank rfl
  constructor
  · rw [outset.handedThrough_eq orderly room]
    exact counted_nodup (by omega)
  · rintro before after turn node id rfl deletes later latest
    have absent := (gone_turns outset orderly room deletes).absent latest
    have fresh : host.Healthy 1 := {
      engines := fun engine member => by
        rw [unused] at member
        cases member
      files := fun location file last standing => (blank location file last standing).elim }
    have sound := ((fresh.turns (Nat.le_refl 1) room).engine (Nat.le_add_right _ _) later).sound
    refine ⟨absent, fun index entries found key value member => ?_⟩
    exact Bool.false_ne_true (absent.symm.trans (sound.registered index entries found key value
      node member))

/-- A number is lost with a transaction that is rolled back, and the first node is deleted while
another transaction is about to put it into an index. Then the graph is opened again. -/
def handovers : List Turn := [
  .openAt "/g",
  .call 0 (.createIndex "by"),
  .call 0 (.executeBatch [.createNode ∅]),
  .call 0 .beginTransaction,
  .call 0 (.stage 2 (.indexAdd "by" 1 "key" "k")),
  .call 0 .beginTransaction,
  .call 0 (.stage 3 (.deleteNode 1)),
  .call 0 (.commit 3),
  .call 0 (.commit 2),
  .call 0 .beginTransaction,
  .call 0 (.stage 4 .createNode),
  .call 0 (.rollback 4),
  .shutDown 0,
  .openAt "/g",
  .call 1 (.executeBatch [.createNode ∅])]

theorem handed_once_reopened :
    let host : Host := {}
    host.handedThrough handovers = [1, 2, 3] ∧ (host.handedThrough handovers).Nodup ∧
      ((host.turns handovers).engine 1).graph.nodes.keys = [3] ∧
      ((host.turns handovers).engine 1).graph.hasNode 1 = false := by
  intro host
  have blank := FileTree.bears_empty Snapshot.fileName fun _ => False
  have orderly : host.Orderly "/g" true handovers := by decide +kernel
  have room : 1 + host.allocated handovers < 2 ^ 64 := by decide +kernel
  rcases handed_once rfl blank handovers orderly room with ⟨once, deleted⟩
  have deletes : (Turn.call 0 (.commit 3)).Deletes 1 0 (host.turns (handovers.take 7)) :=
    ⟨3, ⟨[.deleteNode 1], ∅, .insert ∅ 1⟩, rfl, by decide +kernel, List.mem_singleton_self _,
      by decide +kernel⟩
  exact ⟨by decide +kernel, once, by decide +kernel,
    (deleted (handovers.take 7) (handovers.drop 8) _ 1 0 rfl deletes 1 (Nat.zero_le 1)).1⟩

/-- The eighth action on this disk is the look for the snapshot when the directory is opened again,
and it fails: the engine begins without a graph, and with the first number. -/
example :
    let host : Host := { disk := { mishaps := List.replicate 7 none ++ [some 0] } }
    let create : Call := .executeBatch [.createNode ∅]
    host.handedThrough
      [.openAt "/g", .call 0 create, .shutDown 0, .openAt "/g", .call 1 create] = [1, 1] := by
  decide +kernel

end Host

end RecordGraph
