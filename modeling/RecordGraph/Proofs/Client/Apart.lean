import RecordGraph.Proofs.Client.Abreast
import RecordGraph.Proofs.Client.Circle

namespace RecordGraph

/-! Clients with different keys. What a client is answered does not depend on what others do to their
records, as long as their index or their name for keys is another one. -/

namespace Circle

/-! ## What clients are answered -/

inductive Answer where
  | started (outcome : Except Failure Unit)
  | told (report : Report)
  deriving DecidableEq

def clientBy? (keys : KeyIndex) (who : Nat) (circle : Circle) : Option Client :=
  (circle.client? who).filter fun client => client.binding.keys = keys

def answer? (keys : KeyIndex) (circle : Circle) : Move → Option (Nat × Answer)
  | .init who => (circle.clientBy? keys who).map fun _ => (who, .started (circle.init who).1)
  | .errand who errand => (circle.clientBy? keys who).map fun client =>
      (who, .told (client.carryOut errand circle.host).1)
  | _ => none

def answers (keys : KeyIndex) : List Move → Circle → List (Nat × Answer)
  | [], _ => []
  | move :: later, circle => (circle.answer? keys move).toList ++ answers keys later (circle.step move)

def disturbs (keys : KeyIndex) (circle : Circle) : Move → Bool
  | .errand who errand => errand.changes &&
      (circle.client? who).any fun client => client.binding.keys ≠ keys
  | _ => false

/-- The moves without those by which clients with other keys change records. -/
def spared (keys : KeyIndex) : List Move → Circle → List Move
  | [], _ => []
  | move :: later, circle =>
      let rest := spared keys later (circle.step move)
      if circle.disturbs keys move then rest else move :: rest

namespace Move

def isInsert : Move → Bool
  | .errand _ asked => asked.isInsert
  | _ => false

def leaves : Move → Bool
  | cleanup _ => true
  | drop _ => true
  | _ => false

end Move

def Fits (circle : Circle) : Prop :=
  ∀ id ∈ circle.registry.engine, (circle.host.engine id).snapshot.Fits

instance (circle : Circle) : Decidable circle.Fits :=
  Option.decidableForallMem circle.registry.engine

/-- Every snapshot that may be saved in the run can be told in a file. -/
def Savable : List Move → Circle → Prop
  | [], _ => True
  | move :: later, circle => (move.leaves = true → circle.Fits) ∧ Savable later (circle.step move)

instance decidableSavable :
    (moves : List Move) → (circle : Circle) → Decidable (circle.Savable moves)
  | [], _ => instDecidableTrue
  | move :: later, circle =>
      have := decidableSavable later (circle.step move)
      inferInstanceAs (Decidable ((move.leaves = true → circle.Fits) ∧
        (circle.step move).Savable later))

/-! ## Circles abreast -/

/-- The clients are the same, and the hosts differ in nothing that matters to the keys. -/
structure Abreast (keys : KeyIndex) (bound : Nat) (circle other : Circle) : Prop where
  sound : circle.Sound ∧ other.Sound
  place : other.place = circle.place
  clients : other.clients = circle.clients
  hosts : Host.Abreast keys bound circle.place circle.host other.host
  valid : ∀ client, some client ∈ circle.clients → client.Valid

variable {keys : KeyIndex} {bound later : Nat} {circle other : Circle} {client : Client} {who : Nat}

namespace Abreast

theorem mono (abreast : Abreast keys bound circle other) (more : bound ≤ later) :
    Abreast keys later circle other :=
  { abreast with hosts := abreast.hosts.mono more }

theorem client?_eq (abreast : Abreast keys bound circle other) (who : Nat) :
    other.client? who = circle.client? who := by
  rw [client?, client?, abreast.clients]

private theorem member (found : circle.client? who = some client) :
    some client ∈ circle.clients := List.mem_of_getElem? (clients_of_client? found)

private theorem set_client (abreast : Abreast keys bound circle other) {host hostOther : Host}
    {changed : Option Client}
    (sound : Sound { circle with clients := circle.clients.set who changed, host })
    (soundOther : Sound { other with clients := other.clients.set who changed, host := hostOther })
    (hosts : Host.Abreast keys bound circle.place host hostOther)
    (valid : ∀ client, changed = some client → client.Valid) :
    Abreast keys bound { circle with clients := circle.clients.set who changed, host }
      { other with clients := other.clients.set who changed, host := hostOther } where
  sound := ⟨sound, soundOther⟩
  place := abreast.place
  clients := by rw [abreast.clients]
  hosts
  valid own inside := by
    rcases List.mem_or_eq_of_mem_set inside with before | same
    · exact abreast.valid own before
    · exact valid own same.symm

theorem enter (abreast : Abreast keys bound circle other) (binding : Binding)
    (embedded : binding.mode = .embedded) :
    Abreast keys bound (circle.step (.enter binding embedded))
      (other.step (.enter binding embedded)) where
  sound := ⟨(abreast.sound.1.enter binding embedded).1, (abreast.sound.2.enter binding embedded).1⟩
  place := abreast.place
  clients := by rw [step, step, abreast.clients, abreast.place]
  hosts := abreast.hosts
  valid own inside := by
    rcases List.mem_append.1 inside with before | last
    · exact abreast.valid own before
    · rw [Option.some.inj (List.mem_singleton.1 last)]
      exact fun session => by cases session

theorem init (abreast : Abreast keys bound circle other) (least : 1 ≤ bound) (who : Nat) :
    (circle.init who).1 = (other.init who).1 ∧
      Abreast keys bound (circle.init who).2 (other.init who).2 := by
  have sound := (abreast.sound.1.init who).1
  have soundOther := (abreast.sound.2.init who).1
  rw [Circle.init] at sound
  rw [Circle.init, abreast.client?_eq] at soundOther
  rw [Circle.init, Circle.init, abreast.client?_eq]
  cases found : circle.client? who with
  | none => exact ⟨rfl, abreast⟩
  | some client =>
      have belongs := abreast.sound.1.belongs found
      obtain ⟨outcome, same, hosts⟩ := abreast.hosts.init least belongs.embedded belongs.registry
      have valid := (abreast.valid client (member found)).init circle.host
      rw [found] at sound soundOther
      dsimp only at sound soundOther ⊢
      rw [← same] at soundOther
      rw [← same]
      refine ⟨outcome, abreast.set_client sound soundOther hosts fun own equal => ?_⟩
      rw [← Option.some.inj equal]
      exact valid

theorem cleanup (abreast : Abreast keys bound circle other) (fits : circle.Fits)
    (fitsOther : other.Fits) (who : Nat) :
    Abreast keys bound (circle.cleanup who) (other.cleanup who) := by
  have sound := (abreast.sound.1.cleanup who).1
  have soundOther := (abreast.sound.2.cleanup who).1
  rw [Circle.cleanup] at sound
  rw [Circle.cleanup, abreast.client?_eq] at soundOther
  rw [Circle.cleanup, Circle.cleanup, abreast.client?_eq]
  cases found : circle.client? who with
  | none => exact abreast
  | some client =>
      have belongs := abreast.sound.1.belongs found
      have valid := abreast.valid client (member found)
      rw [found] at sound soundOther
      dsimp only at sound soundOther ⊢
      rw [Client.cleanup] at sound soundOther ⊢
      rw [Client.cleanup]
      cases session : client.session with
      | none =>
          rw [session] at sound soundOther
          exact abreast.set_client sound soundOther abreast.hosts fun own equal =>
            Option.some.inj equal ▸ valid
      | some connection =>
          obtain ⟨id, rfl, -⟩ := belongs.session connection session
          rw [session] at sound soundOther
          have hosts := abreast.hosts.release fits fun id held =>
            fitsOther id (by
              rw [Circle.registry, abreast.place]
              exact held)
          refine abreast.set_client sound soundOther ?_ fun own equal => ?_
          · change Host.Abreast keys bound circle.place (circle.host.release client.registry)
              (other.host.release client.registry)
            rw [belongs.registry]
            exact hosts
          · rw [← Option.some.inj equal]
            exact fun session => by cases session

theorem drop (abreast : Abreast keys bound circle other) (fits : circle.Fits)
    (fitsOther : other.Fits) (who : Nat) :
    Abreast keys bound (circle.step (.drop who)) (other.step (.drop who)) := by
  have left := abreast.cleanup fits fitsOther who
  exact left.set_client (abreast.sound.1.drop who).1 (abreast.sound.2.drop who).1 left.hosts
    fun own none => by cases none

end Abreast

/-! ## Errands -/

/-- Without a session an errand is refused, and with a session its dialogue is held with the engine
that is held. -/
theorem Sound.carryOut_cases (sound : circle.Sound) (found : circle.client? who = some client)
    (errand : Errand) :
    (client.session = none ∧ client.carryOut errand circle.host =
        (errand.report (.error .notInitialized), circle.host)) ∨
      ∃ id, client.isInitialized = true ∧ circle.registry.engine = some id ∧
        (circle.host.engine id).graph.hasIndex client.binding.index = true ∧
        client.carryOut errand circle.host =
          (errand.report ((errand.dialogue client.binding).run Engine.perform
              (circle.host.engine id)).1,
            circle.host.setEngine id ((errand.dialogue client.binding).run Engine.perform
              (circle.host.engine id)).2) := by
  rw [Client.carryOut_eq, Client.converse]
  cases session : client.session with
  | none => exact .inl ⟨rfl, rfl⟩
  | some connection =>
      obtain ⟨id, rfl, held, indexed⟩ := (sound.belongs found).session connection session
      refine .inr ⟨id, ?_, held, indexed, ?_⟩
      · rw [Client.isInitialized, session]
        rfl
      · dsimp only
        rw [Host.converse_embedded (sound.held id held).2.1]

theorem step_errand (found : circle.client? who = some client) (errand : Errand) :
    circle.step (.errand who errand) =
      { circle with host := (client.carryOut errand circle.host).2 } := by
  rw [step, found]

theorem Sound.step_still (sound : circle.Sound) (who : Nat) {errand : Errand}
    (still : errand.changes = false) : circle.step (.errand who errand) = circle := by
  cases found : circle.client? who with
  | none => rw [Circle.step, found]
  | some client =>
      rw [step_errand found]
      rcases sound.carryOut_cases found errand with ⟨-, same⟩ | ⟨id, -, held, -, carried⟩
      · rw [same]
      · rw [carried, Errand.run_still still, Host.setEngine_engine (sound.held id held).2.1]

namespace Abreast

private theorem with_hosts (abreast : Abreast keys bound circle other) {host hostOther : Host}
    (sound : Sound { circle with host }) (soundOther : Sound { other with host := hostOther })
    (hosts : Host.Abreast keys later circle.place host hostOther) :
    Abreast keys later { circle with host } { other with host := hostOther } :=
  ⟨⟨sound, soundOther⟩, abreast.place, abreast.clients, hosts, abreast.valid⟩

private theorem keyed (abreast : Abreast keys bound circle other)
    (found : circle.client? who = some client) (session : client.isInitialized = true) :
    client.binding.mode = .embedded ∧ client.binding.keyField ≠ "" :=
  ⟨(abreast.sound.1.belongs found).embedded,
    (Binding.named_of_valid (abreast.valid client (member found) session)).2.1⟩

/-- A client with the keys gets the same report in both circles. -/
theorem errand_own (abreast : Abreast client.binding.keys bound circle other)
    (found : circle.client? who = some client) (errand : Errand)
    (room : bound + (if errand.isInsert then 1 else 0) < 2 ^ 64) :
    (client.carryOut errand circle.host).1 = (client.carryOut errand other.host).1 ∧
      Abreast client.binding.keys (bound + if errand.isInsert then 1 else 0)
        (circle.step (.errand who errand)) (other.step (.errand who errand)) := by
  have more : bound ≤ bound + if errand.isInsert then 1 else 0 := Nat.le_add_right _ _
  have foundOther := (abreast.client?_eq who).trans found
  have sound := (abreast.sound.1.errand who errand).1
  have soundOther := (abreast.sound.2.errand who errand).1
  rw [step_errand found] at sound ⊢
  rw [step_errand foundOther] at soundOther ⊢
  rcases abreast.sound.1.carryOut_cases found errand with
    ⟨none, same⟩ | ⟨id, session, held, indexed, carried⟩
  · rcases abreast.sound.2.carryOut_cases foundOther errand with
      ⟨-, sameOther⟩ | ⟨_, session, -⟩
    · rw [same, sameOther]
      exact ⟨rfl, abreast.mono more⟩
    · rw [Client.isInitialized, none] at session
      cases session
  · rcases abreast.sound.2.carryOut_cases foundOther errand with
      ⟨none, -⟩ | ⟨own, -, heldOther, indexedOther, carriedOther⟩
    · rw [Client.isInitialized, none] at session
      cases session
    · have same : own = id := by
        rw [Circle.registry, abreast.place, abreast.hosts.registry] at heldOther
        exact Option.some.inj (heldOther.symm.trans held)
      subst same
      obtain ⟨embedded, keyed⟩ := abreast.keyed found session
      obtain ⟨report, engines⟩ := (abreast.hosts.held own held).carryOut embedded keyed indexed
        indexedOther errand room
      rw [carried] at sound ⊢
      rw [carriedOther] at soundOther ⊢
      exact ⟨report, abreast.with_hosts sound soundOther
        ((abreast.hosts.mono more).setEngine held engines)⟩

theorem errand_other (abreast : Abreast keys bound circle other)
    (found : circle.client? who = some client) (apart : client.binding.keys ≠ keys)
    (errand : Errand) (room : bound + (if errand.isInsert then 1 else 0) < 2 ^ 64) :
    Abreast keys (bound + if errand.isInsert then 1 else 0) (circle.step (.errand who errand))
      other := by
  have more : bound ≤ bound + if errand.isInsert then 1 else 0 := Nat.le_add_right _ _
  have sound := (abreast.sound.1.errand who errand).1
  rw [step_errand found] at sound ⊢
  rcases abreast.sound.1.carryOut_cases found errand with
    ⟨-, same⟩ | ⟨id, session, held, indexed, carried⟩
  · rw [same]
    exact abreast.mono more
  · obtain ⟨embedded, keyed⟩ := abreast.keyed found session
    have engines := (abreast.hosts.held id held).carryOut_first embedded keyed indexed apart
      errand room
    have hosts := (abreast.hosts.mono more).setEngine held engines
    rw [Host.setEngine_engine (abreast.hosts.there held).2] at hosts
    rw [carried] at sound ⊢
    exact abreast.with_hosts sound abreast.sound.2 hosts

/-! ## Moves -/

theorem clientBy?_eq (abreast : Abreast keys bound circle other) (who : Nat) :
    other.clientBy? keys who = circle.clientBy? keys who := by
  rw [clientBy?, clientBy?, abreast.client?_eq]

theorem answer?_init (abreast : Abreast keys bound circle other) (least : 1 ≤ bound) (who : Nat) :
    circle.answer? keys (.init who) = other.answer? keys (.init who) := by
  rw [answer?, answer?, abreast.clientBy?_eq, (abreast.init least who).1]

theorem step (abreast : Abreast keys bound circle other) (least : 1 ≤ bound) {move : Move}
    (room : bound + (if move.isInsert then 1 else 0) < 2 ^ 64)
    (fits : move.leaves = true → circle.Fits) (fitsOther : move.leaves = true → other.Fits)
    (calm : circle.disturbs keys move = false) :
    circle.answer? keys move = other.answer? keys move ∧
      Abreast keys (bound + if move.isInsert then 1 else 0) (circle.step move)
        (other.step move) := by
  cases move with
  | enter binding embedded => exact ⟨rfl, abreast.enter binding embedded⟩
  | init who => exact ⟨abreast.answer?_init least who, (abreast.init least who).2⟩
  | cleanup who => exact ⟨rfl, abreast.cleanup (fits rfl) (fitsOther rfl) who⟩
  | drop who => exact ⟨rfl, abreast.drop (fits rfl) (fitsOther rfl) who⟩
  | errand who errand =>
      rw [answer?, answer?, abreast.clientBy?_eq, clientBy?]
      cases found : circle.client? who with
      | none =>
          have foundOther := (abreast.client?_eq who).trans found
          rw [Circle.step, Circle.step, found, foundOther]
          exact ⟨rfl, abreast.mono (Nat.le_add_right _ _)⟩
      | some client =>
          by_cases own : client.binding.keys = keys
          · subst own
            obtain ⟨report, after⟩ := abreast.errand_own found errand room
            rw [Option.filter_some_pos (by simp), Option.map_some, Option.map_some, report]
            exact ⟨rfl, after⟩
          · have still : errand.changes = false := by
              rw [disturbs, found] at calm
              simpa [own] using calm
            have same := abreast.sound.1.step_still who still
            have sameOther := abreast.sound.2.step_still who still
            rw [Option.filter_some_neg (by simpa using own), same, sameOther]
            exact ⟨rfl, abreast.mono (Nat.le_add_right _ _)⟩

/-- A move that disturbs is answered to somebody else, and may be left out. -/
theorem step_disturbing (abreast : Abreast keys bound circle other) {move : Move}
    (room : bound + (if move.isInsert then 1 else 0) < 2 ^ 64)
    (disturbs : circle.disturbs keys move = true) :
    circle.answer? keys move = none ∧
      Abreast keys (bound + if move.isInsert then 1 else 0) (circle.step move) other := by
  cases move with
  | errand who errand =>
      rw [Circle.disturbs] at disturbs
      obtain ⟨-, apart⟩ := Bool.and_eq_true_iff.1 disturbs
      obtain ⟨client, found, apart⟩ := (Option.any_eq_true _ _).1 apart
      have apart : client.binding.keys ≠ keys := of_decide_eq_true apart
      have unheard : circle.clientBy? keys who = none := by
        rw [clientBy?, found]
        exact Option.filter_some_neg (by simpa using apart)
      rw [answer?, unheard]
      exact ⟨rfl, abreast.errand_other found apart errand room⟩
  | _ => cases disturbs

theorem run (abreast : Abreast keys bound circle other) (least : 1 ≤ bound) (moves : List Move)
    (room : bound + moves.countP Move.isInsert < 2 ^ 64) (savable : circle.Savable moves)
    (savableOther : other.Savable (circle.spared keys moves)) :
    other.answers keys (circle.spared keys moves) = circle.answers keys moves := by
  induction moves generalizing circle other bound with
  | nil => rfl
  | cons move later induction =>
      have count : (move :: later).countP Move.isInsert =
          (if move.isInsert then 1 else 0) + later.countP Move.isInsert := by
        rw [List.countP_cons, Nat.add_comm]
      rw [count, ← Nat.add_assoc] at room
      have small := Nat.lt_of_le_of_lt (Nat.le_add_right _ _) room
      have least' := Nat.le_trans least (Nat.le_add_right bound (if move.isInsert then 1 else 0))
      rw [spared] at savableOther ⊢
      rw [answers]
      cases disturbs : circle.disturbs keys move with
      | true =>
          obtain ⟨unheard, after⟩ := abreast.step_disturbing small disturbs
          rw [disturbs] at savableOther
          rw [unheard]
          exact induction after least' room savable.2 savableOther
      | false =>
          rw [disturbs] at savableOther
          obtain ⟨answer, after⟩ :=
            abreast.step least small savable.1 savableOther.1 disturbs
          have rest := induction after least' room savable.2 savableOther.2
          rw [if_neg Bool.false_ne_true, answers, answer, rest]

end Abreast

/-! ## Circles that have just begun -/

end Circle

end RecordGraph
