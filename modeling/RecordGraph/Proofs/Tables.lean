import RecordGraph.Proofs.File.Saving
import RecordGraph.Proofs.Turn

namespace RecordGraph

/-! The tables of services. A table has transactions that are open on the engine of the service, and
no two tables have one in common, as long as those who have an engine at hand keep to the
transactions that they have begun there. -/

def Host.Unlisted (id : EngineId) (transaction : TransactionId) (host : Host) : Prop :=
  ∀ front ∈ host.fronts, front.engine = id → transaction ∉ front.service.transactions

instance (id : EngineId) (transaction : TransactionId) (host : Host) :
    Decidable (host.Unlisted id transaction) :=
  inferInstanceAs (Decidable (∀ front ∈ host.fronts,
    front.engine = id → transaction ∉ front.service.transactions))

/-- Nothing is done at hand to a transaction that a service has in its table: it has been begun by
somebody else. -/
def Turn.Keeps (host : Host) : Turn → Prop
  | .call id made => ∀ transaction ∈ made.transaction?, host.Unlisted id transaction
  | .drop id transaction => host.Unlisted id transaction
  | _ => True

instance (host : Host) (turn : Turn) : Decidable (turn.Keeps host) :=
  match turn with
  | .call _ made => Option.decidableForallMem made.transaction?
  | .drop id transaction => inferInstanceAs (Decidable (host.Unlisted id transaction))
  | .create => instDecidableTrue
  | .openAt _ => instDecidableTrue
  | .request _ _ => instDecidableTrue
  | .shutDown _ => instDecidableTrue

namespace Host

def KeepsApart : List Turn → Host → Prop
  | [], _ => True
  | turn :: later, host => turn.Keeps host ∧ KeepsApart later (host.turn turn)

instance decidableKeepsApart :
    (turns : List Turn) → (host : Host) → Decidable (host.KeepsApart turns)
  | [], _ => instDecidableTrue
  | turn :: later, host =>
      have := decidableKeepsApart later (host.turn turn)
      inferInstanceAs (Decidable (turn.Keeps host ∧ (host.turn turn).KeepsApart later))

variable {host : Host}

/-! ## Where there has been no engine -/

theorem engine_turn_beyond {id : EngineId} (beyond : host.engines.length ≤ id) (turn : Turn) :
    ((host.turn turn).engine id).transactions = ∅ ∧
      ((host.turn turn).engine id).nextTransaction = 1 := by
  have absent {engines : List Engine} (short : engines.length ≤ id) :
      ((engines[id]?).getD { isClosed := true }).transactions = ∅ ∧
        ((engines[id]?).getD { isClosed := true }).nextTransaction = 1 := by
    rw [List.getElem?_eq_none_iff.2 short]
    exact ⟨rfl, rfl⟩
  have added {engine : Engine} (fresh : engine.transactions = ∅ ∧ engine.nextTransaction = 1) :
      (((host.engines ++ [engine])[id]?).getD { isClosed := true }).transactions = ∅ ∧
        (((host.engines ++ [engine])[id]?).getD { isClosed := true }).nextTransaction = 1 := by
    rcases Nat.eq_or_lt_of_le beyond with same | short
    · rw [← same, List.getElem?_concat_length]
      exact fresh
    · apply absent
      rw [List.length_append]
      exact short
  cases turn with
  | create => exact added ⟨rfl, rfl⟩
  | openAt directory =>
      rw [Host.turn, openEngine]
      rcases opening : Engine.openAt directory host.disk with ⟨failure | engine, disk⟩
      · exact absent beyond
      · exact added (Engine.unbegun_openAt (congrArg Prod.fst opening))
  | call own call => exact absent (by simpa [Host.turn, perform, setEngine] using beyond)
  | request service sent =>
      refine absent ?_
      rw [Host.turn, engines_respond]
      split
      · exact beyond
      · rwa [List.length_set]
  | drop own transaction => exact absent (by simpa [Host.turn, abandon, setEngine] using beyond)
  | shutDown own => exact absent (by simpa [Host.turn, shutdownEngine, setEngine] using beyond)

/-! ## What a turn does to a table, and to an open transaction -/

theorem fronts_turn {turn : Turn} {service : ServiceId} {later : Front}
    (found : (host.turn turn).fronts[service]? = some later) :
    ∃ front : Front, host.fronts[service]? = some front ∧ front.engine = later.engine ∧
      ((later = front ∧ ∀ sent, turn ≠ .request service sent) ∨
        ∃ sent, turn = .request service sent ∧
          later.service = (front.service.respond sent (host.engine front.engine)).2.1) := by
  by_cases asks : ∃ sent, turn = .request service sent
  · rcases asks with ⟨sent, rfl⟩
    rw [fronts_turn_request] at found
    rcases Option.map_eq_some_iff.1 found with ⟨front, before, rfl⟩
    exact ⟨front, before, rfl, .inr ⟨sent, rfl, rfl⟩⟩
  · have elsewhere := not_exists.1 asks
    rw [fronts_turn_still elsewhere] at found
    exact ⟨later, found, rfl, .inl ⟨rfl, elsewhere⟩⟩

/-- What a request to a service does to its engine is the call that gets through. -/
theorem event?_request {service : ServiceId} {front : Front}
    (found : host.fronts[service]? = some front) (sent : Http.Request) :
    (Turn.request service sent).event? front.engine host =
      (front.service.passed sent).map .call := by
  rw [Turn.event?, passed, found]
  dsimp only
  cases front.service.passed sent with
  | none => rfl
  | some made => exact if_pos rfl

end Host

def Event.ends (transaction : TransactionId) : Event → Bool
  | .call made => made.finishes && made.transaction? = some transaction
  | .drop other => other = transaction
  | .shutdown _ => false

theorem Engine.transactions_shutdown (engine : Engine) (disk : Disk) :
    (engine.shutdown disk).2.1.transactions = engine.transactions ∧
      (engine.shutdown disk).2.1.nextTransaction = engine.nextTransaction := by
  rw [shutdown]
  split
  · exact ⟨rfl, rfl⟩
  · exact ⟨rfl, rfl⟩

namespace Event

variable {engine : Engine} {transaction : TransactionId}

theorem mem_change {event : Event} (there : transaction ∈ engine.transactions)
    (kept : event.ends transaction = false) : transaction ∈ (event.change engine).transactions := by
  cases event with
  | call made =>
      refine engine.mem_perform transaction there fun finishes about => ?_
      rw [ends, finishes, about] at kept
      simp at kept
  | drop other =>
      have different : other ≠ transaction := of_decide_eq_false kept
      exact (engine.mem_transactions_forget other transaction).2 ⟨different, there⟩
  | shutdown disk =>
      rw [change, (engine.transactions_shutdown disk).1]
      exact there

theorem below_change (below : ∀ id ∈ engine.transactions, id < engine.nextTransaction)
    (room : engine.nextTransaction.toNat + 1 < 2 ^ 64) (event : Event) :
    (∀ id ∈ (event.change engine).transactions, id < (event.change engine).nextTransaction) ∧
      (event.change engine).nextTransaction.toNat ≤ engine.nextTransaction.toNat + 1 := by
  cases event with
  | call made => exact engine.below_perform below room made
  | drop other =>
      refine ⟨fun id member => ?_, Nat.le_succ _⟩
      exact below id ((engine.mem_transactions_forget other id).1 member).2
  | shutdown disk =>
      rw [change, (engine.transactions_shutdown disk).1, (engine.transactions_shutdown disk).2]
      exact ⟨below, Nat.le_succ _⟩

end Event

namespace Host

variable {host : Host}

theorem there_of_mem {id : EngineId} {transaction : TransactionId}
    (member : transaction ∈ (host.engine id).transactions) : id < host.engines.length := by
  refine Nat.lt_of_not_le fun beyond => ?_
  rw [engine, List.getElem?_eq_none_iff.2 beyond] at member
  exact Std.ExtTreeMap.not_mem_empty member

theorem mem_turn {id : EngineId} {transaction : TransactionId} {turn : Turn}
    (member : transaction ∈ (host.engine id).transactions)
    (kept : ∀ event, turn.event? id host = some event → event.ends transaction = false) :
    transaction ∈ ((host.turn turn).engine id).transactions := by
  rw [engine_turn (there_of_mem member)]
  cases happens : turn.event? id host with
  | none => exact member
  | some event => exact event.mem_change member (kept event happens)

/-- What a table has after a turn has been in it before, and a request to the service does not end
it, or has begun by such a request. -/
theorem table_turn {turn : Turn} {service : ServiceId} {later : Front}
    (found : (host.turn turn).fronts[service]? = some later) {transaction : TransactionId}
    (member : transaction ∈ later.service.transactions) :
    ∃ front : Front, host.fronts[service]? = some front ∧ front.engine = later.engine ∧
      ((transaction ∈ front.service.transactions ∧ ∀ sent, turn = .request service sent →
          ∀ event, turn.event? front.engine host = some event → event.ends transaction = false) ∨
        (∃ sent, turn = .request service sent) ∧
          turn.event? front.engine host = some (.call .beginTransaction) ∧
          ((host.engine front.engine).perform .beginTransaction).1 = .ok transaction) := by
  rcases fronts_turn found with ⟨front, before, same, ⟨rfl, elsewhere⟩ | ⟨sent, rfl, table⟩⟩
  · exact ⟨later, before, rfl, .inl ⟨member, fun sent equal => absurd equal (elsewhere sent)⟩⟩
  · refine ⟨front, before, same, ?_⟩
    rw [event?_request before]
    rw [table] at member
    rcases Http.Service.of_mem_respond member with ⟨old, unfinished⟩ | ⟨begins, begun⟩
    · refine .inl ⟨old, fun other _ event happens => ?_⟩
      rcases Option.map_eq_some_iff.1 happens with ⟨made, through, rfl⟩
      cases finishes : made.finishes with
      | true =>
          rw [Event.ends, decide_eq_false (unfinished made through finishes), Bool.and_false]
      | false =>
          rw [Event.ends, finishes]
          rfl
    · refine .inr ⟨⟨sent, rfl⟩, ?_, begun⟩
      rw [Option.mem_def.1 begins]
      rfl

/-! ## Tables in order -/

/-- Open transactions have numbers below the next one, which is not beyond a bound; the tables of
services have open transactions, and each one its own. -/
structure Ordered (bound : Nat) (host : Host) : Prop where
  below : ∀ id, ∀ transaction ∈ (host.engine id).transactions,
    transaction < (host.engine id).nextTransaction
  few : ∀ id, (host.engine id).nextTransaction.toNat ≤ bound
  listed : ∀ (service : ServiceId) (front : Front), host.fronts[service]? = some front →
    ∀ transaction ∈ front.service.transactions,
      transaction ∈ (host.engine front.engine).transactions
  apart : ∀ (service other : ServiceId) (front another : Front), service ≠ other →
    host.fronts[service]? = some front → host.fronts[other]? = some another →
    front.engine = another.engine → ∀ transaction ∈ front.service.transactions,
      transaction ∉ another.service.transactions

namespace Ordered

variable {bound : Nat}

theorem below_turn (ordered : host.Ordered bound) (room : bound + 1 < 2 ^ 64) (turn : Turn)
    (id : EngineId) :
    (∀ transaction ∈ ((host.turn turn).engine id).transactions,
        transaction < ((host.turn turn).engine id).nextTransaction) ∧
      ((host.turn turn).engine id).nextTransaction.toNat ≤ bound + 1 := by
  have few := ordered.few id
  rcases Nat.lt_or_ge id host.engines.length with there | beyond
  · rw [engine_turn there]
    cases turn.event? id host with
    | none => exact ⟨ordered.below id, Nat.le_succ_of_le few⟩
    | some event =>
        obtain ⟨below, more⟩ := event.below_change (ordered.below id) (by omega)
        exact ⟨below, Nat.le_trans more (Nat.succ_le_succ few)⟩
  · obtain ⟨none_, one⟩ := engine_turn_beyond beyond turn
    rw [none_, one]
    exact ⟨fun transaction member => absurd member Std.ExtTreeMap.not_mem_empty,
      Nat.succ_le_succ (Nat.zero_le bound)⟩

/-- What a turn does to an engine ends no transaction in the table of a service, unless the turn is a
request to that service. -/
theorem kept_turn (ordered : host.Ordered bound) {turn : Turn} (keeps : turn.Keeps host)
    {service : ServiceId} {front : Front} (found : host.fronts[service]? = some front)
    {transaction : TransactionId} (member : transaction ∈ front.service.transactions)
    (elsewhere : ∀ sent, turn ≠ .request service sent) {event : Event}
    (happens : turn.event? front.engine host = some event) : event.ends transaction = false := by
  have among : front ∈ host.fronts := List.mem_of_getElem? found
  have unfinished {made : Call} (other : made.transaction? ≠ some transaction) :
      (Event.call made).ends transaction = false := by
    rw [Event.ends, decide_eq_false other, Bool.and_false]
  rcases Turn.event?_cases happens with
    ⟨made, rfl, rfl | ⟨asked, sent, rfl, through⟩⟩ | ⟨own, rfl, rfl⟩ | ⟨rfl, -⟩
  · exact unfinished fun about => keeps transaction about front among rfl member
  · rcases front_of_passed through with ⟨another, there, same, passed⟩
    refine unfinished fun about => ?_
    have different : service ≠ asked := fun equal => elsewhere sent (equal ▸ rfl)
    exact ordered.apart service asked front another different found there same.symm transaction
      member (Http.Service.known_of_passed passed about)
  · refine decide_eq_false fun equal => ?_
    subst equal
    exact keeps front among rfl member
  · rfl

private theorem listed_turn (ordered : host.Ordered bound) {turn : Turn} (keeps : turn.Keeps host)
    {service : ServiceId} {later : Front}
    (found : (host.turn turn).fronts[service]? = some later) {transaction : TransactionId}
    (member : transaction ∈ later.service.transactions) :
    transaction ∈ ((host.turn turn).engine later.engine).transactions := by
  rcases table_turn found member with ⟨front, before, same, ⟨old, asked⟩ | ⟨-, event, begun⟩⟩
  · rw [← same]
    refine mem_turn (ordered.listed service front before transaction old) fun event happens => ?_
    by_cases asks : ∃ sent, turn = .request service sent
    · rcases asks with ⟨sent, asks⟩
      exact asked sent asks event happens
    · exact ordered.kept_turn keeps before old (fun sent equal => asks ⟨sent, equal⟩) happens
  · have isOpen : (host.engine front.engine).isClosed = false := by
      rw [← Bool.not_eq_true]
      intro closed
      rw [Engine.perform, Engine.beginTransaction, if_pos closed] at begun
      cases begun
    rw [← same, engine_turn (lt_of_isOpen isOpen), event]
    exact ((host.engine front.engine).perform_begun begun).2

theorem apart_begun (ordered : host.Ordered bound) {service : ServiceId} {front : Front}
    (found : host.fronts[service]? = some front) {id : EngineId} (same : front.engine = id)
    {transaction : TransactionId}
    (begun : ((host.engine id).perform .beginTransaction).1 = .ok transaction) :
    transaction ∉ front.service.transactions := by
  intro member
  have next := ((host.engine id).perform_begun begun).1
  have below := ordered.below _ _ (ordered.listed service front found transaction member)
  rw [same, next] at below
  exact UInt64.lt_irrefl _ below

theorem turn (ordered : host.Ordered bound) (room : bound + 1 < 2 ^ 64) {turn : Turn}
    (keeps : turn.Keeps host) : (host.turn turn).Ordered (bound + 1) where
  below id := (ordered.below_turn room turn id).1
  few id := (ordered.below_turn room turn id).2
  listed service later found transaction member := ordered.listed_turn keeps found member
  apart service other later latest different found foundOther engines transaction member memberOther := by
    rcases table_turn found member with ⟨front, before, same, own⟩
    rcases table_turn foundOther memberOther with ⟨another, beforeOther, sameOther, its⟩
    have shared : front.engine = another.engine := by rw [same, sameOther, engines]
    rcases own with ⟨old, -⟩ | ⟨⟨sent, asks⟩, -, begun⟩
    · rcases its with ⟨oldOther, -⟩ | ⟨-, -, begun⟩
      · exact ordered.apart service other front another different before beforeOther shared
          transaction old oldOther
      · exact ordered.apart_begun before shared begun old
    · rcases its with ⟨oldOther, -⟩ | ⟨⟨sentOther, asksOther⟩, -, -⟩
      · exact ordered.apart_begun beforeOther shared.symm begun oldOther
      · cases asks.symm.trans asksOther
        exact different rfl

theorem turns (ordered : host.Ordered bound) {turns : List Turn}
    (room : bound + turns.length < 2 ^ 64) (keeps : host.KeepsApart turns) :
    (host.turns turns).Ordered (bound + turns.length) := by
  induction turns generalizing host bound with
  | nil => exact ordered
  | cons turn later induction =>
      rw [List.length_cons] at room ⊢
      rw [Nat.add_comm later.length 1, ← Nat.add_assoc]
      refine induction (ordered.turn (by omega) keeps.1) (by omega) keeps.2

end Ordered

structure Unbegun (host : Host) : Prop where
  engines : ∀ engine ∈ host.engines, engine.transactions = ∅ ∧ engine.nextTransaction = 1
  fronts : ∀ front ∈ host.fronts, front.service = {}

theorem Unbegun.ordered (unbegun : host.Unbegun) : host.Ordered 1 := by
  have fresh (id : EngineId) :
      (host.engine id).transactions = ∅ ∧ (host.engine id).nextTransaction = 1 := by
    rw [engine]
    cases found : host.engines[id]? with
    | none => exact ⟨rfl, rfl⟩
    | some engine => exact unbegun.engines engine (List.mem_of_getElem? found)
  have blank {service : ServiceId} {front : Front} (found : host.fronts[service]? = some front)
      (transaction : TransactionId) : transaction ∉ front.service.transactions := by
    rw [unbegun.fronts front (List.mem_of_getElem? found)]
    exact Std.ExtTreeSet.not_mem_empty
  constructor
  · intro id transaction member
    rw [(fresh id).1] at member
    exact absurd member Std.ExtTreeMap.not_mem_empty
  · intro id
    rw [(fresh id).2]
    exact Nat.le_refl 1
  · intro service front found transaction member
    exact absurd member (blank found transaction)
  · intro service other front another different found foundOther same transaction member
    exact absurd member (blank found transaction)

end Host

end RecordGraph
