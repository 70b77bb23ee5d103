import RecordGraph.Proofs.Closing
import RecordGraph.Proofs.Http.Reading
import RecordGraph.Proofs.Remote
import RecordGraph.Proofs.Tables

namespace RecordGraph

/-! Engines that have been shut down. Whoever still has such an engine at hand, an open transaction
on it, or a service in front of it, is told that it is closed, whatever is asked, and nothing of what
is committed moves any more. -/

namespace Engine

theorem perform_closed {engine : Engine} (closed : engine.isClosed = true) {call : Call}
    (held : ∀ transaction ∈ call.transaction?, transaction ∈ engine.transactions) :
    (engine.perform call).1 = .error .closed := by
  have found {id : TransactionId} (own : call.transaction? = some id) :
      ∃ transaction, engine.transactions[id]? = some transaction := by
    rw [← Option.isSome_iff_exists, ← Std.ExtTreeMap.mem_iff_isSome_getElem?]
    exact held id own
  cases call with
  | createIndex name => rw [perform, createIndex, if_pos closed]
  | indexGet index key value => exact if_pos closed
  | indexRange index range => exact if_pos closed
  | nodeProperty node name => exact if_pos closed
  | nodeProperties node => exact if_pos closed
  | beginTransaction => rw [perform, beginTransaction, if_pos closed]
  | stage id step =>
      obtain ⟨transaction, open_⟩ := found rfl
      rw [perform, stage, open_]
      dsimp only
      rw [stageIn, if_pos closed]
  | commit id =>
      obtain ⟨transaction, open_⟩ := found rfl
      have still : (engine.forget id).isClosed = true := closed
      rw [perform, commit, open_]
      dsimp only
      rw [commitIn, if_pos still]
  | rollback id =>
      obtain ⟨transaction, open_⟩ := found rfl
      rw [perform, rollback, open_]
      dsimp only
      rw [if_pos closed]
  | executeBatch batch => rw [perform, executeBatch, if_pos closed]

end Engine

namespace Host

variable {host : Host} {id : EngineId} {bound : Nat}

/-! ## Asking a closed engine -/

theorem respond_closed (ordered : host.Ordered bound) {service : ServiceId} {front : Front}
    (found : host.fronts[service]? = some front)
    (closed : (host.engine front.engine).isClosed = true) {request : Http.Request} {call : Call}
    (demand : request.demand = .ok (.call call))
    (listed : ∀ transaction ∈ call.transaction?, transaction ∈ front.service.transactions) :
    (host.respond service request).1 =
      if request.method = "HEAD" then .bare 503 else .ofFailure .closed := by
  have through : call.transaction?.all front.service.transactions.contains = true := by
    rw [Option.all_eq_true]
    exact fun transaction own => Std.ExtTreeSet.mem_iff_contains.1 (listed transaction own)
  have refused : (front.service.perform call (host.engine front.engine)).1 = .error .closed := by
    rw [Http.Service.perform_through through]
    exact Engine.perform_closed closed fun transaction own =>
      ordered.listed service front found transaction (listed transaction own)
  have answered : (front.service.answer request (host.engine front.engine)).1 =
      .ofFailure .closed := by
    rw [Http.Service.answer, demand]
    dsimp only
    rw [refused]
    rfl
  have responded : (host.respond service request).1 =
      (front.service.respond request (host.engine front.engine)).1 := by
    rw [respond, found]
  rw [responded, Http.Service.respond]
  rcases given : front.service.answer request (host.engine front.engine) with ⟨response, rest⟩
  rw [given] at answered
  cases answered
  dsimp only
  split
  · rfl
  · rfl

/-- A call over a link to a service with a closed engine is refused, by the link or by the engine. -/
theorem perform_remote_closed (ordered : host.Ordered bound) {link : LinkId} {service : ServiceId}
    (leads : host.network = .loopback (host.link link).base.origin service) {front : Front}
    (found : host.fronts[service]? = some front)
    (closed : (host.engine front.engine).isClosed = true) {call : Call}
    (arrives : host.Arrives link call)
    (listed : ∀ transaction ∈ call.transaction?, transaction ∈ front.service.transactions) :
    (host.perform (.remote link) call).1 = .error .closed := by
  rw [perform, RemoteLink.perform]
  split
  · rfl
  have responded := respond_closed ordered found closed arrives listed
  rw [if_neg (Http.method_ofCall _ call)] at responded
  have carried : (carrier (host.link link).base (.ofCall (host.link link).base call) host).1 =
      .ok (.ofFailure .closed) := by
    rw [carrier, leads]
    simp only [Network.loopback, if_true, responded]
  rw [RemoteLink.send]
  rcases sent : carrier (host.link link).base (.ofCall (host.link link).base call) host with
    ⟨outcome, later⟩
  rw [sent] at carried
  cases carried
  exact Http.toAnswer_ofFailure call rfl

theorem isClosed_turns (there : id < host.engines.length)
    (closed : (host.engine id).isClosed = true) (turns : List Turn) :
    ((host.turns turns).engine id).isClosed = true := by
  induction turns generalizing host with
  | nil => exact closed
  | cons turn later induction =>
      exact induction (Nat.lt_of_lt_of_le there (host.length_turn turn))
        (closed_turn there closed turn).1

/-! ## What is still open -/

def ends (id : EngineId) (transaction : TransactionId) : List Turn → Host → Bool
  | [], _ => false
  | turn :: later, host =>
      (turn.event? id host).any (·.ends transaction) || ends id transaction later (host.turn turn)

private theorem kept_of_ends {turn : Turn} {later : List Turn} {transaction : TransactionId}
    (goesOn : host.ends id transaction (turn :: later) = false) :
    (∀ event, turn.event? id host = some event → event.ends transaction = false) ∧
      (host.turn turn).ends id transaction later = false := by
  rw [ends, Bool.or_eq_false_iff, Option.any_eq_false] at goesOn
  exact ⟨fun event happens => by simpa using goesOn.1 event happens, goesOn.2⟩

theorem mem_turns {turns : List Turn} {transaction : TransactionId}
    (member : transaction ∈ (host.engine id).transactions)
    (goesOn : host.ends id transaction turns = false) :
    transaction ∈ ((host.turns turns).engine id).transactions := by
  induction turns generalizing host with
  | nil => exact member
  | cons turn later induction =>
      obtain ⟨kept, rest⟩ := kept_of_ends goesOn
      exact induction (mem_turn member kept) rest

theorem listed_turns {turns : List Turn} {service : ServiceId} {table : Http.Service}
    (found : host.fronts[service]? = some ⟨id, table⟩) {transaction : TransactionId}
    (member : transaction ∈ table.transactions)
    (goesOn : host.ends id transaction turns = false) :
    ∃ later : Http.Service, (host.turns turns).fronts[service]? = some ⟨id, later⟩ ∧
      transaction ∈ later.transactions := by
  induction turns generalizing host table with
  | nil => exact ⟨table, found, member⟩
  | cons turn later induction =>
      obtain ⟨kept, rest⟩ := kept_of_ends goesOn
      obtain ⟨next, after, stays⟩ := front_turn turn found
      refine induction after (stays transaction member fun call happens finishes about => ?_) rest
      have ended := kept _ happens
      rw [Event.ends, finishes, about] at ended
      simp at ended

/-! ## After a shutdown -/

/-- However an engine has been used, at hand and through services, once it has been shut down, be it
in vain, everything that is asked of it is refused because it is closed: at hand, in transactions
that are still open, by services, and over links to them. What is committed stays as it is, and the
transactions stay where they are until they are finished. -/
theorem turns_shutDown {host : Host} (unbegun : host.Unbegun) {turns later : List Turn}
    {id : EngineId} (there : id < (host.turns turns).engines.length)
    (keeps : host.KeepsApart turns)
    (keepsLater : ((host.turns turns).turn (.shutDown id)).KeepsApart later)
    (few : turns.length + later.length + 2 < 2 ^ 64) :
    let before := host.turns turns
    let shut := before.turn (.shutDown id)
    let final := shut.turns later
    (final.engine id).graph = (before.engine id).graph ∧
    (∀ call : Call,
      (∀ transaction ∈ call.transaction?, transaction ∈ (final.engine id).transactions) →
      (final.perform (.embedded id) call).1 = .error .closed) ∧
    (∀ (service : ServiceId) (table : Http.Service), final.fronts[service]? = some ⟨id, table⟩ →
      ∀ call : Call, (∀ transaction ∈ call.transaction?, transaction ∈ table.transactions) →
        (∀ request : Http.Request, request.demand = .ok (.call call) →
          (final.respond service request).1 =
            if request.method = "HEAD" then .bare 503 else .ofFailure .closed) ∧
        ∀ link : LinkId, final.network = .loopback (final.link link).base.origin service →
          final.Arrives link call → (final.perform (.remote link) call).1 = .error .closed) ∧
    (∀ transaction ∈ (before.engine id).transactions, shut.ends id transaction later = false →
      transaction ∈ (final.engine id).transactions) ∧
    ∀ (service : ServiceId) (table : Http.Service), before.fronts[service]? = some ⟨id, table⟩ →
      ∀ transaction ∈ table.transactions, shut.ends id transaction later = false →
        ∃ latest : Http.Service, final.fronts[service]? = some ⟨id, latest⟩ ∧
          transaction ∈ latest.transactions := by
  intro before shut final
  have inside : id < shut.engines.length :=
    Nat.lt_of_lt_of_le there (before.length_turn (.shutDown id))
  obtain ⟨closed, snapshot⟩ : (shut.engine id).isClosed = true ∧
      (shut.engine id).snapshot = (before.engine id).snapshot := by
    rw [engine_shutDown there]
    exact Engine.frame_shutdown _ _
  have still : (final.engine id).isClosed = true := isClosed_turns inside closed later
  have keepsShut : Turn.Keeps before (.shutDown id) := trivial
  have ordered : final.Ordered (1 + turns.length + 1 + later.length) :=
    ((unbegun.ordered.turns (by omega) keeps).turn (by omega) keepsShut).turns (by omega) keepsLater
  refine ⟨?_, fun call held => ?_, fun service table found call listed => ⟨?_, ?_⟩,
    fun transaction member goesOn => ?_, fun service table found transaction member goesOn => ?_⟩
  · exact congrArg Snapshot.graph ((snapshot_turns inside closed later).trans snapshot)
  · exact Engine.perform_closed still held
  · exact fun request demand => respond_closed ordered found still demand listed
  · exact fun link leads arrives =>
      perform_remote_closed ordered leads found still arrives listed
  · refine mem_turns ?_ goesOn
    rw [engine_shutDown there, (Engine.transactions_shutdown _ _).1]
    exact member
  · have same : shut.fronts[service]? = some ⟨id, table⟩ := found
    exact listed_turns same member goesOn

/-- One transaction is begun at hand and another through a service, the engine cannot be saved when
it is shut down, and somebody still stages a step. Both transactions are refused to the end. -/
theorem turns_shutDown_unsaved :
    let base : Url := ⟨"http", some "h", .parts Http.rootParts, none, none⟩
    let host : Host := {
      disk := { mishaps := [none, none, none, some 3] }
      fronts := [{ engine := 0 }]
      links := [{ base }]
      network := .loopback "http://h" 0 }
    let turns : List Turn := [
      .openAt "/g",
      .call 0 .beginTransaction,
      .request 0 (.ofCall base .beginTransaction),
      .call 0 (.stage 1 .createNode)]
    let before := host.turns turns
    let final := (before.turn (.shutDown 0)).turns [.call 0 (.stage 1 .createNode)]
    (before.shutdownEngine 0).1.isOk = false ∧
      (final.perform (.embedded 0) (.commit 1)).1 = .error .closed ∧
      (final.respond 0 (.ofCall base (.commit 2))).1 = .ofFailure .closed ∧
      (final.perform (.remote 0) (.commit 2)).1 = .error .closed ∧
      (final.engine 0).graph = (before.engine 0).graph := by
  intro base host turns before final
  have unbegun : host.Unbegun := by
    refine ⟨fun engine among => absurd among List.not_mem_nil, fun front among => ?_⟩
    rw [List.mem_singleton.1 among]
  have grounded : Http.Grounded base :=
    Http.Rooted.grounded ⟨rfl, fun before given => by cases given⟩
  have demand : (Http.Request.ofCall base (.commit 2)).demand = .ok (.call (.commit 2)) :=
    Http.demand_ofCall_writes grounded rfl
  have found : final.fronts[0]? =
      some ⟨0, { transactions := (∅ : Std.ExtTreeSet TransactionId compare).insert 2 }⟩ := by
    decide +kernel
  have listed : ∀ transaction ∈ (Call.commit 2).transaction?,
      transaction ∈ (∅ : Std.ExtTreeSet TransactionId compare).insert 2 := by
    rintro transaction ⟨⟩
    exact Std.ExtTreeSet.mem_insert_self
  have held : ∀ transaction ∈ (Call.commit 1).transaction?,
      transaction ∈ (final.engine 0).transactions := by
    rintro transaction ⟨⟩
    decide +kernel
  have there : 0 < before.engines.length := by decide +kernel
  have keeps : host.KeepsApart turns := by decide +kernel
  have keepsLater : (before.turn (.shutDown 0)).KeepsApart [.call 0 (.stage 1 .createNode)] := by
    decide +kernel
  obtain ⟨graph, atHand, through, -⟩ := turns_shutDown unbegun there keeps keepsLater (by decide)
  obtain ⟨responds, links⟩ := through 0 _ found (.commit 2) listed
  have linked : final.link 0 = { base } := by decide +kernel
  have arrives : final.Arrives 0 (.commit 2) := by
    rw [Arrives, linked]
    exact demand
  have failed : (before.shutdownEngine 0).1.isOk = false := by decide +kernel
  have response : (final.respond 0 (.ofCall base (.commit 2))).1 = .ofFailure .closed :=
    (responds _ demand).trans (if_neg (Http.method_ofCall base _))
  exact ⟨failed, atHand (.commit 1) held, response, links 0 (by decide +kernel) arrives, graph⟩

end Host

end RecordGraph
