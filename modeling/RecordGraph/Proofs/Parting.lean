import RecordGraph.Proofs.Engine.Effect
import RecordGraph.Proofs.Remote
import RecordGraph.Proofs.Turn

namespace RecordGraph

/-! What a link still does once it is closed. By itself it refuses every call but the two that finish
a transaction; these get to the service as if the link were open. A transaction that is rolled back
or given up leaves the committed graph as it is. But what has been staged before can still be
committed. -/

/-! ## Requests that delete -/

namespace Http

theorem rollback_of_demand_delete {request : Request} (delete : request.method = "DELETE")
    {call : Call} (demand : request.demand = .ok (.call call)) : ∃ id, call = .rollback id := by
  have unread (some_ : Except Nat Demand) : Route.demand.reading request some_ = .error 405 := by
    rw [Route.demand.reading, delete]
    exact if_neg (by decide)
  have unwritten (some_ : Except Nat Demand) : Route.demand.writing request some_ = .error 405 := by
    rw [Route.demand.writing, delete]
    exact if_neg (by decide)
  rw [Request.demand] at demand
  dsimp only at demand
  split at demand
  · cases demand
  · rename_i route found
    cases route with
    | transaction id =>
        rw [Route.demand, if_pos delete] at demand
        cases named : wordPart id with
        | error status =>
            rw [named] at demand
            cases demand
        | ok transaction =>
            rw [named] at demand
            cases demand
            exact ⟨transaction, rfl⟩
    | root => cases (unread _).symm.trans demand
    | properties node => cases (unread _).symm.trans demand
    | property node => cases (unread _).symm.trans demand
    | _ => cases (unwritten _).symm.trans demand

end Http

/-! ## What is done at a link -/

inductive Usage where
  | call (call : Call)
  /-- A transaction is given up without being finished. -/
  | abandon (transaction : TransactionId)
  /-- The link is closed. -/
  | shutdown
  /-- Others do something on the host. -/
  | others (turn : Turn)

def Usage.Harmless : Usage → Prop
  | .call made => ∀ transaction, made ≠ .commit transaction
  | .abandon _ => True
  | .shutdown => True
  | .others _ => False

namespace Host

def use (link : LinkId) : Usage → Host → Host
  | .call call, host => (host.perform (.remote link) call).2
  | .abandon transaction, host => host.abandon (.remote link) transaction
  | .shutdown, host => (host.shutdown (.remote link)).2
  | .others turn, host => host.turn turn

def uses (link : LinkId) : List Usage → Host → Host
  | [], host => host
  | usage :: later, host => uses link later (host.use link usage)

variable {host : Host} {link : LinkId} {call : Call}

theorem link_perform (host : Host) (link : LinkId) (call : Call) :
    (host.perform (.remote link) call).2.link link = host.link link := by
  rcases host.perform_turn link call with same | ⟨-, service, -, turned⟩
  · rw [same]
  · rw [turned]
    exact (host.link_turn _ link).1

theorem isClosed_shutdown (host : Host) (link : LinkId) :
    ((host.shutdown (.remote link)).2.link link).isClosed = true := by
  rw [shutdown, Host.link]
  by_cases inside : link < host.links.length
  · simp [inside, RemoteLink.shutdown]
  · simp [inside]

theorem isClosed_use (closed : (host.link link).isClosed = true) (usage : Usage) :
    ((host.use link usage).link link).isClosed = true := by
  cases usage with
  | call made =>
      rw [Host.use, link_perform]
      exact closed
  | abandon transaction =>
      rw [Host.use, abandon, link_perform]
      exact closed
  | shutdown => exact host.isClosed_shutdown link
  | others turn =>
      rw [Host.use, (host.link_turn turn link).1]
      exact closed

theorem isClosed_uses (closed : (host.link link).isClosed = true) (usages : List Usage) :
    ((host.uses link usages).link link).isClosed = true := by
  induction usages generalizing host with
  | nil => exact closed
  | cons usage later induction => exact induction (isClosed_use closed usage)

/-! ## A link that is closed -/

theorem perform_closed (closed : (host.link link).isClosed = true) (stays : call.finishes = false) :
    host.perform (.remote link) call = (.error .closed, host) := by
  rw [perform, RemoteLink.perform, closed, stays]
  rfl

/-- What finishes a transaction is sent whether the link is closed or not. -/
theorem perform_finishing (host : Host) (link : LinkId) (finishes : call.finishes = true) :
    host.perform (.remote link) call =
      { host.link link with isClosed := false }.perform carrier call host := by
  rw [perform, RemoteLink.perform, RemoteLink.perform, finishes, Bool.not_true, Bool.and_false,
    Bool.and_false]
  rfl

/-- A request that gets through as a call that changes no graph leaves every committed graph as it
is. -/
theorem graph_respond {service : ServiceId} {request : Http.Request}
    (quiet : ∀ own made, host.passed service request = some (own, made) → made.changes = false)
    (id : EngineId) : ((host.respond service request).2.engine id).graph = (host.engine id).graph := by
  rw [engine, engines_respond]
  cases through : host.passed service request with
  | none => rfl
  | some found =>
      rcases found with ⟨own, made⟩
      dsimp only
      by_cases same : own = id
      · subst same
        rcases (host.engine own).graph_perform made with graph | ⟨changes, -⟩
        · rcases Nat.lt_or_ge own host.engines.length with there | beyond
          · rw [List.getElem?_set_self there]
            exact graph
          · rw [List.set_eq_of_length_le beyond]
            rfl
        · rw [quiet own made through] at changes
          cases changes
      · rw [List.getElem?_set_ne same]
        rfl

theorem graph_rollback (host : Host) (link : LinkId) (transaction : TransactionId) (id : EngineId) :
    ((host.perform (.remote link) (.rollback transaction)).2.engine id).graph =
      (host.engine id).graph := by
  rcases host.perform_turn link (.rollback transaction) with same | ⟨-, service, -, turned⟩
  · rw [same]
  rw [turned]
  refine graph_respond (fun own made through => ?_) id
  rcases front_of_passed through with ⟨_, -, -, passed⟩
  rcases Http.rollback_of_demand_delete rfl (Http.Service.demand_of_passed passed) with
    ⟨other, rfl⟩
  rfl

theorem graph_use (closed : (host.link link).isClosed = true) {usage : Usage} (harmless : usage.Harmless)
    (id : EngineId) : ((host.use link usage).engine id).graph = (host.engine id).graph := by
  cases usage with
  | call made =>
      cases finishes : made.finishes with
      | false => rw [Host.use, perform_closed closed finishes]
      | true =>
          cases made with
          | commit transaction => exact absurd rfl (harmless transaction)
          | rollback transaction => exact host.graph_rollback link transaction id
          | _ => cases finishes
  | abandon transaction => exact host.graph_rollback link transaction id
  | shutdown => rfl
  | others turn => cases harmless

theorem graph_uses (closed : (host.link link).isClosed = true) {usages : List Usage}
    (harmless : ∀ usage ∈ usages, usage.Harmless) (id : EngineId) :
    ((host.uses link usages).engine id).graph = (host.engine id).graph := by
  induction usages generalizing host with
  | nil => rfl
  | cons usage later induction =>
      refine (induction (isClosed_use closed usage) fun other among =>
        harmless other (List.mem_cons_of_mem _ among)).trans ?_
      exact graph_use closed (harmless usage List.mem_cons_self) id

/-- Whatever is done after a link has been closed, over the link and by others: a call over the link
fails and leaves everything as it is, unless it finishes a transaction. What finishes one is sent as
if the link were open, and only a commit that gets to the service can change a committed graph. -/
theorem uses_shutdown (host : Host) (link : LinkId) (usages : List Usage) :
    let shut := (host.shutdown (.remote link)).2
    let later := shut.uses link usages
    (∀ call : Call, call.finishes = false →
      later.perform (.remote link) call = (.error .closed, later)) ∧
    (∀ call : Call, call.finishes = true → later.perform (.remote link) call =
      { later.link link with isClosed := false }.perform carrier call later) ∧
    (∀ usage : Usage, usage.Harmless → ∀ id,
      ((later.use link usage).engine id).graph = (later.engine id).graph) ∧
    ((∀ usage ∈ usages, usage.Harmless) → ∀ id, (later.engine id).graph = (host.engine id).graph) := by
  intro shut later
  have closed : (later.link link).isClosed = true :=
    isClosed_uses (host.isClosed_shutdown link) usages
  exact ⟨fun call stays => perform_closed closed stays,
    fun call finishes => later.perform_finishing link finishes,
    fun usage harmless id => graph_use closed harmless id,
    fun harmless id => graph_uses (host.isClosed_shutdown link) harmless id⟩

/-- A node is created in a transaction over a link, and the link is closed. The commit succeeds all
the same, and the node is there. -/
theorem shutdown_commits :
    let host : Host := {
      engines := [.inMemory]
      fronts := [{ engine := 0 }]
      network := .loopback "http://h" 0 }
    let connected := host.connect "http://h"
    let begun := connected.2.perform (.remote 0) .beginTransaction
    let staged := begun.2.perform (.remote 0) (.stage 1 .createNode)
    let shut := staged.2.shutdown (.remote 0)
    let committed := shut.2.perform (.remote 0) (.commit 1)
    connected.1 = .ok 0 ∧ begun.1 = .ok 1 ∧ staged.1 = .ok (some 1) ∧ shut.1 = .ok () ∧
      (shut.2.link 0).isClosed = true ∧ (shut.2.engine 0).graph = {} ∧
      committed.1 = .ok () ∧ (committed.2.engine 0).graph.nodes.keys = [1] := by
  intro host connected begun staged shut committed
  exact ⟨by decide +kernel, by decide +kernel, by decide +kernel, by decide +kernel,
    by decide +kernel, by decide +kernel, by decide +kernel, by decide +kernel⟩

end Host

end RecordGraph
