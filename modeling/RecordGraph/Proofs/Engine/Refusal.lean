import RecordGraph.Proofs.Engine.Pending

namespace RecordGraph

/-! Refused commits. A commit is refused for one reason only: a node is gone that the transaction
needs and has not created itself. Nodes go by the commits of others, so that a transaction commits
if none of them has deleted anything while it was open. -/

theorem Failure.nodeRemoved_ne_indexDropped (node : NodeId) (index : String) :
    Failure.nodeRemoved node ≠ .indexDropped index := by
  intro same
  have texts := congrArg String.toList (Failure.conflict.inj same)
  simp [Failure.nodeNamed, Failure.indexNamed] at texts

/-! ## What has taken effect -/

namespace Ledger

theorem committed_record (ledger : Ledger) (call : Call) (answer : Except Failure call.Answer) :
    ledger.committed <+: (ledger.record call answer).committed := by
  have same : ledger.committed <+: ledger.committed := List.prefix_rfl
  have more (deeds : List Deed) : ledger.committed <+: ledger.committed ++ deeds :=
    List.prefix_append _ _
  cases call with
  | createIndex name =>
      cases answer with
      | ok => exact more _
      | error failure => exact same
  | commit id =>
      cases answer with
      | ok => exact more _
      | error failure => exact same
  | executeBatch batch =>
      cases answer with
      | ok created => exact more _
      | error failure => exact same
  | beginTransaction =>
      cases answer with
      | ok id => exact same
      | error failure => exact same
  | stage id step =>
      cases answer with
      | ok created => exact same
      | error failure => exact same
  | _ => exact same

end Ledger

namespace Event

theorem committed_enter (event : Event) (engine : Engine) (ledger : Ledger) :
    ledger.committed <+: (event.enter engine ledger).committed := by
  cases event with
  | call made => exact ledger.committed_record made _
  | _ => exact List.prefix_rfl

end Event

namespace Engine

variable {start : Picture} {engine : Engine} {ledger : Ledger} {id : TransactionId}

theorem committed_follow (engine : Engine) (ledger : Ledger) (events : List Event) :
    ledger.committed <+: (engine.follow ledger events).2.committed := by
  induction events generalizing engine ledger with
  | nil => exact List.prefix_rfl
  | cons event events induction =>
      exact (event.committed_enter engine ledger).trans (induction _ _)

theorem follow_append (engine : Engine) (ledger : Ledger) (first second : List Event) :
    engine.follow ledger (first ++ second) =
      (engine.follow ledger first).1.follow (engine.follow ledger first).2 second := by
  induction first generalizing engine ledger with
  | nil => rfl
  | cons event events induction => exact induction _ _

theorem hasNode_change (right : ledger.Right start engine) (event : Event) {node : NodeId}
    (there : engine.graph.hasNode node = true)
    (kept : .write (.deleteNode node) ∉
      (event.enter engine ledger).committed.drop ledger.committed.length) :
    (event.change engine).graph.hasNode node = true := by
  have whole := List.prefix_iff_eq_append.1 (event.committed_enter engine ledger)
  rw [← Graph.picture_nodes_ne_none] at there ⊢
  rw [(right.change event).picture, ← whole, Picture.after_append, ← right.picture]
  exact Picture.after_keeps there kept

/-! ## Transactions that miss nothing -/

def Supports (id : TransactionId) (engine : Engine) : Prop :=
  ∀ transaction, engine.transactions[id]? = some transaction →
    ∀ node, ¬ engine.graph.Misses transaction.writes node

theorem Supports.change (supports : engine.Supports id) (orderly : engine.Orderly) {event : Event}
    (kept : ∀ node, engine.graph.hasNode node = true →
      (event.change engine).graph.hasNode node = true) : (event.change engine).Supports id := by
  intro staged found node misses
  have before := misses.of_more (kept node)
  rcases event.pending found with same | ⟨-, rfl⟩ | ⟨transaction, write, open_, admits, rfl⟩
  · exact supports staged same node before
  · exact Graph.not_misses_nil before
  · have supported := supports transaction open_
    exact (orderly id transaction open_).not_misses_note admits supported node before

theorem Supports.follow (supports : engine.Supports id) (orderly : engine.Orderly)
    (right : ledger.Right start engine) (events : List Event)
    (kept : ∀ node, .write (.deleteNode node) ∉
      (engine.follow ledger events).2.committed.drop ledger.committed.length) :
    (engine.follow ledger events).1.Supports id := by
  induction events generalizing engine ledger with
  | nil => exact supports
  | cons event events induction =>
      rw [Engine.follow] at kept ⊢
      rcases event.committed_enter engine ledger with ⟨now, first⟩
      rcases (event.change engine).committed_follow (event.enter engine ledger) events with
        ⟨later, rest⟩
      rw [← rest, ← first, List.append_assoc, List.drop_left] at kept
      refine induction (supports.change orderly fun node there => ?_) (orderly.change event)
        (right.change event) fun node deletes => ?_
      · refine hasNode_change right event there fun deletes => kept node ?_
        rw [← first, List.drop_left] at deletes
        exact List.mem_append_left _ deletes
      · rw [← rest, List.drop_left] at deletes
        exact kept node (List.mem_append_right _ deletes)

theorem supports_begun (begun : (engine.perform .beginTransaction).1 = .ok id) :
    (engine.perform .beginTransaction).2.Supports id := by
  intro transaction found node
  rw [perform, beginTransaction] at begun found
  split at begun
  · cases begun
  · rename_i isOpen
    rcases Except.ok.inj begun with rfl
    rw [if_neg isOpen, Std.ExtTreeMap.getElem?_insert_self] at found
    rw [← Option.some.inj found]
    exact Graph.not_misses_nil

theorem supports_of_spared (orderly : engine.Orderly) (right : ledger.Right start engine)
    (begun : (engine.perform .beginTransaction).1 = .ok id) (during : List Event)
    (spared : ∀ node, .write (.deleteNode node) ∉
      (engine.follow ledger (.call .beginTransaction :: during)).2.committed.drop
        ledger.committed.length) :
    (engine.follow ledger (.call .beginTransaction :: during)).1.Supports id := by
  have still : ((Event.call .beginTransaction).enter engine ledger).committed =
      ledger.committed := by
    rw [Event.enter, begun]
    rfl
  rw [follow] at spared ⊢
  rw [← still] at spared
  have orderlyAfter := orderly.change (.call .beginTransaction)
  have rightAfter := right.change (.call .beginTransaction)
  exact Supports.follow (supports_begun begun) orderlyAfter rightAfter during spared

/-! ## What a commit answers -/

section

variable {transaction : Transaction}

/-- The commit of an orderly transaction is refused exactly if a node is missing. -/
theorem commit_orderly (isOpen : engine.isClosed = false)
    (open_ : engine.transactions[id]? = some transaction)
    (orderly : transaction.Orderly engine.graph) :
    ((engine.perform (.commit id)).1 = .ok () ∧
        ∀ node, ¬ engine.graph.Misses transaction.writes node) ∨
      ∃ node, (engine.perform (.commit id)).1 = .error (.nodeRemoved node) ∧
        engine.graph.Misses transaction.writes node := by
  have still : (engine.forget id).isClosed = false := isOpen
  have same : (engine.forget id).graph = engine.graph := rfl
  rw [perform, commit, open_]
  dsimp only
  rw [commitIn, if_neg (by simp [still]), Transaction.commit, same]
  rcases orderly.checkAll_cases with ⟨passed, supported⟩ | ⟨node, refused, misses⟩
  · rw [passed]
    exact .inl ⟨rfl, supported⟩
  · rw [refused]
    exact .inr ⟨node, rfl, misses⟩

theorem conflict_iff (isOpen : engine.isClosed = false)
    (open_ : engine.transactions[id]? = some transaction)
    (orderly : transaction.Orderly engine.graph) :
    (∃ detail, (engine.perform (.commit id)).1 = .error (.conflict detail)) ↔
      ∃ node, engine.graph.Misses transaction.writes node := by
  rcases commit_orderly isOpen open_ orderly with ⟨done, supported⟩ | ⟨node, failed, misses⟩
  · refine ⟨fun ⟨detail, failed⟩ => ?_, fun ⟨node, misses⟩ => absurd misses (supported node)⟩
    cases done.symm.trans failed
  · exact ⟨fun _ => ⟨node, misses⟩, fun _ => ⟨_, failed⟩⟩

/-- In a transaction behind the counter, what is missing is a node that it uses and has not
created. -/
theorem misses_staged_iff {next : NodeId} (behind : transaction.Behind next)
    (staged : ledger.staged id = transaction.writes.map .write) :
    (∃ node, engine.graph.Misses transaction.writes node) ↔
      ∃ write node, .write write ∈ ledger.staged id ∧ write.target? = some node ∧
        .write (.createNode node) ∉ ledger.staged id ∧ engine.graph.hasNode node = false := by
  rw [staged]
  constructor
  · rintro ⟨node, misses⟩
    rcases behind.misses_iff.1 misses with ⟨⟨write, needed, needs⟩, new, absent⟩
    exact ⟨write, node, List.mem_map_of_mem needed, needs, by simpa using new, absent⟩
  · rintro ⟨write, node, needed, needs, new, absent⟩
    refine ⟨node, behind.misses_iff.2 ⟨⟨write, ?_, needs⟩, ?_, absent⟩⟩
    · simpa using needed
    · simpa using new

end

/-- After whatever has happened on an engine, a commit is refused exactly if the transaction needs a
node that no earlier step of it has created and that is not there at that moment; it is refused for
that, and never for an index. As long as the numbers of nodes do not run out, such a node has not
been created by the transaction at all. If nothing has been deleted since the transaction has begun,
it commits. -/
theorem commit_refused {start : Engine} (empty : start.transactions = ∅) {events : List Event}
    (run : start.follow (.opening start) events = (engine, ledger))
    (isOpen : engine.isClosed = false) (member : id ∈ engine.transactions) :
    let answer := (engine.perform (.commit id)).1
    ((∃ detail, answer = .error (.conflict detail)) ↔
      ∃ writes node, ledger.staged id = writes.map .write ∧ engine.graph.Misses writes node) ∧
    (answer = .ok () ∨ ∃ node, answer = .error (.nodeRemoved node)) ∧
    (∀ index, answer ≠ .error (.indexDropped index)) ∧
    (start.Numbered → start.nextNode.toNat + start.allocatedThrough events < 2 ^ 64 →
      ((∃ detail, answer = .error (.conflict detail)) ↔
        ∃ write node, .write write ∈ ledger.staged id ∧ write.target? = some node ∧
          .write (.createNode node) ∉ ledger.staged id ∧ engine.graph.hasNode node = false)) ∧
    ∀ earlier during past known, events = earlier ++ .call .beginTransaction :: during →
      start.follow (.opening start) earlier = (past, known) →
      (past.perform .beginTransaction).1 = .ok id →
      (∀ node, .write (.deleteNode node) ∉ ledger.committed.drop known.committed.length) →
      answer = .ok () := by
  intro answer
  have opening := orderly_of_empty empty
  have orderly := opening.follow (.opening start) events
  have right := (Ledger.right_opening start).follow events
  rw [run] at orderly right
  rcases Option.isSome_iff_exists.1 (Std.ExtTreeMap.mem_iff_isSome_getElem?.1 member) with
    ⟨transaction, open_⟩
  have staged := right.staged id transaction open_
  have outcome := commit_orderly isOpen open_ (orderly id transaction open_)
  have refused := conflict_iff isOpen open_ (orderly id transaction open_)
  refine ⟨?_, ?_, ?_, ?_, ?_⟩
  · refine refused.trans ⟨fun ⟨node, misses⟩ => ⟨_, node, staged, misses⟩, ?_⟩
    rintro ⟨writes, node, same, misses⟩
    have equal := List.map_injective_iff.2 (fun _ _ => Deed.write.inj) (staged.symm.trans same)
    rw [equal]
    exact ⟨node, misses⟩
  · exact outcome.imp And.left fun ⟨node, failed, _⟩ => ⟨node, failed⟩
  · intro index dropped
    rcases outcome with ⟨done, -⟩ | ⟨node, failed, -⟩
    · cases done.symm.trans dropped
    · exact Failure.nodeRemoved_ne_indexDropped node index
        (Except.error.inj (failed.symm.trans dropped))
  · intro numbered room
    have ahead := (ahead_of_empty empty numbered).follow opening (.opening start) events room
    rw [run] at ahead
    exact refused.trans (misses_staged_iff (ahead.behind id transaction open_) staged)
  · intro earlier during past known split before begun spared
    have orderlyBefore := opening.follow (.opening start) earlier
    have rightBefore := (Ledger.right_opening start).follow earlier
    rw [before] at orderlyBefore rightBefore
    rw [split, follow_append, before] at run
    have supports := supports_of_spared orderlyBefore rightBefore begun during (by
      rw [run]
      exact spared)
    rw [run] at supports
    rcases outcome with ⟨done, -⟩ | ⟨node, -, misses⟩
    · exact done
    · exact absurd misses (supports transaction open_ node)

/-- Transaction 2 has set a property of node 1 before transaction 3 deletes the node: its commit is
refused. Transaction 4 has begun after that, and commits what it has created. -/
theorem commit_refused_deleted :
    let events : List Event := [.call .beginTransaction, .call (.stage 1 .createNode),
      .call (.commit 1), .call .beginTransaction, .call .beginTransaction,
      .call (.stage 2 (.setProperty 1 "a" (.text "b"))), .call (.stage 3 (.deleteNode 1)),
      .call (.commit 3), .call .beginTransaction, .call (.stage 4 .createNode),
      .call (.stage 4 (.setProperty 2 "a" (.text "b")))]
    let engine := (inMemory.follow (.opening inMemory) events).1
    (∃ detail, (engine.perform (.commit 2)).1 = .error (.conflict detail)) ∧
      (engine.perform (.commit 4)).1 = .ok () := by
  intro events engine
  have run : inMemory.follow (.opening inMemory) events =
      (engine, (inMemory.follow (.opening inMemory) events).2) := rfl
  have isOpen : engine.isClosed = false := by decide
  constructor
  · have second : 2 ∈ engine.transactions := by decide
    have room : inMemory.nextNode.toNat + inMemory.allocatedThrough events < 2 ^ 64 := by decide
    refine ((commit_refused rfl run isOpen second).2.2.2.1 numbered_inMemory room).2 ?_
    exact ⟨.setProperty 1 "a" (.text "b"), 1, by decide⟩
  · have fourth : 4 ∈ engine.transactions := by decide
    refine (commit_refused rfl run isOpen fourth).2.2.2.2 (events.take 8) (events.drop 9) _ _
      rfl rfl (by decide) ?_
    intro node deletes
    cases deletes

/-- Where the numbers run out, a transaction uses a node and then creates one under the same number.
All nodes that it uses are its own, but when another transaction has deleted the node its commit is
refused. -/
theorem commit_refused_runs_over :
    let start := ofGraph none { nodes := .insert ∅ 1 ∅ } 18446744073709551615
    let writes : List Write := [.setProperty 1 "a" (.text "b"), .createNode 18446744073709551615,
      .createNode 0, .createNode 1]
    let events : List Event := [.call .beginTransaction,
      .call (.stage 1 (.setProperty 1 "a" (.text "b"))), .call (.stage 1 .createNode),
      .call (.stage 1 .createNode), .call (.stage 1 .createNode), .call .beginTransaction,
      .call (.stage 2 (.deleteNode 1)), .call (.commit 2)]
    let final := start.follow (.opening start) events
    final.1.isClosed = false ∧ final.2.staged 1 = writes.map .write ∧
      (∀ write ∈ writes, ∀ node, write.target? = some node → .createNode node ∈ writes) ∧
      (final.1.perform (.commit 1)).1 = .error (.nodeRemoved 1) := by
  intro start writes events final
  refine ⟨by decide +kernel, by decide +kernel, fun write member node uses => ?_, by decide +kernel⟩
  have own : writes.tail.all (·.target? = none) = true := by decide
  rcases List.mem_cons.1 member with rfl | later
  · rw [← Option.some.inj uses]
    decide
  · have none_ := of_decide_eq_true (List.all_eq_true.1 own write later)
    cases none_.symm.trans uses

end Engine

end RecordGraph
