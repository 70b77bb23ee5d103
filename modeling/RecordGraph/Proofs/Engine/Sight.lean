import RecordGraph.Proofs.Engine.Pending

namespace RecordGraph

/-! What a transaction sees. It never makes a graph of its own writes, and others may change the
committed one at any moment; still a step on a node succeeds exactly if the node would be there with
the transaction's writes performed. A node that the transaction has deleted it never sees again. -/

/-- The step asks for one node, and everything else that it needs is there. -/
def Step.Addresses (graph : Graph) (node : NodeId) : Step → Prop
  | .setProperty target name _ => target = node ∧ name ≠ ""
  | .deleteNode target => target = node
  | .indexAdd index target _ _ => target = node ∧ graph.hasIndex index = true
  | _ => False

namespace Graph

variable {graph : Graph} {writes : List Write} {node : NodeId}

theorem hasNode_performAll (present : graph.hasNode node = true)
    (kept : .deleteNode node ∉ writes) : (graph.performAll writes).hasNode node = true := by
  rw [← picture_nodes_ne_none] at present ⊢
  rw [picture_performAll]
  exact Picture.after_keeps present (by simpa using kept)

theorem hasNode_performAll_iff (kept : .deleteNode node ∉ writes) :
    (graph.performAll writes).hasNode node = true ↔
      .createNode node ∈ writes ∨ graph.hasNode node = true := by
  constructor
  · intro present
    exact (hasNode_of_performAll present).symm.imp_left Write.mem_allCreated.1
  · rintro (creates | present)
    · rcases List.append_of_mem creates with ⟨before, after, rfl⟩
      rw [List.mem_append, List.mem_cons, not_or, not_or] at kept
      rw [performAll_append, performAll_cons]
      exact hasNode_performAll (hasNode_createNode _ node) kept.2.2
    · exact hasNode_performAll present kept

end Graph

namespace Transaction

variable {graph : Graph} {transaction : Transaction} {node fresh next : NodeId}

theorem stage_addresses {step : Step} (addresses : step.Addresses graph node) :
    (transaction.stage graph fresh step).map (·.1) =
      if transaction.seesNode graph node then .ok none else .error (.noNode node) := by
  cases step with
  | createNode => exact addresses.elim
  | indexRemove => exact addresses.elim
  | setProperty target name value =>
      rcases addresses with ⟨rfl, named⟩
      rw [stage, if_neg (by simpa using named), pushOn]
      split
      · rfl
      · rfl
  | deleteNode target =>
      rcases addresses with rfl
      rw [stage, pushOn]
      split
      · rfl
      · rfl
  | indexAdd index target key value =>
      rcases addresses with ⟨rfl, there⟩
      rw [stage, if_pos there, pushOn]
      split
      · rfl
      · rfl

/-- What a transaction sees is what its writes would make of the graph now, without what it has
deleted. -/
theorem Orderly.sees_iff_performAll (orderly : transaction.Orderly graph) :
    transaction.seesNode graph node = true ↔ .deleteNode node ∉ transaction.writes ∧
      (graph.performAll transaction.writes).hasNode node = true := by
  rw [orderly.sees_iff]
  exact and_congr_right fun kept => (Graph.hasNode_performAll_iff kept).symm

theorem Behind.absent_of_deletes (behind : transaction.Behind next)
    (deletes : .deleteNode node ∈ transaction.writes) :
    (graph.performAll transaction.writes).hasNode node = false := by
  rcases List.append_of_mem deletes with ⟨before, after, split⟩
  have order := behind.order
  rw [split, List.pairwise_append, List.pairwise_cons] at order
  rw [split, Graph.performAll_append, Graph.performAll_cons, ← Bool.not_eq_true]
  intro present
  rcases Graph.hasNode_of_performAll present with left | creates
  · exact Bool.false_ne_true ((Graph.hasNode_deleteNode _ node).symm.trans left)
  · exact order.2.1.1 _ (Write.mem_allCreated.1 creates) node rfl rfl

theorem Behind.sees_iff_performAll (behind : transaction.Behind next)
    (orderly : transaction.Orderly graph) :
    transaction.seesNode graph node = true ↔
      (graph.performAll transaction.writes).hasNode node = true := by
  rw [orderly.sees_iff_performAll]
  refine ⟨And.right, fun present => ⟨fun deletes => ?_, present⟩⟩
  exact Bool.false_ne_true ((behind.absent_of_deletes deletes).symm.trans present)

end Transaction

namespace Engine

variable {engine : Engine} {ledger : Ledger} {id : TransactionId} {transaction : Transaction}

theorem stage_answer (isOpen : engine.isClosed = false)
    (open_ : engine.transactions[id]? = some transaction) (step : Step) :
    (engine.perform (.stage id step)).1 =
      (transaction.stage engine.graph engine.nextNode step).map (·.1) := by
  rw [perform, stage, open_]
  dsimp only
  rw [stageIn, if_neg (by simp [isOpen])]
  rcases transaction.stage engine.graph engine.nextNode step with failure | ⟨_ | node, staged⟩
  · rfl
  · rfl
  · rfl

/-- After whatever has happened on an engine, a step on a node succeeds exactly if the node is in
the view of the transaction, which is the graph of that moment with all that the transaction has
staged, and the transaction has not deleted it. As long as the numbers of nodes do not run out, what
it has deleted is not in its view. A step that fails changes nothing. -/
theorem stage_sight {start : Engine} (empty : start.transactions = ∅) {events : List Event}
    (run : start.follow (.opening start) events = (engine, ledger))
    (isOpen : engine.isClosed = false) (member : id ∈ engine.transactions)
    {node : NodeId} {step : Step} (addresses : step.Addresses engine.graph node) :
    let view := engine.graph.picture.after (ledger.staged id)
    let answer := (engine.perform (.stage id step)).1
    (answer = if .write (.deleteNode node) ∉ ledger.staged id ∧ view.nodes node ≠ none
        then .ok none else .error (.noNode node)) ∧
    (start.Numbered → start.nextNode.toNat + start.allocatedThrough events < 2 ^ 64 →
      answer = if view.nodes node ≠ none then .ok none else .error (.noNode node)) ∧
    ∀ (other : Step) (failure : Failure),
      (engine.perform (.stage id other)).1 = .error failure →
      (Event.call (.stage id other)).change engine = engine ∧
        (Event.call (.stage id other)).enter engine ledger = ledger := by
  intro view answer
  have opening := orderly_of_empty empty
  have orderlies := opening.follow (.opening start) events
  have right := (Ledger.right_opening start).follow events
  rw [run] at orderlies right
  rcases Option.isSome_iff_exists.1 (Std.ExtTreeMap.mem_iff_isSome_getElem?.1 member) with
    ⟨transaction, open_⟩
  have staged := right.staged id transaction open_
  have orderly := orderlies id transaction open_
  have seen : view.nodes node ≠ none ↔
      (engine.graph.performAll transaction.writes).hasNode node = true := by
    rw [← Graph.picture_nodes_ne_none, Graph.picture_performAll, ← staged]
  have outcome := (stage_answer isOpen open_ step).trans (Transaction.stage_addresses addresses)
  refine ⟨?_, ?_, ?_⟩
  · have sees : transaction.seesNode engine.graph node = true ↔
        .write (.deleteNode node) ∉ ledger.staged id ∧ view.nodes node ≠ none := by
      rw [orderly.sees_iff_performAll, seen, staged]
      simp
    simp only [← sees]
    exact outcome
  · intro numbered room
    have ahead := (ahead_of_empty empty numbered).follow opening (.opening start) events room
    rw [run] at ahead
    have sees : transaction.seesNode engine.graph node = true ↔ view.nodes node ≠ none :=
      ((ahead.behind id transaction open_).sees_iff_performAll orderly).trans seen.symm
    simp only [← sees]
    exact outcome
  · intro other failure failed
    refine ⟨stage_error failed, ?_⟩
    rw [Event.enter, failed]
    rfl

/-- Transaction 2 has created node 2, and transaction 3 has deleted node 1: transaction 2 sees its
own node and not the other one. -/
theorem stage_sight_amid :
    let events : List Event := [.call .beginTransaction, .call (.stage 1 .createNode),
      .call (.commit 1), .call .beginTransaction, .call .beginTransaction,
      .call (.stage 2 .createNode), .call (.stage 3 (.deleteNode 1)), .call (.commit 3)]
    let engine := (inMemory.follow (.opening inMemory) events).1
    (engine.perform (.stage 2 (.deleteNode 2))).1 = .ok none ∧
      (engine.perform (.stage 2 (.setProperty 1 "a" (.text "b")))).1 = .error (.noNode 1) := by
  intro events engine
  have run : inMemory.follow (.opening inMemory) events =
      (engine, (inMemory.follow (.opening inMemory) events).2) := rfl
  have isOpen : engine.isClosed = false := by decide
  have second : 2 ∈ engine.transactions := by decide
  have room : inMemory.nextNode.toNat + inMemory.allocatedThrough events < 2 ^ 64 := by decide
  constructor
  · have own : Step.Addresses engine.graph 2 (.deleteNode 2) := rfl
    have sight := stage_sight rfl run isOpen second own
    exact (sight.2.1 numbered_inMemory room).trans (if_pos (by decide))
  · have other : Step.Addresses engine.graph 1 (.setProperty 1 "a" (.text "b")) :=
      ⟨rfl, by decide⟩
    have sight := stage_sight rfl run isOpen second other
    exact (sight.2.1 numbered_inMemory room).trans (if_neg (by decide))

/-- Where the numbers run out, a node is created under the number of one that the transaction has
deleted: its writes leave a node of that number, but the transaction does not see it. -/
theorem stage_sight_runs_over :
    let start := ofGraph none { nodes := .insert ∅ 1 ∅ } 18446744073709551615
    let events : List Event := [.call .beginTransaction, .call (.stage 1 (.deleteNode 1)),
      .call (.stage 1 .createNode), .call (.stage 1 .createNode), .call (.stage 1 .createNode)]
    let (engine, ledger) := start.follow (.opening start) events
    engine.isClosed = false ∧ 1 ∈ engine.transactions ∧
      (engine.graph.picture.after (ledger.staged 1)).nodes 1 ≠ none ∧
      (engine.perform (.stage 1 (.setProperty 1 "a" (.text "b")))).1 = .error (.noNode 1) := by
  decide +kernel

end Engine

end RecordGraph
