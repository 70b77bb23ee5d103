import RecordGraph.Proofs.Graph.Validation

namespace RecordGraph

/-! Staged writes commit. As long as nobody else changes the graph, whatever a transaction has
staged passes the check of its commit. -/

namespace Transaction

namespace Standing

theorem checkAll_eq (graph : Graph) (standing : Standing) (writes : List Write) :
    checkAll graph standing writes = (writes.foldlM (check graph) standing).map fun _ => () := by
  induction writes generalizing standing with
  | nil => rfl
  | cons write writes induction =>
      rw [checkAll, List.foldlM_cons]
      cases standing.check graph write with
      | error failure => rfl
      | ok next => exact induction next

end Standing

structure Agrees (graph : Graph) (standing : Standing) (transaction : Transaction) : Prop where
  deleted : standing.deleted = transaction.deleted
  node : ∀ node, standing.hasNode graph node = transaction.seesNode graph node

def Checked (graph : Graph) (transaction : Transaction) : Prop :=
  ∃ standing, transaction.writes.foldlM (Standing.check graph) {} = .ok standing ∧
    Agrees graph standing transaction

variable {graph : Graph} {transaction staged : Transaction}

theorem checked_empty (graph : Graph) : Checked graph {} := ⟨{}, rfl, rfl, fun _ => rfl⟩

theorem Checked.commit (checked : Checked graph transaction) :
    transaction.commit graph = .ok (graph.performAll transaction.writes) := by
  rcases checked with ⟨standing, passed, -⟩
  rw [Transaction.commit, Standing.checkAll_eq, passed]
  rfl

private theorem Checked.append (checked : Checked graph transaction) {write : Write}
    (writes : staged.writes = transaction.writes ++ [write])
    (passes : ∀ standing, Agrees graph standing transaction →
      ∃ next, standing.check graph write = .ok next ∧ Agrees graph next staged) :
    Checked graph staged := by
  rcases checked with ⟨standing, passed, agrees⟩
  rcases passes standing agrees with ⟨next, step, agreesAfter⟩
  refine ⟨next, ?_, agreesAfter⟩
  rw [writes, List.foldlM_append, passed]
  simp only [List.foldlM_cons, List.foldlM_nil]
  exact congrArg (· >>= pure) step

theorem Checked.create (checked : Checked graph transaction) (node : NodeId) :
    Checked graph (transaction.create node) := by
  refine checked.append rfl fun standing agrees => ⟨_, rfl, agrees.deleted, fun other => ?_⟩
  have before := agrees.node other
  simp only [Standing.hasNode, seesNode, Transaction.create, Transaction.push, agrees.deleted,
    Std.ExtTreeSet.contains_insert] at before ⊢
  cases gone : transaction.deleted.contains other with
  | true => rfl
  | false => simpa [gone, Bool.or_assoc] using congrArg (compare node other == .eq || ·) before

theorem Checked.delete (checked : Checked graph transaction) {node : NodeId}
    (sees : transaction.seesNode graph node = true) :
    Checked graph { transaction.push (.deleteNode node) with
      created := transaction.created.erase node
      deleted := transaction.deleted.insert node } := by
  refine checked.append rfl fun standing agrees =>
    ⟨{ standing with deleted := standing.deleted.insert node }, ?_, ?_, fun other => ?_⟩
  · simp [Standing.check, agrees.node, sees]
  · rw [agrees.deleted]
  · have before := agrees.node other
    by_cases same : node = other
    · simp [Standing.hasNode, seesNode, same]
    · have different : (compare node other == .eq) = false := by simpa using same
      simpa [Standing.hasNode, seesNode, agrees.deleted, Std.ExtTreeSet.contains_insert,
        Std.ExtTreeSet.contains_erase, bne, different] using before

private theorem Checked.push_still (checked : Checked graph transaction) {write : Write}
    (passes : ∀ standing, Agrees graph standing transaction →
      standing.check graph write = .ok standing) :
    Checked graph (transaction.push write) :=
  checked.append rfl fun standing agrees =>
    ⟨standing, passes standing agrees, agrees.deleted, agrees.node⟩

theorem Checked.setProperty (checked : Checked graph transaction) {node : NodeId}
    (sees : transaction.seesNode graph node = true) (name : String) (value : PropertyValue) :
    Checked graph (transaction.push (.setProperty node name value)) :=
  checked.push_still fun standing agrees => by simp [Standing.check, agrees.node, sees]

theorem Checked.indexAdd (checked : Checked graph transaction) {index : String} {node : NodeId}
    (there : graph.hasIndex index = true) (sees : transaction.seesNode graph node = true)
    (key value : String) : Checked graph (transaction.push (.indexAdd index node key value)) :=
  checked.push_still fun standing agrees => by simp [Standing.check, agrees.node, sees, there]

theorem Checked.indexRemove (checked : Checked graph transaction) {index : String}
    (there : graph.hasIndex index = true) (node : NodeId) (key value : String) :
    Checked graph (transaction.push (.indexRemove index node key value)) :=
  checked.push_still fun _ _ => by simp [Standing.check, there]

end Transaction

end RecordGraph
