import Mathlib.Data.List.Basic
import RecordGraph.Proofs.Engine.Numbering
import RecordGraph.Proofs.Graph.Staging

namespace RecordGraph

/-! What the writes of a transaction stand on. A write may need a node and an index. While it is
staged, a transaction sees what it needs; when it is committed, only a node can be missing that the
transaction has not created before. -/

namespace Write

def Leaves (first second : Write) : Prop :=
  ∀ node, first = .deleteNode node → second.target? ≠ some node

theorem created?_eq_some {write : Write} {node : NodeId} :
    write.created? = some node ↔ write = .createNode node := by
  cases write with
  | createNode other => simp [created?]
  | _ => simp [created?]

theorem mem_allCreated {writes : List Write} {node : NodeId} :
    node ∈ allCreated writes ↔ .createNode node ∈ writes := by
  simp [allCreated, List.mem_filterMap, created?_eq_some]

end Write

/-! ## Nodes that are missing -/

namespace Graph

variable {graph later : Graph} {node : NodeId}

/-- One of the writes needs the node, none before it creates the node, and the graph does not have
it. -/
def Misses (graph : Graph) (writes : List Write) (node : NodeId) : Prop :=
  ∃ before write after, writes = before ++ write :: after ∧ write.target? = some node ∧
    .createNode node ∉ before ∧ graph.hasNode node = false

theorem not_misses_nil : ¬ graph.Misses [] node := by
  rintro ⟨before, write, after, split, -⟩
  exact List.append_ne_nil_of_right_ne_nil before (List.cons_ne_nil write after) split.symm

theorem misses_singleton {write : Write} :
    graph.Misses [write] node ↔ write.target? = some node ∧ graph.hasNode node = false := by
  constructor
  · rintro ⟨before, found, after, split, needs, -, absent⟩
    rcases List.singleton_eq_append_iff.1 split with ⟨-, same⟩ | ⟨-, none⟩
    · rw [(List.cons.inj same).1] at needs
      exact ⟨needs, absent⟩
    · cases none
  · rintro ⟨needs, absent⟩
    exact ⟨[], write, [], rfl, needs, List.not_mem_nil, absent⟩

theorem misses_append {first second : List Write} :
    graph.Misses (first ++ second) node ↔
      graph.Misses first node ∨ .createNode node ∉ first ∧ graph.Misses second node := by
  constructor
  · rintro ⟨before, write, after, split, needs, new, absent⟩
    rcases List.append_eq_append_iff.1 split with ⟨more, rfl, rest⟩ | ⟨more, rfl, rest⟩
    · rw [List.mem_append, not_or] at new
      exact .inr ⟨new.1, more, write, after, rest, needs, new.2, absent⟩
    · cases more with
      | nil =>
          rw [List.append_nil]
          exact .inr ⟨new, [], write, after, rest.symm, needs, List.not_mem_nil, absent⟩
      | cons other more =>
          rcases List.cons.inj rest with ⟨rfl, -⟩
          exact .inl ⟨before, write, more, rfl, needs, new, absent⟩
  · rintro (⟨before, write, after, rfl, needs, new, absent⟩ |
      ⟨new, before, write, after, rfl, needs, newToo, absent⟩)
    · refine ⟨before, write, after ++ second, ?_, needs, new, absent⟩
      rw [List.append_assoc, List.cons_append]
    · refine ⟨first ++ before, write, after, (List.append_assoc ..).symm, needs, ?_, absent⟩
      rw [List.mem_append, not_or]
      exact ⟨new, newToo⟩

theorem misses_cons {write : Write} {writes : List Write} :
    graph.Misses (write :: writes) node ↔
      (write.target? = some node ∧ graph.hasNode node = false) ∨
        write ≠ .createNode node ∧ graph.Misses writes node := by
  rw [← List.singleton_append, misses_append, misses_singleton, List.mem_singleton, ne_comm]

theorem Misses.of_more {writes : List Write} (misses : later.Misses writes node)
    (more : graph.hasNode node = true → later.hasNode node = true) : graph.Misses writes node := by
  rcases misses with ⟨before, write, after, split, needs, new, absent⟩
  refine ⟨before, write, after, split, needs, new, ?_⟩
  rw [← Bool.not_eq_true] at absent ⊢
  exact mt more absent

end Graph

namespace Transaction

variable {graph : Graph} {transaction : Transaction} {write : Write} {node : NodeId}

/-! ## Orderly transactions -/

/-- What is known of all that has been staged, whatever others have committed in the meantime: the
two sets are about the writes, nothing is asked of a node after its deletion, and the indexes are
there. -/
structure Orderly (graph : Graph) (transaction : Transaction) : Prop where
  created : ∀ node ∈ transaction.created, .createNode node ∈ transaction.writes
  kept : ∀ node, .createNode node ∈ transaction.writes →
    .deleteNode node ∉ transaction.writes → node ∈ transaction.created
  deleted : ∀ node, node ∈ transaction.deleted ↔ .deleteNode node ∈ transaction.writes
  order : transaction.writes.Pairwise Write.Leaves
  indexed : ∀ write ∈ transaction.writes, write.Indexed graph

theorem orderly_empty (graph : Graph) : Orderly graph {} where
  created node member := absurd member Std.ExtTreeSet.not_mem_empty
  kept node member := by cases member
  deleted node := by simp
  order := .nil
  indexed write member := by cases member

namespace Orderly

theorem sees_iff (orderly : Orderly graph transaction) :
    transaction.seesNode graph node = true ↔ .deleteNode node ∉ transaction.writes ∧
      (.createNode node ∈ transaction.writes ∨ graph.hasNode node = true) := by
  rw [seesNode, Bool.and_eq_true, Bool.or_eq_true, Bool.not_eq_true', ← Bool.not_eq_true,
    Std.ExtTreeSet.contains_iff_mem, Std.ExtTreeSet.contains_iff_mem, orderly.deleted]
  refine and_congr_right fun alive => or_congr_left ?_
  exact ⟨orderly.created node, fun creates => orderly.kept node creates alive⟩

theorem of_indexes {later : Graph} (orderly : Orderly graph transaction)
    (more : ∀ index, graph.hasIndex index = true → later.hasIndex index = true) :
    Orderly later transaction :=
  { orderly with
    indexed := fun write member index needs =>
      more index (orderly.indexed write member index needs) }

theorem note {fresh : NodeId} (orderly : Orderly graph transaction)
    (admits : transaction.Admits graph fresh write) : Orderly graph (transaction.note write) where
  created node member := by
    rw [writes_note, List.mem_append, List.mem_singleton]
    rcases mem_created_note.1 member with creates | ⟨-, before⟩
    · exact .inr creates.symm
    · exact .inl (orderly.created node before)
  kept node member alive := by
    rw [writes_note, List.mem_append, List.mem_singleton] at member alive
    rw [not_or] at alive
    rcases member with before | creates
    · exact mem_created_note.2 (.inr ⟨Ne.symm alive.2, orderly.kept node before alive.1⟩)
    · exact mem_created_note.2 (.inl creates.symm)
  deleted node := by
    rw [mem_deleted_note, writes_note, List.mem_append, List.mem_singleton, orderly.deleted,
      @eq_comm _ write]
  order := by
    rw [writes_note, List.pairwise_append]
    refine ⟨orderly.order, List.pairwise_singleton _ _, fun first member second same => ?_⟩
    rintro node rfl needs
    rw [List.mem_singleton.1 same] at needs
    exact (orderly.sees_iff.1 (admits.node node needs)).1 member
  indexed other member index needs := by
    rw [writes_note, List.mem_append, List.mem_singleton] at member
    rcases member with before | rfl
    · exact orderly.indexed other before index needs
    · exact admits.index index needs

theorem not_misses_note {fresh : NodeId} (orderly : Orderly graph transaction)
    (admits : transaction.Admits graph fresh write)
    (supported : ∀ node, ¬ graph.Misses transaction.writes node) (node : NodeId) :
    ¬ graph.Misses (transaction.note write).writes node := by
  rw [writes_note, Graph.misses_append, Graph.misses_singleton, not_or]
  refine ⟨supported node, fun ⟨new, needs, absent⟩ => ?_⟩
  rcases (orderly.sees_iff.1 (admits.node node needs)).2 with creates | there
  · exact new creates
  · exact Bool.false_ne_true (absent.symm.trans there)

end Orderly

/-! ## Transactions behind a counter -/

section

variable {next : NodeId}

/-- The transaction has only used nodes below a number, and none before it has created it. -/
structure Behind (next : NodeId) (transaction : Transaction) : Prop where
  target : ∀ write ∈ transaction.writes, ∀ node, write.target? = some node → node < next
  order : transaction.writes.Pairwise fun first second =>
    ∀ node, first.target? = some node → second ≠ .createNode node

theorem behind_empty (next : NodeId) : Behind next {} where
  target write member := by cases member
  order := .nil

theorem Behind.mono {later : NodeId} (behind : Behind next transaction) (more : next ≤ later) :
    Behind later transaction where
  target write member node needs :=
    UInt64.lt_of_lt_of_le (behind.target write member node needs) more
  order := behind.order

theorem Behind.note (behind : Behind next transaction)
    (admits : transaction.Admits graph next write)
    (below : ∀ node, transaction.seesNode graph node = true → node < next) :
    Behind next (transaction.note write) where
  target other member node needs := by
    rw [writes_note, List.mem_append, List.mem_singleton] at member
    rcases member with before | rfl
    · exact behind.target other before node needs
    · exact below node (admits.node node needs)
  order := by
    rw [writes_note, List.pairwise_append]
    refine ⟨behind.order, List.pairwise_singleton _ _, fun first member second same => ?_⟩
    rintro node needs rfl
    have new := admits.new node (List.mem_singleton.1 same).symm
    exact UInt64.ne_of_lt (behind.target first member node needs) new

/-- What such a transaction misses it has not created at all, neither before nor afterwards. -/
theorem Behind.misses_iff (behind : Behind next transaction) :
    graph.Misses transaction.writes node ↔
      (∃ write ∈ transaction.writes, write.target? = some node) ∧
        .createNode node ∉ transaction.writes ∧ graph.hasNode node = false := by
  constructor
  · rintro ⟨before, write, after, split, needs, new, absent⟩
    have member : write ∈ transaction.writes := by
      rw [split]
      exact List.mem_append_right _ List.mem_cons_self
    have order := behind.order
    rw [split, List.pairwise_append, List.pairwise_cons] at order
    refine ⟨⟨write, member, needs⟩, fun creates => ?_, absent⟩
    rw [split, List.mem_append, List.mem_cons] at creates
    rcases creates with earlier | own | later
    · exact new earlier
    · rw [← own] at needs
      cases needs
    · exact order.2.1.1 _ later node needs rfl
  · rintro ⟨⟨write, member, needs⟩, new, absent⟩
    rcases List.append_of_mem member with ⟨before, after, split⟩
    rw [split, List.mem_append, not_or] at new
    exact ⟨before, write, after, split, needs, new.1, absent⟩

end

/-! ## What the check refuses -/

namespace Standing

variable {standing : Standing}

def note (write : Write) (standing : Standing) : Standing :=
  match write with
  | .createNode node => { standing with created := standing.created.insert node }
  | .deleteNode node => { standing with deleted := standing.deleted.insert node }
  | _ => standing

theorem mem_created_note :
    node ∈ (standing.note write).created ↔ write = .createNode node ∨ node ∈ standing.created := by
  cases write with
  | createNode other => simp [note, Std.ExtTreeSet.mem_insert]
  | _ => simp [note]

theorem mem_deleted_note :
    node ∈ (standing.note write).deleted ↔ write = .deleteNode node ∨ node ∈ standing.deleted := by
  cases write with
  | deleteNode other => simp [note, Std.ExtTreeSet.mem_insert]
  | _ => simp [note]

theorem check_cases (indexed : write.Indexed graph) :
    (∃ node, write.target? = some node ∧ standing.hasNode graph node = false ∧
        standing.check graph write = .error (.nodeRemoved node)) ∨
      (∀ node, write.target? = some node → standing.hasNode graph node = true) ∧
        standing.check graph write = .ok (standing.note write) := by
  cases write with
  | createNode target => exact .inr ⟨fun node needs => (by cases needs), rfl⟩
  | setProperty target name value =>
      cases stands : standing.hasNode graph target with
      | false => exact .inl ⟨target, rfl, stands, by simp [check, stands]⟩
      | true =>
          refine .inr ⟨fun node needs => Option.some.inj needs ▸ stands, ?_⟩
          simp [check, stands, note]
  | deleteNode target =>
      cases stands : standing.hasNode graph target with
      | false => exact .inl ⟨target, rfl, stands, by simp [check, stands]⟩
      | true =>
          refine .inr ⟨fun node needs => Option.some.inj needs ▸ stands, ?_⟩
          simp [check, stands, note]
  | indexAdd index target key value =>
      cases stands : standing.hasNode graph target with
      | false => exact .inl ⟨target, rfl, stands, by simp [check, stands]⟩
      | true =>
          refine .inr ⟨fun node needs => Option.some.inj needs ▸ stands, ?_⟩
          simp [check, stands, indexed index rfl, note]
  | indexRemove index target key value =>
      refine .inr ⟨fun node needs => (by cases needs), ?_⟩
      simp [check, indexed index rfl, note]

end Standing

theorem checkAll_cases {standing : Standing} {writes : List Write}
    (order : writes.Pairwise Write.Leaves)
    (indexed : ∀ write ∈ writes, write.Indexed graph)
    (alive : ∀ write ∈ writes, ∀ node, write.target? = some node → node ∉ standing.deleted) :
    (checkAll graph standing writes = .ok () ∧
        ∀ node, graph.Misses writes node → node ∈ standing.created) ∨
      ∃ node, checkAll graph standing writes = .error (.nodeRemoved node) ∧
        graph.Misses writes node ∧ node ∉ standing.created := by
  -- What the writes so far have created stands, so that of what is missed only the nodes remain that
  -- do not stand; what they have deleted is needed by none of the others.
  induction writes generalizing standing with
  | nil => exact .inl ⟨rfl, fun node misses => absurd misses Graph.not_misses_nil⟩
  | cons write writes induction =>
      rw [List.pairwise_cons] at order
      rw [checkAll]
      rcases standing.check_cases (indexed write List.mem_cons_self) with
        ⟨node, needs, falls, refused⟩ | ⟨stands, passed⟩
      · have parts := mt Standing.hasNode_iff.2 (Bool.not_eq_true _ ▸ falls)
        rw [not_and, not_or, Bool.not_eq_true] at parts
        rcases parts (alive write List.mem_cons_self node needs) with ⟨new, absent⟩
        exact .inr ⟨node, by rw [refused]; rfl, Graph.misses_cons.2 (.inl ⟨needs, absent⟩), new⟩
      · have aliveAfter : ∀ other ∈ writes, ∀ node, other.target? = some node →
            node ∉ (standing.note write).deleted := by
          intro other member node needs deleted
          rcases Standing.mem_deleted_note.1 deleted with deletes | before
          · exact order.1 other member node deletes needs
          · exact alive other (List.mem_cons_of_mem _ member) node needs before
        have later := induction order.2
          (fun other member => indexed other (List.mem_cons_of_mem _ member)) aliveAfter
        rw [passed]
        rcases later with ⟨rest, created⟩ | ⟨node, refused, misses, new⟩
        · refine .inl ⟨rest, fun node misses => ?_⟩
          rcases Graph.misses_cons.1 misses with ⟨needs, absent⟩ | ⟨other, missing⟩
          · exact (Standing.hasNode_iff.1 (stands node needs)).2.resolve_right (by simp [absent])
          · exact (Standing.mem_created_note.1 (created node missing)).resolve_left other
        · rw [Standing.mem_created_note, not_or] at new
          exact .inr ⟨node, refused, Graph.misses_cons.2 (.inr ⟨new.1, misses⟩), new.2⟩

/-- An orderly transaction commits unless it misses a node. -/
theorem Orderly.checkAll_cases (orderly : Orderly graph transaction) :
    (checkAll graph {} transaction.writes = .ok () ∧
        ∀ node, ¬ graph.Misses transaction.writes node) ∨
      ∃ node, checkAll graph {} transaction.writes = .error (.nodeRemoved node) ∧
        graph.Misses transaction.writes node := by
  have none (node : NodeId) : node ∉ ({} : Standing).created := Std.ExtTreeSet.not_mem_empty
  have alive : ∀ write ∈ transaction.writes, ∀ node, write.target? = some node →
      node ∉ ({} : Standing).deleted := fun _ _ _ _ => Std.ExtTreeSet.not_mem_empty
  rcases Transaction.checkAll_cases orderly.order orderly.indexed alive with
    ⟨passed, created⟩ | ⟨node, refused, misses, -⟩
  · exact .inl ⟨passed, fun node misses => none node (created node misses)⟩
  · exact .inr ⟨node, refused, misses⟩

end Transaction

end RecordGraph
