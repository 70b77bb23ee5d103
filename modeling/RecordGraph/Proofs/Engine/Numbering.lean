import Mathlib.Algebra.Group.Nat.Defs
import Mathlib.Data.List.Nodup
import RecordGraph.Proofs.Engine.Ledger

namespace RecordGraph

/-! The numbering of nodes. As long as the 64-bit counter has not run over, every node is created
under a number that no other node has, in the committed graph or in any open transaction, and no
node is ever taken for another. -/

namespace Write

def created? : Write → Option NodeId
  | .createNode node => some node
  | _ => none

def allCreated (writes : List Write) : List NodeId := writes.filterMap created?

theorem allCreated_append (first second : List Write) :
    allCreated (first ++ second) = allCreated first ++ allCreated second :=
  List.filterMap_append

end Write

/-! ## New nodes in a graph -/

namespace Graph

theorem hasNode_of_perform {graph : Graph} {write : Write} {node : NodeId}
    (present : (graph.perform write).hasNode node = true) :
    graph.hasNode node = true ∨ write.created? = some node := by
  rw [← picture_nodes_ne_none] at present ⊢
  rw [picture_perform] at present
  cases write with
  | createNode other =>
      by_cases same : node = other
      · exact .inr (congrArg some same.symm)
      · exact .inl (by simpa [Deed.perform, Function.update_of_ne same] using present)
  | setProperty other name value =>
      refine .inl ?_
      by_cases same : node = other
      · subst same
        simpa [Deed.perform] using present
      · simpa [Deed.perform, Function.update_of_ne same] using present
  | deleteNode other =>
      refine .inl ?_
      by_cases same : node = other
      · subst same
        simp [Deed.perform] at present
      · simpa [Deed.perform, Function.update_of_ne same] using present
  | indexAdd => exact .inl present
  | indexRemove => exact .inl present

theorem hasNode_of_performAll {graph : Graph} {writes : List Write} {node : NodeId}
    (present : (graph.performAll writes).hasNode node = true) :
    graph.hasNode node = true ∨ node ∈ Write.allCreated writes := by
  induction writes generalizing graph with
  | nil => exact .inl present
  | cons write writes induction =>
      rcases induction present with before | later
      · rcases hasNode_of_perform before with first | creates
        · exact .inl first
        · exact .inr (List.mem_filterMap.2 ⟨write, List.mem_cons_self, creates⟩)
      · rcases List.mem_filterMap.1 later with ⟨other, member, creates⟩
        exact .inr (List.mem_filterMap.2 ⟨other, List.mem_cons_of_mem _ member, creates⟩)

theorem createsNew_of_absent {graph : Graph} {writes : List Write}
    (absent : ∀ node ∈ Write.allCreated writes, graph.hasNode node = false)
    (once : (Write.allCreated writes).Nodup) :
    graph.picture.Throughout Deed.CreatesNew (writes.map .write) := by
  induction writes generalizing graph with
  | nil => trivial
  | cons write writes induction =>
      have parts : Write.allCreated (write :: writes) =
          write.created?.toList ++ Write.allCreated writes := by
        cases made : write.created? with
        | none => simp [Write.allCreated, made]
        | some node => simp [Write.allCreated, made]
      rw [parts] at absent once
      refine ⟨?_, ?_⟩
      · cases write with
        | createNode node =>
            have gone := absent node (by simp [Write.created?])
            rw [← Bool.not_eq_true, ← picture_nodes_ne_none, not_not] at gone
            exact gone
        | _ => trivial
      · rw [← picture_perform]
        refine induction (fun node later => ?_) (List.Nodup.of_append_right once)
        rw [← Bool.not_eq_true]
        intro present
        rcases hasNode_of_perform present with before | creates
        · simp [absent node (List.mem_append_right _ later)] at before
        · exact (List.disjoint_of_nodup_append once) (by simp [creates]) later

end Graph

namespace Batch

theorem mem_numbers {next node : NodeId} {batch : Batch}
    (room : next.toNat + batch.cost < 2 ^ 64) (member : some node ∈ numbers next batch) :
    next ≤ node ∧ node.toNat < next.toNat + batch.cost := by
  induction batch generalizing next with
  | nil => cases member
  | cons job jobs induction =>
      rw [cost] at room ⊢
      have later : (next + UInt64.ofNat job.cost).toNat = next.toNat + job.cost :=
        toNat_add_ofNat (by omega)
      rcases List.mem_cons.1 member with own | rest
      · cases job with
        | createNode properties =>
            rcases Option.some.inj own with rfl
            exact ⟨UInt64.le_refl _, by simp only [Job.cost]; omega⟩
        | indexAdd => cases own
        | setProperty => cases own
      · obtain ⟨least, most⟩ := induction (by omega) rest
        rw [later] at most
        rw [UInt64.le_iff_toNat_le] at least ⊢
        omega

theorem numbers_nodup {next : NodeId} {batch : Batch} (room : next.toNat + batch.cost < 2 ^ 64) :
    ((numbers next batch).filterMap id).Nodup := by
  induction batch generalizing next with
  | nil => exact List.nodup_nil
  | cons job jobs induction =>
      rw [cost] at room
      have later : (next + UInt64.ofNat job.cost).toNat = next.toNat + job.cost :=
        toNat_add_ofNat (by omega)
      have rest : ((numbers (next + UInt64.ofNat job.cost) jobs).filterMap id).Nodup :=
        induction (by omega)
      cases job with
      | createNode properties =>
          refine List.nodup_cons.2 ⟨fun again => ?_, rest⟩
          rcases List.mem_filterMap.1 again with ⟨found, member, same⟩
          obtain rfl : found = some next := same
          have least := (mem_numbers (by omega) member).1
          rw [UInt64.le_iff_toNat_le, later, Job.cost] at least
          omega
      | indexAdd => exact rest
      | setProperty => exact rest

theorem allCreated_writes (next : NodeId) (batch : Batch) :
    Write.allCreated (batch.writes (numbers next batch)) = (numbers next batch).filterMap id := by
  suffices general : ∀ created, Write.allCreated
      ((batch.zip (numbers next batch)).flatMap fun pair => pair.1.writes created pair.2) =
        (numbers next batch).filterMap id from general _
  intro created
  induction batch generalizing next with
  | nil => rfl
  | cons job jobs induction =>
      simp only [numbers, List.zip_cons_cons, List.flatMap_cons, Write.allCreated_append,
        induction]
      cases job with
      | createNode properties =>
          simp [Job.writes, Job.number, Write.allCreated, Write.created?, List.filterMap_map,
            Function.comp_def]
      | indexAdd index node key value =>
          cases found : node.node? created <;>
            simp [found, Job.writes, Job.number, Write.allCreated, Write.created?]
      | setProperty node name value =>
          cases found : node.node? created <;>
            simp [found, Job.writes, Job.number, Write.allCreated, Write.created?]

end Batch

namespace Engine

/-! ## Engines that number their nodes anew -/

/-- Every number of a node is below the counter, and no node that an open transaction has created
is known to anyone else. -/
structure Numbered (engine : Engine) : Prop where
  graph : ∀ node, engine.graph.hasNode node = true → node < engine.nextNode
  staged : ∀ (id : TransactionId) (transaction : Transaction),
    engine.transactions[id]? = some transaction → ∀ node ∈ Write.allCreated transaction.writes,
      node < engine.nextNode ∧ engine.graph.hasNode node = false
  once : ∀ (id : TransactionId) (transaction : Transaction),
    engine.transactions[id]? = some transaction → (Write.allCreated transaction.writes).Nodup
  apart : ∀ (first second : TransactionId) (transaction other : Transaction), first ≠ second →
    engine.transactions[first]? = some transaction → engine.transactions[second]? = some other →
    List.Disjoint (Write.allCreated transaction.writes) (Write.allCreated other.writes)

theorem numbered_inMemory : inMemory.Numbered where
  graph node present := by simp [inMemory, Graph.hasNode] at present
  staged id transaction found := by simp [inMemory] at found
  once id transaction found := by simp [inMemory] at found
  apart first second transaction other _ found := by simp [inMemory] at found

private theorem max_greater {first second : NodeId} (less : first ≤ second) :
    max first second = second := if_pos less

private theorem max_started {next : NodeId} (started : 1 ≤ next) : max next 1 = next := by
  change (if next ≤ 1 then 1 else next) = next
  split
  · rename_i less
    exact UInt64.le_antisymm started less
  · rfl

theorem nextNode_ofGraph {graph : Graph} {next : NodeId}
    (below : ∀ node, graph.hasNode node = true → node < next) (started : 1 ≤ next)
    (location : Option String) : (ofGraph location graph next).nextNode = next := by
  cases found : graph.nodes.maxKey? with
  | none =>
      simp only [ofGraph, ← Std.ExtTreeMap.maxKey?_eq_getLast?_keys, found]
      rw [max_greater started, max_started started]
  | some last =>
      rcases Std.ExtTreeMap.maxKey?_eq_some_iff_mem_and_forall.1 found with ⟨there, -⟩
      have less := below last (Std.ExtTreeMap.contains_iff_mem.2 there)
      have most : last + 1 ≤ next := by
        have bounded := next.toNat_lt
        rw [UInt64.lt_iff_toNat_lt] at less
        rw [UInt64.le_iff_toNat_le, UInt64.toNat_add]
        simp only [UInt64.reduceToNat]
        omega
      simp only [ofGraph, ← Std.ExtTreeMap.maxKey?_eq_getLast?_keys, found]
      rw [max_greater most, max_started started]

private theorem left_le_max (first second : NodeId) : first ≤ max first second := by
  change first ≤ if first ≤ second then second else first
  split
  · assumption
  · exact UInt64.le_refl first

/-- An engine over a stored graph, unless the last number is taken already. -/
theorem numbered_ofGraph (location : Option String) {graph : Graph} (storedNext : NodeId)
    (room : ∀ node, graph.hasNode node = true → node.toNat + 1 < 2 ^ 64) :
    (ofGraph location graph storedNext).Numbered where
  graph node present := by
    have member : node ∈ graph.nodes := Std.ExtTreeMap.contains_iff_mem.1 present
    cases found : graph.nodes.maxKey? with
    | none => simp [Std.ExtTreeMap.maxKey?_eq_none_iff.1 found] at member
    | some last =>
        rcases Std.ExtTreeMap.maxKey?_eq_some_iff_mem_and_forall.1 found with ⟨there, greatest⟩
        have most : node ≤ last := (Std.LawfulOrderOrd.isLE_compare _ _).1 (greatest node member)
        have small := room last (Std.ExtTreeMap.contains_iff_mem.2 there)
        have below : node < last + 1 := UInt64.lt_of_le_of_lt most (lt_add_one_of_room small)
        simp only [ofGraph, ← Std.ExtTreeMap.maxKey?_eq_getLast?_keys, found]
        exact UInt64.lt_of_lt_of_le below (UInt64.le_trans (left_le_max _ _) (left_le_max _ _))
  staged id transaction found := by simp [ofGraph] at found
  once id transaction found := by simp [ofGraph] at found
  apart first second transaction other _ found := by simp [ofGraph] at found

namespace Numbered

variable {engine other : Engine}

theorem enter (numbered : engine.Numbered) (created : List NodeId)
    (graph : ∀ node, other.graph.hasNode node = true →
      engine.graph.hasNode node = true ∨ node ∈ created)
    (next : engine.nextNode ≤ other.nextNode)
    (transactions : ∀ (id : TransactionId) (transaction : Transaction),
      other.transactions[id]? = some transaction →
        engine.transactions[id]? = some transaction ∧
          List.Disjoint (Write.allCreated transaction.writes) created)
    (below : ∀ node ∈ created, node < other.nextNode) : other.Numbered where
  graph node present := by
    rcases graph node present with before | new
    · exact UInt64.lt_of_lt_of_le (numbered.graph node before) next
    · exact below node new
  staged id transaction found node member := by
    rcases transactions id transaction found with ⟨before, apart⟩
    rcases numbered.staged id transaction before node member with ⟨least, absent⟩
    refine ⟨UInt64.lt_of_lt_of_le least next, ?_⟩
    rw [← Bool.not_eq_true]
    intro present
    rcases graph node present with old | new
    · simp [absent] at old
    · exact apart member new
  once id transaction found := numbered.once id transaction (transactions id transaction found).1
  apart first second transaction another different found foundOther :=
    numbered.apart first second transaction another different
      (transactions first transaction found).1 (transactions second another foundOther).1

theorem insert (numbered : engine.Numbered) {id : TransactionId} {staged : Transaction}
    (graph : other.graph = engine.graph) (next : engine.nextNode ≤ other.nextNode)
    (transactions : other.transactions = engine.transactions.insert id staged)
    (once : (Write.allCreated staged.writes).Nodup)
    (new : ∀ node ∈ Write.allCreated staged.writes,
      node < other.nextNode ∧ engine.graph.hasNode node = false ∧
        ∀ (second : TransactionId) (transaction : Transaction), second ≠ id →
          engine.transactions[second]? = some transaction →
            node ∉ Write.allCreated transaction.writes) :
    other.Numbered := by
  have cases_of {second : TransactionId} {transaction : Transaction}
      (found : other.transactions[second]? = some transaction) :
      (second = id ∧ transaction = staged) ∨
        (second ≠ id ∧ engine.transactions[second]? = some transaction) := by
    rw [transactions, Std.ExtTreeMap.getElem?_insert] at found
    split at found
    · rename_i same
      exact .inl ⟨(Std.LawfulEqCmp.compare_eq_iff_eq.1 same).symm, (Option.some.inj found).symm⟩
    · rename_i different
      exact .inr ⟨fun same => different (Std.LawfulEqCmp.compare_eq_iff_eq.2 same.symm), found⟩
  refine ⟨?_, ?_, ?_, ?_⟩
  · intro node present
    rw [graph] at present
    exact UInt64.lt_of_lt_of_le (numbered.graph node present) next
  · intro second transaction found node member
    rw [graph]
    rcases cases_of found with ⟨rfl, rfl⟩ | ⟨-, before⟩
    · exact ⟨(new node member).1, (new node member).2.1⟩
    · rcases numbered.staged second transaction before node member with ⟨least, absent⟩
      exact ⟨UInt64.lt_of_lt_of_le least next, absent⟩
  · intro second transaction found
    rcases cases_of found with ⟨rfl, rfl⟩ | ⟨-, before⟩
    · exact once
    · exact numbered.once second transaction before
  · intro first second transaction another different found foundOther
    rcases cases_of found with ⟨rfl, rfl⟩ | ⟨firstOther, before⟩
    · rcases cases_of foundOther with ⟨rfl, rfl⟩ | ⟨secondOther, beforeOther⟩
      · exact absurd rfl different
      · exact fun node member => (new node member).2.2 second another secondOther beforeOther
    · rcases cases_of foundOther with ⟨rfl, rfl⟩ | ⟨secondOther, beforeOther⟩
      · exact fun node member memberOther =>
          (new node memberOther).2.2 first transaction firstOther before member
      · exact numbered.apart first second transaction another different before beforeOther

theorem of_same (numbered : engine.Numbered) (graph : other.graph = engine.graph)
    (next : engine.nextNode ≤ other.nextNode)
    (transactions : ∀ (id : TransactionId) (transaction : Transaction),
      other.transactions[id]? = some transaction →
        engine.transactions[id]? = some transaction) : other.Numbered :=
  numbered.enter [] (fun _ present => .inl (by rwa [graph] at present)) next
    (fun id transaction found => ⟨transactions id transaction found, List.disjoint_nil_right _⟩)
    (fun _ member => by cases member)

theorem forget (numbered : engine.Numbered) (id : TransactionId) :
    (engine.forget id).Numbered := by
  refine numbered.of_same rfl (UInt64.le_refl _) fun other transaction found => ?_
  rw [Engine.forget, Std.ExtTreeMap.getElem?_erase] at found
  split at found
  · cases found
  · exact found

theorem skip_le {count : Nat} (room : engine.nextNode.toNat + count < 2 ^ 64) :
    (engine.skip count).nextNode.toNat = engine.nextNode.toNat + count :=
  toNat_add_ofNat room

theorem stage (numbered : engine.Numbered) (id : TransactionId) (step : Step)
    (room : engine.nextNode.toNat + (Event.call (.stage id step)).cost < 2 ^ 64) :
    (engine.stage id step).2.Numbered ∧ (engine.stage id step).2.nextNode.toNat ≤
      engine.nextNode.toNat + (Event.call (.stage id step)).cost := by
  unfold Engine.stage
  cases found : engine.transactions[id]? with
  | none => exact ⟨numbered, Nat.le_add_right _ _⟩
  | some transaction =>
      rcases engine.stageIn_cases step transaction with
        ⟨failure, outcome⟩ | ⟨rfl, outcome⟩ | ⟨other, staged, write, asks, writes, outcome⟩
      · simp only [outcome]
        exact ⟨numbered, Nat.le_add_right _ _⟩
      · simp only [outcome]
        have next : (engine.skip 1).nextNode.toNat = engine.nextNode.toNat + 1 := skip_le room
        have created : Write.allCreated (transaction.create engine.nextNode).writes =
            Write.allCreated transaction.writes ++ [engine.nextNode] := by
          simp [Transaction.create, Transaction.push, Write.allCreated, Write.created?]
        have unused {node : NodeId} (below : node < engine.nextNode) : node ≠ engine.nextNode :=
          UInt64.ne_of_lt below
        refine ⟨numbered.insert rfl ?_ rfl ?_ fun node member => ?_, Nat.le_of_eq next⟩
        · rw [UInt64.le_iff_toNat_le]
          exact next ▸ Nat.le_add_right _ 1
        · rw [created]
          refine List.Nodup.append (numbered.once id transaction found) (List.nodup_singleton _) ?_
          intro node member again
          exact unused (numbered.staged id transaction found node member).1
            (List.mem_singleton.1 again)
        · have later : engine.nextNode < (engine.skip 1).nextNode := by
            rw [UInt64.lt_iff_toNat_lt, next]
            exact Nat.lt_succ_self _
          rw [created] at member
          rcases List.mem_append.1 member with before | own
          · rcases numbered.staged id transaction found node before with ⟨below, absent⟩
            refine ⟨UInt64.lt_trans below later, absent, fun second another different there => ?_⟩
            exact numbered.apart id second transaction another (Ne.symm different)
              found there before
          · rcases List.mem_singleton.1 own with rfl
            refine ⟨later, ?_, fun second another different there again => ?_⟩
            · rw [← Bool.not_eq_true]
              exact fun present => unused (numbered.graph _ present) rfl
            · exact unused (numbered.staged second another there _ again).1 rfl
      · simp only [outcome]
        have created : Write.allCreated staged.writes = Write.allCreated transaction.writes := by
          have none : write.created? = none := by
            cases step with
            | createNode => exact absurd rfl other
            | _ =>
                rcases Option.some.inj asks with rfl
                rfl
          rw [writes, Write.allCreated_append]
          simp [Write.allCreated, none]
        refine ⟨numbered.insert rfl (UInt64.le_refl _) rfl ?_ fun node member => ?_,
          Nat.le_add_right _ _⟩
        · rw [created]
          exact numbered.once id transaction found
        · rw [created] at member
          rcases numbered.staged id transaction found node member with ⟨below, absent⟩
          refine ⟨below, absent, fun second another different there => ?_⟩
          exact numbered.apart id second transaction another (Ne.symm different) found there member

theorem commit (numbered : engine.Numbered) (id : TransactionId) :
    (engine.commit id).2.Numbered ∧ (engine.commit id).2.nextNode = engine.nextNode := by
  unfold Engine.commit
  cases found : engine.transactions[id]? with
  | none => exact ⟨numbered, rfl⟩
  | some transaction =>
      rcases (engine.forget id).commitIn_cases transaction with
        ⟨failure, outcome⟩ | ⟨checked, outcome⟩
      · simp only [outcome]
        exact ⟨numbered.forget id, rfl⟩
      · simp only [outcome]
        refine ⟨numbered.enter _ (fun node present => Graph.hasNode_of_performAll present)
          (UInt64.le_refl _) (fun other another there => ?_)
          (fun node member => (numbered.staged id transaction found node member).1), rfl⟩
        rw [Engine.forget, Std.ExtTreeMap.getElem?_erase] at there
        split at there
        · cases there
        · rename_i different
          rw [Std.LawfulEqCmp.compare_eq_iff_eq] at different
          exact ⟨there, numbered.apart other id another transaction (Ne.symm different)
            there found⟩

theorem executeBatch (numbered : engine.Numbered) (batch : Batch)
    (room : engine.nextNode.toNat + batch.cost < 2 ^ 64) :
    (engine.executeBatch batch).2.Numbered ∧
      (engine.executeBatch batch).2.nextNode.toNat ≤ engine.nextNode.toNat + batch.cost := by
  rcases engine.executeBatch_cases batch with
    ⟨failure, next, count, few, outcome⟩ | ⟨next, checked, outcome⟩
  · have after : (engine.skip count).nextNode.toNat = engine.nextNode.toNat + count :=
      skip_le (by omega)
    simp only [outcome]
    refine ⟨numbered.of_same rfl ?_ fun _ _ found => found, by omega⟩
    change engine.nextNode ≤ (engine.skip count).nextNode
    rw [UInt64.le_iff_toNat_le]
    omega
  · have after : (engine.skip batch.cost).nextNode.toNat = engine.nextNode.toNat + batch.cost :=
      skip_le room
    have member_of {node : NodeId} (member : node ∈ Write.allCreated
        (batch.writes (batch.numbers engine.nextNode))) :
        engine.nextNode ≤ node ∧ node.toNat < engine.nextNode.toNat + batch.cost := by
      rw [Batch.allCreated_writes] at member
      rcases List.mem_filterMap.1 member with ⟨found, there, same⟩
      obtain rfl : found = some node := same
      exact Batch.mem_numbers room there
    simp only [outcome]
    refine ⟨numbered.enter _ (fun node present => Graph.hasNode_of_performAll present) ?_
      (fun id transaction found => ⟨found, fun node old new => ?_⟩) (fun node member => ?_), ?_⟩
    · change engine.nextNode ≤ (engine.skip batch.cost).nextNode
      rw [UInt64.le_iff_toNat_le]
      omega
    · have below := (numbered.staged id transaction found node old).1
      have above := (member_of new).1
      rw [UInt64.lt_iff_toNat_lt] at below
      rw [UInt64.le_iff_toNat_le] at above
      omega
    · change node < (engine.skip batch.cost).nextNode
      have below := (member_of member).2
      rw [UInt64.lt_iff_toNat_lt]
      omega
    · omega

/-- Whatever happens, numbers stay unused until their turn comes. -/
theorem change (numbered : engine.Numbered) (event : Event)
    (room : engine.nextNode.toNat + event.cost < 2 ^ 64) :
    (event.change engine).Numbered ∧
      (event.change engine).nextNode.toNat ≤ engine.nextNode.toNat + event.cost := by
  have kept : engine.Numbered ∧ engine.nextNode.toNat ≤ engine.nextNode.toNat + event.cost :=
    ⟨numbered, Nat.le_add_right _ _⟩
  cases event with
  | drop id => exact ⟨numbered.forget id, kept.2⟩
  | shutdown disk =>
      simp only [Event.change, Engine.shutdown]
      split
      · exact kept
      · exact ⟨numbered.of_same rfl (UInt64.le_refl _) fun _ _ found => found, kept.2⟩
  | call made =>
      cases made with
      | createIndex name =>
          simp only [Event.change, Engine.perform, Engine.createIndex]
          split
          · exact kept
          split
          · exact kept
          split
          · exact kept
          · refine ⟨numbered.enter [] (fun _ present => .inl present)
              (UInt64.le_refl _) (fun _ _ found => ⟨found, List.disjoint_nil_right _⟩)
              (fun _ member => by cases member), kept.2⟩
      | indexGet index key value => exact kept
      | indexRange index range => exact kept
      | nodeProperty node name => exact kept
      | nodeProperties node => exact kept
      | beginTransaction =>
          simp only [Event.change, Engine.perform, Engine.beginTransaction]
          split
          · exact kept
          · exact ⟨numbered.insert rfl (UInt64.le_refl _) rfl List.nodup_nil
              fun _ member => (by cases member), kept.2⟩
      | stage id step => exact numbered.stage id step room
      | commit id =>
          rcases numbered.commit id with ⟨after, next⟩
          exact ⟨after, next ▸ kept.2⟩
      | rollback id =>
          simp only [Event.change, Engine.perform, Engine.rollback]
          cases found : engine.transactions[id]? with
          | none => exact kept
          | some transaction => exact ⟨numbered.forget id, kept.2⟩
      | executeBatch batch => exact numbered.executeBatch batch room

end Numbered

end Engine

namespace Ledger

/-! ## What the ledger says of new nodes -/

variable {start : Picture} {engine : Engine} {ledger : Ledger}

private theorem Right.enter_new (right : Right start engine ledger) {deeds : List Deed}
    (before : start.Throughout Deed.CreatesNew ledger.committed)
    (new : engine.graph.picture.Throughout Deed.CreatesNew deeds) :
    start.Throughout Deed.CreatesNew (ledger.enter deeds).committed := by
  rw [right.picture] at new
  exact (Picture.throughout_append ..).2 ⟨before, new⟩

theorem Right.change_new (right : Right start engine ledger) (numbered : engine.Numbered)
    (before : start.Throughout Deed.CreatesNew ledger.committed) (event : Event)
    (room : engine.nextNode.toNat + event.cost < 2 ^ 64) :
    start.Throughout Deed.CreatesNew (event.enter engine ledger).committed := by
  cases event with
  | drop id => exact before
  | shutdown disk => exact before
  | call made =>
      simp only [Event.enter]
      cases made with
      | createIndex name =>
          cases (engine.perform (.createIndex name)).1 with
          | error failure => exact before
          | ok => exact right.enter_new before ⟨trivial, trivial⟩
      | indexGet index key value => exact before
      | indexRange index range => exact before
      | nodeProperty node name => exact before
      | nodeProperties node => exact before
      | beginTransaction =>
          cases (engine.perform .beginTransaction).1 with
          | error failure => exact before
          | ok id => exact before
      | stage id step =>
          cases (engine.perform (.stage id step)).1 with
          | error failure => exact before
          | ok created => exact before
      | commit id =>
          cases outcome : (engine.perform (.commit id)).1 with
          | error failure => exact before
          | ok =>
              cases found : engine.transactions[id]? with
              | none => simp [Engine.perform, Engine.commit, found] at outcome
              | some transaction =>
                  refine right.enter_new before ?_
                  rw [right.staged id transaction found]
                  exact Graph.createsNew_of_absent
                    (fun node member => (numbered.staged id transaction found node member).2)
                    (numbered.once id transaction found)
      | rollback id => exact before
      | executeBatch batch =>
          rcases engine.executeBatch_cases batch with
            ⟨failure, next, count, -, outcome⟩ | ⟨next, -, outcome⟩
          · simp only [Engine.perform, outcome]
            exact before
          · simp only [Engine.perform, outcome]
            refine right.enter_new before (Graph.createsNew_of_absent (fun node member => ?_) ?_)
            · rw [Batch.allCreated_writes] at member
              rcases List.mem_filterMap.1 member with ⟨found, there, same⟩
              obtain rfl : found = some node := same
              have above := (Batch.mem_numbers room there).1
              rw [← Bool.not_eq_true]
              exact fun present => UInt64.not_lt.2 above (numbered.graph node present)
            · rw [Batch.allCreated_writes]
              exact Batch.numbers_nodup room

theorem Right.follow_new (right : Right start engine ledger) (numbered : engine.Numbered)
    (before : start.Throughout Deed.CreatesNew ledger.committed) (events : List Event)
    (room : engine.nextNode.toNat + Event.costs events < 2 ^ 64) :
    start.Throughout Deed.CreatesNew (engine.follow ledger events).2.committed := by
  induction events generalizing engine ledger with
  | nil => exact before
  | cons event events induction =>
      rw [Event.costs] at room
      obtain ⟨after, next⟩ := numbered.change event (by omega)
      exact induction (right.change event) after
        (right.change_new numbered before event (by omega)) (by omega)

end Ledger

/-- The committed graph is at every moment what the ledger says: the graph at the start, and on it
the deeds that have taken effect, one after another, none of which lacked what it was done to. As
long as the numbers of nodes do not run out, none of them created a node that was there. -/
theorem Engine.graph_follow (start : Engine) (events : List Event) :
    let (engine, ledger) := start.follow (.opening start) events
    engine.graph.picture = start.graph.picture.after ledger.committed ∧
      start.graph.picture.Throughout Deed.Possible ledger.committed ∧
      (start.Numbered → start.nextNode.toNat + Event.costs events < 2 ^ 64 →
        start.graph.picture.Throughout Deed.CreatesNew ledger.committed) := by
  have opening := Ledger.right_opening start
  have right := opening.follow events
  exact ⟨right.picture, right.possible, fun numbered room =>
    opening.follow_new numbered trivial events room⟩

/-- Two transactions of one engine create a node each, and the one that was begun first is committed
last. -/
theorem Engine.graph_follow_two :
    let events : List Event := [.call .beginTransaction, .call .beginTransaction,
      .call (.stage 1 .createNode), .call (.stage 2 .createNode), .call (.commit 2),
      .call (.commit 1)]
    (inMemory.follow (.opening inMemory) events).2.committed =
        [.write (.createNode 2), .write (.createNode 1)] ∧
      inMemory.graph.picture.Throughout Deed.CreatesNew
        (inMemory.follow (.opening inMemory) events).2.committed := by
  intro events
  exact ⟨by decide, (graph_follow inMemory events).2.2 numbered_inMemory (by decide)⟩

/-- Where the numbers run out, a transaction creates a node under the number of one that is there:
after its commit the node is not empty, but has the properties that it had before. -/
theorem Engine.graph_follow_runs_over :
    let graph : Graph := { nodes := .insert ∅ 1 (.insert ∅ "old" (.text "x")) }
    let start := ofGraph none graph 18446744073709551615
    let events : List Event := [.call .beginTransaction, .call (.stage 1 .createNode),
      .call (.stage 1 .createNode), .call (.stage 1 .createNode), .call (.commit 1)]
    let final := start.follow (.opening start) events
    final.2.committed = [.write (.createNode 18446744073709551615), .write (.createNode 0),
        .write (.createNode 1)] ∧
      final.1.graph.nodes[(1 : NodeId)]? = some (.insert ∅ "old" (.text "x")) ∧
      ¬ start.graph.picture.Throughout Deed.CreatesNew final.2.committed := by
  intro graph start events final
  have committed : final.2.committed = [.write (.createNode 18446744073709551615),
      .write (.createNode 0), .write (.createNode 1)] := by
    decide +kernel
  refine ⟨committed, by decide +kernel, fun new => ?_⟩
  rw [committed] at new
  obtain ⟨-, -, third, -⟩ := new
  have there : start.graph.hasNode 1 = true := by decide +kernel
  have absent : start.graph.picture.nodes 1 = none := by
    simpa [Deed.CreatesNew, Deed.perform] using third
  exact Graph.picture_nodes_ne_none.2 there absent

end RecordGraph
