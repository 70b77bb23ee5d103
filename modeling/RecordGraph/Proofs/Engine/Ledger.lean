import RecordGraph.Proofs.Engine.Outcome
import RecordGraph.Snapshot

namespace RecordGraph

/-! Ledgers. Whoever uses an engine can keep a ledger of what it has answered: what every open
transaction has staged, and what has taken effect. The committed graph is at every moment what the
ledger says, whatever is done on the engine and in whatever order. -/

/-- What takes effect with a call or without one: transactions are dropped, and an engine is shut
down, without asking. -/
inductive Event where
  | call (call : Call)
  | drop (transaction : TransactionId)
  | shutdown (disk : Disk)

/-- What has taken effect, in its order, and what the open transactions have staged. -/
structure Ledger where
  committed : List Deed
  staged : TransactionId → List Deed

namespace Ledger

/-- The ledger at the start, when open transactions may have staged something already. -/
def opening (engine : Engine) : Ledger where
  committed := []
  staged id := (engine.transactions[id]?.getD {}).writes.map .write

def enter (deeds : List Deed) (ledger : Ledger) : Ledger :=
  { ledger with committed := ledger.committed ++ deeds }

def setStaged (id : TransactionId) (deeds : List Deed) (ledger : Ledger) : Ledger :=
  { ledger with staged := Function.update ledger.staged id deeds }

def close (id : TransactionId) (ledger : Ledger) : Ledger := ledger.setStaged id []

/-- Enters what a call has come to. Only what succeeds is staged or takes effect. -/
def record (ledger : Ledger) : (call : Call) → Except Failure call.Answer → Ledger
  | .createIndex name, .ok () => ledger.enter [.createIndex name]
  | .beginTransaction, .ok id => ledger.close id
  | .stage id step, .ok created =>
      ledger.setStaged id (ledger.staged id ++ (step.write? created).toList.map .write)
  | .commit id, .ok () => (ledger.enter (ledger.staged id)).close id
  | .commit id, .error _ => ledger.close id
  | .rollback id, _ => ledger.close id
  | .executeBatch batch, .ok created => ledger.enter ((batch.writes created).map .write)
  | _, _ => ledger

end Ledger

namespace Event

def cost : Event → Nat
  | .call (.stage _ .createNode) => 1
  | .call (.executeBatch batch) => batch.cost
  | _ => 0

def costs : List Event → Nat
  | [] => 0
  | event :: events => event.cost + costs events

def change (engine : Engine) : Event → Engine
  | .call made => (engine.perform made).2
  | .drop id => engine.forget id
  | .shutdown disk => (engine.shutdown disk).2.1

def enter (engine : Engine) (ledger : Ledger) : Event → Ledger
  | .call made => ledger.record made (engine.perform made).1
  | .drop id => ledger.close id
  | .shutdown _ => ledger

end Event

def Engine.follow : Engine → Ledger → List Event → Engine × Ledger
  | engine, ledger, [] => (engine, ledger)
  | engine, ledger, event :: events =>
      (event.change engine).follow (event.enter engine ledger) events

namespace Ledger

/-! ## The ledger is right -/

/-- The ledger says what the engine holds, and nothing that has taken effect was impossible. -/
structure Right (start : Picture) (engine : Engine) (ledger : Ledger) : Prop where
  picture : engine.graph.picture = start.after ledger.committed
  possible : start.Throughout Deed.Possible ledger.committed
  staged : ∀ id transaction, engine.transactions[id]? = some transaction →
    ledger.staged id = transaction.writes.map .write

variable {start : Picture} {engine : Engine} {ledger : Ledger}

theorem right_opening (engine : Engine) : Right engine.graph.picture engine (opening engine) where
  picture := rfl
  possible := trivial
  staged id transaction found := by simp [opening, found]

namespace Right

theorem of_same (right : Right start engine ledger) {other : Engine}
    (graph : other.graph = engine.graph) (transactions : other.transactions = engine.transactions) :
    Right start other ledger where
  picture := by rw [graph, right.picture]
  possible := right.possible
  staged := by rw [transactions]; exact right.staged

theorem setStaged (right : Right start engine ledger) {other : Engine} {id : TransactionId}
    (transaction : Transaction) (graph : other.graph = engine.graph)
    (transactions : other.transactions = engine.transactions.insert id transaction) :
    Right start other (ledger.setStaged id (transaction.writes.map .write)) where
  picture := by rw [graph, right.picture]; rfl
  possible := right.possible
  staged other found found_eq := by
    rw [transactions, Std.ExtTreeMap.getElem?_insert] at found_eq
    by_cases same : other = id
    · subst same
      simp only [Std.ReflCmp.compare_self, if_true, Option.some.injEq] at found_eq
      simp [Ledger.setStaged, found_eq]
    · simp only [Std.LawfulEqCmp.compare_eq_iff_eq, Ne.symm same, if_false] at found_eq
      simpa [Ledger.setStaged, Function.update_of_ne same] using right.staged other found found_eq

theorem close (right : Right start engine ledger) (id : TransactionId) :
    Right start (engine.forget id) (ledger.close id) where
  picture := right.picture
  possible := right.possible
  staged other found found_eq := by
    rw [Engine.forget, Std.ExtTreeMap.getElem?_erase] at found_eq
    split at found_eq
    · cases found_eq
    · rename_i different
      rw [Std.LawfulEqCmp.compare_eq_iff_eq] at different
      simpa [Ledger.close, Ledger.setStaged, Function.update_of_ne (Ne.symm different)]
        using right.staged other found found_eq

theorem enter (right : Right start engine ledger) {other : Engine} {deeds : List Deed}
    (picture : other.graph.picture = engine.graph.picture.after deeds)
    (possible : engine.graph.picture.Throughout Deed.Possible deeds)
    (transactions : other.transactions = engine.transactions) :
    Right start other (ledger.enter deeds) where
  picture := by rw [picture, right.picture, Ledger.enter, Picture.after_append]
  possible := by
    rw [right.picture] at possible
    exact (Picture.throughout_append ..).2 ⟨right.possible, possible⟩
  staged := by rw [transactions]; exact right.staged

theorem enter_writes (right : Right start engine ledger) {other : Engine} {writes : List Write}
    (checked : Transaction.checkAll engine.graph {} writes = .ok ())
    (graph : other.graph = engine.graph.performAll writes)
    (transactions : other.transactions = engine.transactions) :
    Right start other (ledger.enter (writes.map .write)) :=
  right.enter (by rw [graph, Graph.picture_performAll])
    (Transaction.possible_of_checkAll (Transaction.Standing.sound_empty _) checked) transactions

theorem close_absent (right : Right start engine ledger) {id : TransactionId}
    (absent : engine.transactions[id]? = none) : Right start engine (ledger.close id) := by
  refine (right.close id).of_same rfl ?_
  ext1 other
  by_cases same : other = id
  · subst same
    simp [Engine.forget, absent]
  · simp [Engine.forget, Std.ExtTreeMap.getElem?_erase, Ne.symm same]

/-- A commit that succeeds takes effect with all that its transaction has staged. -/
theorem commit (right : Right start engine ledger) (id : TransactionId) :
    Right start (engine.commit id).2 (ledger.record (.commit id) (engine.commit id).1) := by
  unfold Engine.commit
  cases found : engine.transactions[id]? with
  | none => exact right.close_absent found
  | some transaction =>
      rcases (engine.forget id).commitIn_cases transaction with
        ⟨failure, outcome⟩ | ⟨checked, outcome⟩
      · simp only [outcome]
        exact right.close id
      · simp only [outcome, record, right.staged id transaction found]
        exact (right.close id).enter_writes checked rfl rfl

theorem stage (right : Right start engine ledger) (id : TransactionId) (step : Step) :
    Right start (engine.stage id step).2
      (ledger.record (.stage id step) (engine.stage id step).1) := by
  unfold Engine.stage
  cases found : engine.transactions[id]? with
  | none => exact right
  | some transaction =>
      have before := right.staged id transaction found
      rcases engine.stageIn_cases step transaction with
        ⟨failure, outcome⟩ | ⟨rfl, outcome⟩ | ⟨-, staged, write, asks, writes, outcome⟩
      · simp only [outcome]
        exact right
      · have after : (transaction.create engine.nextNode).writes.map Deed.write =
            transaction.writes.map .write ++ [.write (.createNode engine.nextNode)] := by
          simp [Transaction.create, Transaction.push]
        simp only [outcome, record, before, Step.write?, Option.map_some, Option.toList_some,
          List.map_cons, List.map_nil, ← after]
        exact right.setStaged _ rfl rfl
      · have after : staged.writes.map Deed.write =
            transaction.writes.map .write ++ [.write write] := by
          simp [writes]
        simp only [outcome, record, before, asks, Option.toList_some, List.map_cons, List.map_nil,
          ← after]
        exact right.setStaged _ rfl rfl

theorem perform (right : Right start engine ledger) (call : Call) :
    Right start (engine.perform call).2 (ledger.record call (engine.perform call).1) := by
  cases call with
  | createIndex name =>
      simp only [Engine.perform, Engine.createIndex]
      split
      · exact right
      split
      · exact right
      split
      · exact right
      · rename_i absent
        refine right.enter ?_ ⟨?_, trivial⟩ rfl
        · exact engine.graph.picture_insertIndex name
        · exact not_not.1 (mt Graph.picture_indexes_ne_none.1 (by simpa using absent))
  | indexGet index key value => exact right.of_same rfl rfl
  | indexRange index range => exact right
  | nodeProperty node name => exact right
  | nodeProperties node => exact right
  | beginTransaction =>
      simp only [Engine.perform, Engine.beginTransaction]
      split
      · exact right
      · exact right.setStaged {} rfl rfl
  | stage id step => exact right.stage id step
  | commit id => exact right.commit id
  | rollback id =>
      simp only [Engine.perform, Engine.rollback]
      cases found : engine.transactions[id]? with
      | none => exact right.close_absent found
      | some transaction => exact right.close id
  | executeBatch batch =>
      rcases engine.executeBatch_cases batch with
        ⟨failure, next, count, -, outcome⟩ | ⟨next, checked, outcome⟩
      · simp only [Engine.perform, outcome]
        exact right.of_same rfl rfl
      · simp only [Engine.perform, outcome]
        exact right.enter_writes checked rfl rfl

/-- Whatever happens, the ledger stays right. -/
theorem change (right : Right start engine ledger) (event : Event) :
    Right start (event.change engine) (event.enter engine ledger) := by
  cases event with
  | call made => exact right.perform made
  | drop id => exact right.close id
  | shutdown disk =>
      simp only [Event.change, Event.enter, Engine.shutdown]
      split
      · exact right
      · exact right.of_same rfl rfl

theorem follow (right : Right start engine ledger) (events : List Event) :
    Right start (engine.follow ledger events).1 (engine.follow ledger events).2 := by
  induction events generalizing engine ledger with
  | nil => exact right
  | cons event events induction => exact induction (right.change event)

end Right

end Ledger

end RecordGraph
