import RecordGraph.Proofs.Client.Errand
import RecordGraph.Proofs.Engine.Outcome
import RecordGraph.Proofs.Record.Queue

namespace RecordGraph

/-! Operations on records call by call. Where others make calls in between, it matters which call
comes next. No operation has more than one transaction, and while that one is open, all its calls
are about it. What changes a record looks it up, begins a transaction, stages one step after
another, and commits; once a step fails, it rolls back. -/

def Call.leaves : (call : Call) → Except Failure call.Answer → Option TransactionId
  | .beginTransaction, .ok id => some id
  | .stage id _, _ => some id
  | _, _ => none

namespace Dialogue

variable {First Result Item : Type} {own : Option TransactionId} {id : TransactionId}

/-! ## One transaction at a time -/

/-- The dialogue goes on in its own transaction, if that is open: every call is about the
transaction that is open at that moment, and begins one only if there is none. In the end there is
none. -/
def Within : Option TransactionId → Dialogue Result → Prop
  | own, finished _ => own = none
  | own, asking call next => call.transaction? = own ∧
      ∀ answer, Within (call.leaves answer) (next answer)

def transaction? : Dialogue Result → Option TransactionId
  | finished _ => none
  | asking call _ => call.transaction?

theorem Within.transaction?_eq {dialogue : Dialogue Result} (within_ : dialogue.Within own) :
    dialogue.transaction? = own := by
  cases dialogue with
  | finished outcome => exact Eq.symm within_
  | asking call next => exact within_.1

theorem Within.self {dialogue : Dialogue Result} (within_ : dialogue.Within own) :
    dialogue.Within dialogue.transaction? :=
  within_.transaction?_eq.symm ▸ within_

theorem Within.bind {dialogue : Dialogue First} {next : First → Dialogue Result}
    (within_ : dialogue.Within own) (later : ∀ value, (next value).Within none) :
    (dialogue >>= next).Within own := by
  induction dialogue generalizing own with
  | finished outcome =>
      rcases within_ with rfl
      cases outcome with
      | ok value => exact later value
      | error failure => exact rfl
  | asking call following induction =>
      exact ⟨within_.1, fun answer => induction answer (within_.2 answer)⟩

theorem within_reads {dialogue : Dialogue Result} (asks : dialogue.Asks (·.reads = true)) :
    dialogue.Within none := by
  induction dialogue with
  | finished outcome => exact rfl
  | asking call next induction =>
      obtain ⟨reads, later⟩ := asks
      cases call with
      | indexGet index key value => exact ⟨rfl, fun answer => induction answer (later answer)⟩
      | indexRange index range => exact ⟨rfl, fun answer => induction answer (later answer)⟩
      | nodeProperty node name => exact ⟨rfl, fun answer => induction answer (later answer)⟩
      | nodeProperties node => exact ⟨rfl, fun answer => induction answer (later answer)⟩
      | _ => cases reads

private theorem within_finishing {dialogue : Dialogue First} (asks : dialogue.Asks (·.StagesIn id))
    {next : Except Failure First → Dialogue Result}
    (ends : ∀ outcome, (next outcome).Within (some id)) :
    (dialogue.attempt >>= next).Within (some id) := by
  induction dialogue with
  | finished outcome => exact ends outcome
  | asking call following induction =>
      obtain ⟨⟨step, rfl⟩, later⟩ := asks
      exact ⟨rfl, fun answer => induction answer (later answer)⟩

theorem within_inTransaction {body : TransactionId → Dialogue Result}
    (asks : ∀ id, (body id).Asks (·.StagesIn id)) : (inTransaction body).Within none := by
  refine ⟨rfl, fun answer => ?_⟩
  cases answer with
  | error failure => exact rfl
  | ok id =>
      refine within_finishing (asks id) fun outcome => ?_
      cases outcome with
      | error failure => exact ⟨rfl, fun answer => rfl⟩
      | ok value =>
          refine ⟨rfl, fun answer => ?_⟩
          cases answer with
          | error failure => exact rfl
          | ok done => exact rfl

/-! ## Step by step -/

theorem bind_pure_id (dialogue : Dialogue Result) :
    (dialogue >>= fun value => pure value) = dialogue := by
  induction dialogue with
  | finished outcome => cases outcome <;> rfl
  | asking call next induction => exact congrArg (asking call) (funext induction)

theorem bind_bind (dialogue : Dialogue First) (next : First → Dialogue Item)
    (last : Item → Dialogue Result) :
    (dialogue >>= next >>= last) = dialogue >>= fun value => next value >>= last := by
  induction dialogue with
  | finished outcome => cases outcome <;> rfl
  | asking call following induction => exact congrArg (asking call) (funext induction)

instance : LawfulMonad Dialogue :=
  LawfulMonad.mk' Dialogue bind_pure_id (fun _ _ => rfl) bind_bind

def stageEach (id : TransactionId) : List Step → Dialogue Unit
  | [] => pure ()
  | step :: steps => asking (.stage id step) fun
      | .ok _ => stageEach id steps
      | .error failure => fail failure

def closing (id : TransactionId) (value : Result) : List Step → Dialogue Result
  | [] => asking (.commit id) fun answer => finished (answer.map fun () => value)
  | step :: steps => asking (.stage id step) fun
      | .ok _ => closing id value steps
      | .error failure => asking (.rollback id) fun _ => fail failure

def transacting (value : Result) (steps : List Step) : Dialogue Result :=
  asking .beginTransaction fun
    | .ok id => closing id value steps
    | .error failure => fail failure

theorem stage_eq (id : TransactionId) (step : Step) : stage id step = stageEach id [step] := by
  refine congrArg (asking _) (funext fun answer => ?_)
  cases answer <;> rfl

theorem stageEach_append (first second : List Step) :
    (stageEach id first >>= fun _ => stageEach id second) = stageEach id (first ++ second) := by
  induction first with
  | nil => rfl
  | cons step steps induction =>
      refine congrArg (asking _) (funext fun answer => ?_)
      cases answer with
      | error failure => rfl
      | ok created => exact induction

theorem stageEach_forEach (step : Item → Step) (items : List Item) :
    (forEach (fun item => stage id (step item)) items >>= fun _ => pure ()) =
      stageEach id (items.map step) := by
  induction items with
  | nil => rfl
  | cons item items induction =>
      have whole : stageEach id ((item :: items).map step) =
          (stageEach id [step item] >>= fun _ => stageEach id (items.map step)) :=
        (stageEach_append [step item] (items.map step)).symm
      rw [whole, ← stage_eq, ← induction, forEach, bind_assoc]
      refine congrArg (stage id (step item) >>= ·) (funext fun result => ?_)
      exact bind_assoc _ _ _

theorem inTransaction_stageEach (value : Result) (steps : List Step) :
    (inTransaction (fun id => stageEach id steps) >>= fun _ => pure value) =
      transacting value steps := by
  refine congrArg (asking _) (funext fun answer => ?_)
  cases answer with
  | error failure => rfl
  | ok id =>
      induction steps with
      | nil =>
          refine congrArg (asking _) (funext fun answer => ?_)
          cases answer <;> rfl
      | cons step steps induction =>
          refine congrArg (asking _) (funext fun answer => ?_)
          cases answer with
          | error failure => rfl
          | ok created => exact induction

end Dialogue

/-- How a record is changed: the key that it is looked up by, and the steps that are staged for the
node that is found. None of them creates a node, and one of them needs the node. -/
structure Change where
  keys : KeyIndex
  key : String
  steps : NodeId → List Step
  plain : ∀ node, .createNode ∉ steps node
  needs : ∀ node, .indexAdd keys.index node keys.keyField key ∈ steps node ∨
    .deleteNode node ∈ steps node

namespace Change

open Dialogue

def dialogue (change : Change) : Dialogue Bool :=
  asking (.indexGet change.keys.index change.keys.keyField change.key) fun
    | .ok [] => pure false
    | .ok (node :: _) => transacting true (change.steps node)
    | .error failure => fail failure

def writes (node : NodeId) (change : Change) : List Write :=
  (change.steps node).filterMap (·.write? none)

def update (keys : KeyIndex) (key : String) (fields : FieldMap) : Change where
  keys
  key
  steps node := (fields.toList.map fun field => .setProperty node field.1 (.ofField field.2)) ++
    [.indexRemove keys.index node keys.keyField key, .indexAdd keys.index node keys.keyField key]
  plain := by simp
  needs := by simp

def delete (keys : KeyIndex) (key : String) : Change where
  keys
  key
  steps node := [.indexRemove keys.index node keys.keyField key, .deleteNode node]
  plain := by simp
  needs := by simp

theorem writes_update (keys : KeyIndex) (key : String) (fields : FieldMap) (node : NodeId) :
    (update keys key fields).writes node = keys.change node key fields := by
  simp [writes, update, KeyIndex.change, Graph.settings, List.filterMap_map, Step.write?]

theorem writes_delete (keys : KeyIndex) (key : String) (node : NodeId) :
    (delete keys key).writes node = keys.deletion node key := rfl

theorem updateNode_eq (keys : KeyIndex) (key : String) (fields : FieldMap) (node : NodeId) :
    keys.updateNode node key fields =
      inTransaction fun id => stageEach id ((update keys key fields).steps node) := by
  refine congrArg inTransaction (funext fun id => ?_)
  rw [update, ← stageEach_append, ← stageEach_forEach, KeyIndex.refresh, KeyIndex.unregister,
    KeyIndex.enter, stage_eq, stage_eq, stageEach_append]
  rfl

theorem deleteNode_eq (keys : KeyIndex) (key : String) (node : NodeId) :
    keys.deleteNode node key =
      inTransaction fun id => stageEach id ((delete keys key).steps node) := by
  refine congrArg inTransaction (funext fun id => ?_)
  rw [KeyIndex.unregister, stage_eq, stage_eq, stageEach_append]
  rfl

/-- The change is what is done in a transaction about the node that is looked up. -/
theorem dialogue_eq {binding : Binding} {change : Change} {action : NodeId → Dialogue Unit}
    (keys : change.keys = binding.keys)
    (same : ∀ node, action node = inTransaction fun id => stageEach id (change.steps node)) :
    (Record.withNode change.key binding action >>= fun done => pure done.isSome) =
      change.dialogue := by
  rw [dialogue, keys]
  refine congrArg (asking _) (funext fun answer => ?_)
  rcases answer with failure | _ | ⟨node, others⟩
  · rfl
  · rfl
  · have done : (action node >>= fun value => pure (some value) >>= fun done => pure done.isSome) =
        transacting true (change.steps node) := by
      rw [same]
      exact inTransaction_stageEach true (change.steps node)
    exact (bind_assoc (action node) _ _).trans done

end Change

def Errand.change? (binding : Binding) : Errand → Option Change
  | update key fields => some (.update binding.keys key fields)
  | delete key => some (.delete binding.keys key)
  | _ => none

namespace Record

open Dialogue

variable {binding : Binding}

theorem within_withNode {Result : Type} {key : String} {action : NodeId → Dialogue Result}
    (within_ : ∀ node, (action node).Within none) : (withNode key binding action).Within none := by
  refine (within_reads ((KeyIndex.asks_lookup key binding.keys).mono fun _ asks => asks.1)).bind ?_
  rintro (_ | node)
  · exact rfl
  · exact (within_ node).bind fun value => rfl

theorem within_encloses {Result : Type} {dialogue : Dialogue Result}
    (encloses : KeyIndex.Encloses dialogue) : dialogue.Within none := by
  rcases encloses with ⟨body, rfl, asks⟩
  exact within_inTransaction asks

theorem within_insert (key : String) (fields : FieldMap) :
    (insert key fields binding).Within none := by
  unfold insert KeyIndex.insertNode
  split
  · exact within_encloses (KeyIndex.encloses_insertStepwise key fields _)
  · exact within_encloses (KeyIndex.encloses_insertStepwise key fields _)
  · exact ⟨rfl, fun answer => by cases answer <;> exact rfl⟩

theorem update_eq (key : String) (fields : FieldMap) :
    update key fields binding = (Change.update binding.keys key fields).dialogue :=
  Change.dialogue_eq rfl (Change.updateNode_eq binding.keys key fields)

theorem delete_eq (key : String) :
    delete key binding = (Change.delete binding.keys key).dialogue :=
  Change.dialogue_eq rfl (Change.deleteNode_eq binding.keys key)

end Record

open Dialogue in
/-- Whatever a client is asked to do with records, it has one transaction at a time. -/
theorem Errand.within_dialogue (errand : Errand) (binding : Binding) :
    (errand.dialogue binding).Within none := by
  cases errand with
  | insert key fields => exact Record.within_insert key fields
  | update key fields =>
      exact (Record.within_withNode fun node =>
        Record.within_encloses (KeyIndex.encloses_updateNode node key fields _)).bind fun _ => rfl
  | delete key =>
      exact (Record.within_withNode fun node =>
        Record.within_encloses (KeyIndex.encloses_deleteNode node key _)).bind fun _ => rfl
  | read key requested into =>
      exact within_reads ((Record.consults_read key requested).mono fun _ asks => asks.1)
  | scan start count requested into =>
      exact within_reads ((Record.consults_scan start count requested).mono fun _ asks => asks.1)

end RecordGraph
