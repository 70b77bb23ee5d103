import RecordGraph.Client
import RecordGraph.Proofs.Record.Reading

namespace RecordGraph

/-! What operations on records mean for queues, and that an engine that keeps queues does just
that. -/

/-! ## The meaning of operations -/

namespace Queues

def record (keyField key : String) (fields : FieldMap) : FieldMap :=
  overlay ((∅ : FieldMap).insert keyField (Utf8.encode key)) fields

def insert (keyField key : String) (fields : FieldMap) (queues : Queues) : Status × Queues :=
  if "" ∈ fields then (.error, queues)
  else (.ok, queues.put key (queues.under key ++ [record keyField key fields]))

def update (key : String) (fields : FieldMap) (queues : Queues) : Status × Queues :=
  match queues.under key with
  | [] => (.notFound, queues)
  | oldest :: others =>
      if "" ∈ fields then (.error, queues)
      else (.ok, queues.put key (overlay oldest fields :: others))

def delete (key : String) (queues : Queues) : Status × Queues :=
  match queues.under key with
  | [] => (.notFound, queues)
  | _ :: others => (.ok, queues.put key others)

def read (keyField key : String) (requested : Option FieldSet) (into : FieldMap)
    (queues : Queues) : Status × FieldMap :=
  match queues.under key with
  | [] => (.notFound, into)
  | oldest :: _ =>
      match select keyField requested oldest with
      | .ok fields => (.ok, overlay into fields)
      | .error _ => (.error, into)

end Queues

theorem recordOf_bare (keys : KeyIndex) (key : String) :
    recordOf (keys.bare key) = (∅ : FieldMap).insert keys.keyField (Utf8.encode key) := by
  ext1 name
  simp only [recordOf, KeyIndex.bare, Std.ExtTreeMap.getElem?_map,
    Std.ExtTreeMap.getElem?_insert]
  split <;> rfl

theorem statusOf_select_error {requested : Option FieldSet} {record : FieldMap} {keyField : String}
    {failure : Failure} (failed : select keyField requested record = .error failure) :
    Status.ofFailure failure = .error := by
  cases requested with
  | none => cases failed
  | some names =>
      rw [select] at failed
      split at failed
      · cases failed
        rfl
      · cases failed

namespace Engine.Keeps

variable {engine : Engine} {binding : Binding} {queues : Queues} {key : String}
  {fields : FieldMap}

private theorem run_withNode_nil (keeps : Keeps binding.keys queues engine)
    (empty : queues.under key = []) {Result : Type} (action : NodeId → Dialogue Result) :
    (Record.withNode key binding action).run perform engine = (.ok none, engine) := by
  have looked : (binding.keys.lookup key).run perform engine = (.ok none, engine) := by
    rw [keeps.run_lookup, keeps.represents.nodes_nil empty]
    rfl
  rw [Record.withNode, Dialogue.run_bind_ok looked]
  rfl

private theorem run_withNode_cons (keeps : Keeps binding.keys queues engine) {node : NodeId}
    {others : List NodeId}
    (list : (engine.graph.nodesUnder binding.keys key).toList = node :: others) {Result : Type}
    (action : NodeId → Dialogue Result) :
    (Record.withNode key binding action).run perform engine =
      (((action node).run perform engine).1.map some, ((action node).run perform engine).2) := by
  have looked : (binding.keys.lookup key).run perform engine = (.ok (some node), engine) := by
    rw [keeps.run_lookup, list]
    rfl
  rw [Record.withNode, Dialogue.run_bind_ok looked]
  dsimp only
  rw [Dialogue.run_bind]
  rcases (action node).run perform engine with ⟨outcome, after⟩
  cases outcome <;> rfl

theorem insert (keeps : Keeps binding.keys queues engine) (embedded : binding.mode = .embedded)
    (keyed : binding.keyField ≠ "") (room : engine.nextNode.toNat + 1 < 2 ^ 64) (key : String)
    (fields : FieldMap) :
    ∃ outcome after, (Record.insert key fields binding).run perform engine = (outcome, after) ∧
      Client.statusOf (outcome.map fun () => true) =
        (queues.insert binding.keyField key fields).1 ∧
      Keeps binding.keys (queues.insert binding.keyField key fields).2 after ∧
      after.location = engine.location ∧ after.nextNode = engine.nextNode + 1 := by
  rw [Record.insert, embedded, KeyIndex.insertNode]
  by_cases named : "" ∈ fields
  · rcases keeps.run_insert_unnamed keyed room key named with ⟨after, run, kept, same⟩
    rw [Queues.insert, if_pos named]
    exact ⟨_, after, run, rfl, kept, same⟩
  · rcases keeps.run_insert keyed room key named with ⟨after, run, kept, same⟩
    rw [recordOf_bare] at kept
    rw [Queues.insert, if_neg named]
    exact ⟨_, after, run, rfl, kept, same⟩

theorem update (keeps : Keeps binding.keys queues engine) (key : String) (fields : FieldMap) :
    ∃ outcome after, (Record.update key fields binding).run perform engine = (outcome, after) ∧
      Client.statusOf outcome = (queues.update key fields).1 ∧
      Keeps binding.keys (queues.update key fields).2 after ∧
      after.location = engine.location ∧ after.nextNode = engine.nextNode := by
  rw [Record.update, Queues.update]
  cases stored : queues.under key with
  | nil =>
      rw [Dialogue.run_bind_ok (keeps.run_withNode_nil stored _)]
      exact ⟨_, engine, rfl, rfl, keeps, rfl, rfl⟩
  | cons oldest others =>
      rcases keeps.represents.nodes_cons stored with ⟨node, later, properties, list, found, rfl⟩
      have whole := keeps.run_withNode_cons list fun node =>
        binding.keys.updateNode node key fields
      by_cases named : "" ∈ fields
      · rcases keeps.run_updateNode_unnamed list named with ⟨after, run, kept, same⟩
        rw [run] at whole
        simp only [if_pos named]
        rw [Dialogue.run_bind_error whole]
        exact ⟨_, after, rfl, rfl, kept, same⟩
      · rcases keeps.run_updateNode list found named with ⟨after, run, kept, same⟩
        rw [run] at whole
        rw [stored, List.tail_cons] at kept
        simp only [if_neg named]
        rw [Dialogue.run_bind_ok whole]
        exact ⟨_, after, rfl, rfl, kept, same⟩

theorem delete (keeps : Keeps binding.keys queues engine) (key : String) :
    ∃ outcome after, (Record.delete key binding).run perform engine = (outcome, after) ∧
      Client.statusOf outcome = (queues.delete key).1 ∧
      Keeps binding.keys (queues.delete key).2 after ∧
      after.location = engine.location ∧ after.nextNode = engine.nextNode := by
  rw [Record.delete, Queues.delete]
  cases stored : queues.under key with
  | nil =>
      rw [Dialogue.run_bind_ok (keeps.run_withNode_nil stored _)]
      exact ⟨_, engine, rfl, rfl, keeps, rfl, rfl⟩
  | cons oldest others =>
      rcases keeps.represents.nodes_cons stored with ⟨node, later, properties, list, found, rfl⟩
      have whole := keeps.run_withNode_cons list fun node => binding.keys.deleteNode node key
      rcases keeps.run_deleteNode list with ⟨after, run, kept, same⟩
      rw [run] at whole
      rw [stored, List.tail_cons] at kept
      rw [Dialogue.run_bind_ok whole]
      exact ⟨_, after, rfl, rfl, kept, same⟩

theorem read (keeps : Keeps binding.keys queues engine) (embedded : binding.mode = .embedded)
    (key : String) (requested : Option FieldSet) (into : FieldMap) :
    ∃ outcome, (Record.read key requested binding).run perform engine = (outcome, engine) ∧
      (Client.statusOf (outcome.map Option.isSome), match outcome with
        | .ok (some fields) => overlay into fields
        | _ => into) = queues.read binding.keyField key requested into := by
  rw [Record.read, embedded, Queues.read]
  cases stored : queues.under key with
  | nil => exact ⟨_, keeps.run_withNode_nil stored _, rfl⟩
  | cons oldest others =>
      rcases keeps.represents.nodes_cons stored with ⟨node, later, properties, list, found, rfl⟩
      have whole := keeps.run_withNode_cons list fun node =>
        binding.keys.readFields node (.resolve .embedded requested)
      rw [keeps.run_readFields found requested] at whole
      refine ⟨_, whole, ?_⟩
      have keyField : binding.keys.keyField = binding.keyField := rfl
      rw [keyField]
      cases selected : select binding.keyField requested (recordOf properties) with
      | ok fields =>
          simp only [selected]
          rfl
      | error failure =>
          have status := statusOf_select_error selected
          simp only [selected, Except.map, Client.statusOf, status]

end Engine.Keeps

end RecordGraph
