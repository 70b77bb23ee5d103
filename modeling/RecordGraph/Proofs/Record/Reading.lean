import RecordGraph.Proofs.Record.Operation

namespace RecordGraph

/-! What is read of records. -/

/-- What is read of a record: all but its key, or just the requested fields, if it has them all. -/
def select (keyField : String) (requested : Option FieldSet) (record : FieldMap) :
    Except Failure FieldMap :=
  match requested with
  | none => .ok (record.erase keyField)
  | some names =>
      match names.toList.find? fun name => !record.contains name with
      | some missing => .error (.missingField missing)
      | none => .ok (record.filter fun name _ => names.contains name)

/-! ## Requested fields -/

private theorem mapM_requested (record : FieldMap) (names : List String) :
    (names.mapM fun name => match record[name]? with
      | some field => Except.ok (name, field)
      | none => .error (Failure.missingField name)) =
    match names.find? fun name => !record.contains name with
      | some missing => .error (.missingField missing)
      | none => .ok (names.map fun name => (name, record[name]?.getD [])) := by
  induction names with
  | nil => rfl
  | cons name names induction =>
      rw [List.mapM_cons, List.find?_cons, Std.ExtTreeMap.contains_eq_isSome_getElem?, induction]
      cases found : record[name]? with
      | none => rfl
      | some field =>
          simp only [Option.isSome_some, Bool.not_true]
          cases names.find? fun name => !record.contains name with
          | some missing => rfl
          | none => simp [found, bind, Except.bind, pure, Except.pure]

private theorem getElem?_foldl_insert (record base : FieldMap) (names : List String)
    (name : String) :
    ((names.map fun name => (name, record[name]?.getD [])).foldl
      (fun whole field => whole.insert field.1 field.2) base)[name]? =
        if name ∈ names then some (record[name]?.getD []) else base[name]? := by
  induction names generalizing base with
  | nil => simp
  | cons first names induction =>
      rw [List.map_cons, List.foldl_cons, induction]
      by_cases later : name ∈ names
      · simp [later]
      · by_cases same : name = first
        · simp [same]
        · simp [later, same, Std.ExtTreeMap.getElem?_insert, Ne.symm same]

private theorem collect_requested {record : FieldMap} {names : FieldSet}
    (all : names.toList.find? (fun name => !record.contains name) = none) :
    (names.toList.map fun name => (name, record[name]?.getD [])).foldl
      (fun whole field => whole.insert field.1 field.2) ∅ =
        record.filter fun name _ => names.contains name := by
  ext1 name
  rw [getElem?_foldl_insert, Std.ExtTreeMap.getElem?_filter']
  simp only [Std.ExtTreeSet.mem_toList]
  have contained : names.contains name = decide (name ∈ names) := by
    rw [Bool.eq_iff_iff, decide_eq_true_iff, Std.ExtTreeSet.contains_iff_mem]
  by_cases member : name ∈ names
  · have there := List.find?_eq_none.1 all name (Std.ExtTreeSet.mem_toList.2 member)
    rw [Std.ExtTreeMap.contains_eq_isSome_getElem?] at there
    cases found : record[name]? with
    | none => simp [found] at there
    | some field => simp [contained, member, Option.filter]
  · cases record[name]? with
    | none => simp [member]
    | some field => simp [contained, member, Option.filter]

namespace Engine.Keeps

variable {engine : Engine} {keys : KeyIndex} {queues : Queues} {node : NodeId}
  {properties : Properties}

private theorem run_getField (keeps : Keeps keys queues engine)
    (found : engine.graph.nodes[node]? = some properties) (name : String) :
    (do pure (name, ← KeyIndex.getField node name) : Dialogue (String × Bytes)).run perform engine =
      (match (recordOf properties)[name]? with
        | some field => .ok (name, field)
        | none => .error (.missingField name), engine) := by
  have answered : (Dialogue.ask (.nodeProperty node name)).run perform engine =
      (.ok properties[name]?, engine) := by
    rw [Dialogue.run_ask, perform, readNode, keeps.isOpen, found]
    rfl
  have field : (KeyIndex.getField node name).run perform engine =
      (match (recordOf properties)[name]? with
        | some field => .ok field
        | none => .error (.missingField name), engine) := by
    rw [KeyIndex.getField, Dialogue.run_bind_ok answered, recordOf, Std.ExtTreeMap.getElem?_map]
    cases properties[name]? with
    | none => rfl
    | some value => rfl
  rw [Dialogue.run_bind, field]
  cases (recordOf properties)[name]? with
  | none => rfl
  | some field => rfl

theorem run_readFields (keeps : Keeps keys queues engine)
    (found : engine.graph.nodes[node]? = some properties) (requested : Option FieldSet) :
    (keys.readFields node (.resolve .embedded requested)).run perform engine =
      (select keys.keyField requested (recordOf properties), engine) := by
  cases requested with
  | none =>
      have answered : (Dialogue.ask (.nodeProperties node)).run perform engine =
          (.ok properties, engine) := by
        rw [Dialogue.run_ask, perform, readNode, keeps.isOpen, found]
        rfl
      have record : (keys.withoutKey properties).map (fun _ value => value.toField) =
          (recordOf properties).erase keys.keyField := by
        ext1 name
        simp only [KeyIndex.withoutKey, recordOf, Std.ExtTreeMap.getElem?_map,
          Std.ExtTreeMap.getElem?_erase]
        split <;> rfl
      have selection : FieldSelection.resolve .embedded none = .all := rfl
      rw [selection, KeyIndex.readFields, Dialogue.run_bind_ok answered, Dialogue.run_pure, record]
      rfl
  | some names =>
      have selection : FieldSelection.resolve .embedded (some names) = .requested names := rfl
      rw [selection, KeyIndex.readFields, Dialogue.run_bind,
        Dialogue.run_forEach_still _ _ fun name _ => keeps.run_getField found name,
        mapM_requested]
      simp only [select]
      cases all : names.toList.find? fun name => !(recordOf properties).contains name with
      | some missing => rfl
      | none =>
          simp only [Dialogue.run_pure]
          exact congrArg (fun record => (Except.ok record, engine)) (collect_requested all)

end Engine.Keeps

end RecordGraph
