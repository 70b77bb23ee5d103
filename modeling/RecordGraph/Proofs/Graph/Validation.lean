import RecordGraph.Proofs.Graph.Picture

namespace RecordGraph

/-! Checked writes apply. The check of a transaction goes through its writes with sets of created
and deleted nodes, and never looks at the graph that the earlier writes have made; still every
write that it lets pass finds in that graph what it needs. -/

theorem ok_of_bind {Fault First Second : Type} {first : Except Fault First}
    {next : First → Except Fault Second} {outcome : Second}
    (done : (first >>= next) = .ok outcome) :
    ∃ between, first = .ok between ∧ next between = .ok outcome := by
  cases first with
  | error failure => cases done
  | ok between => exact ⟨between, rfl, done⟩

/-! ## Nodes that stay -/

theorem Deed.perform_keeps {picture : Picture} {deed : Deed} {node : NodeId}
    (there : picture.nodes node ≠ none) (kept : deed ≠ .write (.deleteNode node)) :
    (deed.perform picture).nodes node ≠ none := by
  cases deed with
  | createIndex name => exact there
  | write write =>
      cases write with
      | createNode other =>
          by_cases same : node = other
          · subst same
            simp [perform]
          · simpa [perform, Function.update_of_ne same] using there
      | setProperty other name value =>
          by_cases same : node = other
          · subst same
            simpa [perform] using there
          · simpa [perform, Function.update_of_ne same] using there
      | deleteNode other =>
          have different : node ≠ other := fun same => kept (by rw [same])
          simpa [perform, Function.update_of_ne different] using there
      | indexAdd => exact there
      | indexRemove => exact there

theorem Picture.after_keeps {picture : Picture} {deeds : List Deed} {node : NodeId}
    (there : picture.nodes node ≠ none) (kept : .write (.deleteNode node) ∉ deeds) :
    (picture.after deeds).nodes node ≠ none := by
  induction deeds generalizing picture with
  | nil => exact there
  | cons deed deeds induction =>
      rw [List.mem_cons, not_or] at kept
      exact induction (Deed.perform_keeps there (Ne.symm kept.1)) kept.2

namespace Graph

theorem hasNode_perform {graph : Graph} {write : Write} {node : NodeId}
    (present : graph.hasNode node = true) (kept : write ≠ .deleteNode node) :
    (graph.perform write).hasNode node = true := by
  rw [← picture_nodes_ne_none] at present ⊢
  rw [picture_perform]
  exact Deed.perform_keeps present fun same => kept (Deed.write.inj same)

theorem hasNode_createNode (graph : Graph) (node : NodeId) :
    (graph.perform (.createNode node)).hasNode node = true := by
  rw [← picture_nodes_ne_none, picture_perform]
  simp [Deed.perform]

theorem hasIndex_perform (graph : Graph) (write : Write) (index : String) :
    (graph.perform write).hasIndex index = graph.hasIndex index := by
  rw [Bool.eq_iff_iff, ← picture_indexes_ne_none, ← picture_indexes_ne_none, picture_perform]
  cases write with
  | createNode => rfl
  | setProperty => rfl
  | deleteNode => simp [Deed.perform]
  | indexAdd other =>
      by_cases same : index = other
      · subst same
        simp [Deed.perform]
      · simp [Deed.perform, Function.update_of_ne same]
  | indexRemove other =>
      by_cases same : index = other
      · subst same
        simp [Deed.perform]
      · simp [Deed.perform, Function.update_of_ne same]

theorem hasIndex_performAll (graph : Graph) (writes : List Write) (index : String) :
    (graph.performAll writes).hasIndex index = graph.hasIndex index := by
  induction writes generalizing graph with
  | nil => rfl
  | cons write writes induction =>
      rw [performAll_cons, induction, hasIndex_perform]

end Graph

namespace Transaction

structure Standing.Sound (graph current : Graph) (standing : Standing) : Prop where
  node : ∀ node, standing.hasNode graph node = true → current.hasNode node = true
  index : ∀ index, current.hasIndex index = graph.hasIndex index

namespace Standing

variable {graph current : Graph} {standing next : Standing} {write : Write}

theorem hasNode_iff {node : NodeId} :
    standing.hasNode graph node = true ↔
      node ∉ standing.deleted ∧ (node ∈ standing.created ∨ graph.hasNode node = true) := by
  simp [hasNode, ← Std.ExtTreeSet.contains_iff_mem]

theorem sound_empty (graph : Graph) : Sound graph graph {} where
  node := by simp [hasNode_iff]
  index _ := rfl

/-- A write that passes the check is possible, and the check keeps up with what it does. -/
theorem Sound.check_sound (sound : Sound graph current standing)
    (passed : standing.check graph write = .ok next) :
    (Deed.write write).Possible current.picture ∧ Sound graph (current.perform write) next := by
  have kept (index : String) : (current.perform write).hasIndex index = graph.hasIndex index := by
    rw [Graph.hasIndex_perform, sound.index]
  have indexThere (index : String) (there : graph.hasIndex index = true) :
      current.picture.indexes index ≠ none := by
    rw [Graph.picture_indexes_ne_none, sound.index, there]
  have nodeThere (node : NodeId) (stands : standing.hasNode graph node = true) :
      current.picture.nodes node ≠ none := by
    rw [Graph.picture_nodes_ne_none]
    exact sound.node node stands
  have same (deletes : ∀ node, write ≠ .deleteNode node) :
      Sound graph (current.perform write) standing :=
    ⟨fun node stands => Graph.hasNode_perform (sound.node node stands) (deletes node), kept⟩
  cases write with
  | createNode node =>
      rcases Except.ok.inj passed with rfl
      refine ⟨trivial, fun other stands => ?_, kept⟩
      by_cases equal : other = node
      · rw [equal]
        exact current.hasNode_createNode node
      · refine Graph.hasNode_perform (sound.node other ?_) (by simp)
        simpa [hasNode_iff, Std.ExtTreeSet.mem_insert, Ne.symm equal] using stands
  | setProperty node name value =>
      simp only [check] at passed
      split at passed
      · rename_i stands
        rcases Except.ok.inj passed with rfl
        exact ⟨nodeThere node stands, same (by simp)⟩
      · cases passed
  | deleteNode node =>
      simp only [check] at passed
      split at passed
      · rename_i stands
        rcases Except.ok.inj passed with rfl
        refine ⟨nodeThere node stands, fun other left => ?_, kept⟩
        have parts := hasNode_iff.1 left
        simp only [Std.ExtTreeSet.mem_insert, Std.LawfulEqCmp.compare_eq_iff_eq, not_or] at parts
        refine Graph.hasNode_perform (sound.node other ?_) ?_
        · exact hasNode_iff.2 ⟨parts.1.2, parts.2⟩
        · simpa using parts.1.1
      · cases passed
  | indexAdd index node key value =>
      simp only [check] at passed
      split at passed
      · cases passed
      · rename_i stands
        split at passed
        · rename_i there
          rcases Except.ok.inj passed with rfl
          exact ⟨⟨nodeThere node (by simpa using stands), indexThere index there⟩, same (by simp)⟩
        · cases passed
  | indexRemove index node key value =>
      simp only [check] at passed
      split at passed
      · rename_i there
        rcases Except.ok.inj passed with rfl
        exact ⟨indexThere index there, same (by simp)⟩
      · cases passed

end Standing

/-- Writes that pass the check one after another are possible one after another. -/
theorem possible_of_checkAll {graph current : Graph} {standing : Standing} {writes : List Write}
    (sound : standing.Sound graph current)
    (passed : checkAll graph standing writes = .ok ()) :
    current.picture.Throughout Deed.Possible (writes.map .write) := by
  induction writes generalizing current standing with
  | nil => trivial
  | cons write writes induction =>
      rcases ok_of_bind passed with ⟨next, checked, rest⟩
      rcases sound.check_sound checked with ⟨possible, sound⟩
      refine ⟨possible, ?_⟩
      rw [← Graph.picture_perform]
      exact induction sound rest

end Transaction

end RecordGraph
