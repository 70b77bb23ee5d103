import RecordGraph.Proofs.Graph.Validation

namespace RecordGraph

/-! Sound graphs. The indexes of a sound graph lead to nodes of the graph only, and keep nothing
that is empty. -/

/-! ## Parts of maps -/

section Maps

variable {Value : Type} {map : NameMap Value} {name other : String} {value found : Value}

private theorem of_insert (there : (map.insert name value)[other]? = some found) :
    found = value ∨ map[other]? = some found := by
  rw [Std.ExtTreeMap.getElem?_insert] at there
  split at there
  · exact .inl (Option.some.inj there).symm
  · exact .inr there

private theorem of_erase (there : (map.erase name)[other]? = some found) :
    map[other]? = some found := by
  rw [Std.ExtTreeMap.getElem?_erase] at there
  split at there
  · cases there
  · exact there

private theorem insert_ne_empty : map.insert name value ≠ ∅ := by
  intro empty
  have found : (map.insert name value)[name]? = some value := Std.ExtTreeMap.getElem?_insert_self
  rw [empty, Std.ExtTreeMap.getElem?_empty] at found
  cases found

end Maps

/-! ## Indexes without empty parts -/

namespace NodeIndex

def Full (values : NameMap NodeSet) : Prop :=
  ∀ (value : String) (nodes : NodeSet), values[value]? = some nodes → nodes ≠ ∅

structure Filled (index : NodeIndex) : Prop where
  values : ∀ (key : String) (values : NameMap NodeSet), index.entries[key]? = some values →
    values ≠ ∅
  nodes : ∀ (key : String) (values : NameMap NodeSet), index.entries[key]? = some values →
    Full values

theorem filled_empty : Filled {} where
  values key values found := by simp at found
  nodes key values found := by simp at found

variable {index : NodeIndex}

private theorem Filled.insert (filled : index.Filled) {key : String} {values : NameMap NodeSet}
    (some : values ≠ ∅) (full : Full values) :
    Filled { entries := index.entries.insert key values } where
  values other found there := by
    rcases of_insert there with rfl | before
    · exact some
    · exact filled.values other found before
  nodes other found there := by
    rcases of_insert there with rfl | before
    · exact full
    · exact filled.nodes other found before

private theorem Filled.erase (filled : index.Filled) (key : String) :
    Filled { entries := index.entries.erase key } where
  values other found there := filled.values other found (of_erase there)
  nodes other found there := filled.nodes other found (of_erase there)

theorem Filled.add (filled : index.Filled) (key value : String) (node : NodeId) :
    (index.add key value node).Filled := by
  refine filled.insert insert_ne_empty fun other nodes there => ?_
  rcases of_insert there with rfl | before
  · intro empty
    have member : node ∈ ((index.entries[key]?.getD ∅)[value]?.getD ∅).insert node :=
      Std.ExtTreeSet.mem_insert_self
    rw [empty] at member
    exact Std.ExtTreeSet.not_mem_empty member
  · cases found : index.entries[key]? with
    | none => simp [found] at before
    | some values =>
        rw [found, Option.getD_some] at before
        exact filled.nodes key values found other nodes before

private theorem Full.withoutNode {values : NameMap NodeSet} (full : Full values) (value : String)
    (node : NodeId) : Full (withoutNode value node values) := by
  intro other nodes there
  rw [NodeIndex.withoutNode] at there
  split at there
  · exact full other nodes there
  · dsimp only at there
    split at there
    · exact full other nodes (of_erase there)
    · rename_i rest
      rcases of_insert there with rfl | before
      · exact mt Std.ExtTreeSet.isEmpty_iff.2 rest
      · exact full other nodes before

theorem Filled.remove (filled : index.Filled) (key value : String) (node : NodeId) :
    (index.remove key value node).Filled := by
  rw [NodeIndex.remove]
  cases there : index.entries[key]? with
  | none => exact filled
  | some values =>
      dsimp only
      split
      · exact filled.erase key
      · rename_i rest
        have full : Full values := filled.nodes key values there
        exact filled.insert (mt Std.ExtTreeMap.isEmpty_iff.2 rest) (full.withoutNode value node)

private theorem ne_empty_of_kept {Value : Type} {map left : NameMap Value}
    (kept : (if map.isEmpty then none else some map) = some left) : left ≠ ∅ ∧ left = map := by
  split at kept
  · cases kept
  · rename_i rest
    rcases Option.some.inj kept with rfl
    exact ⟨mt Std.ExtTreeMap.isEmpty_iff.2 rest, rfl⟩

theorem filled_purge (index : NodeIndex) (node : NodeId) : (index.purge node).Filled where
  values key values there := by
    rw [purge, Std.ExtTreeMap.getElem?_filterMap', Option.bind_eq_some_iff] at there
    rcases there with ⟨before, -, kept⟩
    exact (ne_empty_of_kept kept).1
  nodes key values there value nodes found := by
    rw [purge, Std.ExtTreeMap.getElem?_filterMap', Option.bind_eq_some_iff] at there
    rcases there with ⟨before, -, kept⟩
    rw [(ne_empty_of_kept kept).2, Std.ExtTreeMap.getElem?_filterMap',
      Option.bind_eq_some_iff] at found
    rcases found with ⟨all, -, rest⟩
    dsimp only at rest
    split at rest
    · cases rest
    · rename_i some_
      rw [← Option.some.inj rest]
      exact mt Std.ExtTreeSet.isEmpty_iff.2 some_

end NodeIndex

/-! ## Entries that lead to nodes -/

def Picture.Registered (picture : Picture) : Prop :=
  ∀ index entries, picture.indexes index = some entries →
    ∀ entry ∈ entries, picture.nodes entry.node ≠ none

/-- A deed that is possible leaves no entry without its node. -/
theorem Picture.Registered.perform {picture : Picture} (registered : picture.Registered)
    {deed : Deed} (possible : deed.Possible picture) : (deed.perform picture).Registered := by
  intro index entries found entry member
  cases deed with
  | createIndex name =>
      by_cases same : index = name
      · subst same
        simp only [Deed.perform, Function.update_self, Option.some.injEq] at found
        rw [← found] at member
        cases member
      · simp only [Deed.perform, Function.update_of_ne same] at found
        exact registered index entries found entry member
  | write write =>
      cases write with
      | createNode node =>
          have before := registered index entries found entry member
          by_cases same : entry.node = node
          · simp [Deed.perform, same]
          · simpa [Deed.perform, Function.update_of_ne same] using before
      | setProperty node name value =>
          have before := registered index entries found entry member
          by_cases same : entry.node = node
          · rw [same] at before ⊢
            simpa [Deed.perform] using before
          · simpa [Deed.perform, Function.update_of_ne same] using before
      | deleteNode node =>
          simp only [Deed.perform, Option.map_eq_some_iff] at found
          rcases found with ⟨all, there, rfl⟩
          have before := registered index all there entry member.1
          simpa [Deed.perform, Function.update_of_ne member.2] using before
      | indexAdd other node key value =>
          by_cases same : index = other
          · subst same
            simp only [Deed.perform, Function.update_self, Option.map_eq_some_iff] at found
            rcases found with ⟨all, there, rfl⟩
            rcases member with rfl | old
            · exact possible.1
            · exact registered index all there entry old
          · simp only [Deed.perform, Function.update_of_ne same] at found
            exact registered index entries found entry member
      | indexRemove other node key value =>
          by_cases same : index = other
          · subst same
            simp only [Deed.perform, Function.update_self, Option.map_eq_some_iff] at found
            rcases found with ⟨all, there, rfl⟩
            exact registered index all there entry member.1
          · simp only [Deed.perform, Function.update_of_ne same] at found
            exact registered index entries found entry member

theorem Picture.Registered.after {picture : Picture} (registered : picture.Registered)
    {deeds : List Deed} (possible : picture.Throughout Deed.Possible deeds) :
    (picture.after deeds).Registered := by
  induction deeds generalizing picture with
  | nil => exact registered
  | cons deed deeds induction => exact induction (registered.perform possible.1) possible.2

/-! ## Sound graphs -/

namespace Graph

/-- Every node in an index exists, and no index holds anything empty. -/
structure Sound (graph : Graph) : Prop where
  registered : ∀ (index : String) (entries : NodeIndex), graph.indexes[index]? = some entries →
    ∀ key value, ∀ node ∈ entries.nodesAt key value, graph.hasNode node = true
  filled : ∀ (index : String) (entries : NodeIndex), graph.indexes[index]? = some entries →
    entries.Filled

theorem sound_empty : Sound {} where
  registered index entries found := by simp at found
  filled index entries found := by simp at found

variable {graph : Graph}

private theorem registered_picture : graph.picture.Registered ↔
    ∀ (index : String) (entries : NodeIndex), graph.indexes[index]? = some entries →
      ∀ key value, ∀ node ∈ entries.nodesAt key value, graph.hasNode node = true := by
  constructor
  · intro registered index entries found key value node member
    rw [← picture_nodes_ne_none]
    refine registered index entries.contents ?_ ⟨key, value, node⟩ member
    rw [picture_indexes, found, Option.map_some]
  · intro registered index entries found entry member
    rw [picture_indexes, Option.map_eq_some_iff] at found
    rcases found with ⟨kept, there, rfl⟩
    rw [picture_nodes_ne_none]
    exact registered index kept there entry.key entry.value entry.node member

private theorem filled_changeIndex {change : NodeIndex → NodeIndex} {index : String}
    (keeps : ∀ entries : NodeIndex, entries.Filled → (change entries).Filled)
    (filled : ∀ (index : String) (entries : NodeIndex), graph.indexes[index]? = some entries →
      entries.Filled)
    (other : String) (entries : NodeIndex)
    (found : (graph.changeIndex index change).indexes[other]? = some entries) :
    entries.Filled := by
  rw [changeIndex] at found
  split at found
  · exact filled other entries found
  · rename_i before there
    rcases of_insert found with rfl | old
    · exact keeps before (filled index before there)
    · exact filled other entries old

private theorem filled_perform (write : Write)
    (filled : ∀ (index : String) (entries : NodeIndex), graph.indexes[index]? = some entries →
      entries.Filled)
    (index : String) (entries : NodeIndex)
    (found : (graph.perform write).indexes[index]? = some entries) : entries.Filled := by
  cases write with
  | createNode node =>
      rw [perform] at found
      split at found
      · exact filled index entries found
      · exact filled index entries found
  | setProperty node name value =>
      rw [perform] at found
      split at found
      · exact filled index entries found
      · exact filled index entries found
  | deleteNode node =>
      rw [perform, Std.ExtTreeMap.getElem?_map, Option.map_eq_some_iff] at found
      rcases found with ⟨before, -, rfl⟩
      exact before.filled_purge node
  | indexAdd other node key value =>
      exact filled_changeIndex (fun _ kept => kept.add key value node) filled index entries found
  | indexRemove other node key value =>
      exact filled_changeIndex (fun _ kept => kept.remove key value node) filled index entries found

/-- Writes that pass the check leave a sound graph sound. -/
theorem Sound.performAll (sound : graph.Sound) {writes : List Write}
    (checked : Transaction.checkAll graph {} writes = .ok ()) :
    (graph.performAll writes).Sound where
  registered := by
    apply registered_picture.1
    rw [picture_performAll]
    exact (registered_picture.2 sound.registered).after
      (Transaction.possible_of_checkAll (Transaction.Standing.sound_empty _) checked)
  filled := by
    have kept := sound.filled
    clear checked sound
    induction writes generalizing graph with
    | nil => exact kept
    | cons write writes induction => exact induction (filled_perform write kept)

theorem Sound.createIndex (sound : graph.Sound) (name : String) :
    Sound { graph with indexes := graph.indexes.insert name {} } where
  registered index entries found key value node member := by
    rcases of_insert found with rfl | before
    · simp [NodeIndex.nodesAt] at member
    · exact sound.registered index entries before key value node member
  filled index entries found := by
    rcases of_insert found with rfl | before
    · exact NodeIndex.filled_empty
    · exact sound.filled index entries before

end Graph

end RecordGraph
