import Mathlib.Logic.Function.Basic
import RecordGraph.Graph.Transaction
import RecordGraph.Proofs.Graph.Entry

namespace RecordGraph

/-! Pictures of graphs, and what deeds mean in them. A picture says which nodes exist with which
properties, and which entries the indexes hold, and nothing of how this is kept. -/

/-- What is to be seen of a graph. -/
@[ext] structure Picture where
  nodes : NodeId → Option Properties
  indexes : String → Option (Set Entry)

namespace Graph

def picture (graph : Graph) : Picture where
  nodes node := graph.nodes[node]?
  indexes index := (graph.indexes[index]?).map NodeIndex.contents

theorem picture_nodes (graph : Graph) (node : NodeId) :
    graph.picture.nodes node = graph.nodes[node]? := rfl

theorem picture_indexes (graph : Graph) (index : String) :
    graph.picture.indexes index = (graph.indexes[index]?).map NodeIndex.contents := rfl

theorem picture_nodes_ne_none {graph : Graph} {node : NodeId} :
    graph.picture.nodes node ≠ none ↔ graph.hasNode node = true := by
  rw [picture_nodes, hasNode_eq, Option.isSome_iff_ne_none]

theorem picture_indexes_ne_none {graph : Graph} {index : String} :
    graph.picture.indexes index ≠ none ↔ graph.hasIndex index = true := by
  rw [picture_indexes, hasIndex_eq,
    Option.isSome_iff_ne_none, Ne, Option.map_eq_none_iff]

end Graph

/-! ## Deeds -/

inductive Deed where
  | write (write : Write)
  | createIndex (name : String)
  deriving DecidableEq

namespace Deed

/-- What the deed is done to is there. An index is created only where there is none. -/
def Possible (picture : Picture) : Deed → Prop
  | .write (.createNode _) => True
  | .write (.setProperty node _ _) => picture.nodes node ≠ none
  | .write (.deleteNode node) => picture.nodes node ≠ none
  | .write (.indexAdd index node _ _) => picture.nodes node ≠ none ∧ picture.indexes index ≠ none
  | .write (.indexRemove index _ _ _) => picture.indexes index ≠ none
  | .createIndex name => picture.indexes name = none

def CreatesNew (picture : Picture) : Deed → Prop
  | .write (.createNode node) => picture.nodes node = none
  | _ => True

/-- The picture after a deed. A node is created empty, but a node that exists already is left as it
is. A node is deleted together with its entries in all indexes. -/
def perform (picture : Picture) : Deed → Picture
  | .write (.createNode node) =>
      { picture with
        nodes := Function.update picture.nodes node (some ((picture.nodes node).getD ∅)) }
  | .write (.setProperty node name value) =>
      { picture with
        nodes := Function.update picture.nodes node
          ((picture.nodes node).map fun properties => properties.insert name value) }
  | .write (.deleteNode node) =>
      { nodes := Function.update picture.nodes node none
        indexes := fun index => (picture.indexes index).map fun entries =>
          {entry ∈ entries | entry.node ≠ node} }
  | .write (.indexAdd index node key value) =>
      { picture with
        indexes := Function.update picture.indexes index
          ((picture.indexes index).map fun entries => insert ⟨key, value, node⟩ entries) }
  | .write (.indexRemove index node key value) =>
      { picture with
        indexes := Function.update picture.indexes index
          ((picture.indexes index).map fun entries => entries \ {⟨key, value, node⟩}) }
  | .createIndex name =>
      { picture with indexes := Function.update picture.indexes name (some ∅) }

end Deed

namespace Picture

def after (picture : Picture) (deeds : List Deed) : Picture := deeds.foldl Deed.perform picture

def Throughout (holds : Picture → Deed → Prop) : Picture → List Deed → Prop
  | _, [] => True
  | picture, deed :: deeds => holds picture deed ∧ Throughout holds (deed.perform picture) deeds

@[simp] theorem after_nil (picture : Picture) : picture.after [] = picture := rfl

@[simp] theorem after_cons (picture : Picture) (deed : Deed) (deeds : List Deed) :
    picture.after (deed :: deeds) = (deed.perform picture).after deeds := rfl

theorem after_append (picture : Picture) (first second : List Deed) :
    picture.after (first ++ second) = (picture.after first).after second :=
  List.foldl_append

theorem throughout_append (holds : Picture → Deed → Prop) (picture : Picture)
    (first second : List Deed) :
    picture.Throughout holds (first ++ second) ↔
      picture.Throughout holds first ∧ (picture.after first).Throughout holds second := by
  induction first generalizing picture with
  | nil => simp [Throughout]
  | cons deed deeds induction => simp [Throughout, induction, and_assoc]

end Picture

/-! ## Writes are deeds -/

namespace Graph

private theorem changeIndex_picture (graph : Graph) (index : String)
    (change : NodeIndex → NodeIndex) (meaning : Set Entry → Set Entry)
    (means : ∀ entries : NodeIndex, (change entries).contents = meaning entries.contents) :
    (graph.changeIndex index change).picture =
      { graph.picture with
        indexes := Function.update graph.picture.indexes index
          ((graph.picture.indexes index).map meaning) } := by
  unfold changeIndex
  cases found : graph.indexes[index]? with
  | none =>
      ext1
      · rfl
      · funext other
        by_cases same : other = index
        · subst same
          simp [picture_indexes, found]
        · simp [Function.update_of_ne same]
  | some entries =>
      ext1
      · rfl
      · funext other
        by_cases same : other = index
        · subst same
          simp [picture_indexes, found, means]
        · simp [picture_indexes, Function.update_of_ne same, Std.ExtTreeMap.getElem?_insert,
            Ne.symm same]

private theorem insertNode_picture (graph : Graph) (node : NodeId) (properties : Properties) :
    ({ graph with nodes := graph.nodes.insert node properties } : Graph).picture =
      { graph.picture with
        nodes := Function.update graph.picture.nodes node (some properties) } := by
  ext1
  · funext other
    by_cases same : other = node
    · subst same
      simp [picture_nodes]
    · simp [picture_nodes, Function.update_of_ne same, Std.ExtTreeMap.getElem?_insert,
        Ne.symm same]
  · rfl

theorem picture_perform (graph : Graph) (write : Write) :
    (graph.perform write).picture = (Deed.write write).perform graph.picture := by
  cases write with
  | createNode node =>
      simp only [perform, Deed.perform, hasNode_eq]
      cases found : graph.nodes[node]? with
      | none => simp [insertNode_picture, picture_nodes, found]
      | some properties =>
          simp only [Option.isSome_some, if_true, picture_nodes, found, Option.getD_some]
          rw [← found, ← picture_nodes, Function.update_eq_self]
  | setProperty node name value =>
      simp only [perform, Deed.perform]
      cases found : graph.nodes[node]? with
      | none =>
          simp only [picture_nodes, found, Option.map_none]
          rw [← found, ← picture_nodes, Function.update_eq_self]
      | some properties => simp [insertNode_picture, picture_nodes, found]
  | deleteNode node =>
      ext1
      · funext other
        by_cases same : other = node
        · subst same
          simp [perform, Deed.perform, picture_nodes]
        · simp [perform, Deed.perform, picture_nodes, Function.update_of_ne same,
            Std.ExtTreeMap.getElem?_erase, Ne.symm same]
      · funext index
        cases found : graph.indexes[index]? with
        | none => simp [perform, Deed.perform, picture_indexes, found]
        | some entries => simp [perform, Deed.perform, picture_indexes, found]
  | indexAdd index node key value =>
      exact changeIndex_picture graph index _ (insert ⟨key, value, node⟩)
        fun entries => entries.contents_add key value node
  | indexRemove index node key value =>
      exact changeIndex_picture graph index _ (· \ {⟨key, value, node⟩})
        fun entries => entries.contents_remove key value node

theorem picture_performAll (graph : Graph) (writes : List Write) :
    (graph.performAll writes).picture = graph.picture.after (writes.map .write) := by
  induction writes generalizing graph with
  | nil => rfl
  | cons write writes induction =>
      rw [performAll_cons, induction, picture_perform, List.map_cons, Picture.after_cons]

theorem picture_insertIndex (graph : Graph) (name : String) :
    ({ graph with indexes := graph.indexes.insert name {} } : Graph).picture =
      (Deed.createIndex name).perform graph.picture := by
  ext1
  · rfl
  · funext other
    by_cases same : other = name
    · subst same
      simp [picture_indexes, Deed.perform]
    · simp [picture_indexes, Deed.perform, Function.update_of_ne same,
        Std.ExtTreeMap.getElem?_insert, Ne.symm same]

end Graph

end RecordGraph
