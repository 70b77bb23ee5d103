import RecordGraph.Failure
import RecordGraph.Graph.Index

namespace RecordGraph

/-! Graphs of nodes with properties, found through named indexes, and the writes that change
them. -/

structure Graph where
  nodes : Std.ExtTreeMap NodeId Properties compare := ∅
  indexes : NameMap NodeIndex := ∅
  deriving DecidableEq

inductive Write where
  | createNode (node : NodeId)
  | setProperty (node : NodeId) (name : String) (value : PropertyValue)
  | deleteNode (node : NodeId)
  | indexAdd (index : String) (node : NodeId) (key value : String)
  | indexRemove (index : String) (node : NodeId) (key value : String)
  deriving DecidableEq, Repr

namespace Graph

def hasNode (graph : Graph) (node : NodeId) : Bool := graph.nodes.contains node

def hasIndex (graph : Graph) (index : String) : Bool := graph.indexes.contains index

theorem hasNode_eq (graph : Graph) (node : NodeId) :
    graph.hasNode node = graph.nodes[node]?.isSome :=
  Std.ExtTreeMap.contains_eq_isSome_getElem?

theorem hasIndex_eq (graph : Graph) (index : String) :
    graph.hasIndex index = graph.indexes[index]?.isSome :=
  Std.ExtTreeMap.contains_eq_isSome_getElem?

def changeIndex (index : String) (change : NodeIndex → NodeIndex) (graph : Graph) : Graph :=
  match graph.indexes[index]? with
  | none => graph
  | some entries => { graph with indexes := graph.indexes.insert index (change entries) }

/-- The graph after one write. A write whose node or index does not exist changes nothing. A deleted
node leaves every index. -/
def perform (graph : Graph) : Write → Graph
  | .createNode node =>
      if graph.hasNode node then graph else { graph with nodes := graph.nodes.insert node ∅ }
  | .setProperty node name value =>
      match graph.nodes[node]? with
      | none => graph
      | some properties =>
          { graph with nodes := graph.nodes.insert node (properties.insert name value) }
  | .deleteNode node =>
      { nodes := graph.nodes.erase node
        indexes := graph.indexes.map fun _ entries => entries.purge node }
  | .indexAdd index node key value => graph.changeIndex index (·.add key value node)
  | .indexRemove index node key value => graph.changeIndex index (·.remove key value node)

def performAll (graph : Graph) (writes : List Write) : Graph := writes.foldl perform graph

@[simp] theorem performAll_nil (graph : Graph) : graph.performAll [] = graph := rfl

@[simp] theorem performAll_cons (graph : Graph) (write : Write) (writes : List Write) :
    graph.performAll (write :: writes) = (graph.perform write).performAll writes := rfl

theorem performAll_append (graph : Graph) (first second : List Write) :
    graph.performAll (first ++ second) = (graph.performAll first).performAll second := by
  simp [performAll]

end Graph

end RecordGraph
