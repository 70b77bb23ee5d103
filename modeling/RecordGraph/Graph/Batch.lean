import RecordGraph.Value

namespace RecordGraph

/-! Batches: lists of jobs that are done together or not at all. A job may refer to the node that an
earlier job of its batch has created. -/

inductive NodeReference where
  | id (node : NodeId)
  | job (position : UInt64)
  deriving DecidableEq, Repr

inductive Job where
  | createNode (properties : Properties)
  | indexAdd (index : String) (node : NodeReference) (key value : String)
  | setProperty (node : NodeReference) (name : String) (value : PropertyValue)
  deriving DecidableEq

abbrev Batch := List Job

namespace Batch

def push (job : Job) (batch : Batch) : NodeReference × Batch :=
  (.job (UInt64.ofNat batch.length), batch ++ [job])

end Batch

end RecordGraph
