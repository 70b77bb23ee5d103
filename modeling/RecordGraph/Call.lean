import RecordGraph.Graph.Batch
import RecordGraph.Graph.Transaction

namespace RecordGraph

/-! Calls: everything that can be asked of an engine, one at a time, and what each of them
answers. -/

inductive Call where
  | createIndex (name : String)
  | indexGet (index key value : String)
  | indexRange (index : String) (range : IndexRange)
  | nodeProperty (node : NodeId) (name : String)
  | nodeProperties (node : NodeId)
  | beginTransaction
  | stage (transaction : TransactionId) (step : Step)
  | commit (transaction : TransactionId)
  | rollback (transaction : TransactionId)
  | executeBatch (batch : Batch)
  deriving DecidableEq

@[reducible] def Call.Answer : Call → Type
  | .createIndex _ => Unit
  | .indexGet _ _ _ => List NodeId
  | .indexRange _ _ => List NodeId
  | .nodeProperty _ _ => Option PropertyValue
  | .nodeProperties _ => Properties
  | .beginTransaction => TransactionId
  | .stage _ _ => Option NodeId
  | .commit _ => Unit
  | .rollback _ => Unit
  | .executeBatch _ => List (Option NodeId)

namespace Call

def transaction? : Call → Option TransactionId
  | stage id _ => some id
  | commit id => some id
  | rollback id => some id
  | _ => none

def finishes : Call → Bool
  | commit _ => true
  | rollback _ => true
  | _ => false

end Call

end RecordGraph
