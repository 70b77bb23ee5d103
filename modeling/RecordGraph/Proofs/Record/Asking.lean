import RecordGraph.Proofs.Dialogue
import RecordGraph.Record.Operation

namespace RecordGraph

/-! What the operations on records ask of an engine. In a transaction of their own they only stage
steps, outside of one they only read, and of the indexes they use only the one that holds the
keys. -/

namespace Call

def reads : Call → Bool
  | indexGet _ _ _ => true
  | indexRange _ _ => true
  | nodeProperty _ _ => true
  | nodeProperties _ => true
  | _ => false

def StagesIn (transaction : TransactionId) (call : Call) : Prop :=
  ∃ step, call = .stage transaction step

end Call

open Dialogue

namespace KeyIndex

variable {keys : KeyIndex} {transaction : TransactionId} {node : NodeId}

def Uses (keys : KeyIndex) : Call → Prop
  | .createIndex _ => False
  | .indexGet index _ _ => index = keys.index
  | .indexRange index _ => index = keys.index
  | _ => True

def Consults (keys : KeyIndex) (call : Call) : Prop := call.reads = true ∧ keys.Uses call

/-! ## Reading -/

theorem asks_lookup (key : String) (keys : KeyIndex) : (keys.lookup key).Asks keys.Consults :=
  (asks_ask ⟨rfl, rfl⟩).bind fun _ => trivial

theorem asks_range (start : String) (limit : UInt64) (keys : KeyIndex) :
    (keys.range start limit).Asks keys.Consults := by
  unfold range
  split
  · trivial
  · exact asks_ask ⟨rfl, rfl⟩

private theorem asks_getField (node : NodeId) (name : String) (keys : KeyIndex) :
    (getField node name).Asks keys.Consults := by
  refine (asks_ask ⟨rfl, trivial⟩).bind ?_
  rintro (_ | value)
  · trivial
  · trivial

theorem asks_readFields (node : NodeId) (selection : FieldSelection) (keys : KeyIndex) :
    (keys.readFields node selection).Asks keys.Consults := by
  cases selection with
  | nothing => trivial
  | all => exact (asks_ask ⟨rfl, trivial⟩).bind fun _ => trivial
  | requested names =>
      refine Asks.bind ?_ fun _ => trivial
      exact .forEach fun name _ => (asks_getField node name keys).bind fun _ => trivial

/-! ## Writing in a transaction -/

theorem asks_stage (step : Step) : (stage transaction step).Asks (·.StagesIn transaction) :=
  .stage ⟨step, rfl⟩

theorem asks_createNode (transaction : TransactionId) :
    (createNode transaction).Asks (·.StagesIn transaction) := by
  refine (asks_ask ⟨.createNode, rfl⟩).bind ?_
  rintro (_ | node)
  · trivial
  · trivial

theorem asks_writeFields (node : NodeId) (fields : FieldMap) :
    (writeFields transaction node fields).Asks (·.StagesIn transaction) :=
  (Asks.forEach fun _ _ => asks_stage _).bind fun _ => trivial

theorem asks_register (node : NodeId) (key : String) (keys : KeyIndex) :
    (keys.register transaction node key).Asks (·.StagesIn transaction) :=
  (asks_stage _).bind fun _ => asks_stage _

theorem asks_refresh (node : NodeId) (key : String) (keys : KeyIndex) :
    (keys.refresh transaction node key).Asks (·.StagesIn transaction) :=
  (asks_stage _).bind fun _ => asks_stage _

/-! ## Changing records -/

/-- The dialogue does what it does in a transaction of its own, by staging steps in it. -/
def Encloses {Result : Type} (dialogue : Dialogue Result) : Prop :=
  ∃ body : TransactionId → Dialogue Result, dialogue = inTransaction body ∧
    ∀ transaction, (body transaction).Asks (·.StagesIn transaction)

theorem encloses_insertStepwise (key : String) (fields : FieldMap) (keys : KeyIndex) :
    Encloses (keys.insertStepwise key fields) :=
  ⟨_, rfl, fun transaction => (asks_createNode transaction).bind fun _ =>
    (asks_register _ key keys).bind fun _ => asks_writeFields _ fields⟩

theorem encloses_updateNode (node : NodeId) (key : String) (fields : FieldMap)
    (keys : KeyIndex) : Encloses (keys.updateNode node key fields) :=
  ⟨_, rfl, fun _ => (asks_writeFields node fields).bind fun _ => asks_refresh node key keys⟩

theorem encloses_deleteNode (node : NodeId) (key : String) (keys : KeyIndex) :
    Encloses (keys.deleteNode node key) :=
  ⟨_, rfl, fun _ => (asks_stage _).bind fun _ => asks_stage _⟩

theorem Encloses.uses {Result : Type} {dialogue : Dialogue Result} (encloses : Encloses dialogue)
    (keys : KeyIndex) : dialogue.Asks keys.Uses := by
  rcases encloses with ⟨body, rfl, asks⟩
  refine asks_inTransaction trivial (fun _ => ⟨trivial, trivial⟩) fun transaction => ?_
  apply (asks transaction).mono
  rintro call ⟨step, rfl⟩
  trivial

theorem Encloses.writes {Result : Type} {dialogue : Dialogue Result}
    (encloses : Encloses dialogue) : dialogue.Asks (·.reads = false) := by
  rcases encloses with ⟨body, rfl, asks⟩
  refine asks_inTransaction rfl (fun _ => ⟨rfl, rfl⟩) fun transaction => ?_
  apply (asks transaction).mono
  rintro call ⟨step, rfl⟩
  rfl

end KeyIndex

theorem asks_provisionIndex (index : String) :
    (provisionIndex index).Asks (· = .createIndex index) := by
  have asked : (ask (.createIndex index)).Asks (· = .createIndex index) := asks_ask rfl
  refine asked.attempt.bind fun outcome => ?_
  split
  all_goals trivial

/-! ## Whole operations -/

namespace Record

open KeyIndex

variable {binding : Binding}

theorem asks_withNode {Result : Type} {key : String} {action : NodeId → Dialogue Result}
    (asks : ∀ node, (action node).Asks binding.keys.Uses) :
    (withNode key binding action).Asks binding.keys.Uses := by
  refine ((asks_lookup key binding.keys).mono fun _ consults => consults.2).bind ?_
  rintro (_ | node)
  · trivial
  · exact (asks node).bind fun _ => trivial

theorem asks_insert (key : String) (fields : FieldMap) :
    (insert key fields binding).Asks binding.keys.Uses := by
  unfold insert insertNode
  split
  · exact (encloses_insertStepwise key fields _).uses _
  · exact (encloses_insertStepwise key fields _).uses _
  · exact (asks_ask trivial).bind fun _ => trivial

theorem consults_read (key : String) (requested : Option FieldSet) :
    (read key requested binding).Asks binding.keys.Consults := by
  refine (asks_lookup key binding.keys).bind ?_
  rintro (_ | node)
  · trivial
  · exact (asks_readFields node _ _).bind fun _ => trivial

theorem asks_update (key : String) (fields : FieldMap) :
    (update key fields binding).Asks binding.keys.Uses :=
  (asks_withNode fun node => (encloses_updateNode node key fields _).uses _).bind fun _ => trivial

theorem asks_delete (key : String) : (delete key binding).Asks binding.keys.Uses :=
  (asks_withNode fun node => (encloses_deleteNode node key _).uses _).bind fun _ => trivial

theorem consults_scan (start : String) (count : UInt64) (requested : Option FieldSet) :
    (scan start count requested binding).Asks binding.keys.Consults := by
  unfold scan
  split
  · trivial
  · refine (asks_range start count _).bind fun nodes => ?_
    exact .forEach fun node _ => asks_readFields node _ _

end Record

end RecordGraph
