import RecordGraph.Record.Mutation

namespace RecordGraph

/-! What a client does with records, by their keys. -/

open Dialogue

def Binding.keys (binding : Binding) : KeyIndex := ⟨binding.index, binding.keyField⟩

namespace Record

/-- Does something with the oldest record under a key, if there is one. -/
def withNode {Result : Type} (key : String) (binding : Binding)
    (action : NodeId → Dialogue Result) : Dialogue (Option Result) := do
  match ← binding.keys.lookup key with
  | none => pure none
  | some node => do pure (some (← action node))

def insert (key : String) (fields : FieldMap) (binding : Binding) : Dialogue Unit :=
  binding.keys.insertNode binding.mode key fields

def read (key : String) (requested : Option FieldSet) (binding : Binding) :
    Dialogue (Option FieldMap) :=
  withNode key binding fun node =>
    binding.keys.readFields node (.resolve binding.mode requested)

def update (key : String) (fields : FieldMap) (binding : Binding) : Dialogue Bool := do
  let done ← withNode key binding fun node => binding.keys.updateNode node key fields
  pure done.isSome

def delete (key : String) (binding : Binding) : Dialogue Bool := do
  let done ← withNode key binding fun node => binding.keys.deleteNode node key
  pure done.isSome

def scan (start : String) (count : UInt64) (requested : Option FieldSet) (binding : Binding) :
    Dialogue (List FieldMap) :=
  match binding.scan with
  | .unsupported => fail (.unsupported "scan")
  | .indexRange => do
      let nodes ← binding.keys.range start count
      let selection := FieldSelection.resolve binding.mode requested
      forEach (fun node => binding.keys.readFields node selection) nodes

end Record

end RecordGraph
