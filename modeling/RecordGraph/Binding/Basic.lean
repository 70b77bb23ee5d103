import Std.Data.ExtTreeMap
import RecordGraph.Binding.Mode
import RecordGraph.Text.Decimal
import RecordGraph.Value

namespace RecordGraph

/-! Bindings: everything that a client needs in order to reach its store. -/

structure Binding where
  /-- The directory of an embedded store, or the address of a remote engine. -/
  url : String := "data/graphbench"
  mode : Mode := .embedded
  scan : ScanPolicy := .indexRange
  /-- The index that holds the record keys. -/
  index : String := "node_index"
  /-- The property under which a record keeps its key. -/
  keyField : String := "_id"
  /-- How long a remote request may take, in milliseconds. -/
  timeout : Option UInt64 := none
  deriving DecidableEq, Repr

namespace Binding

/-! ## Building -/

def embedded (path : String) : Binding := { url := path }

def remote (url : String) : Binding := { url, mode := .remote }

def remoteBatch (url : String) : Binding := { url, mode := .remoteBatch }

def withScan (scan : ScanPolicy) (binding : Binding) : Binding := { binding with scan }

def withTimeout (microseconds : Nat) (binding : Binding) : Binding :=
  { binding with timeout := some (UInt64.ofNat (microseconds / 1000)) }

/-! ## Validation -/

def isWebAddress (url : String) : Bool := url.startsWith "http://" || url.startsWith "https://"

def validate (binding : Binding) : Except BindingFault Unit :=
  if (Text.trim binding.url).isEmpty then .error (.missing "url")
  else if binding.index.isEmpty then .error (.missing "index")
  else if binding.keyField.isEmpty then .error (.missing "key_field")
  else if binding.mode.isRemote && !isWebAddress binding.url then
    .error (.invalidValue "url" binding.url)
  else .ok ()

theorem named_of_valid {binding : Binding} (valid : binding.validate = .ok ()) :
    binding.index ≠ "" ∧ binding.keyField ≠ "" ∧ Text.trim binding.url ≠ "" := by
  rw [validate] at valid
  split at valid
  · cases valid
  split at valid
  · cases valid
  split at valid
  · cases valid
  · rename_i url index keyField
    exact ⟨by simpa using index, by simpa using keyField, by simpa using url⟩

def validated (binding : Binding) : Except BindingFault Binding := do
  binding.validate
  .ok binding

/-! ## Reading from properties -/

def propertyDomain : String := "graph."

def property? (properties : NameMap String) (name : String) : Option String :=
  match properties[propertyDomain ++ name]? with
  | none => none
  | some value =>
      let trimmed := Text.trim value
      if trimmed.isEmpty then none else some trimmed

def parseTimeout (text : String) : Except BindingFault UInt64 :=
  match Decimal.word? text with
  | some milliseconds => .ok milliseconds
  | none => .error (.invalidValue "timeout_ms" text)

def propertyOr {Setting : Type} (properties : NameMap String) (name : String) (absent : Setting)
    (parse : String → Except BindingFault Setting) : Except BindingFault Setting :=
  match property? properties name with
  | none => .ok absent
  | some text => parse text

/-- A valid binding from properties. What is not set stays as it is by default, and other
properties do not matter. -/
def ofProperties (properties : NameMap String) : Except BindingFault Binding := do
  let absent : Binding := {}
  let url ← propertyOr properties "url" absent.url .ok
  let mode ← propertyOr properties "mode" absent.mode Mode.parse
  let scan ← propertyOr properties "scan" absent.scan ScanPolicy.parse
  let index ← propertyOr properties "index" absent.index .ok
  let keyField ← propertyOr properties "key_field" absent.keyField .ok
  let timeout ← propertyOr properties "timeout_ms" none fun text => (parseTimeout text).map some
  validated { url, mode, scan, index, keyField, timeout }

end Binding

end RecordGraph
