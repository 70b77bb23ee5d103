import RecordGraph.Binding.Basic
import RecordGraph.Toml.Document

namespace RecordGraph.Binding

/-! Bindings as TOML documents. -/

/-! ## Reading -/

def unparsable (key : String) : BindingFault := .unparsable ("no usable value for " ++ key)

def itemOr {Setting : Type} (table : Toml.Table) (name : String) (absent : Setting)
    (accept : Toml.Value → Option Setting) : Except BindingFault Setting :=
  match table.find? name with
  | none => .ok absent
  | some (.value value) => match accept value with
      | some setting => .ok setting
      | none => .error (unparsable name)
  | some _ => .error (unparsable name)

def textWith {Setting : Type} (parse : String → Option Setting) : Toml.Value → Option Setting
  | .text value => parse value
  | _ => none

def milliseconds : Toml.Value → Option (Option UInt64)
  | .integer value => if 0 ≤ value then some (some (UInt64.ofNat value.toNat)) else none
  | _ => none

def ofTable (table : Toml.Table) : Except BindingFault Binding := do
  let absent : Binding := {}
  let url ← itemOr table "url" absent.url (textWith some)
  let mode ← itemOr table "mode" absent.mode (textWith Mode.ofName?)
  let scan ← itemOr table "scan" absent.scan (textWith ScanPolicy.ofName?)
  let index ← itemOr table "index" absent.index (textWith some)
  let keyField ← itemOr table "key_field" absent.keyField (textWith some)
  let timeout ← itemOr table "timeout_ms" none milliseconds
  .ok { url, mode, scan, index, keyField, timeout }

def ofToml (document : String) : Except BindingFault Binding :=
  match Toml.read document with
  | none => .error (.unparsable "not a document")
  | some table => do (← ofTable table).validated

/-! ## Writing -/

/-- The binding as a document. Numbers of a document have a sign, so the longest timeouts cannot be
written. -/
def toToml? (binding : Binding) : Option String :=
  let texts := [
    ("url", binding.url), ("mode", binding.mode.name), ("scan", binding.scan.name),
    ("index", binding.index), ("key_field", binding.keyField)]
  let settings := texts.map fun (name, text) => (name, Toml.writeText text)
  match binding.timeout with
  | none => some (Toml.write settings)
  | some timeout =>
      if timeout.toNat < Nat.pow 2 63 then
        some (Toml.write (settings ++ [("timeout_ms", Nat.toDigits 10 timeout.toNat)]))
      else none

end RecordGraph.Binding
