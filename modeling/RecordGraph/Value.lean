import Std.Data.ExtTreeMap
import Std.Data.ExtTreeSet
import RecordGraph.Text.Utf8
import RecordGraph.Text.Quoted

namespace RecordGraph

/-! The values that records and graphs hold. Names and keys are texts, ordered by their bytes,
which for texts is the order by code points. -/

/-! ## Finite maps and sets

Two maps are equal when they send the same names to the same values, however they were built. -/

abbrev NameMap (Value : Type) := Std.ExtTreeMap String Value compare

abbrev NameSet := Std.ExtTreeSet String compare

/-- The number of a graph node. Numbers are 64-bit words and the one after the last is zero. -/
abbrev NodeId := UInt64

abbrev NodeSet := Std.ExtTreeSet NodeId compare

/-! ## Properties of nodes -/

/-- What a node stores under one name: record keys are texts, record fields are bytes. -/
inductive PropertyValue where
  | text (value : String)
  | bytes (value : Bytes)
  deriving DecidableEq, Repr

abbrev Properties := NameMap PropertyValue

/-! ## Fields of records -/

abbrev FieldMap := NameMap Bytes

instance : DecidableEq FieldMap := inferInstanceAs (DecidableEq (NameMap Bytes))

abbrev FieldSet := NameSet

namespace PropertyValue

def text? : PropertyValue → Option String
  | .text value => some value
  | .bytes _ => none

def toField : PropertyValue → Bytes
  | .text value => Utf8.encode value
  | .bytes value => value

def ofField (field : Bytes) : PropertyValue := .bytes field

end PropertyValue

/-! ## Field values for people to read -/

def describeField (field : Bytes) : String :=
  match Utf8.decode? field with
  | some text => "FieldValue(" ++ Text.quoted text ++ ")"
  | none => "FieldValue(" ++ toString field.length ++ " bytes)"

/-! ## Overlaying maps -/

def overlay {Value : Type} (base above : NameMap Value) : NameMap Value :=
  above.foldl (fun whole name value => whole.insert name value) base

end RecordGraph
