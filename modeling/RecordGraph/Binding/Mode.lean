import RecordGraph.Text.Blank

namespace RecordGraph

/-! How a client reaches its store, and what it does when asked to scan. Both are chosen by name in
a configuration. -/

inductive BindingFault where
  | missing (key : String)
  | invalidValue (key value : String)
  /-- The document is not in order. -/
  | unparsable (cause : String)
  /-- The file cannot be read. -/
  | unreadable (path cause : String)
  deriving DecidableEq, Repr

namespace BindingFault

def message : BindingFault → String
  | missing key => "'" ++ key ++ "' must be set"
  | invalidValue key value => "'" ++ value ++ "' is not a valid " ++ key
  | unparsable cause => "failed to parse binding config: " ++ cause
  | unreadable path cause => "failed to read binding config " ++ path ++ ": " ++ cause

end BindingFault

inductive Mode where
  /-- An engine of the same process, shared by its clients. -/
  | embedded
  /-- An engine behind a service, one request for each step. -/
  | remote
  /-- An engine behind a service, inserts in one request. -/
  | remoteBatch
  deriving DecidableEq, Repr

namespace Mode

def isRemote : Mode → Bool
  | embedded => false
  | remote => true
  | remoteBatch => true

def name : Mode → String
  | embedded => "EMBEDDED"
  | remote => "REMOTE"
  | remoteBatch => "REMOTE_BATCH"

def ofName? (text : String) : Option Mode :=
  match Text.toUpperAscii (Text.trim text) with
  | "EMBEDDED" => some embedded
  | "REMOTE" => some remote
  | "REST" => some remote
  | "REMOTE_BATCH" => some remoteBatch
  | "BATCH" => some remoteBatch
  | _ => none

def parse (text : String) : Except BindingFault Mode :=
  match ofName? text with
  | some mode => .ok mode
  | none => .error (.invalidValue "mode" text)

theorem ofName?_name (mode : Mode) : ofName? mode.name = some mode := by
  cases mode <;> decide

theorem parse_name (mode : Mode) : parse mode.name = .ok mode := by
  rw [parse, ofName?_name]

theorem trim_name (mode : Mode) : Text.trim mode.name = mode.name := by
  cases mode <;> decide

theorem name_ne_empty (mode : Mode) : mode.name ≠ "" := by
  cases mode <;> decide

end Mode

inductive ScanPolicy where
  /-- It lists records by their keys. -/
  | indexRange
  /-- It is refused. -/
  | unsupported
  deriving DecidableEq, Repr

namespace ScanPolicy

def name : ScanPolicy → String
  | indexRange => "index_range"
  | unsupported => "unsupported"

def ofName? (text : String) : Option ScanPolicy :=
  match Text.toLowerAscii (Text.trim text) with
  | "index_range" => some indexRange
  | "range" => some indexRange
  | "unsupported" => some unsupported
  | "none" => some unsupported
  | _ => none

def parse (text : String) : Except BindingFault ScanPolicy :=
  match ofName? text with
  | some policy => .ok policy
  | none => .error (.invalidValue "scan" text)

theorem ofName?_name (policy : ScanPolicy) : ofName? policy.name = some policy := by
  cases policy <;> decide

theorem parse_name (policy : ScanPolicy) : parse policy.name = .ok policy := by
  rw [parse, ofName?_name]

theorem trim_name (policy : ScanPolicy) : Text.trim policy.name = policy.name := by
  cases policy <;> decide

theorem name_ne_empty (policy : ScanPolicy) : policy.name ≠ "" := by
  cases policy <;> decide

end ScanPolicy

end RecordGraph
