import RecordGraph.Value

namespace RecordGraph

/-! Node indexes. An index registers nodes under pairs of a key and a value. It is kept by key, then
by value, so that the nodes of a range of values can be listed in order. -/

structure NodeIndex where
  entries : NameMap (NameMap NodeSet) := ∅
  deriving DecidableEq

/-- A request for the nodes under one key whose value lies between two texts, both included. -/
structure IndexRange where
  key : String
  lower : String
  upper : String
  /-- How many nodes are wanted at most. -/
  limit : Option UInt64 := none
  deriving DecidableEq, Repr

namespace IndexRange

/-- The text that ends ranges without an upper bound. It is greater than every text whose first
character lies in the basic plane before U+FFFF. -/
def endSentinel : String := "\uFFFF"

def startingAt (key lower : String) : IndexRange := { key, lower, upper := endSentinel }

def withLimit (limit : UInt64) (range : IndexRange) : IndexRange :=
  { range with limit := some limit }

def includes (range : IndexRange) (value : String) : Bool :=
  decide (range.lower ≤ value) && decide (value ≤ range.upper)

end IndexRange

namespace NodeIndex

def nodesAt (index : NodeIndex) (key value : String) : NodeSet :=
  ((index.entries[key]?.getD ∅)[value]?).getD ∅

def add (key value : String) (node : NodeId) (index : NodeIndex) : NodeIndex where
  entries :=
    let values := index.entries[key]?.getD ∅
    let nodes := values[value]?.getD ∅
    index.entries.insert key (values.insert value (nodes.insert node))

def withoutNode (value : String) (node : NodeId) (values : NameMap NodeSet) : NameMap NodeSet :=
  match values[value]? with
  | none => values
  | some nodes =>
      let others := nodes.erase node
      if others.isEmpty then values.erase value else values.insert value others

def remove (key value : String) (node : NodeId) (index : NodeIndex) : NodeIndex :=
  match index.entries[key]? with
  | none => index
  | some values =>
      let others := withoutNode value node values
      if others.isEmpty then { entries := index.entries.erase key }
      else { entries := index.entries.insert key others }

def purge (node : NodeId) (index : NodeIndex) : NodeIndex where
  entries := index.entries.filterMap fun _ values =>
    let others := values.filterMap fun _ nodes =>
      let rest := nodes.erase node
      if rest.isEmpty then none else some rest
    if others.isEmpty then none else some others

def get (index : NodeIndex) (key value : String) : List NodeId := (index.nodesAt key value).toList

/-- The nodes of a range, by value and then in ascending order, up to the limit. -/
def range (index : NodeIndex) (range : IndexRange) : List NodeId :=
  let values := (index.entries[range.key]?.getD ∅).toList
  let found := (values.filter fun (value, _) => range.includes value).flatMap fun (_, nodes) =>
    nodes.toList
  match range.limit with
  | none => found
  | some limit => found.take limit.toNat

example : ((({} : NodeIndex).add "k" "b" 2).add "k" "a" 3).range (.startingAt "k" "") = [3, 2] := by
  decide
example : (({} : NodeIndex).add "k" "v" 1).remove "k" "v" 1 = {} := by decide

end NodeIndex

end RecordGraph
