import RecordGraph.Proofs.Crowd.Course
import RecordGraph.Proofs.Crowd.Room

namespace RecordGraph

/-! Readers of a record while others update it. An update takes the key of the record out of the
index and enters it again, and it writes one field after another; no reader ever notices. -/

namespace Exchange

def commits (exchange : Exchange) : Bool :=
  match exchange.call with
  | .commit id => (exchange.engine.commit id).1.isOk
  | _ => false

def update? (exchange : Exchange) : Option FieldMap :=
  match exchange.asker with
  | .task _ (.update _ fields) => if exchange.commits then some fields else none
  | _ => none

end Exchange

def updates (history : List Exchange) : List FieldMap := history.filterMap (·.update?)

theorem updates_append (history : List Exchange) (exchange : Exchange) :
    updates (history ++ [exchange]) = updates history ++ exchange.update?.toList := by
  rw [updates, List.filterMap_append]
  cases asked : exchange.update? <;> simp [updates, asked]

namespace Engine

variable {engine : Engine} {keys : KeyIndex} {key : String} {node : NodeId}
  {properties : Properties}

structure Shows (keys : KeyIndex) (key : String) (node : NodeId) (others : List NodeId)
    (properties : Properties) (engine : Engine) : Prop where
  nodes : (engine.perform (.indexGet keys.index keys.keyField key)).1 = .ok (node :: others)
  properties : (engine.perform (.nodeProperties node)).1 = .ok properties

theorem perform_indexGet (isOpen : engine.isClosed = false)
    (there : engine.graph.hasIndex keys.index = true) :
    (engine.perform (.indexGet keys.index keys.keyField key)).1 =
      .ok (engine.graph.nodesUnder keys key).toList := by
  rw [Graph.hasIndex_eq, Option.isSome_iff_exists] at there
  rcases there with ⟨entries, found⟩
  simp [perform, readIndex, isOpen, Graph.nodesUnder, NodeIndex.get, found]

theorem perform_nodeProperties (isOpen : engine.isClosed = false)
    (found : engine.graph.nodes[node]? = some properties) :
    (engine.perform (.nodeProperties node)).1 = .ok properties := by
  simp [perform, readNode, isOpen, found]

end Engine

theorem Graph.hasIndex_of_nodesUnder {graph : Graph} {keys : KeyIndex} {key : String}
    {node : NodeId} (member : node ∈ graph.nodesUnder keys key) :
    graph.hasIndex keys.index = true := by
  rw [hasIndex_eq]
  cases found : graph.indexes[keys.index]? with
  | none => simp [nodesUnder, found] at member
  | some entries => rfl

namespace Crowd

def Move.Updates (keys : KeyIndex) (key : String) : Move → Prop
  | .start binding (.update own _) => binding.keys = keys ∧ own = key
  | .start _ (.read _ _ _) => True
  | .start _ (.scan _ _ _ _) => True
  | .start _ _ => False
  | .advance _ => True
  | .read _ => True

instance (keys : KeyIndex) (key : String) : DecidablePred (Move.Updates keys key)
  | .start binding (.update own _) => inferInstanceAs (Decidable (binding.keys = keys ∧ own = key))
  | .start _ (.read _ _ _) => .isTrue trivial
  | .start _ (.scan _ _ _ _) => .isTrue trivial
  | .start _ (.insert _ _) => .isFalse id
  | .start _ (.delete _) => .isFalse id
  | .advance _ => .isTrue trivial
  | .read _ => .isTrue trivial

/-! ## The record -/

/-- The record is open to readers, and was at every moment before, with the updates committed until
then. -/
structure Shown (keys : KeyIndex) (key : String) (node : NodeId) (others : List NodeId)
    (initial : Properties) (engine : Engine) (history : List Exchange) : Prop where
  isOpen : engine.isClosed = false
  nodes : (engine.graph.nodesUnder keys key).toList = node :: others
  record : engine.graph.nodes[node]? = some ((updates history).foldl Graph.cover initial)
  before : ∀ before exchange after, history = before ++ exchange :: after →
    exchange.engine.Shows keys key node others ((updates before).foldl Graph.cover initial)

namespace Shown

variable {keys : KeyIndex} {key : String} {node : NodeId} {others : List NodeId}
  {initial : Properties} {engine : Engine} {history : List Exchange}

theorem member (shown : Shown keys key node others initial engine history) :
    node ∈ engine.graph.nodesUnder keys key := by
  rw [← Std.ExtTreeSet.mem_toList, shown.nodes]
  exact List.mem_cons_self

theorem shows (shown : Shown keys key node others initial engine history) :
    engine.Shows keys key node others ((updates history).foldl Graph.cover initial) where
  nodes := by
    rw [← shown.nodes]
    exact Engine.perform_indexGet shown.isOpen (Graph.hasIndex_of_nodesUnder shown.member)
  properties := Engine.perform_nodeProperties shown.isOpen shown.record

theorem append_before (shown : Shown keys key node others initial engine history)
    {asker : Asker} {call : Call} {before : List Exchange} {exchange : Exchange}
    {after : List Exchange}
    (split : history ++ [⟨asker, engine, call⟩] = before ++ exchange :: after) :
    exchange.engine.Shows keys key node others ((updates before).foldl Graph.cover initial) := by
  rcases List.eq_nil_or_concat after with rfl | ⟨earlier, last, rfl⟩
  · rcases List.append_inj' split rfl with ⟨rfl, same⟩
    rw [← List.head_eq_of_cons_eq same]
    exact shown.shows
  · refine shown.before before exchange earlier ?_
    rw [List.concat_eq_append, ← List.cons_append, ← List.append_assoc] at split
    exact (List.append_inj' split rfl).1

/-- A call either leaves the graph alone or commits an update of the record as a whole. -/
theorem append (shown : Shown keys key node others initial engine history) {asker : Asker}
    {call : Call}
    (either : (⟨asker, engine, call⟩ : Exchange).update? = none ∧
        (engine.perform call).2.graph = engine.graph ∨
      ∃ fields, (⟨asker, engine, call⟩ : Exchange).update? = some fields ∧
        (engine.perform call).2.graph = engine.graph.performAll (keys.change node key fields)) :
    Shown keys key node others initial (engine.perform call).2
      (history ++ [⟨asker, engine, call⟩]) := by
  have isOpen := (engine.frame_perform call).2.trans shown.isOpen
  rcases either with ⟨none_, same⟩ | ⟨fields, some_, same⟩
  · refine ⟨isOpen, ?_, ?_, fun before exchange after split => shown.append_before split⟩
    · rw [same]
      exact shown.nodes
    · rw [same, updates_append, none_, Option.toList_none, List.append_nil]
      exact shown.record
  · rcases keys.performAll_change (Graph.hasIndex_of_nodesUnder shown.member) shown.member
      shown.record fields with ⟨-, nodes, under⟩
    refine ⟨isOpen, ?_, ?_, fun before exchange after split => shown.append_before split⟩
    · rw [same, under]
      exact shown.nodes
    · rw [same, nodes, if_pos rfl, updates_append, some_, List.foldl_append]
      rfl

end Shown

theorem update?_of_idle {exchange : Exchange} (idle : exchange.commits = false) :
    exchange.update? = none := by
  rw [Exchange.update?]
  split
  · rw [idle]
    rfl
  · rfl

/-! ## Those at work -/

def Serves (keys : KeyIndex) (key : String) : Task → Prop
  | ⟨binding, .update own _, _⟩ => binding.keys = keys ∧ own = key
  | ⟨_, _, rest⟩ => rest.Asks (·.reads = true)

variable {keys : KeyIndex} {key : String} {node : NodeId} {others : List NodeId}
  {initial : Properties} {crowd : Crowd}

open Dialogue in
theorem serves_start {binding : Binding} {errand : Errand}
    (allowed : (Move.start binding errand).Updates keys key) :
    Serves keys key ⟨binding, errand, errand.dialogue binding⟩ := by
  cases errand with
  | update own fields => exact allowed
  | read own requested into => exact (Record.consults_read own requested).mono fun _ asks => asks.1
  | scan start count requested into =>
      exact (Record.consults_scan start count requested).mono fun _ asks => asks.1
  | insert own fields => cases allowed
  | delete own => cases allowed

theorem serves_answered {binding : Binding} {errand : Errand} {call : Call}
    {next : Except Failure call.Answer → Dialogue errand.Result}
    (serves : Serves keys key ⟨binding, errand, .asking call next⟩)
    (answer : Except Failure call.Answer) : Serves keys key ⟨binding, errand, next answer⟩ := by
  cases errand with
  | update own fields => exact serves
  | _ => exact serves.2 answer

theorem Shown.looked (shown : Shown keys key node others initial crowd.engine crowd.history)
    {fields : FieldMap} {asker : Asker} {found : NodeId}
    (looked : Looked (.update keys key fields) asker found crowd.history) : found = node := by
  rcases looked with ⟨engine, rest, member, answer⟩
  rcases List.append_of_mem member with ⟨before, after, split⟩
  have nodes := (shown.before before _ after split).nodes
  exact (List.cons.inj (Except.ok.inj (answer.symm.trans nodes))).1

theorem Shown.reads (shown : Shown keys key node others initial crowd.engine crowd.history)
    (asker : Asker) {call : Call} (reads : call.reads = true) :
    Shown keys key node others initial (crowd.engine.perform call).2
      (crowd.history ++ [⟨asker, crowd.engine, call⟩]) := by
  refine shown.append (.inl ⟨update?_of_idle ?_, by rw [Engine.perform_reads reads]⟩)
  cases call with
  | commit id => cases reads
  | _ => rfl

theorem Shown.course (shown : Shown keys key node others initial crowd.engine crowd.history)
    {number : Nat} {fields : FieldMap} {call : Call}
    {next : Except Failure call.Answer → Dialogue Bool}
    (course : Course (.update keys key fields) (.task number (.update key fields)) crowd.engine
      crowd.history (.asking call next)) :
    Shown keys key node others initial (crowd.engine.perform call).2
      (crowd.history ++ [⟨.task number (.update key fields), crowd.engine, call⟩]) := by
  apply shown.append
  cases changes : call.changes with
  | false =>
      refine .inl ⟨update?_of_idle ?_, ?_⟩
      · cases call with
        | commit id => cases changes
        | _ => rfl
      · rcases crowd.engine.graph_perform call with same | ⟨changed, -⟩
        · exact same
        · exact absurd (changes.symm.trans changed) Bool.false_ne_true
  | true =>
      rcases course.commit_of_changes rfl changes with
        ⟨id, found, transaction, rfl, looked, open_, writes⟩
      rcases crowd.engine.commit_cases open_ with ⟨failure, outcome⟩ | ⟨-, outcome⟩
      · refine .inl ⟨update?_of_idle ?_, ?_⟩
        · simp [Exchange.commits, outcome, Except.isOk, Except.toBool]
        · rw [Engine.perform, outcome]
          rfl
      · refine .inr ⟨fields, ?_, ?_⟩
        · simp [Exchange.update?, Exchange.commits, outcome, Except.isOk, Except.toBool]
        · rw [Engine.perform, outcome, writes, Change.writes_update, shown.looked looked]

/-! ## The crowd -/

/-- Everyone is at an update of the record or reads, and the record is shown to all. -/
structure Serving (keys : KeyIndex) (key : String) (node : NodeId) (others : List NodeId)
    (initial : Properties) (crowd : Crowd) : Prop where
  apart : Apart crowd
  orderly : Orderly crowd
  shown : Shown keys key node others initial crowd.engine crowd.history
  serves : ∀ (number : Nat) (task : Task), crowd.tasks[number]? = some task → Serves keys key task

theorem Serving.step (serving : Serving keys key node others initial crowd) {move : Move}
    (allowed : move.Updates keys key) (fresh : crowd.Fresh) {later : Crowd}
    (steps : Steps crowd move later) : Serving keys key node others initial later := by
  have apart := serving.apart.step fresh steps
  have orderly := serving.orderly.step serving.apart fresh steps
  cases steps with
  | idle => exact serving
  | start binding errand =>
      refine ⟨apart, orderly, serving.shown, fun number task found => ?_⟩
      rcases of_getElem?_append found with before | ⟨-, rfl⟩
      · exact serving.serves number task before
      · exact serves_start allowed
  | read call =>
      exact ⟨apart, orderly, serving.shown.reads .reader call.2, serving.serves⟩
  | advance number binding errand call next found =>
      have serves := serving.serves number _ found
      refine ⟨apart, orderly, ?_, fun other task standing => ?_⟩
      · cases errand with
        | update own fields =>
            rcases serves with ⟨rfl, rfl⟩
            exact serving.shown.course (serving.orderly.course number _ found)
        | _ => exact serving.shown.reads _ serves.1
      · rcases of_set standing with ⟨-, rfl⟩ | ⟨-, before⟩
        · exact serves_answered serves _
        · exact serving.serves other task before

/-- Whatever is done by any number of updates of a record, and whenever anyone looks: the key leads
to the same nodes as in the beginning, and the first of them has what it had in the beginning,
overwritten with all fields of all updates that have been committed by then. -/
theorem run_shows {engine : Engine} (isOpen : engine.isClosed = false)
    (nodes : (engine.graph.nodesUnder keys key).toList = node :: others)
    (record : engine.graph.nodes[node]? = some initial) {moves : List Move}
    (allowed : ∀ move ∈ moves, move.Updates keys key)
    (fresh : Throughout (fun crowd _ => crowd.Fresh) moves { engine }) :
    let crowd := Crowd.run moves { engine }
    (∀ before exchange after, crowd.history = before ++ exchange :: after →
        exchange.engine.Shows keys key node others ((updates before).foldl Graph.cover initial)) ∧
      crowd.engine.Shows keys key node others
        ((updates crowd.history).foldl Graph.cover initial) := by
  intro crowd
  have outset : Serving keys key node others initial { engine } := {
    apart := apart_nil engine
    orderly := orderly_nil engine
    shown := {
      isOpen
      nodes
      record
      before := fun before exchange after split => by simp at split }
    serves := fun number task found => by simp at found }
  have serving : Serving keys key node others initial crowd :=
    run_keeps (fun crowd move both serving => serving.step both.2 both.1 (crowd.steps_step move))
      (fresh.join (throughout_of_forall allowed) fun _ _ => And.intro) outset
  exact ⟨serving.shown.before, serving.shown.shows⟩

def stocked : Engine :=
  ((Record.insert "k" ((∅ : FieldMap).insert "a" [0]) {}).run Engine.perform
    (Engine.inMemory.createIndex "node_index").2).2

/-- Three update the record at the same time, the last of them a field that has no name, and a
reader looks at it now and then. -/
def race : List Move :=
  let lookup : Move := .read ⟨.indexGet "node_index" "_id" "k", rfl⟩
  let look : Move := .read ⟨.nodeProperties 1, rfl⟩
  let both : FieldMap := ((∅ : FieldMap).insert "a" [1]).insert "b" [1]
  [.start {} (.update "k" both), .start {} (.update "k" ((∅ : FieldMap).insert "a" [2])),
    .start {} (.update "k" ((∅ : FieldMap).insert "" [3]))] ++
    onwards [0, 1, 2, 0, 1, 2, 0, 1, 2, 0] ++ [look] ++ onwards [1, 2, 0] ++ [lookup] ++
    onwards [1, 0, 1] ++ [lookup, look] ++ onwards [0] ++ [look]

/-- The second update is committed first, although the first one has begun before. -/
theorem run_shows_race :
    let crowd := Crowd.run race { engine := stocked }
    updates crowd.history = [(∅ : FieldMap).insert "a" [2],
        ((∅ : FieldMap).insert "a" [1]).insert "b" [1]] ∧
      crowd.engine.Shows {} "k" 1 []
        ((((∅ : Properties).insert "_id" (.text "k")).insert "a" (.bytes [1])).insert "b"
          (.bytes [1])) := by
  intro crowd
  let initial : Properties := ((∅ : Properties).insert "_id" (.text "k")).insert "a" (.bytes [0])
  have committed : updates crowd.history = [(∅ : FieldMap).insert "a" [2],
      ((∅ : FieldMap).insert "a" [1]).insert "b" [1]] := by decide +kernel
  have isOpen : stocked.isClosed = false := by decide +kernel
  have nodes : (stocked.graph.nodesUnder {} "k").toList = [1] := by decide +kernel
  have record : stocked.graph.nodes[(1 : NodeId)]? = some initial := by decide +kernel
  have none_ : stocked.transactions = ∅ := by decide +kernel
  have fresh : Throughout (fun crowd _ => crowd.Fresh) race { engine := stocked } := by
    refine fresh_of_few (fun id member => ?_) (by decide +kernel)
    rw [none_] at member
    exact absurd member Std.ExtTreeMap.not_mem_empty
  have shows := (run_shows isOpen nodes record (by decide +kernel) fresh).2
  have covered : (updates crowd.history).foldl Graph.cover initial =
      (((∅ : Properties).insert "_id" (.text "k")).insert "a" (.bytes [1])).insert "b"
        (.bytes [1]) := by
    rw [committed]
    decide +kernel
  exact ⟨committed, covered ▸ shows⟩

end Crowd

end RecordGraph
