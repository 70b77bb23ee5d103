import RecordGraph.Proofs.Crowd.Course
import RecordGraph.Proofs.Crowd.Room
import RecordGraph.Proofs.Engine.Retirement

namespace RecordGraph

/-! Deleting records among others at work. A record is looked up before the transaction that changes
it, so it may be gone at any moment after that; still no record is deleted twice, nothing is written
to a record that is gone, and none comes back. -/

namespace Graph

variable {graph : Graph} {node : NodeId}

structure Lacks (node : NodeId) (graph : Graph) : Prop where
  absent : graph.hasNode node = false
  entered : ∀ (index : String) (entries : NodeIndex), graph.indexes[index]? = some entries →
    ∀ key value, node ∉ entries.nodesAt key value

theorem Sound.lacks (sound : graph.Sound) (absent : graph.hasNode node = false) :
    graph.Lacks node :=
  ⟨absent, fun index entries found key value member => Bool.false_ne_true
    (absent.symm.trans (sound.registered index entries found key value node member))⟩

end Graph

def Exchange.Deletes (node : NodeId) (exchange : Exchange) : Prop :=
  ∃ id transaction, exchange.call = .commit id ∧
    exchange.engine.transactions[id]? = some transaction ∧
    .deleteNode node ∈ transaction.writes ∧ (exchange.engine.commit id).1 = .ok ()

namespace Crowd

/-! ## Nodes that are gone -/

/-- Numbers of nodes are used once only, indexes lead to nodes only, and what has been deleted has
been gone ever since. -/
structure Final (engine : Engine) (history : List Exchange) : Prop where
  numbered : engine.Numbered
  sound : engine.graph.Sound
  sounds : ∀ exchange ∈ history, exchange.engine.graph.Sound
  gone : ∀ (position : Nat) (deletion : Exchange) (node : NodeId),
    history[position]? = some deletion → deletion.Deletes node →
      engine.Retired node ∧ ∀ (later : Nat) (exchange : Exchange), position < later →
        history[later]? = some exchange → exchange.engine.Retired node

theorem Final.append {engine : Engine} {history : List Exchange} (final : Final engine history)
    (asker : Asker) {call : Call}
    (room : engine.nextNode.toNat + engine.allocations call < 2 ^ 64) :
    Final (engine.perform call).2 (history ++ [⟨asker, engine, call⟩]) := by
  refine ⟨final.numbered.perform room, Engine.sound_perform final.sound call, ?_, ?_⟩
  · intro exchange member
    rcases List.mem_append.1 member with before | last
    · exact final.sounds exchange before
    · rcases List.mem_singleton.1 last with rfl
      exact final.sound
  · intro position deletion node found deletes
    rcases of_getElem?_append found with before | ⟨rfl, rfl⟩
    · rcases final.gone position deletion node before deletes with ⟨retired, ever⟩
      refine ⟨retired.perform room, fun later exchange after asked => ?_⟩
      rcases of_getElem?_append asked with known | ⟨-, rfl⟩
      · exact ever later exchange after known
      · exact retired
    · rcases deletes with ⟨id, transaction, rfl, open_, member, done⟩
      refine ⟨Engine.retired_commit final.numbered open_ member done, ?_⟩
      intro later exchange after asked
      rcases of_getElem?_append asked with known | ⟨rfl, -⟩
      · exact absurd (List.getElem?_eq_some_iff.1 known).1 (Nat.lt_asymm after)
      · exact absurd after (Nat.lt_irrefl _)

variable {crowd later : Crowd} {move : Move}

theorem Final.step (final : Final crowd.engine crowd.history)
    (room : crowd.engine.nextNode.toNat + crowd.allocations move < 2 ^ 64)
    (steps : Steps crowd move later) : Final later.engine later.history := by
  rcases steps.asks with ⟨engine, history⟩ | ⟨asker, call, makes, engine, history⟩
  · rw [engine, history]
    exact final
  · rw [allocations, makes] at room
    rw [engine, history]
    exact final.append asker room

theorem Effect.deletes {keys : KeyIndex} {key : String} {asker : Asker} {node : NodeId}
    {position : Nat} {history : List Exchange}
    (effect : Effect (.delete keys key) asker node position history) :
    ∃ deletion, history[position]? = some deletion ∧ deletion.Deletes node := by
  rcases effect.committed with ⟨engine, id, transaction, found, open_, writes, -, done⟩
  refine ⟨_, found, id, transaction, rfl, open_, ?_, congrArg Prod.fst done⟩
  rw [writes, Change.writes_delete]
  exact List.mem_cons_of_mem _ List.mem_cons_self

section Final

variable {keys keys' : KeyIndex} {key key' : String} {asker other : Asker} {node : NodeId}
  {position place : Nat} {fields : FieldMap}

/-- Nothing takes effect on a node after it has been deleted. -/
theorem Final.effect_le (final : Final crowd.engine crowd.history) {change : Change}
    (deleted : Effect (.delete keys key) asker node position crowd.history)
    (changed : Effect change other node place crowd.history) : place ≤ position := by
  refine Nat.not_lt.1 fun after => ?_
  rcases deleted.deletes with ⟨deletion, found, deletes⟩
  rcases changed.committed with ⟨engine, id, transaction, asked, -, -, present, -⟩
  have retired := (final.gone position deletion node found deletes).2 place _ after asked
  exact Bool.false_ne_true (retired.absent.symm.trans present)

theorem Final.once (final : Final crowd.engine crowd.history)
    (first : Effect (.delete keys key) asker node position crowd.history)
    (second : Effect (.delete keys' key') other node place crowd.history) : asker = other := by
  have same := Nat.le_antisymm (final.effect_le second first) (final.effect_le first second)
  rcases first.committed with ⟨_, _, _, found, -⟩
  rcases second.committed with ⟨_, _, _, again, -⟩
  rw [same, again] at found
  exact congrArg Exchange.asker (Option.some.inj found.symm)

theorem Final.update_lt (final : Final crowd.engine crowd.history)
    (deleted : Effect (.delete keys key) asker node position crowd.history)
    (updated : Effect (.update keys' key' fields) other node place crowd.history) :
    place < position := by
  refine Nat.lt_of_le_of_ne (final.effect_le deleted updated) fun same => ?_
  rcases deleted.deletes with ⟨deletion, found, id, transaction, asked, open_, deletes, -⟩
  rcases updated.committed with ⟨engine, own, staged, again, staging, writes, -⟩
  rw [← same, again] at found
  cases found
  cases asked
  rw [Option.some.inj (open_.symm.trans staging), writes, Change.writes_update] at deletes
  simp [KeyIndex.change, Graph.settings] at deletes

theorem Final.lacks (final : Final crowd.engine crowd.history)
    (deleted : Effect (.delete keys key) asker node position crowd.history) :
    crowd.engine.graph.Lacks node ∧ ∀ (later : Nat) (exchange : Exchange), position < later →
      crowd.history[later]? = some exchange → exchange.engine.graph.Lacks node := by
  rcases deleted.deletes with ⟨deletion, found, deletes⟩
  rcases final.gone position deletion node found deletes with ⟨retired, ever⟩
  refine ⟨final.sound.lacks retired.absent, fun later exchange after asked => ?_⟩
  have sound := final.sounds exchange (List.mem_of_getElem? asked)
  exact sound.lacks (ever later exchange after asked).absent

end Final

/-! ## What all can rely on -/

/-- Whoever is told that a record has been changed has changed it as a whole, by one commit, and the
record was there. A node is deleted once at most, and no update takes effect on it after that; it
never comes back, and neither does its key. -/
structure Reliable (crowd : Crowd) : Prop where
  effect : ∀ (number : Nat) (task : Task) (change : Change), crowd.tasks[number]? = some task →
    task.errand.change? task.binding = some change → task.status? = some .ok →
      ∃ node position, Effect change (.task number task.errand) node position crowd.history
  once : ∀ keys keys' key key' asker other node position place,
    Effect (.delete keys key) asker node position crowd.history →
    Effect (.delete keys' key') other node place crowd.history → asker = other
  before : ∀ keys keys' key key' fields asker other node position place,
    Effect (.delete keys key) asker node position crowd.history →
    Effect (.update keys' key' fields) other node place crowd.history → place < position
  gone : ∀ keys key asker node position,
    Effect (.delete keys key) asker node position crowd.history →
      crowd.engine.graph.Lacks node ∧ ∀ (later : Nat) (exchange : Exchange), position < later →
        crowd.history[later]? = some exchange → exchange.engine.graph.Lacks node

/-- Everyone keeps to their own transaction and to their course, and what is deleted stays so. -/
structure Settled (crowd : Crowd) : Prop where
  apart : Apart crowd
  orderly : Orderly crowd
  final : Final crowd.engine crowd.history

theorem Settled.step (settled : Settled crowd) (fits : Fits crowd move)
    (steps : Steps crowd move later) : Settled later where
  apart := settled.apart.step fits.fresh steps
  orderly := settled.orderly.step settled.apart fits.fresh steps
  final := settled.final.step fits.room steps

theorem Settled.reliable (settled : Settled crowd) : Reliable crowd where
  effect _ _ _ found changes ok := settled.orderly.effect found changes ok
  once _ _ _ _ _ _ _ _ _ first second := settled.final.once first second
  before _ _ _ _ _ _ _ _ _ _ deleted updated := settled.final.update_lt deleted updated
  gone _ _ _ _ _ deleted := settled.final.lacks deleted

/-- However many insert, update, delete and read records at the same time, and in whatever order
their calls come: all can rely on what they are told. -/
theorem run_reliable {engine : Engine} (numbered : engine.Numbered) (sound : engine.graph.Sound)
    {moves : List Move} (fits : Throughout Fits moves { engine }) :
    Reliable (Crowd.run moves { engine }) := by
  have outset : Settled { engine } := {
    apart := apart_nil engine
    orderly := orderly_nil engine
    final := {
      numbered
      sound
      sounds := fun exchange member => absurd member List.not_mem_nil
      gone := fun position deletion node found => by simp at found } }
  have settled := run_keeps
    (fun crowd move fits settled => Settled.step settled fits (crowd.steps_step move)) fits outset
  exact settled.reliable

/-- One inserts a record. Then two update it and two delete it, all of whom look it up at the same
time; one of the updates has no fields. -/
def contest : List Move :=
  [.start {} (.insert "k" ∅)] ++ onwards [0, 0, 0, 0, 0] ++
    [.start {} (.update "k" ((∅ : FieldMap).insert "a" [1])), .start {} (.delete "k"),
      .start {} (.delete "k"), .start {} (.update "k" ∅)] ++
    onwards [1, 2, 3, 4, 1, 2, 3, 4, 1, 2, 3, 4, 1, 2, 3, 4, 1, 1, 2, 3, 4]

/-- The first update and the first deletion are committed, and the others find the record gone. -/
theorem run_reliable_contest :
    let crowd := Crowd.run contest { engine := (Engine.inMemory.createIndex "node_index").2 }
    crowd.tasks.map (·.status?) =
        [some .ok, some .ok, some .ok, some .error, some .error] ∧ Reliable crowd := by
  intro crowd
  let engine := (Engine.inMemory.createIndex "node_index").2
  have room : Engine.inMemory.nextNode.toNat +
      Engine.inMemory.allocations (.createIndex "node_index") < 2 ^ 64 := by decide
  have numbered : engine.Numbered := Engine.numbered_inMemory.perform room
  have sound : engine.graph.Sound :=
    Engine.sound_perform Graph.sound_empty (.createIndex "node_index")
  have none_ : engine.transactions = ∅ := by decide +kernel
  have fits : Throughout Fits contest { engine } := by
    refine fits_of_few (fun number task found => ?_) (fun id member => ?_) (by decide +kernel)
      (by decide +kernel)
    · simp at found
    · rw [none_] at member
      exact absurd member Std.ExtTreeMap.not_mem_empty
  exact ⟨by decide +kernel, run_reliable numbered sound fits⟩

/-- One looks a record up, in order to update it, and another one deletes it. Three records are
inserted, and then the update goes on. -/
def revival : List Move :=
  [.start {} (.update "a" ((∅ : FieldMap).insert "f" [1])), .start {} (.delete "a"),
      .start {} (.insert "b" ∅), .start {} (.insert "c" ∅), .start {} (.insert "d" ∅)] ++
    onwards ([0] ++ List.replicate 5 1 ++ List.replicate 5 2 ++ List.replicate 5 3 ++
      List.replicate 5 4 ++ List.replicate 6 0)

/-- Where the numbers run out, the last record is given the number of the one that has been deleted:
the update is done on it, and puts the deleted key back. -/
theorem run_reliable_runs_over :
    let entries : NodeIndex := { entries := .insert ∅ "_id" (.insert ∅ "a" (.insert ∅ 1)) }
    let graph : Graph := {
      nodes := .insert ∅ 1 (.insert ∅ "_id" (.text "a"))
      indexes := .insert ∅ "node_index" entries }
    let crowd := Crowd.run revival { engine := .ofGraph none graph 18446744073709551615 }
    crowd.tasks.map (·.status?) = List.replicate 5 (some .ok) ∧
      (crowd.engine.perform (.indexGet "node_index" "_id" "a")).1 = .ok [1] ∧
      (crowd.engine.perform (.indexGet "node_index" "_id" "d")).1 = .ok [1] ∧
      ¬ Reliable crowd := by
  intro entries graph crowd
  refine ⟨by decide +kernel, by decide +kernel, by decide +kernel, fun reliable => ?_⟩
  let binding : Binding := {}
  have second : (crowd.tasks[1]?).map (fun task => (task.binding, task.errand, task.status?)) =
      some (binding, .delete "a", some .ok) := by
    decide +kernel
  rcases Option.map_eq_some_iff.1 second with ⟨⟨_, _, rest⟩, found, same⟩
  obtain ⟨rfl, rfl, ok⟩ := (Prod.mk.inj same).imp_right Prod.mk.inj
  rcases reliable.effect 1 _ (.delete binding.keys "a") found rfl ok with ⟨node, position, effect⟩
  -- whenever the deletion looks for its record, it is told of the first node
  have told : ∀ exchange ∈ crowd.history, exchange.asker = .task 1 (.delete "a") →
      (exchange.engine.perform (.indexGet "node_index" "_id" "a")).1 = .ok [1] := by
    decide +kernel
  rcases effect.looked with ⟨engine, others, member, answer⟩
  have first := told _ (List.mem_of_mem_take member) rfl
  obtain ⟨rfl, -⟩ := List.cons.inj (Except.ok.inj (answer.symm.trans first))
  have absent := (reliable.gone _ _ _ _ _ effect).1.absent
  have there : crowd.engine.graph.hasNode 1 = true := by decide +kernel
  exact Bool.false_ne_true (absent.symm.trans there)

end Crowd

end RecordGraph
