import RecordGraph.Proofs.Client.Errand
import RecordGraph.Proofs.Connection
import RecordGraph.Proofs.Record.Frame
import RecordGraph.Proofs.Record.Verdict

namespace RecordGraph

/-! Clients change exactly what they are asked to change. An insert brings one node and one entry, an
update concerns some properties of one node, a delete takes one node out of everything; whatever
else the graph holds, for other clients or for nobody, stays as it is. -/

namespace Host

variable {host : Host} {connection : Connection} {id : EngineId} {client : Client}

/-- At hand an engine can be asked about every index, over a link about those whose names can be
sent. -/
theorem Attached.converse_dialogue (attached : Attached connection id host) (errand : Errand)
    (binding : Binding) (plain : ∀ link, connection = .remote link → Url.Keeps binding.index) :
    (host.converse connection (errand.dialogue binding)).1 =
        ((errand.dialogue binding).run Engine.perform (host.engine id)).1 ∧
      (host.converse connection (errand.dialogue binding)).2.engine id =
        ((errand.dialogue binding).run Engine.perform (host.engine id)).2 := by
  cases connection with
  | embedded own =>
      rcases attached with ⟨rfl, there⟩
      rw [converse_embedded there]
      exact ⟨rfl, engine_setEngine there _⟩
  | remote link =>
      have asks : (errand.dialogue binding).Asks Http.Sendable :=
        (errand.asks_dialogue binding).mono fun call uses => uses.sendable (plain link rfl)
      rcases attached.converse asks with ⟨answered, -, engine⟩
      exact ⟨answered, engine⟩

/-- What a client reports, and what the engine is afterwards, is what its dialogue comes to on the
engine. -/
theorem Attached.carryOut (attached : Attached connection id host)
    (session : client.session = some connection)
    (plain : ∀ link, connection = .remote link → Url.Keeps client.binding.index)
    (errand : Errand) :
    (client.carryOut errand host).1 =
        errand.report ((errand.dialogue client.binding).run Engine.perform (host.engine id)).1 ∧
      (client.carryOut errand host).2.engine id =
        ((errand.dialogue client.binding).run Engine.perform (host.engine id)).2 := by
  rcases attached.converse_dialogue errand client.binding plain with ⟨answered, engine⟩
  rw [Client.carryOut_eq, Client.converse, session]
  exact ⟨congrArg errand.report answered, engine⟩

end Host

theorem Client.statusOf_eq_ok {outcome : Except Failure Bool} :
    Client.statusOf outcome = .ok ↔ outcome = .ok true := by
  rcases outcome with failure | _ | _
  · refine iff_of_false ?_ (by simp)
    cases failure with
    | _ => simp [Client.statusOf, Status.ofFailure]
  · simp [Client.statusOf]
  · simp [Client.statusOf]

theorem Errand.done_insert {key : String} {fields : FieldMap} {outcome : Except Failure Unit} :
    (Errand.insert key fields).report outcome = .done .ok ↔ outcome = .ok () := by
  rw [report, Report.done.injEq, Client.statusOf_eq_ok]
  rcases outcome with failure | ⟨⟩
  · simp [Except.map]
  · simp [Except.map]

theorem Errand.done_update {key : String} {fields : FieldMap} {outcome : Except Failure Bool} :
    (Errand.update key fields).report outcome = .done .ok ↔ outcome = .ok true := by
  rw [report, Report.done.injEq, Client.statusOf_eq_ok]

theorem Errand.done_delete {key : String} {outcome : Except Failure Bool} :
    (Errand.delete key).report outcome = .done .ok ↔ outcome = .ok true := by
  rw [report, Report.done.injEq, Client.statusOf_eq_ok]

namespace Engine

variable {engine : Engine} {binding : Binding} {fields : FieldMap}

theorem run_insert_precise (isOpen : engine.isClosed = false)
    (there : engine.graph.hasIndex binding.index = true) (key : String) (named : "" ∉ fields) :
    let run := (Record.insert key fields binding).run perform engine
    (run.1 = .ok () ↔ binding.keys.keyField ≠ "") ∧
      (run.1 = .ok () →
        Graph.Inserted binding.keys key fields engine.nextNode engine.graph run.2.graph) ∧
      (run.1 ≠ .ok () → run.2.graph = engine.graph) := by
  intro run
  have verdict := run_insert engine binding key fields
  have index : engine.graph.hasIndex binding.keys.index = true := there
  by_cases unnamed : binding.keys.keyField = ""
  · have refused : binding.keys.refusal? fields engine = some .emptyPropertyName := by
      simp [KeyIndex.refusal?, isOpen, unnamed]
    rw [refused] at verdict
    rcases verdict with ⟨answer, graph⟩
    have undone : run.1 ≠ .ok () := fun done => by cases answer.symm.trans done
    exact ⟨iff_of_false undone (absurd unnamed), fun done => absurd done undone, fun _ => graph⟩
  · have admitted : binding.keys.refusal? fields engine = none := by
      simp [KeyIndex.refusal?, isOpen, unnamed, index, named]
    rw [admitted] at verdict
    rcases verdict with ⟨done, graph⟩
    refine ⟨iff_of_true done unnamed, fun _ => ?_, fun undone => absurd done undone⟩
    rw [graph]
    exact Graph.inserted_performAll engine.graph binding.keys key fields engine.nextNode

/-- A change whose steps are not refused for a node that is there: it is made exactly if the oldest
node under the key is there. -/
theorem run_change_oldest {change : Change} (isOpen : engine.isClosed = false)
    (there : engine.graph.hasIndex change.keys.index = true)
    (settles : ∀ node, engine.graph.hasNode node = true →
      (settle (change.steps node) {} engine.beginning).1 = .ok ()) :
    let run := change.dialogue.run perform engine
    (run.1 = .ok true ↔ ∃ node, engine.graph.Oldest change.keys change.key node ∧
      engine.graph.hasNode node = true) ∧
      (∀ node, engine.graph.Oldest change.keys change.key node → run.1 = .ok true →
        engine.graph.hasNode node = true ∧
          run.2.graph = engine.graph.performAll (change.writes node)) ∧
      (run.1 ≠ .ok true → run.2.graph = engine.graph) := by
  intro run
  have outcome : run = _ := run_change_dialogue isOpen there
  rw [outcome]
  simp only [Graph.oldest_iff]
  cases (engine.graph.nodesUnder change.keys change.key).toList.head? with
  | none => simp
  | some node =>
      rcases settle_change change node engine.beginning with
        ⟨failure, refused⟩ | ⟨present, settled⟩
      · have absent : engine.graph.hasNode node ≠ true := by
          intro present
          have passes := settles node present
          rw [refused] at passes
          cases passes
        simp only [refused]
        refine ⟨iff_of_false (by simp [Except.map]) ?_, ?_, fun _ => rfl⟩
        · rintro ⟨other, same, present⟩
          exact absent (Option.some.inj same ▸ present)
        · intro other same done
          cases done
      · simp only [settled]
        refine ⟨iff_of_true rfl ⟨node, rfl, present⟩, ?_, fun undone => absurd rfl undone⟩
        intro other same done
        rcases Option.some.inj same with rfl
        exact ⟨present, rfl⟩

theorem run_update_precise (isOpen : engine.isClosed = false)
    (there : engine.graph.hasIndex binding.index = true) (key : String) (named : "" ∉ fields) :
    let run := (Record.update key fields binding).run perform engine
    (run.1 = .ok true ↔ ∃ node, engine.graph.Oldest binding.keys key node ∧
      engine.graph.hasNode node = true) ∧
      (∀ node, engine.graph.Oldest binding.keys key node → run.1 = .ok true →
        Graph.Updated fields node engine.graph run.2.graph) ∧
      (run.1 ≠ .ok true → run.2.graph = engine.graph) := by
  have opened : engine.beginning.isClosed = false := isOpen
  have indexed : engine.beginning.graph.hasIndex binding.keys.index = true := there
  have settles (node : NodeId) (present : engine.graph.hasNode node = true) :
      (settle ((Change.update binding.keys key fields).steps node) {} engine.beginning).1 =
        .ok () := by
    rw [settle_update opened indexed present key named]
  rw [Record.update_eq]
  rcases run_change_oldest isOpen there settles with ⟨done, changes, kept⟩
  refine ⟨done, fun node oldest updated => ?_, kept⟩
  rcases changes node oldest updated with ⟨present, performed⟩
  rw [performed, Change.writes_update]
  exact Graph.updated_performAll oldest.1 present fields

theorem run_delete_precise (isOpen : engine.isClosed = false)
    (there : engine.graph.hasIndex binding.index = true) (key : String) :
    let run := (Record.delete key binding).run perform engine
    (run.1 = .ok true ↔ ∃ node, engine.graph.Oldest binding.keys key node ∧
      engine.graph.hasNode node = true) ∧
      (∀ node, engine.graph.Oldest binding.keys key node → run.1 = .ok true →
        Graph.Deleted node engine.graph run.2.graph) ∧
      (run.1 ≠ .ok true → run.2.graph = engine.graph) := by
  have opened : engine.beginning.isClosed = false := isOpen
  have indexed : engine.beginning.graph.hasIndex binding.keys.index = true := there
  have settles (node : NodeId) (present : engine.graph.hasNode node = true) :
      (settle ((Change.delete binding.keys key).steps node) {} engine.beginning).1 = .ok () := by
    rw [settle_delete opened indexed present key]
  rw [Record.delete_eq]
  rcases run_change_oldest isOpen there settles with ⟨done, changes, kept⟩
  refine ⟨done, fun node oldest deleted => ?_, kept⟩
  rcases changes node oldest deleted with ⟨-, performed⟩
  rw [performed, Change.writes_delete]
  exact Graph.deleted_performAll engine.graph binding.keys key node

/-- As long as the numbers of nodes do not run out, the next one is that of no node, and no index of a
sound graph knows it. -/
theorem Numbered.next_unused (numbered : engine.Numbered) (sound : engine.graph.Sound) :
    ¬ engine.InUse engine.nextNode ∧ ∀ index entries,
      engine.graph.picture.indexes index = some entries →
        ∀ entry ∈ entries, entry.node ≠ engine.nextNode := by
  have unused : ¬ engine.InUse engine.nextNode := by
    have room : engine.nextNode.toNat + 1 ≤ 2 ^ 64 := engine.nextNode.toNat_lt
    refine numbered.unused room ?_
    rw [counted_one]
    exact List.mem_singleton_self _
  refine ⟨unused, fun index entries known entry member same => unused (.inl ?_)⟩
  rw [Graph.picture_indexes, Option.map_eq_some_iff] at known
  rcases known with ⟨kept, found, rfl⟩
  rw [← same]
  exact sound.registered index kept found entry.key entry.value entry.node member

end Engine

/-- What the errands of a client change, on an engine that is open and has its index, if all fields
have names. An insert is done if the key has a name too: one node comes, with the next number, and one
entry. An update or a delete is done exactly if the oldest node under the key is there, and concerns
that node only. What is not done changes nothing. As long as the numbers of nodes do not run out, the
node and the entry of an insert are new. -/
theorem Client.carryOut_precise {client : Client} {connection : Connection} {host : Host}
    {id : EngineId} (session : client.session = some connection)
    (attached : Host.Attached connection id host)
    (plain : ∀ link, connection = .remote link → Url.Keeps client.binding.index)
    (isOpen : (host.engine id).isClosed = false)
    (there : (host.engine id).graph.hasIndex client.binding.index = true)
    (key : String) {fields : FieldMap} (named : "" ∉ fields) :
    let engine := host.engine id
    let keys := client.binding.keys
    let Done (errand : Errand) := (client.carryOut errand host).1 = .done .ok
    let after (errand : Errand) := ((client.carryOut errand host).2.engine id).graph
    ((Done (.insert key fields) ↔ keys.keyField ≠ "") ∧
      (Done (.insert key fields) → Graph.Inserted keys key fields engine.nextNode engine.graph
        (after (.insert key fields))) ∧
      (engine.Numbered → engine.graph.Sound → ¬ engine.InUse engine.nextNode ∧
        ∀ index entries, engine.graph.picture.indexes index = some entries →
          ∀ entry ∈ entries, entry.node ≠ engine.nextNode)) ∧
    ((Done (.update key fields) ↔
        ∃ node, engine.graph.Oldest keys key node ∧ engine.graph.hasNode node = true) ∧
      ∀ node, engine.graph.Oldest keys key node → Done (.update key fields) →
        Graph.Updated fields node engine.graph (after (.update key fields))) ∧
    ((Done (.delete key) ↔
        ∃ node, engine.graph.Oldest keys key node ∧ engine.graph.hasNode node = true) ∧
      ∀ node, engine.graph.Oldest keys key node → Done (.delete key) →
        Graph.Deleted node engine.graph (after (.delete key))) ∧
    ∀ errand ∈ [.insert key fields, .update key fields, .delete key],
      ¬ Done errand → after errand = engine.graph := by
  intro engine keys Done after
  have outcome := attached.carryOut session plain
  rcases Engine.run_insert_precise isOpen there key named with ⟨insertDone, inserted, uninserted⟩
  rcases Engine.run_update_precise isOpen there key named with ⟨updateDone, updated, unupdated⟩
  rcases Engine.run_delete_precise isOpen there key with ⟨deleteDone, deleted, undeleted⟩
  have graph (errand : Errand) : after errand =
      ((errand.dialogue client.binding).run Engine.perform engine).2.graph :=
    congrArg Engine.graph (outcome errand).2
  have insertAnswer := (Eq.congr_left (outcome (.insert key fields)).1).trans Errand.done_insert
  have updateAnswer := (Eq.congr_left (outcome (.update key fields)).1).trans Errand.done_update
  have deleteAnswer := (Eq.congr_left (outcome (.delete key)).1).trans Errand.done_delete
  refine ⟨⟨insertAnswer.trans insertDone, fun done => ?_, Engine.Numbered.next_unused⟩,
    ⟨updateAnswer.trans updateDone, fun node oldest done => ?_⟩,
    ⟨deleteAnswer.trans deleteDone, fun node oldest done => ?_⟩, fun errand member undone => ?_⟩
  · rw [graph]
    exact inserted (insertAnswer.1 done)
  · rw [graph]
    exact updated node oldest (updateAnswer.1 done)
  · rw [graph]
    exact deleted node oldest (deleteAnswer.1 done)
  · rw [graph]
    simp only [List.mem_cons, List.not_mem_nil, or_false] at member
    rcases member with rfl | rfl | rfl
    · exact uninserted (mt insertAnswer.2 undone)
    · exact unupdated (mt updateAnswer.2 undone)
    · exact undeleted (mt deleteAnswer.2 undone)

/-- Two nodes are under one key, and the older one is in another index too: an update and a delete
concern that one. -/
theorem Client.carryOut_precise_shared :
    let graph : Graph := {
      nodes := .insert (.insert ∅ 2 (.insert ∅ "f" (.text "x"))) 5 ∅
      indexes := .insert (.insert ∅ "node_index" ((({} : NodeIndex).add "_id" "k" 5).add "_id" "k" 2))
        "by" (({} : NodeIndex).add "name" "n" 2) }
    let host : Host := { engines := [.ofGraph none graph 6] }
    let client : Client := { binding := {}, registry := 0, session := some (.embedded 0) }
    let fields : FieldMap := .insert ∅ "f" [9]
    ((host.engine 0).isClosed = false ∧ (host.engine 0).graph.hasIndex "node_index" = true ∧
      "" ∉ fields) ∧
    Graph.Updated fields 2 graph ((client.carryOut (.update "k" fields) host).2.engine 0).graph ∧
    Graph.Deleted 2 graph ((client.carryOut (.delete "k") host).2.engine 0).graph := by
  intro graph host client fields
  have attached : Host.Attached (.embedded 0) 0 host := ⟨rfl, by decide⟩
  have isOpen : (host.engine 0).isClosed = false := by decide
  have there : (host.engine 0).graph.hasIndex client.binding.index = true := by decide
  have named : "" ∉ fields := by decide
  have oldest : graph.Oldest client.binding.keys "k" 2 := Graph.oldest_iff.2 (by decide +kernel)
  have session : client.session = some (.embedded 0) := rfl
  have plain : ∀ link, Connection.embedded 0 = .remote link → Url.Keeps client.binding.index :=
    fun link same => by cases same
  rcases carryOut_precise session attached plain isOpen there "k" named with
    ⟨-, ⟨updateDone, updated⟩, ⟨deleteDone, deleted⟩, -⟩
  have present : graph.hasNode 2 = true := by decide
  exact ⟨⟨isOpen, there, named⟩, updated 2 oldest (updateDone.2 ⟨2, oldest, present⟩),
    deleted 2 oldest (deleteDone.2 ⟨2, oldest, present⟩)⟩

/-- Where the numbers run out, an insert succeeds and adds no node: the record gets the node of
another one, with its properties. -/
theorem Client.insert_runs_over :
    let graph : Graph := {
      nodes := .insert ∅ 1 (.insert ∅ "old" (.text "x"))
      indexes := .insert ∅ "node_index" {} }
    let client : Client := { binding := {}, registry := 0, session := some (.embedded 0) }
    let first : Host := { engines := [.ofGraph none graph 18446744073709551615] }
    let second := (client.carryOut (.insert "a" ∅) first).2
    let third := (client.carryOut (.insert "b" ∅) second).2
    let last := (client.carryOut (.insert "c" ∅) third).2
    ((third.engine 0).isClosed = false ∧ (third.engine 0).graph.hasIndex "node_index" = true) ∧
      (client.carryOut (.insert "c" ∅) third).1 = .done .ok ∧
      (last.engine 0).graph.nodes.keys = (third.engine 0).graph.nodes.keys ∧
      (last.engine 0).graph.property? 1 "_id" = some (.text "c") ∧
      (last.engine 0).graph.property? 1 "old" = some (.text "x") := by
  decide +kernel

end RecordGraph
