import RecordGraph.Proofs.Crowd.Basic
import RecordGraph.Proofs.Engine.Allocation

namespace RecordGraph

/-! Changes of records among many at work. Whatever the others do, a change stages its writes for
the node that its lookup has found, and they take effect at one commit or not at all. -/

namespace Change

variable {change : Change} {graph : Graph} {node : NodeId}

theorem allCreated_writes (change : Change) (node : NodeId) :
    Write.allCreated (change.writes node) = [] := by
  rw [Write.allCreated, List.filterMap_eq_nil_iff]
  intro write member
  rcases List.mem_filterMap.1 member with ⟨step, staged, asks⟩
  have other : step ≠ .createNode := fun creates => change.plain node (creates ▸ staged)
  have none_ := Write.allCreated_of_asks other asks
  rw [Write.allCreated, List.filterMap_eq_nil_iff] at none_
  exact none_ write List.mem_cons_self

theorem present_of_checkAll
    (checked : Transaction.checkAll graph {} (change.writes node) = .ok ()) :
    graph.hasNode node = true := by
  have possible := Transaction.possible_of_checkAll (Transaction.Standing.sound_empty graph) checked
  have present {write : Write} (member : write ∈ change.writes node)
      (needs : ∀ picture : Picture,
        Deed.Possible picture (.write write) → picture.nodes node ≠ none) :
      graph.hasNode node = true := by
    rcases List.append_of_mem member with ⟨before, later, same⟩
    have none_ := change.allCreated_writes node
    rw [same, List.map_append, Picture.throughout_append, ← Graph.picture_performAll] at possible
    rw [same, Write.allCreated_append, List.append_eq_nil_iff] at none_
    have there := Graph.hasNode_of_performAll
      (Graph.picture_nodes_ne_none.1 (needs _ possible.2.1))
    rw [none_.1] at there
    exact there.resolve_right List.not_mem_nil
  rcases change.needs node with enters | deletes
  · exact present (List.mem_filterMap.2 ⟨_, enters, rfl⟩) fun picture possible => possible.1
  · exact present (List.mem_filterMap.2 ⟨_, deletes, rfl⟩) fun picture possible => possible

end Change

namespace Crowd

/-! ## What the history tells of a change -/

def Quiet (asker : Asker) (history : List Exchange) : Prop :=
  ∀ exchange ∈ history, exchange.asker = asker → exchange.after.graph = exchange.engine.graph

def Looked (change : Change) (asker : Asker) (node : NodeId) (history : List Exchange) : Prop :=
  ∃ engine others,
    ⟨asker, engine, .indexGet change.keys.index change.keys.keyField change.key⟩ ∈ history ∧
      (engine.perform (.indexGet change.keys.index change.keys.keyField change.key)).1 =
        .ok (node :: others)

/-- The change has been committed at one place of the history: in whole, for the node that has been
looked up before, and that is there. At no other place has the graph been changed for it. -/
structure Effect (change : Change) (asker : Asker) (node : NodeId) (position : Nat)
    (history : List Exchange) : Prop where
  looked : Looked change asker node (history.take position)
  committed : ∃ engine id transaction, history[position]? = some ⟨asker, engine, .commit id⟩ ∧
    engine.transactions[id]? = some transaction ∧ transaction.writes = change.writes node ∧
    engine.graph.hasNode node = true ∧ engine.perform (.commit id) =
      (.ok (), { engine.forget id with graph := engine.graph.performAll (change.writes node) })
  alone : ∀ other exchange, other ≠ position → history[other]? = some exchange →
    exchange.asker = asker → exchange.after.graph = exchange.engine.graph

section History

variable {change : Change} {asker : Asker} {node : NodeId} {position : Nat}
  {history : List Exchange} {exchange : Exchange}

theorem Quiet.append (quiet : Quiet asker history)
    (same : exchange.asker = asker → exchange.after.graph = exchange.engine.graph) :
    Quiet asker (history ++ [exchange]) := by
  intro other member own
  rcases List.mem_append.1 member with before | last
  · exact quiet other before own
  · rcases List.mem_singleton.1 last with rfl
    exact same own

theorem Looked.append (looked : Looked change asker node history) :
    Looked change asker node (history ++ [exchange]) := by
  rcases looked with ⟨engine, others, member, answer⟩
  exact ⟨engine, others, List.mem_append_left _ member, answer⟩

theorem Effect.append (effect : Effect change asker node position history)
    (different : exchange.asker ≠ asker) :
    Effect change asker node position (history ++ [exchange]) := by
  rcases effect.committed with ⟨engine, id, transaction, at_, rest⟩
  have inside := (List.getElem?_eq_some_iff.1 at_).1
  refine ⟨?_, ⟨engine, id, transaction, ?_, rest⟩, fun other asked elsewhere found own => ?_⟩
  · rw [List.take_append_of_le_length (Nat.le_of_lt inside)]
    exact effect.looked
  · rw [List.getElem?_append_left inside]
    exact at_
  · rcases of_getElem?_append found with before | ⟨-, rfl⟩
    · exact effect.alone other asked elsewhere before own
    · exact absurd own different

theorem effect_commit {engine : Engine} {id : TransactionId} {transaction : Transaction}
    (quiet : Quiet asker history) (looked : Looked change asker node history)
    (open_ : engine.transactions[id]? = some transaction)
    (writes : transaction.writes = change.writes node) (done : (engine.commit id).1 = .ok ()) :
    Effect change asker node history.length (history ++ [⟨asker, engine, .commit id⟩]) := by
  rcases engine.commit_cases open_ with ⟨failure, outcome⟩ | ⟨checked, outcome⟩
  · rw [outcome] at done
    cases done
  · rw [writes] at checked outcome
    refine ⟨?_, ⟨engine, id, transaction, ?_, open_, writes, change.present_of_checkAll checked,
      outcome⟩, fun other asked elsewhere found own => ?_⟩
    · rw [List.take_left]
      exact looked
    · rw [List.getElem?_append_right (Nat.le_refl _), Nat.sub_self]
      rfl
    · rcases of_getElem?_append found with before | ⟨last, -⟩
      · exact quiet asked (List.mem_of_getElem? before) own
      · exact absurd last elsewhere

end History

/-! ## Where a change can be -/

open Dialogue in
/-- How far a change has come: it is still whole, the node has been found, a part of the steps has
been staged, they are being discarded, or it is at its end. -/
inductive Course (change : Change) (asker : Asker) (engine : Engine) (history : List Exchange) :
    Dialogue Bool → Prop where
  | whole (quiet : Quiet asker history) : Course change asker engine history change.dialogue
  | found (quiet : Quiet asker history) (node : NodeId)
      (looked : Looked change asker node history) :
      Course change asker engine history (transacting true (change.steps node))
  | inside (quiet : Quiet asker history) (node : NodeId)
      (looked : Looked change asker node history) (id : TransactionId) (done todo : List Step)
      (steps : change.steps node = done ++ todo) (transaction : Transaction)
      (open_ : engine.transactions[id]? = some transaction)
      (writes : transaction.writes = done.filterMap (·.write? none)) :
      Course change asker engine history (closing id true todo)
  | aborting (quiet : Quiet asker history) (id : TransactionId) (failure : Failure) :
      Course change asker engine history (asking (.rollback id) fun _ => fail failure)
  | undone (quiet : Quiet asker history) (outcome : Except Failure Bool)
      (bad : outcome ≠ .ok true) : Course change asker engine history (finished outcome)
  | done (node : NodeId) (position : Nat)
      (effect : Effect change asker node position history) :
      Course change asker engine history (finished (.ok true))

namespace Course

variable {change : Change} {asker : Asker} {engine : Engine} {history : List Exchange}
  {rest : Dialogue Bool}

theorem others (course : Course change asker engine history rest) {exchange : Exchange}
    (different : exchange.asker ≠ asker) {later : Engine}
    (kept : ∀ id, rest.transaction? = some id →
      later.transactions[id]? = engine.transactions[id]?) :
    Course change asker later (history ++ [exchange]) rest := by
  have still {history : List Exchange} (quiet : Quiet asker history) :
      Quiet asker (history ++ [exchange]) := quiet.append fun own => absurd own different
  cases course with
  | whole quiet => exact .whole (still quiet)
  | found quiet node looked => exact .found (still quiet) node looked.append
  | inside quiet node looked id done todo steps transaction open_ writes =>
      have about : (Dialogue.closing id true todo).transaction? = some id := by cases todo <;> rfl
      exact .inside (still quiet) node looked.append id done todo steps transaction
        ((kept id about).trans open_) writes
  | aborting quiet id failure => exact .aborting (still quiet) id failure
  | undone quiet outcome bad => exact .undone (still quiet) outcome bad
  | done node position effect => exact .done node position (effect.append different)

section Inside

variable {node : NodeId} {id : TransactionId} {done todo : List Step} {step : Step}
  {transaction : Transaction}

theorem inside_stage (quiet : Quiet asker history) (looked : Looked change asker node history)
    (steps : change.steps node = done ++ step :: todo)
    (open_ : engine.transactions[id]? = some transaction)
    (writes : transaction.writes = done.filterMap (·.write? none)) :
    Course change asker (engine.perform (.stage id step)).2
      (history ++ [⟨asker, engine, .stage id step⟩])
      (match (engine.perform (.stage id step)).1 with
        | .ok _ => .closing id true todo
        | .error failure => .asking (.rollback id) fun _ => .fail failure) := by
  have plain : step ≠ .createNode := by
    rintro rfl
    exact change.plain node (steps ▸ by simp)
  have still (same : (engine.perform (.stage id step)).2.graph = engine.graph) :
      Quiet asker (history ++ [⟨asker, engine, .stage id step⟩]) := quiet.append fun _ => same
  rw [Engine.perform] at still ⊢
  rcases engine.stage_cases open_ plain with
    ⟨failure, outcome⟩ | ⟨staged, write, asked, more, outcome⟩
  · rw [outcome] at still ⊢
    exact .aborting (still rfl) id failure
  · rw [outcome] at still ⊢
    refine .inside (still rfl) node looked.append id (done ++ [step]) todo (by simp [steps]) staged
      (by simp [Engine.hold]) ?_
    rw [more, writes, List.filterMap_append]
    simp [asked]

/-- When all steps are staged, the commit makes the whole change or none of it. -/
theorem inside_commit (quiet : Quiet asker history) (looked : Looked change asker node history)
    (open_ : engine.transactions[id]? = some transaction)
    (writes : transaction.writes = change.writes node) :
    Course change asker (engine.perform (.commit id)).2
      (history ++ [⟨asker, engine, .commit id⟩])
      (.finished ((engine.perform (.commit id)).1.map fun () => true)) := by
  have effect := effect_commit quiet looked open_ writes
  have still (same : (engine.perform (.commit id)).2.graph = engine.graph) :
      Quiet asker (history ++ [⟨asker, engine, .commit id⟩]) := quiet.append fun _ => same
  rw [Engine.perform] at still ⊢
  rcases engine.commit_cases open_ with ⟨failure, outcome⟩ | ⟨-, outcome⟩
  · rw [outcome] at still ⊢
    exact .undone (still rfl) _ (by simp [Except.map])
  · rw [outcome] at effect ⊢
    exact .done node _ (effect rfl)

end Inside

theorem answered {call : Call} {next : Except Failure call.Answer → Dialogue Bool}
    (course : Course change asker engine history rest) (asks : rest = .asking call next) :
    Course change asker (engine.perform call).2 (history ++ [⟨asker, engine, call⟩])
      (next (engine.perform call).1) := by
  have still (quiet : Quiet asker history)
      (same : (engine.perform call).2.graph = engine.graph) :
      Quiet asker (history ++ [⟨asker, engine, call⟩]) := quiet.append fun _ => same
  cases course with
  | whole quiet =>
      cases asks
      have quiet := still quiet rfl
      rcases answer :
        (engine.perform (.indexGet change.keys.index change.keys.keyField change.key)).1
        with failure | _ | ⟨node, others⟩
      · exact .undone quiet (.error failure) (by simp)
      · exact .undone quiet (.ok false) (by simp)
      · exact .found quiet node
          ⟨engine, others, List.mem_append_right _ List.mem_cons_self, answer⟩
  | found quiet node looked =>
      cases asks
      rw [Engine.perform, Engine.beginTransaction] at still ⊢
      split
      · rename_i closed
        rw [if_pos closed] at still
        exact .undone (still quiet rfl) _ (by simp)
      · rename_i isOpen
        rw [if_neg isOpen] at still
        exact .inside (still quiet rfl) node looked.append _ [] _ rfl {} (by simp) rfl
  | inside quiet node looked id done todo steps transaction open_ writes =>
      cases todo with
      | nil =>
          cases asks
          rw [List.append_nil] at steps
          exact inside_commit quiet looked open_ (by rw [writes, Change.writes, steps])
      | cons step todo =>
          cases asks
          exact inside_stage quiet looked steps open_ writes
  | aborting quiet id failure =>
      cases asks
      refine .undone (still quiet ?_) _ (by simp)
      rw [Engine.forget_rollback]
      rfl
  | undone quiet outcome bad => cases asks
  | done node position effect => cases asks

/-- Only a commit can change the graph, and it comes when all has been staged. -/
theorem commit_of_changes {call : Call} {next : Except Failure call.Answer → Dialogue Bool}
    (course : Course change asker engine history rest) (asks : rest = .asking call next)
    (changes : call.changes = true) :
    ∃ id node transaction, call = .commit id ∧ Looked change asker node history ∧
      engine.transactions[id]? = some transaction ∧ transaction.writes = change.writes node := by
  cases course with
  | inside quiet node looked id done todo steps transaction open_ writes =>
      cases todo with
      | nil =>
          cases asks
          rw [List.append_nil] at steps
          exact ⟨id, node, transaction, rfl, looked, open_, by rw [writes, Change.writes, steps]⟩
      | cons step todo =>
          cases asks
          cases changes
  | whole quiet =>
      cases asks
      cases changes
  | found quiet node looked =>
      cases asks
      cases changes
  | aborting quiet id failure =>
      cases asks
      cases changes
  | undone quiet outcome bad => cases asks
  | done node position effect => cases asks

theorem effect (course : Course change asker engine history rest)
    (done : rest = .finished (.ok true)) :
    ∃ node position, Effect change asker node position history := by
  cases course with
  | done node position effect => exact ⟨node, position, effect⟩
  | undone quiet outcome bad =>
      cases done
      exact absurd rfl bad
  | whole quiet => cases done
  | found quiet node looked => cases done
  | inside quiet node looked id staged todo => cases todo <;> cases done
  | aborting quiet id failure => cases done

end Course

/-! ## Changes in a crowd -/

def OnCourse (number : Nat) (engine : Engine) (history : List Exchange) : Task → Prop
  | ⟨binding, .update key fields, rest⟩ =>
      Course (.update binding.keys key fields) (.task number (.update key fields)) engine history
        rest
  | ⟨binding, .delete key, rest⟩ =>
      Course (.delete binding.keys key) (.task number (.delete key)) engine history rest
  | _ => True

section OnCourse

variable {crowd : Crowd} {number : Nat} {engine : Engine} {history : List Exchange}
  {binding : Binding} {errand : Errand}

theorem onCourse_start (quiet : Quiet (.task number errand) history) :
    OnCourse number engine history ⟨binding, errand, errand.dialogue binding⟩ := by
  cases errand with
  | update key fields =>
      rw [OnCourse, Errand.dialogue, Record.update_eq]
      exact .whole quiet
  | delete key =>
      rw [OnCourse, Errand.dialogue, Record.delete_eq]
      exact .whole quiet
  | _ => trivial

theorem onCourse_others {task : Task} (course : OnCourse number engine history task)
    {exchange : Exchange} (different : ∀ errand, exchange.asker ≠ .task number errand)
    {later : Engine} (kept : ∀ id, task.transaction? = some id →
      later.transactions[id]? = engine.transactions[id]?) :
    OnCourse number later (history ++ [exchange]) task := by
  rcases task with ⟨binding, errand, rest⟩
  cases errand with
  | update key fields => exact Course.others course (different _) kept
  | delete key => exact Course.others course (different _) kept
  | _ => trivial

theorem onCourse_answered {call : Call}
    {next : Except Failure call.Answer → Dialogue errand.Result}
    (course : OnCourse number engine history ⟨binding, errand, .asking call next⟩) :
    OnCourse number (engine.perform call).2 (history ++ [⟨.task number errand, engine, call⟩])
      ⟨binding, errand, next (engine.perform call).1⟩ := by
  cases errand with
  | update key fields => exact Course.answered course rfl
  | delete key => exact Course.answered course rfl
  | _ => trivial

end OnCourse

/-- Who has asked has a task, and the tasks that change records keep their course. -/
structure Orderly (crowd : Crowd) : Prop where
  known : ∀ exchange ∈ crowd.history, ∀ number errand, exchange.asker = .task number errand →
    number < crowd.tasks.length
  course : ∀ (number : Nat) (task : Task), crowd.tasks[number]? = some task →
    OnCourse number crowd.engine crowd.history task

theorem orderly_nil (engine : Engine) : Orderly { engine } where
  known exchange member := absurd member List.not_mem_nil
  course number task found := by simp at found

theorem Orderly.step {crowd : Crowd} (orderly : Orderly crowd) (apart : Apart crowd)
    (fresh : crowd.Fresh) {move : Move} {later : Crowd} (steps : Steps crowd move later) :
    Orderly later := by
  cases steps with
  | idle => exact orderly
  | start binding errand =>
      constructor
      · intro exchange member number own asker
        rw [List.length_append]
        exact Nat.lt_add_right _ (orderly.known exchange member number own asker)
      · intro number task found
        rcases of_getElem?_append found with before | ⟨rfl, rfl⟩
        · exact orderly.course number task before
        · -- nobody has asked anything under the number of a new task
          exact onCourse_start fun exchange member asker =>
            absurd (orderly.known exchange member _ errand asker) (Nat.lt_irrefl _)
  | read call =>
      constructor
      · intro exchange member number errand asker
        rcases List.mem_append.1 member with before | last
        · exact orderly.known exchange before number errand asker
        · rcases List.mem_singleton.1 last with rfl
          cases asker
      · intro number task found
        refine onCourse_others (orderly.course number task found) (fun errand => by simp) ?_
        intro id about
        rw [engine_ask_reads _ call.2]
  | advance number binding errand call next found =>
      constructor
      · intro exchange member other own asker
        rw [List.length_set]
        rcases List.mem_append.1 member with before | last
        · exact orderly.known exchange before other own asker
        · rcases List.mem_singleton.1 last with rfl
          cases asker
          exact (List.getElem?_eq_some_iff.1 found).1
      · intro other task standing
        rcases of_set standing with ⟨rfl, rfl⟩ | ⟨different, standing⟩
        · exact onCourse_answered (orderly.course other _ found)
        · refine onCourse_others (orderly.course other task standing) (fun own same => ?_) ?_
          · cases same
            exact different rfl
          · exact fun id about => apart.kept fresh found different standing about

private theorem ok_of_statusOf {outcome : Except Failure Bool}
    (ok : Client.statusOf outcome = .ok) : outcome = .ok true := by
  rcases outcome with failure | _ | _
  · cases failure <;> cases ok
  · cases ok
  · rfl

/-- Whoever is told that a record has been changed has changed it. -/
theorem Orderly.effect {crowd : Crowd} (orderly : Orderly crowd) {number : Nat} {task : Task}
    (found : crowd.tasks[number]? = some task) {change : Change}
    (changes : task.errand.change? task.binding = some change) (ok : task.status? = some .ok) :
    ∃ node position, Effect change (.task number task.errand) node position crowd.history := by
  have course := orderly.course number task found
  rcases task with ⟨binding, errand, outcome | ⟨call, next⟩⟩
  · have status := Option.some.inj ok
    cases errand with
    | update key fields =>
        cases changes
        exact Course.effect course (congrArg _ (ok_of_statusOf status))
    | delete key =>
        cases changes
        exact Course.effect course (congrArg _ (ok_of_statusOf status))
    | _ => cases changes
  · cases ok

end Crowd

end RecordGraph
