import RecordGraph.Proofs.Amid
import RecordGraph.Proofs.Client.Errand

namespace RecordGraph

/-! Errands that are not done. Whatever others do between the calls of an errand, it either succeeds
or leaves nothing behind: neither in the store nor with the caller. -/

open Dialogue

/-! ## Dialogues that leave nothing behind -/

/-- The dialogue leaves nothing behind unless its outcome is good. -/
def Discreet {Result : Type} (good : Except Failure Result → Prop) (dialogue : Dialogue Result) :
    Prop :=
  ∀ (connection : Connection) (id : EngineId) (start : Picture) (amid : Amid),
    amid.Outside connection id start →
      ¬good (dialogue.run (Amid.perform connection id) amid).1 →
        (dialogue.run (Amid.perform connection id) amid).2.Outside connection id start

def Succeeds {Result : Type} (outcome : Except Failure Result) : Prop := ∃ value, outcome = .ok value

section Discreet

variable {First Result Other : Type} {good : Except Failure Result → Prop}

theorem discreet_reads {dialogue : Dialogue Result} (asks : dialogue.Asks (·.reads = true)) :
    Discreet good dialogue :=
  fun _ _ _ _ outside _ => outside.run_reads asks

theorem discreet_executeBatch (batch : Batch) : Discreet Succeeds (ask (.executeBatch batch)) := by
  intro connection id start amid outside bad
  cases done : (Amid.perform connection id (.executeBatch batch) amid).1 with
  | ok created => exact absurd ⟨created, done⟩ bad
  | error failure => exact outside.others.batch_error done

theorem discreet_encloses {dialogue : Dialogue Result} (encloses : KeyIndex.Encloses dialogue) :
    Discreet Succeeds dialogue := by
  rcases encloses with ⟨body, rfl, asks⟩
  intro connection id start amid outside bad
  cases done : ((inTransaction body).run (Amid.perform connection id) amid).1 with
  | ok value => exact absurd ⟨value, done⟩ bad
  | error failure =>
      refine outside.inTransaction (fun transaction => ?_) done
      exact (asks transaction).mono fun call stages => .inl stages

namespace Discreet

theorem mono {dialogue : Dialogue Result} (discreet : Discreet good dialogue)
    {better : Except Failure Result → Prop} (more : ∀ outcome, good outcome → better outcome) :
    Discreet better dialogue :=
  fun connection id start amid outside bad =>
    discreet connection id start amid outside (mt (more _) bad)

theorem map {dialogue : Dialogue First} {enough : Except Failure First → Prop}
    (discreet : Discreet enough dialogue) (change : First → Result)
    (turns : ∀ outcome, enough outcome → good (outcome.map change)) :
    Discreet good (dialogue >>= fun value => pure (change value)) := by
  intro connection id start amid outside bad
  have first := discreet connection id start amid outside
  rw [run_bind] at bad ⊢
  rcases running : dialogue.run (Amid.perform connection id) amid with ⟨failure | value, after⟩
  · rw [running] at first bad
    exact first fun fine => bad (turns _ fine)
  · rw [running] at first bad
    exact first fun fine => bad (turns _ fine)

theorem after_reads {first : Dialogue First} {next : First → Dialogue Result}
    (asks : first.Asks (·.reads = true)) (discreet : ∀ value, Discreet good (next value)) :
    Discreet good (first >>= next) := by
  intro connection id start amid outside bad
  have later := outside.run_reads asks
  rw [run_bind] at bad ⊢
  rcases running : first.run (Amid.perform connection id) amid with ⟨failure | value, after⟩
  · rw [running] at later
    exact later
  · rw [running] at later bad
    exact discreet value connection id start after later bad

end Discreet

end Discreet

/-! ## Errands -/

namespace Record

variable {binding : Binding}

private theorem reads_of_consults {call : Call} (consults : binding.keys.Consults call) :
    call.reads = true := consults.1

theorem discreet_insert (key : String) (fields : FieldMap) :
    Discreet Succeeds (insert key fields binding) := by
  unfold insert KeyIndex.insertNode
  split
  · exact discreet_encloses (KeyIndex.encloses_insertStepwise key fields _)
  · exact discreet_encloses (KeyIndex.encloses_insertStepwise key fields _)
  · refine (discreet_executeBatch _).map (fun _ => ()) ?_
    rintro _ ⟨created, rfl⟩
    exact ⟨(), rfl⟩

theorem discreet_withNode {Result : Type} {key : String} {action : NodeId → Dialogue Result}
    (discreet : ∀ node, Discreet Succeeds (action node)) :
    Discreet (fun outcome => ∃ value, outcome = .ok (some value))
      (withNode key binding action) := by
  refine .after_reads ((KeyIndex.asks_lookup key binding.keys).mono fun _ => reads_of_consults) ?_
  rintro (_ | node)
  · exact discreet_reads trivial
  · refine (discreet node).map some ?_
    rintro _ ⟨value, rfl⟩
    exact ⟨value, rfl⟩

private theorem discreet_isSome {key : String} {action : NodeId → Dialogue Unit}
    (discreet : ∀ node, Discreet Succeeds (action node)) :
    Discreet (· = .ok true)
      (withNode key binding action >>= fun done => pure done.isSome) := by
  refine (discreet_withNode discreet).map Option.isSome ?_
  rintro _ ⟨value, rfl⟩
  rfl

theorem discreet_update (key : String) (fields : FieldMap) :
    Discreet (· = .ok true) (update key fields binding) :=
  discreet_isSome fun node => discreet_encloses (KeyIndex.encloses_updateNode node key fields _)

theorem discreet_delete (key : String) : Discreet (· = .ok true) (delete key binding) :=
  discreet_isSome fun node => discreet_encloses (KeyIndex.encloses_deleteNode node key _)

end Record

/-- An errand that is not reported as done leaves nothing behind. -/
theorem Errand.discreet (errand : Errand) (binding : Binding) :
    Discreet (fun outcome => (errand.report outcome).status = .ok) (errand.dialogue binding) := by
  cases errand with
  | insert key fields =>
      refine (Record.discreet_insert key fields).mono ?_
      rintro _ ⟨value, rfl⟩
      rfl
  | update key fields =>
      refine (Record.discreet_update key fields).mono ?_
      rintro _ rfl
      rfl
  | delete key =>
      refine (Record.discreet_delete key).mono ?_
      rintro _ rfl
      rfl
  | read key requested into =>
      exact discreet_reads ((Record.consults_read key requested).mono fun _ asks => asks.1)
  | scan start count requested into =>
      exact discreet_reads ((Record.consults_scan start count requested).mono fun _ asks => asks.1)

/-! ## Clients -/

def Client.carryOutAmid (id : EngineId) (errand : Errand) (client : Client) (amid : Amid) :
    Report × Amid :=
  match client.session with
  | none => (errand.report (.error .notInitialized), amid)
  | some connection =>
      let (outcome, after) := (errand.dialogue client.binding).run (Amid.perform connection id) amid
      (errand.report outcome, after)

/-- If nobody else does anything, the errand is carried out as it is alone. -/
theorem Client.carryOutAmid_alone (id : EngineId) (errand : Errand) (client : Client)
    (host : Host) :
    (client.carryOutAmid id errand (.outset id host [])).1 = (client.carryOut errand host).1 ∧
      (client.carryOutAmid id errand (.outset id host [])).2.host =
        (client.carryOut errand host).2 := by
  rw [carryOut_eq, carryOutAmid, converse]
  cases client.session with
  | none => exact ⟨rfl, rfl⟩
  | some connection =>
      have every : (errand.dialogue client.binding).Asks fun _ => True :=
        (errand.asks_dialogue client.binding).mono fun _ _ => trivial
      have step (call : Call) (amid : Amid) (host : Host) (_ : True)
          (alike : amid.host = host ∧ amid.ahead = []) :
          (amid.perform connection id call).1 = (host.perform connection call).1 ∧
            (amid.perform connection id call).2.host = (host.perform connection call).2 ∧
            (amid.perform connection id call).2.ahead = [] := by
        rcases alike with ⟨rfl, none_⟩
        rw [Amid.perform, Amid.others, none_]
        exact ⟨rfl, rfl, rfl⟩
      have alike : (Amid.outset id host []).host = host ∧ (Amid.outset id host []).ahead = [] :=
        ⟨rfl, rfl⟩
      rcases every.run_alike (fun (amid : Amid) host => amid.host = host ∧ amid.ahead = []) step
        alike with ⟨outcome, after, -⟩
      exact ⟨congrArg errand.report outcome, after⟩

/-- Whatever others do on the host in the meantime: if an errand is not reported as done, the caller
has what it had before and nothing of the errand can be seen in the store; and if a transaction
around a dialogue fails, nothing of the dialogue can be seen. -/
theorem unseen_unless_done (id : EngineId) (host : Host) (ahead : List (List Turn)) :
    (∀ (client : Client) (errand : Errand),
      (∀ connection ∈ client.session, host.Reaches connection id) →
        let done := client.carryOutAmid id errand (.outset id host ahead)
        done.1.status ≠ .ok → done.1 = errand.idle done.1.status ∧
          done.2.Unseen id (host.engine id).graph.picture) ∧
    ∀ connection : Connection, host.Reaches connection id →
      ∀ {Result : Type} (body : TransactionId → Dialogue Result),
        (∀ transaction,
          (body transaction).Asks fun call => call.StagesIn transaction ∨ call.reads = true) →
        let done := (inTransaction body).run (Amid.perform connection id) (.outset id host ahead)
        (∃ failure, done.1 = .error failure) → done.2.Unseen id (host.engine id).graph.picture := by
  constructor
  · intro client errand reaches
    dsimp only
    rw [Client.carryOutAmid]
    cases session : client.session with
    | none =>
        intro undone
        have unseen : (Amid.outset id host ahead).Unseen id (host.engine id).graph.picture :=
          ⟨fun _ member => absurd member List.not_mem_nil,
            fun _ events => ((Ledger.right_opening (host.engine id)).follow events).picture⟩
        exact ⟨errand.report_idle _ undone, unseen⟩
    | some connection =>
        intro undone
        have outside := Amid.outside_outset (reaches connection session) ahead
        exact ⟨errand.report_idle _ undone,
          (errand.discreet client.binding connection id _ _ outside undone).unseen⟩
  · rintro connection reaches Result body asks done ⟨failure, failed⟩
    exact ((Amid.outside_outset reaches ahead).inTransaction asks failed).unseen

/-- A host with an engine that has no index yet, and what others do there: they make another index,
create a node, and shut the engine down. -/
def interrupted : Host × List (List Turn) :=
  ({ engines := [.inMemory] },
    [[], [.call 0 (.createIndex "other")], [.call 0 (.executeBatch [.createNode ∅])], [],
      [.shutDown 0]])

/-- The index is missing for an insertion, and the engine is gone before the transaction of a
dialogue is committed. -/
theorem unseen_unless_done_interrupted :
    let client : Client := { binding := {}, registry := 0, session := some (.embedded 0) }
    let inserted := client.carryOutAmid 0 (.insert "k" ∅) (.outset 0 interrupted.1 interrupted.2)
    let staged := (inTransaction fun transaction => do
      let _ ← createNode transaction
      let _ ← createNode transaction
      createNode transaction).run (Amid.perform (.embedded 0) 0)
        (.outset 0 interrupted.1 interrupted.2)
    (inserted.1 = .done .error ∧ inserted.2.apart = true ∧
        inserted.2.Unseen 0 (interrupted.1.engine 0).graph.picture) ∧
      staged.1 = .error .closed ∧ staged.2.apart = true ∧
        staged.2.Unseen 0 (interrupted.1.engine 0).graph.picture := by
  intro client inserted staged
  have reaches : interrupted.1.Reaches (.embedded 0) 0 := ⟨by decide, rfl⟩
  rcases unseen_unless_done 0 interrupted.1 interrupted.2 with ⟨errands, dialogues⟩
  have failed : inserted.1 = .done .error := by decide +kernel
  have closed : staged.1 = .error .closed := by decide +kernel
  constructor
  · have undone : inserted.1.status ≠ .ok := by
      rw [failed]
      decide
    refine ⟨failed, by decide +kernel, (errands client (.insert "k" ∅) ?_ undone).2⟩
    rintro connection ⟨⟩
    exact reaches
  · refine ⟨closed, by decide +kernel, dialogues (.embedded 0) reaches _ ?_ ⟨_, closed⟩⟩
    intro transaction
    have creates := (KeyIndex.asks_createNode transaction).mono fun call stages =>
      (.inl stages : call.StagesIn transaction ∨ call.reads = true)
    exact creates.bind fun _ => creates.bind fun _ => creates

end RecordGraph
