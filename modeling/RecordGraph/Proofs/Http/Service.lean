import RecordGraph.Http.Service
import RecordGraph.Proofs.Engine.Opening

namespace RecordGraph

/-! A service answers like its engine: its table has the transactions that are open on the engine,
after every call. -/

namespace Http.Service

/-- The table has the transactions that are open on the engine, and no others. -/
def Knows (service : Service) (engine : Engine) : Prop :=
  ∀ id, id ∈ service.transactions ↔ id ∈ engine.transactions

variable {service : Service} {engine : Engine}

theorem Knows.forget (knows : service.Knows engine) (id : TransactionId) :
    (service.forget id).Knows (engine.forget id) := by
  intro other
  rw [Service.forget, Std.ExtTreeSet.mem_erase, Engine.mem_transactions_forget, knows other, Ne,
    Std.compare_eq_iff_eq]

private theorem Knows.remember (knows : service.Knows engine) {call : Call}
    (other : call.transaction? = none) :
    (service.remember call (engine.perform call).1).Knows (engine.perform call).2 := by
  cases call with
  | createIndex name =>
      intro id
      rw [Engine.perform, engine.transactions_createIndex]
      exact knows id
  | indexGet _ _ _ => exact knows
  | indexRange _ _ => exact knows
  | nodeProperty _ _ => exact knows
  | nodeProperties _ => exact knows
  | beginTransaction =>
      rw [Engine.perform, Engine.beginTransaction]
      split
      · exact knows
      · intro id
        rw [Service.remember, Std.ExtTreeSet.mem_insert, Std.ExtTreeMap.mem_insert, knows id]
  | executeBatch batch =>
      intro id
      rw [Engine.perform, engine.transactions_executeBatch]
      exact knows id
  | stage _ _ => cases other
  | commit _ => cases other
  | rollback _ => cases other

private theorem Knows.about (knows : service.Knows engine) {call : Call} {id : TransactionId}
    (about : call.transaction? = some id) {transaction : Transaction}
    (open_ : engine.transactions[id]? = some transaction) :
    (if call.finishes then service.forget id else service).Knows (engine.perform call).2 := by
  cases call with
  | stage found step =>
      intro other
      rw [Engine.perform, Engine.mem_transactions_stage]
      exact knows other
  | commit found =>
      cases about
      intro other
      rw [Engine.perform, engine.transactions_commit id open_]
      exact knows.forget id other
  | rollback found =>
      cases about
      rw [Engine.perform, Engine.rollback, open_]
      exact knows.forget id
  | createIndex _ => cases about
  | indexGet _ _ _ => cases about
  | indexRange _ _ => cases about
  | nodeProperty _ _ => cases about
  | nodeProperties _ => cases about
  | beginTransaction => cases about
  | executeBatch _ => cases about

/-- What the engine answers is answered, and the table keeps up. -/
theorem Knows.perform (knows : service.Knows engine) (call : Call) :
    ∃ later : Service, later.Knows (engine.perform call).2 ∧
      service.perform call engine =
        ((engine.perform call).1, later, (engine.perform call).2) := by
  cases about : call.transaction? with
  | none =>
      refine ⟨_, knows.remember about, ?_⟩
      rw [Service.perform]
      simp only [about]
  | some id =>
      cases found : engine.transactions[id]? with
      | none =>
          have absent : service.transactions.contains id = false := by
            rw [Bool.eq_false_iff]
            intro member
            have there := (knows id).1 (Std.ExtTreeSet.mem_iff_contains.2 member)
            rw [Std.ExtTreeMap.mem_iff_isSome_getElem?, found] at there
            cases there
          refine ⟨service, ?_, ?_⟩
          · rw [engine.perform_absent id about found]
            exact knows
          · rw [engine.perform_absent id about found, Service.perform]
            simp only [about, absent]
            rfl
      | some transaction =>
          have there : service.transactions.contains id = true := by
            apply Std.ExtTreeSet.mem_iff_contains.1
            apply (knows id).2
            rw [Std.ExtTreeMap.mem_iff_isSome_getElem?, found]
            rfl
          refine ⟨_, knows.about about found, ?_⟩
          rw [Service.perform]
          simp only [about, there, if_true]

/-! ## What gets through -/

def passed (request : Request) (service : Service) : Option Call :=
  match request.demand with
  | .ok (.call call) =>
      if call.transaction?.all service.transactions.contains then some call else none
  | _ => none

theorem demand_of_passed {request : Request} {call : Call}
    (through : call ∈ service.passed request) : request.demand = .ok (.call call) := by
  rw [passed] at through
  split at through
  · rename_i made demand
    split at through
    · rw [Option.some.inj (Option.mem_def.1 through)] at demand
      exact demand
    · cases through
  · cases through

theorem known_of_passed {request : Request} {call : Call} {id : TransactionId}
    (through : call ∈ service.passed request) (about : call.transaction? = some id) :
    id ∈ service.transactions := by
  rw [passed] at through
  split at through
  · split at through
    · rename_i known
      rw [Option.some.inj (Option.mem_def.1 through), about, Option.all_some] at known
      exact Std.ExtTreeSet.mem_iff_contains.2 known
    · cases through
  · cases through

theorem passed_of_demand {request : Request} {call : Call}
    (demand : request.demand = .ok (.call call)) :
    service.passed request =
      if call.transaction?.all service.transactions.contains then some call else none := by
  rw [passed, demand]

theorem perform_eq (call : Call) (service : Service) (engine : Engine) :
    (service.perform call engine).2.2 =
      if call.transaction?.all service.transactions.contains then (engine.perform call).2
      else engine := by
  rw [perform]
  cases call.transaction? with
  | none => rfl
  | some id =>
      dsimp only [Option.all_some]
      split
      · rfl
      · rfl

/-- A body more or less does not matter to the service and the engine. -/
private theorem respond_answer (request : Request) (service : Service) (engine : Engine) :
    (service.respond request engine).2 = (service.answer request engine).2 := by
  rw [respond]
  rcases service.answer request engine with ⟨response, later⟩
  dsimp only
  split
  · rfl
  · rfl

theorem engine_respond (request : Request) (service : Service) (engine : Engine) :
    (service.respond request engine).2.2 = match service.passed request with
      | none => engine
      | some call => (engine.perform call).2 := by
  rw [respond_answer, answer, passed]
  rcases request.demand with status | _ | call
  · rfl
  · rfl
  · have same := service.perform_eq call engine
    dsimp only
    rw [same]
    split
    · rfl
    · rfl

theorem respond_reads {request : Request}
    (reads : ∀ call, request.demand = .ok (.call call) → call.reads = true) :
    (service.respond request engine).2 = (service, engine) := by
  rw [respond_answer, answer]
  rcases demanding : request.demand with status | _ | call
  · rfl
  · rfl
  have read := reads call demanding
  dsimp only
  rw [perform]
  cases call with
  | indexGet index key value => rfl
  | indexRange index range => rfl
  | nodeProperty node name => rfl
  | nodeProperties node => rfl
  | _ => cases read

theorem mem_respond {request : Request} {id : TransactionId} (there : id ∈ service.transactions)
    (kept : ∀ call ∈ service.passed request, call.finishes = true → call.transaction? ≠ some id) :
    id ∈ (service.respond request engine).2.1.transactions := by
  rw [respond_answer, answer]
  rcases demanding : request.demand with status | _ | call
  · exact there
  · exact there
  dsimp only
  rw [perform]
  cases about : call.transaction? with
  | none =>
      cases call with
      | beginTransaction =>
          dsimp only
          cases (engine.perform .beginTransaction).1 with
          | error failure => exact there
          | ok begun => exact Std.ExtTreeSet.mem_insert.2 (.inr there)
      | _ => exact there
  | some other =>
      dsimp only
      split
      · rename_i known
        dsimp only
        split
        · rename_i finishes
          have through : service.passed request = some call := by
            rw [passed_of_demand demanding, about, Option.all_some, if_pos known]
          have different : other ≠ id := by
            rintro rfl
            exact kept call through finishes about
          rw [forget, Std.ExtTreeSet.mem_erase, Ne, Std.compare_eq_iff_eq]
          exact ⟨different, there⟩
        · exact there
      · exact there

/-- What a table has after a request has been in it before, and the request does not finish it, or
has begun by the request. -/
theorem of_mem_respond {request : Request} {id : TransactionId}
    (member : id ∈ (service.respond request engine).2.1.transactions) :
    (id ∈ service.transactions ∧
        ∀ call ∈ service.passed request, call.finishes = true → call.transaction? ≠ some id) ∨
      .beginTransaction ∈ service.passed request ∧
        (engine.perform .beginTransaction).1 = .ok id := by
  rw [respond_answer, answer] at member
  rw [passed]
  generalize request.demand = demanded at member ⊢
  rcases demanded with status | _ | call
  · exact .inl ⟨member, fun call through => absurd through (Option.not_mem_none call)⟩
  · exact .inl ⟨member, fun call through => absurd through (Option.not_mem_none call)⟩
  dsimp only at member ⊢
  rw [perform] at member
  cases about : call.transaction? with
  | none =>
      have unfinished : ∀ made ∈ some call, made.finishes = true → made.transaction? ≠ some id := by
        rintro made ⟨⟩ -
        rw [about]
        exact fun same => by cases same
      rw [about] at member
      rw [Option.all_none, if_pos rfl]
      cases call with
      | beginTransaction =>
          dsimp only at member
          cases begun : (engine.perform .beginTransaction).1 with
          | error failure =>
              rw [begun] at member
              exact .inl ⟨member, unfinished⟩
          | ok number =>
              rw [begun, remember, Std.ExtTreeSet.mem_insert, Std.compare_eq_iff_eq] at member
              rcases member with rfl | member
              · exact .inr ⟨rfl, rfl⟩
              · exact .inl ⟨member, unfinished⟩
      | _ => exact .inl ⟨member, unfinished⟩
  | some own =>
      rw [about] at member
      rw [Option.all_some]
      dsimp only at member
      split at member
      · rename_i known
        rw [if_pos known]
        dsimp only at member
        cases finishes : call.finishes with
        | true =>
            rw [finishes, if_pos rfl, forget, Std.ExtTreeSet.mem_erase, Ne,
              Std.compare_eq_iff_eq] at member
            refine .inl ⟨member.2, ?_⟩
            rintro made ⟨⟩ -
            rw [about]
            exact fun same => member.1 (Option.some.inj same)
        | false =>
            rw [finishes, if_neg Bool.false_ne_true] at member
            refine .inl ⟨member, ?_⟩
            rintro made ⟨⟩ others
            rw [finishes] at others
            cases others
      · rename_i unknown
        rw [if_neg unknown]
        exact .inl ⟨member, fun made through => absurd through (Option.not_mem_none made)⟩

/-! ## What is answered -/

variable {call : Call}

theorem response_respond {request : Request} (demand : request.demand = .ok (.call call))
    (body : request.method ≠ "HEAD") :
    (service.respond request engine).1 = .ofOutcome call (service.perform call engine).1 := by
  rw [respond, answer, demand]
  dsimp only
  rw [if_neg body]

theorem perform_through (through : call.transaction?.all service.transactions.contains = true) :
    (service.perform call engine).1 = (engine.perform call).1 := by
  rw [perform]
  cases about : call.transaction? with
  | none => rfl
  | some id =>
      have known : service.transactions.contains id = true := by
        rw [about] at through
        exact through
      dsimp only
      rw [known, if_pos rfl]

theorem perform_refused (engine : Engine)
    (refused : call.transaction?.all service.transactions.contains = false) :
    ∃ id, (service.perform call engine).1 = .error (.noTransaction id) := by
  rw [perform]
  cases about : call.transaction? with
  | none =>
      rw [about] at refused
      cases refused
  | some id =>
      have unknown : service.transactions.contains id = false := by
        rw [about] at refused
        exact refused
      dsimp only
      rw [unknown, if_neg Bool.false_ne_true]
      exact ⟨id, rfl⟩

theorem mem_respond_begun {request : Request} (demand : request.demand = .ok (.call .beginTransaction))
    {id : TransactionId} (begun : (engine.perform .beginTransaction).1 = .ok id) :
    id ∈ (service.respond request engine).2.1.transactions := by
  have remembered : (service.perform .beginTransaction engine).2.1 =
      service.remember .beginTransaction (engine.perform .beginTransaction).1 := rfl
  rw [respond_answer, answer, demand]
  dsimp only
  rw [remembered, begun]
  exact Std.ExtTreeSet.mem_insert_self

end Http.Service

end RecordGraph
