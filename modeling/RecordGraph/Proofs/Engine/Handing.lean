import RecordGraph.Proofs.Engine.Allocation

namespace RecordGraph

/-! The numbers that an engine hands out for new nodes, whether a step asks for them or a job of a
batch, and whatever becomes of the nodes. They are counted, one after another; after the last word
the counting goes on with zero. -/

def counted (first : NodeId) (count : Nat) : List NodeId :=
  (List.range count).map fun place => first + UInt64.ofNat place

@[simp] theorem counted_zero (first : NodeId) : counted first 0 = [] := rfl

theorem counted_one (first : NodeId) : counted first 1 = [first] := by
  simp [counted]

theorem counted_append (first : NodeId) (count more : Nat) :
    counted first (count + more) =
      counted first count ++ counted (first + UInt64.ofNat count) more := by
  simp [counted, List.range_add, Function.comp_def, UInt64.add_assoc]

theorem counted_nodup {first : NodeId} {count : Nat} (few : count ≤ 2 ^ 64) :
    (counted first count).Nodup := by
  refine List.Nodup.map_on (fun place member other memberToo same => ?_) List.nodup_range
  rw [List.mem_range] at member memberToo
  have equal := congrArg UInt64.toNat ((UInt64.add_right_inj first).1 same)
  rw [UInt64.toNat_ofNat', UInt64.toNat_ofNat'] at equal
  omega

theorem le_of_mem_counted {first node : NodeId} {count : Nat}
    (room : first.toNat + count ≤ 2 ^ 64) (member : node ∈ counted first count) : first ≤ node := by
  rcases List.mem_map.1 member with ⟨place, inside, rfl⟩
  rw [List.mem_range] at inside
  rw [UInt64.le_iff_toNat_le, UInt64.toNat_add, UInt64.toNat_ofNat']
  omega

theorem zero_mem_counted {first : NodeId} {count : Nat} (started : 1 ≤ first)
    (many : 2 ^ 64 < first.toNat + count) : 0 ∈ counted first count := by
  have least := UInt64.le_iff_toNat_le.1 started
  have most := first.toNat_lt
  refine List.mem_map.2 ⟨2 ^ 64 - first.toNat, List.mem_range.2 (by omega), ?_⟩
  rw [← UInt64.toNat_inj, UInt64.toNat_add, UInt64.toNat_ofNat']
  simp only [UInt64.reduceToNat] at least ⊢
  omega

namespace Engine

variable {engine : Engine}

/-! ## Steps and jobs -/

def told : Except Failure (Option NodeId) → List NodeId
  | .ok (some node) => [node]
  | _ => []

/-- What a job is told when it creates its node, even if it fails afterwards. -/
def handedTo (job : Job) (transaction : Transaction) (engine : Engine) : List NodeId :=
  match job with
  | .createNode _ => told ((engine.stageIn .createNode transaction).1.map (·.1))
  | _ => []

def handedInTurn : (created : List (Option NodeId)) → List Job → Transaction → Engine →
    List NodeId
  | _, [], _, _ => []
  | created, job :: jobs, transaction, engine =>
      handedTo job transaction engine ++
        match stageJob created job transaction engine with
        | (.error _, _) => []
        | (.ok (node, staged), engine) => handedInTurn (created ++ [node]) jobs staged engine

theorem handedTo_eq (isOpen : engine.isClosed = false) (job : Job) (transaction : Transaction) :
    handedTo job transaction engine = counted engine.nextNode job.cost := by
  cases job with
  | createNode properties =>
      rw [handedTo, stageIn_createNode isOpen, Job.cost, counted_one]
      rfl
  | indexAdd => rfl
  | setProperty => rfl

theorem handedInTurn_eq (isOpen : engine.isClosed = false) (created : List (Option NodeId))
    (jobs : List Job) (transaction : Transaction) :
    handedInTurn created jobs transaction engine =
      counted engine.nextNode (Batch.cost (tried created jobs transaction engine)) := by
  induction jobs generalizing created transaction engine with
  | nil => rfl
  | cons job jobs induction =>
      have skipped := stageJob_skip isOpen created job transaction
      rw [handedInTurn, tried, handedTo_eq isOpen]
      rcases staging : stageJob created job transaction engine with
        ⟨failure | ⟨node, staged⟩, after⟩
      · rw [Batch.cost, Batch.cost, Nat.add_zero, List.append_nil]
      · rw [staging] at skipped
        rcases skipped with rfl
        have later : (engine.skip job.cost).isClosed = false := isOpen
        rw [Batch.cost, counted_append]
        exact congrArg _ (induction later (created ++ [node]) staged)

/-! ## Calls and events -/

def handed (engine : Engine) : Call → List NodeId
  | .stage id .createNode => told (engine.stage id .createNode).1
  | .executeBatch batch =>
      if engine.isClosed then [] else handedInTurn [] batch {} engine.begun
  | _ => []

theorem handed_eq (call : Call) (engine : Engine) :
    engine.handed call = counted engine.nextNode (engine.allocations call) := by
  cases call with
  | stage id step =>
      cases step with
      | createNode =>
          rw [handed, allocations, stage]
          cases found : engine.transactions[id]? with
          | none => rfl
          | some transaction =>
              rcases engine.stageIn_cases .createNode transaction with
                ⟨failure, outcome⟩ | ⟨-, outcome⟩ | ⟨other, -⟩
              · simp only [outcome]
                rfl
              · simp only [outcome]
                exact (counted_one engine.nextNode).symm
              · exact absurd rfl other
      | _ => rfl
  | executeBatch batch =>
      rw [handed, allocations]
      cases isOpen : engine.isClosed with
      | true => rfl
      | false =>
          have begun : engine.begun.isClosed = false := isOpen
          exact handedInTurn_eq begun [] batch {}
  | _ => rfl

theorem allocations_closed (closed : engine.isClosed = true) (call : Call) :
    engine.allocations call = 0 := by
  cases call with
  | stage id step =>
      cases step with
      | createNode =>
          rw [allocations, stage]
          cases engine.transactions[id]? with
          | none => rfl
          | some transaction =>
              have refused : engine.stageIn .createNode transaction = (.error .closed, engine) := by
                rw [stageIn, if_pos closed]
              simp only [refused]
              rfl
      | _ => rfl
  | executeBatch batch => rw [allocations, if_pos closed]
  | _ => rfl

end Engine

namespace Event

def handed (engine : Engine) : Event → List NodeId
  | .call made => engine.handed made
  | _ => []

def allocations (engine : Engine) : Event → Nat
  | .call made => engine.allocations made
  | _ => 0

theorem handed_eq (event : Event) (engine : Engine) :
    event.handed engine = counted engine.nextNode (event.allocations engine) := by
  cases event with
  | call made => exact engine.handed_eq made
  | _ => rfl

theorem nextNode_change (event : Event) (engine : Engine) :
    (event.change engine).nextNode =
      engine.nextNode + UInt64.ofNat (event.allocations engine) := by
  have still : engine.nextNode = engine.nextNode + UInt64.ofNat 0 := (UInt64.add_zero _).symm
  cases event with
  | call made => exact Engine.nextNode_perform made engine
  | drop id => exact still
  | shutdown disk =>
      dsimp only [change, Engine.shutdown]
      split
      · exact still
      · exact still

end Event

namespace Engine

def handedThrough : List Event → Engine → List NodeId
  | [], _ => []
  | event :: later, engine => event.handed engine ++ handedThrough later (event.change engine)

def allocatedThrough : List Event → Engine → Nat
  | [], _ => 0
  | event :: later, engine =>
      event.allocations engine + allocatedThrough later (event.change engine)

theorem handedThrough_eq (events : List Event) (engine : Engine) :
    engine.handedThrough events = counted engine.nextNode (engine.allocatedThrough events) := by
  induction events generalizing engine with
  | nil => rfl
  | cons event later induction =>
      rw [handedThrough, allocatedThrough, counted_append, induction, event.handed_eq,
        event.nextNode_change]

end Engine

end RecordGraph
