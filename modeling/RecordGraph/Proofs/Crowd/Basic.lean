import RecordGraph.Proofs.Engine.Opening
import RecordGraph.Proofs.Engine.Effect
import RecordGraph.Proofs.Record.Course

namespace RecordGraph

/-! Many at work on one engine. Everyone has an errand and goes on with it call by call, in any
order, while readers read. What has been asked is kept in a history. Nobody touches the transaction
of anybody else. -/

theorem of_getElem?_append {Item : Type} {items : List Item} {last item : Item} {position : Nat}
    (found : (items ++ [last])[position]? = some item) :
    items[position]? = some item ∨ position = items.length ∧ item = last := by
  rw [List.getElem?_append] at found
  split at found
  · exact .inl found
  · rename_i beyond
    have short := (List.getElem?_eq_some_iff.1 found).1
    rw [List.length_singleton] at short
    exact .inr ⟨by omega, List.mem_singleton.1 (List.mem_of_getElem? found)⟩

structure Task where
  binding : Binding
  errand : Errand
  rest : Dialogue errand.Result

namespace Task

def transaction? (task : Task) : Option TransactionId := task.rest.transaction?

def status? (task : Task) : Option Status :=
  match task.rest with
  | .finished outcome => some (task.errand.report outcome).status
  | .asking _ _ => none

end Task

inductive Asker where
  | reader
  | task (number : Nat) (errand : Errand)
  deriving DecidableEq

structure Exchange where
  asker : Asker
  engine : Engine
  call : Call

def Exchange.after (exchange : Exchange) : Engine := (exchange.engine.perform exchange.call).2

/-- An engine, those at work on it, and what it has been asked so far. -/
structure Crowd where
  engine : Engine
  tasks : List Task := []
  history : List Exchange := []

namespace Crowd

inductive Move where
  | start (binding : Binding) (errand : Errand)
  | advance (number : Nat)
  | read (call : { call : Call // call.reads = true })

def onwards (numbers : List Nat) : List Move := numbers.map .advance

def ask (asker : Asker) (call : Call) (crowd : Crowd) : Crowd where
  engine := (crowd.engine.perform call).2
  tasks := crowd.tasks
  history := crowd.history ++ [⟨asker, crowd.engine, call⟩]

def step (move : Move) (crowd : Crowd) : Crowd :=
  match move with
  | .start binding errand =>
      { crowd with tasks := crowd.tasks ++ [⟨binding, errand, errand.dialogue binding⟩] }
  | .advance number =>
      match crowd.tasks[number]? with
      | some ⟨binding, errand, .asking call next⟩ =>
          let task : Task := ⟨binding, errand, next (crowd.engine.perform call).1⟩
          { crowd.ask (.task number errand) call with tasks := crowd.tasks.set number task }
      | _ => crowd
  | .read call => crowd.ask .reader call

def run (moves : List Move) (crowd : Crowd) : Crowd :=
  moves.foldl (fun crowd move => crowd.step move) crowd

def call? (move : Move) (crowd : Crowd) : Option Call :=
  match move with
  | .start _ _ => none
  | .advance number =>
      match crowd.tasks[number]? with
      | some ⟨_, _, .asking call _⟩ => some call
      | _ => none
  | .read call => some call

def Throughout (holds : Crowd → Move → Prop) : List Move → Crowd → Prop
  | [], _ => True
  | move :: moves, crowd => holds crowd move ∧ Throughout holds moves (crowd.step move)

/-- No open transaction has the number that the next one gets. -/
def Fresh (crowd : Crowd) : Prop :=
  crowd.engine.transactions[crowd.engine.nextTransaction]? = none

variable {crowd : Crowd}

theorem run_keeps {allows : Crowd → Move → Prop} {holds : Crowd → Prop}
    (keeps : ∀ crowd move, allows crowd move → holds crowd → holds (crowd.step move))
    {moves : List Move} (allowed : Throughout allows moves crowd) (held : holds crowd) :
    holds (crowd.run moves) := by
  induction moves generalizing crowd with
  | nil => exact held
  | cons move moves induction => exact induction allowed.2 (keeps crowd move allowed.1 held)

theorem throughout_of_forall {also : Move → Prop} {moves : List Move}
    (each : ∀ move ∈ moves, also move) : Throughout (fun _ move => also move) moves crowd := by
  induction moves generalizing crowd with
  | nil => trivial
  | cons move moves induction =>
      exact ⟨each move List.mem_cons_self,
        induction fun other member => each other (List.mem_cons_of_mem _ member)⟩

theorem Throughout.join {first second both : Crowd → Move → Prop} {moves : List Move}
    (one : Throughout first moves crowd) (other : Throughout second moves crowd)
    (joined : ∀ crowd move, first crowd move → second crowd move → both crowd move) :
    Throughout both moves crowd := by
  induction moves generalizing crowd with
  | nil => trivial
  | cons move moves induction =>
      exact ⟨joined crowd move one.1 other.1, induction one.2 other.2⟩

/-! ## What a move can do -/

inductive Steps (crowd : Crowd) : Move → Crowd → Prop where
  | start (binding : Binding) (errand : Errand) :
      Steps crowd (.start binding errand)
        { crowd with tasks := crowd.tasks ++ [⟨binding, errand, errand.dialogue binding⟩] }
  | read (call : { call : Call // call.reads = true }) :
      Steps crowd (.read call) (crowd.ask .reader call)
  | advance (number : Nat) (binding : Binding) (errand : Errand) (call : Call)
      (next : Except Failure call.Answer → Dialogue errand.Result)
      (found : crowd.tasks[number]? = some ⟨binding, errand, .asking call next⟩) :
      Steps crowd (.advance number) { crowd.ask (.task number errand) call with
        tasks := crowd.tasks.set number ⟨binding, errand, next (crowd.engine.perform call).1⟩ }
  | idle (number : Nat) : Steps crowd (.advance number) crowd

theorem steps_step (move : Move) (crowd : Crowd) : Steps crowd move (crowd.step move) := by
  cases move with
  | start binding errand => exact .start binding errand
  | read call => exact .read call
  | advance number =>
      rw [step]
      split
      · exact .advance number _ _ _ _ ‹_›
      · exact .idle number

theorem engine_ask_reads {call : Call} (asker : Asker) (reads : call.reads = true) :
    (crowd.ask asker call).engine = crowd.engine :=
  Engine.perform_reads reads

/-- A move makes a call and keeps it in the history, or does nothing to the engine. -/
theorem Steps.asks {move : Move} {later : Crowd} (steps : Steps crowd move later) :
    (later.engine = crowd.engine ∧ later.history = crowd.history) ∨
      ∃ asker call, crowd.call? move = some call ∧
        later.engine = (crowd.engine.perform call).2 ∧
        later.history = crowd.history ++ [⟨asker, crowd.engine, call⟩] := by
  cases steps with
  | start binding errand => exact .inl ⟨rfl, rfl⟩
  | read call => exact .inr ⟨.reader, call, rfl, rfl, rfl⟩
  | advance number binding errand call next found =>
      refine .inr ⟨.task number errand, call, ?_, rfl, rfl⟩
      rw [call?, found]
  | idle number => exact .inl ⟨rfl, rfl⟩

/-! ## One task among others -/

variable {number other : Nat} {task another : Task} {id : TransactionId}

theorem of_set (found : (crowd.tasks.set number task)[other]? = some another) :
    (other = number ∧ another = task) ∨ (other ≠ number ∧ crowd.tasks[other]? = some another) := by
  rw [List.getElem?_set] at found
  split at found
  · rename_i same
    split at found
    · exact .inl ⟨same.symm, (Option.some.inj found).symm⟩
    · cases found
  · rename_i different
    exact .inr ⟨Ne.symm different, found⟩

/-- Every task is about its own transaction only, which is open and not that of another task. -/
structure Apart (crowd : Crowd) : Prop where
  within_ : ∀ (number : Nat) (task : Task), crowd.tasks[number]? = some task →
    task.rest.Within task.transaction?
  held : ∀ (number : Nat) (task : Task) (id : TransactionId), crowd.tasks[number]? = some task →
    task.transaction? = some id → id ∈ crowd.engine.transactions
  alone : ∀ (number other : Nat) (task another : Task) (id : TransactionId),
    crowd.tasks[number]? = some task → crowd.tasks[other]? = some another →
    task.transaction? = some id → another.transaction? = some id → number = other

theorem apart_nil (engine : Engine) : Apart { engine } where
  within_ number task found := by simp at found
  held number task id found := by simp at found
  alone number other task another id found := by simp at found

/-- The transaction that a call leaves open is open. The call was about it, or has begun it. -/
theorem mem_of_leaves {engine : Engine} {call : Call}
    (held : ∀ id, call.transaction? = some id → id ∈ engine.transactions)
    (leaves : call.leaves (engine.perform call).1 = some id) :
    id ∈ (engine.perform call).2.transactions ∧
      (call.transaction? = some id ∨ call = .beginTransaction ∧ id = engine.nextTransaction) := by
  cases call with
  | beginTransaction =>
      rw [Engine.perform, Engine.beginTransaction] at leaves ⊢
      split at leaves
      · cases leaves
      · rename_i isOpen
        cases leaves
        rw [if_neg isOpen]
        exact ⟨Std.ExtTreeMap.mem_insert_self, .inr ⟨rfl, rfl⟩⟩
  | stage own step =>
      cases leaves
      exact ⟨(engine.mem_transactions_stage id id step).2 (held id rfl), .inl rfl⟩
  | _ => cases leaves

namespace Apart

variable {binding : Binding} {errand : Errand} {call : Call}
  {next : Except Failure call.Answer → Dialogue errand.Result}

theorem next_ne (apart : Apart crowd) (fresh : crowd.Fresh)
    (standing : crowd.tasks[other]? = some another) (about : another.transaction? = some id) :
    crowd.engine.nextTransaction ≠ id := by
  rintro rfl
  have member := apart.held other another _ standing about
  rw [Std.ExtTreeMap.mem_iff_isSome_getElem?, fresh] at member
  cases member

theorem kept (apart : Apart crowd) (fresh : crowd.Fresh)
    (found : crowd.tasks[number]? = some ⟨binding, errand, .asking call next⟩)
    (different : other ≠ number) (standing : crowd.tasks[other]? = some another)
    (about : another.transaction? = some id) :
    (crowd.engine.perform call).2.transactions[id]? = crowd.engine.transactions[id]? := by
  refine crowd.engine.transactions_perform id (fun own => ?_) fun _ => ?_
  · exact different (apart.alone other number another _ id standing found about own)
  · exact apart.next_ne fresh standing about

theorem goesOn (apart : Apart crowd) (fresh : crowd.Fresh)
    (found : crowd.tasks[number]? = some ⟨binding, errand, .asking call next⟩) :
    let rest := next (crowd.engine.perform call).1
    rest.Within rest.transaction? ∧ ∀ id, rest.transaction? = some id →
      id ∈ (crowd.engine.perform call).2.transactions ∧
        ∀ (other : Nat) (another : Task), other ≠ number → crowd.tasks[other]? = some another →
          another.transaction? ≠ some id := by
  have within_ := (apart.within_ number _ found).2 (crowd.engine.perform call).1
  have same := within_.transaction?_eq
  refine ⟨within_.self, fun id about => ?_⟩
  have leaves := same.symm.trans about
  rcases mem_of_leaves (fun id own => apart.held number _ id found own) leaves with ⟨member, own⟩
  refine ⟨member, fun other another different standing theirs => ?_⟩
  rcases own with own | ⟨-, next⟩
  · exact different (apart.alone other number another _ id standing found theirs own)
  · exact apart.next_ne fresh standing theirs next.symm

theorem step (apart : Apart crowd) (fresh : crowd.Fresh) {move : Move} {later : Crowd}
    (steps : Steps crowd move later) : Apart later := by
  cases steps with
  | idle => exact apart
  | read call =>
      refine ⟨apart.within_, fun number task id found about => ?_, apart.alone⟩
      rw [engine_ask_reads _ call.2]
      exact apart.held number task id found about
  | start binding errand =>
      have within_ := errand.within_dialogue binding
      have none_ := within_.transaction?_eq
      have before {number : Nat} {task : Task} {id : TransactionId}
          (found : (crowd.tasks ++ [⟨binding, errand, errand.dialogue binding⟩])[number]? =
            some task)
          (about : task.transaction? = some id) : crowd.tasks[number]? = some task := by
        rcases of_getElem?_append found with before | ⟨-, rfl⟩
        · exact before
        · cases none_.symm.trans about
      constructor
      · intro number task found
        rcases of_getElem?_append found with before | ⟨-, rfl⟩
        · exact apart.within_ number task before
        · exact within_.self
      · intro number task id found about
        exact apart.held number task id (before found about) about
      · intro number other task another id found foundOther about aboutOther
        exact apart.alone number other task another id (before found about)
          (before foundOther aboutOther) about aboutOther
  | advance number binding errand call next found =>
      rcases apart.goesOn fresh found with ⟨within_, own⟩
      constructor
      · intro other task standing
        rcases of_set standing with ⟨-, rfl⟩ | ⟨-, standing⟩
        · exact within_
        · exact apart.within_ other task standing
      · intro other task id standing about
        rcases of_set standing with ⟨-, rfl⟩ | ⟨different, standing⟩
        · exact (own id about).1
        · have kept := apart.kept fresh found different standing about
          have member := apart.held other task id standing about
          rw [Std.ExtTreeMap.mem_iff_isSome_getElem?] at member ⊢
          exact (congrArg Option.isSome kept).trans member
      · intro first second task another id standing standingOther about aboutOther
        rcases of_set standing with ⟨same, rfl⟩ | ⟨different, standing⟩
        · rcases of_set standingOther with ⟨sameOther, -⟩ | ⟨differentOther, standingOther⟩
          · exact same.trans sameOther.symm
          · exact absurd aboutOther ((own id about).2 second another differentOther standingOther)
        · rcases of_set standingOther with ⟨-, rfl⟩ | ⟨-, standingOther⟩
          · exact absurd about ((own id aboutOther).2 first task different standing)
          · exact apart.alone first second task another id standing standingOther about aboutOther

end Apart

end Crowd

end RecordGraph
