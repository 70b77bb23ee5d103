import RecordGraph.Proofs.Engine.Handing
import RecordGraph.Proofs.File.Restoring

namespace RecordGraph

/-! Engines over graphs that somebody has stored. Any file that is read may hold any numbers, up to
the last word; how far an engine can count from there decides whether it hands out numbers that
nobody has. -/

/-- The number above all nodes and not below the stored counter, from one on. It may be the one after
the last word. -/
def Snapshot.firstFree (snapshot : Snapshot) : Nat :=
  let afterLast := match snapshot.graph.nodes.keys.getLast? with
    | none => 1
    | some last => last.toNat + 1
  max (max afterLast snapshot.nextNode.toNat) 1

def lastWord : NodeId := 18446744073709551615

namespace Snapshot

variable {snapshot : Snapshot} {node : NodeId}

theorem one_le_firstFree (snapshot : Snapshot) : 1 ≤ snapshot.firstFree := Nat.le_max_right _ _

theorem toNat_lt_firstFree (there : snapshot.graph.hasNode node = true) :
    node.toNat < snapshot.firstFree := by
  have member : node ∈ snapshot.graph.nodes := Std.ExtTreeMap.contains_iff_mem.1 there
  cases found : snapshot.graph.nodes.maxKey? with
  | none => simp [Std.ExtTreeMap.maxKey?_eq_none_iff.1 found] at member
  | some last =>
      have greatest := (Std.ExtTreeMap.maxKey?_eq_some_iff_mem_and_forall.1 found).2 node member
      have most : node ≤ last := (Std.LawfulOrderOrd.isLE_compare _ _).1 greatest
      rw [UInt64.le_iff_toNat_le] at most
      simp only [firstFree, ← Std.ExtTreeMap.maxKey?_eq_getLast?_keys, found]
      omega

theorem firstFree_lt_iff :
    snapshot.firstFree < 2 ^ 64 ↔ snapshot.graph.hasNode lastWord = false := by
  constructor
  · intro room
    rw [← Bool.not_eq_true]
    intro there
    have below := toNat_lt_firstFree there
    simp only [lastWord, UInt64.reduceToNat] at below
    omega
  · intro free
    have stored := snapshot.nextNode.toNat_lt
    cases found : snapshot.graph.nodes.maxKey? with
    | none =>
        simp only [firstFree, ← Std.ExtTreeMap.maxKey?_eq_getLast?_keys, found]
        omega
    | some last =>
        rcases Std.ExtTreeMap.maxKey?_eq_some_iff_mem_and_forall.1 found with ⟨there, -⟩
        have other : last.toNat ≠ 2 ^ 64 - 1 := by
          intro same
          have word : last = lastWord := UInt64.toNat_inj.1 same
          rw [word, ← Std.ExtTreeMap.contains_iff_mem] at there
          exact Bool.false_ne_true (free.symm.trans there)
        have most := last.toNat_lt
        simp only [firstFree, ← Std.ExtTreeMap.maxKey?_eq_getLast?_keys, found]
        omega

end Snapshot

namespace Engine

variable {snapshot : Snapshot}

private theorem toNat_max (first second : NodeId) :
    (max first second).toNat = max first.toNat second.toNat := by
  change (if first ≤ second then second else first).toNat = _
  split
  · rename_i less
    exact (Nat.max_eq_right (UInt64.le_iff_toNat_le.1 less)).symm
  · rename_i greater
    rw [UInt64.not_le, UInt64.lt_iff_toNat_lt] at greater
    exact (Nat.max_eq_left (Nat.le_of_lt greater)).symm

/-- An engine counts from the first free number, unless this is no word. -/
theorem toNat_nextNode_ofGraph (snapshot : Snapshot) (location : Option String) :
    (ofGraph location snapshot.graph snapshot.nextNode).nextNode.toNat = snapshot.firstFree ↔
      snapshot.firstFree < 2 ^ 64 := by
  refine ⟨fun same => same ▸ UInt64.toNat_lt _, fun room => ?_⟩
  rw [ofGraph, toNat_max, toNat_max, Snapshot.firstFree]
  rw [Snapshot.firstFree] at room
  cases last_eq : snapshot.graph.nodes.keys.getLast? with
  | none => rfl
  | some last =>
      rw [last_eq] at room
      dsimp only at room ⊢
      have after : (last + 1).toNat = last.toNat + 1 := toNat_add_one (by omega)
      rw [after]
      rfl

/-- Whoever opens a stored graph, the engine counts from the first free number, unless the last word
is a node already. Then all numbers that it hands out are new, and neither zero nor those of stored
nodes, as long as the words do not run out, and no longer. -/
theorem handed_openAt {directory : String} {disk made after : Disk}
    (making : disk.makeDirectories (.ofText directory) = (.ok (), made))
    (loading : Snapshot.load directory made = (.ok (some snapshot), after))
    (events : List Event) :
    ∃ engine, openAt directory disk = (.ok engine, after) ∧ engine.graph = snapshot.graph ∧
      (engine.nextNode.toNat = snapshot.firstFree ↔ snapshot.graph.hasNode lastWord = false) ∧
      (snapshot.graph.hasNode lastWord = false →
        ((engine.handedThrough events).Nodup ∧ (∀ node ∈ engine.handedThrough events,
            node ≠ 0 ∧ snapshot.graph.hasNode node = false) ↔
          snapshot.firstFree + engine.allocatedThrough events ≤ 2 ^ 64)) := by
  set engine := ofGraph (some directory) snapshot.graph snapshot.nextNode with engine_eq
  have start := toNat_nextNode_ofGraph snapshot (some directory)
  rw [← engine_eq] at start
  have opened : openAt directory disk = (.ok engine, after) := by
    rw [openAt, making]
    dsimp only
    rw [loading]
    rfl
  refine ⟨engine, opened, rfl, start.trans Snapshot.firstFree_lt_iff, fun free => ?_⟩
  have next := start.2 (Snapshot.firstFree_lt_iff.2 free)
  have least := snapshot.one_le_firstFree
  have started : 1 ≤ engine.nextNode := by
    rw [UInt64.le_iff_toNat_le, next]
    exact least
  rw [handedThrough_eq, ← next]
  constructor
  · rintro ⟨-, unused⟩
    by_contra many
    exact (unused 0 (zero_mem_counted started (Nat.not_le.1 many))).1 rfl
  · intro room
    refine ⟨counted_nodup (by omega), fun node member => ?_⟩
    have above := UInt64.le_iff_toNat_le.1 (le_of_mem_counted room member)
    refine ⟨fun zero => ?_, ?_⟩
    · rw [zero, next] at above
      simp only [UInt64.reduceToNat] at above
      omega
    · rw [← Bool.not_eq_true]
      intro there
      have below := Snapshot.toNat_lt_firstFree there
      omega

/-! ## Stored graphs at the end of the words -/

def shelf (snapshot : Snapshot) : Disk := (snapshot.save "/g" (openAt "/g" {}).2).2

theorem openAt_shelf (fits : snapshot.Fits) :
    openAt "/g" (shelf snapshot) =
      (.ok (ofGraph (some "/g") snapshot.graph snapshot.nextNode), shelf snapshot) := by
  have vacant : Disk.Vacant "/g" {} := {
    calm := rfl
    made := by decide +kernel
    target := ⟨["g", "graph.snapshot"], by decide +kernel⟩
    draft := ⟨["g", "graph.tmp"], by decide +kernel⟩
    absent := by decide +kernel }
  rcases vacant.open_new with ⟨after, opened, prepared⟩
  rcases prepared.save snapshot with ⟨saved, saving, ready, holds⟩
  rw [shelf, opened, saving]
  exact ready.open_held holds (Snapshot.decode_encode _ fits)

def creations : List Event :=
  [.call .beginTransaction, .call (.stage 1 .createNode), .call (.stage 1 .createNode)]

/-- The stored counter is below the only node, which does not get its number a second time. -/
theorem handed_openAt_stored :
    let snapshot : Snapshot := { nextNode := 5, graph := { nodes := .insert ∅ 7 ∅ } }
    ∃ engine, (openAt "/g" (shelf snapshot)).1 = .ok engine ∧
      engine.handedThrough creations = [8, 9] ∧ (engine.handedThrough creations).Nodup ∧
        ∀ node ∈ engine.handedThrough creations, node ≠ 0 ∧ snapshot.graph.hasNode node = false := by
  intro snapshot
  have making : ((shelf snapshot).makeDirectories (.ofText "/g")).1 = .ok () := by decide +kernel
  have loading : (Snapshot.load "/g" ((shelf snapshot).makeDirectories (.ofText "/g")).2).1 =
      .ok (some snapshot) := by decide +kernel
  rcases handed_openAt (Prod.ext making rfl) (Prod.ext loading rfl) creations with
    ⟨engine, opened, -, -, unused⟩
  have found : engine = ofGraph (some "/g") snapshot.graph snapshot.nextNode := by
    rw [openAt_shelf (by decide +kernel)] at opened
    exact (Except.ok.inj (Prod.mk.inj opened).1).symm
  refine ⟨engine, congrArg Prod.fst opened, ?_, (unused (by decide +kernel)).2 ?_⟩
  · rw [found]
    decide +kernel
  · rw [found]
    decide +kernel

def brimming : Snapshot :=
  { nextNode := 0, graph := { nodes := .insert (.insert ∅ 1 ∅) lastWord ∅ } }

/-- Where the stored counter is the last word, zero is handed out after it. Where the last word is a
node, and the counter lags behind, the number of a stored node is handed out. -/
theorem openAt_runs_over :
    (∃ engine, (openAt "/g" (shelf { nextNode := lastWord })).1 = .ok engine ∧
        engine.handedThrough creations = [lastWord, 0]) ∧
      ∃ engine, (openAt "/g" (shelf brimming)).1 = .ok engine ∧
        engine.handedThrough creations = [1, 2] ∧ brimming.graph.hasNode 1 = true := by
  constructor
  · have fits : ({ nextNode := lastWord } : Snapshot).Fits := by decide +kernel
    refine ⟨_, congrArg Prod.fst (openAt_shelf fits), ?_⟩
    decide +kernel
  · have fits : brimming.Fits := by decide +kernel
    refine ⟨_, congrArg Prod.fst (openAt_shelf fits), ?_, ?_⟩
    · decide +kernel
    · decide +kernel

end Engine

end RecordGraph
