import RecordGraph.Proofs.Conveying

namespace RecordGraph

/-! Names of indexes. An index is created and written to under the name that the client gives. But
it is read over a link under what arrives of this name in a path: that is the same name or another
one, or there is nothing left that leads to an index. -/

theorem Url.arriving?_ne {index : String} (lost : ¬ Keeps index) (name : String) :
    arriving? name ≠ some index :=
  fun arrives => lost (keeps_of_arriving? arrives)

namespace RemoteLink

theorem readUnder_keeps {index : String} {read : String → Except Failure (List NodeId)}
    (keeps : Url.Keeps index) : readUnder index read = read index := by
  rw [readUnder, Url.arriving?_keeps keeps]

end RemoteLink

namespace Host

variable {host : Host} {link : LinkId} {service : ServiceId} {id : EngineId} {index : String}

theorem Linked.turns (linked : Linked link service id host) (there : id < host.engines.length)
    (isOpen : (host.link link).isClosed = false) (turns : List Turn) :
    Linked link service id (host.turns turns) ∧ id < (host.turns turns).engines.length ∧
      ((host.turns turns).link link).isClosed = false := by
  induction turns generalizing host with
  | nil => exact ⟨linked, there, isOpen⟩
  | cons turn later induction =>
      refine induction (linked.turn turn) (Nat.lt_of_lt_of_le there (host.length_turn turn)) ?_
      rw [(host.link_turn turn link).1]
      exact isOpen

/-- A link over which an index is created, or found to be there, is open and has the address of the
root of its service. -/
theorem linked_of_createIndex {url : String}
    (based : RemoteLink.baseOf url = .ok (host.link link).base)
    (leads : host.network = .loopback (host.link link).base.origin service)
    (front : ∃ table : Http.Service, host.fronts[service]? = some ⟨id, table⟩)
    (there : id < host.engines.length)
    (accepted : (host.perform (.remote link) (.createIndex index)).1 = .ok () ∨
      ∃ name, (host.perform (.remote link) (.createIndex index)).1 = .error (.indexExists name)) :
    Linked link service id host ∧ (host.link link).isClosed = false := by
  rcases front with ⟨table, found⟩
  rcases RemoteLink.divided_baseOf based with ⟨before, divided⟩
  cases isClosed : (host.link link).isClosed with
  | true =>
      have refused : (host.perform (.remote link) (.createIndex index)).1 = .error .closed := by
        rw [perform, RemoteLink.perform, isClosed]
        rfl
      rcases accepted with done | ⟨name, exists_⟩
      · cases refused.symm.trans done
      · cases refused.symm.trans exists_
  | false =>
      rcases divided.demand_createIndex index with grounded | elsewhere
      · exact ⟨⟨grounded, leads, table, found⟩, rfl⟩
      · have refused := createIndex_elsewhere isClosed leads found there elsewhere
        rw [refused] at accepted
        rcases accepted with done | ⟨name, exists_⟩
        · cases done
        · cases exists_

/-- Whatever is done on a host after an index has been created over a link: it is read over the link
under what arrives of its name, and that is what is read at hand if the name arrives as it is. If it
does not, the index is not read over a link at all. -/
theorem read_created {url : String} (based : RemoteLink.baseOf url = .ok (host.link link).base)
    (leads : host.network = .loopback (host.link link).base.origin service)
    (front : ∃ table : Http.Service, host.fronts[service]? = some ⟨id, table⟩)
    (there : id < host.engines.length)
    (accepted : (host.perform (.remote link) (.createIndex index)).1 = .ok () ∨
      ∃ name, (host.perform (.remote link) (.createIndex index)).1 = .error (.indexExists name))
    (turns : List Turn) :
    let created := (host.perform (.remote link) (.createIndex index)).2
    let later := created.turns turns
    (host.perform (.remote link) (.createIndex index)).1 =
        (host.perform (.embedded id) (.createIndex index)).1 ∧
      created.engine id = (host.perform (.embedded id) (.createIndex index)).2.engine id ∧
      (∀ key value, later.perform (.remote link) (.indexGet index key value) =
        (RemoteLink.readUnder index fun name =>
          (later.perform (.embedded id) (.indexGet name key value)).1, later)) ∧
      (∀ range, later.perform (.remote link) (.indexRange index range) =
        (RemoteLink.readUnder index fun name =>
          (later.perform (.embedded id) (.indexRange name range)).1, later)) ∧
      (Url.Keeps index →
        (∀ key value, (later.perform (.remote link) (.indexGet index key value)).1 =
          (later.perform (.embedded id) (.indexGet index key value)).1) ∧
        ∀ range, (later.perform (.remote link) (.indexRange index range)).1 =
          (later.perform (.embedded id) (.indexRange index range)).1) ∧
      (¬ Url.Keeps index → ∀ name, Url.arriving? name ≠ some index) := by
  intro created later
  rcases linked_of_createIndex based leads front there accepted with ⟨linked, isOpen⟩
  have writes : (Call.createIndex index).reads = false := rfl
  rcases linked.perform_writes there isOpen writes rfl with ⟨answer, engine⟩
  have turned : created = host.turn (host.asked service link (.createIndex index)) := by
    have sends : ((host.link link).isClosed && !(Call.createIndex index).finishes) = false := by
      rw [isOpen, Bool.false_and]
    exact congrArg Prod.snd (linked.perform_sent sends)
  have after := linked.turns there isOpen (host.asked service link (.createIndex index) :: turns)
  rw [Host.turns, ← turned] at after
  rcases after with ⟨linked, inside, isOpen⟩
  have get (key value : String) := linked.perform_indexGet inside isOpen index key value
  have range (range : IndexRange) := linked.perform_indexRange inside isOpen index range
  refine ⟨answer, engine.trans (engine_setEngine there _).symm, get, range, fun keeps => ⟨?_, ?_⟩,
    Url.arriving?_ne⟩
  · intro key value
    rw [get, RemoteLink.readUnder_keeps keeps]
    rfl
  · intro wanted
    rw [range, RemoteLink.readUnder_keeps keeps]
    rfl

/-- An index with a slash, a percent sign and a letter with an accent in its name: it is created,
others fill it, and it is read over the link as at hand. -/
theorem read_created_escaped :
    let host : Host := {
      engines := [.inMemory]
      fronts := [{ engine := 0 }]
      links := [{ base := ⟨"http", some "h", .parts Http.rootParts, none, none⟩ }]
      network := .loopback "http://h" 0 }
    let index := "a/%2Fé"
    let created := (host.perform (.remote 0) (.createIndex index)).2
    let later := created.turns [.call 0 (.executeBatch [
      .createNode {}, .indexAdd index (.job 0) "key" "value"])]
    (host.perform (.remote 0) (.createIndex index)).1 = .ok () ∧
      (later.perform (.embedded 0) (.indexGet index "key" "value")).1 = .ok [1] ∧
      (later.perform (.remote 0) (.indexGet index "key" "value")).1 = .ok [1] := by
  intro host index created later
  have based : RemoteLink.baseOf "http://h" = .ok (host.link 0).base := by decide +kernel
  have accepted : (host.perform (.remote 0) (.createIndex index)).1 = .ok () := by decide +kernel
  have filled : (later.perform (.embedded 0) (.indexGet index "key" "value")).1 = .ok [1] := by
    decide +kernel
  have read := read_created based rfl ⟨{}, rfl⟩ (by decide) (.inl accepted)
    [.call 0 (.executeBatch [.createNode {}, .indexAdd index (.job 0) "key" "value"])]
  have same := (read.2.2.2.2.1 (by decide)).1 "key" "value"
  exact ⟨accepted, filled, same.trans filled⟩

/-- Three indexes are created over a link, and two are filled. Over the link, the entries of the
second one are told for the first one, and the third one is not found. -/
theorem read_created_astray :
    let host : Host := {
      engines := [.inMemory]
      fronts := [{ engine := 0 }]
      network := .loopback "http://h" 0 }
    let connected := host.connect "http://h"
    let tabbed := connected.2.perform (.remote 0) (.createIndex "a\tb")
    let untabbed := tabbed.2.perform (.remote 0) (.createIndex "ab")
    let dotted := untabbed.2.perform (.remote 0) (.createIndex "..")
    let filled := dotted.2.perform (.embedded 0) (.executeBatch [
      .createNode {}, .indexAdd "a\tb" (.job 0) "k" "v",
      .createNode {}, .indexAdd "ab" (.job 2) "k" "v"])
    let direct := fun index => (filled.2.perform (.embedded 0) (.indexGet index "k" "v")).1
    let linked := fun index => (filled.2.perform (.remote 0) (.indexGet index "k" "v")).1
    connected.1 = .ok 0 ∧ tabbed.1 = .ok () ∧ untabbed.1 = .ok () ∧ dotted.1 = .ok () ∧
      filled.1 = .ok [some 1, none, some 2, none] ∧
      direct "a\tb" = .ok [1] ∧ linked "a\tb" = .ok [2] ∧
      direct ".." = .ok [] ∧ linked ".." = .error (.remote 404 "404 Not Found") := by
  intro host connected tabbed untabbed dotted filled direct linked
  exact ⟨by decide +kernel, by decide +kernel, by decide +kernel, by decide +kernel,
    by decide +kernel, by decide +kernel, by decide +kernel, by decide +kernel,
    by decide +kernel⟩

end Host

end RecordGraph
