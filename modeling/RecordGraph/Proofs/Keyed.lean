import RecordGraph.Proofs.Conveying
import RecordGraph.Proofs.Record.Keyed
import RecordGraph.Proofs.Upholding

namespace RecordGraph

/-! Hosts that keep keys. Every engine of the host keeps its keys, whoever talks to it by whatever
connection, and it keeps them from one opening to the next. -/

variable {keys : KeyIndex} {covers : String → Bytes → Prop} {bound later : Nat}

/-! ## From one opening to the next -/

structure Snapshot.Keyed (keys : KeyIndex) (covers : String → Bytes → Prop) (bound : Nat)
    (snapshot : Snapshot) : Prop where
  graph : snapshot.graph.Keyed keys covers snapshot.nextNode
  started : 1 ≤ snapshot.nextNode
  bounded : snapshot.nextNode.toNat ≤ bound

namespace Engine

theorem lasting_keyed (least : 1 ≤ bound) :
    Lasting (Engine.Keyed keys covers bound) (Snapshot.Keyed keys covers bound) where
  new location := by
    have next : (ofGraph location {} 0).nextNode = 1 := rfl
    exact ⟨rfl, Graph.keyed_empty keys covers _, UInt64.le_of_eq next.symm, least⟩
  snapshot _ keyed := ⟨keyed.graph, keyed.started, keyed.bounded⟩
  opened location snapshot keyed := by
    have next := nextNode_ofGraph keyed.graph.below keyed.started location
    refine ⟨rfl, ?_, ?_, ?_⟩
    all_goals rw [next]
    · exact keyed.graph
    · exact keyed.started
    · exact keyed.bounded
  closed _ keyed := keyed.closed

end Engine

namespace Host

/-- The engines keep their keys. Services and registries are those of engines that are there, and no
service knows of an open transaction. -/
structure Keyed (keys : KeyIndex) (covers : String → Bytes → Prop) (bound : Nat) (host : Host) : Prop where
  upholds : host.Upholds (Engine.Keyed keys covers bound) (Snapshot.Keyed keys covers bound)
  fronts : ∀ front ∈ host.fronts,
    front.engine < host.engines.length ∧ front.service.transactions = ∅
  holders : ∀ registry ∈ host.registries, ∀ id ∈ registry.engine, id < host.engines.length

/-- The connection leads to an engine at hand, or by a link to the service in front of one, unless
the link has been closed. -/
def Leads (connection : Connection) (host : Host) : Prop :=
  match connection with
  | .embedded id => id < host.engines.length
  | .remote id => ∃ link, host.links[id]? = some link ∧ (link.isClosed = false →
      Http.Grounded link.base ∧ ∃ service < host.fronts.length,
        host.network = .loopback link.base.origin service)

structure Continues (host later : Host) : Prop where
  engines : host.engines.length ≤ later.engines.length
  links : ∀ (id : LinkId) (link : RemoteLink), host.links[id]? = some link →
    ∃ next, later.links[id]? = some next ∧ (next = link ∨ next.isClosed = true)
  fronts : later.fronts.length = host.fronts.length
  network : later.network = host.network

variable {host after : Host} {connection : Connection} {id : EngineId}

theorem continues_refl (host : Host) : host.Continues host :=
  ⟨Nat.le_refl _, fun _ link found => ⟨link, found, .inl rfl⟩, rfl, rfl⟩

theorem Continues.trans {last : Host} (first : host.Continues after)
    (second : after.Continues last) : host.Continues last where
  engines := Nat.le_trans first.engines second.engines
  links id link found := by
    rcases first.links id link found with ⟨next, between, same⟩
    rcases second.links id next between with ⟨final, last, rfl | closed⟩
    · exact ⟨final, last, same⟩
    · exact ⟨final, last, .inr closed⟩
  fronts := second.fronts.trans first.fronts
  network := second.network.trans first.network

theorem Leads.continues (leads : Leads connection host) (continues : host.Continues after) :
    Leads connection after := by
  cases connection with
  | embedded id => exact Nat.lt_of_lt_of_le leads continues.engines
  | remote id =>
      rcases leads with ⟨link, found, ways⟩
      rcases continues.links id link found with ⟨next, later, rfl | closed⟩
      · refine ⟨next, later, fun isOpen => ?_⟩
        rw [continues.fronts, continues.network]
        exact ways isOpen
      · exact ⟨next, later, fun isOpen => by cases closed.symm.trans isOpen⟩

structure Sequel (keys : KeyIndex) (covers : String → Bytes → Prop) (bound : Nat) (host later : Host) :
    Prop where
  keyed : later.Keyed keys covers bound
  continues : host.Continues later

theorem Sequel.trans {last : Host} (first : Sequel keys covers bound host after)
    (second : Sequel keys covers later after last) : Sequel keys covers later host last :=
  ⟨second.keyed, first.continues.trans second.continues⟩

namespace Keyed

theorem sequel (keyed : host.Keyed keys covers bound) : Sequel keys covers bound host host :=
  ⟨keyed, host.continues_refl⟩

theorem mono (keyed : host.Keyed keys covers bound) (more : bound ≤ later) :
    host.Keyed keys covers later where
  upholds := keyed.upholds.mono (fun _ own => own.mono more) fun _ own =>
    { own with bounded := Nat.le_trans own.bounded more }
  fronts := keyed.fronts
  holders := keyed.holders

theorem engine (keyed : host.Keyed keys covers bound) (there : id < host.engines.length) :
    (host.engine id).Keyed keys covers bound := by
  have found := List.getElem?_eq_getElem there
  rw [Host.engine, found]
  exact keyed.upholds.engines _ (List.getElem_mem there)

theorem setEngine (keyed : host.Keyed keys covers bound) (id : EngineId) {engine : Engine}
    (own : engine.Keyed keys covers bound) : (host.setEngine id engine).Keyed keys covers bound where
  upholds := keyed.upholds.setEngine id own
  fronts := by
    rw [length_setEngine]
    exact keyed.fronts
  holders := by
    rw [length_setEngine]
    exact keyed.holders

/-! ## Talking to an engine -/

theorem conveys (keyed : host.Keyed keys covers bound) (leads : Leads connection host) :
    (∃ link, connection = .remote link ∧ (host.link link).isClosed = true) ∨
      ∃ id, Conveys connection id host := by
  cases connection with
  | embedded id => exact .inr ⟨id, rfl, leads⟩
  | remote id =>
      rcases leads with ⟨link, found, ways⟩
      have same : host.link id = link := by
        rw [Host.link, found]
        rfl
      cases isOpen : link.isClosed with
      | true => exact .inl ⟨id, rfl, by rw [same, isOpen]⟩
      | false =>
          rcases ways isOpen with ⟨grounded, service, inside, network⟩
          set front := host.fronts[service] with front_eq
          rcases keyed.fronts front (List.getElem_mem inside) with ⟨there, none_⟩
          have knows : front.service.Knows (host.engine front.engine) := by
            intro other
            rw [none_, (keyed.engine there).settled]
            exact ⟨fun member => absurd member Std.ExtTreeSet.not_mem_empty,
              fun member => absurd member Std.ExtTreeMap.not_mem_empty⟩
          refine .inr ⟨front.engine, ?_, service, there, ?_, ?_, front.service, ?_, knows⟩
          · rw [same]
            exact grounded
          · rw [same]
            exact isOpen
          · rw [same]
            exact network
          · rw [List.getElem?_eq_getElem inside]

/-- A dialogue that writes leaves the host keeping its keys if it leaves the engine keeping them. -/
theorem converse (keyed : host.Keyed keys covers bound) (conveys : Conveys connection id host)
    {Result : Type} {dialogue : Dialogue Result} (writes : dialogue.Asks (·.reads = false))
    (more : bound ≤ later)
    (own : (dialogue.run Engine.perform (host.engine id)).2.Keyed keys covers later) :
    Sequel keys covers later host (host.converse connection dialogue).2 := by
  cases connection with
  | embedded other =>
      rcases conveys with ⟨rfl, there⟩
      rw [converse_embedded there]
      refine ⟨(keyed.mono more).setEngine other own, ?_, host.continues_refl.links, rfl, rfl⟩
      rw [length_setEngine]
  | remote link =>
      rcases conveys with ⟨grounded, service, tied⟩
      rcases tied.converse (writes.mono fun _ => Http.demand_ofCall_writes grounded) with
        ⟨table, knows, conversed⟩
      have empty : table.transactions = ∅ := by
        ext1 other
        rw [knows other, own.settled]
        exact ⟨fun member => absurd member Std.ExtTreeMap.not_mem_empty,
          fun member => absurd member Std.ExtTreeSet.not_mem_empty⟩
      have fronts : ∀ front ∈ host.fronts.set service ⟨id, table⟩,
          front.engine < host.engines.length ∧ front.service.transactions = ∅ := by
        intro front member
        rcases List.mem_or_eq_of_mem_set member with before | rfl
        · exact keyed.fronts front before
        · exact ⟨tied.there, empty⟩
      have ready : Host.Keyed keys covers later
          { host with fronts := host.fronts.set service ⟨id, table⟩ } :=
        ⟨(keyed.mono more).upholds.of_same rfl rfl, fronts, keyed.holders⟩
      rw [conversed]
      refine ⟨ready.setEngine id own, ?_, host.continues_refl.links, ?_, rfl⟩
      · simp [answered]
      · simp [answered]

/-! ## Operations on records -/

variable {binding : Binding} {key : String} {fields : FieldMap}

theorem insert (keyed : host.Keyed binding.keys covers bound) (leads : Leads connection host)
    (room : bound + 1 < 2 ^ 64) (key : String)
    (covered : ∀ value, fields[binding.keyField]? = some value → covers key value) :
    Sequel binding.keys covers (bound + 1) host
      (host.converse connection (Record.insert key fields binding)).2 := by
  rcases keyed.conveys leads with ⟨link, rfl, closed⟩ | ⟨id, conveys⟩
  · have refused : host.converse (.remote link) (Record.insert key fields binding) =
        (.error .closed, host) := by
      rw [Record.insert]
      cases binding.mode
      all_goals exact converse_closed closed rfl _
    rw [refused]
    exact (keyed.mono (Nat.le_succ bound)).sequel
  · have writes : (Record.insert key fields binding).Asks (·.reads = false) := by
      rw [Record.insert]
      cases binding.mode with
      | embedded => exact (KeyIndex.encloses_insertStepwise key fields _).writes
      | remote => exact (KeyIndex.encloses_insertStepwise key fields _).writes
      | remoteBatch =>
          have batched : (Dialogue.ask (.executeBatch (binding.keys.insertBatch key fields))).Asks
            (·.reads = false) := Dialogue.asks_ask rfl
          exact batched.bind fun _ => trivial
    exact keyed.converse conveys writes (Nat.le_succ bound)
      ((keyed.engine conveys.there).insert room key covered)

private theorem converse_map {First Last : Type} (dialogue : Dialogue First)
    (change : First → Last) :
    (host.converse connection (dialogue >>= fun value => pure (change value))).2 =
      (host.converse connection dialogue).2 :=
  congrArg Prod.snd (Dialogue.run_map dialogue change host)

/-- A lookup only finds the node of a record; what matters is what is done with the node. -/
private theorem withNode (keyed : host.Keyed binding.keys covers bound)
    (leads : Leads connection host) (key : String) {Result : Type}
    {action : NodeId → Dialogue Result}
    (acts : ∀ id, Conveys connection id host →
      (host.engine id).graph.hasIndex binding.keys.index = true →
        ∀ node ∈ (host.engine id).graph.nodesUnder binding.keys key,
          Sequel binding.keys covers bound host (host.converse connection (action node)).2) :
    Sequel binding.keys covers bound host
      (host.converse connection (Record.withNode key binding action)).2 := by
  rcases keyed.conveys leads with ⟨link, rfl, closed⟩ | ⟨id, conveys⟩
  · have refused : host.converse (.remote link) (Record.withNode key binding action) =
        (.error .closed, host) := Dialogue.run_bind_error (converse_closed closed rfl _)
    rw [refused]
    exact keyed.sequel
  rcases conveys.lookup_cases (keyed.engine conveys.there).graph.only key with
    ⟨failure, failed⟩ | ⟨known, found⟩
  · have whole : host.converse connection (Record.withNode key binding action) =
        (.error failure, host) := Dialogue.run_bind_error failed
    rw [whole]
    exact keyed.sequel
  · have whole : host.converse connection (Record.withNode key binding action) = _ :=
      Dialogue.run_bind_ok found
    rw [whole]
    cases first : ((host.engine id).graph.nodesUnder binding.keys key).toList.head? with
    | none => exact keyed.sequel
    | some node =>
        have member := Std.ExtTreeSet.mem_toList.1 (List.mem_of_mem_head? first)
        have acted := acts id conveys known node member
        rw [← converse_map (action node) some] at acted
        exact acted

theorem update (keyed : host.Keyed binding.keys covers bound) (leads : Leads connection host)
    (key : String) (covered : ∀ value, fields[binding.keyField]? = some value → covers key value) :
    Sequel binding.keys covers bound host
      (host.converse connection (Record.update key fields binding)).2 := by
  rw [Record.update, converse_map _ Option.isSome]
  exact keyed.withNode leads key fun id conveys known node member =>
    keyed.converse conveys (KeyIndex.encloses_updateNode node key fields _).writes (Nat.le_refl bound)
      ((keyed.engine conveys.there).updateNode known member covered)

theorem delete (keyed : host.Keyed binding.keys covers bound) (leads : Leads connection host)
    (key : String) :
    Sequel binding.keys covers bound host
      (host.converse connection (Record.delete key binding)).2 := by
  rw [Record.delete, converse_map _ Option.isSome]
  exact keyed.withNode leads key fun id conveys known node _ =>
    keyed.converse conveys (KeyIndex.encloses_deleteNode node key _).writes (Nat.le_refl bound)
      ((keyed.engine conveys.there).deleteNode known node key)

theorem read (keyed : host.Keyed binding.keys covers bound) (leads : Leads connection host)
    (key : String) (requested : Option FieldSet) :
    Sequel binding.keys covers bound host
      (host.converse connection (Record.read key requested binding)).2 :=
  keyed.withNode leads key fun id conveys _ node _ => by
    rw [conveys.converse_reads ((KeyIndex.asks_readFields node _ _).mono fun _ => And.left)]
    exact keyed.sequel

end Keyed

end Host

end RecordGraph
