import RecordGraph.Proofs.Http.Target
import RecordGraph.Proofs.Wire.Message

namespace RecordGraph.Http

/-! A request that a client has made of a call demands this call of the service. -/

open Json

/-! ## Parts, bodies and queries -/

theorem textPart_encodePart (text : String) : textPart (encodePart text) = .ok text := by
  rw [textPart, decodePart?_encodePart]

theorem wordPart_encodePart (value : UInt64) :
    wordPart (encodePart (toString value.toNat)) = .ok value := by
  rw [wordPart, textPart_encodePart]
  simp only [bind, Except.bind, Decimal.word?_toString]

private theorem isEmpty_encodePart (value : UInt64) :
    (encodePart (toString value.toNat)).isEmpty = false := by
  rw [Bool.eq_false_iff]
  intro empty
  have nothing : encodePart "" = "" := by decide
  have part := textPart_encodePart (toString value.toNat)
  rw [String.isEmpty_iff.1 empty, ← nothing, textPart_encodePart] at part
  have word := Decimal.word?_toString value
  rw [← Except.ok.inj part] at word
  cases word

theorem readBody_written {Value : Type} {form : Codec Value} {depth : Nat}
    (faithful : form.Faithful depth) (shallow : depth ≤ Setting.outset.room) (value : Value)
    (method target : String) :
    readBody form ⟨method, target, some jsonType, form.write value, none⟩ = .ok value := by
  have json : (some jsonType).any isJsonType = true := by decide +kernel
  rw [readBody, if_pos json, faithful.parseFront shallow]
  rfl

/-! ## Routes -/

private theorem encodePart_words :
    encodePart "index" = "index" ∧ encodePart "node" = "node" ∧ encodePart "lookup" = "lookup" ∧
      encodePart "range" = "range" ∧ encodePart "property" = "property" ∧
      encodePart "properties" = "properties" ∧ encodePart "transaction" = "transaction" ∧
      encodePart "commit" = "commit" ∧ encodePart "batch" = "batch" := by
  decide +kernel

def callRoute : Call → Route
  | .createIndex _ => .indexes
  | .indexGet index _ _ => .lookup (encodePart index)
  | .indexRange index _ => .range (encodePart index)
  | .nodeProperty node _ => .property (encodePart (toString node.toNat))
  | .nodeProperties node => .properties (encodePart (toString node.toNat))
  | .beginTransaction => .transactions
  | .stage id _ => .transaction (encodePart (toString id.toNat))
  | .commit id => .commit (encodePart (toString id.toNat))
  | .rollback id => .transaction (encodePart (toString id.toNat))
  | .executeBatch _ => .batch

theorem ofParts?_callPlace (call : Call) :
    Route.ofParts? ((callPlace call).2.map encodePart) = some (callRoute call) := by
  rcases encodePart_words with
    ⟨index, node, lookup, range, property, properties, transaction, commit, batch⟩
  cases call with
  | createIndex name =>
      simp only [callPlace, List.map_cons, List.map_nil, index, node]
      rfl
  | indexGet name key value =>
      simp only [callPlace, List.map_cons, List.map_nil, index, node, lookup]
      rfl
  | indexRange name wanted =>
      simp only [callPlace, List.map_cons, List.map_nil, index, node, range]
      rfl
  | nodeProperty number name =>
      simp only [callPlace, List.map_cons, List.map_nil, node, property]
      rfl
  | nodeProperties number =>
      simp only [callPlace, List.map_cons, List.map_nil, node, properties]
      rfl
  | beginTransaction =>
      simp only [callPlace, List.map_cons, List.map_nil, transaction]
      rfl
  | stage id step =>
      simp only [callPlace, List.map_cons, List.map_nil, transaction]
      rw [Route.ofParts?, isEmpty_encodePart]
      rfl
  | commit id =>
      simp only [callPlace, List.map_cons, List.map_nil, transaction, commit]
      rfl
  | rollback id =>
      simp only [callPlace, List.map_cons, List.map_nil, transaction]
      rw [Route.ofParts?, isEmpty_encodePart]
      rfl
  | executeBatch jobs =>
      simp only [callPlace, List.map_cons, List.map_nil, batch]
      rfl

/-! ## Requests -/

def pathIndex? : Call → Option String
  | .indexGet index _ _ => some index
  | .indexRange index _ => some index
  | _ => none

def Sendable (call : Call) : Prop := ∀ index ∈ pathIndex? call, Url.Keeps index

instance (call : Call) : Decidable (Sendable call) :=
  inferInstanceAs (Decidable (∀ index ∈ pathIndex? call, Url.Keeps index))

theorem sendable_of_unnamed {call : Call} (unnamed : pathIndex? call = none) : Sendable call :=
  fun _ named => by cases unnamed.symm.trans named

private theorem keeps_words :
    Url.Keeps "index" ∧ Url.Keeps "node" ∧ Url.Keeps "lookup" ∧ Url.Keeps "range" ∧
      Url.Keeps "property" ∧ Url.Keeps "properties" ∧ Url.Keeps "transaction" ∧
      Url.Keeps "commit" ∧ Url.Keeps "batch" := by
  decide

theorem keeps_callPlace {call : Call} (sendable : Sendable call) :
    ∀ part ∈ (callPlace call).2, Url.Keeps part := by
  have number (value : UInt64) : Url.Keeps value.toNat.repr := Url.keeps_toString value.toNat
  cases call with
  | indexGet index key value =>
      have name := sendable index rfl
      simp [callPlace, keeps_words, name]
  | indexRange index range =>
      have name := sendable index rfl
      simp [callPlace, keeps_words, name]
  | createIndex name => simp [callPlace, keeps_words]
  | nodeProperty node name => simp [callPlace, keeps_words, number]
  | nodeProperties node => simp [callPlace, keeps_words, number]
  | beginTransaction => simp [callPlace, keeps_words]
  | stage id step => simp [callPlace, keeps_words, number]
  | commit id => simp [callPlace, keeps_words, number]
  | rollback id => simp [callPlace, keeps_words, number]
  | executeBatch batch => simp [callPlace, keeps_words]

theorem not_mem_callQuery (call : Call) :
    ∀ text ∈ callQuery call, 0x23 ∉ Utf8.encode text := by
  cases call
  case nodeProperty node name =>
    intro text given
    rw [← Option.some.inj given]
    exact not_mem_encodeQuery "name" name
  all_goals
    intro text given
    cases given

theorem method_ofCall (base : Url) (call : Call) : (Request.ofCall base call).method ≠ "HEAD" := by
  have method : (Request.ofCall base call).method = (callPlace call).1 := rfl
  rw [method]
  cases call
  all_goals
    dsimp only [callPlace]
    decide

/-- A bound on the body makes no difference to a request that keeps to it. -/
theorem demand_bounded {request : Request} (unbounded : request.bodyLimit = none) {limit : Nat}
    (fits : request.body.length ≤ limit) :
    { request with bodyLimit := some limit }.demand = request.demand := by
  have within_ : (some limit).any (· < request.body.length) = false :=
    decide_eq_false (Nat.not_lt.2 fits)
  have body {Value : Type} (form : Codec Value) :
      readBody form { request with bodyLimit := some limit } = readBody form request := by
    rw [readBody, readBody, within_, unbounded]
    rfl
  rw [Request.demand, Request.demand]
  dsimp only
  cases Route.ofPath? (splitTarget request.target).1 with
  | none => rfl
  | some route =>
      cases route with
      | root | properties | property | transactions | commit => rfl
      | indexes | lookup | range | transaction | batch =>
          dsimp only
          rw [Route.demand, Route.demand]
          simp only [body]
          rfl

theorem demand_forRoot {base : Url} (rooted : Rooted base) :
    (Request.forRoot base).demand = .ok .root := by
  have free : ∀ text ∈ (none : Option String), 0x23 ∉ Utf8.encode text := fun _ given => by
    cases given
  have split := splitTarget_placeBelow rooted.grounded [] free
  have target : (Request.forRoot base).target = (placeBelow base [] none).target := rfl
  rw [Request.demand, target, split]
  simp only [ofPath?_keeps (List.forall_mem_nil Url.Keeps)]
  rfl

theorem demand_below {base : Url} (grounded : Grounded base) (call : Call) :
    (Request.ofCall base call).demand =
      match Route.ofPath? (joined (partsBelow (callPlace call).2)) with
      | none => .error 404
      | some route => route.demand (Request.ofCall base call)
          ((placeBelow base (callPlace call).2 (callQuery call)).query.getD "") := by
  have split := splitTarget_placeBelow grounded (callPlace call).2 (not_mem_callQuery call)
  have target : (Request.ofCall base call).target =
      (placeBelow base (callPlace call).2 (callQuery call)).target := rfl
  rewrite [Request.demand, target, split]
  rfl

/-- What the service makes of the request of a call depends on its path alone, and on the name in its
query if the call has one there. -/
theorem demand_ofCall_of_query {base : Url} (grounded : Grounded base) {call : Call}
    (sendable : Sendable call)
    (named : ∀ node name, call = .nodeProperty node name →
      readName ((placeBelow base (callPlace call).2 (callQuery call)).query.getD "") = .ok name) :
    (Request.ofCall base call).demand = .ok (.call call) := by
  have routed : (Request.ofCall base call).demand =
      (callRoute call).demand (Request.ofCall base call)
        ((placeBelow base (callPlace call).2 (callQuery call)).query.getD "") := by
    rw [demand_below grounded]
    simp only [ofPath?_keeps (keeps_callPlace sendable), ofParts?_callPlace]
  have posted {demand : Except Nat Demand} {request : Request} (post : request.method = "POST") :
      Route.demand.writing request demand = demand := if_pos post
  have gotten {demand : Except Nat Demand} {request : Request} (get : request.method = "GET") :
      Route.demand.reading request demand = demand := if_pos (.inl get)
  rw [routed]
  cases call with
  | createIndex name =>
      have body := readBody_written Wire.faithful_named (by decide) name
      rw [callRoute, Route.demand, posted rfl]
      simp only [Request.ofCall, callPlace, callBody, Option.map_some, Option.getD_some, body, bind,
        Except.bind]
  | indexGet index key value =>
      have body := readBody_written Wire.faithful_lookup (by decide) ⟨key, value⟩
      rw [callRoute, Route.demand, posted rfl]
      simp only [Request.ofCall, callPlace, callBody, Option.map_some, Option.getD_some, body, bind,
        Except.bind, textPart_encodePart]
  | indexRange index range =>
      have body := readBody_written Wire.faithful_indexRange (by decide) range
      rw [callRoute, Route.demand, posted rfl]
      simp only [Request.ofCall, callPlace, callBody, Option.map_some, Option.getD_some, body, bind,
        Except.bind, textPart_encodePart]
  | nodeProperty node name =>
      rw [callRoute, Route.demand, gotten rfl, wordPart_encodePart, named node name rfl]
      rfl
  | nodeProperties node =>
      rw [callRoute, Route.demand, gotten rfl, wordPart_encodePart]
      rfl
  | beginTransaction => rfl
  | stage id step =>
      have body := readBody_written Wire.faithful_step (by decide) step
      have other : (Request.ofCall base (.stage id step)).method ≠ "DELETE" := by
        change "POST" ≠ "DELETE"
        decide
      rw [callRoute, Route.demand, if_neg other, posted rfl, wordPart_encodePart]
      simp only [Request.ofCall, callPlace, callBody, Option.map_some, Option.getD_some, body, bind,
        Except.bind]
  | commit id =>
      rw [callRoute, Route.demand, posted rfl, wordPart_encodePart]
      rfl
  | rollback id =>
      have delete : (Request.ofCall base (.rollback id)).method = "DELETE" := rfl
      rw [callRoute, Route.demand, if_pos delete, wordPart_encodePart]
      rfl
  | executeBatch batch =>
      have body := readBody_written Wire.faithful_batch (by decide) batch
      rw [callRoute, Route.demand, posted rfl]
      simp only [Request.ofCall, callPlace, callBody, Option.map_some, Option.getD_some, body, bind,
        Except.bind]

/-- The service makes of the request what the client has called. -/
theorem demand_ofCall {base : Url} (rooted : Rooted base) {call : Call}
    (sendable : Sendable call) : (Request.ofCall base call).demand = .ok (.call call) := by
  refine demand_ofCall_of_query rooted.grounded sendable ?_
  rintro node name rfl
  exact readName_placeBelow rooted _ name

end RecordGraph.Http
