import RecordGraph.Proofs.Graph.Validation
import RecordGraph.Proofs.Http.Demand
import RecordGraph.Proofs.Record.Asking

namespace RecordGraph.Http

/-! Requests of calls that read. The name of an index, or a query that names something itself, can
make another request of what a client has called. But what has been meant to read does no more than
read. -/

theorem demand_ofCall_writes {base : Url} (grounded : Grounded base) {call : Call}
    (writes : call.reads = false) : (Request.ofCall base call).demand = .ok (.call call) := by
  refine demand_ofCall_of_query grounded (fun index named => ?_) fun node name same => ?_
  · cases call with
    | indexGet _ _ _ => cases writes
    | indexRange _ _ => cases writes
    | _ => cases named
  · rw [same] at writes
    cases writes

def Route.isReading : Route → Bool
  | lookup _ => true
  | range _ => true
  | properties _ => true
  | property _ => true
  | _ => false

private theorem reads_of_demand {route : Route} (reading : route.isReading = true)
    {request : Request} {query : String} {demanded : Call}
    (demand : route.demand request query = .ok (.call demanded)) : demanded.reads = true := by
  cases route with
  | lookup index =>
      rw [Route.demand, Route.demand.writing] at demand
      split at demand
      · rcases ok_of_bind demand with ⟨name, -, rest⟩
        rcases ok_of_bind rest with ⟨wanted, -, rest⟩
        cases rest
        rfl
      · cases demand
  | range index =>
      rw [Route.demand, Route.demand.writing] at demand
      split at demand
      · rcases ok_of_bind demand with ⟨name, -, rest⟩
        rcases ok_of_bind rest with ⟨wanted, -, rest⟩
        cases rest
        rfl
      · cases demand
  | properties node =>
      rw [Route.demand, Route.demand.reading] at demand
      split at demand
      · rcases ok_of_bind demand with ⟨found, -, rest⟩
        cases rest
        rfl
      · cases demand
  | property node =>
      rw [Route.demand, Route.demand.reading] at demand
      split at demand
      · rcases ok_of_bind demand with ⟨found, -, rest⟩
        rcases ok_of_bind rest with ⟨name, -, rest⟩
        cases rest
        rfl
      · cases demand
  | _ => cases reading

/-- Who only gets something does no more than read, wherever the request leads. -/
theorem reads_of_demand_get {request : Request} (get : request.method = "GET") {call : Call}
    (demand : request.demand = .ok (.call call)) : call.reads = true := by
  have refused (some_ : Except Nat Demand) : Route.demand.writing request some_ = .error 405 := by
    rw [Route.demand.writing, get]
    exact if_neg (by decide)
  rw [Request.demand] at demand
  dsimp only at demand
  split at demand
  · cases demand
  · rename_i route found
    cases route with
    | root =>
        rw [Route.demand, Route.demand.reading, if_pos (.inl get)] at demand
        cases demand
    | properties node => exact reads_of_demand rfl demand
    | property node => exact reads_of_demand rfl demand
    | transaction id =>
        have other : request.method ≠ "DELETE" := by
          rw [get]
          decide
        rw [Route.demand, if_neg other, refused] at demand
        cases demand
    | _ =>
        rw [Route.demand, refused] at demand
        cases demand

/-- A place of an index is the one of the index whose name arrives. If none arrives, it is no place
at all. -/
private theorem ofPath?_index (index : String) {last : String}
    (ends : last = "lookup" ∨ last = "range") :
    Route.ofPath? (joined (partsBelow ["index", "node", index, last])) =
      (Url.arriving? index).bind fun name =>
        Route.ofParts? ["index", "node", encodePart name, last] := by
  have front : Url.addPart (Url.addPart rootParts "index") "node" =
      ["db", "data", "index", "node"] := by decide +kernel
  have back (before : List String) : Url.addPart before last = before ++ [last] := by
    rcases ends with rfl | rfl
    · rw [Url.addPart_keeps before (by decide)]
      exact congrArg (before ++ [·]) (by decide +kernel)
    · rw [Url.addPart_keeps before (by decide)]
      exact congrArg (before ++ [·]) (by decide +kernel)
  have parts : partsBelow ["index", "node", index, last] =
      Url.addPart ["db", "data", "index", "node"] index ++ [last] := by
    rw [← back, ← front]
    rfl
  rw [Route.ofPath?, pathParts_partsBelow, parts]
  cases arrives : Url.arriving? index with
  | some name =>
      rw [Url.addPart_of_arriving? arrives]
      rfl
  | none =>
      rw [Option.bind_none]
      -- what is left has a part too few, or an empty one where the word for nodes should be
      rcases Url.addPart_of_lost arrives ["db", "data", "index", "node"] with same | same
      · rw [same]
        rcases ends with rfl | rfl
        · rfl
        · rfl
      · rw [same]
        rcases ends with rfl | rfl
        · rfl
        · rfl

theorem reads_of_demand_ofCall {base : Url} (grounded : Grounded base) {call demanded : Call}
    (reads : call.reads = true)
    (demand : (Request.ofCall base call).demand = .ok (.call demanded)) :
    demanded.reads = true := by
  rw [demand_below grounded] at demand
  cases found : Route.ofPath? (joined (partsBelow (callPlace call).2)) with
  | none =>
      rw [found] at demand
      cases demand
  | some route =>
      rw [found] at demand
      refine reads_of_demand ?_ demand
      have kept (sendable : Sendable call) : callRoute call = route := by
        rw [ofPath?_keeps (keeps_callPlace sendable), ofParts?_callPlace] at found
        exact Option.some.inj found
      cases call with
      | indexGet index key value =>
          rcases Option.bind_eq_some_iff.1 ((ofPath?_index index (.inl rfl)).symm.trans found) with
            ⟨name, -, ⟨⟩⟩
          rfl
      | indexRange index range =>
          rcases Option.bind_eq_some_iff.1 ((ofPath?_index index (.inr rfl)).symm.trans found) with
            ⟨name, -, ⟨⟩⟩
          rfl
      | nodeProperty node name =>
          rw [← kept fun index named => by cases named]
          rfl
      | nodeProperties node =>
          rw [← kept fun index named => by cases named]
          rfl
      | _ => cases reads

theorem demand_indexGet {base : Url} (grounded : Grounded base) (index key value : String) :
    (Request.ofCall base (.indexGet index key value)).demand =
      match Url.arriving? index with
      | none => .error 404
      | some name => .ok (.call (.indexGet name key value)) := by
  have parts : (callPlace (.indexGet index key value)).2 = ["index", "node", index, "lookup"] := rfl
  have post : (Request.ofCall base (.indexGet index key value)).method = "POST" := rfl
  have body := readBody_written Wire.faithful_lookup (by decide) ⟨key, value⟩
  have routed (name : String) : Route.ofParts? ["index", "node", encodePart name, "lookup"] =
      some (.lookup (encodePart name)) := rfl
  rw [demand_below grounded, parts, ofPath?_index index (.inl rfl)]
  cases Url.arriving? index with
  | none => rfl
  | some name =>
      rw [Option.bind_some, routed]
      dsimp only
      rw [Route.demand, Route.demand.writing, if_pos post]
      simp only [Request.ofCall, callPlace, callBody, Option.map_some, Option.getD_some, body, bind,
        Except.bind, textPart_encodePart]

/-- A range is asked for in the index whose name arrives. -/
theorem demand_indexRange {base : Url} (grounded : Grounded base) (index : String)
    (range : IndexRange) :
    (Request.ofCall base (.indexRange index range)).demand =
      match Url.arriving? index with
      | none => .error 404
      | some name => .ok (.call (.indexRange name range)) := by
  have parts : (callPlace (.indexRange index range)).2 = ["index", "node", index, "range"] := rfl
  have post : (Request.ofCall base (.indexRange index range)).method = "POST" := rfl
  have body := readBody_written Wire.faithful_indexRange (by decide) range
  have routed (name : String) : Route.ofParts? ["index", "node", encodePart name, "range"] =
      some (.range (encodePart name)) := rfl
  rw [demand_below grounded, parts, ofPath?_index index (.inr rfl)]
  cases Url.arriving? index with
  | none => rfl
  | some name =>
      rw [Option.bind_some, routed]
      dsimp only
      rw [Route.demand, Route.demand.writing, if_pos post]
      simp only [Request.ofCall, callPlace, callBody, Option.map_some, Option.getD_some, body, bind,
        Except.bind, textPart_encodePart]

end RecordGraph.Http
