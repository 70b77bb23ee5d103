import Mathlib.Tactic.Set
import Mathlib.Tactic.SplitIfs
import RecordGraph.Proofs.Http.Demand
import RecordGraph.Remote

namespace RecordGraph

/-! Addresses that clients are given. Whatever a client is told to connect to, the requests that it
puts together have a path and a query where the service finds them. -/

/-! ## Addresses that have been read -/

namespace Url

private def isWithin (byte : UInt8) : Bool := byte < 0x80 && !([0x2F, 0x3F, 0x23].contains byte)

private theorem whole_encoded {piece : List Char} (free : '/' ∉ piece) :
    Http.Whole (Utf8.decodeLossy
      (Http.percentEncode isPlainInWhole (Utf8.encode (String.ofList piece)))) := by
  set bytes := Utf8.encode (String.ofList piece) with bytes_eq
  have apart : (0x2F : UInt8) ∉ bytes := by
    intro member
    have small : '/'.toNat < 0x80 := by decide
    have inside := Utf8.mem_of_mem_encode small member
    rw [String.toList_ofList] at inside
    exact free inside
  -- the sign between the parts stands for itself, but there is none
  have same : Http.percentEncode isPlainInWhole bytes =
      Http.percentEncode (fun byte => isPlainInWhole byte && byte != 0x2F) bytes := by
    rw [Http.percentEncode, Http.percentEncode, List.flatMap_def, List.flatMap_def]
    congr 1
    apply List.map_congr_left
    intro byte member
    have other : (byte != 0x2F) = true := by
      rw [bne_iff_ne]
      rintro rfl
      exact apart member
    rw [other, Bool.and_true]
  have all : ∀ byte ∈ Http.percentEncode isPlainInWhole bytes, isWithin byte = true := by
    rw [same]
    apply Http.all_percentEncode
    · exact Http.forall_byte (by decide +kernel)
    · rfl
    · decide
  have absent {byte : UInt8} (out : isWithin byte = false) :
      byte ∉ Http.percentEncode isPlainInWhole bytes := by
    intro member
    rw [all byte member] at out
    cases out
  rw [Http.Whole, Utf8.encode_decodeLossy]
  · exact ⟨absent rfl, absent rfl, absent rfl⟩
  · intro byte member
    exact of_decide_eq_true (Bool.and_eq_true_iff.1 (all byte member)).1

/-- A walk that adds no parts but the next one, if it adds any, adds no others. -/
private theorem mem_walked {walk : List String → String → List String}
    (leads : ∀ before next, ∀ part ∈ walk before next, part ∈ before ∨ part = next)
    {parts before : List String} {part : String} (member : part ∈ parts.foldl walk before) :
    part ∈ before ∨ part ∈ parts := by
  induction parts generalizing before with
  | nil => exact .inl member
  | cons next parts induction =>
      rcases induction member with found | later
      · rcases leads before next part found with earlier | rfl
        · exact .inl earlier
        · exact .inr List.mem_cons_self
      · exact .inr (List.mem_cons_of_mem _ later)

private theorem whole_pathParts (special : Bool) (text : List Char) :
    ∀ part ∈ pathParts special text, Http.Whole part := by
  set encoded := (Text.pieces '/' (text.map fun character =>
    if isSlash special character then '/' else character)).map fun piece =>
      Utf8.decodeLossy (Http.percentEncode isPlainInWhole (Utf8.encode (String.ofList piece)))
    with encoded_eq
  have pieces : ∀ part ∈ encoded, Http.Whole part := by
    intro part member
    rcases List.mem_map.1 member with ⟨piece, found, rfl⟩
    exact whole_encoded (Text.not_mem_of_mem_pieces found)
  set walk := fun (before : List String) (part : String) =>
    if isDoubleDot part then before.dropLast else if isDot part then before else before ++ [part]
    with walk_eq
  have leads : ∀ before next, ∀ part ∈ walk before next, part ∈ before ∨ part = next := by
    intro before next part found
    rw [walk_eq] at found
    dsimp only at found
    split at found
    · exact .inl (List.dropLast_subset _ found)
    split at found
    · exact .inl found
    · exact (List.mem_append.1 found).imp_right List.mem_singleton.1
  have walked : ∀ part ∈ encoded.foldl walk [], Http.Whole part := by
    intro part member
    rcases mem_walked leads member with nothing | found
    · cases nothing
    · exact pieces part found
  intro part member
  rw [pathParts, ← encoded_eq] at member
  split at member
  · split at member
    · rcases List.mem_append.1 member with found | last
      · exact walked part found
      · rw [List.mem_singleton.1 last]
        decide
    · exact walked part member
  · exact walked part member

private theorem not_mem_splitTail (text : List Char) :
    ∀ query ∈ (splitTail text).2.1, '#' ∉ query.toList := by
  intro query given member
  rw [splitTail] at given
  dsimp only at given
  split at given
  · cases given
  · rename_i mark rest found
    rw [← Option.some.inj given, String.toList_ofList] at member
    have inside := List.mem_of_mem_drop (found ▸ List.mem_cons_of_mem mark member)
    have other := List.all_eq_true.1 List.all_takeWhile _ inside
    exact of_decide_eq_true other rfl

private theorem divided_withParts (scheme : String) (authority : Option String) (text : List Char) :
    ∃ before, Http.Divided before (withParts scheme authority text) := by
  refine ⟨_, rfl, ?_, not_mem_splitTail text⟩
  split
  · split
    · decide
    · exact List.forall_mem_nil _
  · exact whole_pathParts _ _

private theorem divided_withAuthority {scheme : String} {text : List Char} {url : Url}
    (read : withAuthority scheme text = some url) : ∃ before, Http.Divided before url := by
  rw [withAuthority] at read
  rcases Option.bind_eq_some_iff.1 read with ⟨⟨authority, rest⟩, -, same⟩
  rw [← Option.some.inj same]
  exact divided_withParts _ _ _

private theorem divided_ofFile {text : List Char} {url : Url} (read : ofFile text = some url) :
    ∃ before, Http.Divided before url := by
  rw [ofFile] at read
  dsimp only at read
  split_ifs at read
  · rw [← Option.some.inj read]
    exact divided_withParts _ _ _
  · rw [← Option.some.inj read]
    exact divided_withParts _ _ _
  · rcases Option.bind_eq_some_iff.1 read with ⟨shown, -, same⟩
    rw [← Option.some.inj same]
    exact divided_withParts _ _ _

theorem divided_parse? {text : String} {url : Url} (read : parse? text = some url)
    {parts : List String} (path : url.path = .parts parts) : Http.Divided parts url := by
  have some_ : ∃ before, Http.Divided before url := by
    rw [parse?] at read
    rcases Option.bind_eq_some_iff.1 read with ⟨⟨scheme, rest⟩, -, read⟩
    dsimp only at read
    split at read
    · exact divided_ofFile read
    split at read
    · exact divided_withAuthority read
    split at read
    · exact divided_withAuthority read
    · rw [← Option.some.inj read]
      exact divided_withParts _ _ _
    · rw [← Option.some.inj read] at path
      cases path
  rcases some_ with ⟨before, divided⟩
  cases divided.path.symm.trans path
  exact divided

end Url

theorem RemoteLink.divided_baseOf {url : String} {base : Url} (based : baseOf url = .ok base) :
    ∃ before, Http.Divided before base := by
  rw [baseOf] at based
  split at based
  · cases based
  · rename_i read
    split at based
    · cases based
    · rename_i path
      rw [← Except.ok.inj based]
      exact ⟨_, Url.divided_parse? read path⟩

/-! ## Addresses with another root -/

namespace Http

variable {base : Url} {before : List String}

/-- The place of the indexes is no place of the service unless it is below its root. -/
private theorem ofPath?_indexes (other : before ≠ rootParts) :
    (match "" :: (before ++ ["index", "node"]) with
      | "" :: "db" :: "data" :: parts => Route.ofParts? parts
      | _ => none) = none := by
  split
  · rename_i parts same
    have same := (List.cons.inj same).2
    have last : parts.getLast? = some "node" ∧ 2 < parts.length := by
      match before with
      | [] => simp at same
      | [_] => simp at same
      | [first, second] =>
          simp only [List.cons_append, List.nil_append, List.cons.injEq] at same
          exact absurd (by rw [same.1, same.2.1]; rfl) other
      | _ :: _ :: next :: rest =>
          rw [← (List.cons.inj (List.cons.inj same).2).2]
          have last : (next :: rest ++ ["index"] ++ ["node"]).getLast? = some "node" :=
            List.getLast?_concat
          exact ⟨by simpa using last, by simp⟩
    clear same
    rw [Route.ofParts?.eq_def]
    split
    all_goals simp_all
  · rfl

theorem Divided.demand_createIndex (divided : Divided before base) (name : String) :
    Grounded base ∨ (Request.ofCall base (.createIndex name)).demand = .error 404 := by
  have below : Url.addParts before ["index", "node"] =
      Url.addParts before [] ++ ["index", "node"] := by
    have added : Url.addParts before ["index", "node"] =
        Url.addPart (Url.addPart (Url.addParts before []) "index") "node" := rfl
    have words : encodePart "index" = "index" ∧ encodePart "node" = "node" := by decide +kernel
    rw [added, Url.addPart_keeps _ (by decide), Url.addPart_keeps _ (by decide), words.1, words.2,
      List.append_assoc]
    rfl
  by_cases root : Url.addParts before [] = rootParts
  · exact .inl ⟨⟨before, divided.path, root⟩, divided.query⟩
  · right
    have some_ : Url.addParts before ["index", "node"] ≠ [] := by
      rw [below]
      simp
    have split := divided.splitTarget_placeBelow some_ (not_mem_callQuery (.createIndex name))
    have target : (Request.ofCall base (.createIndex name)).target =
        (placeBelow base ["index", "node"] (callQuery (.createIndex name))).target := rfl
    have nowhere : Route.ofPath? (joined (Url.addParts before ["index", "node"])) = none := by
      rw [Route.ofPath?, divided.pathParts_joined, below]
      exact ofPath?_indexes root
    rw [Request.demand, target, split]
    dsimp only
    rw [nowhere]

end Http

end RecordGraph
