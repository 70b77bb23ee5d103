import RecordGraph.Http.Client
import RecordGraph.Proofs.Http.Percent
import RecordGraph.Proofs.Text.Decimal

namespace RecordGraph

/-! The target of a request says where it leads: the service finds the parts of the path and the
query that the client has put together. -/

/-! ## Parts that are kept -/

namespace Url

def Keeps (part : String) : Prop :=
  part ≠ "." ∧ part ≠ ".." ∧ ∀ character ∈ part.toList, character ∉ ['\t', '\n', '\r']

instance (part : String) : Decidable (Keeps part) :=
  -- the characters of the part are tried, and not all characters
  @instDecidableAnd _ _ inferInstance
    (@instDecidableAnd _ _ inferInstance (List.decidableBAll _ part.toList))

/-- What arrives of a text that is sent as a part of a path, if anything does. Tabs and ends of
lines get lost, and so do single and double dots. -/
def arriving? (part : String) : Option String :=
  if part = "." ∨ part = ".." then none
  else
    let kept := String.ofList (part.toList.filter fun character =>
      !(['\t', '\n', '\r'].contains character))
    if kept = "." then some ""
    else if kept = ".." then none
    else some kept

example : arriving? "a\tb" = some "ab" := by decide
example : arriving? "a/%2e." = some "a/%2e." := by decide

theorem addPart_of_arriving? {part name : String} (arrives : arriving? part = some name)
    (parts : List String) : addPart parts part = parts ++ [Http.encodePart name] := by
  have empty : Http.encodePart "" = "" := by decide
  rw [arriving?] at arrives
  rw [addPart]
  split at arrives
  · cases arrives
  rename_i undotted
  rw [if_neg undotted]
  dsimp only at arrives ⊢
  split at arrives
  · rename_i dot
    cases arrives
    rw [if_pos dot, empty]
  rename_i other
  rw [if_neg other]
  split at arrives
  · cases arrives
  · rename_i others
    cases arrives
    rw [if_neg others]

theorem addPart_of_lost {part : String} (lost : arriving? part = none) (parts : List String) :
    addPart parts part = parts ∨ addPart parts part = parts.dropLast ++ [""] := by
  rw [arriving?] at lost
  rw [addPart]
  split at lost
  · exact .inl (if_pos ‹_›)
  rename_i undotted
  rw [if_neg undotted]
  dsimp only at lost ⊢
  split at lost
  · cases lost
  rename_i other
  rw [if_neg other]
  split at lost
  · exact .inr (if_pos ‹_›)
  · cases lost

theorem arriving?_keeps {part : String} (keeps : Keeps part) : arriving? part = some part := by
  rcases keeps with ⟨single, double, plain⟩
  have all : part.toList.filter (fun character => !(['\t', '\n', '\r'].contains character)) =
      part.toList := by
    rw [List.filter_eq_self]
    intro character member
    simpa using plain character member
  rw [arriving?, if_neg (not_or.2 ⟨single, double⟩), all, String.ofList_toList]
  dsimp only
  rw [if_neg single, if_neg double]

theorem keeps_of_arriving? {part name : String} (arrives : arriving? part = some name) :
    Keeps name := by
  rw [arriving?] at arrives
  split at arrives
  · cases arrives
  dsimp only at arrives
  split at arrives
  · cases arrives
    decide
  rename_i single
  split at arrives
  · cases arrives
  rename_i double
  cases arrives
  refine ⟨single, double, fun character member => ?_⟩
  rw [String.toList_ofList, List.mem_filter] at member
  simpa using member.2

theorem addPart_keeps (parts : List String) {part : String} (keeps : Keeps part) :
    addPart parts part = parts ++ [Http.encodePart part] :=
  addPart_of_arriving? (arriving?_keeps keeps) parts

theorem addParts_keeps {base : List String} (open_ : base.getLast? ≠ some "") {added : List String}
    (keeps : ∀ part ∈ added, Keeps part) :
    addParts base added = base ++ added.map Http.encodePart := by
  rw [addParts, if_neg open_]
  clear open_
  induction added generalizing base with
  | nil => rw [List.foldl_nil, List.map_nil, List.append_nil]
  | cons part added induction =>
      rw [List.foldl_cons, addPart_keeps base (keeps part List.mem_cons_self),
        induction fun other member => keeps other (List.mem_cons_of_mem _ member), List.map_cons,
        List.append_assoc]
      rfl

theorem keeps_toString (value : Nat) : Keeps (toString value) := by
  have decimal : ∀ digit ∈ (toString value).toList, digit.isDigit = true := by
    intro digit member
    rw [Nat.toString_eq_ofList_toDigits, String.toList_ofList] at member
    exact Nat.isDigit_of_mem_toDigits (by decide) (by decide) member
  refine ⟨?_, ?_, ?_⟩
  · intro same
    rw [same] at decimal
    exact absurd (decimal '.' (by decide)) (by decide)
  · intro same
    rw [same] at decimal
    exact absurd (decimal '.' (by decide)) (by decide)
  · intro character member
    have digit := decimal character member
    rintro found
    rcases List.mem_cons.1 found with rfl | found
    · cases digit
    rcases List.mem_cons.1 found with rfl | found
    · cases digit
    rw [List.mem_singleton.1 found] at digit
    cases digit

end Url

/-! ## Paths and targets -/

namespace Http

def joined (parts : List String) : String := String.join (parts.map ("/" ++ ·))

private theorem encode_joined_cons (part : String) (parts : List String) :
    Utf8.encode (joined (part :: parts)) =
      0x2F :: (Utf8.encode part ++ Utf8.encode (joined parts)) := by
  have slash : Utf8.encode "/" = [0x2F] := by decide
  rw [joined, List.map_cons, String.join_cons, Utf8.encode_append, Utf8.encode_append, slash]
  rfl

theorem pathParts_joined {parts : List String} (whole : ∀ part ∈ parts, 0x2F ∉ Utf8.encode part) :
    pathParts (joined parts) = "" :: parts := by
  have pieces : Text.pieces 0x2F (Utf8.encode (joined parts)) = [] :: parts.map Utf8.encode := by
    induction parts with
    | nil => decide
    | cons part parts induction =>
        have later := induction fun other member => whole other (List.mem_cons_of_mem _ member)
        have free := whole part List.mem_cons_self
        rw [encode_joined_cons, Text.pieces, if_pos rfl, List.map_cons]
        cases parts with
        | nil =>
            have empty : Utf8.encode (joined []) = [] := by decide
            rw [empty, List.append_nil, Text.pieces_of_not_mem free]
            rfl
        | cons next parts =>
            rw [encode_joined_cons] at later ⊢
            rw [Text.pieces, if_pos rfl] at later
            rw [Text.pieces_append_separator, Text.pieces_of_not_mem free, (List.cons.inj later).2]
            rfl
  have empty : Utf8.decodeLossy [] = "" := by decide
  rw [pathParts, pieces, List.map_cons, List.map_map, empty]
  congr 1
  apply (List.map_congr_left _).trans (List.map_id _)
  exact fun part _ => Utf8.decodeLossy_encode part

def marked (query : Option String) : String := (query.map ("?" ++ ·)).getD ""

private theorem takeWhile_all {items : List Char} {wanted : Char → Bool}
    (all : ∀ item ∈ items, wanted item = true) : items.takeWhile wanted = items := by
  have whole := @List.takeWhile_append_of_pos _ wanted items [] all
  rw [List.takeWhile_nil, List.append_nil] at whole
  exact whole

theorem splitTarget_joined {part : String} {parts : List String} {query : Option String}
    (path : ∀ character ∈ (joined (part :: parts)).toList, character ≠ '?' ∧ character ≠ '#')
    (free : ∀ text ∈ query, '#' ∉ text.toList) :
    splitTarget (joined (part :: parts) ++ marked query) =
      (joined (part :: parts), query.getD "") := by
  have local_ : localTarget (joined (part :: parts) ++ marked query).toList =
      (joined (part :: parts)).toList ++ (marked query).toList := by
    rw [String.toList_append, joined, List.map_cons, String.join_cons, String.toList_append,
      String.toList_append]
    rfl
  have kept : ((joined (part :: parts)).toList ++ (marked query).toList).takeWhile (· ≠ '#') =
      (joined (part :: parts)).toList ++ (marked query).toList := by
    apply takeWhile_all
    intro character member
    apply decide_eq_true
    rcases List.mem_append.1 member with found | found
    · exact (path character found).2
    · cases query with
      | none => cases found
      | some text =>
          rw [marked, Option.map_some, Option.getD_some, String.toList_append] at found
          rcases List.mem_append.1 found with mark | found
          · rw [List.mem_singleton.1 mark]
            decide
          · rintro rfl
            exact free text rfl found
  have front : ((joined (part :: parts)).toList ++ (marked query).toList).takeWhile (· ≠ '?') =
      (joined (part :: parts)).toList := by
    rw [List.takeWhile_append_of_pos fun character found =>
      decide_eq_true (path character found).1]
    cases query with
    | none => exact List.append_nil _
    | some text =>
        rw [marked, Option.map_some, Option.getD_some, String.toList_append]
        exact List.append_nil _
  rw [splitTarget]
  simp only [local_, kept, front, String.ofList_toList, List.drop_left]
  cases query with
  | none => rfl
  | some text =>
      rw [marked, Option.map_some, Option.getD_some, String.toList_append, Option.getD_some]
      have rest : (("?".toList ++ text.toList).drop 1) = text.toList := rfl
      rw [rest, String.ofList_toList]

/-! ## Places below the root -/

structure Grounded (base : Url) : Prop where
  path : ∃ before, base.path = .parts before ∧ Url.addParts before [] = rootParts
  query : ∀ before ∈ base.query, '#' ∉ before.toList

/-- An address under which a service has its root. Its query, if it has one, must not name what only
the query of a call may name. -/
structure Rooted (base : Url) : Prop where
  path : base.path = .parts rootParts
  query : ∀ before ∈ base.query,
    0x23 ∉ Utf8.encode before ∧ ∀ pair ∈ decodeQuery before, pair.1 ≠ "name"

variable {base : Url}

theorem Rooted.grounded (rooted : Rooted base) : Grounded base where
  path := ⟨rootParts, rooted.path, by decide⟩
  query before given member := (rooted.query before given).1 (Utf8.mem_encode (by decide) member)

def partsBelow (parts : List String) : List String := Url.addParts rootParts parts

theorem partsBelow_keeps {parts : List String} (keeps : ∀ part ∈ parts, Url.Keeps part) :
    partsBelow parts = rootParts ++ parts.map encodePart :=
  Url.addParts_keeps (by decide) keeps

def Whole (part : String) : Prop :=
  0x2F ∉ Utf8.encode part ∧ 0x3F ∉ Utf8.encode part ∧ 0x23 ∉ Utf8.encode part

instance (part : String) : Decidable (Whole part) :=
  inferInstanceAs (Decidable (_ ∉ Utf8.encode part ∧ _ ∉ Utf8.encode part ∧ _ ∉ Utf8.encode part))

theorem addPart_cases (parts : List String) (part : String) :
    Url.addPart parts part = parts ∨ ∃ left,
      Url.addPart parts part = parts ++ [encodePart left] ∨
        Url.addPart parts part = parts.dropLast ++ [encodePart left] := by
  cases arrives : Url.arriving? part with
  | some left => exact .inr ⟨left, .inl (Url.addPart_of_arriving? arrives parts)⟩
  | none =>
      rcases Url.addPart_of_lost arrives parts with same | same
      · exact .inl same
      · have empty : encodePart "" = "" := by decide
        exact .inr ⟨"", .inr (by rw [same, empty])⟩

private theorem whole_addParts {before : List String} (whole : ∀ part ∈ before, Whole part)
    (parts : List String) : ∀ part ∈ Url.addParts before parts, Whole part := by
  have append {before : List String} {last : String} (earlier : ∀ part ∈ before, Whole part)
      (own : Whole last) : ∀ part ∈ before ++ [last], Whole part := by
    intro part member
    rcases List.mem_append.1 member with found | found
    · exact earlier part found
    · exact List.mem_singleton.1 found ▸ own
  have all {before : List String} (whole : ∀ part ∈ before, Whole part) :
      ∀ part ∈ parts.foldl Url.addPart before, Whole part := by
    induction parts generalizing before with
    | nil => exact whole
    | cons part parts induction =>
        apply induction
        rcases addPart_cases before part with same | ⟨left, same | same⟩
        · rw [same]
          exact whole
        · rw [same]
          exact append whole (not_mem_encodePart left)
        · rw [same]
          exact append (fun part member => whole part (List.dropLast_subset _ member))
            (not_mem_encodePart left)
  apply all
  split
  · exact fun part member => whole part (List.dropLast_subset _ member)
  · exact whole

private theorem partsBelow_ne_nil (parts : List String) : partsBelow parts ≠ [] := by
  have all {before : List String} (some_ : before ≠ []) :
      parts.foldl Url.addPart before ≠ [] := by
    induction parts generalizing before with
    | nil => exact some_
    | cons part parts induction =>
        apply induction
        rcases addPart_cases before part with same | ⟨left, same | same⟩
        · rw [same]
          exact some_
        · rw [same]
          exact List.concat_ne_nil _ _
        · rw [same]
          exact List.concat_ne_nil _ _
  exact all (by decide)

structure Divided (before : List String) (base : Url) : Prop where
  path : base.path = .parts before
  whole : ∀ part ∈ before, Whole part
  query : ∀ text ∈ base.query, '#' ∉ text.toList

theorem Grounded.divided (grounded : Grounded base) :
    ∃ before, Divided before base ∧ ∀ parts, Url.addParts before parts = partsBelow parts := by
  rcases grounded.path with ⟨before, path, root⟩
  refine ⟨before, ⟨path, ?_, grounded.query⟩, fun parts => ?_⟩
  · rw [Url.addParts] at root
    dsimp only [List.foldl_nil] at root
    split at root
    · rename_i last
      rcases List.getLast?_eq_some_iff.1 last with ⟨front, rfl⟩
      rw [List.dropLast_concat] at root
      rw [root]
      decide
    · rw [root]
      decide
  · have rest : Url.addParts before parts =
        parts.foldl Url.addPart (Url.addParts before []) := rfl
    rw [rest, root]
    rfl

private theorem mem_joined {parts : List String} {character : Char}
    (member : character ∈ (joined parts).toList) :
    character = '/' ∨ ∃ part ∈ parts, character ∈ part.toList := by
  rw [joined, String.toList_join, List.mem_flatMap] at member
  rcases member with ⟨text, found, inside⟩
  rcases List.mem_map.1 found with ⟨part, there, rfl⟩
  rw [String.toList_append] at inside
  rcases List.mem_append.1 inside with slash | inside
  · exact .inl (List.mem_singleton.1 slash)
  · exact .inr ⟨part, there, inside⟩

variable {before parts : List String}

private theorem target_placeBelow (divided : Divided before base)
    (some_ : Url.addParts before parts ≠ []) (query : Option String) :
    (placeBelow base parts query).target =
      joined (Url.addParts before parts) ++ marked (placeBelow base parts query).query := by
  have filled : (joined (Url.addParts before parts)).isEmpty = false := by
    rcases List.exists_cons_of_ne_nil some_ with ⟨part, rest, same⟩
    rw [same, joined, List.map_cons, String.join_cons]
    simp
  have path : String.join ((Url.addParts before parts).map ("/" ++ ·)) =
      joined (Url.addParts before parts) := rfl
  have below : (placeBelow base parts query).path = .parts (Url.addParts before parts) := by
    unfold placeBelow
    rw [divided.path]
  rw [Url.target, below]
  simp only [path, filled, Bool.false_eq_true, if_false]
  rfl

private theorem query_placeBelow (parts : List String) (query : Option String) :
    (placeBelow base parts query).query = query ∨
      ∃ before, base.query = some before ∧ (placeBelow base parts query).query =
        some (query.elim before fun more => before ++ "&" ++ more) := by
  unfold placeBelow
  cases found : base.query with
  | none =>
      cases query
      all_goals exact .inl rfl
  | some before =>
      cases query
      all_goals exact .inr ⟨before, rfl, rfl⟩

theorem Divided.splitTarget_placeBelow (divided : Divided before base)
    (some_ : Url.addParts before parts ≠ []) {query : Option String}
    (free : ∀ text ∈ query, 0x23 ∉ Utf8.encode text) :
    splitTarget (placeBelow base parts query).target =
      (joined (Url.addParts before parts), (placeBelow base parts query).query.getD "") := by
  rw [target_placeBelow divided some_]
  have whole := whole_addParts divided.whole parts
  rcases List.exists_cons_of_ne_nil some_ with ⟨first, rest, same⟩
  rw [same] at whole ⊢
  apply splitTarget_joined
  · intro character member
    rcases mem_joined member with rfl | ⟨part, there, inside⟩
    · decide
    · have free := whole part there
      constructor
      · rintro rfl
        exact free.2.1 (Utf8.mem_encode (by decide) inside)
      · rintro rfl
        exact free.2.2 (Utf8.mem_encode (by decide) inside)
  · intro text given inside
    rcases query_placeBelow parts query with same | ⟨before, found, both⟩
    · rw [same] at given
      exact free text given (Utf8.mem_encode (by decide) inside)
    · have root := divided.query before found
      rw [both] at given
      rw [← Option.some.inj given] at inside
      cases query with
      | none => exact root inside
      | some more =>
          have ampersand : "&".toList = ['&'] := rfl
          rw [Option.elim, String.toList_append, String.toList_append, ampersand] at inside
          rcases List.mem_append.1 inside with inside | inside
          · rcases List.mem_append.1 inside with inside | inside
            · exact root inside
            · exact absurd (List.mem_singleton.1 inside) (by decide)
          · exact free more rfl (Utf8.mem_encode (by decide) inside)

theorem Divided.pathParts_joined (divided : Divided before base) (parts : List String) :
    pathParts (joined (Url.addParts before parts)) = "" :: Url.addParts before parts :=
  Http.pathParts_joined fun part member => (whole_addParts divided.whole parts part member).1

/-- The service finds the path and the query that the client has sent. -/
theorem splitTarget_placeBelow (grounded : Grounded base) (parts : List String)
    {query : Option String} (free : ∀ text ∈ query, 0x23 ∉ Utf8.encode text) :
    splitTarget (placeBelow base parts query).target =
      (joined (partsBelow parts), (placeBelow base parts query).query.getD "") := by
  rcases grounded.divided with ⟨before, divided, below⟩
  rw [← below]
  apply divided.splitTarget_placeBelow _ free
  rw [below]
  exact partsBelow_ne_nil parts

/-- The name in the query of a call is found, whatever else is in the query. -/
theorem readName_placeBelow (rooted : Rooted base) (parts : List String) (name : String) :
    readName ((placeBelow base parts (some (encodeQuery "name" name))).query.getD "") =
      .ok name := by
  have found (others : List (String × String)) (apart : ∀ pair ∈ others, pair.1 ≠ "name") :
      (others ++ [("name", name)]).filter (·.1 = "name") = [("name", name)] := by
    rw [List.filter_append, List.filter_eq_nil_iff.2]
    · rfl
    · exact fun pair member => by simpa using apart pair member
  rcases query_placeBelow parts (some (encodeQuery "name" name)) with same | ⟨before, there, both⟩
  · rw [same, Option.getD_some, readName, decodeQuery_encodeQuery]
    rfl
  · rw [both, Option.getD_some, readName, Option.elim, decodeQuery_append, decodeQuery_encodeQuery,
      found _ (rooted.query before there).2]

theorem pathParts_partsBelow (parts : List String) :
    pathParts (joined (partsBelow parts)) = "" :: partsBelow parts :=
  pathParts_joined fun part member => (whole_addParts (by decide) parts part member).1

theorem ofPath?_keeps {parts : List String} (keeps : ∀ part ∈ parts, Url.Keeps part) :
    Route.ofPath? (joined (partsBelow parts)) = Route.ofParts? (parts.map encodePart) := by
  rw [Route.ofPath?, pathParts_partsBelow, partsBelow_keeps keeps]
  rfl

end Http

end RecordGraph
