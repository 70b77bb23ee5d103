import RecordGraph.Proofs.Json.Record

namespace RecordGraph.Json

/-! Written texts are kept as they are: the passage over a value takes no more steps than it may,
and stops right behind the value. -/

/-! ## Single steps -/

section Steps

variable {room fuel : Nat} {stack : List Container}

/-- Opening and closing brackets and braces, commas and names each take one step. -/
private theorem passOver_openList (fits : stack.length < room) (rest : Bytes) :
    passOver (some room) (fuel + 1) stack .value (0x5B :: rest) =
      passOver (some room) fuel (.list :: stack) .opened rest := by
  have more : ¬room ≤ stack.length := Nat.not_le_of_lt fits
  rw [passOver]
  simp [skipBlanks, more]

private theorem passOver_openRecord (fits : stack.length < room) (rest : Bytes) :
    passOver (some room) (fuel + 1) stack .value (0x7B :: rest) =
      passOver (some room) fuel (.record :: stack) .opened rest := by
  have more : ¬room ≤ stack.length := Nat.not_le_of_lt fits
  rw [passOver]
  simp [skipBlanks, more]

private theorem passOver_emptyList (rest : Bytes) :
    passOver (some room) (fuel + 1) (.list :: stack) .opened (0x5D :: rest) =
      passOver (some room) fuel stack .closed rest := rfl

private theorem passOver_emptyRecord (rest : Bytes) :
    passOver (some room) (fuel + 1) (.record :: stack) .opened (0x7D :: rest) =
      passOver (some room) fuel stack .closed rest := rfl

private theorem passOver_firstElement {depth : Nat} {text : Bytes} (written : Written depth text)
    (rest : Bytes) :
    passOver (some room) (fuel + 1) (.list :: stack) .opened (text ++ rest) =
      passOver (some room) fuel (.list :: stack) .value (text ++ rest) := by
  rcases written.opens with ⟨byte, others, rfl, opens⟩
  rcases opens.noEnd with ⟨bracket, -, -⟩
  rw [List.cons_append, passOver, skipBlanks_solid opens.solid]
  split
  · rename_i same
    cases same
  · rename_i same
    exact absurd (List.cons.inj same).1 bracket
  · rfl

private theorem passOver_firstMember (part : String × Bytes) (rest : Bytes) :
    passOver (some room) (fuel + 1) (.record :: stack) .opened (member part ++ rest) =
      passOver (some room) fuel (.record :: stack) .name (member part ++ rest) := by
  rw [member_append]
  rfl

private theorem passOver_nextElement (rest : Bytes) :
    passOver (some room) (fuel + 1) (.list :: stack) .closed (0x2C :: rest) =
      passOver (some room) fuel (.list :: stack) .value rest := rfl

private theorem passOver_nextMember (rest : Bytes) :
    passOver (some room) (fuel + 1) (.record :: stack) .closed (0x2C :: rest) =
      passOver (some room) fuel (.record :: stack) .name rest := rfl

private theorem passOver_endList (rest : Bytes) :
    passOver (some room) (fuel + 1) (.list :: stack) .closed (0x5D :: rest) =
      passOver (some room) fuel stack .closed rest := rfl

private theorem passOver_endRecord (rest : Bytes) :
    passOver (some room) (fuel + 1) (.record :: stack) .closed (0x7D :: rest) =
      passOver (some room) fuel stack .closed rest := rfl

private theorem passOver_name (part : String × Bytes) (rest : Bytes) :
    passOver (some room) (fuel + 1) (.record :: stack) .name (member part ++ rest) =
      passOver (some room) fuel (.record :: stack) .value (part.2 ++ rest) := by
  have quoted (others : Bytes) : skipBlanks (0x22 :: others) = 0x22 :: others := rfl
  rw [member_append, passOver, quoted]
  simp only [passName, Option.isSome_some, if_true, readStringTail_written, Except.map, bind,
    Except.bind, readColon_colon]

private theorem passOver_scalar {text rest : Bytes} {byte : UInt8} {others : Bytes}
    (same : text = byte :: others) (solid : Solid byte) (bracket : byte ≠ 0x5B)
    (brace : byte ≠ 0x7B) (passed : passScalar true (text ++ rest) = .ok rest) :
    passOver (some room) (fuel + 1) stack .value (text ++ rest) =
      passOver (some room) fuel stack .closed rest := by
  subst same
  rw [List.cons_append] at passed ⊢
  rw [passOver, skipBlanks_solid solid]
  split
  · rename_i other
    exact absurd (List.cons.inj other).1 bracket
  · rename_i other
    exact absurd (List.cons.inj other).1 brace
  · rw [Option.isSome_some, passed]
    rfl

end Steps

private theorem passScalar_string (text : String) (rest : Bytes) :
    passScalar true (writeString text ++ rest) = .ok rest := by
  rw [writeString_append, passScalar, if_pos rfl, readStringTail_written]
  rfl

private theorem passScalar_word (value : UInt64) {rest : Bytes} (ends : Ends rest) :
    passScalar true (writeNatural value.toNat ++ rest) = .ok rest := by
  rcases writeNatural_cons value.toNat with ⟨first, others, written, digit, -⟩
  have number := readNumber_written value ends
  rw [written, List.cons_append] at number ⊢
  unfold passScalar
  split
  · rename_i same
    cases (List.cons.inj same).1
    cases digit
  · rename_i same
    cases (List.cons.inj same).1
    cases digit
  · rename_i same
    cases (List.cons.inj same).1
    cases digit
  · rename_i same
    cases (List.cons.inj same).1
    cases digit
  · rename_i same
    rcases List.cons.inj same with ⟨rfl, rfl⟩
    rw [if_pos (.inr digit), if_pos rfl, number]
    rfl
  · rename_i same
    cases same

/-! ## Whole values -/

/-- A text that is passed over in at most three steps for each byte, wherever there is room for
what it opens. -/
def Passes (depth : Nat) (text : Bytes) : Prop :=
  ∃ steps, steps ≤ 3 * text.length ∧
    ∀ (room fuel : Nat) (stack : List Container) (rest : Bytes),
      depth + stack.length ≤ room → Ends rest →
        passOver (some room) (steps + fuel) stack .value (text ++ rest) =
          passOver (some room) fuel stack .closed rest

private theorem passes_elements {depth : Nat} {parts : List Bytes}
    (passes : ∀ part ∈ parts, Passes depth part) :
    ∃ steps, steps ≤ 3 * (trailing parts).length + 1 ∧
      ∀ (room fuel : Nat) (stack : List Container) (rest : Bytes),
        depth + stack.length + 1 ≤ room →
          passOver (some room) (steps + fuel) (.list :: stack) .closed
              (trailing parts ++ 0x5D :: rest) =
            passOver (some room) fuel stack .closed rest := by
  induction parts with
  | nil =>
      refine ⟨1, by simp [trailing], ?_⟩
      intro room fuel stack rest fits
      rw [Nat.add_comm]
      exact passOver_endList rest
  | cons part parts induction =>
      rcases passes part List.mem_cons_self with ⟨steps, few, cross⟩
      rcases induction fun other member => passes other (List.mem_cons_of_mem _ member) with
        ⟨later, fewLater, crossLater⟩
      refine ⟨1 + (steps + later), ?_, ?_⟩
      · have long : (trailing (part :: parts)).length = 1 + part.length + (trailing parts).length := by
          simp [trailing]
          omega
        omega
      · intro room fuel stack rest fits
        have deeper : depth + (Container.list :: stack).length ≤ room := by
          rw [List.length_cons]
          omega
        rw [trailing_cons, Nat.add_assoc, Nat.add_comm 1, passOver_nextElement, Nat.add_assoc,
          cross room (later + fuel) _ _ deeper (ends_trailing parts (ends_bracket rest))]
        exact crossLater room fuel stack rest fits

private theorem length_member (part : String × Bytes) :
    part.2.length + 3 ≤ (member part).length := by
  simp [member, writeString]

private theorem passes_members {depth : Nat} {parts : List (String × Bytes)}
    (passes : ∀ part ∈ parts, Passes depth part.2) :
    ∃ steps, steps ≤ 3 * (trailing (parts.map member)).length + 1 ∧
      ∀ (room fuel : Nat) (stack : List Container) (rest : Bytes),
        depth + stack.length + 1 ≤ room →
          passOver (some room) (steps + fuel) (.record :: stack) .closed
              (trailing (parts.map member) ++ 0x7D :: rest) =
            passOver (some room) fuel stack .closed rest := by
  induction parts with
  | nil =>
      refine ⟨1, by simp [trailing], ?_⟩
      intro room fuel stack rest fits
      rw [Nat.add_comm]
      exact passOver_endRecord rest
  | cons part parts induction =>
      rcases passes part List.mem_cons_self with ⟨steps, few, cross⟩
      rcases induction fun other member => passes other (List.mem_cons_of_mem _ member) with
        ⟨later, fewLater, crossLater⟩
      refine ⟨2 + (steps + later), ?_, ?_⟩
      · have long : (trailing ((part :: parts).map member)).length =
            1 + (member part).length + (trailing (parts.map member)).length := by
          rw [List.map_cons, trailing, List.flatMap_cons, List.length_append, List.length_cons,
            Nat.add_comm 1]
          rfl
        have name := length_member part
        omega
      · intro room fuel stack rest fits
        have deeper : depth + (Container.record :: stack).length ≤ room := by
          rw [List.length_cons]
          omega
        have two : 2 + (steps + later) + fuel = steps + (later + fuel) + 1 + 1 := by omega
        rw [List.map_cons, trailing_cons, two, passOver_nextMember, passOver_name,
          cross room (later + fuel) _ _ deeper
            (ends_trailing (parts.map member) (ends_brace rest))]
        exact crossLater room fuel stack rest fits

private theorem passes_list {depth : Nat} {parts : List Bytes}
    (all : ∀ part ∈ parts, Written depth part) (passes : ∀ part ∈ parts, Passes depth part) :
    Passes (depth + 1) (writeElements parts) := by
  have opened (rest : Bytes) : writeElements parts ++ rest =
      0x5B :: (separated parts ++ 0x5D :: rest) := by
    simp [writeElements]
  cases parts with
  | nil =>
      refine ⟨2, by simp [writeElements, separated], ?_⟩
      intro room fuel stack rest fits _
      rw [Nat.add_comm, opened, passOver_openList (by omega)]
      exact passOver_emptyList rest
  | cons part parts =>
      rcases passes part List.mem_cons_self with ⟨steps, few, cross⟩
      rcases passes_elements fun other member =>
          passes other (List.mem_cons_of_mem _ member) with ⟨later, fewLater, crossLater⟩
      refine ⟨2 + (steps + later), ?_, ?_⟩
      · have long : (writeElements (part :: parts)).length =
            2 + part.length + (trailing parts).length := by
          rw [writeElements, separated_cons]
          simp
          omega
        omega
      · intro room fuel stack rest fits _
        have deeper : depth + (Container.list :: stack).length ≤ room := by
          rw [List.length_cons]
          omega
        have two : 2 + (steps + later) + fuel = steps + (later + fuel) + 1 + 1 := by omega
        rw [opened, two, passOver_openList (by omega), separated_cons, List.append_assoc,
          passOver_firstElement (all part List.mem_cons_self),
          cross room (later + fuel) _ _ deeper (ends_trailing parts (ends_bracket rest))]
        exact crossLater room fuel stack rest (by omega)

private theorem passes_record {depth : Nat} {parts : List (String × Bytes)}
    (passes : ∀ part ∈ parts, Passes depth part.2) :
    Passes (depth + 1) (writeMembers parts) := by
  cases parts with
  | nil =>
      refine ⟨2, by simp [writeMembers, separated], ?_⟩
      intro room fuel stack rest fits _
      rw [Nat.add_comm, writeMembers_append, passOver_openRecord (by omega)]
      exact passOver_emptyRecord rest
  | cons part parts =>
      rcases passes part List.mem_cons_self with ⟨steps, few, cross⟩
      rcases passes_members fun other member =>
          passes other (List.mem_cons_of_mem _ member) with ⟨later, fewLater, crossLater⟩
      refine ⟨3 + (steps + later), ?_, ?_⟩
      · have long := congrArg List.length (writeMembers_append (part :: parts) [])
        have name := length_member part
        rw [List.map_cons, separated_cons] at long
        simp only [List.length_append, List.length_cons, List.length_nil] at long
        omega
      · intro room fuel stack rest fits _
        have deeper : depth + (Container.record :: stack).length ≤ room := by
          rw [List.length_cons]
          omega
        have three : 3 + (steps + later) + fuel = steps + (later + fuel) + 1 + 1 + 1 := by
          omega
        rw [writeMembers_append, three, passOver_openRecord (by omega), List.map_cons,
          separated_cons, List.append_assoc, passOver_firstMember, passOver_name,
          cross room (later + fuel) _ _ deeper
            (ends_trailing (parts.map member) (ends_brace rest))]
        exact crossLater room fuel stack rest (by omega)

theorem Written.passes {depth : Nat} {text : Bytes} (written : Written depth text) :
    Passes depth text := by
  induction written with
  | null depth =>
      refine ⟨1, by simp, ?_⟩
      intro room fuel stack rest _ _
      rw [Nat.add_comm]
      apply passOver_scalar rfl
      · exact ⟨by decide, by decide, by decide, by decide⟩
      · decide
      · decide
      · rfl
  | string depth text =>
      refine ⟨1, by simp [writeString]; omega, ?_⟩
      intro room fuel stack rest _ _
      rw [Nat.add_comm]
      apply passOver_scalar rfl
      · exact ⟨by decide, by decide, by decide, by decide⟩
      · decide
      · decide
      · exact passScalar_string text rest
  | word depth value =>
      have one := (Written.word depth value).pos
      refine ⟨1, by omega, ?_⟩
      intro room fuel stack rest _ ends
      rcases writeNatural_cons value.toNat with ⟨first, others, same, digit, -⟩
      rw [Nat.add_comm]
      apply passOver_scalar same (solid_digit digit)
      · rintro rfl
        cases digit
      · rintro rfl
        cases digit
      · exact passScalar_word value ends
  | list depth all induction => exact passes_list all induction
  | record depth _ induction => exact passes_record induction

theorem keepValue_written {depth : Nat} {text rest : Bytes} (written : Written depth text)
    {setting : Setting} (room : depth ≤ setting.room) (ends : Ends rest) :
    keepValue setting (text ++ rest) = .ok (text, rest) := by
  rcases written.passes with ⟨steps, few, cross⟩
  obtain ⟨fuel, enough⟩ : ∃ fuel, stepsFor (text ++ rest) = steps + (fuel + 1) := by
    refine ⟨stepsFor (text ++ rest) - steps - 1, ?_⟩
    rw [stepsFor, List.length_append]
    omega
  have passed : passOver (some setting.room) (stepsFor (text ++ rest)) [] .value (text ++ rest) =
      .ok rest := by
    rw [enough, cross setting.room (fuel + 1) [] rest room ends]
    rfl
  rw [keepValue, written.skipBlanks_append]
  simp only [passed, bind, Except.bind]
  rw [List.length_append, Nat.add_sub_cancel, List.take_left]

end RecordGraph.Json
