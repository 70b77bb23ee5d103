import RecordGraph.Proofs.Json.Record

namespace RecordGraph.Json

/-! Values that are read back with their kind. -/

section

variable {Kind Value : Type} {named : String → Option Kind} {values : Kinds Kind Value}
  {kind : Kind} {name : String} {value : Value} {text : Bytes} {setting : Setting}

theorem readTag_written (known : named name = some kind) (setting : Setting) (rest : Bytes) :
    Tagged.readTag named setting (writeString name ++ rest) = .ok (kind, rest) := by
  rw [Tagged.readTag, readString_written]
  simp only [bind, Except.bind, known]

theorem Single.read_written (known : named name = some kind) (room : 1 ≤ setting.room)
    (reads : ∀ rest, Ends rest → values kind setting.inside (text ++ rest) = .ok (value, rest))
    (rest : Bytes) :
    Single.read named values setting (Single.write name text ++ rest) = .ok (value, rest) := by
  rcases enter_ok room with ⟨entered, -⟩
  have tag := readTag_written known setting.inside (0x3A :: (text ++ 0x7D :: rest))
  rw [writeString_append] at tag
  rw [Single.read, Single.write, skipBlanks_writeMembers, List.map_singleton, separated,
    member_append]
  have quoted (others : Bytes) : skipBlanks (0x22 :: others) = 0x22 :: others := rfl
  simp only [entered, bind, Except.bind, readOnlyName, quoted, tag, readColon_colon,
    reads _ (ends_brace rest), endRecord_end]

theorem written_single (name : String) {depth : Nat} (written : Written depth text) :
    Written (depth + 1) (Single.write name text) := by
  apply Written.record
  intro part found
  rw [List.mem_singleton] at found
  rw [found]
  exact written

theorem Single.readName_written (known : named name = some kind) (setting : Setting)
    (rest : Bytes) :
    Single.readName named setting (writeString name ++ rest) = .ok (kind, rest) := by
  have tag := readTag_written known setting rest
  rw [writeString_append] at tag ⊢
  exact tag

theorem Described.read_written {names : Described.Names} (kinds : List Kind)
    (different : names.value ≠ names.kind) (known : named name = some kind)
    (room : 1 ≤ setting.room)
    (reads : ∀ rest, Ends rest → values kind setting.inside (text ++ rest) = .ok (value, rest))
    (rest : Bytes) :
    Described.read names named kinds values setting (Described.write names name text ++ rest) =
      .ok (value, rest) := by
  rcases enter_ok room with ⟨entered, -⟩
  have both : (separated ([(names.kind, writeString name), (names.value, text)].map member) ++
      0x7D :: rest) = member (names.kind, writeString name) ++
        0x2C :: (member (names.value, text) ++ 0x7D :: rest) := by
    simp [separated]
  rw [Described.read, Described.write, skipBlanks_writeMembers, both]
  simp only [entered, bind, Except.bind]
  -- the record has two members, and so the reader takes three steps
  obtain ⟨fuel, enough⟩ : ∃ fuel, (member (names.kind, writeString name) ++
      0x2C :: (member (names.value, text) ++ 0x7D :: rest)).length + 1 = fuel + 3 := by
    refine ⟨_, (Nat.sub_add_cancel ?_).symm⟩
    rw [List.length_append, List.length_cons, List.length_append, List.length_cons]
    omega
  rw [enough, Described.readMembers, nextMember_member_first]
  simp only [bind, Except.bind, readStringTail_written, if_true, readColon_colon,
    Single.readName_written known]
  rw [Described.readMembers, nextMember_member_later]
  simp only [bind, Except.bind, readStringTail_written, if_neg different, if_true,
    readColon_colon, reads _ (ends_brace rest)]
  rw [Described.readMembers, nextMember_end]
  · rfl
  all_goals
    intro value same
    cases same

theorem written_described (names : Described.Names) (name : String) {depth : Nat}
    (written : Written depth text) : Written (depth + 1) (Described.write names name text) := by
  apply Written.record
  intro part found
  rcases List.mem_cons.1 found with rfl | found
  · exact .string depth name
  · rw [List.mem_singleton] at found
    rw [found]
    exact written

end

end RecordGraph.Json
