import RecordGraph.Text.Utf8

namespace RecordGraph.Utf8

/-! Forgiving reading of texts: of the bytes of a text nothing is replaced. -/

/-! ## Bytes of characters -/

private theorem toNat_ofNat {number : Nat} (small : number < 256) :
    (UInt8.ofNat number).toNat = number := by
  rw [UInt8.toNat_ofNat']
  exact Nat.mod_eq_of_lt small

private theorem valid_toNat (character : Char) :
    character.toNat < 0xD800 ∨ 0xDFFF < character.toNat ∧ character.toNat < 0x110000 :=
  character.valid

/-! ## Bytes that begin a character -/

private theorem start_one {number : Nat} (small : number ≤ 0x7F) :
    start (UInt8.ofNat number) = ([Char.ofNat number], none) := by
  have same : (UInt8.ofNat number).toNat = number := toNat_ofNat (by omega)
  have less : UInt8.ofNat number < 0x80 := by
    rw [UInt8.lt_iff_toNat_lt, same]
    simp only [UInt8.reduceToNat]
    omega
  rw [start, if_pos less, same]

private theorem start_two {high : Nat} (least : 2 ≤ high) (most : high < 32) :
    start (UInt8.ofNat (high + 0xC0)) = ([], some ⟨high, 1, 0x80, 0xBF⟩) := by
  have all : ∀ high : Fin 32, 2 ≤ high.val → start (UInt8.ofNat (high.val + 0xC0)) =
      ([], some ⟨high.val, 1, 0x80, 0xBF⟩) := by decide
  exact all ⟨high, most⟩ least

/-- After the byte of a zero the number must not be small, and halves of characters are left
out. -/
private theorem start_three {high : Nat} (most : high < 16) :
    start (UInt8.ofNat (high + 0xE0)) = ([], some ⟨high, 2, if high = 0 then 0xA0 else 0x80,
      if high = 13 then 0x9F else 0xBF⟩) := by
  have all : ∀ high : Fin 16, start (UInt8.ofNat (high.val + 0xE0)) =
      ([], some ⟨high.val, 2, if high.val = 0 then 0xA0 else 0x80,
        if high.val = 13 then 0x9F else 0xBF⟩) := by decide
  exact all ⟨high, most⟩

private theorem start_four {high : Nat} (most : high < 5) :
    start (UInt8.ofNat (high + 0xF0)) = ([], some ⟨high, 3, if high = 0 then 0x90 else 0x80,
      if high = 4 then 0x8F else 0xBF⟩) := by
  have all : ∀ high : Fin 5, start (UInt8.ofNat (high.val + 0xF0)) =
      ([], some ⟨high.val, 3, if high.val = 0 then 0x90 else 0x80,
        if high.val = 4 then 0x8F else 0xBF⟩) := by decide
  exact all ⟨high, most⟩

/-! ## Bytes that go on with a character -/

private theorem step_between {begun : Begun} {low : Nat} (small : low < 64)
    (least : begun.least.toNat ≤ low + 0x80) (most : low + 0x80 ≤ begun.greatest.toNat) :
    step (some begun) (UInt8.ofNat (low + 0x80)) =
      if begun.owed = 1 then ([Char.ofNat (begun.soFar * 64 + low)], none)
      else ([], some ⟨begun.soFar * 64 + low, begun.owed - 1, 0x80, 0xBF⟩) := by
  have same : (UInt8.ofNat (low + 0x80)).toNat = low + 0x80 := toNat_ofNat (by omega)
  have between : begun.least ≤ UInt8.ofNat (low + 0x80) ∧
      UInt8.ofNat (low + 0x80) ≤ begun.greatest := by
    rw [UInt8.le_iff_toNat_le, UInt8.le_iff_toNat_le, same]
    exact ⟨least, most⟩
  rw [step, if_pos between, same, Nat.add_sub_cancel]

private theorem charsFrom_last {begun : Begun} {low : Nat} (small : low < 64)
    (owed : begun.owed = 1) (least : begun.least.toNat ≤ low + 0x80)
    (most : low + 0x80 ≤ begun.greatest.toNat) (rest : Bytes) :
    charsFrom (some begun) (UInt8.ofNat (low + 0x80) :: rest) =
      Char.ofNat (begun.soFar * 64 + low) :: charsFrom none rest := by
  rw [charsFrom, step_between small least most, if_pos owed]
  rfl

private theorem charsFrom_more {begun : Begun} {low : Nat} (small : low < 64)
    (owed : begun.owed ≠ 1) (least : begun.least.toNat ≤ low + 0x80)
    (most : low + 0x80 ≤ begun.greatest.toNat) (rest : Bytes) :
    charsFrom (some begun) (UInt8.ofNat (low + 0x80) :: rest) =
      charsFrom (some ⟨begun.soFar * 64 + low, begun.owed - 1, 0x80, 0xBF⟩) rest := by
  rw [charsFrom, step_between small least most, if_neg owed]
  rfl

/-! ## Whole characters -/

private theorem charsFrom_three {value : Nat} (least : 0x7FF < value) (most : value ≤ 0xFFFF)
    (whole : value < 0xD800 ∨ 0xDFFF < value) (rest : Bytes) :
    charsFrom none (UInt8.ofNat (value / 4096 % 0x10 + 0xE0) ::
      UInt8.ofNat (value / 64 % 0x40 + 0x80) :: UInt8.ofNat (value % 0x40 + 0x80) :: rest) =
        Char.ofNat value :: charsFrom none rest := by
  have high : value / 4096 % 0x10 = value / 4096 := Nat.mod_eq_of_lt (by omega)
  rw [high, charsFrom, step, start_three (by omega)]
  dsimp only
  rw [List.nil_append, charsFrom_more (by omega) (by simp)]
  · dsimp only
    rw [charsFrom_last (by omega) rfl (by simp) (by simp; omega)]
    dsimp only
    congr 2
    omega
  · dsimp only
    split
    all_goals
      simp only [UInt8.reduceToNat]
      omega
  · dsimp only
    split
    all_goals
      simp only [UInt8.reduceToNat]
      omega

private theorem charsFrom_four {value : Nat} (least : 0xFFFF < value) (most : value < 0x110000)
    (rest : Bytes) :
    charsFrom none (UInt8.ofNat (value / 262144 % 0x08 + 0xF0) ::
      UInt8.ofNat (value / 4096 % 0x40 + 0x80) :: UInt8.ofNat (value / 64 % 0x40 + 0x80) ::
        UInt8.ofNat (value % 0x40 + 0x80) :: rest) =
          Char.ofNat value :: charsFrom none rest := by
  have high : value / 262144 % 0x08 = value / 262144 := Nat.mod_eq_of_lt (by omega)
  rw [high, charsFrom, step, start_four (by omega)]
  dsimp only
  rw [List.nil_append, charsFrom_more (by omega) (by simp)]
  · dsimp only
    rw [charsFrom_more (by omega) (by simp) (by simp) (by simp; omega)]
    dsimp only
    rw [charsFrom_last (by omega) rfl (by simp) (by simp; omega)]
    dsimp only
    congr 2
    omega
  · dsimp only
    split
    all_goals
      simp only [UInt8.reduceToNat]
      omega
  · dsimp only
    split
    all_goals
      simp only [UInt8.reduceToNat]
      omega

theorem charsFrom_utf8EncodeChar (character : Char) (rest : Bytes) :
    charsFrom none (String.utf8EncodeChar character ++ rest) =
      character :: charsFrom none rest := by
  have valid := valid_toNat character
  have back : Char.ofNat character.toNat = character := Char.ofNat_toNat character
  have number : character.val.toNat = character.toNat := rfl
  generalize character.toNat = value at valid back number
  rw [String.utf8EncodeChar, number]
  split
  · rename_i small
    rw [List.singleton_append, charsFrom, step, start_one small, back]
    rfl
  split
  · rename_i large small
    have high : value / 64 % 0x20 = value / 64 := Nat.mod_eq_of_lt (by omega)
    rw [high, List.cons_append, List.singleton_append, charsFrom, step,
      start_two (by omega) (by omega)]
    dsimp only
    rw [List.nil_append, charsFrom_last (by omega) rfl (by simp) (by simp; omega)]
    dsimp only
    rw [Nat.div_add_mod' value 64, back]
  split
  · rename_i two one three
    rw [← back]
    exact charsFrom_three (Nat.lt_of_not_le one) three (valid.imp_right And.left) rest
  · rename_i two one three
    rw [← back]
    exact charsFrom_four (Nat.lt_of_not_le three) (by omega) rest

/-! ## Whole texts -/

theorem encode_ofList (characters : List Char) :
    encode (String.ofList characters) = characters.flatMap String.utf8EncodeChar := by
  rw [encode, String.toUTF8, String.toByteArray_ofList, List.utf8Encode]
  simp

theorem encode_toList (text : String) :
    encode text = text.toList.flatMap String.utf8EncodeChar := by
  rw [← encode_ofList, String.ofList_toList]

theorem encode_append (first second : String) :
    encode (first ++ second) = encode first ++ encode second := by
  rw [encode_toList, String.toList_append, List.flatMap_append, ← encode_toList, ← encode_toList]

theorem decodeLossy_encode (text : String) : decodeLossy (encode text) = text := by
  have characters : charsFrom none (encode text) = text.toList := by
    rw [encode_toList]
    induction text.toList with
    | nil => rfl
    | cons character characters induction =>
        rw [List.flatMap_cons, charsFrom_utf8EncodeChar, induction]
  rw [decodeLossy, characters, String.ofList_toList]

/-! ## Texts of small bytes -/

def Ascii (bytes : Bytes) : Prop := ∀ byte ∈ bytes, byte < 0x80

theorem utf8EncodeChar_small {character : Char} (small : character.toNat < 0x80) :
    String.utf8EncodeChar character = [UInt8.ofNat character.toNat] := by
  have least : character.val.toNat ≤ 0x7F := Nat.le_of_lt_succ small
  rw [String.utf8EncodeChar, if_pos least]
  rfl

private theorem ofNat_byte {byte : UInt8} (small : byte < 0x80) :
    (Char.ofNat byte.toNat).toNat = byte.toNat := by
  rw [UInt8.lt_iff_toNat_lt] at small
  have valid : byte.toNat.isValidChar := .inl (Nat.lt_trans small (by decide))
  rw [Char.ofNat, dif_pos valid]
  rfl

theorem encode_decodeLossy {bytes : Bytes} (ascii : Ascii bytes) :
    encode (decodeLossy bytes) = bytes := by
  rw [decodeLossy, encode_ofList]
  induction bytes with
  | nil => rfl
  | cons byte bytes induction =>
      have small := ascii byte List.mem_cons_self
      have later := induction fun other member => ascii other (List.mem_cons_of_mem _ member)
      have same := ofNat_byte small
      rw [charsFrom, step, start, if_pos small]
      dsimp only
      rw [List.singleton_append, List.flatMap_cons, later, utf8EncodeChar_small, same,
        UInt8.ofNat_toNat]
      · rfl
      · rw [same]
        exact UInt8.lt_iff_toNat_lt.1 small

theorem mem_encode {text : String} {character : Char} (small : character.toNat < 0x80)
    (member : character ∈ text.toList) : UInt8.ofNat character.toNat ∈ encode text := by
  rw [encode_toList, List.mem_flatMap]
  refine ⟨character, member, ?_⟩
  rw [utf8EncodeChar_small small]
  exact List.mem_singleton_self _

private theorem utf8EncodeChar_large {character : Char} (large : ¬ character.toNat < 0x80) :
    ∀ byte ∈ String.utf8EncodeChar character, ¬ byte < 0x80 := by
  have most : ¬ character.val.toNat ≤ 0x7F := fun small => large (Nat.lt_succ_of_le small)
  have high {first second : Nat} (least : 0x80 ≤ second) (below : first + second < 256) :
      ¬ UInt8.ofNat (first + second) < 0x80 := by
    rw [UInt8.lt_iff_toNat_lt, UInt8.toNat_ofNat', Nat.mod_eq_of_lt below]
    exact Nat.not_lt.2 (Nat.le_trans least (Nat.le_add_left _ _))
  rw [String.utf8EncodeChar, if_neg most]
  split
  · simp only [List.forall_mem_cons]
    exact ⟨high (by decide) (by omega), high (by decide) (by omega), List.forall_mem_nil _⟩
  split
  · simp only [List.forall_mem_cons]
    exact ⟨high (by decide) (by omega), high (by decide) (by omega), high (by decide) (by omega),
      List.forall_mem_nil _⟩
  · simp only [List.forall_mem_cons]
    exact ⟨high (by decide) (by omega), high (by decide) (by omega), high (by decide) (by omega),
      high (by decide) (by omega), List.forall_mem_nil _⟩

theorem mem_of_mem_encode {text : String} {character : Char} (small : character.toNat < 0x80)
    (member : UInt8.ofNat character.toNat ∈ encode text) : character ∈ text.toList := by
  rw [encode_toList, List.mem_flatMap] at member
  rcases member with ⟨other, there, member⟩
  have byte {number : Nat} (least : number < 0x80) : (UInt8.ofNat number).toNat = number := by
    rw [UInt8.toNat_ofNat', Nat.mod_eq_of_lt (Nat.lt_trans least (by decide))]
  by_cases least : other.toNat < 0x80
  · rw [utf8EncodeChar_small least, List.mem_singleton] at member
    have same := congrArg UInt8.toNat member
    rw [byte small, byte least] at same
    exact Char.toNat_inj.1 same ▸ there
  · refine absurd ?_ (utf8EncodeChar_large least _ member)
    rw [UInt8.lt_iff_toNat_lt, byte small]
    exact small

end RecordGraph.Utf8
