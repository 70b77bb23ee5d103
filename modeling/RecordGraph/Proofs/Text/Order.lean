import RecordGraph.Proofs.Text.Utf8

namespace RecordGraph.Utf8

/-! The order of texts is that of their bytes. -/

private theorem ofNat_lt_ofNat {first second : Nat} (small : second < 256) (less : first < second) :
    UInt8.ofNat first < UInt8.ofNat second := by
  rw [UInt8.lt_iff_toNat_lt, UInt8.toNat_ofNat', UInt8.toNat_ofNat', Nat.mod_eq_of_lt small]
  exact Nat.lt_of_le_of_lt (Nat.mod_le _ _) less

private theorem cons_lt_cons {first second : Nat} {rest more : Bytes} (small : second < 256)
    (less : first < second ∨ first = second ∧ rest < more) :
    UInt8.ofNat first :: rest < UInt8.ofNat second :: more := by
  rw [List.cons_lt_cons_iff]
  rcases less with less | ⟨same, less⟩
  · exact .inl (ofNat_lt_ofNat small less)
  · exact .inr ⟨by rw [same], less⟩

/-- A byte that begins a character tells how many follow, and the others its number, from its front
on. -/
theorem utf8EncodeChar_lt {first second : Char} (less : first < second) (rest more : Bytes) :
    String.utf8EncodeChar first ++ rest < String.utf8EncodeChar second ++ more := by
  have order : first.val.toNat < second.val.toNat := less
  have valid : second.val.toNat < 0x110000 := by
    rcases second.valid with small | ⟨-, small⟩
    · exact Nat.lt_trans small (by decide)
    · exact small
  rw [String.utf8EncodeChar, String.utf8EncodeChar]
  generalize first.val.toNat = one at order
  generalize second.val.toNat = two at order valid
  split
  -- one byte
  · split
    · exact cons_lt_cons (by omega) (.inl (by omega))
    split
    · exact cons_lt_cons (by omega) (.inl (by omega))
    split
    all_goals exact cons_lt_cons (by omega) (.inl (by omega))
  split
  -- two bytes
  · split
    · omega
    split
    · apply cons_lt_cons
      · omega
      rcases Nat.lt_or_ge (one / 64) (two / 64) with high | high
      · left
        omega
      · refine .inr ⟨by omega, ?_⟩
        exact cons_lt_cons (by omega) (.inl (by omega))
    split
    all_goals exact cons_lt_cons (by omega) (.inl (by omega))
  split
  -- three bytes
  · split
    · omega
    split
    · omega
    split
    · apply cons_lt_cons
      · omega
      rcases Nat.lt_or_ge (one / 4096) (two / 4096) with high | high
      · left
        omega
      refine .inr ⟨by omega, ?_⟩
      apply cons_lt_cons
      · omega
      rcases Nat.lt_or_ge (one / 64) (two / 64) with middle | middle
      · left
        omega
      refine .inr ⟨by omega, ?_⟩
      exact cons_lt_cons (by omega) (.inl (by omega))
    · exact cons_lt_cons (by omega) (.inl (by omega))
  -- four bytes
  · split
    · omega
    split
    · omega
    split
    · omega
    apply cons_lt_cons
    · omega
    rcases Nat.lt_or_ge (one / 262144) (two / 262144) with high | high
    · left
      omega
    refine .inr ⟨by omega, ?_⟩
    apply cons_lt_cons
    · omega
    rcases Nat.lt_or_ge (one / 4096) (two / 4096) with middle | middle
    · left
      omega
    refine .inr ⟨by omega, ?_⟩
    apply cons_lt_cons
    · omega
    rcases Nat.lt_or_ge (one / 64) (two / 64) with low | low
    · left
      omega
    refine .inr ⟨by omega, ?_⟩
    exact cons_lt_cons (by omega) (.inl (by omega))

private theorem utf8EncodeChar_ne_nil (character : Char) (rest : Bytes) :
    [] < String.utf8EncodeChar character ++ rest := by
  rw [String.utf8EncodeChar]
  split
  · exact List.nil_lt_cons _ _
  split
  · exact List.nil_lt_cons _ _
  split
  all_goals exact List.nil_lt_cons _ _

theorem encode_lt {first second : String} (less : first < second) :
    encode first < encode second := by
  have characters : first.toList < second.toList := less
  rw [encode_toList, encode_toList]
  generalize first.toList = one at characters
  generalize second.toList = two at characters
  induction characters with
  | nil => exact utf8EncodeChar_ne_nil _ _
  | rel less => exact utf8EncodeChar_lt less _ _
  | cons _ induction =>
      rw [List.flatMap_cons, List.flatMap_cons]
      exact List.append_left_lt induction

/-- Texts are in the order of their bytes. -/
theorem encode_le_encode {first second : String} :
    encode first ≤ encode second ↔ first ≤ second := by
  constructor
  · intro bytes
    rw [← String.not_lt]
    intro greater
    exact bytes (encode_lt greater)
  · intro texts bytes
    by_cases back : second ≤ first
    · rw [String.le_antisymm texts back] at bytes
      exact List.lt_irrefl _ bytes
    · exact List.lt_asymm bytes (encode_lt (String.not_le.1 back))

end RecordGraph.Utf8
