import Mathlib.Tactic.Set
import RecordGraph.Base64

namespace RecordGraph.Base64

/-! Letters give back the bytes that they have been made of. -/

private theorem letter_ne_pad {value : Nat} (small : value < 64) : letter value ≠ '=' := by
  have all : ∀ number : Fin 64, letter number ≠ '=' := by decide
  exact all ⟨value, small⟩

private theorem ofNat_eq {value : Nat} (byte : UInt8) (same : value % 256 = byte.toNat) :
    UInt8.ofNat value = byte := by
  rw [← UInt8.toNat_inj, UInt8.toNat_ofNat']
  exact same

private theorem decode?_group {first second third fourth : Nat} (small₁ : first < 64)
    (small₂ : second < 64) (small₃ : third < 64) (small₄ : fourth < 64) (rest : List Char) :
    let bits := ((first * 64 + second) * 64 + third) * 64 + fourth
    decode? (letter first :: letter second :: letter third :: letter fourth :: rest) =
      (decode? rest).map fun others =>
        UInt8.ofNat (bits / 65536) :: UInt8.ofNat (bits / 256) :: UInt8.ofNat bits :: others := by
  rw [decode?]
  · simp only [value?_letter small₁, value?_letter small₂, value?_letter small₃,
      value?_letter small₄]
    cases decode? rest <;> rfl
  · intro _ pad
    exact absurd pad (letter_ne_pad small₄)
  · intro pad
    exact absurd pad (letter_ne_pad small₄)

theorem decode?_encode (bytes : Bytes) : decode? (encode bytes) = some bytes := by
  induction bytes using encode.induct with
  | case1 => rfl
  | case2 first =>
      have small := first.toNat_lt
      have whole : first.toNat / 4 * 64 + first.toNat % 4 * 16 = first.toNat * 16 := by omega
      rw [encode, decode?, value?_letter (by omega), value?_letter (by omega)]
      change (if (first.toNat / 4 * 64 + first.toNat % 4 * 16) % 16 = 0 then
        some [UInt8.ofNat ((first.toNat / 4 * 64 + first.toNat % 4 * 16) / 16)] else none) = _
      rw [whole, if_pos (by omega), ofNat_eq first (by omega)]
  | case3 first second =>
      have small₁ := first.toNat_lt
      have small₂ := second.toNat_lt
      set bits := first.toNat * 256 + second.toNat with bits_eq
      have whole : (bits / 1024 * 64 + bits / 16 % 64) * 64 + bits % 16 * 4 = bits * 4 := by omega
      rw [encode, decode?, value?_letter (by omega), value?_letter (by omega),
        value?_letter (by omega)]
      · change (if ((bits / 1024 * 64 + bits / 16 % 64) * 64 + bits % 16 * 4) % 4 = 0 then
          some [UInt8.ofNat (((bits / 1024 * 64 + bits / 16 % 64) * 64 + bits % 16 * 4) / 1024),
            UInt8.ofNat (((bits / 1024 * 64 + bits / 16 % 64) * 64 + bits % 16 * 4) / 4)]
          else none) = _
        rw [whole, if_pos (by omega), ofNat_eq first (by omega),
          ofNat_eq second (by omega)]
      · exact letter_ne_pad (by omega)
  | case4 first second third rest induction =>
      have small₁ := first.toNat_lt
      have small₂ := second.toNat_lt
      have small₃ := third.toNat_lt
      rw [encode, decode?_group, induction, Option.map_some]
      · rw [ofNat_eq first (by omega), ofNat_eq second (by omega),
          ofNat_eq third (by omega)]
      all_goals omega

end RecordGraph.Base64
