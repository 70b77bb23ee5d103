import Mathlib.Data.Nat.Bitwise
import RecordGraph.Checksum

namespace RecordGraph

/-! What the check of a byte string finds out. Dividing on loses nothing of the remainder, so a byte
that is taken for another one is seen at the end, wherever it stands and whatever follows it. -/

namespace Checksum

/-! ## Dividing on -/

private theorem toNat_half (remainder : UInt32) :
    (remainder >>> 1).toNat = remainder.toNat / 2 := by
  rw [UInt32.toNat_shiftRight, Nat.shiftRight_eq_div_pow]
  rfl

private theorem odd_iff (remainder : UInt32) :
    remainder &&& 1 = 1 ↔ remainder.toNat % 2 = 1 := by
  rw [← UInt32.toNat_inj, UInt32.toNat_and]
  exact Nat.and_one_is_mod remainder.toNat ▸ Iff.rfl

/-- The highest bit tells whether the divisor has been added. -/
private theorem divideBit_odd (remainder : UInt32) :
    2 ^ 31 ≤ (divideBit remainder).toNat ↔ remainder &&& 1 = 1 := by
  have half : (remainder >>> 1).toNat < 2 ^ 31 := by
    have most := remainder.toNat_lt
    rw [toNat_half]
    omega
  rw [divideBit]
  split
  · rename_i odd
    refine iff_of_true (Nat.not_lt.1 fun small => ?_) odd
    have back : divisor = (remainder >>> 1) ^^^ ((remainder >>> 1) ^^^ divisor) := by
      rw [← UInt32.xor_assoc, UInt32.xor_self, UInt32.zero_xor]
    have less : divisor.toNat < 2 ^ 31 := by
      rw [back, UInt32.toNat_xor]
      exact Nat.xor_lt_two_pow half small
    exact absurd less (by decide)
  · rename_i even
    exact iff_of_false (Nat.not_le.2 half) even

theorem divideBit_injective : Function.Injective divideBit := by
  intro first second same
  have parity : first &&& 1 = 1 ↔ second &&& 1 = 1 := by
    rw [← divideBit_odd, ← divideBit_odd, same]
  have halves : first >>> 1 = second >>> 1 := by
    rw [divideBit, divideBit] at same
    by_cases odd : first &&& 1 = 1
    · rw [if_pos odd, if_pos (parity.1 odd)] at same
      exact (UInt32.xor_left_inj divisor).1 same
    · rw [if_neg odd, if_neg (mt parity.2 odd)] at same
      exact same
  rw [odd_iff, odd_iff] at parity
  rw [← UInt32.toNat_inj, toNat_half, toNat_half] at halves
  rw [← UInt32.toNat_inj]
  omega

private theorem divideByte_eq {first second : UInt32} {byte other : UInt8}
    (same : divideByte first byte = divideByte second other) :
    first ^^^ byte.toUInt32 = second ^^^ other.toUInt32 := by
  have eight : Function.Injective fun remainder =>
      divideBit (divideBit (divideBit (divideBit (divideBit (divideBit (divideBit (divideBit
        remainder))))))) := by
    intro left right equal
    iterate 8 replace equal := divideBit_injective equal
    exact equal
  exact eight same

theorem divideByte_injective (byte : UInt8) : Function.Injective (divideByte · byte) :=
  fun _ _ same => (UInt32.xor_left_inj byte.toUInt32).1 (divideByte_eq same)

theorem divideByte_byte {remainder : UInt32} {byte other : UInt8}
    (same : divideByte remainder byte = divideByte remainder other) : byte = other :=
  UInt8.toUInt32_inj.1 ((UInt32.xor_right_inj remainder).1 (divideByte_eq same))

theorem foldl_divideByte_injective (bytes : Bytes) :
    Function.Injective (bytes.foldl divideByte ·) := by
  induction bytes with
  | nil => exact fun _ _ same => same
  | cons byte bytes induction =>
      intro first second same
      exact divideByte_injective byte (induction same)

/-! ## Changed bytes -/

/-- No single byte can be taken for another one without another check. -/
theorem eq_of_crc32_eq {before after : Bytes} {byte other : UInt8}
    (same : crc32 (before ++ byte :: after) = crc32 (before ++ other :: after)) :
    byte = other := by
  have folded := (UInt32.xor_left_inj _).1 same
  rw [List.foldl_append, List.foldl_append] at folded
  exact divideByte_byte (foldl_divideByte_injective after folded)

end Checksum

namespace LittleEndian

theorem encode_injective {width first second : Nat} (fits : first < Nat.pow 256 width)
    (fitsToo : second < Nat.pow 256 width) (same : encode width first = encode width second) :
    first = second := by
  rw [← decode_encode fits, same, decode_encode fitsToo]

theorem encode_decode {width : Nat} {bytes : Bytes} (whole : bytes.length = width) :
    encode width (decode bytes) = bytes := by
  subst whole
  induction bytes with
  | nil => rfl
  | cons byte bytes induction =>
      have most := byte.toNat_lt
      have rest : (byte.toNat + 256 * decode bytes) / 256 = decode bytes := by omega
      have first : UInt8.ofNat (byte.toNat + 256 * decode bytes) = byte := by
        rw [← UInt8.toNat_inj, UInt8.toNat_ofNat']
        omega
      rw [List.length_cons, encode, decode, first, rest, induction]

theorem decode_lt {width : Nat} {bytes : Bytes} (whole : bytes.length = width) :
    decode bytes < Nat.pow 256 width := by
  rw [← encode_decode whole, decode_encode_mod]
  exact Nat.mod_lt _ (Nat.pow_pos (by decide))

end LittleEndian

end RecordGraph
