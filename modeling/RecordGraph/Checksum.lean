import RecordGraph.Text.Utf8

namespace RecordGraph

/-! The cyclic redundancy check of 32 bits: the remainder of the bytes, taken as a polynomial over
the field of two elements with the lowest bit first, by a fixed polynomial of degree 32. -/

namespace Checksum

def divisor : UInt32 := 0xEDB88320

def divideBit (remainder : UInt32) : UInt32 :=
  if remainder &&& 1 = 1 then (remainder >>> 1) ^^^ divisor else remainder >>> 1

def divideByte (remainder : UInt32) (byte : UInt8) : UInt32 :=
  let shift := divideBit
  shift (shift (shift (shift (shift (shift (shift (shift (remainder ^^^ byte.toUInt32))))))))

/-- The check of a byte string. The remainder starts with all bits set and ends inverted. -/
def crc32 (bytes : Bytes) : UInt32 :=
  bytes.foldl divideByte 0xFFFFFFFF ^^^ 0xFFFFFFFF

example : crc32 "123456789".toUTF8.data.toList = 0xCBF43926 := by decide +kernel

end Checksum

/-! Unsigned numbers as bytes, lowest byte first. -/

namespace LittleEndian

def encode : (width : Nat) → (value : Nat) → Bytes
  | 0, _ => []
  | width + 1, value => UInt8.ofNat value :: encode width (value / 256)

def decode : Bytes → Nat
  | [] => 0
  | byte :: rest => byte.toNat + 256 * decode rest

theorem decode_encode_mod (width value : Nat) :
    decode (encode width value) = value % Nat.pow 256 width := by
  induction width generalizing value with
  | zero => simp [encode, decode, Nat.mod_one]
  | succ width induction =>
      have split : Nat.pow 256 (width + 1) = 256 * Nat.pow 256 width := by
        rw [Nat.mul_comm]
        rfl
      simp only [encode, decode, induction, UInt8.toNat_ofNat', split, Nat.mod_mul]

theorem decode_encode {width value : Nat} (fits : value < Nat.pow 256 width) :
    decode (encode width value) = value := by
  rw [decode_encode_mod, Nat.mod_eq_of_lt fits]

theorem length_encode (width value : Nat) : (encode width value).length = width := by
  induction width generalizing value with
  | zero => rfl
  | succ width induction => simp [encode, induction]

end LittleEndian

end RecordGraph
