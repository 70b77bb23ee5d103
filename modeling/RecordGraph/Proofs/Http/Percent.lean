import RecordGraph.Http.Percent
import RecordGraph.Proofs.Text.Utf8

namespace RecordGraph

/-! Parts of paths and queries are read back as they have been written. -/

namespace Http

/-! ## Percent signs -/

theorem forall_byte {holds : UInt8 → Prop}
    (each : ∀ number : Fin 256, holds (UInt8.ofNat number.val)) (byte : UInt8) : holds byte := by
  have same := each ⟨byte.toNat, byte.toNat_lt⟩
  rwa [UInt8.ofNat_toNat] at same

private theorem percentDecode_plain {byte : UInt8} (other : byte ≠ 0x25) (rest : Bytes) :
    percentDecode (byte :: rest) = byte :: percentDecode rest := by
  rw [percentDecode]
  intro first second later same
  exact absurd same other

private theorem percentDecode_percentByte (byte : UInt8) (rest : Bytes) :
    percentDecode (percentByte byte ++ rest) = byte :: percentDecode rest := by
  have high : byte / 16 < 16 := by
    rw [UInt8.lt_iff_toNat_lt, UInt8.toNat_div]
    exact Nat.div_lt_of_lt_mul byte.toNat_lt
  have low : byte % 16 < 16 := by
    rw [UInt8.lt_iff_toNat_lt, UInt8.toNat_mod]
    exact Nat.mod_lt _ (by decide)
  have whole : byte / 16 * 16 + byte % 16 = byte := by
    rw [← UInt8.toNat_inj, UInt8.toNat_add, UInt8.toNat_mul, UInt8.toNat_div, UInt8.toNat_mod]
    have most := byte.toNat_lt
    simp only [UInt8.reduceToNat]
    omega
  rw [percentByte, List.cons_append, List.cons_append, List.cons_append, List.nil_append,
    percentDecode, hexValue?_hexDigit high, hexValue?_hexDigit low]
  simp only [whole]

theorem percentDecode_percentEncode {plain : UInt8 → Bool} (escaped : plain 0x25 = false)
    (bytes : Bytes) : percentDecode (percentEncode plain bytes) = bytes := by
  induction bytes with
  | nil => rfl
  | cons byte bytes induction =>
      rw [percentEncode] at induction ⊢
      rw [List.flatMap_cons]
      split
      · rename_i kept
        have other : byte ≠ 0x25 := by
          rintro rfl
          rw [escaped] at kept
          cases kept
        rw [List.singleton_append, percentDecode_plain other, induction]
      · rw [percentDecode_percentByte, induction]

theorem all_percentEncode {plain holds : UInt8 → Bool}
    (kept : ∀ byte, plain byte = true → holds byte = true) (sign : holds 0x25 = true)
    (digits : ∀ number : Fin 16, holds (hexDigit (UInt8.ofNat number.val)) = true)
    (bytes : Bytes) : ∀ byte ∈ percentEncode plain bytes, holds byte = true := by
  have digit (value : UInt8) (small : value.toNat < 16) : holds (hexDigit value) = true := by
    have same := digits ⟨value.toNat, small⟩
    rwa [UInt8.ofNat_toNat] at same
  intro byte member
  rw [percentEncode, List.mem_flatMap] at member
  rcases member with ⟨source, -, member⟩
  split at member
  · rename_i plainly
    rw [List.mem_singleton.1 member]
    exact kept source plainly
  · rw [percentByte, List.mem_cons, List.mem_cons, List.mem_singleton] at member
    have most := source.toNat_lt
    rcases member with rfl | rfl | rfl
    · exact sign
    · apply digit
      rw [UInt8.toNat_div]
      exact Nat.div_lt_of_lt_mul most
    · apply digit
      rw [UInt8.toNat_mod]
      exact Nat.mod_lt _ (by decide)

/-! ## Parts of a path -/

private def isInPart (byte : UInt8) : Bool := isPlainInPath byte || byte = 0x25

private theorem isInPart_encoded (text : String) :
    ∀ byte ∈ percentEncode isPlainInPath (Utf8.encode text), isInPart byte = true := by
  apply all_percentEncode
  · intro byte kept
    rw [isInPart, kept, Bool.true_or]
  · rfl
  · decide

private theorem not_mem_of_isInPart {bytes : Bytes} (all : ∀ byte ∈ bytes, isInPart byte = true)
    {byte : UInt8} (out : isInPart byte = false) : byte ∉ bytes := by
  intro member
  rw [all byte member] at out
  cases out

theorem encode_encodePart (text : String) :
    Utf8.encode (encodePart text) = percentEncode isPlainInPath (Utf8.encode text) := by
  apply Utf8.encode_decodeLossy
  intro byte member
  have small : ∀ byte, isInPart byte = true → byte < 0x80 := forall_byte (by decide +kernel)
  exact small byte (isInPart_encoded text byte member)

theorem not_mem_encodePart (text : String) :
    0x2F ∉ Utf8.encode (encodePart text) ∧ 0x3F ∉ Utf8.encode (encodePart text) ∧
      0x23 ∉ Utf8.encode (encodePart text) := by
  have all := isInPart_encoded text
  rw [encode_encodePart]
  exact ⟨not_mem_of_isInPart all rfl, not_mem_of_isInPart all rfl, not_mem_of_isInPart all rfl⟩

theorem decodePart?_encodePart (text : String) : decodePart? (encodePart text) = some text := by
  rw [decodePart?, encode_encodePart, percentDecode_percentEncode rfl, Utf8.decode?_encode]

/-! ## Queries -/

private def isInValue (byte : UInt8) : Bool :=
  isPlainInQuery byte || byte = 0x20 || byte = 0x25

private theorem isInValue_encoded (text : String) :
    ∀ byte ∈ percentEncode (fun byte => isPlainInQuery byte || byte = 0x20) (Utf8.encode text),
      isInValue byte = true := by
  apply all_percentEncode
  · intro byte kept
    rw [isInValue, kept, Bool.true_or]
  · rfl
  · decide

private theorem encodeValue_bytes (text : String) :
    ∀ byte ∈ encodeValue text, byte < 0x80 ∧ byte ≠ 0x26 ∧ byte ≠ 0x3D ∧ byte ≠ 0x23 := by
  have holds : ∀ byte, isInValue byte = true →
      (if byte = 0x20 then 0x2B else byte) < 0x80 ∧
        (if byte = 0x20 then 0x2B else byte) ≠ 0x26 ∧
        (if byte = 0x20 then 0x2B else byte) ≠ 0x3D ∧
        (if byte = 0x20 then 0x2B else byte) ≠ 0x23 := forall_byte (by decide +kernel)
  intro byte member
  rw [encodeValue, List.mem_map] at member
  rcases member with ⟨source, found, rfl⟩
  exact holds source (isInValue_encoded text source found)

theorem decodeValue_encodeValue (text : String) : decodeValue (encodeValue text) = text := by
  have back : ∀ byte, isInValue byte = true →
      (if (if byte = 0x20 then 0x2B else byte) = 0x2B then 0x20
        else if byte = 0x20 then 0x2B else byte) = byte := forall_byte (by decide +kernel)
  have spaces : (encodeValue text).map (fun byte => if byte = 0x2B then 0x20 else byte) =
      percentEncode (fun byte => isPlainInQuery byte || byte = 0x20) (Utf8.encode text) := by
    rw [encodeValue, List.map_map]
    apply (List.map_congr_left _).trans (List.map_id _)
    intro byte member
    exact back byte (isInValue_encoded text byte member)
  rw [decodeValue, spaces, percentDecode_percentEncode rfl, Utf8.decodeLossy_encode]

private theorem encode_encodeQuery (name value : String) :
    Utf8.encode (encodeQuery name value) = encodeValue name ++ 0x3D :: encodeValue value := by
  apply Utf8.encode_decodeLossy
  intro byte member
  rcases List.mem_append.1 member with found | found
  · exact (encodeValue_bytes name byte found).1
  rcases List.mem_cons.1 found with rfl | found
  · decide
  · exact (encodeValue_bytes value byte found).1

theorem not_mem_encodeQuery (name value : String) :
    0x23 ∉ Utf8.encode (encodeQuery name value) := by
  rw [encode_encodeQuery]
  intro member
  rcases List.mem_append.1 member with found | found
  · exact (encodeValue_bytes name _ found).2.2.2 rfl
  rcases List.mem_cons.1 found with same | found
  · cases same
  · exact (encodeValue_bytes value _ found).2.2.2 rfl

theorem decodeQuery_encodeQuery (name value : String) :
    decodeQuery (encodeQuery name value) = [(name, value)] := by
  have whole : 0x26 ∉ encodeValue name ++ 0x3D :: encodeValue value := by
    intro member
    rcases List.mem_append.1 member with found | found
    · exact (encodeValue_bytes name _ found).2.1 rfl
    rcases List.mem_cons.1 found with same | found
    · cases same
    · exact (encodeValue_bytes value _ found).2.1 rfl
  have left : (encodeValue name ++ 0x3D :: encodeValue value).takeWhile (· ≠ 0x3D) =
      encodeValue name := by
    rw [List.takeWhile_append_of_pos]
    · simp
    · intro byte found
      exact decide_eq_true (encodeValue_bytes name byte found).2.2.1
  have filled : (encodeValue name ++ 0x3D :: encodeValue value).isEmpty = false := by simp
  rw [decodeQuery, encode_encodeQuery, Text.pieces_of_not_mem whole]
  simp only [List.filter_cons, List.filter_nil, filled, Bool.not_false, if_true, List.map_cons,
    List.map_nil, left, List.drop_left, List.drop_succ_cons, List.drop_zero,
    decodeValue_encodeValue]

theorem decodeQuery_append (first second : String) :
    decodeQuery (first ++ "&" ++ second) = decodeQuery first ++ decodeQuery second := by
  have ampersand : Utf8.encode "&" = [0x26] := by decide
  rw [decodeQuery, Utf8.encode_append, Utf8.encode_append, ampersand, List.append_assoc,
    List.singleton_append, Text.pieces_append_separator]
  dsimp only
  rw [List.filter_append, List.map_append]
  rfl

end Http

end RecordGraph
