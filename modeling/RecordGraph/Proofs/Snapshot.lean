import RecordGraph.Proofs.Text.Utf8
import RecordGraph.Proofs.Wire.Value
import RecordGraph.Snapshot

namespace RecordGraph

/-! Snapshots are read back as they have been written. -/

/-! ## Numbers as names -/

private theorem utf8EncodeChar_digit {digit : Char} (decimal : digit.isDigit = true) :
    String.utf8EncodeChar digit = [UInt8.ofNat digit.toNat] := by
  obtain ⟨-, most⟩ : 48 ≤ digit.toNat ∧ digit.toNat ≤ 57 := Char.isDigit_iff_toNat.1 decimal
  exact Utf8.utf8EncodeChar_small (Nat.lt_of_le_of_lt most (by decide))

private theorem flatMap_digits {digits : List Char}
    (decimal : ∀ digit ∈ digits, digit.isDigit = true) :
    digits.flatMap String.utf8EncodeChar = digits.map fun digit => UInt8.ofNat digit.toNat := by
  induction digits with
  | nil => rfl
  | cons digit digits induction =>
      rw [List.flatMap_cons, List.map_cons, utf8EncodeChar_digit (decimal digit List.mem_cons_self),
        induction fun digit member => decimal digit (List.mem_cons_of_mem _ member)]
      rfl

private theorem encode_toDigits (value : Nat) :
    Utf8.encode (String.ofList (Nat.toDigits 10 value)) = Json.writeNatural value := by
  rw [Utf8.encode_ofList, Json.writeNatural]
  exact flatMap_digits fun digit member =>
    Nat.isDigit_of_mem_toDigits (by decide) (by decide) member

private theorem writeByte_digit {byte : UInt8} (digit : Json.isDigit byte = true) :
    Json.writeByte byte = [byte] := by
  rcases (Json.isDigit_iff byte).1 digit with ⟨least, most⟩
  have quote : byte ≠ 0x22 := by
    rintro rfl
    cases digit
  have backslash : byte ≠ 0x5C := by
    rintro rfl
    cases digit
  have printed : 0x20 ≤ byte := by
    rw [UInt8.le_iff_toNat_le]
    exact Nat.le_trans (by decide) least
  rw [Json.writeByte, if_neg quote, if_neg backslash, if_pos printed]

private theorem flatMap_writeByte {bytes : Bytes}
    (digits : ∀ byte ∈ bytes, Json.isDigit byte = true) :
    bytes.flatMap Json.writeByte = bytes := by
  induction bytes with
  | nil => rfl
  | cons byte bytes induction =>
      rw [List.flatMap_cons, writeByte_digit (digits byte List.mem_cons_self),
        induction fun byte member => digits byte (List.mem_cons_of_mem _ member)]
      rfl

private theorem flatMap_writeByte_toDigits (value : Nat) :
    (Utf8.encode (String.ofList (Nat.toDigits 10 value))).flatMap Json.writeByte =
      Json.writeNatural value := by
  rw [encode_toDigits]
  exact flatMap_writeByte fun byte => Json.isDigit_writeNatural

namespace Snapshot

open Json

/-! ## The body -/

private theorem mem_foldl_insert (nodes : List NodeId) (set : NodeSet) (node : NodeId) :
    node ∈ nodes.foldl (fun set node => set.insert node) set ↔ node ∈ set ∨ node ∈ nodes := by
  induction nodes generalizing set with
  | nil => simp
  | cons first nodes induction =>
      rw [List.foldl_cons, induction, Std.ExtTreeSet.mem_insert, List.mem_cons,
        Std.compare_eq_iff_eq, or_comm (a := first = node), or_assoc, eq_comm]

private theorem foldl_insert_nodes (nodes : NodeSet) :
    nodes.toList.foldl (fun set node => set.insert node) ∅ = nodes := by
  ext1 node
  rw [mem_foldl_insert, Std.ExtTreeSet.mem_toList]
  simp

theorem faithful_nodeSet : nodeSet.Faithful 1 where
  written nodes := Codec.faithful_word.list.written nodes.toList
  reads nodes setting rest room ends := by
    rw [nodeSet]
    simp only [Codec.faithful_word.list.reads nodes.toList setting rest room ends, bind,
      Except.bind, foldl_insert_nodes]

private def nodeName (node : NodeId) : String := String.ofList (Nat.toDigits 10 node.toNat)

private theorem write_nodes (entries : Std.ExtTreeMap NodeId Properties compare) :
    nodes.write entries =
      writeMembers (entries.toList.map (entryPart nodeName Wire.properties)) := rfl

theorem faithful_nodes : nodes.Faithful 3 where
  written entries := by
    rw [write_nodes]
    exact written_entries Wire.faithful_properties entries.toList
  reads entries setting rest room _ := by
    have names (node : NodeId) (rest : Bytes) :
        readWordName ((Utf8.encode (nodeName node)).flatMap writeByte ++ 0x22 :: rest) =
          .ok (node, rest) := by
      rw [nodeName, flatMap_writeByte_toDigits, readWordName_written]
    have read := readEntries_written Wire.faithful_properties names entries.toList setting rest room
    rw [write_nodes, nodes]
    simp only [read, bind, Except.bind, foldl_insert_toList]

theorem faithful_index : index.Faithful 4 := by
  have entries := Wire.faithful_nameMap (Wire.faithful_nameMap faithful_nodeSet)
  apply Layout.Faithful.codec
  · exact .required entries List.not_mem_nil .done
  · exact fun _ => rfl

theorem faithful_body : body.Faithful 6 := by
  apply Layout.Faithful.codec
  · apply Layout.Faithful.defaulted (Codec.faithful_word.mono (Nat.zero_le 5))
    · decide
    apply Layout.Faithful.required (faithful_nodes.mono (by decide))
    · decide
    exact .required (Wire.faithful_nameMap faithful_index) List.not_mem_nil .done
  · exact fun _ => rfl

/-! ## The whole file -/

/-- The length of the body can be told in eight bytes, like that of everything that a memory with
addresses of 64 bits can hold. -/
def Fits (snapshot : Snapshot) : Prop :=
  (Snapshot.body.write snapshot).length < Nat.pow 256 8

instance (snapshot : Snapshot) : Decidable snapshot.Fits := inferInstanceAs (Decidable (_ < _))

private theorem unframe_frame (name : String) (content : Bytes) :
    unframe name (frame content) = if content.length = content.length % Nat.pow 256 8 then
        .ok content
      else .error (.corruption ("snapshot body is " ++ toString content.length ++
        " bytes, header says " ++ toString (content.length % Nat.pow 256 8))) := by
  have marked : mark.length = 4 := by decide
  have checked := LittleEndian.length_encode 4 (Checksum.crc32 content).toNat
  have counted := LittleEndian.length_encode 8 content.length
  have long : ¬((frame content).length < headerLength ∨ (frame content).take 4 ≠ mark) := by
    rintro (short | other)
    · simp only [frame, List.length_append, marked, checked, counted, headerLength] at short
      omega
    · apply other
      rw [frame, List.append_assoc, List.append_assoc, ← marked, List.take_left]
  have checksum : ((frame content).drop 4).take 4 =
      LittleEndian.encode 4 (Checksum.crc32 content).toNat := by
    rw [frame, List.append_assoc, List.append_assoc, List.drop_left' marked, List.take_left' checked]
  have length : ((frame content).drop 8).take 8 = LittleEndian.encode 8 content.length := by
    rw [frame, List.append_assoc, List.drop_left', List.take_left' counted]
    rw [List.length_append, marked, checked]
  have rest : (frame content).drop headerLength = content := by
    rw [frame, List.drop_left']
    simp only [List.length_append, marked, checked, counted, headerLength]
  have kept : LittleEndian.decode (LittleEndian.encode 4 (Checksum.crc32 content).toNat) =
      (Checksum.crc32 content).toNat := LittleEndian.decode_encode (Checksum.crc32 content).toNat_lt
  rw [unframe, if_neg long, checksum, length, rest, kept, LittleEndian.decode_encode_mod]
  dsimp only
  by_cases fits : content.length = content.length % Nat.pow 256 8
  · rw [if_neg (not_not_intro fits), if_pos fits, if_neg (not_not_intro rfl)]
  · rw [if_pos fits, if_neg fits]

/-- A snapshot whose length can be told in eight bytes is read back. -/
theorem decode_encode (name : String) {snapshot : Snapshot}
    (fits : (body.write snapshot).length < Nat.pow 256 8) :
    decode name snapshot.encode = .ok snapshot := by
  rw [decode, encode, unframe_frame, if_pos (Nat.mod_eq_of_lt fits).symm]
  simp only [bind, Except.bind, faithful_body.parse (by decide) snapshot]
  rfl

theorem eq_of_decode_encode {name : String} {snapshot found : Snapshot}
    (decoded : decode name snapshot.encode = .ok found) : found = snapshot := by
  by_cases fits : (body.write snapshot).length = (body.write snapshot).length % Nat.pow 256 8
  · rw [decode, encode, unframe_frame, if_pos fits] at decoded
    simp only [bind, Except.bind, faithful_body.parse (by decide) snapshot] at decoded
    exact (Except.ok.inj decoded).symm
  · rw [decode, encode, unframe_frame, if_neg fits] at decoded
    cases decoded

end Snapshot

end RecordGraph
