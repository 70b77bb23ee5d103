import RecordGraph.Proofs.Checksum
import RecordGraph.Proofs.File.Restoring

namespace RecordGraph

/-! Damaged snapshots. Of all files only those are read that could have been written, so a file that
has come to harm in one place is refused before anybody looks at its body. -/

/-- One file has become another: one byte has changed, or the end is missing, or something stands
behind it. -/
inductive Damaged : Bytes → Bytes → Prop where
  | changed (before after : Bytes) {byte other : UInt8} (different : other ≠ byte) :
      Damaged (before ++ byte :: after) (before ++ other :: after)
  | cut (kept : Bytes) {lost : Bytes} (shorter : lost ≠ []) : Damaged (kept ++ lost) kept
  | extended (file : Bytes) {added : Bytes} (longer : added ≠ []) : Damaged file (file ++ added)

namespace Snapshot

variable {name : String} {file content other : Bytes}

/-! ## Frames -/

def header (content : Bytes) : Bytes :=
  mark ++ LittleEndian.encode 4 (Checksum.crc32 content).toNat ++
    LittleEndian.encode 8 content.length

theorem frame_eq (content : Bytes) : frame content = header content ++ content := rfl

theorem length_header (content : Bytes) : (header content).length = headerLength := by
  rw [header, List.length_append, List.length_append, LittleEndian.length_encode,
    LittleEndian.length_encode]
  rfl

private theorem take_frame (content rest : Bytes) :
    (frame content ++ rest).take headerLength = header content := by
  rw [frame_eq, List.append_assoc, List.take_left' (length_header content)]

private theorem drop_frame (content : Bytes) : (frame content).drop headerLength = content := by
  rw [frame_eq, List.drop_left' (length_header content)]

theorem header_injective (same : header content = header other) :
    Checksum.crc32 content = Checksum.crc32 other ∧
      LittleEndian.encode 8 content.length = LittleEndian.encode 8 other.length := by
  have widths (content : Bytes) :
      (mark ++ LittleEndian.encode 4 (Checksum.crc32 content).toNat).length = 8 := by
    rw [List.length_append, LittleEndian.length_encode]
    rfl
  rcases List.append_inj same ((widths content).trans (widths other).symm) with ⟨front, lengths⟩
  have checks := LittleEndian.encode_injective (Checksum.crc32 content).toNat_lt
    (Checksum.crc32 other).toNat_lt (List.append_cancel_left front)
  exact ⟨UInt32.toNat_inj.1 checks, lengths⟩

/-! ## Files that are read -/

theorem unframe_cases (name : String) (file : Bytes) :
    (∃ content, unframe name file = .ok content) ∨
      ∃ reason, unframe name file = .error (.corruption reason) := by
  rw [unframe]
  split
  · exact .inr ⟨_, rfl⟩
  dsimp only
  split
  · exact .inr ⟨_, rfl⟩
  split
  · exact .inr ⟨_, rfl⟩
  · exact .inl ⟨_, rfl⟩

theorem unframe_ok (done : unframe name file = .ok content) :
    file = frame content ∧ content.length < Nat.pow 256 8 := by
  rw [unframe] at done
  split at done
  · cases done
  rename_i whole
  rcases not_or.1 whole with ⟨long, marked⟩
  rw [headerLength, Nat.not_lt] at long
  dsimp only at done
  split at done
  · cases done
  rename_i lengths
  split at done
  · cases done
  rename_i checks
  have body := Except.ok.inj done
  have four : ((file.drop 4).take 4).length = 4 := by
    rw [List.length_take, List.length_drop]
    omega
  have eight : ((file.drop 8).take 8).length = 8 := by
    rw [List.length_take, List.length_drop]
    omega
  rw [body, not_not] at lengths checks
  have counted := LittleEndian.encode_decode eight
  have checked := LittleEndian.encode_decode four
  rw [← lengths] at counted
  rw [← checks] at checked
  refine ⟨?_, lengths ▸ LittleEndian.decode_lt eight⟩
  calc
    file = file.take 4 ++ (file.drop 4).take 4 ++ (file.drop 8).take 8 ++ file.drop 16 := by
      rw [← List.take_add, ← List.take_add, List.take_append_drop]
    _ = frame content := by
      rw [frame, checked, counted, ← not_not.1 marked, ← body, headerLength]

/-! ## Damage -/

/-- A frame in which one byte has changed is a frame no longer. -/
private theorem frame_changed {before after : Bytes} {byte changed : UInt8}
    (whole : frame content = before ++ byte :: after)
    (damaged : frame other = before ++ changed :: after) : changed = byte := by
  by_cases inHeader : before.length < headerLength
  · -- The bodies are the same, and with them the headers.
    have tail (value : UInt8) : (before ++ value :: after).drop headerLength =
        after.drop (headerLength - before.length - 1) := by
      rw [List.drop_append, List.drop_eq_nil_of_le (Nat.le_of_lt inHeader), List.nil_append]
      obtain ⟨rest, more⟩ := Nat.exists_eq_succ_of_ne_zero (Nat.sub_ne_zero_of_lt inHeader)
      rw [more]
      rfl
    have bodies : other = content := by
      rw [← drop_frame other, damaged, tail, ← tail byte, ← whole, drop_frame]
    rw [bodies, whole] at damaged
    exact (List.cons.inj (List.append_cancel_left damaged)).1.symm
  · -- The headers are the same, but not the checks that they should hold.
    have reaches := Nat.not_lt.1 inHeader
    have cut (value : UInt8) : (before ++ value :: after).take headerLength =
        before.take headerLength := List.take_append_of_le_length reaches
    have body (value : UInt8) : (before ++ value :: after).drop headerLength =
        before.drop headerLength ++ value :: after := List.drop_append_of_le_length reaches
    have headers : header other = header content := by
      rw [← take_frame other [], ← take_frame content [], List.append_nil, List.append_nil,
        damaged, whole, cut, cut]
    have checks := (header_injective headers).1
    rw [← drop_frame other, ← drop_frame content, damaged, whole, body, body] at checks
    exact Checksum.eq_of_crc32_eq checks

/-- A frame goes on as long as its header says. -/
private theorem frame_cut {rest : Bytes} (fits : content.length < Nat.pow 256 8)
    (fitsToo : other.length < Nat.pow 256 8) (whole : frame content = frame other ++ rest) :
    rest = [] := by
  have headers : header content = header other := by
    rw [← take_frame other rest, ← whole, ← take_frame content [], List.append_nil]
  have lengths := LittleEndian.encode_injective fits fitsToo (header_injective headers).2
  have sizes := congrArg List.length whole
  rw [frame_eq, frame_eq, List.length_append, List.length_append, List.length_append,
    length_header, length_header, lengths] at sizes
  exact List.eq_nil_of_length_eq_zero (by omega)

/-- What has come to harm is not read any more. -/
theorem unframe_damaged (name : String) (fits : content.length < Nat.pow 256 8)
    (damaged : Damaged (frame content) file) :
    ∃ reason, unframe name file = .error (.corruption reason) := by
  refine (unframe_cases name file).resolve_left ?_
  rintro ⟨other, read⟩
  rcases unframe_ok read with ⟨rfl, fitsToo⟩
  generalize whole_eq : frame content = whole at damaged
  generalize damaged_eq : frame other = file at damaged
  cases damaged with
  | changed before after different => exact different (frame_changed whole_eq damaged_eq)
  | cut kept shorter =>
      rw [← damaged_eq] at whole_eq
      exact shorter (frame_cut fits fitsToo whole_eq)
  | extended whole longer =>
      rw [← whole_eq] at damaged_eq
      exact longer (frame_cut fitsToo fits damaged_eq)

/-- A file that a snapshot has been saved to is refused as corrupted once one of its bytes has been
changed, or its end has been cut off, or something has been put behind it. -/
theorem load_damaged {directory : String} {snapshot : Snapshot} {disk later : Disk} {whole : Bytes}
    (fits : snapshot.Fits) (saved : (snapshot.save directory disk).1 = .ok ())
    (written : (snapshot.save directory disk).2.tree.contentOf (Disk.targetPath directory) =
      .ok whole)
    (damaged : Damaged whole file) (holds : Disk.Holds directory file later)
    (calm : later.mishaps = []) :
    ∃ reason, load directory later = (.error (.corruption reason), later) := by
  have stored := (holds_save (Prod.ext saved rfl)).1
  rw [written] at stored
  rw [Except.ok.inj stored, encode] at damaged
  rcases unframe_damaged (FilePath.below directory fileName) fits damaged with
    ⟨reason, refused⟩
  refine ⟨reason, ?_⟩
  rw [load_calm holds calm, decode, refused]
  rfl

/-- A quote in the body of a saved snapshot has become a zero byte. -/
theorem load_damaged_quote :
    let snapshot : Snapshot := { nextNode := 7 }
    let saved := (snapshot.save "/g" (Disk.makeDirectories (.ofText "/g") {}).2).2
    let file := snapshot.encode.take 30 ++ 0 :: snapshot.encode.drop 31
    let later := (saved.writeFile (Disk.targetPath "/g") file).2
    ∃ reason, load "/g" later = (.error (.corruption reason), later) := by
  intro snapshot saved file later
  have whole : snapshot.encode = snapshot.encode.take 30 ++ 0x22 :: snapshot.encode.drop 31 := by
    decide +kernel
  have damaged : Damaged snapshot.encode file := by
    rw [whole]
    exact .changed _ _ (by decide)
  have saving : (snapshot.save "/g" (Disk.makeDirectories (.ofText "/g") {}).2).1 = .ok () := by
    decide +kernel
  have written := (holds_save (Prod.ext saving rfl)).1
  have writing : (saved.writeFile (Disk.targetPath "/g") file).1 = .ok () := by decide +kernel
  have holds := Disk.holds_iff.2 (Disk.contentOf_writeFile (Prod.ext writing rfl))
  have calm : later.mishaps = [] := by decide +kernel
  exact load_damaged (by decide +kernel) saving written damaged holds calm

end Snapshot

end RecordGraph
