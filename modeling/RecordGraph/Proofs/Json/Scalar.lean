import RecordGraph.Json.Codec
import RecordGraph.Proofs.Text.Decimal

namespace RecordGraph.Json

/-! Written strings and numbers are read back. Whatever follows a string does not matter; a number
has to be followed by something that cannot belong to it. -/

/-- What may follow a written value: nothing, a comma, a closing bracket or brace, or a quote. -/
def Ends (rest : Bytes) : Prop :=
  ∀ byte others, rest = byte :: others → byte = 0x2C ∨ byte = 0x5D ∨ byte = 0x7D ∨ byte = 0x22

theorem ends_nil : Ends [] := fun _ _ same => by cases same

theorem ends_comma (rest : Bytes) : Ends (0x2C :: rest) := by
  intro byte others same
  exact .inl (List.cons.inj same).1.symm

theorem ends_bracket (rest : Bytes) : Ends (0x5D :: rest) := by
  intro byte others same
  exact .inr (.inl (List.cons.inj same).1.symm)

theorem ends_brace (rest : Bytes) : Ends (0x7D :: rest) := by
  intro byte others same
  exact .inr (.inr (.inl (List.cons.inj same).1.symm))

theorem ends_quote (rest : Bytes) : Ends (0x22 :: rest) := by
  intro byte others same
  exact .inr (.inr (.inr (List.cons.inj same).1.symm))

/-! ## Strings -/

private theorem hexValue?_hexDigit (value : UInt8) (small : value < 16) :
    hexValue? (hexDigit value) = some value.toNat := by
  have all : ∀ number : Fin 16, hexValue? (hexDigit (UInt8.ofNat number)) = some number.val := by
    decide
  have number := all ⟨value.toNat, by simpa [UInt8.lt_iff_toNat_lt] using small⟩
  simpa using number

private theorem bytesOfCode_small (byte : UInt8) (small : byte < 0x80) :
    bytesOfCode byte.toNat = [byte] := by
  have all : ∀ number : Fin 128, bytesOfCode number.val = [UInt8.ofNat number.val] := by decide
  have number := all ⟨byte.toNat, by simpa [UInt8.lt_iff_toNat_lt] using small⟩
  simpa using number

private theorem readUnicode_control (byte : UInt8) (small : byte < 0x20) (rest : Bytes) :
    readUnicode (0x30 :: 0x30 :: hexDigit (byte / 16) :: hexDigit (byte % 16) :: rest) =
      .ok ([byte], rest) := by
  have high := hexValue?_hexDigit (byte / 16) (by
    rw [UInt8.lt_iff_toNat_lt] at small ⊢
    simp only [UInt8.toNat_div, UInt8.reduceToNat] at small ⊢
    omega)
  have low := hexValue?_hexDigit (byte % 16) (by
    rw [UInt8.lt_iff_toNat_lt]
    simp only [UInt8.toNat_mod, UInt8.reduceToNat]
    omega)
  have zero : hexValue? 0x30 = some 0 := by decide
  have number : ((0 * 16 + 0) * 16 + (byte / 16).toNat) * 16 + (byte % 16).toNat = byte.toNat := by
    simp only [UInt8.toNat_div, UInt8.toNat_mod, UInt8.reduceToNat]
    omega
  rw [UInt8.lt_iff_toNat_lt] at small
  simp only [UInt8.reduceToNat] at small
  have code := bytesOfCode_small byte (by
    rw [UInt8.lt_iff_toNat_lt]
    simp only [UInt8.reduceToNat]
    omega)
  rw [readUnicode, readHex4]
  simp only [zero, high, low, number, bind, Except.bind]
  rw [if_neg (by omega), if_neg (by omega), code]

private theorem readStringBytes_plain (fuel : Nat) (collected : Bytes) {byte : UInt8}
    (quote : byte ≠ 0x22) (backslash : byte ≠ 0x5C) (control : ¬byte < 0x20) (rest : Bytes) :
    readStringBytes (fuel + 1) collected (byte :: rest) =
      readStringBytes fuel (byte :: collected) rest := by
  rw [readStringBytes, if_neg control]
  · exact quote
  · exact backslash

private theorem readStringBytes_escape (fuel : Nat) (collected : Bytes) {escape rest : Bytes}
    {byte : UInt8} (meant : readEscape escape = .ok ([byte], rest)) :
    readStringBytes (fuel + 1) collected (0x5C :: escape) =
      readStringBytes fuel (byte :: collected) rest := by
  rw [readStringBytes]
  simp only [meant]
  rfl

theorem readStringBytes_writeByte (fuel : Nat) (collected : Bytes) (byte : UInt8) (rest : Bytes) :
    readStringBytes (fuel + 1) collected (writeByte byte ++ rest) =
      readStringBytes fuel (byte :: collected) rest := by
  by_cases quote : byte = 0x22
  · rw [quote]
    exact readStringBytes_escape fuel collected rfl
  by_cases backslash : byte = 0x5C
  · rw [backslash]
    exact readStringBytes_escape fuel collected rfl
  by_cases plain : 0x20 ≤ byte
  · rw [writeByte, if_neg quote, if_neg backslash, if_pos plain]
    exact readStringBytes_plain fuel collected quote backslash (UInt8.not_lt.2 plain) rest
  have control : byte < 0x20 := UInt8.not_le.1 plain
  by_cases backspace : byte = 0x08
  · rw [backspace]
    exact readStringBytes_escape fuel collected rfl
  by_cases formFeed : byte = 0x0C
  · rw [formFeed]
    exact readStringBytes_escape fuel collected rfl
  by_cases lineFeed : byte = 0x0A
  · rw [lineFeed]
    exact readStringBytes_escape fuel collected rfl
  by_cases carriageReturn : byte = 0x0D
  · rw [carriageReturn]
    exact readStringBytes_escape fuel collected rfl
  by_cases tab : byte = 0x09
  · rw [tab]
    exact readStringBytes_escape fuel collected rfl
  rw [writeByte, if_neg quote, if_neg backslash, if_neg plain, if_neg backspace, if_neg formFeed,
    if_neg lineFeed, if_neg carriageReturn, if_neg tab]
  exact readStringBytes_escape fuel collected (readUnicode_control byte control rest)

private theorem writeByte_ne_nil (byte : UInt8) : 0 < (writeByte byte).length := by
  unfold writeByte
  repeat' split
  all_goals simp

private theorem length_flatMap_writeByte (bytes : Bytes) :
    bytes.length ≤ (bytes.flatMap writeByte).length := by
  induction bytes with
  | nil => simp
  | cons byte bytes induction =>
      have one := writeByte_ne_nil byte
      rw [List.flatMap_cons, List.length_append, List.length_cons]
      omega

theorem readStringBytes_written (bytes collected rest : Bytes) {fuel : Nat}
    (enough : bytes.length < fuel) :
    readStringBytes fuel collected (bytes.flatMap writeByte ++ 0x22 :: rest) =
      .ok (collected.reverse ++ bytes, rest) := by
  induction bytes generalizing collected fuel with
  | nil =>
      rcases Nat.exists_eq_succ_of_ne_zero (Nat.ne_of_gt enough) with ⟨less, rfl⟩
      simp [readStringBytes]
  | cons byte bytes induction =>
      rcases Nat.exists_eq_succ_of_ne_zero (Nat.ne_of_gt (Nat.zero_lt_of_lt enough)) with
          ⟨less, rfl⟩
      rw [List.flatMap_cons, List.append_assoc, readStringBytes_writeByte, induction]
      · simp
      · simpa using enough

theorem readStringTail_written (text : String) (rest : Bytes) :
    readStringTail ((Utf8.encode text).flatMap writeByte ++ 0x22 :: rest) = .ok (text, rest) := by
  have long := length_flatMap_writeByte (Utf8.encode text)
  rw [readStringTail, readStringBytes_written]
  · simp only [bind, Except.bind, List.reverse_nil, List.nil_append, Utf8.decode?_encode]
  · rw [List.length_append, List.length_cons]
    omega

theorem writeString_append (text : String) (rest : Bytes) :
    writeString text ++ rest = 0x22 :: ((Utf8.encode text).flatMap writeByte ++ 0x22 :: rest) := by
  simp [writeString]

theorem readString_written (text : String) (setting : Setting) (rest : Bytes) :
    readString setting (writeString text ++ rest) = .ok (text, rest) := by
  rw [writeString_append, readString, skipBlanks]
  · exact readStringTail_written text rest
  all_goals simp

/-! ## Numbers -/

theorem isDigit_iff (byte : UInt8) : isDigit byte = true ↔ 48 ≤ byte.toNat ∧ byte.toNat ≤ 57 := by
  simp [isDigit, UInt8.le_iff_toNat_le]

theorem Ends.notDigit {rest others : Bytes} {byte : UInt8} (ends : Ends rest)
    (same : rest = byte :: others) : isDigit byte = false := by
  rcases ends byte others same with rfl | rfl | rfl | rfl <;> decide

private theorem ofNat_digit {digit : Char} (decimal : digit.isDigit = true) :
    (UInt8.ofNat digit.toNat).toNat = digit.toNat ∧ 48 ≤ digit.toNat ∧ digit.toNat ≤ 57 := by
  obtain ⟨least, most⟩ : 48 ≤ digit.toNat ∧ digit.toNat ≤ 57 := Char.isDigit_iff_toNat.1 decimal
  refine ⟨?_, least, most⟩
  rw [UInt8.toNat_ofNat']
  omega

private theorem valueOfDigits_written (digits : List Char) (value : Nat)
    (decimal : ∀ digit ∈ digits, digit.isDigit = true) :
    (digits.map fun digit => UInt8.ofNat digit.toNat).foldl
      (fun value digit => value * 10 + (digit.toNat - 0x30)) value =
        Nat.ofDigitChars 10 digits value := by
  induction digits generalizing value with
  | nil => rfl
  | cons digit digits induction =>
      rcases ofNat_digit (decimal digit List.mem_cons_self) with ⟨same, -, -⟩
      rw [List.map_cons, List.foldl_cons, Nat.ofDigitChars_cons, same,
        induction _ fun other member => decimal other (List.mem_cons_of_mem _ member), Nat.mul_comm]
      rfl

theorem valueOfDigits_writeNatural (value : Nat) : valueOfDigits (writeNatural value) = value := by
  rw [valueOfDigits, writeNatural, valueOfDigits_written _ _ fun digit => Decimal.isDigit_of_mem,
    Nat.ofDigitChars_ten_toDigits]

theorem isDigit_writeNatural {value : Nat} {byte : UInt8} (member : byte ∈ writeNatural value) :
    isDigit byte = true := by
  rw [writeNatural] at member
  rcases List.mem_map.1 member with ⟨digit, digits, rfl⟩
  rcases ofNat_digit (Decimal.isDigit_of_mem digits) with ⟨same, least, most⟩
  rw [isDigit_iff, same]
  exact ⟨least, most⟩

theorem writeNatural_cons (value : Nat) :
    ∃ first others, writeNatural value = first :: others ∧ isDigit first = true ∧
      (first = 0x30 → others = []) := by
  by_cases zero : value = 0
  · rw [zero]
    exact ⟨0x30, [], rfl, rfl, fun _ => rfl⟩
  · rcases Decimal.head_toDigits value (Nat.pos_of_ne_zero zero) with ⟨first, others, digits, nonzero⟩
    have written : writeNatural value = UInt8.ofNat first.toNat ::
        others.map fun digit => UInt8.ofNat digit.toNat := by
      rw [writeNatural, digits, List.map_cons]
    refine ⟨_, _, written, isDigit_writeNatural (by rw [written]; exact List.mem_cons_self), ?_⟩
    intro same
    obtain ⟨kept, -, -⟩ :=
      ofNat_digit (Decimal.isDigit_of_mem (by rw [digits]; exact List.mem_cons_self))
    rw [same] at kept
    exact absurd (Char.toNat_inj.1 kept.symm) nonzero

private theorem takeWhile_written (value : Nat) {rest : Bytes} (ends : Ends rest) :
    (writeNatural value ++ rest).takeWhile isDigit = writeNatural value ∧
      (writeNatural value ++ rest).dropWhile isDigit = rest := by
  have digits : ∀ byte ∈ writeNatural value, isDigit byte = true := fun _ => isDigit_writeNatural
  rw [List.takeWhile_append_of_pos digits, List.dropWhile_append_of_pos digits]
  cases rest with
  | nil => simp
  | cons byte others =>
      have other := ends.notDigit rfl
      simp [other]

private theorem readFraction_none (short : Flaw) {rest : Bytes} (ends : Ends rest) :
    readFraction short rest = .ok ([], rest) := by
  cases rest with
  | nil => rfl
  | cons byte others => rcases ends byte others rfl with rfl | rfl | rfl | rfl <;> rfl

private theorem readExponent_none (short : Flaw) {rest : Bytes} (ends : Ends rest) :
    readExponent short rest = .ok (none, rest) := by
  cases rest with
  | nil => rfl
  | cons byte others => rcases ends byte others rfl with rfl | rfl | rfl | rfl <;> rfl

theorem readNumeral_written (short : Flaw) (value : Nat) {rest : Bytes} (ends : Ends rest) :
    readNumeral short (writeNatural value ++ rest) =
      .ok (⟨false, writeNatural value, [], none⟩, rest) := by
  rcases writeNatural_cons value with ⟨first, others, written, digit, zero⟩
  rcases takeWhile_written value ends with ⟨taken, left⟩
  have notMinus : first ≠ 0x2D := by
    rintro rfl
    cases digit
  have after : (readFraction short rest >>= fun part => readExponent short part.2 >>= fun power =>
      .ok (⟨false, writeNatural value, part.1, power.1⟩, power.2) : Except Flaw (Numeral × Bytes)) =
        .ok (⟨false, writeNatural value, [], none⟩, rest) := by
    rw [readFraction_none short ends]
    simp only [bind, Except.bind, readExponent_none short ends]
  unfold readNumeral
  split
  rename_i negative unsigned sign
  split at sign
  · rename_i minus
    rw [written, List.cons_append] at minus
    exact absurd (List.cons.inj minus).1 notMinus
  · rcases Prod.mk.inj sign with ⟨rfl, rfl⟩
    rw [taken, left]
    dsimp only
    split
    · rename_i none
      rw [written] at none
      cases none
    · rename_i same
      rw [written, List.cons_append] at same
      rcases List.cons.inj same with ⟨rfl, later⟩
      rw [zero rfl, List.nil_append] at later
      subst later
      rw [written, zero rfl] at after
      rw [if_neg, written, zero rfl]
      · exact after
      · cases rest with
        | nil => simp
        | cons byte others => simp [ends.notDigit rfl]
    · rename_i same
      rw [written, List.cons_append] at same
      rcases List.cons.inj same with ⟨rfl, -⟩
      rw [if_pos digit]
      exact after

theorem readNumber_written (value : UInt64) {rest : Bytes} (ends : Ends rest) :
    readNumber (writeNatural value.toNat ++ rest) =
      .ok (⟨false, writeNatural value.toNat, [], none⟩, rest) := by
  have short : (writeNatural value.toNat).length ≤ 20 := by
    rw [writeNatural, List.length_map, Nat.length_toDigits_le_iff (by decide) (by decide)]
    exact Nat.lt_trans value.toNat_lt (by decide)
  have fits : Numeral.tooLarge ⟨false, writeNatural value.toNat, [], none⟩ = false := by
    rw [Numeral.tooLarge, if_pos]
    simp only [Option.getD_none]
    omega
  rw [readNumber, readNumeral_written .unfinished value.toNat ends]
  simp only [bind, Except.bind, fits]
  rfl

theorem word?_written (value : UInt64) :
    Numeral.word? ⟨false, writeNatural value.toNat, [], none⟩ = some value := by
  rw [Numeral.word?, valueOfDigits_writeNatural]
  simp only [List.isEmpty_nil, Option.isSome_none, Bool.not_true, Bool.or_self, Bool.false_eq_true,
    if_false]
  rw [if_pos value.toNat_lt_size, UInt64.ofNat_toNat]

def Solid (byte : UInt8) : Prop := byte ≠ 0x20 ∧ byte ≠ 0x09 ∧ byte ≠ 0x0A ∧ byte ≠ 0x0D

theorem skipBlanks_solid {byte : UInt8} (solid : Solid byte) (rest : Bytes) :
    skipBlanks (byte :: rest) = byte :: rest := by
  rcases solid with ⟨space, tab, lineFeed, carriageReturn⟩
  rw [skipBlanks]
  · intro _ same
    exact space (List.cons.inj same).1
  · intro _ same
    exact tab (List.cons.inj same).1
  · intro _ same
    exact lineFeed (List.cons.inj same).1
  · intro _ same
    exact carriageReturn (List.cons.inj same).1

theorem solid_digit {byte : UInt8} (digit : isDigit byte = true) : Solid byte := by
  refine ⟨?_, ?_, ?_, ?_⟩
  all_goals
    rintro rfl
    cases digit

theorem readWord_written (value : UInt64) (setting : Setting) {rest : Bytes} (ends : Ends rest) :
    readWord setting (writeNatural value.toNat ++ rest) = .ok (value, rest) := by
  rcases writeNatural_cons value.toNat with ⟨first, others, written, digit, -⟩
  have number := readNumber_written value ends
  rw [readWord]
  rw [written, List.cons_append] at number ⊢
  rw [skipBlanks_solid (solid_digit digit)]
  dsimp only
  rw [if_pos (.inr digit), number]
  simp only [bind, Except.bind, ← written, word?_written]

theorem readWordName_written (value : UInt64) (rest : Bytes) :
    readWordName (writeNatural value.toNat ++ 0x22 :: rest) = .ok (value, rest) := by
  rcases writeNatural_cons value.toNat with ⟨first, others, written, digit, -⟩
  have number := readNumber_written value (ends_quote rest)
  rw [written, List.cons_append] at number ⊢
  rw [readWordName, if_pos (.inr digit), number]
  simp only [bind, Except.bind, ← written, word?_written]

end RecordGraph.Json
