import DigestSync.Data.Hex
import DigestSync.Proofs.Data.Utf8
import Mathlib.Data.List.Induction

set_option autoImplicit false

/-! # Hexadecimal text read back

A text of an even number of hexadecimal digits is read as the bytes whose written form is the text
in lower case.  Every other text is refused: for its odd number of bytes if it has one, and
otherwise at the first byte that is no digit.  Characters beyond ASCII have no byte that is one.
-/

namespace DigestSync.Hex

/-- The hexadecimal digits of either case. -/
def digits : List Char := "0123456789abcdefABCDEF".toList

/-- The byte is the code of a hexadecimal digit. -/
def IsDigit (byte : UInt8) : Prop := Char.ofNat byte.toNat ∈ digits

instance (byte : UInt8) : Decidable (IsDigit byte) := inferInstanceAs (Decidable (_ ∈ _))

variable {text : String} {byte : UInt8} {bytes : Bytes}

/-! ## Digits -/

theorem toNat_lt_of_mem_digits {char : Char} (member : char ∈ digits) : char.toNat < 128 := by
  have ascii : (digits.all fun char => char.toNat < 128) = true := by decide
  exact of_decide_eq_true (List.all_eq_true.mp ascii char member)

/-- A code has a value only if it is that of the value's digit in either case. -/
theorem lt_and_ofNat_eq_of_digitValue? {code value : Nat} (read : digitValue? code = some value) :
    value < 16 ∧ (Char.ofNat code = lowerDigit value ∨ Char.ofNat code = upperDigit value) := by
  unfold digitValue? at read
  split at read
  · cases read
    refine ⟨by omega, Or.inl ?_⟩
    rw [lowerDigit, if_pos (by omega)]
    congr 1
    omega
  · split at read
    · cases read
      refine ⟨by omega, Or.inr ?_⟩
      rw [upperDigit, if_neg (by omega)]
      congr 1
      omega
    · split at read
      · cases read
        refine ⟨by omega, Or.inl ?_⟩
        rw [lowerDigit, if_neg (by omega)]
        congr 1
        omega
      · cases read

theorem mem_digits_of_digitValue? {code value : Nat} (read : digitValue? code = some value) :
    Char.ofNat code ∈ digits := by
  have all : ∀ value < 16, lowerDigit value ∈ digits ∧ upperDigit value ∈ digits := by decide
  obtain ⟨small, shown⟩ := lt_and_ofNat_eq_of_digitValue? read
  rcases shown with lower | upper
  · rw [lower]
    exact (all value small).1
  · rw [upper]
    exact (all value small).2

theorem lowerDigit_spec {value : Nat} (small : value < 16) :
    String.utf8EncodeChar (lowerDigit value) = [UInt8.ofNat (lowerDigit value).toNat] ∧
      digitValue? (UInt8.ofNat (lowerDigit value).toNat).toNat = some value := by
  have all : ∀ value < 16, (lowerDigit value).toNat < 128 ∧
      digitValue? (lowerDigit value).toNat = some value := by decide
  obtain ⟨ascii, read⟩ := all value small
  refine ⟨Utf8.utf8EncodeChar_of_ascii ascii, ?_⟩
  rw [UInt8.toNat_ofNat_of_lt' (Nat.lt_trans ascii (by decide)), read]

theorem IsDigit.exists_value (digit : IsDigit byte) : ∃ value < 16,
    digitValue? byte.toNat = some value ∧
      lowerDigit value = (Char.ofNat byte.toNat).toLower := by
  have all : (digits.all fun char => (digitValue? char.toNat).any fun value =>
      value < 16 ∧ lowerDigit value = char.toLower) = true := by decide
  have here := List.all_eq_true.mp all _ digit
  rw [Option.any_eq_true, Utf8.toNat_ofNat_byte] at here
  obtain ⟨value, read, facts⟩ := here
  obtain ⟨small, lowered⟩ := of_decide_eq_true facts
  exact ⟨value, small, read, lowered⟩

theorem digitValue?_of_not_isDigit (other : ¬ IsDigit byte) : digitValue? byte.toNat = none := by
  cases read : digitValue? byte.toNat with
  | none => rfl
  | some value => exact absurd (mem_digits_of_digitValue? read) other

theorem encodeByte_ofNat {upper lower : Nat} (high : upper < 16) (low : lower < 16) :
    encodeByte (UInt8.ofNat (16 * upper + lower)) = [lowerDigit upper, lowerDigit lower] := by
  have whole : (UInt8.ofNat (16 * upper + lower)).toNat = 16 * upper + lower :=
    UInt8.toNat_ofNat_of_lt' (by simp only [UInt8.size]; omega)
  have front : (16 * upper + lower) / 16 = upper := by omega
  have back : (16 * upper + lower) % 16 = lower := by omega
  rw [encodeByte, whole, front, back]

/-! ## Pairs -/

/-- Digits are read as the bytes that are written as the same digits in lower case. -/
theorem decodePairs_of_isDigit (position : Nat) (even : bytes.length % 2 = 0)
    (digits : ∀ byte ∈ bytes, IsDigit byte) :
    ∃ read, decodePairs position bytes = .ok read ∧ bytes.length = 2 * read.length ∧
      read.flatMap encodeByte = bytes.map fun byte => (Char.ofNat byte.toNat).toLower := by
  induction bytes using List.twoStepInduction generalizing position with
  | nil => exact ⟨[], rfl, rfl, rfl⟩
  | singleton byte => cases even
  | cons_cons high low rest ih _ =>
    obtain ⟨highDigit, others⟩ := List.forall_mem_cons.mp digits
    obtain ⟨lowDigit, later⟩ := List.forall_mem_cons.mp others
    obtain ⟨upper, upperSmall, upperValue, upperText⟩ := highDigit.exists_value
    obtain ⟨lower, lowerSmall, lowerValue, lowerText⟩ := lowDigit.exists_value
    rw [List.length_cons, List.length_cons] at even ⊢
    obtain ⟨read, decoded, size, written⟩ := ih (position + 2) (by omega) later
    refine ⟨UInt8.ofNat (16 * upper + lower) :: read, ?_, ?_, ?_⟩
    · simp only [decodePairs, upperValue, lowerValue, decoded]
    · rw [List.length_cons]
      omega
    · rw [List.flatMap_cons, encodeByte_ofNat upperSmall lowerSmall, written, upperText, lowerText]
      rfl

/-- The first byte that is no digit is reported. -/
theorem decodePairs_of_badDigit (position : Nat) {front rest : Bytes} {bad : UInt8}
    (even : (front ++ bad :: rest).length % 2 = 0) (digits : ∀ byte ∈ front, IsDigit byte)
    (other : ¬ IsDigit bad) :
    decodePairs position (front ++ bad :: rest) =
      .error (.badDigit bad (position + front.length)) := by
  have none := digitValue?_of_not_isDigit other
  induction front using List.twoStepInduction generalizing position with
  | nil =>
    cases rest with
    | nil => cases even
    | cons low rest => simp only [List.nil_append, decodePairs, none, List.length_nil, Nat.add_zero]
  | singleton high =>
    obtain ⟨upper, -, value, -⟩ := (digits high List.mem_cons_self).exists_value
    simp only [List.singleton_append, decodePairs, value, none, List.length_singleton]
  | cons_cons high low front ih _ =>
    obtain ⟨highDigit, others⟩ := List.forall_mem_cons.mp digits
    obtain ⟨lowDigit, later⟩ := List.forall_mem_cons.mp others
    obtain ⟨upper, -, upperValue, -⟩ := highDigit.exists_value
    obtain ⟨lower, -, lowerValue, -⟩ := lowDigit.exists_value
    simp only [List.cons_append, List.length_cons] at even ⊢
    have reported := ih (position + 2) (by omega) later
    simp only [decodePairs, upperValue, lowerValue, reported]
    congr 2
    omega

/-! ## Texts -/

/-- A character is a digit if all its bytes are. -/
theorem forall_isDigit_utf8EncodeChar (char : Char) :
    (∀ byte ∈ String.utf8EncodeChar char, IsDigit byte) ↔ char ∈ digits := by
  rcases Utf8.utf8EncodeChar_cases char with
    ⟨code, single, whole⟩ | ⟨beyond, lead, second, rest, several, high⟩
  · rw [single, List.forall_mem_singleton, IsDigit, whole]
  · refine iff_of_false (fun all => ?_) fun member => ?_
    · have low := toNat_lt_of_mem_digits (all lead (several ▸ List.mem_cons_self))
      rw [Utf8.toNat_ofNat_byte] at low
      exact absurd low (Nat.not_lt.mpr (high lead List.mem_cons_self))
    · exact absurd (toNat_lt_of_mem_digits member) (Nat.not_lt.mpr beyond)

theorem forall_isDigit_ofText :
    (∀ byte ∈ Bytes.ofText text, IsDigit byte) ↔ ∀ char ∈ text.toList, char ∈ digits := by
  unfold Bytes.ofText
  rw [List.forall_mem_flatMap]
  exact forall₂_congr fun char _ => forall_isDigit_utf8EncodeChar char

/-- The bytes of a text of digits are their codes. -/
theorem map_ofText (plain : ∀ char ∈ text.toList, char ∈ digits) :
    (Bytes.ofText text).map (fun byte => Char.ofNat byte.toNat) = text.toList := by
  unfold Bytes.ofText
  generalize text.toList = chars at plain
  induction chars with
  | nil => rfl
  | cons char chars ih =>
    obtain ⟨here, later⟩ := List.forall_mem_cons.mp plain
    rcases Utf8.utf8EncodeChar_cases char with ⟨code, single, whole⟩ | ⟨beyond, -⟩
    · rw [List.flatMap_cons, single, List.map_append, ih later, List.map_singleton, whole]
      rfl
    · exact absurd (toNat_lt_of_mem_digits here) (Nat.not_lt.mpr beyond)

theorem length_ofText (plain : ∀ char ∈ text.toList, char ∈ digits) :
    (Bytes.ofText text).length = text.toList.length := by
  rw [← map_ofText plain, List.length_map]

theorem decode_of_odd (odd : (Bytes.ofText text).length % 2 = 1) :
    decode text = .error .oddLength :=
  if_pos odd

theorem decode_of_even (even : (Bytes.ofText text).length % 2 = 0) :
    decode text = decodePairs 0 (Bytes.ofText text) :=
  if_neg (by omega)

/-- Text of an even number of digits is read as bytes that are written as the text in lower case. -/
theorem decode_of_digits (even : (Bytes.ofText text).length % 2 = 0)
    (plain : ∀ char ∈ text.toList, char ∈ digits) :
    ∃ bytes, decode text = .ok bytes ∧ text.toList.length = 2 * bytes.length ∧
      encode bytes = text.toLower := by
  obtain ⟨bytes, decoded, size, written⟩ :=
    decodePairs_of_isDigit 0 even (forall_isDigit_ofText.mpr plain)
  refine ⟨bytes, (decode_of_even even).trans decoded, (length_ofText plain) ▸ size, ?_⟩
  apply String.toList_injective
  have lowered : bytes.flatMap encodeByte = text.toList.map Char.toLower := by
    rw [written, ← map_ofText plain, List.map_map]
    rfl
  have lower : text.toLower.toList = text.toList.map Char.toLower := String.toList_map
  rw [encode, String.toList_ofList, lowered, lower]

/-! ## Written bytes -/

/-- The codes of a byte's two digits. -/
def digitCodes (byte : UInt8) : Bytes :=
  [UInt8.ofNat (lowerDigit (byte.toNat / 16)).toNat,
    UInt8.ofNat (lowerDigit (byte.toNat % 16)).toNat]

theorem utf8_encodeByte (byte : UInt8) :
    (encodeByte byte).flatMap String.utf8EncodeChar = digitCodes byte := by
  have bound : byte.toNat < 256 := byte.toNat_lt
  have high := (lowerDigit_spec (show byte.toNat / 16 < 16 by omega)).1
  have low := (lowerDigit_spec (show byte.toNat % 16 < 16 by omega)).1
  rw [encodeByte, List.flatMap_cons, List.flatMap_singleton, high, low]
  rfl

theorem ofText_encode (bytes : Bytes) : Bytes.ofText (encode bytes) = bytes.flatMap digitCodes := by
  rw [Bytes.ofText, encode, String.toList_ofList, List.flatMap_assoc]
  simp only [utf8_encodeByte]

theorem length_digitCodes (bytes : Bytes) :
    (bytes.flatMap digitCodes).length = 2 * bytes.length := by
  induction bytes with
  | nil => rfl
  | cons byte rest ih =>
    rw [List.flatMap_cons, List.length_append, ih, List.length_cons]
    simp only [digitCodes, List.length_cons, List.length_nil]
    omega

theorem decodePairs_digitCodes (position : Nat) (bytes : Bytes) :
    decodePairs position (bytes.flatMap digitCodes) = .ok bytes := by
  induction bytes generalizing position with
  | nil => rfl
  | cons byte rest ih =>
    have bound : byte.toNat < 256 := byte.toNat_lt
    have high := (lowerDigit_spec (show byte.toNat / 16 < 16 by omega)).2
    have low := (lowerDigit_spec (show byte.toNat % 16 < 16 by omega)).2
    have whole : 16 * (byte.toNat / 16) + byte.toNat % 16 = byte.toNat := by omega
    rw [List.flatMap_cons, digitCodes, List.cons_append, List.cons_append, List.nil_append]
    simp only [decodePairs, high, low, ih, whole, UInt8.ofNat_toNat]

/-- Bytes are read back from their hexadecimal text. -/
theorem decode_encode (bytes : Bytes) : decode (encode bytes) = .ok bytes := by
  have text := ofText_encode bytes
  have size := length_digitCodes bytes
  rw [decode_of_even (by rw [text]; omega), text, decodePairs_digitCodes]

theorem encode_injective : Function.Injective encode := by
  intro left right same
  have read := decode_encode left
  rw [same, decode_encode] at read
  exact (Except.ok.inj read).symm

end DigestSync.Hex
