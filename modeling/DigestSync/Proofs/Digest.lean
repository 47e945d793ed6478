import DigestSync.Digest
import DigestSync.Proofs.Data.Hex

set_option autoImplicit false

/-! # Digests read from hexadecimal

A digest is read from 64 hexadecimal digits of either case and from nothing else.  Of several faults
of a text the odd number of its bytes is reported first, then its first byte that is no digit, and
its length only if all of it is digits.
-/

namespace DigestSync

namespace Digest

variable {text : String} {digest : Digest} {fault : Malformed}

theorem ofBytes_bytes (digest : Digest) : ofBytes digest.bytes = .ok digest := by
  unfold ofBytes
  rw [dif_pos digest.length_eq]

/-- Bytes make up a digest only if they are its own. -/
theorem eq_bytes_of_ofBytes {bytes : Bytes} (made : ofBytes bytes = .ok digest) :
    bytes = digest.bytes := by
  unfold ofBytes at made
  split at made
  · cases made
    rfl
  · cases made

/-- The text is 64 hexadecimal digits of either case. -/
def IsHex (text : String) : Prop :=
  text.toList.length = 64 ∧ ∀ char ∈ text.toList, char ∈ Hex.digits

/-- Why a text is not the hexadecimal form of a digest. -/
inductive IsFaultOf (text : String) : Malformed → Prop where
  | oddLength (odd : (Bytes.ofText text).length % 2 = 1) : IsFaultOf text (.digestHex .oddLength)
  | badDigit (even : (Bytes.ofText text).length % 2 = 0) {front rest : Bytes} {bad : UInt8}
      (split : Bytes.ofText text = front ++ bad :: rest)
      (digits : ∀ byte ∈ front, Hex.IsDigit byte) (other : ¬ Hex.IsDigit bad) :
      IsFaultOf text (.digestHex (.badDigit bad front.length))
  | length (even : (Bytes.ofText text).length % 2 = 0)
      (digits : ∀ byte ∈ Bytes.ofText text, Hex.IsDigit byte)
      (other : (Bytes.ofText text).length ≠ 64) :
      IsFaultOf text (.digestLength ((Bytes.ofText text).length / 2))

theorem toHex_injective : Function.Injective toHex := by
  intro left right same
  have bytes : left.bytes = right.bytes := Hex.encode_injective same
  cases left
  cases right
  cases bytes
  rfl

/-- 64 digits are read as the digest that is written as the same digits in lower case. -/
theorem ofHex_of_isHex (hex : IsHex text) :
    ∃ digest, ofHex text = .ok digest ∧ digest.toHex = text.toLower := by
  obtain ⟨size, plain⟩ := hex
  have even : (Bytes.ofText text).length % 2 = 0 := by rw [Hex.length_ofText plain, size]
  obtain ⟨bytes, decoded, length, written⟩ := Hex.decode_of_digits even plain
  have whole : bytes.length = 32 := by omega
  refine ⟨⟨bytes, whole⟩, ?_, written⟩
  unfold ofHex ofBytes
  simp only [decoded, dif_pos whole]

theorem IsFaultOf.ofHex_eq (found : IsFaultOf text fault) : ofHex text = .error fault := by
  unfold ofHex
  cases found with
  | oddLength odd => simp only [Hex.decode_of_odd odd]
  | badDigit even split digits other =>
    have reported := Hex.decodePairs_of_badDigit 0 (split ▸ even) digits other
    rw [Hex.decode_of_even even, split, reported, Nat.zero_add]
  | length even digits other =>
    have plain := Hex.forall_isDigit_ofText.mp digits
    obtain ⟨bytes, decoded, length, -⟩ := Hex.decode_of_digits even plain
    have size := Hex.length_ofText plain
    have short : bytes.length ≠ 32 := by omega
    have half : (Bytes.ofText text).length / 2 = bytes.length := by omega
    simp only [decoded, ofBytes, dif_neg short, half]

/-- A text is 64 digits or has a fault. -/
theorem isHex_or_isFaultOf (text : String) : IsHex text ∨ ∃ fault, IsFaultOf text fault := by
  rcases Nat.mod_two_eq_zero_or_one (Bytes.ofText text).length with even | odd
  · cases found : (Bytes.ofText text).find? fun byte => ¬ Hex.IsDigit byte with
    | none =>
      have digits : ∀ byte ∈ Bytes.ofText text, Hex.IsDigit byte := by
        simpa using List.find?_eq_none.mp found
      by_cases whole : (Bytes.ofText text).length = 64
      · have plain := Hex.forall_isDigit_ofText.mp digits
        exact Or.inl ⟨Hex.length_ofText plain ▸ whole, plain⟩
      · exact Or.inr ⟨_, .length even digits whole⟩
    | some bad =>
      obtain ⟨other, front, rest, split, digits⟩ := List.find?_eq_some_iff_append.mp found
      exact Or.inr ⟨_, .badDigit even split (by simpa using digits) (by simpa using other)⟩
  · exact Or.inr ⟨_, .oddLength odd⟩

theorem ofHex_eq_error_iff : ofHex text = .error fault ↔ IsFaultOf text fault := by
  refine ⟨fun refused => ?_, IsFaultOf.ofHex_eq⟩
  rcases isHex_or_isFaultOf text with hex | ⟨other, found⟩
  · obtain ⟨digest, read, -⟩ := ofHex_of_isHex hex
    rw [read] at refused
    cases refused
  · have refusal := found.ofHex_eq
    rw [refused] at refusal
    cases refusal
    exact found

theorem ofHex_eq_ok_iff : ofHex text = .ok digest ↔ IsHex text ∧ digest.toHex = text.toLower := by
  rcases isHex_or_isFaultOf text with hex | ⟨fault, found⟩
  · obtain ⟨other, read, written⟩ := ofHex_of_isHex hex
    rw [read]
    constructor
    · rintro ⟨⟩
      exact ⟨hex, written⟩
    · rintro ⟨-, same⟩
      rw [toHex_injective (same.trans written.symm)]
  · have refused := found.ofHex_eq
    refine iff_of_false (fun read => ?_) fun ⟨hex, _⟩ => ?_
    · rw [refused] at read
      cases read
    · obtain ⟨other, read, -⟩ := ofHex_of_isHex hex
      rw [refused] at read
      cases read

theorem ofHex_toHex (digest : Digest) : ofHex digest.toHex = .ok digest := by
  unfold ofHex toHex
  simp only [Hex.decode_encode, ofBytes_bytes]

/-- A text is read as a digest exactly if it is 64 hexadecimal digits of either case, and then as
the one that is written as the text in lower case.  So every digest is read back from its written
form.  Any other text is refused for the odd number of its UTF-8 bytes, or else at the first byte
that is no digit, or else for its length. -/
theorem hex_exact (text : String) :
    ((∃ digest, ofHex text = .ok digest) ↔ IsHex text) ∧
      (∀ digest, ofHex text = .ok digest ↔ IsHex text ∧ digest.toHex = text.toLower) ∧
      (∀ digest, ofHex (toHex digest) = .ok digest) ∧
      ∀ fault, ofHex text = .error fault ↔ IsFaultOf text fault := by
  refine ⟨⟨?_, ?_⟩, fun _ => ofHex_eq_ok_iff, ofHex_toHex, fun _ => ofHex_eq_error_iff⟩
  · rintro ⟨digest, read⟩
    exact (ofHex_eq_ok_iff.mp read).1
  · intro hex
    obtain ⟨digest, read, -⟩ := ofHex_of_isHex hex
    exact ⟨digest, read⟩

/-- A letter with an accent is two bytes, so one more character makes their number odd, which is
reported though no character is a digit. -/
example :
    ofHex "zé" = .error (.digestHex .oddLength) ∧
      ofHex "0é0" = .error (.digestHex (.badDigit 0xC3 1)) ∧
      ofHex "0aF0" = .error (.digestLength 2) := by
  refine ⟨?_, ?_, ?_⟩ <;> rfl

end Digest

end DigestSync
