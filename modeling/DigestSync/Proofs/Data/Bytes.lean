import DigestSync.Data.Bytes
import Mathlib.Algebra.Group.Nat.Defs
import Mathlib.Data.List.Induction

set_option autoImplicit false

/-! # Numbers spelled by bytes

A number below a power of 256 is told by that many digits, and any digits tell one.  So eight
bytes spell a word exactly if they are the form of this word.
-/

namespace DigestSync

namespace Bytes

theorem toNatBE_concat (front : Bytes) (byte : UInt8) :
    toNatBE (front ++ [byte]) = toNatBE front * 256 + byte.toNat := by
  unfold toNatBE
  rw [List.foldl_append]
  rfl

theorem toNatBE_lt (digits : Bytes) : toNatBE digits < 256 ^ digits.length := by
  induction digits using List.reverseRecOn with
  | nil => exact Nat.one_pos
  | append_singleton front byte ih =>
    have small := byte.toNat_lt
    rw [toNatBE_concat, List.length_append, List.length_singleton, Nat.pow_succ]
    omega

/-- A number is read back from enough digits. -/
theorem toNatBE_ofNatBE {count value : Nat} (small : value < 256 ^ count) :
    toNatBE (ofNatBE count value) = value := by
  induction count generalizing value with
  | zero =>
    have zero : value = 0 := Nat.lt_one_iff.mp small
    rw [zero]
    rfl
  | succ count ih =>
    have high : value / 256 < 256 ^ count := by
      apply Nat.div_lt_of_lt_mul
      rwa [← pow_succ']
    rw [ofNatBE, toNatBE_concat, ih high, UInt8.toNat_ofNat']
    omega

/-- Digits are those of the number that they tell. -/
theorem ofNatBE_toNatBE (digits : Bytes) : ofNatBE digits.length digits.toNatBE = digits := by
  induction digits using List.reverseRecOn with
  | nil => rfl
  | append_singleton front byte ih =>
    have small := byte.toNat_lt
    have high : toNatBE (front ++ [byte]) / 256 = toNatBE front := by
      rw [toNatBE_concat]
      omega
    have low : UInt8.ofNat (toNatBE (front ++ [byte])) = byte := by
      apply UInt8.toNat_inj.mp
      rw [UInt8.toNat_ofNat', toNatBE_concat]
      omega
    rw [List.length_append, List.length_singleton, ofNatBE, high, low, ih]

/-- Bytes spell a word exactly if they are its form. -/
theorem toUInt64?_eq_some_iff {bytes : Bytes} {word : UInt64} :
    bytes.toUInt64? = some word ↔ bytes = ofUInt64 word := by
  unfold toUInt64?
  constructor
  · intro read
    split at read
    · rename_i eight
      cases read
      have small : bytes.toNatBE < 2 ^ 64 := by
        have below := toNatBE_lt bytes
        rwa [eight] at below
      rw [ofUInt64, UInt64.toNat_ofNat_of_lt' small, ← eight, ofNatBE_toNatBE]
    · cases read
  · rintro rfl
    have small : word.toNat < 256 ^ 8 := word.toNat_lt
    rw [if_pos (length_ofUInt64 word), ofUInt64, toNatBE_ofNatBE small, UInt64.ofNat_toNat]

end Bytes

end DigestSync
