import Mathlib.Algebra.Group.Nat.Defs
import Mathlib.Order.MinMax

set_option autoImplicit false

/-! # The order of 64-bit numbers

Sequence numbers are ordered as the naturals that they stand for.
-/

namespace DigestSync

namespace SeqOrder

scoped instance linearOrder : LinearOrder UInt64 where
  le_refl _ := UInt64.le_refl _
  le_trans _ _ _ := UInt64.le_trans
  lt_iff_le_not_ge _ _ := by grind
  le_antisymm _ _ := UInt64.le_antisymm
  le_total := UInt64.le_total
  toDecidableLE := inferInstance
  toDecidableLT := inferInstance
  toDecidableEq := inferInstance

end SeqOrder

/-- Below the highest number, counting up does not run over. -/
theorem toNat_succ {seq : UInt64} (low : seq.toNat + 1 < 2 ^ 64) :
    (seq + 1).toNat = seq.toNat + 1 := by
  rw [UInt64.toNat_add, UInt64.toNat_one]
  exact Nat.mod_eq_of_lt low

theorem succ_toNat_lt_of_lt {seq bound : UInt64} (below : seq < bound) :
    seq.toNat + 1 < 2 ^ 64 := by
  have less : seq.toNat < bound.toNat := UInt64.lt_iff_toNat_lt.mp below
  have limit : bound.toNat < 2 ^ 64 := bound.toNat_lt
  omega

theorem succ_toNat_lt_of_le_of_low {seq bound : UInt64} (upto : seq ≤ bound)
    (low : bound.toNat + 1 < 2 ^ 64) : seq.toNat + 1 < 2 ^ 64 := by
  have less := UInt64.le_iff_toNat_le.mp upto
  omega

end DigestSync
