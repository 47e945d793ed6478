set_option autoImplicit false

/-! # Bytes

Contents, name components and digests are finite sequences of bytes.  They are
kept as lists, so that every function on them is a recursion that a proof can
follow.  This module holds the big-endian form of the unsigned words that appear
inside names, digest inputs and encoded messages.
-/

namespace DigestSync

/-- A finite sequence of bytes. -/
abbrev Bytes := List UInt8

namespace Bytes

/-- The `count` lowest bytes of `value`, the most significant one first. -/
def ofNatBE : Nat → Nat → Bytes
  | 0, _ => []
  | count + 1, value => ofNatBE count (value / 256) ++ [UInt8.ofNat value]

/-- The number whose big-endian digits to the base 256 are `bytes`. -/
def toNatBE (bytes : Bytes) : Nat :=
  bytes.foldl (fun total byte => total * 256 + byte.toNat) 0

/-- A 32-bit word as four bytes, the most significant one first. -/
def ofUInt32 (word : UInt32) : Bytes := ofNatBE 4 word.toNat

/-- A 64-bit word as eight bytes, the most significant one first. -/
def ofUInt64 (word : UInt64) : Bytes := ofNatBE 8 word.toNat

/-- The 64-bit word that eight bytes spell; no other length spells one. -/
def toUInt64? (bytes : Bytes) : Option UInt64 :=
  if bytes.length = 8 then some (UInt64.ofNat bytes.toNatBE) else none

/-- The UTF-8 form of a text. -/
def ofText (text : String) : Bytes := text.toList.flatMap String.utf8EncodeChar

@[simp]
theorem length_ofNatBE (count value : Nat) : (ofNatBE count value).length = count := by
  induction count generalizing value with
  | zero => rfl
  | succ count ih => simp [ofNatBE, ih]

@[simp]
theorem length_ofUInt64 (word : UInt64) : (ofUInt64 word).length = 8 :=
  length_ofNatBE 8 word.toNat

end Bytes

end DigestSync
