import DigestSync.Data.Hex

set_option autoImplicit false

/-! # Malformed values

The causes for which a text, a byte sequence or a number is not the written form
of a name, a digest or a priority, and the wording of each.
-/

namespace DigestSync

/-- Why a value was refused. -/
inductive Malformed where
  /-- The text, or this part of it, is not the written form of a name. -/
  | name (text : String)
  /-- A digest has 32 bytes, not this number of them. -/
  | digestLength (count : Nat)
  /-- A digest was not given in hexadecimal. -/
  | digestHex (fault : Hex.Fault)
  /-- No priority has this number. -/
  | priority (value : UInt8)
deriving DecidableEq, Repr, Inhabited

/-- The wording of a refusal. -/
def Malformed.message : Malformed → String
  | .name text => "invalid name: " ++ text
  | .digestLength count => "invalid digest: expected 32 bytes, got " ++ toString count
  | .digestHex fault => "invalid digest hex: " ++ fault.message
  | .priority value => "invalid priority value: " ++ toString value.toNat

end DigestSync
