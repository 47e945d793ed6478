import DigestSync.Digest

set_option autoImplicit false

/-! # Faults of a store

Why a call on a store failed, and the wording of each cause.
-/

namespace DigestSync

/-- Why a call on a store failed. -/
inductive StoreFault where
  /-- The tables could not be read or written. -/
  | engine
  /-- No state was recorded under this digest. -/
  | unknownDigest (digest : Digest)
  /-- A stored number is out of its range. -/
  | invalidData (detail : String)
  /-- A stored text is not the written form of its value. -/
  | malformed (cause : Malformed)
deriving DecidableEq, Repr, Inhabited

/-- The wording of a fault. -/
def StoreFault.message : StoreFault → String
  | .engine => "database error"
  | .unknownDigest digest => "unknown digest: " ++ digest.short
  | .invalidData detail => "invalid data: " ++ detail
  | .malformed cause => "decode error: " ++ cause.message

end DigestSync
