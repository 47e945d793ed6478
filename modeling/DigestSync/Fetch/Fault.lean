import DigestSync.Store.Fault

set_option autoImplicit false

/-! # Faults of fetching

Why a call on a fetch manager failed, and the wording of each cause.
-/

namespace DigestSync

/-- Why a call on a fetch manager failed. -/
inductive FetchFault where
  /-- The store refused a call. -/
  | store (cause : StoreFault)
  /-- The manager accepts no further task. -/
  | stopped
deriving DecidableEq, Repr, Inhabited

/-- The wording of a fault. -/
def FetchFault.message : FetchFault → String
  | .store cause => "store error: " ++ cause.message
  | .stopped => "fetch manager stopped"

end DigestSync
