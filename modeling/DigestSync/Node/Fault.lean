import DigestSync.Fetch.Fault
import DigestSync.Sync.Fault

set_option autoImplicit false

/-! # Faults of a node

Why a call on a node failed, and the wording of each cause.
-/

namespace DigestSync

/-- Why a call on a node failed. -/
inductive NodeFault where
  | store (cause : StoreFault)
  | sync (cause : SyncFault)
  | fetch (cause : FetchFault)
  /-- The node has been shut down. -/
  | shutDown
deriving DecidableEq, Repr, Inhabited

/-- The wording of a fault. -/
def NodeFault.message : NodeFault → String
  | .store cause => "store error: " ++ cause.message
  | .sync cause => "sync error: " ++ cause.message
  | .fetch cause => "fetch error: " ++ cause.message
  | .shutDown => "node has been shut down"

end DigestSync
