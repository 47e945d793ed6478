import DigestSync.Name.Text
import DigestSync.Store.Fault
import DigestSync.Sync.Message

set_option autoImplicit false

/-! # Faults of synchronisation

Why a call on a synchronising device failed, and the wording of each cause.
-/

namespace DigestSync

/-- Why a call on a synchronising device failed. -/
inductive SyncFault where
  /-- A message was refused. -/
  | badMessage (cause : MessageFault)
  /-- A name is not a sync name; the cause is told if it has the shape of one. -/
  | unexpectedName (name : Name) (cause : Option Malformed)
  /-- The network refused a call. -/
  | transport (detail : String)
  /-- The store refused a call. -/
  | store (cause : StoreFault)
  /-- The device no longer synchronises. -/
  | stopped
deriving DecidableEq, Repr, Inhabited

/-- The wording of a fault. -/
def SyncFault.message : SyncFault → String
  | .badMessage cause => "invalid message: " ++ cause.message
  | .unexpectedName name none => "unexpected name: " ++ name.render
  | .unexpectedName name (some cause) =>
    "unexpected name: " ++ name.render ++ ": " ++ cause.message
  | .transport detail => "transport error: " ++ detail
  | .store cause => "store error: " ++ cause.message
  | .stopped => "sync core stopped"

end DigestSync
