import DigestSync.Delta

set_option autoImplicit false

/-! # Convergence

Comparing two states: either they are equal, or the devices that differ are
split into those that the one side is ahead with and those that the other is.
-/

namespace DigestSync

/-- A device with its numbers on the local and on the remote side. -/
structure Gap where
  device : DeviceId
  localSeq : Seq
  remoteSeq : Seq
deriving DecidableEq, Repr, Inhabited

/-- How two states relate. -/
inductive Convergence where
  | converged
  | diverged (localAhead remoteAhead : List Gap)
deriving DecidableEq, Repr, Inhabited

namespace Convergence

/-- The states are equal. -/
def isConverged : Convergence → Bool
  | .converged => true
  | .diverged _ _ => false

/-- The gap that a delta record from the local to the remote state tells of. -/
def gapOf (record : DeltaRecord) : Gap :=
  ⟨record.device, record.oldSeq.getD 0, record.seq⟩

/-- The local side is ahead. -/
def Gap.isLocal (gap : Gap) : Bool := gap.remoteSeq < gap.localSeq

/-- Compare a local with a remote state. -/
def compare (here there : Snapshot) : Convergence :=
  if here = there then .converged
  else
    let gaps := (here.diff there true).map gapOf
    .diverged (gaps.filter Gap.isLocal) (gaps.filter fun gap => !Gap.isLocal gap)

end Convergence

end DigestSync
