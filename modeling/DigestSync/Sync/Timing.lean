import DigestSync.Sync.Publishing

set_option autoImplicit false

/-! # The timer of a peer

A peer has one timer, which is set to the time of its next advertisement.  The timer is
punctual if it goes off at that time, whatever else happens then, and never before.
-/

namespace DigestSync

/-- The action expresses an advertisement. -/
def SyncAction.isAdvert : SyncAction → Bool
  | .ask (.advertise _) _ => true
  | .ask (.recover _) _ | .put _ | .await _ _ | .report _ => false

namespace PeerInput

/-- The timer has gone off. -/
def isAdvertDue : PeerInput → Bool
  | .event .advertDue => true
  | .event (.interest _) | .event (.advertReply _) | .event (.recoverDue _)
  | .event (.recoverReply _ _) | .publish _ | .noteChange => false

/-- The device says that it has changed something, which need not be so. -/
def tellsOfChange : PeerInput → Bool
  | .publish _ | .noteChange => true
  | .event _ => false

end PeerInput

/-- The device says that it has changed something. -/
def PeerEvent.tellsOfChange : PeerEvent → Bool
  | .input _ told => told.tellsOfChange
  | .call _ => false

namespace Peer

/-- The peer advertises when it is told of the input. -/
def advertises (peer : Peer) (now : Instant) (input : PeerInput) : Bool :=
  (peer.turn now input).actions.any SyncAction.isAdvert

/-- The times at which a peer advertises while some things happen to it. -/
def advertTimes (peer : Peer) : List PeerEvent → List Instant
  | [] => []
  | .input now input :: rest =>
    if peer.advertises now input then now :: (peer.react now input).advertTimes rest
    else (peer.react now input).advertTimes rest
  | .call call :: rest => (peer.undergo (.call call)).advertTimes rest

/-- From a time on, some things happen to a peer one after the other, and its timer is
punctual. -/
def Punctual (peer : Peer) (last : Instant) : List PeerEvent → Prop
  | [] => True
  | .input now input :: rest =>
    last ≤ now ∧ now ≤ peer.core.nextAdvert ∧
      (input.isAdvertDue = true → now = peer.core.nextAdvert) ∧
      (peer.react now input).Punctual now rest
  | .call call :: rest => (peer.undergo (.call call)).Punctual last rest

instance decidablePunctual (peer : Peer) (last : Instant) :
    (events : List PeerEvent) → Decidable (peer.Punctual last events)
  | [] => .isTrue trivial
  | .input now input :: rest =>
    have : Decidable ((peer.react now input).Punctual now rest) :=
      decidablePunctual (peer.react now input) now rest
    inferInstanceAs (Decidable (_ ∧ _ ∧ _ ∧ _))
  | .call call :: rest => decidablePunctual (peer.undergo (.call call)) last rest

end Peer

end DigestSync
