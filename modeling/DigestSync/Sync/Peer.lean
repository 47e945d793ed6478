import DigestSync.Sync.Core

set_option autoImplicit false

/-! # Peers

A peer is a sync core with the memory log that it alone writes.  It starts with a log
that knows nothing; from there on, events and the calls of its device come in any order.

What one peer calls for can be carried out on another one.  An advertisement is handled
to the end if the answer of whoever hears it is brought back, or else the recovery that
it plans, and if the advertisement's time is over where there was no answer.  What either
of them says beyond that is not heard.
-/

namespace DigestSync

/-- A sync core with the log that it alone writes. -/
structure Peer where
  core : SyncCore
  store : MemoryStore

/-- What a peer is told. -/
inductive PeerInput where
  | event (event : SyncEvent)
  /-- The device raises its own number. -/
  | publish (seq : Seq)
  /-- The device says that the log has changed. -/
  | noteChange

namespace SyncAction

/-- The interest that the action expresses. -/
def asked? : SyncAction → Option Interest
  | .ask _ interest => some interest
  | _ => none

/-- The data that the action puts on the network, if it answers an interest in the name. -/
def answer? (name : Name) : SyncAction → Option Data
  | .put data => if data.answers name then some data else none
  | _ => none

/-- The digest that the core is to be told of later. -/
def awaited? : SyncAction → Option Digest
  | .await digest _ => some digest
  | _ => none

end SyncAction

namespace Peer

/-- The peer of a device with a log that knows nothing. -/
def spawn (device : DeviceId) (config : SyncConfig) (now : Instant) : Peer :=
  let (root, store) := MemoryStore.empty.rememberState
  ⟨.start device config root now, store⟩

/-- The peer that a turn leaves. -/
def ofTurn (turn : SyncTurn) : Peer := ⟨turn.core, turn.volume.store⟩

/-- Tell a peer of an event, and return what it then calls for. -/
def handle (peer : Peer) (now : Instant) (event : SyncEvent) : Peer × List SyncAction :=
  let turn := peer.core.handle (.ofStore peer.store) now event
  (ofTurn turn, turn.actions)

/-- Tell a peer of an input. -/
def react (peer : Peer) (now : Instant) : PeerInput → Peer
  | .event event => (peer.handle now event).1
  | .publish seq => ofTurn (peer.core.publish (.ofStore peer.store) now seq).2
  | .noteChange => ofTurn (peer.core.noteChange (.ofStore peer.store) now).2

/-- Tell a peer of inputs one after the other. -/
def run (peer : Peer) : List (Instant × PeerInput) → Peer
  | [] => peer
  | (now, input) :: rest => (peer.react now input).run rest

/-- The states that a peer has between the inputs. -/
def states (peer : Peer) : List (Instant × PeerInput) → List Snapshot
  | [] => [peer.store.currentState]
  | (now, input) :: rest => peer.store.currentState :: (peer.react now input).states rest

/-! ## Exchanges -/

/-- Handle the recovery of a digest to the end, with the other peer to be asked. -/
def recover (asker giver : Peer) (digest : Digest) (clock : Nat → Instant) : Peer × Peer :=
  let (asker, due) := asker.handle (clock 2) (.recoverDue digest)
  match due.findSome? SyncAction.asked? with
  | none => (asker, giver)
  | some interest =>
    let (giver, told) := giver.handle (clock 3) (.interest interest.name)
    let answer := told.findSome? (SyncAction.answer? interest.name)
    ((asker.handle (clock 4) (.recoverReply digest answer)).1, giver)

/-- Handle an advertisement to the end, with the other peer to hear it.  The steps take
place at the times of a clock. -/
def advertise (speaker hearer : Peer) (clock : Nat → Instant) : Peer × Peer :=
  let (speaker, said) := speaker.handle (clock 0) .advertDue
  match said.findSome? SyncAction.asked? with
  | none => (speaker, hearer)
  | some interest =>
    let (hearer, heard) := hearer.handle (clock 1) (.interest interest.name)
    let (hearer, speaker) :=
      match heard.findSome? SyncAction.awaited? with
      | none => (hearer, speaker)
      | some digest => hearer.recover speaker digest clock
    let answer := heard.findSome? (SyncAction.answer? interest.name)
    ((speaker.handle (clock 5) (.advertReply answer)).1, hearer)

end Peer

end DigestSync
