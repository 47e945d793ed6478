import DigestSync.Store.Recording
import DigestSync.Sync.History

set_option autoImplicit false

/-! # What a peer publishes

A peer shares its log with its device, which may use it between the inputs.  Three things
make a peer tell what separates a known state from its own: an advertisement of that state,
a request for recovery, which asks for everything since the empty state, and a change that
its device has made, which is told to those who wait for news of the former state.
-/

namespace DigestSync

/-- Something that happens to a peer. -/
inductive PeerEvent where
  /-- The core is told of an input. -/
  | input (now : Instant) (input : PeerInput)
  /-- The device uses the log. -/
  | call (call : StoreCall)

namespace Peer

/-- Let something happen. -/
def undergo (peer : Peer) : PeerEvent → Peer
  | .input now input => peer.react now input
  | .call call => { peer with store := peer.store.next call }

/-- Let some things happen one after the other. -/
def undergoAll (peer : Peer) (events : List PeerEvent) : Peer := events.foldl undergo peer

/-- The log with the change that the device makes by the input, not yet recorded. -/
def changed? (peer : Peer) : PeerInput → Option MemoryStore
  | .publish seq => some (peer.store.updateDeviceSeq peer.core.device seq).2
  | .noteChange => some peer.store
  | .event _ => none

/-- The input makes the peer tell, under a name, what leads in a log from the state of one
digest to that of another, its own. -/
inductive Prompts (peer : Peer) :
    PeerInput → Name → MemoryStore → Digest → Digest → Prop where
  | advertisement {name : Name} {digest : Digest}
      (heard : SyncName.ofName peer.core.config.group name = .ok (.advertise digest))
      (other : digest ≠ peer.core.root) (known : peer.store.isKnown digest = true) :
      Prompts peer (.event (.interest name)) name peer.store digest peer.core.root
  | recovery {name : Name} {digest : Digest}
      (heard : SyncName.ofName peer.core.config.group name = .ok (.recover digest))
      (known : peer.store.isKnown digest = true) :
      Prompts peer (.event (.interest name)) name peer.store Digest.origin peer.core.root
  | change {input : PeerInput} {store : MemoryStore} (changed : peer.changed? input = some store)
      (moved : store.currentState.digest ≠ peer.core.root) :
      Prompts peer input ((SyncName.advertise peer.core.root).toName peer.core.config.group)
        store.rememberState.2 peer.core.root store.currentState.digest

/-- Told of the input, the peer computes a delta to tell under the name. -/
def Computes (peer : Peer) (input : PeerInput) (name : Name) (delta : List DeltaRecord) : Prop :=
  ∃ log base target, peer.Prompts input name log base target ∧
    log.findDifferences base target false = .ok delta

end Peer

end DigestSync
