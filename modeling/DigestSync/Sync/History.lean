import DigestSync.Sync.Peer

set_option autoImplicit false

/-! # The history of a peer

A peer may take up a log that was written before.  From then on it hears of the devices'
numbers by tidings, which are the answers that arrive and the numbers that its own device
publishes; and it reports, record by record, what the answers have changed.
-/

namespace DigestSync

/-! ## Tidings -/

/-- News of the numbers of devices. -/
inductive Tiding where
  /-- An answer with this content arrived. -/
  | answer (content : Bytes)
  /-- The device of the core raised its number. -/
  | published (seq : Seq)

/-- The tiding says that a device has a number: by an update in a message that is
accepted, or because the device is the core's own. -/
inductive Tiding.Tells (own : DeviceId) : Tiding → DeviceId → Seq → Prop where
  | update {content : Bytes} {message : StateMessage} {record : DeltaRecord}
      (accepted : StateMessage.decode content = .ok message) (listed : record ∈ message.states)
      (kind : record.kind = .update) : Tells own (.answer content) record.device record.seq
  | publish (seq : Seq) : Tells own (.published seq) own seq

/-- The answer that the event brings. -/
def SyncEvent.answer? : SyncEvent → Option Data
  | .advertReply answer => answer
  | .recoverReply _ answer => answer
  | .interest _ | .advertDue | .recoverDue _ => none

namespace PeerInput

/-- The answer that the input brings. -/
def answer? : PeerInput → Option Data
  | .event sync => sync.answer?
  | .publish _ | .noteChange => none

/-- The tiding that the input is. -/
def tiding? : PeerInput → Option Tiding
  | .event sync => sync.answer?.map fun data => .answer data.content
  | .publish seq => some (.published seq)
  | .noteChange => none

/-- The tidings among some inputs, in their order. -/
def tidings (inputs : List (Instant × PeerInput)) : List Tiding :=
  inputs.filterMap fun input => input.2.tiding?

end PeerInput

/-! ## What a turn gives -/

/-- The records that the action reports. -/
def SyncAction.reported : SyncAction → List DeltaRecord
  | .report delta => delta
  | .ask _ _ | .put _ | .await _ _ => []

/-- The data that the action puts on the network. -/
def SyncAction.data? : SyncAction → Option Data
  | .put data => some data
  | .ask _ _ | .await _ _ | .report _ => none

namespace SyncTurn

/-- The records that the actions of a turn report, in their order. -/
def reported (turn : SyncTurn) : List DeltaRecord := turn.actions.flatMap SyncAction.reported

/-- The data that the actions of a turn put on the network. -/
def told (turn : SyncTurn) : List Data := turn.actions.filterMap SyncAction.data?

end SyncTurn

namespace Peer

/-- The peer of a device that takes up a log. -/
def resume (store : MemoryStore) (device : DeviceId) (config : SyncConfig) (now : Instant) :
    Peer :=
  let (root, store) := store.rememberState
  ⟨.start device config root now, store⟩

/-- The outcome of an input. -/
def turn (peer : Peer) (now : Instant) : PeerInput → SyncTurn
  | .event event => peer.core.handle (.ofStore peer.store) now event
  | .publish seq => (peer.core.publish (.ofStore peer.store) now seq).2
  | .noteChange => (peer.core.noteChange (.ofStore peer.store) now).2

/-- All records that a peer reports while it is told of inputs, in their order. -/
def reports (peer : Peer) : List (Instant × PeerInput) → List DeltaRecord
  | [] => []
  | (now, input) :: rest =>
    (peer.turn now input).reported ++ (peer.react now input).reports rest

end Peer

/-! ## Reports -/

namespace DeltaRecord

/-- The numbers that the record says are missing, in ascending order. -/
def missing (record : DeltaRecord) : List Nat :=
  match record.missingRange with
  | none => []
  | some (first, last) => List.range' first.toNat (last.toNat + 1 - first.toNat)

/-- Updates that take a number step by step from one value to another: each starts where
the one before it has ended, and goes up. -/
inductive Tiles : Seq → List DeltaRecord → Seq → Prop where
  | nil (seq : Seq) : Tiles seq [] seq
  | cons {first last : Seq} {record : DeltaRecord} {rest : List DeltaRecord}
      (kind : record.kind = .update) (start : record.oldSeq = some first)
      (rising : first < record.seq) (later : Tiles record.seq rest last) :
      Tiles first (record :: rest) last

end DeltaRecord

end DigestSync
