import DigestSync.Sync.Publishing

set_option autoImplicit false

/-! # Locators aside

A locator tells where a device can be asked, and nothing of what it has.  Here it is said
when two answers of a store, two inputs of a peer and two actions are the same apart from
the locators in them.  A device that a store knows by its locator alone has number zero,
which says no more of it than that the store does not know it.
-/

namespace DigestSync

/-- The record without its locator. -/
def DeltaRecord.unlocated (record : DeltaRecord) : DeltaRecord := { record with locator := none }

/-- The records of two lists are the same, locators aside. -/
def DeltaRecord.Alike (left right : List DeltaRecord) : Prop :=
  left.map unlocated = right.map unlocated

/-! ## Stores -/

/-- The call stores a locator. -/
def StoreCall.storesLocator : StoreCall → Bool
  | .updateLocator _ _ => true
  | _ => false

/-- Two answers to a call are the same, locators aside. -/
inductive StoreAnswer.Alike :
    StoreCall → Except StoreFault StoreAnswer → Except StoreFault StoreAnswer → Prop where
  | same (call : StoreCall) (answer : Except StoreFault StoreAnswer) : Alike call answer answer
  | number (device : DeviceId) {left right : Option Seq}
      (same : left.getD 0 = right.getD 0) :
      Alike (.deviceSeq device) (.ok (.seq left)) (.ok (.seq right))
  | locator (device : DeviceId) (left right : Option Name) :
      Alike (.locator device) (.ok (.name left)) (.ok (.name right))
  | records (old new : Digest) (includeOld : Bool) {left right : List DeltaRecord}
      (alike : DeltaRecord.Alike left right) :
      Alike (.findDifferences old new includeOld) (.ok (.records left)) (.ok (.records right))

/-- Some calls, taken one after the other, each with its answer.  A call that fails changes
nothing. -/
def MemoryStore.transcript (store : MemoryStore) :
    List StoreCall → List (StoreCall × Except StoreFault StoreAnswer)
  | [] => []
  | call :: rest => (call, Prod.fst <$> store.take call) :: (store.next call).transcript rest

/-! ## Peers -/

/-- Two contents are the same, or hold messages whose records are the same, locators
aside. -/
inductive StateMessage.Alike (left right : Bytes) : Prop where
  | same (equal : left = right)
  | messages {first second : StateMessage} (readLeft : decode left = .ok first)
      (readRight : decode right = .ok second)
      (alike : DeltaRecord.Alike first.states second.states)

/-- Two events are the same, or bring answers with messages that are the same, locators
aside. -/
inductive SyncEvent.Alike : SyncEvent → SyncEvent → Prop where
  | same (event : SyncEvent) : Alike event event
  | advertReply {left right : Data} (alike : StateMessage.Alike left.content right.content) :
      Alike (.advertReply (some left)) (.advertReply (some right))
  | recoverReply (digest : Digest) {left right : Data}
      (alike : StateMessage.Alike left.content right.content) :
      Alike (.recoverReply digest (some left)) (.recoverReply digest (some right))

/-- At the same time the same happens to two peers, locators aside. -/
inductive PeerEvent.Alike : PeerEvent → PeerEvent → Prop where
  | same (event : PeerEvent) : Alike event event
  | event (now : Instant) {left right : SyncEvent} (alike : left.Alike right) :
      Alike (.input now (.event left)) (.input now (.event right))

/-- Two actions are the same, or report or tell of records that are the same, locators
aside. -/
inductive SyncAction.Alike : SyncAction → SyncAction → Prop where
  | same (action : SyncAction) : Alike action action
  | report {left right : List DeltaRecord} (alike : DeltaRecord.Alike left right) :
      Alike (.report left) (.report right)
  | put (core : SyncCore) (name : Name) {left right : List DeltaRecord}
      (alike : DeltaRecord.Alike left right) :
      Alike (.put (core.replyOf name left)) (.put (core.replyOf name right))

/-- All that a peer calls for while some things happen to it, in order. -/
def Peer.actions (peer : Peer) : List PeerEvent → List SyncAction
  | [] => []
  | .input now input :: rest =>
    (peer.turn now input).actions ++ (peer.undergo (.input now input)).actions rest
  | .call call :: rest => (peer.undergo (.call call)).actions rest

end DigestSync
