import DigestSync.Network.Packet
import DigestSync.Store.Volume
import DigestSync.Sync.Config
import DigestSync.Sync.SyncName

set_option autoImplicit false

/-! # The sync core

A sync core keeps a device's state in step with its group.  It advertises the
digest of the state at intervals; a device that knows the digest answers with
what has changed since, and one that does not asks, after a while, for the full
state.  Whatever an answer brings is merged, and the difference that it makes is
reported.

The core is a state machine.  Each event turns it and its store into new ones
and calls for actions; carrying these out, and telling the core of the answers
and of the time, is up to its surroundings.
-/

namespace DigestSync

/-- What a sync core waits for. -/
inductive SyncPhase where
  /-- Nothing. -/
  | idle
  /-- The answer to an advertisement. -/
  | waitingReply
  /-- The recovery of an unknown digest. -/
  | recoveryPending
deriving DecidableEq, Repr, Inhabited

/-- A device that synchronises. -/
structure SyncCore where
  device : DeviceId
  config : SyncConfig
  /-- The digest of the state last recorded. -/
  root : Digest
  /-- When to advertise next. -/
  nextAdvert : Instant
  /-- How many advertisements wait for an answer. -/
  advertsInFlight : Nat
  /-- The digests whose recovery is due or under way, each once. -/
  recoveries : List Digest
  /-- The core takes part in the group. -/
  running : Bool
deriving DecidableEq, Repr, Inhabited

/-- What a sync core calls for. -/
inductive SyncAction where
  /-- Express the interest that says this. -/
  | ask (saying : SyncName) (interest : Interest)
  /-- Put data on the network. -/
  | put (data : Data)
  /-- Tell the core of the digest again after a delay. -/
  | await (digest : Digest) (delay : Duration)
  /-- Report what an answer has changed. -/
  | report (delta : List DeltaRecord)
deriving DecidableEq, Repr

/-- What a sync core is told. -/
inductive SyncEvent where
  /-- An interest under the group's name arrived. -/
  | interest (name : Name)
  /-- It is time to advertise. -/
  | advertDue
  /-- An advertisement was answered, or its time is over. -/
  | advertReply (answer : Option Data)
  /-- It is time to recover the digest. -/
  | recoverDue (digest : Digest)
  /-- A request for recovery was answered, or its time is over. -/
  | recoverReply (digest : Digest) (answer : Option Data)
deriving DecidableEq, Repr

/-- The outcome of an event. -/
structure SyncTurn where
  core : SyncCore
  volume : Volume
  actions : List SyncAction

namespace SyncCore

/-- The core of a device whose state has just been recorded.  It advertises at
once. -/
def start (device : DeviceId) (config : SyncConfig) (root : Digest) (now : Instant) : SyncCore :=
  ⟨device, config, root, now, 0, [], true⟩

/-- What the core waits for. -/
def phase (core : SyncCore) : SyncPhase :=
  if !core.recoveries.isEmpty then .recoveryPending
  else if core.advertsInFlight ≠ 0 then .waitingReply
  else .idle

/-- The interest by which the core says something. -/
def interestOf (core : SyncCore) (saying : SyncName) : Interest where
  name := saying.toName core.config.group
  lifetime :=
    match saying with
    | .advertise _ => core.config.advertLifetime
    | .recover _ => core.config.recoveryLifetime

/-- The data with which the core tells of records. -/
def replyOf (core : SyncCore) (name : Name) (records : List DeltaRecord) : Data where
  name := name
  content := (StateMessage.ofStates records).encode
  freshness := core.config.replyFreshness

/-- Tell of records unless there are none. -/
def reply (core : SyncCore) (name : Name) (records : List DeltaRecord) : List SyncAction :=
  if records.isEmpty then [] else [.put (core.replyOf name records)]

/-- Advertise the state. -/
def advertise (core : SyncCore) (now : Instant) : SyncCore × List SyncAction :=
  let saying := SyncName.advertise core.root
  ({ core with
      advertsInFlight := core.advertsInFlight + 1
      nextAdvert := now + core.config.effectiveInterval },
    [.ask saying (core.interestOf saying)])

/-! ## Local changes -/

/-- Take note of a change that the device made to its store: tell those who wait
for news of the former state, and advertise soon. -/
def noteChange (core : SyncCore) (volume : Volume) (now : Instant) :
    Except SyncFault Digest × SyncTurn :=
  match volume.rememberState with
  | .error fault => (.error (.store fault), ⟨core, volume, []⟩)
  | .ok (new, volume) =>
    let settled (actions : List SyncAction) : Except SyncFault Digest × SyncTurn :=
      (.ok new,
        ⟨{ core with root := new, nextAdvert := now + core.config.localChangeDelay },
          volume, actions⟩)
    if new = core.root then settled []
    else
      match volume.findDifferences core.root new false with
      | .error fault => (.error (.store fault), ⟨core, volume, []⟩)
      | .ok delta =>
        settled (core.reply ((SyncName.advertise core.root).toName core.config.group) delta)

/-- Raise the device's own number, and take note of the change. -/
def publish (core : SyncCore) (volume : Volume) (now : Instant) (seq : Seq) :
    Except SyncFault Digest × SyncTurn :=
  match volume.updateDeviceSeq core.device seq with
  | .error fault => (.error (.store fault), ⟨core, volume, []⟩)
  | .ok (_, volume) => core.noteChange volume now

/-! ## Interests -/

/-- Plan the recovery of a digest unless there is one already.  The wait asked for is the one
without jitter; that a wait is over is an event, which may come at any time. -/
def planRecovery (core : SyncCore) (digest : Digest) : SyncCore × List SyncAction :=
  if core.recoveries.contains digest then (core, [])
  else
    ({ core with recoveries := digest :: core.recoveries },
      [.await digest core.config.recoverWait])

/-- Answer an advertisement: with what has changed since its state if that is
known, and with a recovery if it is not. -/
def onAdvertisement (core : SyncCore) (volume : Volume) (name : Name) (digest : Digest) :
    SyncCore × List SyncAction :=
  if digest = core.root then (core, [])
  else
    match volume.isKnown digest with
    | .error _ => (core, [])
    | .ok false => core.planRecovery digest
    | .ok true =>
      match volume.findDifferences digest core.root false with
      | .error _ => (core, [])
      | .ok delta => (core, core.reply name delta)

/-- Answer a request for recovery with the full state if its digest is known. -/
def onRecoveryRequest (core : SyncCore) (volume : Volume) (name : Name) (digest : Digest) :
    List SyncAction :=
  match volume.isKnown digest with
  | .ok true =>
    match volume.findDifferences Digest.origin core.root false with
    | .ok delta => core.reply name delta
    | .error _ => []
  | _ => []

/-- Answer an interest; a name that is no sync name is ignored. -/
def onInterest (core : SyncCore) (volume : Volume) (name : Name) : SyncTurn :=
  match SyncName.ofName core.config.group name with
  | .error _ => ⟨core, volume, []⟩
  | .ok (.advertise digest) =>
    let (core, actions) := core.onAdvertisement volume name digest
    ⟨core, volume, actions⟩
  | .ok (.recover digest) => ⟨core, volume, core.onRecoveryRequest volume name digest⟩

/-! ## Answers -/

/-- Merge an update into the store. -/
def mergeRecord (volume : Volume) (record : DeltaRecord) : Except StoreFault Volume :=
  match volume.updateDeviceSeq record.device record.seq with
  | .error fault => .error fault
  | .ok (_, volume) =>
    match record.locator with
    | none => .ok volume
    | some locator =>
      match volume.updateLocator record.device locator with
      | .error fault => .error fault
      | .ok (_, volume) => .ok volume

/-- Merge the updates among some records into the store.  Deletions are never
applied: numbers only grow. -/
def mergeRecords (volume : Volume) (records : List DeltaRecord) : Except StoreFault Volume :=
  (records.filter DeltaRecord.isUpdate).foldlM mergeRecord volume

/-- Take note of a change that an answer made to the store: report it and
advertise at once. -/
def noteMerge (core : SyncCore) (volume : Volume) (now : Instant) : SyncTurn :=
  match volume.rememberState with
  | .error _ => ⟨core, volume, []⟩
  | .ok (new, volume) =>
    if new = core.root then ⟨core, volume, []⟩
    else
      match volume.findDifferences core.root new true with
      | .error _ => ⟨core, volume, []⟩
      | .ok delta =>
        let (core, actions) := { core with root := new }.advertise now
        ⟨core, volume, if delta.isEmpty then actions else .report delta :: actions⟩

/-- Merge what an answer brings; one that does not hold a message is dropped. -/
def onAnswer (core : SyncCore) (volume : Volume) (now : Instant) (answer : Option Data) :
    SyncTurn :=
  match answer.map fun data => StateMessage.decode data.content with
  | some (.ok message) =>
    match mergeRecords volume message.states with
    | .error _ => ⟨core, volume, []⟩
    | .ok volume => core.noteMerge volume now
  | _ => ⟨core, volume, []⟩

/-- Forget the recovery of a digest. -/
def dropRecovery (core : SyncCore) (digest : Digest) : SyncCore :=
  { core with recoveries := core.recoveries.filter (· ≠ digest) }

/-- Ask for the recovery of a digest unless it has become known. -/
def onRecoverDue (core : SyncCore) (volume : Volume) (digest : Digest) :
    SyncCore × List SyncAction :=
  if digest = core.root then (core.dropRecovery digest, [])
  else
    match volume.isKnown digest with
    | .error _ => (core, [])
    | .ok true => (core.dropRecovery digest, [])
    | .ok false =>
      let saying := SyncName.recover digest
      (core, [.ask saying (core.interestOf saying)])

/-! ## Events -/

/-- Tell a running core of an event; one that has stopped ignores it. -/
def handle (core : SyncCore) (volume : Volume) (now : Instant) (event : SyncEvent) : SyncTurn :=
  if core.running then
    match event with
    | .interest name => core.onInterest volume name
    | .advertDue =>
      let (core, actions) := core.advertise now
      ⟨core, volume, actions⟩
    | .advertReply answer =>
      { core with advertsInFlight := core.advertsInFlight - 1 }.onAnswer volume now answer
    | .recoverDue digest =>
      let (core, actions) := core.onRecoverDue volume digest
      ⟨core, volume, actions⟩
    | .recoverReply digest answer => (core.dropRecovery digest).onAnswer volume now answer
  else ⟨core, volume, []⟩

/-- Stop synchronising.  Whatever was under way is forgotten. -/
def stop (core : SyncCore) : SyncCore :=
  { core with advertsInFlight := 0, recoveries := [], running := false }

end SyncCore

end DigestSync
