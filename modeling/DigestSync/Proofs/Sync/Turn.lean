import DigestSync.Proofs.Store.MemoryLog
import DigestSync.Sync.Core

set_option autoImplicit false

/-! # What a turn leaves

Over a memory log on a sound medium, a turn of a core has one of two outcomes.  Either it
keeps the log and the root as they were, or it adopts a log whose state has risen: that
state is then recorded, and its digest is the root.
-/

namespace DigestSync

namespace Volume

variable (store : MemoryStore)

theorem rememberState_ofStore :
    (ofStore store).rememberState = .ok (store.rememberState.1, ofStore store.rememberState.2) :=
  rfl

theorem updateDeviceSeq_ofStore (device : DeviceId) (seq : Seq) :
    (ofStore store).updateDeviceSeq device seq =
      .ok ((store.updateDeviceSeq device seq).1, ofStore (store.updateDeviceSeq device seq).2) :=
  rfl

theorem isKnown_ofStore (digest : Digest) :
    (ofStore store).isKnown digest = .ok (store.isKnown digest) := rfl

theorem findDifferences_ofStore (old new : Digest) (includeOld : Bool) :
    (ofStore store).findDifferences old new includeOld =
      store.findDifferences old new includeOld := rfl

end Volume

/-! ## Taking over records -/

namespace MemoryStore

/-- Take over an update. -/
def takeRecord (store : MemoryStore) (record : DeltaRecord) : MemoryStore :=
  let raised := (store.updateDeviceSeq record.device record.seq).2
  match record.locator with
  | none => raised
  | some locator => raised.updateLocator record.device locator

/-- Take over the updates among some records. -/
def takeRecords (store : MemoryStore) (records : List DeltaRecord) : MemoryStore :=
  (records.filter DeltaRecord.isUpdate).foldl takeRecord store

theorem currentState_takeRecord (store : MemoryStore) (record : DeltaRecord) :
    (store.takeRecord record).currentState =
      store.currentState.merge record.device record.seq := by
  unfold takeRecord
  split
  · exact currentState_updateDeviceSeq store record.device record.seq
  · rw [currentState_updateLocator, currentState_updateDeviceSeq]

/-- Taking over records merges the numbers of their updates. -/
theorem currentState_takeRecords (store : MemoryStore) (records : List DeltaRecord) :
    (store.takeRecords records).currentState =
      store.currentState.mergeAll (Snapshot.updatesOf records) := by
  unfold takeRecords Snapshot.updatesOf
  induction records.filter DeltaRecord.isUpdate generalizing store with
  | nil => rfl
  | cons record rest ih =>
    rw [List.foldl_cons, ih, currentState_takeRecord]
    rfl

theorem digests_takeRecords (store : MemoryStore) (records : List DeltaRecord) :
    (store.takeRecords records).digests = store.digests := by
  unfold takeRecords
  induction records.filter DeltaRecord.isUpdate generalizing store with
  | nil => rfl
  | cons record rest ih =>
    rw [List.foldl_cons, ih]
    unfold takeRecord
    split <;> rfl

theorem Fits.takeRecords {store : MemoryStore} (fits : store.Fits) {records : List DeltaRecord}
    (whole : ∀ record ∈ records, record.Fits) : (store.takeRecords records).Fits := by
  have updates : ∀ record ∈ records.filter DeltaRecord.isUpdate, record.Fits :=
    fun record member => whole record (List.mem_filter.mp member).1
  unfold MemoryStore.takeRecords
  generalize records.filter DeltaRecord.isUpdate = updating at updates
  induction updating generalizing store with
  | nil => exact fits
  | cons record rest ih =>
    obtain ⟨here, later⟩ := List.forall_mem_cons.mp updates
    have raised := fits.updateDeviceSeq here.1 record.seq
    rw [List.foldl_cons]
    apply ih _ later
    unfold takeRecord
    split
    · exact raised
    · rename_i locator place
      exact raised.updateLocator here.1 (here.2 locator place)

end MemoryStore

namespace SyncCore

theorem mergeRecord_ofStore (store : MemoryStore) (record : DeltaRecord) :
    mergeRecord (.ofStore store) record = .ok (.ofStore (store.takeRecord record)) := by
  unfold mergeRecord MemoryStore.takeRecord
  rw [Volume.updateDeviceSeq_ofStore]
  cases record.locator with
  | none => rfl
  | some locator => rfl

/-- Over a memory log, merging records cannot fail. -/
theorem mergeRecords_ofStore (store : MemoryStore) (records : List DeltaRecord) :
    mergeRecords (.ofStore store) records = .ok (.ofStore (store.takeRecords records)) := by
  unfold mergeRecords MemoryStore.takeRecords
  induction records.filter DeltaRecord.isUpdate generalizing store with
  | nil => rfl
  | cons record rest ih =>
    rw [List.foldlM_cons, mergeRecord_ofStore, List.foldl_cons]
    exact ih (store.takeRecord record)

/-! ## Outcomes -/

/-- The turn keeps the log and the root as they were. -/
structure Keeps (core : SyncCore) (store : MemoryStore) (turn : SyncTurn) : Prop where
  volume : turn.volume = .ofStore store
  root : turn.core.root = core.root
  running : turn.core.running = core.running
  config : turn.core.config = core.config

/-- The turn records the state of the log and makes its digest the root. -/
structure Adopts (core : SyncCore) (store : MemoryStore) (turn : SyncTurn) : Prop where
  volume : turn.volume = .ofStore store.rememberState.2
  root : turn.core.root = store.rememberState.1
  running : turn.core.running = core.running
  config : turn.core.config = core.config

variable {core : SyncCore} {store : MemoryStore} {now : Instant}

/-- After the state is recorded, both the former root and the new one are known. -/
theorem findDifferences_rememberState {state : Snapshot} {old : Digest}
    (known : store.digests.find? old = some state) (includeOld : Bool) :
    ∃ delta, store.rememberState.2.findDifferences old store.rememberState.1 includeOld =
      .ok delta := by
  have new : store.rememberState.2.digests.find? store.rememberState.1 =
      some store.currentState := by
    rw [MemoryStore.find?_rememberState]
    exact if_pos rfl
  obtain ⟨before, found⟩ : ∃ before, store.rememberState.2.digests.find? old = some before := by
    rw [MemoryStore.find?_rememberState]
    split
    · exact ⟨_, rfl⟩
    · exact ⟨state, known⟩
  exact ⟨_, MemoryStore.findDifferences_of_snapshot (MemoryStore.snapshot_of_find? found)
    (MemoryStore.snapshot_of_find? new) includeOld⟩

theorem adopts_noteMerge {state : Snapshot} (known : store.digests.find? core.root = some state) :
    core.Adopts store (core.noteMerge (.ofStore store) now) := by
  unfold noteMerge
  rw [Volume.rememberState_ofStore]
  simp only [Volume.findDifferences_ofStore]
  split
  · rename_i same
    exact ⟨rfl, same.symm, rfl, rfl⟩
  · obtain ⟨delta, told⟩ := findDifferences_rememberState known true
    rw [told]
    exact ⟨rfl, rfl, rfl, rfl⟩

theorem adopts_noteChange {state : Snapshot} (known : store.digests.find? core.root = some state) :
    core.Adopts store (core.noteChange (.ofStore store) now).2 := by
  unfold noteChange
  rw [Volume.rememberState_ofStore]
  simp only [Volume.findDifferences_ofStore]
  split
  · exact ⟨rfl, rfl, rfl, rfl⟩
  · obtain ⟨delta, told⟩ := findDifferences_rememberState known false
    rw [told]
    exact ⟨rfl, rfl, rfl, rfl⟩

/-- Raising the own number adopts the raised log. -/
theorem adopts_publish {state : Snapshot} (known : store.digests.find? core.root = some state)
    (seq : Seq) :
    core.Adopts (store.updateDeviceSeq core.device seq).2
      (core.publish (.ofStore store) now seq).2 := by
  unfold publish
  rw [Volume.updateDeviceSeq_ofStore]
  exact adopts_noteChange known

/-- An answer with a message adopts the log with its records. -/
theorem adopts_onAnswer {state : Snapshot} (known : store.digests.find? core.root = some state)
    {data : Data} {message : StateMessage} (read : StateMessage.decode data.content = .ok message) :
    core.Adopts (store.takeRecords message.states)
      (core.onAnswer (.ofStore store) now (some data)) := by
  unfold onAnswer
  rw [Option.map_some, read]
  simp only [mergeRecords_ofStore]
  apply adopts_noteMerge
  rw [MemoryStore.digests_takeRecords]
  exact known

/-- An answer is merged, or else it changes nothing. -/
theorem onAnswer_cases (core : SyncCore) {state : Snapshot}
    (known : store.digests.find? core.root = some state) (answer : Option Data) :
    core.Keeps store (core.onAnswer (.ofStore store) now answer) ∨
      ∃ records, core.Adopts (store.takeRecords records)
        (core.onAnswer (.ofStore store) now answer) := by
  cases answer with
  | none => exact Or.inl ⟨rfl, rfl, rfl, rfl⟩
  | some data =>
    cases read : StateMessage.decode data.content with
    | error fault =>
      refine Or.inl ?_
      unfold onAnswer
      rw [Option.map_some, read]
      exact ⟨rfl, rfl, rfl, rfl⟩
    | ok message => exact Or.inr ⟨message.states, adopts_onAnswer known read⟩

theorem keeps_planRecovery (digest : Digest) (actions : List SyncAction) :
    core.Keeps store ⟨(core.planRecovery digest).1, .ofStore store, actions⟩ := by
  unfold planRecovery
  split <;> exact ⟨rfl, rfl, rfl, rfl⟩

theorem keeps_onAdvertisement (name : Name) (digest : Digest) (actions : List SyncAction) :
    core.Keeps store
      ⟨(core.onAdvertisement (.ofStore store) name digest).1, .ofStore store, actions⟩ := by
  unfold onAdvertisement
  split
  · exact ⟨rfl, rfl, rfl, rfl⟩
  · rw [Volume.isKnown_ofStore]
    cases store.isKnown digest with
    | false => exact keeps_planRecovery digest actions
    | true =>
      simp only
      split <;> exact ⟨rfl, rfl, rfl, rfl⟩

/-- An interest changes nothing but what is to be recovered. -/
theorem keeps_onInterest (name : Name) :
    core.Keeps store (core.onInterest (.ofStore store) name) := by
  unfold onInterest
  split
  · exact ⟨rfl, rfl, rfl, rfl⟩
  · exact keeps_onAdvertisement name _ _
  · exact ⟨rfl, rfl, rfl, rfl⟩

theorem keeps_onRecoverDue (digest : Digest) (actions : List SyncAction) :
    core.Keeps store ⟨(core.onRecoverDue (.ofStore store) digest).1, .ofStore store, actions⟩ := by
  unfold onRecoverDue
  split
  · exact ⟨rfl, rfl, rfl, rfl⟩
  · rw [Volume.isKnown_ofStore]
    cases store.isKnown digest <;> exact ⟨rfl, rfl, rfl, rfl⟩

/-- An event keeps the log and the root, or else it adopts the log with some records. -/
theorem handle_cases {state : Snapshot} (known : store.digests.find? core.root = some state)
    (event : SyncEvent) :
    core.Keeps store (core.handle (.ofStore store) now event) ∨
      ∃ records, core.Adopts (store.takeRecords records)
        (core.handle (.ofStore store) now event) := by
  unfold handle
  split
  · cases event with
    | interest name => exact Or.inl (keeps_onInterest name)
    | advertDue => exact Or.inl ⟨rfl, rfl, rfl, rfl⟩
    | advertReply answer =>
      rcases onAnswer_cases { core with advertsInFlight := core.advertsInFlight - 1 } known
        answer with keeps | ⟨records, adopts⟩
      · exact Or.inl ⟨keeps.volume, keeps.root, keeps.running, keeps.config⟩
      · exact Or.inr ⟨records, adopts.volume, adopts.root, adopts.running, adopts.config⟩
    | recoverDue digest => exact Or.inl (keeps_onRecoverDue digest _)
    | recoverReply digest answer =>
      rcases onAnswer_cases (core.dropRecovery digest) known answer with keeps | ⟨records, adopts⟩
      · exact Or.inl ⟨keeps.volume, keeps.root, keeps.running, keeps.config⟩
      · exact Or.inr ⟨records, adopts.volume, adopts.root, adopts.running, adopts.config⟩
  · exact Or.inl ⟨rfl, rfl, rfl, rfl⟩

/-- Answers do not touch what is to be recovered. -/
theorem recoveries_onAnswer (volume : Volume) (answer : Option Data) :
    (core.onAnswer volume now answer).core.recoveries = core.recoveries := by
  unfold onAnswer
  split
  · split
    · rfl
    · unfold noteMerge
      split
      · rfl
      · split
        · rfl
        · split <;> rfl
  · rfl

/-! ## What no turn changes -/

/-- The turn leaves the core with its device and configuration, running or not. -/
structure Steady (core : SyncCore) (turn : SyncTurn) : Prop where
  device : turn.core.device = core.device
  config : turn.core.config = core.config
  running : turn.core.running = core.running

variable {volume : Volume}

theorem steady_noteChange : core.Steady (core.noteChange volume now).2 := by
  unfold noteChange
  split
  · exact ⟨rfl, rfl, rfl⟩
  · dsimp only
    split
    · exact ⟨rfl, rfl, rfl⟩
    · split <;> exact ⟨rfl, rfl, rfl⟩

theorem steady_publish (seq : Seq) : core.Steady (core.publish volume now seq).2 := by
  unfold publish
  split
  · exact ⟨rfl, rfl, rfl⟩
  · exact steady_noteChange

theorem steady_noteMerge : core.Steady (core.noteMerge volume now) := by
  unfold noteMerge
  split
  · exact ⟨rfl, rfl, rfl⟩
  · split
    · exact ⟨rfl, rfl, rfl⟩
    · split <;> exact ⟨rfl, rfl, rfl⟩

theorem steady_onAnswer (answer : Option Data) :
    core.Steady (core.onAnswer volume now answer) := by
  unfold onAnswer
  split
  · split
    · exact ⟨rfl, rfl, rfl⟩
    · exact steady_noteMerge
  · exact ⟨rfl, rfl, rfl⟩

theorem steady_onAdvertisement (name : Name) (digest : Digest) (actions : List SyncAction) :
    core.Steady ⟨(core.onAdvertisement volume name digest).1, volume, actions⟩ := by
  unfold onAdvertisement planRecovery
  split
  · exact ⟨rfl, rfl, rfl⟩
  · split
    · exact ⟨rfl, rfl, rfl⟩
    · split <;> exact ⟨rfl, rfl, rfl⟩
    · split <;> exact ⟨rfl, rfl, rfl⟩

theorem steady_onInterest (name : Name) : core.Steady (core.onInterest volume name) := by
  unfold onInterest
  split
  · exact ⟨rfl, rfl, rfl⟩
  · exact steady_onAdvertisement name _ _
  · exact ⟨rfl, rfl, rfl⟩

theorem steady_onRecoverDue (digest : Digest) (actions : List SyncAction) :
    core.Steady ⟨(core.onRecoverDue volume digest).1, volume, actions⟩ := by
  unfold onRecoverDue
  split
  · exact ⟨rfl, rfl, rfl⟩
  · split <;> exact ⟨rfl, rfl, rfl⟩

theorem steady_handle (event : SyncEvent) : core.Steady (core.handle volume now event) := by
  unfold handle
  split
  · cases event with
    | interest name => exact steady_onInterest name
    | advertDue => exact ⟨rfl, rfl, rfl⟩
    | advertReply answer =>
      obtain ⟨device, config, running⟩ :
          Steady { core with advertsInFlight := core.advertsInFlight - 1 }
            (onAnswer { core with advertsInFlight := core.advertsInFlight - 1 } volume now answer) :=
        steady_onAnswer answer
      exact ⟨device, config, running⟩
    | recoverDue digest => exact steady_onRecoverDue digest _
    | recoverReply digest answer =>
      obtain ⟨device, config, running⟩ : (core.dropRecovery digest).Steady
          ((core.dropRecovery digest).onAnswer volume now answer) := steady_onAnswer answer
      exact ⟨device, config, running⟩
  · exact ⟨rfl, rfl, rfl⟩

end SyncCore

end DigestSync
