import DigestSync.Proofs.Sync.Publishing

set_option autoImplicit false

/-! # Locators are passed on as they are

What a core tells and reports of the places of devices is what its log says, and its log
takes over what others tell.  So if the log and all that the core hears know no device at a
place that is not its own, then this holds of the log that it is left with and of all that
it tells and reports, whatever faults the medium has in between.
-/

namespace DigestSync

variable {home : DeviceId → Name → Prop}

/-! ## Records, data and logs -/

/-- The record can be sent, and a place that it tells is the device's own. -/
structure DeltaRecord.Located (home : DeviceId → Name → Prop) (record : DeltaRecord) : Prop where
  fits : record.Fits
  place : ∀ locator ∈ record.locator, home record.device locator

/-- The data were sent with such records. -/
def Data.Located (home : DeviceId → Name → Prop) (data : Data) : Prop :=
  ∃ records, data.content = (StateMessage.ofStates records).encode ∧
    ∀ record ∈ records, record.Located home

/-- Whoever takes such data finds such records. -/
theorem Data.Located.of_decode {data : Data} (located : data.Located home) {message : StateMessage}
    (read : StateMessage.decode data.content = .ok message) :
    ∀ record ∈ message.states, record.Located home := by
  obtain ⟨records, content, all⟩ := located
  rw [content] at read
  intro record member
  exact all record
    (StateMessage.subset_of_decode (fun other there => (all other there).fits) read member)

namespace MemoryStore

variable {store : MemoryStore} {device : DeviceId}

/-- The lengths of all names can be told in 64 bits, and the log knows no device at a place
that is not its own. -/
structure Located (home : DeviceId → Name → Prop) (store : MemoryStore) : Prop where
  fits : store.Fits
  recorded : ∀ digest state, store.digests.find? digest = some state →
    ∀ entry ∈ state.entries, entry.1.name.Fits
  place : ∀ device locator, store.locator device = some locator → home device locator

theorem located_empty : empty.Located home := ⟨⟨nofun, nofun⟩, nofun, nofun⟩

namespace Located

theorem updateDeviceSeq (located : store.Located home) (fits : device.name.Fits) (seq : Seq) :
    (store.updateDeviceSeq device seq).2.Located home :=
  ⟨located.fits.updateDeviceSeq fits seq, located.recorded, located.place⟩

theorem updateLocator (located : store.Located home) (fits : device.name.Fits) {locator : Name}
    (room : locator.Fits) (own : home device locator) :
    (store.updateLocator device locator).Located home where
  fits := located.fits.updateLocator fits room
  recorded := located.recorded
  place := by
    intro other place found
    unfold MemoryStore.locator MemoryStore.updateLocator at found
    rw [SortedMap.find?_insert] at found
    split at found
    · rename_i same
      cases found
      exact same ▸ own
    · exact located.place other place found

theorem rememberState (located : store.Located home) :
    store.rememberState.2.Located home where
  fits := ⟨located.fits.devices, located.fits.locators⟩
  recorded := by
    intro digest state found
    rw [find?_rememberState] at found
    split at found
    · cases found
      exact fun entry member => located.fits.of_mem_currentState member
    · exact located.recorded digest state found
  place := located.place

/-- The names in every state that is found for a digest fit. -/
theorem of_snapshot (located : store.Located home) {digest : Digest} {state : Snapshot}
    (found : store.snapshot digest = some state) : ∀ entry ∈ state.entries, entry.1.name.Fits := by
  unfold snapshot at found
  split at found
  · rename_i there
    cases found
    exact located.recorded digest state there
  · split at found
    · cases found
      exact nofun
    · cases found

/-- A known difference tells the places that the log says. -/
theorem of_findDifferences (located : store.Located home) {old new : Digest} {includeOld : Bool}
    {records : List DeltaRecord}
    (found : store.findDifferences old new includeOld = .ok records) :
    ∀ record ∈ records, record.Located home := by
  obtain ⟨before, after, first, last, rfl⟩ := exists_of_findDifferences found
  intro record member
  obtain ⟨bare, inside, rfl⟩ := List.mem_map.mp member
  have fits : bare.device.name.Fits := by
    rcases Snapshot.mem_diff.mp inside with ⟨come, there, -, rfl⟩ | ⟨gone, there, -, rfl⟩
    · exact located.of_snapshot last come there
    · exact located.of_snapshot first gone there
  exact ⟨⟨fits, fun locator there => located.fits.of_locator there⟩,
    fun locator there => located.place _ locator there⟩

end Located

end MemoryStore

/-! ## Calls -/

/-- The call brings no name whose lengths 64 bits cannot tell, and no place that is not the
device's own. -/
def StoreCall.Located (home : DeviceId → Name → Prop) : StoreCall → Prop
  | .updateDeviceSeq device _ => device.name.Fits
  | .updateLocator device place => device.name.Fits ∧ place.Fits ∧ home device place
  | _ => True

namespace MemoryStore.Located

variable {store : MemoryStore}

/-- Tasks have no part in it. -/
theorem of_eq {later : MemoryStore} (located : store.Located home) (seqs : later.seqs = store.seqs)
    (known : later.locators = store.locators) (digests : later.digests = store.digests) :
    later.Located home := by
  obtain ⟨⟨devices, places⟩, recorded, place⟩ := located
  refine ⟨⟨seqs ▸ devices, known ▸ places⟩, digests ▸ recorded, ?_⟩
  unfold MemoryStore.locator
  rw [known]
  exact place

theorem mergeTask (located : store.Located home) (task : FetchTask) :
    (store.mergeTask task).2.Located home := by
  unfold MemoryStore.mergeTask
  split <;> exact located.of_eq rfl rfl rfl

theorem deleteTask (located : store.Located home) (key : TaskKey) :
    (store.deleteTask key).2.Located home := located.of_eq rfl rfl rfl

theorem next (located : store.Located home) {call : StoreCall} (allowed : call.Located home) :
    (store.next call).Located home := by
  unfold MemoryStore.next MemoryStore.take
  cases call with
  | updateDeviceSeq device seq => exact located.updateDeviceSeq allowed seq
  | updateLocator device place => exact located.updateLocator allowed.1 allowed.2.1 allowed.2.2
  | rememberState => exact located.rememberState
  | saveTask task =>
    simp only [MemoryStore.saveTask]
    split <;> exact located.of_eq rfl rfl rfl
  | mergeTask task => exact located.mergeTask task
  | deleteTask key => exact located.deleteTask key
  | findDifferences old new includeOld =>
    cases found : store.findDifferences old new includeOld with
    | error fault => simpa only [found] using located
    | ok records => simpa only [found] using located
  | deviceSeq device => exact located
  | locator device => exact located
  | currentState => exact located
  | isKnown digest => exact located
  | snapshot digest => exact located
  | hasTask key => exact located
  | listTasks => exact located

end MemoryStore.Located

/-! ## Volumes -/

namespace Volume

variable {volume next : Volume}

/-- A change that succeeds is made to the store. -/
theorem store_of_change {α : Type} {action : MemoryStore → α × MemoryStore} {answer : α}
    (changed : volume.change action = .ok (answer, next)) :
    next.store = (action volume.store).2 := by
  unfold change at changed
  split at changed
  · cases changed
  · cases changed
    rfl

theorem store_findDifferences {old new : Digest} {includeOld : Bool} {records : List DeltaRecord}
    (found : volume.findDifferences old new includeOld = .ok records) :
    volume.store.findDifferences old new includeOld = .ok records := by
  unfold findDifferences ask at found
  cases stands : volume.fault with
  | some fault =>
    rw [stands] at found
    cases found
  | none =>
    rw [stands] at found
    exact found

end Volume

namespace SyncCore

variable {core : SyncCore} {volume next : Volume} {now : Instant}

theorem located_mergeRecord (located : volume.store.Located home) {record : DeltaRecord}
    (sent : record.Located home) (merged : mergeRecord volume record = .ok next) :
    next.store.Located home := by
  unfold mergeRecord at merged
  split at merged
  · cases merged
  · rename_i seq raised updated
    have risen : raised.store.Located home := by
      rw [Volume.store_of_change updated]
      exact located.updateDeviceSeq sent.fits.1 record.seq
    split at merged
    · cases merged
      exact risen
    · rename_i locator told
      split at merged
      · cases merged
      · rename_i answer placed
        cases merged
        rw [Volume.store_of_change placed]
        exact risen.updateLocator sent.fits.1 (sent.fits.2 locator told) (sent.place locator told)

theorem located_mergeRecords (located : volume.store.Located home) {records : List DeltaRecord}
    (sent : ∀ record ∈ records, record.Located home)
    (merged : mergeRecords volume records = .ok next) : next.store.Located home := by
  have updates : ∀ record ∈ records.filter DeltaRecord.isUpdate, record.Located home :=
    fun record member => sent record (List.mem_filter.mp member).1
  unfold mergeRecords at merged
  generalize records.filter DeltaRecord.isUpdate = updating at updates merged
  induction updating generalizing volume with
  | nil =>
    cases merged
    exact located
  | cons record rest ih =>
    obtain ⟨here, later⟩ := List.forall_mem_cons.mp updates
    rw [List.foldlM_cons] at merged
    cases first : mergeRecord volume record with
    | error fault =>
      rw [first] at merged
      cases merged
    | ok middle =>
      rw [first] at merged
      exact ih (located_mergeRecord located here first) later merged

end SyncCore

/-! ## Turns -/

/-- The turn leaves the log, tells and reports with no device at a place that is not its own,
and all that it tells has a name of the group's. -/
structure SyncTurn.Located (home : DeviceId → Name → Prop) (group : Name) (turn : SyncTurn) :
    Prop where
  store : turn.volume.store.Located home
  reported : ∀ record ∈ turn.reported, record.Located home
  told : ∀ data ∈ turn.told, group.isPrefixOf data.name = true ∧ data.Located home

namespace SyncName

variable {group name : Name} {saying : SyncName}

/-- Only a name of the group's says something. -/
theorem isPrefixOf_of_ofName (heard : ofName group name = .ok saying) :
    group.isPrefixOf name = true := by
  rw [ofName_eq_ok_iff.mp heard]
  exact isPrefixOf_toName group saying

end SyncName

namespace SyncCore

variable {core : SyncCore} {volume : Volume} {now : Instant} {group : Name}

/-- A turn that neither tells nor reports anything. -/
theorem located_of_silent {turn : SyncTurn} (store : turn.volume.store.Located home)
    (reported : turn.reported = []) (told : turn.told = []) : turn.Located home group := by
  refine ⟨store, ?_, ?_⟩
  · rw [reported]
    exact nofun
  · rw [told]
    exact nofun

/-- A turn that replies with a known difference. -/
theorem located_reply (store : volume.store.Located home) {old new : Digest}
    {records : List DeltaRecord} (found : volume.findDifferences old new false = .ok records)
    (speaker next : SyncCore) {name : Name} (named : group.isPrefixOf name = true) :
    (SyncTurn.mk next volume (speaker.reply name records)).Located home group := by
  refine ⟨store, ?_, ?_⟩
  · unfold SyncTurn.reported reply
    dsimp only
    split <;> exact nofun
  · intro data member
    obtain ⟨-, rfl⟩ := mem_told_reply.mp member
    exact ⟨named, records, rfl, store.of_findDifferences (Volume.store_findDifferences found)⟩

theorem located_onAdvertisement (store : volume.store.Located home) {name : Name}
    (named : group.isPrefixOf name = true) (digest : Digest) :
    (SyncTurn.mk (core.onAdvertisement volume name digest).1 volume
      (core.onAdvertisement volume name digest).2).Located home group := by
  unfold onAdvertisement
  split
  · exact located_of_silent store rfl rfl
  · split
    · exact located_of_silent store rfl rfl
    · unfold planRecovery
      split <;> exact located_of_silent store rfl rfl
    · split
      · exact located_of_silent store rfl rfl
      · rename_i found
        exact located_reply store found core core named

theorem located_onInterest (store : volume.store.Located home) (name : Name) :
    (core.onInterest volume name).Located home core.config.group := by
  unfold onInterest
  split
  · exact located_of_silent store rfl rfl
  · rename_i heard
    exact located_onAdvertisement store (SyncName.isPrefixOf_of_ofName heard) _
  · rename_i heard
    unfold onRecoveryRequest
    split
    · split
      · rename_i found
        exact located_reply store found core core (SyncName.isPrefixOf_of_ofName heard)
      · exact located_of_silent store rfl rfl
    · exact located_of_silent store rfl rfl

theorem located_onRecoverDue (store : volume.store.Located home) (digest : Digest) :
    (SyncTurn.mk (core.onRecoverDue volume digest).1 volume
      (core.onRecoverDue volume digest).2).Located home group := by
  unfold onRecoverDue
  split
  · exact located_of_silent store rfl rfl
  · split <;> exact located_of_silent store rfl rfl

/-- What an answer changes is reported as the log says it. -/
theorem located_noteMerge (store : volume.store.Located home) :
    (core.noteMerge volume now).Located home group := by
  unfold noteMerge
  split
  · exact located_of_silent store rfl rfl
  · rename_i root noted recorded
    have remembered : noted.store.Located home := by
      rw [Volume.store_of_change recorded]
      exact store.rememberState
    split
    · exact located_of_silent remembered rfl rfl
    · split
      · exact located_of_silent remembered rfl rfl
      · rename_i delta found
        have known := remembered.of_findDifferences (Volume.store_findDifferences found)
        refine ⟨remembered, ?_, ?_⟩
        · intro record member
          unfold SyncTurn.reported at member
          dsimp only at member
          split at member
          · cases member
          · simp only [advertise, List.flatMap_cons, List.flatMap_nil, SyncAction.reported,
              List.append_nil] at member
            exact known record member
        · unfold SyncTurn.told
          dsimp only
          split <;> exact nofun

theorem located_onAnswer (store : volume.store.Located home) {answer : Option Data}
    (heard : ∀ data ∈ answer, data.Located home) :
    (core.onAnswer volume now answer).Located home group := by
  unfold onAnswer
  split
  · rename_i message read
    obtain ⟨data, there, decoded⟩ := Option.map_eq_some_iff.mp read
    split
    · exact located_of_silent store rfl rfl
    · rename_i merged
      exact located_noteMerge
        (located_mergeRecords store ((heard data there).of_decode decoded) merged)
  · exact located_of_silent store rfl rfl

theorem located_noteChange (store : volume.store.Located home) :
    (core.noteChange volume now).2.Located home core.config.group := by
  unfold noteChange
  split
  · exact located_of_silent store rfl rfl
  · rename_i root noted recorded
    have remembered : noted.store.Located home := by
      rw [Volume.store_of_change recorded]
      exact store.rememberState
    dsimp only
    split
    · exact located_of_silent remembered rfl rfl
    · split
      · exact located_of_silent remembered rfl rfl
      · rename_i found
        exact located_reply remembered found core _ (SyncName.isPrefixOf_toName _ _)

theorem located_publish (store : volume.store.Located home) (fits : core.device.name.Fits)
    (seq : Seq) : (core.publish volume now seq).2.Located home core.config.group := by
  unfold publish
  split
  · exact located_of_silent store rfl rfl
  · rename_i updated
    apply located_noteChange
    rw [Volume.store_of_change updated]
    exact store.updateDeviceSeq fits seq

theorem located_handle (store : volume.store.Located home) {event : SyncEvent}
    (heard : ∀ data ∈ event.answer?, data.Located home) :
    (core.handle volume now event).Located home core.config.group := by
  unfold handle
  split
  · cases event with
    | interest name => exact located_onInterest store name
    | advertDue => exact located_of_silent store rfl rfl
    | advertReply answer => exact located_onAnswer store heard
    | recoverDue digest => exact located_onRecoverDue store digest
    | recoverReply digest answer => exact located_onAnswer store heard
  · exact located_of_silent store rfl rfl

end SyncCore

end DigestSync
