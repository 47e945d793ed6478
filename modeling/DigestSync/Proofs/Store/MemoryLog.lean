import DigestSync.Proofs.Cbor.Forms
import DigestSync.Proofs.Join
import DigestSync.Store.Volume

set_option autoImplicit false

/-! # The digest log of a memory store

Taking note of a number merges it into the current state, and locators play no part in
it.  A log is sound if every state is recorded under its own digest and lies below the
current state: it stays so when the state rises and when it is recorded.
-/

namespace DigestSync

namespace MemoryStore

variable {store next : MemoryStore} {digest : Digest}

/-! ## The current state -/

theorem seqOf_currentState (store : MemoryStore) (device : DeviceId) :
    store.currentState.seqOf device = (store.seqs.find? device).getD 0 :=
  Snapshot.seqOf_ofMap store.seqs device

theorem currentState_updateDeviceSeq (store : MemoryStore) (device : DeviceId) (seq : Seq) :
    (store.updateDeviceSeq device seq).2.currentState = store.currentState.merge device seq := by
  apply Snapshot.ext_seqOf
  intro other
  rw [Snapshot.seqOf_merge, seqOf_currentState, seqOf_currentState, seqOf_currentState]
  unfold updateDeviceSeq deviceSeq
  rw [SortedMap.find?_insert]
  by_cases here : other = device
  · rw [if_pos here, if_pos here]
    rfl
  · rw [if_neg here, if_neg here]

theorem currentState_updateLocator (store : MemoryStore) (device : DeviceId) (locator : Name) :
    (store.updateLocator device locator).currentState = store.currentState := by
  apply Snapshot.ext_seqOf
  intro other
  rw [seqOf_currentState, seqOf_currentState]
  unfold updateLocator deviceSeq
  rw [SortedMap.find?_insert]
  by_cases here : other = device
  · rw [if_pos here, here]
    rfl
  · rw [if_neg here]

/-! ## Sound logs -/

/-- Every state is recorded under its own digest and lies below the current state. -/
structure LogSound (store : MemoryStore) : Prop where
  digest_eq : ∀ digest state, store.digests.find? digest = some state → state.digest = digest
  below : ∀ digest state, store.digests.find? digest = some state → state ≤ store.currentState

theorem logSound_empty : MemoryStore.empty.LogSound := ⟨nofun, nofun⟩

theorem LogSound.rise (sound : store.LogSound) (same : next.digests = store.digests)
    (rising : store.currentState ≤ next.currentState) : next.LogSound where
  digest_eq := by
    rw [same]
    exact sound.digest_eq
  below := by
    rw [same]
    exact fun digest state found => le_trans (sound.below digest state found) rising

theorem find?_rememberState (store : MemoryStore) (digest : Digest) :
    store.rememberState.2.digests.find? digest =
      if digest = store.currentState.digest then some store.currentState
      else store.digests.find? digest := by
  unfold rememberState
  rw [SortedMap.find?_insert]

theorem LogSound.remember (sound : store.LogSound) : store.rememberState.2.LogSound where
  digest_eq := by
    intro digest state found
    rw [find?_rememberState] at found
    split at found
    · rename_i here
      cases found
      exact here.symm
    · exact sound.digest_eq digest state found
  below := by
    intro digest state found
    rw [find?_rememberState] at found
    split at found
    · cases found
      exact le_refl _
    · exact sound.below digest state found

/-! ## Reading the log -/

theorem snapshot_of_find? {state : Snapshot} (found : store.digests.find? digest = some state) :
    store.snapshot digest = some state := by
  unfold snapshot
  rw [found]

/-- A digest is known if there is a state for it. -/
theorem isKnown_eq_isSome (store : MemoryStore) (digest : Digest) :
    store.isKnown digest = (store.snapshot digest).isSome := by
  unfold isKnown snapshot SortedMap.contains
  cases store.digests.find? digest <;> cases digest.isOrigin <;> rfl

/-- What is found for a digest has this digest, be it recorded or the empty state. -/
theorem LogSound.digest_of_snapshot (sound : store.LogSound) {state : Snapshot}
    (found : store.snapshot digest = some state) : state.digest = digest := by
  unfold snapshot at found
  split at found
  · rename_i recorded inside
    cases found
    exact sound.digest_eq digest state inside
  · split at found
    · rename_i origin
      cases found
      exact (eq_of_beq origin).symm
    · cases found

/-- What is found for a digest lies below the current state. -/
theorem LogSound.below_of_snapshot (sound : store.LogSound) {state : Snapshot}
    (found : store.snapshot digest = some state) : state ≤ store.currentState := by
  unfold snapshot at found
  split at found
  · rename_i recorded inside
    cases found
    exact sound.below digest state inside
  · split at found
    · cases found
      exact Snapshot.empty_le _
    · cases found

/-- The records between two known states, each with the device's present locator. -/
theorem findDifferences_of_snapshot {old new : Digest} {before after : Snapshot}
    (foundOld : store.snapshot old = some before) (foundNew : store.snapshot new = some after)
    (includeOld : Bool) :
    store.findDifferences old new includeOld =
      .ok ((before.diff after includeOld).map fun record =>
        { record with locator := store.locator record.device }) := by
  unfold findDifferences
  simp only [foundOld, foundNew]

/-! ## Lengths -/

/-- The lengths of all names in the store can be told in 64 bits. -/
structure Fits (store : MemoryStore) : Prop where
  devices : ∀ entry ∈ store.seqs.entries, entry.1.name.Fits
  locators : ∀ entry ∈ store.locators.entries, entry.2.Fits

theorem Fits.updateDeviceSeq (fits : store.Fits) {device : DeviceId} (own : device.name.Fits)
    (seq : Seq) : (store.updateDeviceSeq device seq).2.Fits where
  devices := by
    intro entry member
    rcases SortedMap.mem_insert_iff.mp member with rfl | ⟨old, -⟩
    · exact own
    · exact fits.devices entry old
  locators := fits.locators

theorem Fits.updateLocator (fits : store.Fits) {device : DeviceId} (own : device.name.Fits)
    {locator : Name} (place : locator.Fits) : (store.updateLocator device locator).Fits where
  devices := by
    intro entry member
    rcases SortedMap.mem_insert_iff.mp member with rfl | ⟨old, -⟩
    · exact own
    · exact fits.devices entry old
  locators := by
    intro entry member
    rcases SortedMap.mem_insert_iff.mp member with rfl | ⟨old, -⟩
    · exact place
    · exact fits.locators entry old

theorem Fits.of_mem_currentState (fits : store.Fits) {entry : DeviceId × Seq}
    (member : entry ∈ store.currentState.entries) : entry.1.name.Fits :=
  fits.devices entry (Snapshot.mem_entries_ofMap.mp member).1

theorem Fits.of_locator (fits : store.Fits) {device : DeviceId} {locator : Name}
    (found : store.locator device = some locator) : locator.Fits :=
  fits.locators (device, locator) (SortedMap.find?_eq_some_iff.mp found)

end MemoryStore

end DigestSync
