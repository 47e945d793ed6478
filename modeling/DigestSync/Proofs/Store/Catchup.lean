import DigestSync.Proofs.Store.DigestLog

set_option autoImplicit false

/-! # Catching up by a delta

Numbers only grow, so a known state lies below the current one, and what leads from the one to the
other are updates that raise numbers.  A receiver gets to the join with the current state by merging
them if it has once reached the known state, however far it has moved on since.
-/

namespace DigestSync

open scoped SeqOrder

namespace Snapshot

variable {old new : Snapshot} {includeOld : Bool} {record : DeltaRecord}

/-! ## Rising -/

/-- What leads from a snapshot to one above it raises numbers, and drops no device. -/
theorem isUpdate_of_mem_diff (rising : old ≤ new) (member : record ∈ old.diff new includeOld) :
    record.isUpdate = true ∧ old.seqOf record.device < record.seq := by
  rcases mem_diff.mp member with
    ⟨⟨device, seq⟩, come, differs, rfl⟩ | ⟨⟨device, seq⟩, gone, absent, rfl⟩
  · have number : new.seqOf device = seq := seqOf_of_mem come
    have upTo : old.seqOf device ≤ seq := number ▸ rising device
    refine ⟨rfl, lt_of_le_of_ne upTo fun same => differs ?_⟩
    have listed : old.get? device = some (old.seqOf device) := by
      rw [get?_eq, if_neg (same ▸ new.nonzero _ come)]
    exact listed.trans (congrArg some same)
  · -- The device would have lost its number.
    have lost : new.seqOf device = 0 := congrArg (Option.getD · 0) absent
    have number : old.seqOf device = seq := seqOf_of_mem gone
    have least : seq ≤ 0 := number ▸ lost ▸ rising device
    exact absurd (le_antisymm least (zero_le_seq _)) (old.nonzero _ gone)

/-- The numbers that records tell are those of the updates if there are no other records. -/
theorem updatesOf_of_forall {records : List DeltaRecord}
    (updates : ∀ record ∈ records, record.isUpdate = true) :
    updatesOf records = records.map fun record => (record.device, record.seq) := by
  rw [updatesOf, List.filter_eq_self.mpr updates]

end Snapshot

namespace MemoryStore

/-- After any calls, what leads from a known digest to the state just recorded are updates beyond
the known state, and merging them takes any receiver that is not behind that state to the join with
the current one. -/
theorem delta_suffices (calls : List StoreCall) {known : Digest} :
    let store := calls.foldl MemoryStore.next .empty
    let log := store.rememberState.2
    log.isKnown known = true →
      ∃ before records, log.snapshot known = some before ∧
        log.findDifferences known store.rememberState.1 false = .ok records ∧
        (∀ record ∈ records, record.kind = .update ∧ before.seqOf record.device < record.seq) ∧
        ∀ receiver : Snapshot, (∀ device, before.seqOf device ≤ receiver.seqOf device) →
          ∀ device,
            (receiver.mergeAll (records.map fun record => (record.device, record.seq))).seqOf
                device =
              max (receiver.seqOf device) (log.currentState.seqOf device) := by
  intro store log isKnown
  have sound : log.LogSound := (logSound_foldl_next calls).remember
  rw [isKnown_eq_isSome] at isKnown
  obtain ⟨before, found⟩ := Option.isSome_iff_exists.mp isKnown
  have rising : before ≤ log.currentState := sound.below_of_snapshot found
  have recorded : log.snapshot store.rememberState.1 = some log.currentState :=
    snapshot_of_find? (by rw [find?_rememberState]; exact if_pos rfl)
  have told := findDifferences_of_snapshot found recorded false
  have updates : ∀ record ∈ before.diff log.currentState false,
      record.isUpdate = true ∧ before.seqOf record.device < record.seq :=
    fun record => Snapshot.isUpdate_of_mem_diff rising
  refine ⟨before, _, found, told, ?_, ?_⟩
  · intro record member
    obtain ⟨bare, inside, rfl⟩ := List.mem_map.mp member
    obtain ⟨isUpdate, raised⟩ := updates bare inside
    exact ⟨of_decide_eq_true isUpdate, raised⟩
  · intro receiver ahead device
    rw [List.map_map]
    change (receiver.mergeAll ((before.diff log.currentState false).map fun record =>
      (record.device, record.seq))).seqOf device = _
    rw [← Snapshot.updatesOf_of_forall fun record member => (updates record member).1,
      Snapshot.mergeAll_updatesOf_diff ahead, Snapshot.seqOf_sup]

/-- A number is recorded, then another device's comes in and the first one rises. -/
def risingCalls : List StoreCall :=
  [.updateDeviceSeq ⟨.ofTexts ["a"]⟩ 5, .updateDeviceSeq ⟨.ofTexts ["b"]⟩ 2, .rememberState,
    .updateLocator ⟨.ofTexts ["a"]⟩ (.ofTexts ["x"]), .updateDeviceSeq ⟨.ofTexts ["c"]⟩ 1,
    .updateDeviceSeq ⟨.ofTexts ["a"]⟩ 9]

/-- The recorded state. -/
def reached : Snapshot := (Snapshot.empty.merge ⟨.ofTexts ["a"]⟩ 5).merge ⟨.ofTexts ["b"]⟩ 2

/-- A receiver that knows more of one device, and of another one, reaches the join. -/
theorem delta_suffices_moved_on :
    let receiver := (reached.merge ⟨.ofTexts ["a"]⟩ 12).merge ⟨.ofTexts ["d"]⟩ 4
    let log := (risingCalls.foldl MemoryStore.next .empty).rememberState.2
    ∃ records : List DeltaRecord, records.map (·.device) = [⟨.ofTexts ["a"]⟩, ⟨.ofTexts ["c"]⟩] ∧
      ∀ device,
        (receiver.mergeAll (records.map fun record => (record.device, record.seq))).seqOf device =
          max (receiver.seqOf device) (log.currentState.seqOf device) := by
  intro receiver log
  have here : log.snapshot reached.digest = some reached := by decide +kernel
  have isKnown : log.isKnown reached.digest = true := by rw [isKnown_eq_isSome, here]; rfl
  obtain ⟨before, records, found, told, -, joins⟩ := delta_suffices risingCalls isKnown
  cases here.symm.trans found
  refine ⟨records, ?_, joins receiver fun device => ?_⟩
  · have answered : (log.findDifferences reached.digest
        (risingCalls.foldl MemoryStore.next .empty).rememberState.1 false).toOption.map
          (List.map (·.device)) = some [⟨.ofTexts ["a"]⟩, ⟨.ofTexts ["c"]⟩] := by decide +kernel
    rw [told] at answered
    exact Option.some.inj answered
  · exact (Snapshot.le_merge reached _ 12 device).trans (Snapshot.le_merge _ _ 4 device)

end MemoryStore

end DigestSync
