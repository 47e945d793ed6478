import DigestSync.Proofs.Data.Keyed
import DigestSync.Proofs.Delta

set_option autoImplicit false

/-! # Replaying a delta

A delta has one record for each device that two snapshots list differently, and no other.  Replaying
it literally sets or drops each of these devices, which leaves the newer snapshot because a snapshot
lists no zero.  The delta of the other direction has the same devices in the same order, with the
two numbers of each exchanged.
-/

namespace DigestSync

/-- The record of the other direction: its two numbers change places, and a device that had none
before has none after. -/
def DeltaRecord.mirror (record : DeltaRecord) : DeltaRecord :=
  let old := record.oldSeq.getD 0
  ⟨record.device, if old = 0 then .delete else .update, old, some record.seq, record.locator⟩

/-- What a device is listed with once the record is replayed. -/
def DeltaRecord.result? (record : DeltaRecord) : Option Seq :=
  if record.kind = .update ∧ record.seq ≠ 0 then some record.seq else none

namespace Snapshot

/-- The older number that the record of a device tells on request, zero if there was none. -/
def toldSeq? (includeOld : Bool) (old : Snapshot) (device : DeviceId) : Option Seq :=
  if includeOld then some (old.seqOf device) else none

/-- The record of a device, unless both snapshots list it alike. -/
def recordOf? (includeOld : Bool) (old new : Snapshot) (device : DeviceId) : Option DeltaRecord :=
  if old.get? device = new.get? device then none
  else
    match new.get? device with
    | some seq => some (.update device seq (toldSeq? includeOld old device))
    | none => some (.delete device (toldSeq? includeOld old device))

variable {old new : Snapshot} {includeOld : Bool} {device : DeviceId} {record : DeltaRecord}

/-! ## One record a device -/

theorem recordOf?_eq_some_iff :
    recordOf? includeOld old new device = some record ↔
      (∃ seq, new.get? device = some seq ∧ old.get? device ≠ some seq ∧
        record = .update device seq (toldSeq? includeOld old device)) ∨
      new.get? device = none ∧ old.get? device ≠ none ∧
        record = .delete device (toldSeq? includeOld old device) := by
  unfold recordOf?
  cases after : new.get? device with
  | some seq =>
    by_cases same : old.get? device = some seq
    · simp [same]
    · simp [same, eq_comm (b := record)]
  | none =>
    by_cases same : old.get? device = none
    · simp [same]
    · simp [same, eq_comm (b := record)]

theorem recordOf?_eq_none_iff :
    recordOf? includeOld old new device = none ↔ old.get? device = new.get? device := by
  unfold recordOf?
  split
  · rename_i same
    exact iff_of_true rfl same
  · rename_i differs
    refine iff_of_false (fun none => ?_) differs
    split at none <;> cases none

theorem deleteOf_eq {gone : DeviceId × Seq} (member : gone ∈ old.entries) :
    deleteOf includeOld gone = .delete gone.1 (toldSeq? includeOld old gone.1) := by
  rw [deleteOf, toldSeq?, seqOf_of_mem member]

theorem device_of_recordOf? (found : recordOf? includeOld old new device = some record) :
    record.device = device := by
  rcases recordOf?_eq_some_iff.mp found with ⟨seq, -, -, rfl⟩ | ⟨-, -, rfl⟩ <;> rfl

/-- The delta has exactly the records of the devices that differ. -/
theorem mem_diff_iff_recordOf? :
    record ∈ old.diff new includeOld ↔
      recordOf? includeOld old new record.device = some record := by
  rw [mem_diff, recordOf?_eq_some_iff]
  constructor
  · rintro (⟨come, member, differs, rfl⟩ | ⟨gone, member, absent, rfl⟩)
    · exact Or.inl ⟨come.2, get?_eq_some_iff.mpr member, differs, rfl⟩
    · have listed : old.get? gone.1 = some gone.2 := get?_eq_some_iff.mpr member
      refine Or.inr ⟨absent, ?_, deleteOf_eq member⟩
      exact Option.ne_none_iff_exists'.mpr ⟨gone.2, listed⟩
  · rintro (⟨seq, listed, differs, told⟩ | ⟨absent, listed, told⟩)
    · exact Or.inl ⟨(record.device, seq), get?_eq_some_iff.mp listed, differs, told⟩
    · obtain ⟨seq, listed⟩ := Option.ne_none_iff_exists'.mp listed
      have member := get?_eq_some_iff.mp listed
      exact Or.inr ⟨(record.device, seq), member, absent, told.trans (deleteOf_eq member).symm⟩

theorem find?_diff (old new : Snapshot) (includeOld : Bool) (device : DeviceId) :
    (old.diff new includeOld).find? (fun record => record.device = device) =
      recordOf? includeOld old new device := by
  refine Option.ext fun record => ?_
  rw [find?_key_eq_some_iff (nodup_device_diff old new includeOld), mem_diff_iff_recordOf?]
  constructor
  · rintro ⟨found, rfl⟩
    exact found
  · intro found
    have same := device_of_recordOf? found
    exact ⟨same ▸ found, same⟩

/-! ## Replay -/

theorem get?_applyRecord (snapshot : Snapshot) (record : DeltaRecord) (other : DeviceId) :
    (snapshot.applyRecord record).get? other =
      if other = record.device then record.result? else snapshot.get? other := by
  unfold applyRecord DeltaRecord.result?
  by_cases positive : record.seq ≠ 0
  · rw [dif_pos positive]
    cases kind : record.kind with
    | update => simp [get?_set, positive]
    | delete => simp [get?_erase]
  · rw [dif_neg positive, get?_erase, if_neg (c := record.kind = .update ∧ record.seq ≠ 0)]
    exact fun both => positive both.2

/-- Records of distinct devices are replayed independently of each other. -/
theorem get?_apply (snapshot : Snapshot) {records : List DeltaRecord}
    (distinct : (records.map (·.device)).Nodup) (device : DeviceId) :
    (snapshot.apply records).get? device =
      match records.find? fun record => record.device = device with
      | some record => record.result?
      | none => snapshot.get? device := by
  induction records generalizing snapshot with
  | nil => rfl
  | cons record rest ih =>
    obtain ⟨fresh, later⟩ := List.nodup_cons.mp distinct
    rw [apply, List.foldl_cons, ← apply, ih (snapshot.applyRecord record) later,
      get?_applyRecord]
    by_cases here : record.device = device
    · -- No later record is of the device.
      have none : rest.find? (fun other => other.device = device) = none := by
        apply List.find?_eq_none.mpr
        intro other member same
        have same : other.device = device := of_decide_eq_true same
        exact fresh (List.mem_map.mpr ⟨other, member, same.trans here.symm⟩)
      simp [none, here]
    · simp [here, Ne.symm here]

theorem result?_recordOf? (found : recordOf? includeOld old new device = some record) :
    record.result? = new.get? device := by
  rcases recordOf?_eq_some_iff.mp found with ⟨seq, listed, -, rfl⟩ | ⟨absent, -, rfl⟩
  · have positive : seq ≠ 0 := new.nonzero _ (get?_eq_some_iff.mp listed)
    rw [listed]
    exact if_pos ⟨rfl, positive⟩
  · rw [absent]
    rfl

/-- Replaying the records between two snapshots leads from the one to the other. -/
theorem apply_diff (old new : Snapshot) (includeOld : Bool) :
    old.apply (old.diff new includeOld) = new := by
  refine eq_of_seqs (SortedMap.ext_find? fun device => ?_)
  change (old.apply (old.diff new includeOld)).get? device = new.get? device
  rw [get?_apply old (nodup_device_diff old new includeOld), find?_diff]
  cases found : recordOf? includeOld old new device with
  | some record => exact result?_recordOf? found
  | none => exact recordOf?_eq_none_iff.mp found

/-! ## The other direction -/

theorem recordOf?_mirror (old new : Snapshot) (device : DeviceId) :
    recordOf? true new old device = (recordOf? true old new device).map DeltaRecord.mirror := by
  cases before : old.get? device with
  | none =>
    cases after : new.get? device with
    | none => simp [recordOf?, before, after]
    | some seq =>
      simp [recordOf?, toldSeq?, seqOf, before, after, DeltaRecord.mirror, DeltaRecord.update,
        DeltaRecord.delete]
  | some seq =>
    have positive : seq ≠ 0 := old.nonzero _ (get?_eq_some_iff.mp before)
    cases after : new.get? device with
    | none =>
      simp [recordOf?, toldSeq?, seqOf, before, after, positive, DeltaRecord.mirror,
        DeltaRecord.update, DeltaRecord.delete]
    | some other =>
      by_cases same : seq = other
      · simp [recordOf?, before, after, same]
      · simp [recordOf?, toldSeq?, seqOf, before, after, same, Ne.symm same, positive,
          DeltaRecord.mirror, DeltaRecord.update]

/-- The delta of the other direction has the mirrored records. -/
theorem diff_mirror (old new : Snapshot) :
    new.diff old true = (old.diff new true).map DeltaRecord.mirror := by
  have ascending : ((old.diff new true).map DeltaRecord.mirror).Pairwise fun early late =>
      compare early.device late.device = .lt :=
    List.pairwise_map.mpr (pairwise_diff old new true)
  have distinct : (((old.diff new true).map DeltaRecord.mirror).map (·.device)).Nodup :=
    List.pairwise_map.mpr (ascending.imp fun less => ne_of_lt less)
  have perm : (new.diff old true).Perm ((old.diff new true).map DeltaRecord.mirror) := by
    apply (List.perm_ext_iff_of_nodup (nodup_device_diff new old true).of_map distinct.of_map).mpr
    intro record
    rw [mem_diff_iff_recordOf?, recordOf?_mirror, List.mem_map]
    simp only [Option.map_eq_some_iff, mem_diff_iff_recordOf?]
    constructor
    · rintro ⟨forward, found, rfl⟩
      exact ⟨forward, found, rfl⟩
    · rintro ⟨forward, found, rfl⟩
      exact ⟨forward, found, rfl⟩
  refine List.Perm.eq_of_pairwise (fun one other _ _ less greater => ?_)
    (pairwise_diff new old true) ascending perm
  exact absurd greater (Std.OrientedCmp.not_lt_of_lt less)

/-- What leads from a snapshot to another one is what two passes over their entries find, sorted by
device.  It is strictly ascending, and for each device it has the one record that tells how the two
list it, and none if they list it alike.  Replaying it on the one gives the other, and the delta
back has the same devices in the same order with their numbers exchanged. -/
theorem diff_exact_replayable_mirrored (old new : Snapshot) (includeOld : Bool) :
    old.diff new includeOld =
        ((passes includeOld old new old.entries new.entries).mergeSort fun left right =>
          (compare left.device right.device).isLE) ∧
      ((old.diff new includeOld).Pairwise fun early late =>
        compare early.device late.device = .lt) ∧
      (∀ device, (old.diff new includeOld).filter (fun record => record.device = device) =
        (recordOf? includeOld old new device).toList) ∧
      old.apply (old.diff new includeOld) = new ∧
      new.diff old true = (old.diff new true).map DeltaRecord.mirror := by
  refine ⟨(mergeSort_passes (.refl _) (.refl _)).symm, pairwise_diff old new includeOld, ?_,
    apply_diff old new includeOld, diff_mirror old new⟩
  intro device
  rw [filter_key_eq_find? (nodup_device_diff old new includeOld), find?_diff]

end Snapshot

end DigestSync
