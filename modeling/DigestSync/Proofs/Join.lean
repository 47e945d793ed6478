import DigestSync.Proofs.Delta
import DigestSync.Proofs.Snapshot
import Mathlib.Data.List.Perm.Subperm
import Mathlib.Order.Bounds.Basic
import Mathlib.Order.Lattice

set_option autoImplicit false

/-! # Joining snapshots

A snapshot lies below another one if it gives no device a higher number.  Merging the
entries of a snapshot into another one gives the least snapshot above both.  Whoever is
not behind the older of two snapshots gets there by merging the updates that lead from
the older to the newer one; deletions play no part.
-/

namespace DigestSync

open scoped SeqOrder

namespace Snapshot

variable {left right : Snapshot}

/-! ## The order of snapshots -/

/-- Snapshots are ordered by the numbers that they give the devices. -/
instance partialOrder : PartialOrder Snapshot where
  le left right := ∀ device, left.seqOf device ≤ right.seqOf device
  le_refl _ _ := le_refl _
  le_trans _ _ _ below above device := le_trans (below device) (above device)
  le_antisymm _ _ below above := ext_seqOf fun device => le_antisymm (below device) (above device)

theorem zero_le_seq (seq : Seq) : 0 ≤ seq := UInt64.le_iff_toNat_le.mpr (Nat.zero_le _)

theorem empty_le (snapshot : Snapshot) : empty ≤ snapshot := fun _ => zero_le_seq _

/-- Merging all entries of a snapshot gives each device the higher of the two numbers. -/
theorem seqOf_mergeAll_entries (left right : Snapshot) (device : DeviceId) :
    (left.mergeAll right.entries).seqOf device = max (left.seqOf device) (right.seqOf device) := by
  cases found : right.get? device with
  | some seq =>
    have listed := get?_eq_some_iff.mp found
    have distinct : (right.entries.map (·.1)).Nodup := right.seqs.ordered.nodup
    rw [seqOf_mergeAll_of_mem distinct listed, seqOf_of_mem listed]
  | none =>
    have absent : device ∉ right.entries.map (·.1) := by
      intro member
      obtain ⟨⟨_, seq⟩, inside, rfl⟩ := List.mem_map.mp member
      rw [get?_eq_some_iff.mpr inside] at found
      cases found
    have zero : right.seqOf device = 0 := by
      rw [seqOf, found]
      rfl
    rw [seqOf_mergeAll_of_notMem absent, zero, max_eq_left (zero_le_seq _)]

/-- The join of two snapshots takes the entries of the one over into the other. -/
instance semilatticeSup : SemilatticeSup Snapshot where
  sup left right := left.mergeAll right.entries
  le_sup_left left right device := by
    rw [seqOf_mergeAll_entries]
    exact le_max_left _ _
  le_sup_right left right device := by
    rw [seqOf_mergeAll_entries]
    exact le_max_right _ _
  sup_le left right above belowLeft belowRight device := by
    rw [seqOf_mergeAll_entries]
    exact max_le (belowLeft device) (belowRight device)

/-- The join gives each device the higher of the two numbers. -/
theorem seqOf_sup (left right : Snapshot) (device : DeviceId) :
    (left ⊔ right).seqOf device = max (left.seqOf device) (right.seqOf device) :=
  seqOf_mergeAll_entries left right device

/-- Taking note of a number does not lower a snapshot. -/
theorem le_merge (snapshot : Snapshot) (device : DeviceId) (seq : Seq) :
    snapshot ≤ snapshot.merge device seq := by
  intro other
  rw [seqOf_merge]
  by_cases here : other = device
  · rw [if_pos here, here]
    exact le_max_left _ _
  · rw [if_neg here]

theorem le_mergeAll (snapshot : Snapshot) (entries : List (DeviceId × Seq)) :
    snapshot ≤ snapshot.mergeAll entries := by
  induction entries generalizing snapshot with
  | nil => exact le_refl _
  | cons entry rest ih => exact le_trans (le_merge snapshot entry.1 entry.2) (ih _)

/-- What lies above a snapshot and above some numbers lies above the snapshot with these. -/
theorem mergeAll_le {snapshot bound : Snapshot} {entries : List (DeviceId × Seq)}
    (below : snapshot ≤ bound) (under : ∀ entry ∈ entries, entry.2 ≤ bound.seqOf entry.1) :
    snapshot.mergeAll entries ≤ bound := by
  induction entries generalizing snapshot with
  | nil => exact below
  | cons entry rest ih =>
    obtain ⟨here, later⟩ := List.forall_mem_cons.mp under
    refine ih (fun device => ?_) later
    rw [seqOf_merge]
    split
    · rename_i same
      rw [same]
      exact max_le (below entry.1) here
    · exact below device

theorem le_seqOf_mergeAll {snapshot : Snapshot} {entries : List (DeviceId × Seq)}
    {entry : DeviceId × Seq} (member : entry ∈ entries) :
    entry.2 ≤ (snapshot.mergeAll entries).seqOf entry.1 := by
  induction entries generalizing snapshot with
  | nil => cases member
  | cons first rest ih =>
    rcases List.mem_cons.mp member with rfl | later
    · refine le_trans ?_ (le_mergeAll (snapshot.merge entry.1 entry.2) rest entry.1)
      rw [seqOf_merge, if_pos rfl]
      exact le_max_right _ _
    · exact ih later

/-- The number of a device after some are taken note of is the highest of its own. -/
theorem seqOf_mergeAll (snapshot : Snapshot) (entries : List (DeviceId × Seq))
    (device : DeviceId) :
    (snapshot.mergeAll entries).seqOf device =
      ((entries.filter fun entry => entry.1 = device).map (·.2)).foldl max
        (snapshot.seqOf device) := by
  induction entries generalizing snapshot with
  | nil => rfl
  | cons entry rest ih =>
    refine (ih (snapshot.merge entry.1 entry.2)).trans ?_
    rw [seqOf_merge]
    by_cases here : entry.1 = device
    · simp [here]
    · simp [here, Ne.symm here]

/-- After some numbers are merged, a device has the greatest one that it had or that was
among them. -/
theorem isGreatest_seqOf_mergeAll (snapshot : Snapshot) (entries : List (DeviceId × Seq))
    (device : DeviceId) :
    IsGreatest (insert (snapshot.seqOf device) {seq | (device, seq) ∈ entries})
      ((snapshot.mergeAll entries).seqOf device) := by
  induction entries generalizing snapshot with
  | nil => exact ⟨Or.inl rfl, by simp [upperBounds, mergeAll]⟩
  | cons entry rest ih =>
    obtain ⟨reached, bound⟩ := ih (snapshot.merge entry.1 entry.2)
    have before : snapshot.seqOf device ≤ (snapshot.merge entry.1 entry.2).seqOf device :=
      le_merge snapshot entry.1 entry.2 device
    have after : (snapshot.merge entry.1 entry.2).seqOf device ≤
        ((snapshot.merge entry.1 entry.2).mergeAll rest).seqOf device :=
      bound (Set.mem_insert _ _)
    constructor
    · rcases reached with here | later
      · -- Nothing later has raised the number: it is the former one or that of the entry.
        rw [mergeAll, List.foldl_cons, ← mergeAll, here, seqOf_merge]
        split
        · rename_i same
          subst same
          rcases max_choice (snapshot.seqOf entry.1) entry.2 with left | right
          · rw [left]
            exact Set.mem_insert _ _
          · rw [right]
            exact Set.mem_insert_of_mem _ List.mem_cons_self
        · exact Set.mem_insert _ _
      · exact Set.mem_insert_of_mem _ (List.mem_cons_of_mem _ later)
    · rintro seq (rfl | member)
      · exact before.trans after
      · rcases List.mem_cons.mp member with rfl | later
        · have told : seq ≤ (snapshot.merge device seq).seqOf device := by
            rw [seqOf_merge, if_pos rfl]
            exact le_max_right _ _
          exact told.trans after
        · exact bound (Set.mem_insert_of_mem _ later)

/-! ## Sizes -/

theorem device_mem_iff {snapshot : Snapshot} {device : DeviceId} :
    device ∈ snapshot.entries.map (·.1) ↔ snapshot.seqOf device ≠ 0 := by
  constructor
  · intro member
    obtain ⟨entry, inside, rfl⟩ := List.mem_map.mp member
    rw [seqOf_of_mem inside]
    exact snapshot.nonzero entry inside
  · intro positive
    have listed : snapshot.get? device = some (snapshot.seqOf device) := by
      rw [get?_eq, if_neg positive]
    exact List.mem_map.mpr ⟨_, get?_eq_some_iff.mp listed, rfl⟩

theorem device_mem_of_le (below : left ≤ right) {device : DeviceId}
    (member : device ∈ left.entries.map (·.1)) : device ∈ right.entries.map (·.1) := by
  rw [device_mem_iff] at member ⊢
  intro zero
  apply member
  apply le_antisymm _ (zero_le_seq _)
  rw [← zero]
  exact below device

/-- Distinct devices that a snapshot lists are no more than it lists. -/
theorem length_le_size {snapshot : Snapshot} {devices : List DeviceId} (distinct : devices.Nodup)
    (listed : ∀ device ∈ devices, device ∈ snapshot.entries.map (·.1)) :
    devices.length ≤ snapshot.size := by
  have fewer := (List.subperm_of_subset distinct listed).length_le
  rwa [List.length_map] at fewer

theorem size_le_of_le (below : left ≤ right) : left.size ≤ right.size := by
  have fewer := length_le_size left.seqs.ordered.nodup fun device => device_mem_of_le below
  rwa [List.length_map] at fewer

/-- A delta has no more records than there are devices. -/
theorem length_diff_le (old new : Snapshot) (includeOld : Bool) :
    (old.diff new includeOld).length ≤ (old ⊔ new).size := by
  have fewer : ((old.diff new includeOld).map (·.device)).length ≤ (old ⊔ new).size := by
    apply length_le_size (nodup_device_diff old new includeOld)
    intro device member
    obtain ⟨record, inside, rfl⟩ := List.mem_map.mp member
    rcases (mem_diff.mp inside).device_mem with ⟨entry, there, same⟩ | ⟨entry, there, same⟩
    · exact device_mem_of_le le_sup_left (same ▸ List.mem_map_of_mem there)
    · exact device_mem_of_le le_sup_right (same ▸ List.mem_map_of_mem there)
  rwa [List.length_map] at fewer

/-- What a snapshot lists more than an older one is in the delta. -/
theorem size_le_add_length_diff (old new : Snapshot) (includeOld : Bool) :
    new.size ≤ old.size + (old.diff new includeOld).length := by
  have covered : new.entries.map (·.1) ⊆
      old.entries.map (·.1) ++ (old.diff new includeOld).map (·.device) := by
    intro device member
    obtain ⟨come, inside, rfl⟩ := List.mem_map.mp member
    rw [List.mem_append]
    by_cases differs : Entries.find? old.entries come.1 = some come.2
    · have listed : come ∈ old.entries := get?_eq_some_iff.mp differs
      exact Or.inl (List.mem_map_of_mem listed)
    · have record : updateOf includeOld old.entries come ∈ old.diff new includeOld :=
        mem_diff.mpr (Or.inl ⟨come, inside, differs, rfl⟩)
      exact Or.inr (List.mem_map_of_mem record)
  have fewer := (List.subperm_of_subset new.seqs.ordered.nodup covered).length_le
  rwa [List.length_append, List.length_map, List.length_map, List.length_map] at fewer

/-- Taking note of some numbers adds no more devices than these are. -/
theorem size_mergeAll_le (snapshot : Snapshot) (entries : List (DeviceId × Seq)) :
    (snapshot.mergeAll entries).size ≤ snapshot.size + entries.length := by
  have covered : (snapshot.mergeAll entries).entries.map (·.1) ⊆
      snapshot.entries.map (·.1) ++ entries.map (·.1) := by
    intro device member
    rw [List.mem_append]
    by_cases told : device ∈ entries.map (·.1)
    · exact Or.inr told
    · rw [device_mem_iff, seqOf_mergeAll_of_notMem told, ← device_mem_iff] at member
      exact Or.inl member
  have fewer :=
    (List.subperm_of_subset (snapshot.mergeAll entries).seqs.ordered.nodup covered).length_le
  rwa [List.length_append, List.length_map, List.length_map, List.length_map] at fewer

/-! ## Merging updates -/

/-- The numbers that the updates among some records tell. -/
def updatesOf (records : List DeltaRecord) : List (DeviceId × Seq) :=
  (records.filter DeltaRecord.isUpdate).map fun record => (record.device, record.seq)

variable {includeOld : Bool}

theorem mem_updatesOf_diff {old new : Snapshot} {device : DeviceId} {seq : Seq} :
    (device, seq) ∈ updatesOf (old.diff new includeOld) ↔
      (device, seq) ∈ new.entries ∧ old.get? device ≠ some seq := by
  unfold updatesOf
  simp only [List.mem_map, List.mem_filter, mem_diff, Differs]
  constructor
  · rintro ⟨record, ⟨⟨come, member, differs, rfl⟩ | ⟨gone, member, unlisted, rfl⟩, update⟩, same⟩
    · cases same
      exact ⟨member, differs⟩
    · cases update
  · rintro ⟨member, differs⟩
    exact ⟨_, ⟨Or.inl ⟨(device, seq), member, differs, rfl⟩, rfl⟩, rfl⟩

theorem nodup_updatesOf_diff (old new : Snapshot) (includeOld : Bool) :
    ((updatesOf (old.diff new includeOld)).map (·.1)).Nodup := by
  unfold updatesOf
  rw [List.map_map]
  have ascending := (pairwise_diff old new includeOld).filter DeltaRecord.isUpdate
  exact List.pairwise_map.mpr (ascending.imp fun less => ne_of_lt less)

/-- Whoever is not behind the older snapshot gets to the join with the newer one by merging
the updates between them. -/
theorem mergeAll_updatesOf_diff {old new receiver : Snapshot} (ahead : old ≤ receiver) :
    receiver.mergeAll (updatesOf (old.diff new includeOld)) = receiver ⊔ new := by
  have distinct := nodup_updatesOf_diff old new includeOld
  apply ext_seqOf
  intro device
  rw [seqOf_sup]
  by_cases listed : (device, new.seqOf device) ∈ updatesOf (old.diff new includeOld)
  · exact seqOf_mergeAll_of_mem distinct listed
  · -- The newer number is zero or the older one, which the receiver has reached.
    have absent : device ∉ (updatesOf (old.diff new includeOld)).map (·.1) := by
      intro member
      obtain ⟨⟨_, seq⟩, inside, rfl⟩ := List.mem_map.mp member
      rw [seqOf_of_mem (mem_updatesOf_diff.mp inside).1] at listed
      exact listed inside
    have reached : new.seqOf device ≤ receiver.seqOf device := by
      by_cases zero : new.seqOf device = 0
      · rw [zero]
        exact zero_le_seq _
      · have told : new.get? device = some (new.seqOf device) := by
          rw [get?_eq, if_neg zero]
        have same : old.get? device = some (new.seqOf device) := by
          by_contra differs
          exact listed (mem_updatesOf_diff.mpr ⟨get?_eq_some_iff.mp told, differs⟩)
        have number : old.seqOf device = new.seqOf device := by
          rw [seqOf, same]
          rfl
        rw [← number]
        exact ahead device
    rw [seqOf_mergeAll_of_notMem absent, max_eq_left reached]

end Snapshot

end DigestSync
