import DigestSync.Proofs.Data.Order
import DigestSync.Proofs.Data.SortedMap
import DigestSync.Snapshot

set_option autoImplicit false

/-! # The numbers of a snapshot

A snapshot is determined by the number it gives each device, zero for one that is not
listed.  Merging raises the number of one device, and merging the entries of a snapshot
into the empty one, in any order, gives it back.
-/

namespace DigestSync

open scoped SeqOrder

namespace Snapshot

theorem get?_eq_some_iff {snapshot : Snapshot} {device : DeviceId} {seq : Seq} :
    snapshot.get? device = some seq ↔ (device, seq) ∈ snapshot.entries :=
  SortedMap.find?_eq_some_iff

theorem seqOf_of_mem {snapshot : Snapshot} {device : DeviceId} {seq : Seq}
    (member : (device, seq) ∈ snapshot.entries) : snapshot.seqOf device = seq := by
  rw [seqOf, get?_eq_some_iff.mpr member]
  rfl

/-- The number of a device is listed, or it is zero. -/
theorem seqOf_cases (snapshot : Snapshot) (device : DeviceId) :
    (device, snapshot.seqOf device) ∈ snapshot.entries ∨ snapshot.seqOf device = 0 := by
  cases found : snapshot.get? device with
  | none => exact Or.inr (by rw [seqOf, found]; rfl)
  | some seq =>
    rw [seqOf, found]
    exact Or.inl (get?_eq_some_iff.mp found)

/-- A device is listed with its number if that is not zero. -/
theorem get?_eq (snapshot : Snapshot) (device : DeviceId) :
    snapshot.get? device =
      if snapshot.seqOf device = 0 then none else some (snapshot.seqOf device) := by
  cases found : snapshot.get? device with
  | none => simp [seqOf, found]
  | some seq =>
    have listed := get?_eq_some_iff.mp found
    rw [seqOf_of_mem listed, if_neg (snapshot.nonzero _ listed)]

theorem eq_of_seqs {left right : Snapshot} (same : left.seqs = right.seqs) : left = right := by
  cases left
  cases right
  cases same
  rfl

/-- Snapshots that give each device the same number are the same. -/
theorem ext_seqOf {left right : Snapshot}
    (same : ∀ device, left.seqOf device = right.seqOf device) : left = right :=
  eq_of_seqs (SortedMap.ext_find? fun device => by
    have found : left.get? device = right.get? device := by
      rw [get?_eq, get?_eq, same device]
    exact found)

@[simp] theorem seqOf_empty (device : DeviceId) : empty.seqOf device = 0 := rfl

theorem get?_set (snapshot : Snapshot) (device other : DeviceId) (seq : Seq) (positive : seq ≠ 0) :
    (snapshot.set device seq positive).get? other =
      if other = device then some seq else snapshot.get? other :=
  SortedMap.find?_insert _ _ _ _

theorem get?_erase (snapshot : Snapshot) (device other : DeviceId) :
    (snapshot.erase device).get? other = if other = device then none else snapshot.get? other :=
  SortedMap.find?_erase _ _ _

theorem seqOf_set (snapshot : Snapshot) (device other : DeviceId) (seq : Seq)
    (positive : seq ≠ 0) :
    (snapshot.set device seq positive).seqOf other =
      if other = device then seq else snapshot.seqOf other := by
  rw [seqOf, get?_set]
  by_cases here : other = device
  · rw [if_pos here, if_pos here]
    rfl
  · rw [if_neg here, if_neg here]
    rfl

/-! ## Merging -/

theorem seqOf_merge (snapshot : Snapshot) (device other : DeviceId) (seq : Seq) :
    (snapshot.merge device seq).seqOf other =
      if other = device then max (snapshot.seqOf device) seq else snapshot.seqOf other := by
  unfold merge
  split
  · rename_i raised
    have less : snapshot.seqOf device < seq := of_decide_eq_true raised
    rw [seqOf_set, max_eq_right_of_lt less]
  · rename_i notRaised
    have upto : seq ≤ snapshot.seqOf device :=
      not_lt.mp fun less => notRaised (decide_eq_true less)
    rw [max_eq_left upto]
    by_cases here : other = device
    · rw [if_pos here, here]
    · rw [if_neg here]

theorem seqOf_mergeAll_of_notMem {snapshot : Snapshot} {entries : List (DeviceId × Seq)}
    {device : DeviceId} (absent : device ∉ entries.map (·.1)) :
    (snapshot.mergeAll entries).seqOf device = snapshot.seqOf device := by
  induction entries generalizing snapshot with
  | nil => rfl
  | cons entry rest ih =>
    obtain ⟨here, later⟩ := not_or.mp (mt List.mem_cons.mpr absent)
    exact (ih later).trans (by rw [seqOf_merge, if_neg here])

theorem seqOf_mergeAll_of_mem {snapshot : Snapshot} {entries : List (DeviceId × Seq)}
    (distinct : (entries.map (·.1)).Nodup) {device : DeviceId} {seq : Seq}
    (member : (device, seq) ∈ entries) :
    (snapshot.mergeAll entries).seqOf device = max (snapshot.seqOf device) seq := by
  induction entries generalizing snapshot with
  | nil => cases member
  | cons entry rest ih =>
    obtain ⟨fresh, later⟩ := List.nodup_cons.mp distinct
    rcases List.mem_cons.mp member with rfl | there
    · exact (seqOf_mergeAll_of_notMem fresh).trans (by rw [seqOf_merge, if_pos rfl])
    · have away : device ≠ entry.1 := fun here =>
        fresh (List.mem_map.mpr ⟨(device, seq), there, here⟩)
      exact (ih later there).trans (by rw [seqOf_merge, if_neg away])

/-- The snapshot of some entries of distinct devices that are those of a snapshot, in
whatever order, is this snapshot. -/
theorem ofEntries_eq {snapshot : Snapshot} {entries : List (DeviceId × Seq)}
    (distinct : (entries.map (·.1)).Nodup)
    (same : ∀ entry, entry ∈ entries ↔ entry ∈ snapshot.entries) :
    ofEntries entries = snapshot := by
  refine ext_seqOf ?_
  intro device
  cases found : snapshot.get? device with
  | some seq =>
    have listed := get?_eq_some_iff.mp found
    rw [ofEntries, seqOf_mergeAll_of_mem distinct ((same _).mpr listed), seqOf_of_mem listed,
      seqOf_empty, max_eq_right (UInt64.le_iff_toNat_le.mpr (Nat.zero_le _))]
  | none =>
    have absent : device ∉ entries.map (·.1) := by
      intro member
      obtain ⟨⟨_, seq⟩, inside, rfl⟩ := List.mem_map.mp member
      rw [get?_eq_some_iff.mpr ((same _).mp inside)] at found
      cases found
    rw [ofEntries, seqOf_mergeAll_of_notMem absent, seqOf, seqOf, found]
    rfl

/-! ## Maps with zeros -/

theorem mem_entries_ofMap {seqs : SortedMap DeviceId Seq} {entry : DeviceId × Seq} :
    entry ∈ (ofMap seqs).entries ↔ entry ∈ seqs.entries ∧ entry.2 ≠ 0 := by
  simp [ofMap, entries]

/-- Where there are no zeros, none are left out. -/
theorem ofMap_seqs (snapshot : Snapshot) : ofMap snapshot.seqs = snapshot := by
  refine eq_of_seqs (SortedMap.eq_of_entries ?_)
  exact List.filter_eq_self.mpr fun entry member => decide_eq_true (snapshot.nonzero entry member)

theorem seqOf_ofMap (seqs : SortedMap DeviceId Seq) (device : DeviceId) :
    (ofMap seqs).seqOf device = (seqs.find? device).getD 0 := by
  cases found : seqs.find? device with
  | none =>
    have absent : (ofMap seqs).get? device = none :=
      SortedMap.find?_eq_none_iff.mpr fun entry member =>
        SortedMap.find?_eq_none_iff.mp found entry (mem_entries_ofMap.mp member).1
    rw [seqOf, absent]
  | some seq =>
    have bound := SortedMap.find?_eq_some_iff.mp found
    by_cases zero : seq = 0
    · have absent : (ofMap seqs).get? device = none := by
        refine SortedMap.find?_eq_none_iff.mpr fun entry member same => ?_
        obtain ⟨inside, positive⟩ := mem_entries_ofMap.mp member
        have here : entry = (device, seq) := seqs.ordered.eq_of_mem inside bound same
        exact positive (by rw [here]; exact zero)
      rw [seqOf, absent, zero]
      rfl
    · exact seqOf_of_mem (mem_entries_ofMap.mpr ⟨bound, zero⟩)

end Snapshot

end DigestSync
