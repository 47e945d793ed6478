import DigestSync.Delta
import DigestSync.Proofs.Snapshot

set_option autoImplicit false

/-! # The records between two snapshots

Walking two snapshots side by side finds an update for every entry of the new one that
the old one does not have, and a deletion for every device that only the old one lists,
and nothing else, in strictly ascending order of the devices.  Going through the entries of
the one and then of the other, in whatever order, and sorting what is found gives the same.
-/

namespace DigestSync

namespace Snapshot

/-- The record of an entry of the new snapshot, given what the old one lists. -/
def updateOf (includeOld : Bool) (old : List (DeviceId × Seq)) (come : DeviceId × Seq) :
    DeltaRecord :=
  .update come.1 come.2 (if includeOld then some ((Entries.find? old come.1).getD 0) else none)

/-- The record of an entry whose device the new snapshot does not list. -/
def deleteOf (includeOld : Bool) (gone : DeviceId × Seq) : DeltaRecord :=
  .delete gone.1 (if includeOld then some gone.2 else none)

/-- A record tells a difference between two lists of entries. -/
def Differs (includeOld : Bool) (old new : List (DeviceId × Seq)) (record : DeltaRecord) :
    Prop :=
  (∃ come ∈ new, Entries.find? old come.1 ≠ some come.2 ∧ record = updateOf includeOld old come) ∨
    ∃ gone ∈ old, Entries.find? new gone.1 = none ∧ record = deleteOf includeOld gone

variable {includeOld : Bool} {old new : List (DeviceId × Seq)}

/-- An entry below all new ones is gone, and tells nothing of the others. -/
theorem differs_cons_left {gone : DeviceId × Seq} {record : DeltaRecord}
    (above : ∀ come ∈ new, compare gone.1 come.1 = .lt) :
    Differs includeOld (gone :: old) new record ↔
      record = deleteOf includeOld gone ∨ Differs includeOld old new record := by
  have passed : ∀ come ∈ new, Entries.find? (gone :: old) come.1 = Entries.find? old come.1 :=
    fun come member => Entries.find?_cons_of_lt (above come member)
  have unlisted : Entries.find? new gone.1 = none := Entries.find?_eq_none_of_lt above
  constructor
  · rintro (⟨come, member, differs, rfl⟩ | ⟨other, member, absent, rfl⟩)
    · rw [passed come member] at differs
      exact Or.inr (Or.inl ⟨come, member, differs, by rw [updateOf, passed come member, updateOf]⟩)
    · rcases List.mem_cons.mp member with rfl | later
      · exact Or.inl rfl
      · exact Or.inr (Or.inr ⟨other, later, absent, rfl⟩)
  · rintro (rfl | ⟨come, member, differs, rfl⟩ | ⟨other, member, absent, rfl⟩)
    · exact Or.inr ⟨gone, List.mem_cons_self, unlisted, rfl⟩
    · refine Or.inl ⟨come, member, ?_, by rw [updateOf, updateOf, passed come member]⟩
      rwa [passed come member]
    · exact Or.inr ⟨other, List.mem_cons_of_mem _ member, absent, rfl⟩

/-- An entry below all old ones has come, and tells nothing of the others. -/
theorem differs_cons_right {come : DeviceId × Seq} {record : DeltaRecord}
    (above : ∀ gone ∈ old, compare come.1 gone.1 = .lt) :
    Differs includeOld old (come :: new) record ↔
      record = .update come.1 come.2 (if includeOld then some 0 else none) ∨
        Differs includeOld old new record := by
  have unlisted : Entries.find? old come.1 = none := Entries.find?_eq_none_of_lt above
  have passed : ∀ gone ∈ old, Entries.find? (come :: new) gone.1 = Entries.find? new gone.1 :=
    fun gone member => Entries.find?_cons_of_lt (above gone member)
  have told : updateOf includeOld old come =
      .update come.1 come.2 (if includeOld then some 0 else none) := by
    rw [updateOf, unlisted]
    rfl
  constructor
  · rintro (⟨other, member, differs, rfl⟩ | ⟨gone, member, absent, rfl⟩)
    · rcases List.mem_cons.mp member with rfl | later
      · exact Or.inl told
      · exact Or.inr (Or.inl ⟨other, later, differs, rfl⟩)
    · rw [passed gone member] at absent
      exact Or.inr (Or.inr ⟨gone, member, absent, rfl⟩)
  · rintro (rfl | ⟨other, member, differs, rfl⟩ | ⟨gone, member, absent, rfl⟩)
    · exact Or.inl ⟨come, List.mem_cons_self, by rw [unlisted]; simp, told.symm⟩
    · exact Or.inl ⟨other, List.mem_cons_of_mem _ member, differs, rfl⟩
    · exact Or.inr ⟨gone, member, by rwa [passed gone member], rfl⟩

/-- Two entries of one device, below all others, differ if their numbers do. -/
theorem differs_cons_cons {gone come : DeviceId × Seq} {record : DeltaRecord}
    (same : gone.1 = come.1) (aboveOld : ∀ entry ∈ old, compare come.1 entry.1 = .lt)
    (aboveNew : ∀ entry ∈ new, compare come.1 entry.1 = .lt) :
    Differs includeOld (gone :: old) (come :: new) record ↔
      (gone.2 ≠ come.2 ∧
        record = .update come.1 come.2 (if includeOld then some gone.2 else none)) ∨
        Differs includeOld old new record := by
  have here : Entries.find? (gone :: old) come.1 = some gone.2 :=
    same ▸ Entries.find?_cons_self gone old
  have there : Entries.find? (come :: new) gone.1 = some come.2 :=
    same ▸ Entries.find?_cons_self come new
  have passedOld : ∀ entry ∈ new, Entries.find? (gone :: old) entry.1 = Entries.find? old entry.1 :=
    fun entry member => Entries.find?_cons_of_lt (same ▸ aboveNew entry member)
  have passedNew : ∀ entry ∈ old, Entries.find? (come :: new) entry.1 = Entries.find? new entry.1 :=
    fun entry member => Entries.find?_cons_of_lt (aboveOld entry member)
  have told : updateOf includeOld (gone :: old) come =
      .update come.1 come.2 (if includeOld then some gone.2 else none) := by
    rw [updateOf, here]
    rfl
  constructor
  · rintro (⟨other, member, differs, rfl⟩ | ⟨other, member, absent, rfl⟩)
    · rcases List.mem_cons.mp member with rfl | later
      · rw [here] at differs
        exact Or.inl ⟨fun equal => differs (congrArg some equal), told⟩
      · rw [passedOld other later] at differs
        refine Or.inr (Or.inl ⟨other, later, differs, ?_⟩)
        rw [updateOf, passedOld other later, updateOf]
    · rcases List.mem_cons.mp member with rfl | later
      · rw [there] at absent
        cases absent
      · rw [passedNew other later] at absent
        exact Or.inr (Or.inr ⟨other, later, absent, rfl⟩)
  · rintro (⟨differs, rfl⟩ | ⟨other, member, differs, rfl⟩ | ⟨other, member, absent, rfl⟩)
    · refine Or.inl ⟨come, List.mem_cons_self, ?_, told.symm⟩
      rw [here]
      exact fun equal => differs (Option.some.inj equal)
    · refine Or.inl ⟨other, List.mem_cons_of_mem _ member, by rwa [passedOld other member], ?_⟩
      rw [updateOf, updateOf, passedOld other member]
    · exact Or.inr ⟨other, List.mem_cons_of_mem _ member, by rwa [passedNew other member], rfl⟩

/-- The records found are the differences. -/
theorem mem_diffEntries (before : Ascending old) (after : Ascending new) (record : DeltaRecord) :
    record ∈ diffEntries includeOld old new ↔ Differs includeOld old new record := by
  fun_induction diffEntries includeOld old new with
  | case1 new => simp [Differs, updateOf, Entries.find?, eq_comm]
  | case2 old filled => simp [Differs, deleteOf, Entries.find?, eq_comm]
  | case3 gone old come new less ih =>
    obtain ⟨-, tail⟩ := List.pairwise_cons.mp before
    obtain ⟨above, -⟩ := List.pairwise_cons.mp after
    have lower : ∀ entry ∈ come :: new, compare gone.1 entry.1 = .lt := by
      intro entry member
      rcases List.mem_cons.mp member with rfl | later
      · exact less
      · exact Std.TransCmp.lt_trans less (above entry later)
    rw [List.mem_cons, ih tail after, differs_cons_left lower]
    rfl
  | case4 gone old come new greater ih =>
    obtain ⟨above, -⟩ := List.pairwise_cons.mp before
    obtain ⟨-, tail⟩ := List.pairwise_cons.mp after
    have less : compare come.1 gone.1 = .lt := Std.OrientedCmp.lt_of_gt greater
    have lower : ∀ entry ∈ gone :: old, compare come.1 entry.1 = .lt := by
      intro entry member
      rcases List.mem_cons.mp member with rfl | later
      · exact less
      · exact Std.TransCmp.lt_trans less (above entry later)
    rw [List.mem_cons, ih before tail, differs_cons_right lower]
  | case5 gone old come new same equal ih =>
    have same : gone.1 = come.1 := Std.LawfulEqOrd.eq_of_compare same
    obtain ⟨aboveOld, tailOld⟩ := List.pairwise_cons.mp before
    obtain ⟨aboveNew, tailNew⟩ := List.pairwise_cons.mp after
    rw [ih tailOld tailNew, differs_cons_cons same (same ▸ aboveOld) aboveNew]
    simp [equal]
  | case6 gone old come new same differ ih =>
    have same : gone.1 = come.1 := Std.LawfulEqOrd.eq_of_compare same
    obtain ⟨aboveOld, tailOld⟩ := List.pairwise_cons.mp before
    obtain ⟨aboveNew, tailNew⟩ := List.pairwise_cons.mp after
    rw [List.mem_cons, ih tailOld tailNew, differs_cons_cons same (same ▸ aboveOld) aboveNew]
    simp [differ]

/-- Every difference is one of a listed device. -/
theorem Differs.device_mem {record : DeltaRecord} (differs : Differs includeOld old new record) :
    (∃ entry ∈ old, entry.1 = record.device) ∨ ∃ entry ∈ new, entry.1 = record.device := by
  rcases differs with ⟨come, member, -, rfl⟩ | ⟨gone, member, -, rfl⟩
  · exact Or.inr ⟨come, member, rfl⟩
  · exact Or.inl ⟨gone, member, rfl⟩

/-- The records are in strictly ascending order of their devices. -/
theorem pairwise_diffEntries (before : Ascending old) (after : Ascending new) :
    (diffEntries includeOld old new).Pairwise fun early late =>
      compare early.device late.device = .lt := by
  fun_induction diffEntries includeOld old new with
  | case1 new => exact List.pairwise_map.mpr after
  | case2 old filled => exact List.pairwise_map.mpr before
  | case3 gone old come new less ih =>
    obtain ⟨aboveOld, tail⟩ := List.pairwise_cons.mp before
    obtain ⟨aboveNew, -⟩ := List.pairwise_cons.mp after
    refine List.pairwise_cons.mpr ⟨?_, ih tail after⟩
    intro record member
    rcases ((mem_diffEntries tail after record).mp member).device_mem with
      ⟨entry, there, same⟩ | ⟨entry, there, same⟩
    · exact same ▸ aboveOld entry there
    · rcases List.mem_cons.mp there with rfl | later
      · exact same ▸ less
      · exact same ▸ Std.TransCmp.lt_trans less (aboveNew entry later)
  | case4 gone old come new greater ih =>
    obtain ⟨aboveOld, -⟩ := List.pairwise_cons.mp before
    obtain ⟨aboveNew, tail⟩ := List.pairwise_cons.mp after
    have less : compare come.1 gone.1 = .lt := Std.OrientedCmp.lt_of_gt greater
    refine List.pairwise_cons.mpr ⟨?_, ih before tail⟩
    intro record member
    rcases ((mem_diffEntries before tail record).mp member).device_mem with
      ⟨entry, there, same⟩ | ⟨entry, there, same⟩
    · rcases List.mem_cons.mp there with rfl | later
      · exact same ▸ less
      · exact same ▸ Std.TransCmp.lt_trans less (aboveOld entry later)
    · exact same ▸ aboveNew entry there
  | case5 gone old come new same equal ih =>
    exact ih (List.pairwise_cons.mp before).2 (List.pairwise_cons.mp after).2
  | case6 gone old come new same differ ih =>
    have same : gone.1 = come.1 := Std.LawfulEqOrd.eq_of_compare same
    obtain ⟨aboveOld, tailOld⟩ := List.pairwise_cons.mp before
    obtain ⟨aboveNew, tailNew⟩ := List.pairwise_cons.mp after
    refine List.pairwise_cons.mpr ⟨?_, ih tailOld tailNew⟩
    intro record member
    rcases ((mem_diffEntries tailOld tailNew record).mp member).device_mem with
      ⟨entry, there, device⟩ | ⟨entry, there, device⟩
    · exact device ▸ same ▸ aboveOld entry there
    · exact device ▸ aboveNew entry there

/-- The records that lead from one snapshot to another are the differences. -/
theorem mem_diff {old new : Snapshot} {record : DeltaRecord} :
    record ∈ old.diff new includeOld ↔ Differs includeOld old.entries new.entries record :=
  mem_diffEntries old.seqs.ordered new.seqs.ordered record

theorem pairwise_diff (old new : Snapshot) (includeOld : Bool) :
    (old.diff new includeOld).Pairwise fun early late =>
      compare early.device late.device = .lt :=
  pairwise_diffEntries old.seqs.ordered new.seqs.ordered

theorem nodup_device_diff (old new : Snapshot) (includeOld : Bool) :
    ((old.diff new includeOld).map (·.device)).Nodup :=
  List.pairwise_map.mpr ((pairwise_diff old new includeOld).imp fun less => ne_of_lt less)

/-! ## Two passes and a sort -/

/-- The records that two passes find: an update for each of some new entries that the old snapshot
does not have, and then a deletion for each of some old entries whose device is not listed any
more. -/
def passes (includeOld : Bool) (before after : Snapshot) (olds news : List (DeviceId × Seq)) :
    List DeltaRecord :=
  ((news.filter fun come => before.get? come.1 ≠ some come.2).map
      (updateOf includeOld before.entries)) ++
    (olds.filter fun gone => (after.get? gone.1).isNone).map (deleteOf includeOld)

/-- No device has two records. -/
theorem nodup_passes {before after : Snapshot} {olds news : List (DeviceId × Seq)}
    (permOld : olds.Perm before.entries) (permNew : news.Perm after.entries) :
    ((passes includeOld before after olds news).map (·.device)).Nodup := by
  have oldKeys : (olds.map (·.1)).Nodup :=
    (permOld.map _).nodup_iff.mpr before.seqs.ordered.nodup
  have newKeys : (news.map (·.1)).Nodup :=
    (permNew.map _).nodup_iff.mpr after.seqs.ordered.nodup
  rw [passes, List.map_append, List.map_map, List.map_map]
  apply List.Nodup.append (newKeys.sublist (List.filter_sublist.map _))
    (oldKeys.sublist (List.filter_sublist.map _))
  intro device updated deleted
  obtain ⟨come, changed, rfl⟩ := List.mem_map.mp updated
  obtain ⟨gone, left, same⟩ := List.mem_map.mp deleted
  have listed := permNew.subset (List.mem_filter.mp changed).1
  have unlisted := (List.mem_filter.mp left).2
  have same : gone.1 = come.1 := same
  rw [same, get?_eq_some_iff.mpr listed] at unlisted
  cases unlisted

/-- Whatever order the passes take, they find the records of the side-by-side walk. -/
theorem passes_perm {before after : Snapshot} {olds news : List (DeviceId × Seq)}
    (permOld : olds.Perm before.entries) (permNew : news.Perm after.entries) :
    (passes includeOld before after olds news).Perm (before.diff after includeOld) := by
  refine (List.perm_ext_iff_of_nodup (nodup_passes permOld permNew).of_map
    (nodup_device_diff before after includeOld).of_map).mpr ?_
  intro record
  simp only [passes, List.mem_append, List.mem_map, List.mem_filter, permOld.mem_iff,
    permNew.mem_iff, mem_diff, Differs, decide_eq_true_eq, Option.isNone_iff_eq_none]
  apply or_congr
  · constructor
    · rintro ⟨come, ⟨member, differs⟩, rfl⟩
      exact ⟨come, member, differs, rfl⟩
    · rintro ⟨come, member, differs, rfl⟩
      exact ⟨come, ⟨member, differs⟩, rfl⟩
  · constructor
    · rintro ⟨gone, ⟨member, unlisted⟩, rfl⟩
      exact ⟨gone, member, unlisted, rfl⟩
    · rintro ⟨gone, member, unlisted, rfl⟩
      exact ⟨gone, ⟨member, unlisted⟩, rfl⟩

/-- The walk gives what the two passes find, sorted by device. -/
theorem mergeSort_passes {before after : Snapshot} {olds news : List (DeviceId × Seq)}
    (permOld : olds.Perm before.entries) (permNew : news.Perm after.entries) :
    ((passes includeOld before after olds news).mergeSort fun left right =>
        (compare left.device right.device).isLE) = before.diff after includeOld :=
  mergeSort_eq_of_pairwise DeltaRecord.device (passes_perm permOld permNew)
    (pairwise_diff before after includeOld)

end Snapshot

end DigestSync
