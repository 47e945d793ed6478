import DigestSync.Proofs.Replay
import DigestSync.Sync.Convergence

set_option autoImplicit false

/-! # Comparing is splitting the differences

Two states have a gap at each device that they give different numbers, and the delta from the one
to the other tells of each gap once.  Comparing splits the gaps by the side that is ahead, without
losing or doubling any, and the other side sees the same with the sides exchanged.
-/

namespace DigestSync

open scoped SeqOrder

/-- The gap as the other side sees it. -/
def Gap.mirror (gap : Gap) : Gap := ⟨gap.device, gap.remoteSeq, gap.localSeq⟩

namespace Snapshot

/-- Two snapshots list a device alike if they give it the same number. -/
theorem get?_eq_get?_iff {left right : Snapshot} {device : DeviceId} :
    left.get? device = right.get? device ↔ left.seqOf device = right.seqOf device := by
  constructor
  · intro same
    rw [seqOf, same, seqOf]
  · intro same
    rw [get?_eq, same, get?_eq]

end Snapshot

namespace Convergence

open Snapshot

/-- What the other side finds. -/
def mirror : Convergence → Convergence
  | .converged => .converged
  | .diverged localAhead remoteAhead =>
    .diverged (remoteAhead.map Gap.mirror) (localAhead.map Gap.mirror)

/-- The numbers that two states give a device. -/
def gapAt (here there : Snapshot) (device : DeviceId) : Gap :=
  ⟨device, here.seqOf device, there.seqOf device⟩

/-- The gaps that the delta from the one state to the other tells of. -/
def gaps (here there : Snapshot) : List Gap := (here.diff there true).map gapOf

variable {here there : Snapshot} {gap : Gap}

theorem compare_of_ne (differ : here ≠ there) :
    compare here there =
      .diverged ((gaps here there).filter Gap.isLocal)
        ((gaps here there).filter fun gap => !Gap.isLocal gap) :=
  if_neg differ

/-! ## Gaps -/

theorem gapOf_recordOf? {device : DeviceId} {record : DeltaRecord}
    (found : recordOf? true here there device = some record) :
    gapOf record = gapAt here there device := by
  rcases recordOf?_eq_some_iff.mp found with ⟨seq, listed, -, rfl⟩ | ⟨absent, -, rfl⟩
  · have number : there.seqOf device = seq := by
      rw [seqOf, listed]
      rfl
    rw [gapAt, number]
    rfl
  · have number : there.seqOf device = 0 := by
      rw [seqOf, absent]
      rfl
    rw [gapAt, number]
    rfl

/-- There is a gap exactly at the devices with different numbers. -/
theorem mem_gaps_iff : gap ∈ gaps here there ↔
    gap = gapAt here there gap.device ∧ here.seqOf gap.device ≠ there.seqOf gap.device := by
  rw [gaps, List.mem_map]
  constructor
  · rintro ⟨record, told, rfl⟩
    have found := mem_diff_iff_recordOf?.mp told
    refine ⟨gapOf_recordOf? found, fun same => ?_⟩
    have none : recordOf? true here there record.device = none :=
      recordOf?_eq_none_iff.mpr (get?_eq_get?_iff.mpr same)
    rw [none] at found
    cases found
  · rintro ⟨whole, differ⟩
    cases found : recordOf? true here there gap.device with
    | none => exact absurd (get?_eq_get?_iff.mp (recordOf?_eq_none_iff.mp found)) differ
    | some record =>
      refine ⟨record, mem_diff_iff_recordOf?.mpr ?_, (gapOf_recordOf? found).trans whole.symm⟩
      rw [device_of_recordOf? found]
      exact found

theorem pairwise_gaps (here there : Snapshot) :
    (gaps here there).Pairwise fun early late => Ord.compare early.device late.device = .lt :=
  List.pairwise_map.mpr (pairwise_diff here there true)

/-! ## The side that is ahead -/

theorem mem_local_iff : gap ∈ (gaps here there).filter Gap.isLocal ↔
    gap = gapAt here there gap.device ∧ there.seqOf gap.device < here.seqOf gap.device := by
  rw [List.mem_filter, mem_gaps_iff]
  constructor
  · rintro ⟨⟨whole, -⟩, ahead⟩
    have ahead : gap.remoteSeq < gap.localSeq := of_decide_eq_true ahead
    rw [whole] at ahead
    exact ⟨whole, ahead⟩
  · rintro ⟨whole, ahead⟩
    refine ⟨⟨whole, ahead.ne'⟩, ?_⟩
    rw [whole]
    exact decide_eq_true ahead

theorem mem_remote_iff : gap ∈ (gaps here there).filter (fun gap => !Gap.isLocal gap) ↔
    gap = gapAt here there gap.device ∧ here.seqOf gap.device < there.seqOf gap.device := by
  rw [List.mem_filter, mem_gaps_iff, Bool.not_eq_true']
  constructor
  · rintro ⟨⟨whole, differ⟩, behind⟩
    have behind : ¬gap.remoteSeq < gap.localSeq := of_decide_eq_false behind
    rw [whole] at behind
    exact ⟨whole, lt_of_le_of_ne (not_lt.mp behind) differ⟩
  · rintro ⟨whole, ahead⟩
    refine ⟨⟨whole, ahead.ne⟩, ?_⟩
    rw [whole]
    exact decide_eq_false ahead.not_gt

/-- At every gap one side is ahead, and only one. -/
theorem mem_local_or_mem_remote_iff : gap ∈ (gaps here there).filter Gap.isLocal ∨
    gap ∈ (gaps here there).filter (fun gap => !Gap.isLocal gap) ↔ gap ∈ gaps here there := by
  rw [mem_local_iff, mem_remote_iff, mem_gaps_iff, ← and_or_left, or_comm]
  exact and_congr_right fun _ => lt_or_lt_iff_ne

/-! ## The other side -/

theorem gaps_mirror (here there : Snapshot) :
    gaps there here = (gaps here there).map Gap.mirror := by
  rw [gaps, gaps, diff_mirror, List.map_map, List.map_map]
  rfl

theorem isLocal_mirror (member : gap ∈ gaps here there) :
    Gap.isLocal gap.mirror = !Gap.isLocal gap := by
  obtain ⟨whole, differ⟩ := mem_gaps_iff.mp member
  have differ : gap.localSeq ≠ gap.remoteSeq := by
    rw [whole]
    exact differ
  rw [Gap.isLocal, Gap.isLocal, ← decide_not]
  exact decide_eq_decide.mpr (differ.le_iff_lt.symm.trans not_lt.symm)

theorem compare_mirror (here there : Snapshot) :
    compare there here = (compare here there).mirror := by
  by_cases same : here = there
  · rw [same, compare, if_pos rfl]
    rfl
  · have ahead : (gaps there here).filter Gap.isLocal =
        ((gaps here there).filter fun gap => !Gap.isLocal gap).map Gap.mirror := by
      rw [gaps_mirror, List.filter_map]
      exact congrArg _ (List.filter_congr fun gap member => isLocal_mirror member)
    have behind : (gaps there here).filter (fun gap => !Gap.isLocal gap) =
        ((gaps here there).filter Gap.isLocal).map Gap.mirror := by
      rw [gaps_mirror, List.filter_map]
      refine congrArg _ (List.filter_congr fun gap member => ?_)
      rw [Function.comp_apply, isLocal_mirror member, Bool.not_not]
    rw [compare_of_ne same, compare_of_ne (Ne.symm same), ahead, behind]
    rfl

/-- Comparing finds two states converged exactly if they are equal.  Otherwise it lists the devices
that they give different numbers, each with the two numbers: those with the higher number here in
the one list and those with the higher number there in the other, both in strictly ascending order
and without a device in common.  The other way round it finds the same with the two lists and the
two numbers of each gap exchanged. -/
theorem compare_splits_differences (here there : Snapshot) :
    (compare here there = .converged ↔ here = there) ∧
      (∃ localAhead remoteAhead : List Gap,
        compare here there =
            (if here = there then .converged else .diverged localAhead remoteAhead) ∧
          (localAhead.Pairwise fun early late => Ord.compare early.device late.device = .lt) ∧
          (remoteAhead.Pairwise fun early late => Ord.compare early.device late.device = .lt) ∧
          (localAhead.map Gap.device).Disjoint (remoteAhead.map Gap.device) ∧
          (∀ device, device ∈ localAhead.map Gap.device ∨ device ∈ remoteAhead.map Gap.device ↔
            here.seqOf device ≠ there.seqOf device) ∧
          (∀ gap, gap ∈ localAhead ↔
            gap = gapAt here there gap.device ∧
              there.seqOf gap.device < here.seqOf gap.device) ∧
          ∀ gap, gap ∈ remoteAhead ↔
            gap = gapAt here there gap.device ∧
              here.seqOf gap.device < there.seqOf gap.device) ∧
      compare there here = (compare here there).mirror := by
  refine ⟨?_, ⟨(gaps here there).filter Gap.isLocal,
    (gaps here there).filter fun gap => !Gap.isLocal gap, rfl,
    (pairwise_gaps here there).filter _, (pairwise_gaps here there).filter _, ?_, ?_,
    fun _ => mem_local_iff, fun _ => mem_remote_iff⟩, compare_mirror here there⟩
  · constructor
    · intro converged
      by_contra differ
      rw [compare_of_ne differ] at converged
      cases converged
    · intro same
      exact if_pos same
  · intro device ahead behind
    obtain ⟨gap, isLocal, rfl⟩ := List.mem_map.mp ahead
    obtain ⟨other, isRemote, same⟩ := List.mem_map.mp behind
    have less := (mem_remote_iff.mp isRemote).2
    rw [same] at less
    exact less.not_gt (mem_local_iff.mp isLocal).2
  · intro device
    rw [← List.mem_append, ← List.map_append, List.mem_map]
    constructor
    · rintro ⟨gap, member, rfl⟩
      have inside := mem_local_or_mem_remote_iff.mp (List.mem_append.mp member)
      exact (mem_gaps_iff.mp inside).2
    · intro differ
      refine ⟨gapAt here there device, List.mem_append.mpr ?_, rfl⟩
      exact mem_local_or_mem_remote_iff.mpr (mem_gaps_iff.mpr ⟨rfl, differ⟩)

end Convergence

end DigestSync
