import DigestSync.Proofs.Join
import DigestSync.Tally

set_option autoImplicit false

/-! # Canonical snapshots

Every step that works on the plain list of entries does what it does to the snapshot with these
entries.  So the list is in ascending order and holds no zero after any steps, and it tells no more
than the number of each device: where two ways of getting there agree on these numbers, they have
the same entries and the same digest.  The number that a list of entries gives a device is the
greatest it has there, in whatever order and however often the entries come.
-/

namespace DigestSync

open scoped SeqOrder

namespace Snapshot

/-- A number changes a snapshot exactly if it is higher than the one known of the device. -/
theorem merge_ne_self_iff {snapshot : Snapshot} {device : DeviceId} {seq : Seq} :
    snapshot.merge device seq ≠ snapshot ↔ snapshot.isRaisedBy device seq = true := by
  constructor
  · intro changed
    by_contra notRaised
    exact changed (dif_neg notRaised)
  · intro raised same
    have less : snapshot.seqOf device < seq := of_decide_eq_true raised
    have number := seqOf_merge snapshot device device seq
    rw [same, if_pos rfl, max_eq_right_of_lt less] at number
    exact absurd number less.ne

theorem get?_merge_of_ne (snapshot : Snapshot) {device other : DeviceId} (away : other ≠ device)
    (seq : Seq) : (snapshot.merge device seq).get? other = snapshot.get? other := by
  rw [get?_eq, get?_eq, seqOf_merge, if_neg away]

/-- Only what entries there are decides which snapshot they make. -/
theorem ofEntries_congr {entries others : List (DeviceId × Seq)}
    (same : ∀ entry, entry ∈ others ↔ entry ∈ entries) : ofEntries others = ofEntries entries := by
  refine ext_seqOf fun device => ?_
  have here := isGreatest_seqOf_mergeAll empty others device
  simp only [same] at here
  exact here.unique (isGreatest_seqOf_mergeAll empty entries device)

/-- The entries of a snapshot. -/
def tally (snapshot : Snapshot) : Tally := ⟨snapshot.entries⟩

end Snapshot

namespace Tally

variable (snapshot : Snapshot)

/-! ## Steps on the plain list -/

theorem get?_tally (device : DeviceId) : snapshot.tally.get? device = snapshot.get? device := rfl

/-- Merging into the entries of a snapshot gives those of the merged one, and tells whether the
number was higher. -/
theorem merge_tally (device : DeviceId) (seq : Seq) :
    snapshot.tally.merge device seq =
      ((snapshot.merge device seq).tally, snapshot.isRaisedBy device seq) := by
  have kept (notRaised : ¬ snapshot.isRaisedBy device seq = true) :
      (snapshot.tally, false) =
        ((snapshot.merge device seq).tally, snapshot.isRaisedBy device seq) := by
    rw [Snapshot.merge, dif_neg notRaised, Bool.eq_false_iff.mpr notRaised]
  have put (raised : snapshot.isRaisedBy device seq = true) :
      (snapshot.tally.put device seq, true) =
        ((snapshot.merge device seq).tally, snapshot.isRaisedBy device seq) := by
    rw [Snapshot.merge, dif_pos raised, raised]
    rfl
  unfold merge
  split
  · rename_i zero
    exact kept fun raised => Snapshot.ne_zero_of_isRaisedBy raised zero
  · rename_i positive
    rw [get?_tally]
    cases found : snapshot.get? device with
    | some known =>
      have number : snapshot.seqOf device = known := by rw [Snapshot.seqOf, found]; rfl
      by_cases low : seq ≤ known
      · simp only [if_pos low]
        exact kept fun raised => absurd (number ▸ of_decide_eq_true raised) (not_lt.mpr low)
      · simp only [if_neg low]
        exact put (decide_eq_true (number.symm ▸ not_le.mp low))
    | none =>
      have number : snapshot.seqOf device = 0 := by rw [Snapshot.seqOf, found]; rfl
      have less : (0 : Seq) < seq := lt_of_le_of_ne (Snapshot.zero_le_seq seq) (Ne.symm positive)
      exact put (decide_eq_true (number.symm ▸ less))

theorem ofEntries_eq (entries : List (DeviceId × Seq)) :
    ofEntries entries = (Snapshot.ofEntries entries).tally := by
  suffices forward : ∀ snapshot : Snapshot,
      entries.foldl (fun tally entry => (tally.merge entry.1 entry.2).1) snapshot.tally =
        (snapshot.mergeAll entries).tally from forward .empty
  induction entries with
  | nil => exact fun _ => rfl
  | cons entry rest ih =>
    intro snapshot
    rw [List.foldl_cons, merge_tally, ih]
    rfl

theorem applyRecord_tally (record : DeltaRecord) :
    snapshot.tally.applyRecord record = (snapshot.applyRecord record).tally := by
  unfold applyRecord Snapshot.applyRecord
  by_cases positive : record.seq ≠ 0
  · have less : 0 < record.seq := lt_of_le_of_ne (Snapshot.zero_le_seq _) (Ne.symm positive)
    rw [dif_pos positive]
    cases record.kind with
    | update => exact if_pos less
    | delete => rfl
  · rw [dif_neg positive]
    cases record.kind with
    | update => exact if_neg fun less => positive (ne_of_gt less)
    | delete => rfl

theorem edit_tally (edit : SnapshotEdit) :
    snapshot.tally.edit edit = (snapshot.edit edit).tally := by
  cases edit with
  | clear => rfl
  | load entries => exact ofEntries_eq entries
  | merge device seq => exact congrArg Prod.fst (merge_tally snapshot device seq)
  | apply records =>
    change records.foldl applyRecord snapshot.tally = (records.foldl Snapshot.applyRecord _).tally
    induction records generalizing snapshot with
    | nil => rfl
    | cons record rest ih => rw [List.foldl_cons, List.foldl_cons, applyRecord_tally, ih]

/-- Any steps lead to the entries of the snapshot that they lead to. -/
theorem edited_eq (edits : List SnapshotEdit) : edited edits = (Snapshot.edited edits).tally := by
  suffices forward : ∀ snapshot : Snapshot,
      edits.foldl edit snapshot.tally = (edits.foldl Snapshot.edit snapshot).tally from
    forward .empty
  induction edits with
  | nil => exact fun _ => rfl
  | cons first rest ih =>
    intro snapshot
    rw [List.foldl_cons, List.foldl_cons, edit_tally, ih]

/-! ## What they lead to -/

/-- After any steps, the plain list holds the entries of the snapshot in strictly ascending order
and no zero; other steps with the same numbers lead to the same snapshot, with the same entries and
the same digest.  A list of entries gives each device the greatest of its numbers there, none if
that is zero, and any list with the same entries gives the same snapshot.  Merging tells of a change
exactly if there is one, and changes no other device. -/
theorem edits_are_canonical (edits others : List SnapshotEdit) :
    let snapshot := Snapshot.edited edits
    (edited edits).entries = snapshot.entries ∧
      Ascending (edited edits).entries ∧
      (∀ entry ∈ (edited edits).entries, entry.2 ≠ 0) ∧
      ((∀ device, (edited edits).get? device = (edited others).get? device) →
        edited edits = edited others ∧ snapshot = Snapshot.edited others ∧
          snapshot.digest = (Snapshot.edited others).digest) ∧
      (∀ (entries : List (DeviceId × Seq)) (device : DeviceId),
        IsGreatest (insert 0 {seq | (device, seq) ∈ entries})
            ((Snapshot.ofEntries entries).seqOf device) ∧
          (Snapshot.ofEntries entries).get? device =
            if (Snapshot.ofEntries entries).seqOf device = 0 then none
            else some ((Snapshot.ofEntries entries).seqOf device)) ∧
      (∀ entries repeated : List (DeviceId × Seq), (∀ entry, entry ∈ repeated ↔ entry ∈ entries) →
        Snapshot.ofEntries repeated = Snapshot.ofEntries entries) ∧
      ∀ (device : DeviceId) (seq : Seq),
        (edited edits).merge device seq =
            (⟨(snapshot.merge device seq).entries⟩, snapshot.isRaisedBy device seq) ∧
          (snapshot.isRaisedBy device seq = true ↔ snapshot.merge device seq ≠ snapshot) ∧
          ∀ other, other ≠ device →
            (snapshot.merge device seq).get? other = snapshot.get? other := by
  intro snapshot
  have plain : edited edits = snapshot.tally := edited_eq edits
  rw [plain, edited_eq others]
  refine ⟨rfl, snapshot.seqs.ordered, snapshot.nonzero, ?_, ?_, ?_, ?_⟩
  · intro agree
    have same : snapshot = Snapshot.edited others :=
      Snapshot.eq_of_seqs (SortedMap.ext_find? agree)
    exact ⟨congrArg Snapshot.tally same, same, congrArg Snapshot.digest same⟩
  · intro entries device
    exact ⟨Snapshot.isGreatest_seqOf_mergeAll .empty entries device, Snapshot.get?_eq _ _⟩
  · intro entries repeated same
    exact Snapshot.ofEntries_congr same
  · intro device seq
    refine ⟨merge_tally snapshot device seq, Snapshot.merge_ne_self_iff.symm, ?_⟩
    intro other away
    exact Snapshot.get?_merge_of_ne snapshot away seq

/-- Two devices get their numbers from a list that names one of them twice and holds a zero. -/
def directEdits : List SnapshotEdit :=
  [.load [(⟨.ofTexts ["b"]⟩, 2), (⟨.ofTexts ["a"]⟩, 5), (⟨.ofTexts ["b"]⟩, 7),
      (⟨.ofTexts ["c"]⟩, 0)],
    .merge ⟨.ofTexts ["a"]⟩ 3]

/-- The same devices are met in the other order, the one number is lowered, and a third device comes
and goes. -/
def detourEdits : List SnapshotEdit :=
  [.merge ⟨.ofTexts ["d"]⟩ 4, .clear, .merge ⟨.ofTexts ["b"]⟩ 7, .merge ⟨.ofTexts ["a"]⟩ 9,
    .apply [.update ⟨.ofTexts ["a"]⟩ 5 none, .update ⟨.ofTexts ["c"]⟩ 1 none,
      .update ⟨.ofTexts ["c"]⟩ 0 none, .delete ⟨.ofTexts ["d"]⟩ none]]

/-- Both ways lead to the same snapshot, without a zero, as a list with its entries in another order
and repeated does; and merging a number of the one device leaves the other one's alone. -/
theorem edits_are_canonical_detour :
    Snapshot.edited directEdits = Snapshot.edited detourEdits ∧
      (Snapshot.edited directEdits).digest = (Snapshot.edited detourEdits).digest ∧
      ((⟨.ofTexts ["b"]⟩, 7) : DeviceId × Seq).2 ≠ 0 ∧
      Snapshot.ofEntries [(⟨.ofTexts ["b"]⟩, 7), (⟨.ofTexts ["a"]⟩, 5), (⟨.ofTexts ["b"]⟩, 7)] =
        Snapshot.ofEntries [(⟨.ofTexts ["a"]⟩, 5), (⟨.ofTexts ["b"]⟩, 7)] ∧
      ((Snapshot.edited directEdits).merge ⟨.ofTexts ["b"]⟩ 9).get? ⟨.ofTexts ["a"]⟩ = some 5 := by
  obtain ⟨-, -, nonzero, agree, -, repeats, merges⟩ := edits_are_canonical directEdits detourEdits
  have entries : (edited directEdits).entries = (edited detourEdits).entries := by decide +kernel
  obtain ⟨-, same, digests⟩ := agree fun device => congrArg (Entries.find? · device) entries
  obtain ⟨-, -, others⟩ := merges ⟨.ofTexts ["b"]⟩ 9
  refine ⟨same, digests, nonzero _ (by decide +kernel), repeats _ _ (fun entry => ?_), ?_⟩
  · simp only [List.mem_cons, List.not_mem_nil, or_false]
    constructor
    · rintro (here | here | here)
      · exact Or.inr here
      · exact Or.inl here
      · exact Or.inr here
    · rintro (here | here)
      · exact Or.inr (Or.inl here)
      · exact Or.inl here
  · rw [others ⟨.ofTexts ["a"]⟩ (by decide +kernel)]
    decide +kernel

end Tally

end DigestSync
