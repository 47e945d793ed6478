import DigestSync.Proofs.Store.DeviceRows

set_option autoImplicit false

/-! # The rows of recorded states

The digests and the state rows agree with a map from digests to states if they list
the digests that are bound, and for each of them one row an entry of its state.  The
rows of a digest are then read back as its state, and recording a state replaces them.
-/

namespace DigestSync

namespace TableStore

/-- The row of an entry of a recorded state. -/
def stateRowOf (digest : Digest) (entry : DeviceId × Seq) : StateRow :=
  ⟨digest, entry.1.render, toCell entry.2⟩

/-- The digests and the rows of states agree with the states recorded. -/
structure StatesAgree (digests : List Digest) (states : List StateRow)
    (recorded : SortedMap Digest Snapshot) : Prop where
  known : ∀ digest, digest ∈ digests ↔ ∃ state, recorded.find? digest = some state
  distinct : (states.map fun row => (row.digest, row.device)).Nodup
  mem : ∀ row, row ∈ states ↔ ∃ digest state, recorded.find? digest = some state ∧
    ∃ entry ∈ state.entries, row = stateRowOf digest entry
  proper : ∀ digest state, recorded.find? digest = some state →
    ∀ entry ∈ state.entries, entry.1.IsProper

/-- The state recorded under a digest, the empty one if there is none. -/
def stateOf (recorded : SortedMap Digest Snapshot) (digest : Digest) : Snapshot :=
  (recorded.find? digest).getD Snapshot.empty

variable {digests : List Digest} {states : List StateRow}
  {recorded : SortedMap Digest Snapshot}

theorem statesAgree_empty : StatesAgree [] [] .empty where
  known := by simp
  distinct := List.nodup_nil
  mem := by simp
  proper := by simp

theorem StatesAgree.proper_stateOf (agree : StatesAgree digests states recorded)
    (digest : Digest) : ∀ entry ∈ (stateOf recorded digest).entries, entry.1.IsProper := by
  unfold stateOf
  cases found : recorded.find? digest with
  | none => simp [Snapshot.empty, Snapshot.entries, SortedMap.empty]
  | some state => exact agree.proper digest state found

theorem stateRowOf_injective {digest : Digest} {left right : DeviceId × Seq}
    (here : left.1.IsProper) (there : right.1.IsProper)
    (same : stateRowOf digest left = stateRowOf digest right) : left = right :=
  Prod.ext (DeviceId.render_injective here there (congrArg StateRow.device same))
    (toCell_injective (congrArg StateRow.seq same))

/-- The rows of a digest in their order, as images of its state's entries. -/
theorem StatesAgree.exists_order (agree : StatesAgree digests states recorded)
    (digest : Digest) :
    ∃ order : List (DeviceId × Seq), order.Perm (stateOf recorded digest).entries ∧
      stateRows states digest = order.map (stateRowOf digest) := by
  have proper := agree.proper_stateOf digest
  refine exists_perm_map ?_ (stateOf recorded digest).seqs.ordered.nodup.of_map (fun row => ?_) ?_
  · exact (List.mergeSort_perm _ _).nodup_iff.mpr (agree.distinct.of_map.filter _)
  · rw [stateRows, List.mem_mergeSort, List.mem_filter, agree.mem, decide_eq_true_eq]
    constructor
    · rintro ⟨⟨other, state, found, entry, member, rfl⟩, rfl⟩
      refine ⟨entry, ?_, rfl⟩
      show entry ∈ (stateOf recorded other).entries
      rwa [stateOf, found]
    · rintro ⟨entry, member, rfl⟩
      unfold stateOf at member
      cases found : recorded.find? digest with
      | none =>
        rw [found] at member
        cases member
      | some state =>
        rw [found] at member
        exact ⟨⟨digest, state, found, entry, member, rfl⟩, rfl⟩
  · exact fun left here right there same =>
      stateRowOf_injective (proper left here) (proper right there) same

/-- The state of a digest is read back from its rows. -/
theorem StatesAgree.ofEntries_eq (agree : StatesAgree digests states recorded)
    (digest : Digest) :
    (parseEntries ((stateRows states digest).map fun row => (row.device, row.seq))).map
        Snapshot.ofEntries = .ok (stateOf recorded digest) := by
  obtain ⟨order, perm, rows⟩ := agree.exists_order digest
  have proper : ∀ entry ∈ order, entry.1.IsProper :=
    fun entry member => agree.proper_stateOf digest entry (perm.subset member)
  have cells : (order.map (stateRowOf digest)).map (fun row => (row.device, row.seq)) =
      order.map fun entry => (entry.1.render, toCell entry.2) := by
    rw [List.map_map]
    rfl
  rw [rows, cells, parseEntries_map proper]
  refine congrArg Except.ok (Snapshot.ofEntries_eq ?_ fun entry => perm.mem_iff)
  exact (perm.map _).nodup_iff.mpr (stateOf recorded digest).seqs.ordered.nodup

/-- No device has two rows in a state. -/
theorem nodup_stateRows {state : Snapshot} (proper : ∀ entry ∈ state.entries, entry.1.IsProper)
    (digest : Digest) :
    ((state.entries.map (stateRowOf digest)).map fun row => (row.digest, row.device)).Nodup := by
  rw [List.map_map]
  apply List.Nodup.map_on _ state.seqs.ordered.nodup.of_map
  intro left here right there same
  have device : left.1 = right.1 := DeviceId.render_injective (proper left here)
    (proper right there) (congrArg Prod.snd same)
  exact state.seqs.ordered.eq_of_mem here there device

/-- Recording a state replaces what was recorded under its digest. -/
theorem StatesAgree.record (agree : StatesAgree digests states recorded) (digest : Digest)
    {state : Snapshot} (proper : ∀ entry ∈ state.entries, entry.1.IsProper) :
    StatesAgree ((digests.filter fun other => other ≠ digest) ++ [digest])
      ((states.filter fun row => row.digest ≠ digest) ++ state.entries.map (stateRowOf digest))
      (recorded.insert digest state) where
  known := by
    intro other
    rw [SortedMap.find?_insert]
    by_cases here : other = digest
    · simp [here]
    · simp [here, agree.known]
  distinct := by
    rw [List.map_append]
    refine List.Nodup.append (agree.distinct.sublist (List.filter_sublist.map _))
      (nodup_stateRows proper digest) ?_
    intro key kept written
    obtain ⟨row, member, rfl⟩ := List.mem_map.mp kept
    obtain ⟨other, inside, same⟩ := List.mem_map.mp written
    obtain ⟨entry, -, rfl⟩ := List.mem_map.mp inside
    have away : row.digest ≠ digest := by simpa using (List.mem_filter.mp member).2
    exact away (congrArg Prod.fst same).symm
  mem := by
    intro row
    rw [List.mem_append, List.mem_filter, agree.mem, List.mem_map]
    constructor
    · rintro (⟨⟨other, old, found, entry, member, rfl⟩, away⟩ | ⟨entry, member, rfl⟩)
      · have apart : other ≠ digest := of_decide_eq_true away
        exact ⟨other, old, by rw [SortedMap.find?_insert, if_neg apart, found], entry, member, rfl⟩
      · exact ⟨digest, state, by rw [SortedMap.find?_insert, if_pos rfl], entry, member, rfl⟩
    · rintro ⟨other, old, found, entry, member, rfl⟩
      rw [SortedMap.find?_insert] at found
      by_cases here : other = digest
      · rw [if_pos here] at found
        cases found
        exact Or.inr ⟨entry, member, by rw [here]⟩
      · rw [if_neg here] at found
        exact Or.inl ⟨⟨other, old, found, entry, member, rfl⟩, decide_eq_true here⟩
  proper := by
    intro other old found
    rw [SortedMap.find?_insert] at found
    by_cases here : other = digest
    · rw [if_pos here] at found
      cases found
      exact proper
    · rw [if_neg here] at found
      exact agree.proper other old found

end TableStore

end DigestSync
