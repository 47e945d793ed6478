import DigestSync.Proofs.Delta
import DigestSync.Proofs.Store.StateRows
import Mathlib.Data.List.Forall2

set_option autoImplicit false

/-! # Differences told by rows

The rows in which two recorded states differ, read as records and sorted by device, are
the records of the two states' side-by-side walk, each with the device's present
locator.
-/

namespace DigestSync

namespace TableStore

variable {includeOld : Bool}

/-! ## Reading records -/

theorem toRecords_append {front back : List Difference} {early late : List DeltaRecord}
    (here : toRecords includeOld front = .ok early)
    (there : toRecords includeOld back = .ok late) :
    toRecords includeOld (front ++ back) = .ok (early ++ late) := by
  induction front generalizing early with
  | nil =>
    cases here
    exact there
  | cons difference rest ih =>
    unfold toRecords at here
    cases first : difference.toRecord includeOld with
    | error fault =>
      rw [first] at here
      cases here
    | ok record =>
      cases others : toRecords includeOld rest with
      | error fault =>
        rw [first, others] at here
        cases here
      | ok records =>
        rw [first, others] at here
        cases here
        rw [List.cons_append, toRecords, first, ih others]
        rfl

theorem toRecords_map {ε : Type} {told : ε → Difference} {record : ε → DeltaRecord}
    {entries : List ε}
    (reads : ∀ entry ∈ entries, (told entry).toRecord includeOld = .ok (record entry)) :
    toRecords includeOld (entries.map told) = .ok (entries.map record) := by
  induction entries with
  | nil => rfl
  | cons entry rest ih =>
    obtain ⟨here, later⟩ := List.forall_mem_cons.mp reads
    rw [List.map_cons, toRecords, here, ih later]
    rfl

/-- A record with the device's present locator. -/
def located (locators : SortedMap DeviceId Name) (record : DeltaRecord) : DeltaRecord :=
  { record with locator := locators.find? record.device }

variable {locators : SortedMap DeviceId Name}

/-- A difference of an entry of the new state is read as its update. -/
theorem toRecord_update {come : DeviceId × Seq} (proper : come.1.IsProper)
    (places : ∀ device name, locators.find? device = some name → name.IsProper)
    (old : List (DeviceId × Seq)) :
    (Difference.mk come.1.render (some (toCell come.2))
        ((Entries.find? old come.1).map toCell)
        ((locators.find? come.1).map Name.render)).toRecord includeOld =
      .ok (located locators (Snapshot.updateOf includeOld old come)) := by
  have seq : (((Entries.find? old come.1).map toCell).map ofCell).getD 0 =
      (Entries.find? old come.1).getD 0 := by
    cases Entries.find? old come.1 <;> simp
  simp only [Difference.toRecord, parseDevice_render proper, seq]
  cases place : locators.find? come.1 with
  | none => simp [located, Snapshot.updateOf, DeltaRecord.update, place]
  | some name =>
    simp only [Option.map_some, parseName_render (places _ _ place)]
    simp [located, Snapshot.updateOf, DeltaRecord.update, place]
    rfl

/-- A difference of an entry whose device is gone is read as its deletion. -/
theorem toRecord_delete {gone : DeviceId × Seq} (proper : gone.1.IsProper)
    (places : ∀ device name, locators.find? device = some name → name.IsProper) :
    (Difference.mk gone.1.render none (some (toCell gone.2))
        ((locators.find? gone.1).map Name.render)).toRecord includeOld =
      .ok (located locators (Snapshot.deleteOf includeOld gone)) := by
  simp only [Difference.toRecord, parseDevice_render proper]
  cases place : locators.find? gone.1 with
  | none => simp [located, Snapshot.deleteOf, DeltaRecord.delete, place]
  | some name =>
    simp only [Option.map_some, parseName_render (places _ _ place)]
    simp [located, Snapshot.deleteOf, DeltaRecord.delete, place]
    rfl

/-! ## The rows that differ -/

/-- The number in the rows of a state is found under the written form of its device. -/
theorem seq_of_order {order : List (DeviceId × Seq)} {state : Snapshot}
    (perm : order.Perm state.entries) (proper : ∀ entry ∈ state.entries, entry.1.IsProper)
    {device : DeviceId} (own : device.IsProper) (digest : Digest) (text : String)
    (written : text = device.render) :
    ((order.map (stateRowOf digest)).find? fun row => row.device = text).map (·.seq) =
      (state.get? device).map toCell := by
  subst written
  have distinct : ((order.map (stateRowOf digest)).map (·.device)).Nodup := by
    rw [List.map_map]
    refine List.Nodup.map_on ?_ (perm.nodup_iff.mpr state.seqs.ordered.nodup.of_map)
    intro left here right there same
    exact state.seqs.ordered.eq_of_mem (perm.subset here) (perm.subset there)
      (DeviceId.render_injective (proper left (perm.subset here))
        (proper right (perm.subset there)) same)
  refine Option.ext ?_
  intro cell
  simp only [Option.map_eq_some_iff, find?_key_eq_some_iff distinct, List.mem_map]
  constructor
  · rintro ⟨_, ⟨⟨entry, member, rfl⟩, same⟩, rfl⟩
    have inside := perm.subset member
    have here : entry.1 = device := DeviceId.render_injective (proper entry inside) own same
    subst here
    exact ⟨entry.2, Snapshot.get?_eq_some_iff.mpr inside, rfl⟩
  · rintro ⟨seq, found, rfl⟩
    exact ⟨_, ⟨⟨(device, seq), perm.mem_iff.mpr (Snapshot.get?_eq_some_iff.mp found), rfl⟩, rfl⟩,
      rfl⟩

section Filters

variable {olds news : List (DeviceId × Seq)} {before after : Snapshot}

/-- The rows of the new state whose number differs are those of its entries that do. -/
theorem filter_changed (permOld : olds.Perm before.entries)
    (properOld : ∀ entry ∈ before.entries, entry.1.IsProper)
    (properNews : ∀ come ∈ news, come.1.IsProper) (old new : Digest) :
    ((news.map (stateRowOf new)).filter fun row =>
      (((olds.map (stateRowOf old)).find? fun other => other.device = row.device).map (·.seq)) ≠
        some row.seq) =
      (news.filter fun come => before.get? come.1 ≠ some come.2).map (stateRowOf new) := by
  rw [List.filter_map]
  refine congrArg _ (List.filter_congr ?_)
  intro come member
  simp only [Function.comp]
  rw [seq_of_order permOld properOld (properNews come member) old (stateRowOf new come).device rfl]
  cases before.get? come.1 with
  | none => simp
  | some seq =>
    have cells : toCell seq = toCell come.2 ↔ seq = come.2 :=
      ⟨fun same => toCell_injective same, congrArg toCell⟩
    simp [stateRowOf, cells]

/-- The rows of the old state whose device is gone are those of its entries that are. -/
theorem filter_gone (permNew : news.Perm after.entries)
    (properNew : ∀ entry ∈ after.entries, entry.1.IsProper)
    (properOlds : ∀ gone ∈ olds, gone.1.IsProper) (old new : Digest) :
    ((olds.map (stateRowOf old)).filter fun row =>
      (((news.map (stateRowOf new)).find? fun other => other.device = row.device).map
        (·.seq)).isNone) =
      (olds.filter fun gone => (after.get? gone.1).isNone).map (stateRowOf old) := by
  rw [List.filter_map]
  refine congrArg _ (List.filter_congr ?_)
  intro gone member
  simp only [Function.comp]
  rw [seq_of_order permNew properNew (properOlds gone member) new (stateRowOf old gone).device rfl,
    Option.isNone_map]

end Filters

/-- The updates and deletions in the order of the rows, each with its locator. -/
def recordsOf (includeOld : Bool) (locators : SortedMap DeviceId Name) (before after : Snapshot)
    (olds news : List (DeviceId × Seq)) : List DeltaRecord :=
  ((news.filter fun come => before.get? come.1 ≠ some come.2).map fun come =>
      located locators (Snapshot.updateOf includeOld before.entries come)) ++
    (olds.filter fun gone => (after.get? gone.1).isNone).map fun gone =>
      located locators (Snapshot.deleteOf includeOld gone)

/-- They are the records of the side-by-side walk in another order. -/
theorem recordsOf_perm {before after : Snapshot} {olds news : List (DeviceId × Seq)}
    (permOld : olds.Perm before.entries) (permNew : news.Perm after.entries) :
    (recordsOf includeOld locators before after olds news).Perm
      ((before.diff after includeOld).map (located locators)) := by
  have placed : recordsOf includeOld locators before after olds news =
      (Snapshot.passes includeOld before after olds news).map (located locators) := by
    rw [Snapshot.passes, List.map_append, List.map_map, List.map_map]
    rfl
  rw [placed]
  exact (Snapshot.passes_perm permOld permNew).map _

variable {rows : List DeviceRow} {seqs : SortedMap DeviceId Seq} {digests : List Digest}
  {states : List StateRow} {recorded : SortedMap Digest Snapshot}

/-- The rows that differ are read as the records of the side-by-side walk. -/
theorem StatesAgree.toRecords_differences (agree : StatesAgree digests states recorded)
    (devices : DevicesAgree rows seqs locators) (old new : Digest) (includeOld : Bool) :
    (toRecords includeOld
        (differences rows (stateRows states old) (stateRows states new))).map
      (fun records => records.mergeSort fun left right =>
        (compare left.device right.device).isLE) =
      .ok (((stateOf recorded old).diff (stateOf recorded new) includeOld).map
        (located locators)) := by
  obtain ⟨olds, permOld, oldRows⟩ := agree.exists_order old
  obtain ⟨news, permNew, newRows⟩ := agree.exists_order new
  have properOld := agree.proper_stateOf old
  have properNew := agree.proper_stateOf new
  have places : ∀ device name, locators.find? device = some name → name.IsProper :=
    fun device name place => (devices.located device name place).1
  have changed := filter_changed permOld properOld
    (fun come member => properNew come (permNew.subset member)) old new
  have gone := filter_gone permNew properNew
    (fun entry member => properOld entry (permOld.subset member)) old new
  have read : toRecords includeOld
      (differences rows (stateRows states old) (stateRows states new)) =
      .ok (recordsOf includeOld locators (stateOf recorded old) (stateOf recorded new) olds
        news) := by
    rw [oldRows, newRows]
    unfold differences
    simp only
    rw [changed, gone, List.map_map, List.map_map]
    apply toRecords_append
    · apply toRecords_map
      intro come member
      have own := properNew come (permNew.subset (List.mem_filter.mp member).1)
      simp only [Function.comp]
      rw [seq_of_order permOld properOld own old (stateRowOf new come).device rfl,
        devices.locator_eq own (stateRowOf new come).device rfl]
      exact toRecord_update own places (stateOf recorded old).entries
    · apply toRecords_map
      intro entry member
      have own := properOld entry (permOld.subset (List.mem_filter.mp member).1)
      simp only [Function.comp]
      rw [devices.locator_eq own (stateRowOf old entry).device rfl]
      exact toRecord_delete own places
  rw [read]
  refine congrArg Except.ok
    (mergeSort_eq_of_pairwise DeltaRecord.device (recordsOf_perm permOld permNew) ?_)
  exact List.pairwise_map.mpr (Snapshot.pairwise_diff _ _ _)

end TableStore

end DigestSync
