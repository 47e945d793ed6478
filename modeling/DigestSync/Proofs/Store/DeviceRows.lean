import DigestSync.Proofs.Data.Keyed
import DigestSync.Proofs.Name.Text
import DigestSync.Proofs.Snapshot
import DigestSync.Store.Table

set_option autoImplicit false

/-! # The rows of devices

The rows of the device table agree with two maps, the numbers and the locators of the
devices, if there is one row for each number, with the device and its locator in their
written forms and the number as the cell with the same bits.  Rows are then found under
the written forms of the devices, and read back as what the maps tell.
-/

namespace DigestSync

namespace TableStore

@[simp] theorem ofCell_toCell (seq : Seq) : ofCell (toCell seq) = seq := by
  simp [ofCell, toCell]

theorem toCell_injective {left right : Seq} (same : toCell left = toCell right) : left = right := by
  rw [← ofCell_toCell left, same, ofCell_toCell]

theorem toCell_eq_zero_iff (seq : Seq) : toCell seq = 0 ↔ seq = 0 :=
  ⟨fun zero => toCell_injective zero, fun zero => by rw [zero]; rfl⟩

theorem parseName_render {name : Name} (proper : name.IsProper) :
    parseName name.render = .ok name := by
  rw [parseName, Name.parse_render proper]

theorem parseDevice_render {device : DeviceId} (proper : device.IsProper) :
    parseDevice device.render = .ok device := by
  rw [parseDevice, DeviceId.parse_render proper]

/-- The row of a device with its number. -/
def deviceRowOf (locators : SortedMap DeviceId Name) (entry : DeviceId × Seq) : DeviceRow :=
  ⟨entry.1.render, toCell entry.2, (locators.find? entry.1).map Name.render⟩

/-- The rows of devices agree with their numbers and locators. -/
structure DevicesAgree (rows : List DeviceRow) (seqs : SortedMap DeviceId Seq)
    (locators : SortedMap DeviceId Name) : Prop where
  distinct : (rows.map (·.device)).Nodup
  mem : ∀ row, row ∈ rows ↔ ∃ entry ∈ seqs.entries, row = deviceRowOf locators entry
  proper : ∀ entry ∈ seqs.entries, entry.1.IsProper
  located : ∀ device name, locators.find? device = some name →
    name.IsProper ∧ ∃ seq, seqs.find? device = some seq

variable {rows : List DeviceRow} {seqs : SortedMap DeviceId Seq}
  {locators : SortedMap DeviceId Name}

theorem devicesAgree_empty : DevicesAgree [] .empty .empty where
  distinct := List.nodup_nil
  mem := by simp [SortedMap.empty]
  proper := by simp [SortedMap.empty]
  located := by simp

/-! ## Finding rows -/

theorem DevicesAgree.deviceRow?_eq (agree : DevicesAgree rows seqs locators)
    {device : DeviceId} (proper : device.IsProper) :
    deviceRow? rows device.render =
      (seqs.find? device).map fun seq => deviceRowOf locators (device, seq) := by
  refine Option.ext ?_
  intro row
  rw [deviceRow?, find?_key_eq_some_iff agree.distinct, agree.mem, Option.map_eq_some_iff]
  constructor
  · rintro ⟨⟨entry, member, rfl⟩, same⟩
    have here : entry.1 = device :=
      DeviceId.render_injective (agree.proper entry member) proper same
    subst here
    exact ⟨entry.2, SortedMap.find?_eq_some_iff.mpr member, rfl⟩
  · rintro ⟨seq, found, rfl⟩
    exact ⟨⟨(device, seq), SortedMap.find?_eq_some_iff.mp found, rfl⟩, rfl⟩

/-- The locator found in the row of a device is its locator. -/
theorem DevicesAgree.locator_eq (agree : DevicesAgree rows seqs locators)
    {device : DeviceId} (proper : device.IsProper) (text : String)
    (written : text = device.render) :
    (deviceRow? rows text).bind (·.locator) = (locators.find? device).map Name.render := by
  rw [written, agree.deviceRow?_eq proper]
  cases found : seqs.find? device with
  | some seq => rfl
  | none =>
    cases place : locators.find? device with
    | none => rfl
    | some name =>
      obtain ⟨-, seq, known⟩ := agree.located device name place
      rw [found] at known
      cases known

/-- The rows in their order, as images of the entries. -/
theorem DevicesAgree.exists_order (agree : DevicesAgree rows seqs locators) :
    ∃ order : List (DeviceId × Seq), order.Perm seqs.entries ∧
      rows = order.map (deviceRowOf locators) := by
  refine exists_perm_map agree.distinct.of_map seqs.ordered.nodup.of_map agree.mem ?_
  intro left here right there same
  have device : left.1 = right.1 := DeviceId.render_injective (agree.proper left here)
    (agree.proper right there) (congrArg DeviceRow.device same)
  exact Prod.ext device (toCell_injective (congrArg DeviceRow.seq same))

/-! ## Writing rows -/

theorem mem_putDeviceRow {new row : DeviceRow} :
    row ∈ putDeviceRow rows new ↔ row = new ∨ row ∈ rows ∧ row.device ≠ new.device := by
  unfold putDeviceRow
  split
  · rename_i taken
    obtain ⟨old, found⟩ := Option.isSome_iff_exists.mp taken
    have stored := List.mem_of_find?_eq_some found
    have same : old.device = new.device := by simpa using List.find?_some found
    rw [List.mem_map]
    constructor
    · rintro ⟨other, member, rfl⟩
      by_cases here : other.device = new.device
      · simp [here]
      · simp [here, member]
    · rintro (rfl | ⟨member, away⟩)
      · exact ⟨old, stored, by simp [same]⟩
      · exact ⟨row, member, by simp [away]⟩
  · rename_i free
    have away : ∀ other ∈ rows, other.device ≠ new.device := by
      simpa [deviceRow?] using free
    rw [List.mem_append, List.mem_singleton, or_comm]
    exact or_congr_right ⟨fun member => ⟨member, away row member⟩, And.left⟩

theorem nodup_putDeviceRow (distinct : (rows.map (·.device)).Nodup) (new : DeviceRow) :
    ((putDeviceRow rows new).map (·.device)).Nodup := by
  unfold putDeviceRow
  split
  · have same : (rows.map fun row => if row.device = new.device then new else row).map
        (·.device) = rows.map (·.device) := by
      rw [List.map_map]
      refine List.map_congr_left ?_
      intro row _
      by_cases here : row.device = new.device <;> simp [here]
    rw [same]
    exact distinct
  · rename_i free
    have fresh : new.device ∉ rows.map (·.device) := by
      simpa [deviceRow?] using free
    rw [List.map_append]
    exact List.Nodup.append distinct (List.nodup_singleton _) (by simpa using fresh)

/-- Writing the row of a device agrees with binding its number and its locator. -/
theorem DevicesAgree.put (agree : DevicesAgree rows seqs locators) {device : DeviceId}
    (proper : device.IsProper) (seq : Seq) {places : SortedMap DeviceId Name}
    (others : ∀ other, other ≠ device → places.find? other = locators.find? other)
    (own : ∀ name, places.find? device = some name → name.IsProper) :
    DevicesAgree (putDeviceRow rows (deviceRowOf places (device, seq)))
      (seqs.insert device seq) places where
  distinct := nodup_putDeviceRow agree.distinct _
  mem := by
    intro row
    rw [mem_putDeviceRow, agree.mem]
    constructor
    · rintro (rfl | ⟨⟨entry, member, rfl⟩, away⟩)
      · exact ⟨(device, seq), SortedMap.mem_insert_iff.mpr (Or.inl rfl), rfl⟩
      · have apart : entry.1 ≠ device := fun here => away (congrArg DeviceId.render here)
        refine ⟨entry, SortedMap.mem_insert_iff.mpr (Or.inr ⟨member, apart⟩), ?_⟩
        rw [deviceRowOf, deviceRowOf, others entry.1 apart]
    · rintro ⟨entry, member, rfl⟩
      rcases SortedMap.mem_insert_iff.mp member with rfl | ⟨old, apart⟩
      · exact Or.inl rfl
      · refine Or.inr ⟨⟨entry, old, ?_⟩, ?_⟩
        · rw [deviceRowOf, deviceRowOf, others entry.1 apart]
        · intro same
          exact apart (DeviceId.render_injective (agree.proper entry old) proper same)
  proper := by
    intro entry member
    rcases SortedMap.mem_insert_iff.mp member with rfl | ⟨old, -⟩
    · exact proper
    · exact agree.proper entry old
  located := by
    intro other name place
    by_cases here : other = device
    · subst here
      exact ⟨own name place, seq, by rw [SortedMap.find?_insert, if_pos rfl]⟩
    · rw [others other here] at place
      obtain ⟨fits, known⟩ := agree.located other name place
      exact ⟨fits, by rwa [SortedMap.find?_insert, if_neg here]⟩

/-! ## Reading entries -/

/-- Entries of proper devices are read back from their written forms. -/
theorem parseEntries_map {entries : List (DeviceId × Seq)}
    (proper : ∀ entry ∈ entries, entry.1.IsProper) :
    parseEntries (entries.map fun entry => (entry.1.render, toCell entry.2)) = .ok entries := by
  induction entries with
  | nil => rfl
  | cons entry rest ih =>
    obtain ⟨here, later⟩ := List.forall_mem_cons.mp proper
    rw [List.map_cons, parseEntries, parseDevice_render here, ih later]
    simp only [ofCell_toCell]
    rfl

/-- The current state is read back from the rows. -/
theorem DevicesAgree.currentState_eq (agree : DevicesAgree rows seqs locators) :
    (parseEntries ((rows.filter fun row => row.seq ≠ 0).map fun row => (row.device, row.seq))).map
        Snapshot.ofEntries = .ok (Snapshot.ofMap seqs) := by
  obtain ⟨order, perm, rfl⟩ := agree.exists_order
  have cells : (((order.map (deviceRowOf locators)).filter fun row => row.seq ≠ 0).map fun row =>
      (row.device, row.seq)) = (order.filter fun entry => entry.2 ≠ 0).map fun entry =>
        (entry.1.render, toCell entry.2) := by
    rw [List.filter_map, List.map_map]
    refine congrArg _ (List.filter_congr fun entry _ => ?_)
    simp [deviceRowOf, toCell_eq_zero_iff]
  have proper : ∀ entry ∈ order.filter fun entry => entry.2 ≠ 0, entry.1.IsProper :=
    fun entry member => agree.proper entry (perm.subset (List.mem_filter.mp member).1)
  have distinct : (order.map (·.1)).Nodup := (perm.map _).nodup_iff.mpr seqs.ordered.nodup
  rw [cells, parseEntries_map proper]
  refine congrArg Except.ok (Snapshot.ofEntries_eq ?_ fun entry => ?_)
  · exact distinct.sublist (List.filter_sublist.map _)
  · rw [List.mem_filter, Snapshot.mem_entries_ofMap, perm.mem_iff]
    simp

end TableStore

end DigestSync
