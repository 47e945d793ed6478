import DigestSync.Proofs.Join
import DigestSync.Proofs.Store.DigestLog
import DigestSync.Proofs.Sync.Turn
import DigestSync.Sync.Hearing

set_option autoImplicit false

/-! # What tables make of a message

Tables keep the written forms of devices, and read them back without their empty components.  So a
number that is merged counts for the device whose name lacks these, and a number of a device
without a name, which a message may carry, keeps the tables from reading any state.
-/

namespace DigestSync

open scoped SeqOrder

namespace TableStore

/-! ## Reading rows -/

/-- No device is read back from the written form of one without a name. -/
def nameless : StoreFault := .malformed (.name "device identity cannot be empty")

theorem parseDevice_of_isNamed {device : DeviceId} (named : device.IsNamed) :
    parseDevice device.render = .ok device.compact := by
  rw [parseDevice, DeviceId.parse_render_of_isNamed named]

theorem parseDevice_of_not_isNamed {device : DeviceId} (bare : ¬ device.IsNamed) :
    parseDevice device.render = .error nameless := by
  rw [parseDevice, DeviceId.parse_render_of_not_isNamed bare]
  rfl

/-- What is read back from the written form of a device has its name without empty components. -/
theorem eq_compact_of_parseDevice {device read : DeviceId}
    (parsed : parseDevice device.render = .ok read) : device.IsNamed ∧ read = device.compact := by
  by_cases named : device.IsNamed
  · rw [parseDevice_of_isNamed named] at parsed
    cases parsed
    exact ⟨named, rfl⟩
  · rw [parseDevice_of_not_isNamed named] at parsed
    cases parsed

/-- The state that is read from the rows of devices. -/
def readRows (rows : List DeviceRow) : Except StoreFault Snapshot :=
  (parseEntries ((rows.filter fun row => row.seq ≠ 0).map fun row => (row.device, row.seq))).map
    Snapshot.ofEntries

theorem currentState_toStore (rows : Rows) : rows.toStore.currentState = readRows rows.devices := by
  simp only [TableStore.currentState, Rows.toStore, rowsOf, bind, Except.bind, pure, Except.pure,
    readRows]
  cases parseEntries ((rows.devices.filter fun row => row.seq ≠ 0).map
    fun row => (row.device, row.seq)) <;> rfl

theorem parseEntries_cons (text : String) (cell : Int64) (rest : List (String × Int64)) :
    parseEntries ((text, cell) :: rest) =
      (parseDevice text).bind fun device =>
        (parseEntries rest).map fun entries => (device, ofCell cell) :: entries := by
  simp only [parseEntries, bind, Except.bind]
  cases parseDevice text with
  | error fault => rfl
  | ok device => cases parseEntries rest <;> rfl

/-- Cells whose texts all stand for devices are read as the entries of these. -/
theorem exists_entries {cells : List (String × Int64)}
    (legible : ∀ cell ∈ cells, ∃ device, parseDevice cell.1 = .ok device) :
    ∃ entries, parseEntries cells = .ok entries ∧
      ∀ device seq, (device, seq) ∈ entries ↔
        ∃ cell ∈ cells, parseDevice cell.1 = .ok device ∧ ofCell cell.2 = seq := by
  induction cells with
  | nil => exact ⟨[], rfl, by simp⟩
  | cons cell rest ih =>
    obtain ⟨text, value⟩ := cell
    obtain ⟨⟨read, here⟩, later⟩ := List.forall_mem_cons.mp legible
    obtain ⟨entries, there, listed⟩ := ih later
    refine ⟨(read, ofCell value) :: entries, ?_, fun device seq => ?_⟩
    · rw [parseEntries_cons, here, there]
      rfl
    · rw [List.mem_cons, listed, List.exists_mem_cons_iff, here]
      refine or_congr_left ?_
      simp [eq_comm]

/-- If the texts of all cells stand for devices or lack a name, and one of them lacks it, then this
is what is reported. -/
theorem parseEntries_nameless {cells : List (String × Int64)}
    (written : ∀ cell ∈ cells,
      (∃ device, parseDevice cell.1 = .ok device) ∨ parseDevice cell.1 = .error nameless)
    (bare : ∃ cell ∈ cells, parseDevice cell.1 = .error nameless) :
    parseEntries cells = .error nameless := by
  induction cells with
  | nil => simp at bare
  | cons cell rest ih =>
    obtain ⟨text, value⟩ := cell
    obtain ⟨here, later⟩ := List.forall_mem_cons.mp written
    rw [parseEntries_cons]
    rcases here with ⟨device, read⟩ | fault
    · have further : ∃ cell ∈ rest, parseDevice cell.1 = .error nameless := by
        obtain ⟨cell, member, lost⟩ := bare
        rcases List.mem_cons.mp member with rfl | there
        · rw [read] at lost
          cases lost
        · exact ⟨cell, there, lost⟩
      rw [read, ih later further]
      rfl
    · rw [fault]
      rfl

/-! ## What rows tell -/

/-- Each row is that of a device. -/
structure Written (rows : List DeviceRow) : Prop where
  distinct : (rows.map (·.device)).Nodup
  rendered : ∀ row ∈ rows, ∃ device : DeviceId, row.device = device.render

/-- The rows tell a state: all their numbers are read back and lie below it, and each of its
numbers is among them. -/
structure Tells (rows : List DeviceRow) (state : Snapshot) : Prop extends Written rows where
  below : ∀ row ∈ rows, row.seq ≠ 0 →
    ∃ device, parseDevice row.device = .ok device ∧ ofCell row.seq ≤ state.seqOf device
  reached : ∀ device, state.seqOf device ≠ 0 →
    ∃ row ∈ rows, parseDevice row.device = .ok device ∧ ofCell row.seq = state.seqOf device

/-- A row tells a number of a device without a name. -/
structure Nameless (rows : List DeviceRow) : Prop extends Written rows where
  lost : ∃ row ∈ rows, row.seq ≠ 0 ∧ parseDevice row.device = .error nameless

theorem ofCell_eq_zero_iff (cell : Int64) : ofCell cell = 0 ↔ cell = 0 := by
  have back : toCell (ofCell cell) = cell := by simp [ofCell, toCell]
  rw [← toCell_eq_zero_iff, back]

theorem Tells.readRows_eq {rows : List DeviceRow} {state : Snapshot} (tells : Tells rows state) :
    readRows rows = .ok state := by
  obtain ⟨entries, read, listed⟩ : ∃ entries, parseEntries
      ((rows.filter fun row => row.seq ≠ 0).map fun row => (row.device, row.seq)) = .ok entries ∧
        ∀ device seq, (device, seq) ∈ entries ↔ ∃ cell ∈ (rows.filter fun row => row.seq ≠ 0).map
          (fun row => (row.device, row.seq)), parseDevice cell.1 = .ok device ∧
            ofCell cell.2 = seq := by
    refine exists_entries fun cell member => ?_
    obtain ⟨row, inside, rfl⟩ := List.mem_map.mp member
    obtain ⟨kept, positive⟩ := List.mem_filter.mp inside
    obtain ⟨device, legible, -⟩ := tells.below row kept (by simpa using positive)
    exact ⟨device, legible⟩
  rw [readRows, read]
  refine congrArg Except.ok (le_antisymm (Snapshot.mergeAll_le (Snapshot.empty_le _) ?_) ?_)
  · rintro ⟨device, seq⟩ member
    obtain ⟨cell, inside, legible, rfl⟩ := (listed device seq).mp member
    obtain ⟨row, there, rfl⟩ := List.mem_map.mp inside
    obtain ⟨kept, positive⟩ := List.mem_filter.mp there
    obtain ⟨other, same, under⟩ := tells.below row kept (by simpa using positive)
    rw [legible] at same
    cases same
    exact under
  · intro device
    by_cases zero : state.seqOf device = 0
    · rw [zero]
      exact Snapshot.zero_le_seq _
    · obtain ⟨row, kept, legible, same⟩ := tells.reached device zero
      have positive : row.seq ≠ 0 := by
        rw [ne_eq, ← ofCell_eq_zero_iff, same]
        exact zero
      rw [← same]
      refine Snapshot.le_seqOf_mergeAll
        ((listed device _).mpr ⟨(row.device, row.seq), ?_, legible, rfl⟩)
      exact List.mem_map_of_mem (List.mem_filter.mpr ⟨kept, by simpa using positive⟩)

theorem Nameless.readRows_eq {rows : List DeviceRow} (bare : Nameless rows) :
    readRows rows = .error nameless := by
  rw [readRows, parseEntries_nameless]
  · rfl
  · intro cell member
    obtain ⟨row, inside, rfl⟩ := List.mem_map.mp member
    obtain ⟨device, text⟩ := bare.rendered row (List.mem_filter.mp inside).1
    rw [text]
    by_cases named : device.IsNamed
    · exact Or.inl ⟨_, parseDevice_of_isNamed named⟩
    · exact Or.inr (parseDevice_of_not_isNamed named)
  · obtain ⟨row, member, positive, lost⟩ := bare.lost
    exact ⟨(row.device, row.seq), List.mem_map_of_mem
      (List.mem_filter.mpr ⟨member, by simpa using positive⟩), lost⟩

/-! ## Writing rows -/

/-- The number that the row with a text tells, zero if there is none. -/
def toldSeq (rows : List DeviceRow) (text : String) : Seq :=
  ((deviceRow? rows text).map fun row => ofCell row.seq).getD 0

variable {rows : List DeviceRow} {state : Snapshot} {device : DeviceId} {seq : Seq}
  {new : DeviceRow}

theorem toldSeq_of_mem (written : Written rows) {row : DeviceRow} (member : row ∈ rows) :
    toldSeq rows row.device = ofCell row.seq := by
  have found : deviceRow? rows row.device = some row :=
    (find?_key_eq_some_iff written.distinct).mpr ⟨member, rfl⟩
  rw [toldSeq, found]
  rfl

theorem exists_of_toldSeq {text : String} (positive : toldSeq rows text ≠ 0) :
    ∃ row ∈ rows, row.device = text ∧ ofCell row.seq = toldSeq rows text := by
  unfold toldSeq at positive ⊢
  cases found : deviceRow? rows text with
  | none =>
    rw [found] at positive
    exact absurd rfl positive
  | some row =>
    exact ⟨row, List.mem_of_find?_eq_some found, by simpa using List.find?_some found, rfl⟩

/-- The written row of a device has the higher of its number and another one. -/
structure Raises (rows : List DeviceRow) (device : DeviceId) (seq : Seq) (new : DeviceRow) :
    Prop where
  text : new.device = device.render
  cell : ofCell new.seq = max (toldSeq rows device.render) seq

theorem Written.put (written : Written rows) (raises : Raises rows device seq new) :
    Written (putDeviceRow rows new) where
  distinct := nodup_putDeviceRow written.distinct new
  rendered := by
    intro row member
    rcases mem_putDeviceRow.mp member with rfl | ⟨old, -⟩
    · exact ⟨device, raises.text⟩
    · exact written.rendered row old

/-- A number that is told never falls, and stays as it is unless it is raised. -/
theorem Raises.exists_of_mem (raises : Raises rows device seq new) (written : Written rows)
    {row : DeviceRow} (member : row ∈ rows) :
    ∃ kept ∈ putDeviceRow rows new, kept.device = row.device ∧ ofCell row.seq ≤ ofCell kept.seq ∧
      ((row.device = device.render → seq ≤ ofCell row.seq) → ofCell kept.seq = ofCell row.seq) := by
  by_cases here : row.device = device.render
  · have cell : ofCell new.seq = max (ofCell row.seq) seq := by
      rw [raises.cell, ← here, toldSeq_of_mem written member]
    refine ⟨new, mem_putDeviceRow.mpr (Or.inl rfl), raises.text.trans here.symm, ?_, ?_⟩
    · rw [cell]
      exact le_max_left _ _
    · intro enough
      rw [cell, max_eq_left (enough here)]
  · have away : row.device ≠ new.device := raises.text ▸ here
    exact ⟨row, mem_putDeviceRow.mpr (Or.inr ⟨member, away⟩), rfl, le_refl _, fun _ => rfl⟩

theorem Tells.isNamed_of_toldSeq (tells : Tells rows state)
    (told : toldSeq rows device.render ≠ 0) : device.IsNamed := by
  obtain ⟨row, member, text, same⟩ := exists_of_toldSeq told
  rw [← same, ne_eq, ofCell_eq_zero_iff] at told
  obtain ⟨other, read, -⟩ := tells.below row member told
  exact (eq_compact_of_parseDevice (text ▸ read)).1

theorem Tells.toldSeq_le (tells : Tells rows state) (device : DeviceId) :
    toldSeq rows device.render ≤ state.seqOf device.compact := by
  by_cases zero : toldSeq rows device.render = 0
  · rw [zero]
    exact Snapshot.zero_le_seq _
  · obtain ⟨row, member, text, same⟩ := exists_of_toldSeq zero
    have positive : row.seq ≠ 0 := by
      rw [ne_eq, ← ofCell_eq_zero_iff, same]
      exact zero
    obtain ⟨other, read, under⟩ := tells.below row member positive
    obtain ⟨-, rfl⟩ := eq_compact_of_parseDevice (text ▸ read)
    rw [← same]
    exact under

/-- A number is merged under the device whose name lacks the empty components. -/
theorem Tells.put (tells : Tells rows state) (raises : Raises rows device seq new)
    (counts : seq ≠ 0 → device.IsNamed) :
    Tells (putDeviceRow rows new) (state.merge device.compact seq) where
  toWritten := tells.toWritten.put raises
  below := by
    have risen : state ≤ state.merge device.compact seq := Snapshot.le_merge state _ seq
    intro row member positive
    rcases mem_putDeviceRow.mp member with rfl | ⟨old, -⟩
    · have named : device.IsNamed := by
        by_contra bare
        have zero : seq = 0 := not_not.mp (mt counts bare)
        rw [ne_eq, ← ofCell_eq_zero_iff, raises.cell, zero,
          max_eq_left (Snapshot.zero_le_seq _)] at positive
        exact bare (tells.isNamed_of_toldSeq positive)
      refine ⟨device.compact, ?_, ?_⟩
      · rw [raises.text, parseDevice_of_isNamed named]
      · rw [raises.cell, Snapshot.seqOf_merge, if_pos rfl]
        exact max_le_max (tells.toldSeq_le device) (le_refl seq)
    · obtain ⟨other, read, under⟩ := tells.below row old positive
      exact ⟨other, read, under.trans (risen other)⟩
  reached := by
    intro other positive
    rw [Snapshot.seqOf_merge] at positive ⊢
    -- The number is either the new one or was told before, and is then not below the new one.
    by_cases raised : other = device.compact ∧ state.seqOf device.compact < seq
    · obtain ⟨rfl, less⟩ := raised
      have named : device.IsNamed := counts fun zero => by simp [zero] at less
      refine ⟨new, mem_putDeviceRow.mpr (Or.inl rfl), ?_, ?_⟩
      · rw [raises.text, parseDevice_of_isNamed named]
      · rw [raises.cell, if_pos rfl, max_eq_right less.le,
          max_eq_right ((tells.toldSeq_le device).trans less.le)]
    · have same : (if other = device.compact then max (state.seqOf device.compact) seq
          else state.seqOf other) = state.seqOf other := by
        split
        · rename_i here
          rw [here, max_eq_left (not_lt.mp fun less => raised ⟨here, less⟩)]
        · rfl
      rw [same] at positive ⊢
      obtain ⟨row, member, read, equal⟩ := tells.reached other positive
      obtain ⟨kept, there, text, -, stays⟩ := raises.exists_of_mem tells.toWritten member
      refine ⟨kept, there, text ▸ read, (stays fun here => ?_).trans equal⟩
      · obtain ⟨-, rfl⟩ := eq_compact_of_parseDevice (here ▸ read)
        rw [equal]
        exact not_lt.mp fun less => raised ⟨rfl, less⟩

/-- Once a device without a name has a number, no state is read any more. -/
theorem Nameless.put (bare : Nameless rows) (raises : Raises rows device seq new) :
    Nameless (putDeviceRow rows new) where
  toWritten := bare.toWritten.put raises
  lost := by
    obtain ⟨row, member, positive, lost⟩ := bare.lost
    obtain ⟨kept, there, text, rising, -⟩ := raises.exists_of_mem bare.toWritten member
    refine ⟨kept, there, ?_, text ▸ lost⟩
    rw [ne_eq, ← ofCell_eq_zero_iff] at positive ⊢
    intro zero
    exact positive (le_antisymm (zero ▸ rising) (Snapshot.zero_le_seq _))

theorem nameless_put (written : Written rows) (raises : Raises rows device seq new)
    (positive : seq ≠ 0) (bare : ¬ device.IsNamed) : Nameless (putDeviceRow rows new) where
  toWritten := written.put raises
  lost := by
    refine ⟨new, mem_putDeviceRow.mpr (Or.inl rfl), ?_, ?_⟩
    · rw [ne_eq, ← ofCell_eq_zero_iff, raises.cell]
      intro zero
      exact positive (le_antisymm (zero ▸ le_max_right _ _) (Snapshot.zero_le_seq _))
    · rw [raises.text, parseDevice_of_not_isNamed bare]

/-! ## What is known from rows -/

/-- The rows tell a state, or else a number of a device without a name. -/
def Reads (rows : List DeviceRow) : Option Snapshot → Prop
  | some state => Tells rows state
  | none => Nameless rows

theorem Reads.written {known : Option Snapshot} (reads : Reads rows known) : Written rows := by
  cases known with
  | none => exact Nameless.toWritten reads
  | some state => exact Tells.toWritten reads

/-- What is known after a device's number is taken note of. -/
def absorb (known : Option Snapshot) (device : DeviceId) (seq : Seq) : Option Snapshot :=
  if seq ≠ 0 ∧ ¬ device.IsNamed then none else known.map (·.merge device.compact seq)

theorem Reads.put {known : Option Snapshot} (reads : Reads rows known)
    (raises : Raises rows device seq new) :
    Reads (putDeviceRow rows new) (absorb known device seq) := by
  unfold absorb
  split
  · rename_i bare
    exact nameless_put reads.written raises bare.1 bare.2
  · rename_i counts
    cases known with
    | none => exact Nameless.put reads raises
    | some state =>
      exact Tells.put reads raises fun positive => not_not.mp fun bare => counts ⟨positive, bare⟩

theorem absorb_zero (known : Option Snapshot) (device : DeviceId) :
    absorb known device 0 = known := by
  have same : ∀ state : Snapshot, state.merge device.compact 0 = state := by
    refine fun state => Snapshot.ext_seqOf fun other => ?_
    rw [Snapshot.seqOf_merge, max_eq_left (Snapshot.zero_le_seq _)]
    split
    · rename_i here
      rw [here]
    · rfl
  cases known <;> simp [absorb, same]

theorem absorb_all_of_named {records : List DeltaRecord} (state : Snapshot)
    (named : ∀ record ∈ records, record.seq ≠ 0 → record.device.IsNamed) :
    records.foldl (fun known record => absorb known record.device record.seq) (some state) =
      some (state.mergeAll (records.map fun record => (record.device.compact, record.seq))) := by
  induction records generalizing state with
  | nil => rfl
  | cons record rest ih =>
    obtain ⟨here, later⟩ := List.forall_mem_cons.mp named
    have counts : absorb (some state) record.device record.seq =
        some (state.merge record.device.compact record.seq) :=
      if_neg fun bare => bare.2 (here bare.1)
    rw [List.foldl_cons, counts, ih _ later]
    rfl

theorem absorb_all_of_none (records : List DeltaRecord) :
    records.foldl (fun known record => absorb known record.device record.seq) none = none := by
  induction records with
  | nil => rfl
  | cons record rest ih =>
    have stays : absorb none record.device record.seq = none := by
      unfold absorb
      split <;> rfl
    rw [List.foldl_cons, stays, ih]

theorem absorb_all_of_nameless {records : List DeltaRecord} (known : Option Snapshot)
    (bare : ∃ record ∈ records, record.seq ≠ 0 ∧ ¬ record.device.IsNamed) :
    records.foldl (fun known record => absorb known record.device record.seq) known = none := by
  obtain ⟨record, member, lost⟩ := bare
  obtain ⟨front, back, rfl⟩ := List.append_of_mem member
  have gone : ∀ before, absorb before record.device record.seq = none := fun _ => if_pos lost
  rw [List.foldl_append, List.foldl_cons, gone, absorb_all_of_none]

/-! ## Calls -/

variable {known : Option Snapshot}

theorem Reads.updateDeviceSeq {rows : Rows} (reads : Reads rows.devices known) (device : DeviceId)
    (seq : Seq) :
    ∃ stored devices, rows.toStore.updateDeviceSeq device seq =
        .ok (stored, { rows with devices }.toStore) ∧ Reads devices (absorb known device seq) := by
  refine ⟨_, _, rfl, reads.put ⟨rfl, ?_⟩⟩
  rw [ofCell_toCell, toldSeq]
  cases deviceRow? rows.devices device.render with
  | none => exact (max_eq_right (Snapshot.zero_le_seq seq)).symm
  | some row => rfl

/-- Storing a locator leaves what is known. -/
theorem Reads.updateLocator (rows : Rows) (reads : Reads rows.devices known) (device : DeviceId)
    (locator : Name) :
    ∃ devices, rows.toStore.updateLocator device locator = .ok { rows with devices }.toStore ∧
      Reads devices known := by
  refine ⟨_, rfl, absorb_zero known device ▸ reads.put ⟨rfl, ?_⟩⟩
  rw [toldSeq, max_eq_left (Snapshot.zero_le_seq _)]
  cases deviceRow? rows.devices device.render <;> rfl

theorem Reads.currentState_eq (rows : Rows) (reads : Reads rows.devices known) :
    rows.toStore.currentState = known.elim (.error nameless) .ok := by
  rw [currentState_toStore]
  cases known with
  | none => exact Nameless.readRows_eq reads
  | some state => exact Tells.readRows_eq reads

/-- A state is recorded if one is read. -/
theorem Reads.rememberState_eq (rows : Rows) (reads : Reads rows.devices known) :
    ∃ left, rows.toStore.rememberState =
      known.elim (.error nameless) fun state => .ok (state.digest, left) := by
  have read := Reads.currentState_eq rows reads
  cases known with
  | none =>
    refine ⟨rows.toStore, ?_⟩
    simp only [TableStore.rememberState, read]
    rfl
  | some state =>
    simp only [TableStore.rememberState, read]
    exact ⟨_, rfl⟩

/-- The rows of a memory store tell its current state. -/
theorem Reflects.tells {rows : Rows} {memory : MemoryStore} (reflects : Reflects rows memory) :
    Tells rows.devices memory.currentState where
  distinct := reflects.devices.distinct
  rendered := by
    intro row member
    obtain ⟨entry, -, rfl⟩ := (reflects.devices.mem row).mp member
    exact ⟨entry.1, rfl⟩
  below := by
    intro row member positive
    obtain ⟨entry, listed, rfl⟩ := (reflects.devices.mem row).mp member
    refine ⟨entry.1, parseDevice_render (reflects.devices.proper entry listed), ?_⟩
    rw [MemoryStore.seqOf_currentState, SortedMap.find?_eq_some_iff.mpr listed, deviceRowOf,
      ofCell_toCell]
    exact le_refl _
  reached := by
    intro device positive
    rw [MemoryStore.seqOf_currentState] at positive ⊢
    cases found : memory.seqs.find? device with
    | none =>
      rw [found] at positive
      exact absurd rfl positive
    | some seq =>
      have listed := SortedMap.find?_eq_some_iff.mp found
      refine ⟨deviceRowOf memory.locators (device, seq),
        (reflects.devices.mem _).mpr ⟨_, listed, rfl⟩, ?_, ofCell_toCell seq⟩
      exact parseDevice_render (reflects.devices.proper _ listed)

end TableStore

namespace AnyStore

open TableStore (Reads Rows absorb nameless)

/-! ## Messages -/

/-- Over a memory log, records are merged as the core merges those of an answer. -/
theorem mergeRecords_memory (store : MemoryStore) (records : List DeltaRecord) :
    (memory store).mergeRecords records =
      (SyncCore.mergeRecords (.ofStore store) records).map fun volume => memory volume.store := by
  rw [SyncCore.mergeRecords_ofStore]
  unfold mergeRecords MemoryStore.takeRecords
  induction records.filter DeltaRecord.isUpdate generalizing store with
  | nil => rfl
  | cons record rest ih =>
    have merged : (memory store).mergeRecord record = .ok (memory (store.takeRecord record)) := by
      unfold mergeRecord MemoryStore.takeRecord
      cases record.locator <;> rfl
    rw [List.foldlM_cons, merged]
    exact ih (store.takeRecord record)

variable {rows : Rows} {known : Option Snapshot}

theorem mergeRecord_tables (reads : Reads rows.devices known) (isKept : Bool)
    (record : DeltaRecord) :
    ∃ devices, (tables rows.toStore isKept).mergeRecord record =
        .ok (tables { rows with devices }.toStore isKept) ∧
      Reads devices (absorb known record.device record.seq) := by
  obtain ⟨stored, devices, raised, reads⟩ := reads.updateDeviceSeq record.device record.seq
  cases place : record.locator with
  | none =>
    refine ⟨devices, ?_, reads⟩
    simp only [mergeRecord, take, takeAt, TableStore.take, raised, place, bind, Except.bind, pure,
      Except.pure]
  | some locator =>
    obtain ⟨located, written, reads⟩ :=
      TableStore.Reads.updateLocator { rows with devices } reads record.device locator
    refine ⟨located, ?_, reads⟩
    simp only [mergeRecord, take, takeAt, TableStore.take, raised, place, written, bind,
      Except.bind, pure, Except.pure, Functor.map, Except.map]

theorem foldlM_mergeRecord_tables (rows : Rows) (reads : Reads rows.devices known)
    (isKept : Bool) (records : List DeltaRecord) :
    ∃ devices, records.foldlM mergeRecord (tables rows.toStore isKept) =
        .ok (tables { rows with devices }.toStore isKept) ∧
      Reads devices
        (records.foldl (fun known record => absorb known record.device record.seq) known) := by
  induction records generalizing rows known with
  | nil => exact ⟨rows.devices, rfl, reads⟩
  | cons record rest ih =>
    obtain ⟨devices, merged, reads⟩ := mergeRecord_tables reads isKept record
    obtain ⟨last, others, reads⟩ := ih { rows with devices } reads
    refine ⟨last, ?_, reads⟩
    rw [List.foldlM_cons, merged]
    exact others

/-- After calls with proper names the rows tell what a memory store knows. -/
theorem run_tables {memory : MemoryStore} (reflects : TableStore.Reflects rows memory)
    (isKept : Bool) {calls : List (Nat × StoreCall)} (proper : ∀ call ∈ calls, call.2.IsProper) :
    ∃ left kept, (tables rows.toStore isKept).run calls = tables (Rows.toStore left) isKept ∧
      TableStore.Reflects left kept := by
  induction calls generalizing rows memory with
  | nil => exact ⟨rows, memory, rfl, reflects⟩
  | cons call rest ih =>
    obtain ⟨here, later⟩ := List.forall_mem_cons.mp proper
    obtain ⟨left, moved, same⟩ := reflects.next call.1 here
    have first : (tables rows.toStore isKept).after call = tables left.toStore isKept :=
      (after_tables rows.toStore isKept call.1 call.2).trans (congrArg (tables · isKept) moved)
    have next : (tables rows.toStore isKept).run (call :: rest) =
        (tables left.toStore isKept).run rest := congrArg (AnyStore.run · rest) first
    rw [next]
    exact ih same later

/-- What tables make of the updates that a message carries, after any calls with proper names, each
at any time.
All updates are merged.  If each number but zero is that of a device with a name, then a state is
read and recorded, with the highest number for each device, for which count those under all names
that differ from its own in empty components alone; for proper devices these are just the device's
own.  If there is one of a device without a name, then no state is read or recorded. -/
theorem tables_hear (isKept : Bool) {calls : List (Nat × StoreCall)}
    (proper : ∀ call ∈ calls, call.2.IsProper) {content : Bytes} {message : StateMessage}
    (accepted : StateMessage.decode content = .ok message) :
    let updates := message.states.filter DeltaRecord.isUpdate
    ∃ before heard, ((tables .empty isKept).run calls).currentState = .ok before ∧
      ((tables .empty isKept).run calls).hear content = .ok heard ∧
      ((∀ record ∈ updates, record.seq ≠ 0 → record.device.IsNamed) →
        ∃ state left, heard.currentState = .ok state ∧
          (∀ now, heard.takeAt now .rememberState = .ok (.digest state.digest, left)) ∧
          (∀ device, state.seqOf device =
            ((updates.filter fun record => record.device.compact = device).map (·.seq)).foldl max
              (before.seqOf device)) ∧
          ((∀ record ∈ updates, record.device.IsProper) → ∀ device, state.seqOf device =
            ((updates.filter fun record => record.device = device).map (·.seq)).foldl max
              (before.seqOf device))) ∧
      ((∃ record ∈ updates, record.seq ≠ 0 ∧ ¬ record.device.IsNamed) →
        heard.currentState = .error nameless ∧
          ∀ now, heard.takeAt now .rememberState = .error nameless) := by
  intro updates
  obtain ⟨rows, memory, filled, reflects⟩ := run_tables TableStore.reflects_empty isKept proper
  have filled : (tables .empty isKept).run calls = tables rows.toStore isKept := filled
  have told : Reads rows.devices (some memory.currentState) := reflects.tells
  obtain ⟨devices, merged, reads⟩ := foldlM_mergeRecord_tables rows told isKept updates
  have heard : ((tables .empty isKept).run calls).hear content =
      .ok (tables { rows with devices }.toStore isKept) := by
    rw [filled, hear, accepted]
    exact merged
  have read := TableStore.Reads.currentState_eq { rows with devices } reads
  obtain ⟨left, recorded⟩ := TableStore.Reads.rememberState_eq { rows with devices } reads
  refine ⟨memory.currentState, _, ?_, heard, fun named => ?_, fun bare => ?_⟩
  · rw [filled]
    exact TableStore.Reads.currentState_eq rows told
  · rw [TableStore.absorb_all_of_named _ named] at read recorded
    have highest : ∀ device, (memory.currentState.mergeAll
        (updates.map fun record => (record.device.compact, record.seq))).seqOf device =
          ((updates.filter fun record => record.device.compact = device).map (·.seq)).foldl max
            (memory.currentState.seqOf device) := by
      intro device
      rw [Snapshot.seqOf_mergeAll, List.filter_map, List.map_map]
      rfl
    refine ⟨_, tables left isKept, read, fun now => ?_, highest, fun proper device => ?_⟩
    · simp only [takeAt, TableStore.take, recorded, Option.elim, bind, Except.bind, pure,
        Except.pure]
    · have same : (updates.filter fun record => record.device.compact = device) =
          updates.filter fun record => record.device = device := by
        refine List.filter_congr fun record member => ?_
        rw [DeviceId.compact_of_isProper (proper record member)]
      rw [highest, same]
  · rw [TableStore.absorb_all_of_nameless _ bare] at read recorded
    refine ⟨read, fun now => ?_⟩
    simp only [takeAt, TableStore.take, recorded, Option.elim, bind, Except.bind]

/-- A higher number of a known device, and one under a name that ends in an empty component. -/
def untidyMessage : StateMessage :=
  .ofStates [.update ⟨.ofTexts ["a/b"]⟩ 9 none, .update ⟨.ofTexts ["p", ""]⟩ 3 none]

/-- The second number is read back for the device without the empty component. -/
theorem tables_hear_untidy :
    ∃ heard state, ((tables .empty true).run raising).hear untidyMessage.encode = .ok heard ∧
      heard.currentState = .ok state ∧ state.seqOf ⟨.ofTexts ["a/b"]⟩ = 9 ∧
      state.seqOf ⟨.ofTexts ["p"]⟩ = 3 ∧ state.seqOf ⟨.ofTexts ["p", ""]⟩ = 0 := by
  have proper : ∀ call ∈ raising, call.2.IsProper := by decide +kernel
  have accepted : StateMessage.decode untidyMessage.encode = .ok untidyMessage := by
    decide +kernel
  obtain ⟨before, heard, read, merged, told, -⟩ := tables_hear true proper accepted
  obtain ⟨state, left, current, -, highest, -⟩ := told (by decide +kernel)
  have known : ((tables .empty true).run raising).currentState =
      .ok (Snapshot.empty.merge ⟨.ofTexts ["a/b"]⟩ 5) := by decide +kernel
  rw [known, Except.ok.injEq] at read
  refine ⟨heard, state, merged, current, ?_, ?_, ?_⟩
  · rw [highest, ← read]
    decide +kernel
  · rw [highest, ← read]
    decide +kernel
  · rw [highest, ← read]
    decide +kernel

/-- A number of a device without a name. -/
def namelessMessage : StateMessage := .ofStates [.update ⟨.empty⟩ 5 none]

/-- A message that is accepted keeps tables from reading and recording any state. -/
theorem nameless_message_breaks_tables :
    StateMessage.decode namelessMessage.encode = .ok namelessMessage ∧
      ∃ heard, (tables .empty true).hear namelessMessage.encode = .ok heard ∧
        heard.currentState = .error nameless ∧ heard.take .rememberState = .error nameless := by
  have accepted : StateMessage.decode namelessMessage.encode = .ok namelessMessage := by
    decide +kernel
  refine ⟨accepted, tables { TableStore.empty with devices := some [⟨"/", 5, none⟩] } true,
    ?_, ?_, ?_⟩
  · rw [hear, accepted]
    rfl
  · decide +kernel
  · rfl

end AnyStore

end DigestSync
