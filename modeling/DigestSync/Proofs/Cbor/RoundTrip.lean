import DigestSync.Proofs.Cbor.Forms
import DigestSync.Proofs.Snapshot

set_option autoImplicit false

/-! # Values read back from their CBOR forms

Digests, priorities, tasks, their keys and snapshots are read back as names, devices and records
are, whatever follows them.  A snapshot is read entry by entry into an empty map, which would take
zeros too: its devices are listed in their order, so every entry is bound behind those before it,
and there is no zero to be left out.
-/

namespace DigestSync

/-- The lengths of the names in the task can be told in 64 bits. -/
def FetchTask.Fits (task : FetchTask) : Prop := task.producer.name.Fits ∧ task.baseName.Fits

/-- The lengths of the names in the key can be told in 64 bits. -/
def TaskKey.Fits (key : TaskKey) : Prop := key.producer.name.Fits ∧ key.baseName.Fits

/-- The lengths of the snapshot and of the names in it can be told in 64 bits. -/
def Snapshot.Fits (snapshot : Snapshot) : Prop :=
  snapshot.entries.length < UInt64.size ∧ ∀ entry ∈ snapshot.entries, entry.1.name.Fits

namespace Cbor

variable {bound : Nat}

/-! ## Digests and priorities -/

theorem reads_readDigest (digest : Digest) :
    Reads (readDigest bound) (ofDigest digest).encode digest := by
  intro rest
  have short : digest.bytes.length < UInt64.size := by
    rw [digest.length_eq]
    decide
  have bytes : Reads (readArray bound (readUInt8 bound)) (ofDigest digest).encode digest.bytes :=
    reads_readArray short fun byte _ => reads_readUInt8 bound byte
  unfold readDigest
  simp only [bytes rest, dif_pos digest.length_eq]

theorem reads_readPriority (priority : Priority) :
    Reads readPriority (ofPriority priority).encode priority := by
  apply reads_readNamed
  · cases priority <;> decide
  · cases priority <;> rfl

/-! ## Tasks and their keys -/

section

variable {fields : TaskFields}

theorem reads_taskField_producer {producer : DeviceId} (fits : producer.name.Fits)
    (fresh : fields.producer = none) :
    Reads (TaskFields.readField bound (Bytes.ofText "producer") fields)
      (ofDevice producer).encode { fields with producer := some producer } := by
  simp only [TaskFields.readField, isField_iff, String.reduceEq, if_true, fresh]
  exact reads_readOnce (reads_readDevice fits)

theorem reads_taskField_baseName {baseName : Name} (fits : baseName.Fits)
    (fresh : fields.baseName = none) :
    Reads (TaskFields.readField bound (Bytes.ofText "base_name") fields)
      (ofName baseName).encode { fields with baseName := some baseName } := by
  simp only [TaskFields.readField, isField_iff, String.reduceEq, if_true, if_false, fresh]
  exact reads_readOnce (reads_readName fits)

theorem reads_taskField_minSeq (seq : Seq) (fresh : fields.minSeq = none) :
    Reads (TaskFields.readField bound (Bytes.ofText "min_seq") fields)
      (Value.unsigned seq).encode { fields with minSeq := some seq } := by
  simp only [TaskFields.readField, isField_iff, String.reduceEq, if_true, if_false, fresh]
  exact reads_readOnce (reads_readUnsigned bound seq)

theorem reads_taskField_maxSeq (seq : Seq) (fresh : fields.maxSeq = none) :
    Reads (TaskFields.readField bound (Bytes.ofText "max_seq") fields)
      (Value.unsigned seq).encode { fields with maxSeq := some seq } := by
  simp only [TaskFields.readField, isField_iff, String.reduceEq, if_true, if_false, fresh]
  exact reads_readOnce (reads_readUnsigned bound seq)

theorem reads_taskField_priority (priority : Priority) (fresh : fields.priority = none) :
    Reads (TaskFields.readField bound (Bytes.ofText "priority") fields)
      (ofPriority priority).encode { fields with priority := some priority } := by
  simp only [TaskFields.readField, isField_iff, String.reduceEq, if_true, if_false, fresh]
  exact reads_readOnce (reads_readPriority priority)

end

section

variable {fields : KeyFields}

theorem reads_keyField_producer {producer : DeviceId} (fits : producer.name.Fits)
    (fresh : fields.producer = none) :
    Reads (KeyFields.readField bound (Bytes.ofText "producer") fields)
      (ofDevice producer).encode { fields with producer := some producer } := by
  simp only [KeyFields.readField, isField_iff, String.reduceEq, if_true, fresh]
  exact reads_readOnce (reads_readDevice fits)

theorem reads_keyField_baseName {baseName : Name} (fits : baseName.Fits)
    (fresh : fields.baseName = none) :
    Reads (KeyFields.readField bound (Bytes.ofText "base_name") fields)
      (ofName baseName).encode { fields with baseName := some baseName } := by
  simp only [KeyFields.readField, isField_iff, String.reduceEq, if_true, if_false, fresh]
  exact reads_readOnce (reads_readName fits)

end

theorem reads_readTask {task : FetchTask} (fits : task.Fits) :
    Reads (readTask bound) (ofTask task).encode task := by
  intro rest
  have few : 5 < UInt64.size := by decide
  have takes : Takes (TaskFields.readField bound) .none
      [("producer", ofDevice task.producer), ("base_name", ofName task.baseName),
        ("min_seq", .unsigned task.minSeq), ("max_seq", .unsigned task.maxSeq),
        ("priority", ofPriority task.priority)]
      ⟨some task.producer, some task.baseName, some task.minSeq, some task.maxSeq,
        some task.priority⟩ :=
    .cons (by decide) (reads_taskField_producer fits.1 rfl) <|
      .cons (by decide) (reads_taskField_baseName fits.2 rfl) <|
      .cons (by decide) (reads_taskField_minSeq task.minSeq rfl) <|
      .cons (by decide) (reads_taskField_maxSeq task.maxSeq rfl) <|
      .cons (by decide) (reads_taskField_priority task.priority rfl) (.nil _)
  unfold readTask ofTask
  rw [takes.reads_readRecord bound few rest]
  rfl

theorem reads_readTaskKey {key : TaskKey} (fits : key.Fits) :
    Reads (readTaskKey bound) (ofTaskKey key).encode key := by
  intro rest
  have few : 2 < UInt64.size := by decide
  have takes : Takes (KeyFields.readField bound) .none
      [("producer", ofDevice key.producer), ("base_name", ofName key.baseName)]
      ⟨some key.producer, some key.baseName⟩ :=
    .cons (by decide) (reads_keyField_producer fits.1 rfl) <|
      .cons (by decide) (reads_keyField_baseName fits.2 rfl) (.nil _)
  unfold readTaskKey ofTaskKey
  rw [takes.reads_readRecord bound few rest]
  rfl

/-! ## Snapshots -/

/-- The form of an entry. -/
def ofEntry (entry : DeviceId × Seq) : Value × Value := (ofDevice entry.1, .unsigned entry.2)

theorem reads_readEntry (seqs : SortedMap DeviceId Seq) {entry : DeviceId × Seq}
    (fits : entry.1.name.Fits) :
    Reads (readEntry bound seqs) ((ofEntry entry).1.encode ++ (ofEntry entry).2.encode)
      (seqs.insert entry.1 entry.2) := by
  intro rest
  unfold readEntry ofEntry
  rw [List.append_assoc]
  simp only [reads_readDevice fits _, reads_readUnsigned bound entry.2 rest]

/-- The entries of a map are read behind those that come before them. -/
theorem reads_foldCount_readEntry {seqs whole : SortedMap DeviceId Seq}
    {entries : List (DeviceId × Seq)} (fits : ∀ entry ∈ entries, entry.1.name.Fits)
    (split : whole.entries = seqs.entries ++ entries) :
    Reads (foldCount (readEntry bound) entries.length seqs)
      (Value.encodeEntries (entries.map ofEntry)) whole := by
  intro rest
  induction entries generalizing seqs with
  | nil =>
    have same : whole = seqs := SortedMap.eq_of_entries (split.trans (List.append_nil _))
    rw [same]
    rfl
  | cons entry others ih =>
    obtain ⟨fitsHere, fitsLater⟩ := List.forall_mem_cons.mp fits
    have ordered : Ascending (seqs.entries ++ entry :: others) := split ▸ whole.ordered
    have below : ∀ before ∈ seqs.entries, compare before.1 entry.1 = .lt := fun before member =>
      (List.pairwise_append.mp ordered).2.2 before member entry List.mem_cons_self
    have next : (seqs.insert entry.1 entry.2).entries = seqs.entries ++ [entry] :=
      Entries.insert_of_greatest below entry.2
    have splitNext : whole.entries = (seqs.insert entry.1 entry.2).entries ++ others := by
      rw [next, split, List.append_cons]
    rw [List.length_cons, List.map_cons, Value.encodeEntries, ← List.append_assoc,
      List.append_assoc]
    unfold foldCount
    simp only [reads_readEntry seqs fitsHere _, ih fitsLater splitNext]

theorem reads_readEntries {snapshot : Snapshot} (fits : snapshot.Fits) :
    Reads (readEntries bound) (Value.map (snapshot.entries.map ofEntry)).encode snapshot.seqs := by
  intro rest
  have head := (isHead_countHead 5 fits.1).reads_readUntagged_map
  have entries : Reads (foldCount (readEntry bound) snapshot.entries.length SortedMap.empty)
      (Value.encodeEntries (snapshot.entries.map ofEntry)) snapshot.seqs :=
    reads_foldCount_readEntry fits.2 rfl
  unfold readEntries Value.encode foldItems
  rw [List.length_map, List.append_assoc]
  simp only [head _, entries rest]

theorem reads_readSeqs {snapshot : Snapshot} (fits : snapshot.Fits) :
    Reads (readSeqs bound) (ofSnapshot snapshot).encode snapshot.seqs := by
  intro rest
  have few : 1 < UInt64.size := by decide
  have whole (field : Bytes → Option (SortedMap DeviceId Seq) →
        Reader (Option (SortedMap DeviceId Seq)))
      (reads : Reads (field (Bytes.ofText "seqs") none)
        (Value.map (snapshot.entries.map ofEntry)).encode (some snapshot.seqs)) :
      readRecord bound field none ((ofSnapshot snapshot).encode ++ rest) =
        .ok (some snapshot.seqs, rest) :=
    Takes.reads_readRecord (.cons (by decide) reads (.nil _)) bound few rest
  unfold readSeqs
  dsimp only
  rw [whole]
  simp only [isField_iff, if_true]
  exact reads_readOnce (reads_readEntries fits)

theorem reads_readSnapshot {snapshot : Snapshot} (fits : snapshot.Fits) :
    Reads (readSnapshot bound) (ofSnapshot snapshot).encode snapshot := by
  intro rest
  unfold readSnapshot
  simp only [reads_readSeqs fits rest, Snapshot.ofMap_seqs]

/-! ## All forms -/

/-- Every value is read back from its form as it was, with whatever bytes follow it left over:
names, devices, digests, records, priorities, tasks, keys and snapshots, whatever bytes and numbers
they hold.  The numbers of a snapshot are those read, none of them being left out.  The lengths of
lists and byte strings are told in 64 bits. -/
theorem forms_round_trip (bound : Nat) (rest : Bytes) :
    (∀ name : Name, name.Fits →
        readName bound ((ofName name).encode ++ rest) = .ok (name, rest)) ∧
      (∀ device : DeviceId, device.name.Fits →
        readDevice bound ((ofDevice device).encode ++ rest) = .ok (device, rest)) ∧
      (∀ digest : Digest,
        readDigest bound ((ofDigest digest).encode ++ rest) = .ok (digest, rest)) ∧
      (∀ (depth : Nat) (record : DeltaRecord), record.Fits →
        readDeltaRecord bound depth ((ofRecord record).encode ++ rest) = .ok (record, rest)) ∧
      (∀ priority : Priority,
        readPriority ((ofPriority priority).encode ++ rest) = .ok (priority, rest)) ∧
      (∀ task : FetchTask, task.Fits →
        readTask bound ((ofTask task).encode ++ rest) = .ok (task, rest)) ∧
      (∀ key : TaskKey, key.Fits →
        readTaskKey bound ((ofTaskKey key).encode ++ rest) = .ok (key, rest)) ∧
      ∀ snapshot : Snapshot, snapshot.Fits →
        readSeqs bound ((ofSnapshot snapshot).encode ++ rest) = .ok (snapshot.seqs, rest) ∧
          readSnapshot bound ((ofSnapshot snapshot).encode ++ rest) = .ok (snapshot, rest) :=
  ⟨fun _ fits => reads_readName fits rest, fun _ fits => reads_readDevice fits rest,
    fun digest => reads_readDigest digest rest, fun _ _ fits => reads_readDeltaRecord fits rest,
    fun priority => reads_readPriority priority rest, fun _ fits => reads_readTask fits rest,
    fun _ fits => reads_readTaskKey fits rest,
    fun _ fits => ⟨reads_readSeqs fits rest, reads_readSnapshot fits rest⟩⟩

/-- A nameless device, empty components, bytes and numbers from end to end of what they can be, and
a snapshot into which the greater name was merged first and the lesser one twice, with more bytes
behind each. -/
theorem forms_round_trip_extremes :
    let nameless : DeviceId := ⟨⟨[]⟩⟩
    let name : Name := ⟨[[], [0xFF, 0]]⟩
    let record : DeltaRecord := ⟨nameless, .delete, 0, some 0xFFFFFFFFFFFFFFFF, some name⟩
    let task : FetchTask := ⟨nameless, name, 0xFFFFFFFFFFFFFFFF, 0, .high⟩
    let snapshot := Snapshot.ofEntries [(⟨name⟩, 24), (nameless, 1), (nameless, 0xFFFFFFFFFFFFFFFF)]
    let rest : Bytes := [0xFF, 0]
    snapshot.entries = [(nameless, 0xFFFFFFFFFFFFFFFF), (⟨name⟩, 24)] ∧
      readName 0 ((ofName name).encode ++ rest) = .ok (name, rest) ∧
      readDevice 0 ((ofDevice nameless).encode ++ rest) = .ok (nameless, rest) ∧
      readDigest 0 ((ofDigest .origin).encode ++ rest) = .ok (.origin, rest) ∧
      readDeltaRecord 0 0 ((ofRecord record).encode ++ rest) = .ok (record, rest) ∧
      readPriority ((ofPriority .normal).encode ++ rest) = .ok (.normal, rest) ∧
      readTask 0 ((ofTask task).encode ++ rest) = .ok (task, rest) ∧
      readTaskKey 0 ((ofTaskKey task.key).encode ++ rest) = .ok (task.key, rest) ∧
      readSeqs 0 ((ofSnapshot snapshot).encode ++ rest) = .ok (snapshot.seqs, rest) ∧
      readSnapshot 0 ((ofSnapshot snapshot).encode ++ rest) = .ok (snapshot, rest) := by
  intro nameless name record task snapshot rest
  obtain ⟨names, devices, digests, records, priorities, tasks, keys, snapshots⟩ :=
    forms_round_trip 0 rest
  have short : nameless.name.Fits := by decide
  have long : name.Fits := by decide
  have located : record.Fits := by
    refine ⟨short, ?_⟩
    rintro _ ⟨⟩
    exact long
  have listed : snapshot.entries = [(nameless, 0xFFFFFFFFFFFFFFFF), (⟨name⟩, 24)] := by decide
  have told : snapshot.Fits := by
    unfold Snapshot.Fits
    rw [listed]
    exact ⟨by decide, by simpa using ⟨short, long⟩⟩
  exact ⟨listed, names name long, devices nameless short, digests .origin,
    records 0 record located, priorities .normal, tasks task ⟨short, long⟩,
    keys task.key ⟨short, long⟩, snapshots snapshot told⟩

end Cbor

end DigestSync
