import DigestSync.Cbor.Read
import DigestSync.Cbor.Value
import DigestSync.Delta
import DigestSync.Task

set_option autoImplicit false

/-! # CBOR forms of the domain's values

A name is an array of byte strings and a device is its name.  A kind or priority
is the text of its name, a digest an array of 32 numbers, a snapshot a map from
names to numbers, and a structure a map from field names to values, in the order
of its fields.  Readers accept more than the writers produce: fields in any
order, unknown fields, absent optional ones.
-/

namespace DigestSync.Cbor

/-- The field name is this text. -/
def isField (key : Bytes) (field : String) : Bool := key == Bytes.ofText field

/-! ## Writing -/

/-- The form of a name. -/
def ofName (name : Name) : Value := .array (name.components.map .bytes)

/-- The form of a device. -/
def ofDevice (device : DeviceId) : Value := ofName device.name

/-- The form of a digest. -/
def ofDigest (digest : Digest) : Value :=
  .array (digest.bytes.map fun byte => .unsigned byte.toUInt64)

/-- The text of a kind of change. -/
def kindText : ChangeKind → String
  | .update => "Update"
  | .delete => "Delete"

/-- The text of a priority. -/
def priorityText : Priority → String
  | .normal => "Normal"
  | .high => "High"

/-- The form of a delta record. -/
def ofRecord (record : DeltaRecord) : Value :=
  .record
    [("device", ofDevice record.device),
     ("kind", .text (kindText record.kind)),
     ("seq", .unsigned record.seq),
     ("old_seq", .option .unsigned record.oldSeq),
     ("locator", .option ofName record.locator)]

/-- The form of a priority. -/
def ofPriority (priority : Priority) : Value := .text (priorityText priority)

/-- The form of a task. -/
def ofTask (task : FetchTask) : Value :=
  .record
    [("producer", ofDevice task.producer),
     ("base_name", ofName task.baseName),
     ("min_seq", .unsigned task.minSeq),
     ("max_seq", .unsigned task.maxSeq),
     ("priority", ofPriority task.priority)]

/-- The form of a task's key. -/
def ofTaskKey (key : TaskKey) : Value :=
  .record [("producer", ofDevice key.producer), ("base_name", ofName key.baseName)]

/-- The form of a snapshot. -/
def ofSnapshot (snapshot : Snapshot) : Value :=
  .record
    [("seqs", .map (snapshot.entries.map fun entry => (ofDevice entry.1, .unsigned entry.2)))]

/-! ## Reading -/

/-- Read a component of a name: a byte string or an array of bytes. -/
def readComponent (bound : Nat) : Reader Bytes := fun input =>
  match readUntagged input with
  | .error fault => .error fault
  | .ok (.bytes length, rest) => readByteString bound length rest
  | .ok (.array count, rest) => readItems bound count (readUInt8 bound) rest
  | .ok _ => .error .unexpected

/-- Read a name. -/
def readName (bound : Nat) : Reader Name := fun input =>
  match readArray bound (readComponent bound) input with
  | .error fault => .error fault
  | .ok (components, rest) => .ok (⟨components⟩, rest)

/-- Read a device. -/
def readDevice (bound : Nat) : Reader DeviceId := fun input =>
  match readName bound input with
  | .error fault => .error fault
  | .ok (name, rest) => .ok (⟨name⟩, rest)

/-- Read a digest. -/
def readDigest (bound : Nat) : Reader Digest := fun input =>
  match readArray bound (readUInt8 bound) input with
  | .error fault => .error fault
  | .ok (bytes, rest) =>
    if size : bytes.length = 32 then .ok (⟨bytes, size⟩, rest) else .error .unexpected

/-- Read the text of an alternative and look up what it stands for. -/
def readNamed {α : Type} (alternatives : List (String × α)) : Reader α := fun input =>
  match readAlternative input with
  | .error fault => .error fault
  | .ok (key, rest) =>
    match alternatives.find? fun alternative => isField key alternative.1 with
    | none => .error .unexpected
    | some alternative => .ok (alternative.2, rest)

/-- Read a kind of change. -/
def readKind : Reader ChangeKind :=
  readNamed [(kindText .update, .update), (kindText .delete, .delete)]

/-- Read a priority. -/
def readPriority : Reader Priority :=
  readNamed [(priorityText .normal, .normal), (priorityText .high, .high)]

/-- The fields of a delta record that have been read. -/
structure RecordFields where
  device : Option DeviceId
  kind : Option ChangeKind
  seq : Option Seq
  oldSeq : Option (Option Seq)
  locator : Option (Option Name)

namespace RecordFields

/-- Nothing has been read. -/
def none : RecordFields := ⟨.none, .none, .none, .none, .none⟩

/-- The record, if no required field is missing. -/
def toRecord? (fields : RecordFields) : Option DeltaRecord :=
  match fields.device, fields.kind, fields.seq with
  | some device, some kind, some seq =>
    some ⟨device, kind, seq, fields.oldSeq.getD .none, fields.locator.getD .none⟩
  | _, _, _ => .none

/-- Read the value of a field, passing over that of an unknown one. -/
def readField (bound depth : Nat) (key : Bytes) (fields : RecordFields) :
    Reader RecordFields :=
  if isField key "device" then
    readOnce fields.device (readDevice bound) fun value => { fields with device := some value }
  else if isField key "kind" then
    readOnce fields.kind readKind fun value => { fields with kind := some value }
  else if isField key "seq" then
    readOnce fields.seq (readUnsigned bound) fun value => { fields with seq := some value }
  else if isField key "old_seq" then
    readOnce fields.oldSeq (readOption (readUnsigned bound)) fun value =>
      { fields with oldSeq := some value }
  else if isField key "locator" then
    readOnce fields.locator (readOption (readName bound)) fun value =>
      { fields with locator := some value }
  else fun input =>
    match skip bound depth input with
    | .error fault => .error fault
    | .ok (_, rest) => .ok (fields, rest)

end RecordFields

/-- Read a delta record, inside which at most `depth` containers are nested. -/
def readDeltaRecord (bound depth : Nat) : Reader DeltaRecord := fun input =>
  match readRecord bound (RecordFields.readField bound depth) .none input with
  | .error fault => .error fault
  | .ok (fields, rest) =>
    match fields.toRecord? with
    | none => .error .unexpected
    | some record => .ok (record, rest)

/-- The fields of a task that have been read. -/
structure TaskFields where
  producer : Option DeviceId
  baseName : Option Name
  minSeq : Option Seq
  maxSeq : Option Seq
  priority : Option Priority

namespace TaskFields

/-- Nothing has been read. -/
def none : TaskFields := ⟨.none, .none, .none, .none, .none⟩

/-- The task, if no field is missing. -/
def toTask? (fields : TaskFields) : Option FetchTask :=
  match fields.producer, fields.baseName, fields.minSeq, fields.maxSeq, fields.priority with
  | some producer, some baseName, some minSeq, some maxSeq, some priority =>
    some ⟨producer, baseName, minSeq, maxSeq, priority⟩
  | _, _, _, _, _ => .none

/-- Read the value of a field, passing over that of an unknown one. -/
def readField (bound : Nat) (key : Bytes) (fields : TaskFields) : Reader TaskFields :=
  if isField key "producer" then
    readOnce fields.producer (readDevice bound) fun value =>
      { fields with producer := some value }
  else if isField key "base_name" then
    readOnce fields.baseName (readName bound) fun value =>
      { fields with baseName := some value }
  else if isField key "min_seq" then
    readOnce fields.minSeq (readUnsigned bound) fun value =>
      { fields with minSeq := some value }
  else if isField key "max_seq" then
    readOnce fields.maxSeq (readUnsigned bound) fun value =>
      { fields with maxSeq := some value }
  else if isField key "priority" then
    readOnce fields.priority readPriority fun value => { fields with priority := some value }
  else fun input =>
    match skip bound (maxDepth - 1) input with
    | .error fault => .error fault
    | .ok (_, rest) => .ok (fields, rest)

end TaskFields

/-- Read a task. -/
def readTask (bound : Nat) : Reader FetchTask := fun input =>
  match readRecord bound (TaskFields.readField bound) .none input with
  | .error fault => .error fault
  | .ok (fields, rest) =>
    match fields.toTask? with
    | none => .error .unexpected
    | some task => .ok (task, rest)

/-- The fields of a task's key that have been read. -/
structure KeyFields where
  producer : Option DeviceId
  baseName : Option Name

namespace KeyFields

/-- Nothing has been read. -/
def none : KeyFields := ⟨.none, .none⟩

/-- The key, if no field is missing. -/
def toKey? (fields : KeyFields) : Option TaskKey :=
  match fields.producer, fields.baseName with
  | some producer, some baseName => some ⟨producer, baseName⟩
  | _, _ => .none

/-- Read the value of a field, passing over that of an unknown one. -/
def readField (bound : Nat) (key : Bytes) (fields : KeyFields) : Reader KeyFields :=
  if isField key "producer" then
    readOnce fields.producer (readDevice bound) fun value =>
      { fields with producer := some value }
  else if isField key "base_name" then
    readOnce fields.baseName (readName bound) fun value =>
      { fields with baseName := some value }
  else fun input =>
    match skip bound (maxDepth - 1) input with
    | .error fault => .error fault
    | .ok (_, rest) => .ok (fields, rest)

end KeyFields

/-- Read a task's key. -/
def readTaskKey (bound : Nat) : Reader TaskKey := fun input =>
  match readRecord bound (KeyFields.readField bound) .none input with
  | .error fault => .error fault
  | .ok (fields, rest) =>
    match fields.toKey? with
    | none => .error .unexpected
    | some key => .ok (key, rest)

/-- Read one entry of a map into it; of a device that is listed again the last number counts. -/
def readEntry (bound : Nat) (seqs : SortedMap DeviceId Seq) : Reader (SortedMap DeviceId Seq) :=
  fun input =>
    match readDevice bound input with
    | .error fault => .error fault
    | .ok (device, rest) =>
      match readUnsigned bound rest with
      | .error fault => .error fault
      | .ok (seq, rest) => .ok (seqs.insert device seq, rest)

/-- Read a map from devices to numbers. -/
def readEntries (bound : Nat) : Reader (SortedMap DeviceId Seq) := fun input =>
  match readUntagged input with
  | .error fault => .error fault
  | .ok (.map count, rest) => foldItems bound count (readEntry bound) SortedMap.empty rest
  | .ok _ => .error .unexpected

/-- Read the numbers of a state, among which there may be zeros. -/
def readSeqs (bound : Nat) : Reader (SortedMap DeviceId Seq) := fun input =>
  let field (key : Bytes) (found : Option (SortedMap DeviceId Seq)) :
      Reader (Option (SortedMap DeviceId Seq)) :=
    if isField key "seqs" then readOnce found (readEntries bound) some
    else fun rest =>
      match skip bound (maxDepth - 1) rest with
      | .error fault => .error fault
      | .ok (_, rest) => .ok (found, rest)
  match readRecord bound field none input with
  | .error fault => .error fault
  | .ok (some seqs, rest) => .ok (seqs, rest)
  | .ok (none, _) => .error .unexpected

/-- Read a snapshot, which lists no zeros. -/
def readSnapshot (bound : Nat) : Reader Snapshot := fun input =>
  match readSeqs bound input with
  | .error fault => .error fault
  | .ok (seqs, rest) => .ok (Snapshot.ofMap seqs, rest)

end DigestSync.Cbor
