import DigestSync.Delta
import DigestSync.Name.Text
import DigestSync.Store.Fault
import DigestSync.Task

set_option autoImplicit false

/-! # The table store

The same knowledge as that of the memory store, kept in four tables.  Names are
stored in their written form and parsed when they are read, and numbers as the
signed 64-bit value with the same bits.  Keys are compared as texts, so a name
with empty components is read back without them, and the empty device makes
reads fail.

A table may be missing; every call that touches it then fails.  A call that
fails changes nothing.
-/

namespace DigestSync

/-- A device's row. -/
structure DeviceRow where
  device : String
  seq : Int64
  locator : Option String
deriving DecidableEq, Repr, Inhabited

/-- One device's number in a recorded state. -/
structure StateRow where
  digest : Digest
  device : String
  seq : Int64
deriving DecidableEq, Repr, Inhabited

/-- A task's row. -/
structure TaskRow where
  producer : String
  baseName : String
  minSeq : Int64
  maxSeq : Int64
  priority : Int64
  /-- When the row was written. -/
  createdAt : Nat
deriving DecidableEq, Repr, Inhabited

/-- The four tables, each in the order in which its rows were inserted. -/
structure TableStore where
  devices : Option (List DeviceRow)
  digests : Option (List Digest)
  states : Option (List StateRow)
  tasks : Option (List TaskRow)
deriving DecidableEq, Repr

namespace TableStore

/-- The four tables without rows. -/
def empty : TableStore := ⟨some [], some [], some [], some []⟩

instance : Inhabited TableStore := ⟨empty⟩

/-- The signed number with the same bits. -/
def toCell (seq : Seq) : Int64 := seq.toInt64

/-- The unsigned number with the same bits. -/
def ofCell (cell : Int64) : Seq := cell.toUInt64

/-- The rows of a table that may be missing. -/
def rowsOf {α : Type} : Option (List α) → Except StoreFault (List α)
  | none => .error .engine
  | some rows => .ok rows

/-- Parse the text of a name. -/
def parseName (text : String) : Except StoreFault Name :=
  match Name.parse text with
  | .error cause => .error (.malformed cause)
  | .ok name => .ok name

/-- Parse the text of a device. -/
def parseDevice (text : String) : Except StoreFault DeviceId :=
  match DeviceId.parse text with
  | .error cause => .error (.malformed cause)
  | .ok device => .ok device

/-! ## Devices -/

/-- The row of a device. -/
def deviceRow? (rows : List DeviceRow) (device : String) : Option DeviceRow :=
  rows.find? fun row => row.device = device

/-- Replace the row of a device, or add one at the end. -/
def putDeviceRow (rows : List DeviceRow) (new : DeviceRow) : List DeviceRow :=
  if (deviceRow? rows new.device).isSome then
    rows.map fun row => if row.device = new.device then new else row
  else rows ++ [new]

/-- The number stored for a device. -/
def deviceSeq (store : TableStore) (device : DeviceId) : Except StoreFault (Option Seq) := do
  let rows ← rowsOf store.devices
  return (deviceRow? rows device.render).map fun row => ofCell row.seq

/-- Raise a device's number, and return the one then stored. -/
def updateDeviceSeq (store : TableStore) (device : DeviceId) (seq : Seq) :
    Except StoreFault (Seq × TableStore) := do
  let rows ← rowsOf store.devices
  let text := device.render
  let row := deviceRow? rows text
  let stored := (row.map fun found => max (ofCell found.seq) seq).getD seq
  let new : DeviceRow := ⟨text, toCell stored, row.bind (·.locator)⟩
  return (stored, { store with devices := some (putDeviceRow rows new) })

/-- The locator of a device. -/
def locator (store : TableStore) (device : DeviceId) : Except StoreFault (Option Name) := do
  let rows ← rowsOf store.devices
  match (deviceRow? rows device.render).bind (·.locator) with
  | none => return none
  | some text => return some (← parseName text)

/-- Store the locator of a device, which thereby is known. -/
def updateLocator (store : TableStore) (device : DeviceId) (locator : Name) :
    Except StoreFault TableStore := do
  let rows ← rowsOf store.devices
  let text := device.render
  let seq := ((deviceRow? rows text).map (·.seq)).getD 0
  return { store with devices := some (putDeviceRow rows ⟨text, seq, some locator.render⟩) }

/-- Parse the entries of a state; the first bad device is reported. -/
def parseEntries : List (String × Int64) → Except StoreFault (List (DeviceId × Seq))
  | [] => .ok []
  | (text, cell) :: rest => do
    let device ← parseDevice text
    return (device, ofCell cell) :: (← parseEntries rest)

/-- The state made up of all numbers but zero. -/
def currentState (store : TableStore) : Except StoreFault Snapshot := do
  let rows ← rowsOf store.devices
  let present := rows.filter fun row => row.seq ≠ 0
  return Snapshot.ofEntries (← parseEntries (present.map fun row => (row.device, row.seq)))

/-! ## Recorded states -/

/-- Record the current state, and return its digest.  What was recorded under
the same digest is replaced. -/
def rememberState (store : TableStore) : Except StoreFault (Digest × TableStore) := do
  let state ← store.currentState
  let digest := state.digest
  let kept := (← rowsOf store.states).filter fun row => row.digest ≠ digest
  let digests := (← rowsOf store.digests).filter fun other => other ≠ digest
  let rows := state.entries.map fun entry => ⟨digest, entry.1.render, toCell entry.2⟩
  return (digest,
    { store with digests := some (digests ++ [digest]), states := some (kept ++ rows) })

/-- A state was recorded under the digest.  The digest of the empty state is
known without looking. -/
def isKnown (store : TableStore) (digest : Digest) : Except StoreFault Bool :=
  if digest.isOrigin then .ok true
  else do return (← rowsOf store.digests).contains digest

/-- The rows of a recorded state in the order of their device texts. -/
def stateRows (rows : List StateRow) (digest : Digest) : List StateRow :=
  (rows.filter fun row => row.digest = digest).mergeSort fun left right =>
    (compare left.device right.device).isLE

/-- The state recorded under a digest. -/
def snapshot (store : TableStore) (digest : Digest) : Except StoreFault (Option Snapshot) := do
  if ← store.isKnown digest then
    let rows := stateRows (← rowsOf store.states) digest
    return some (Snapshot.ofEntries (← parseEntries (rows.map fun row => (row.device, row.seq))))
  else return none

/-- One difference between two recorded states, as the tables tell it. -/
structure Difference where
  device : String
  newSeq : Option Int64
  oldSeq : Option Int64
  locator : Option String
deriving DecidableEq, Repr, Inhabited

/-- The rows that differ between two recorded states: first the devices of the
new one, then those that only the old one lists. -/
def differences (devices : List DeviceRow) (old new : List StateRow) : List Difference :=
  let seqIn (rows : List StateRow) (device : String) : Option Int64 :=
    (rows.find? fun row => row.device = device).map (·.seq)
  let locatorOf (device : String) : Option String :=
    (deviceRow? devices device).bind (·.locator)
  let changed := new.filter fun row => seqIn old row.device ≠ some row.seq
  let gone := old.filter fun row => (seqIn new row.device).isNone
  (changed.map fun row =>
      ⟨row.device, some row.seq, seqIn old row.device, locatorOf row.device⟩) ++
    (gone.map fun row => ⟨row.device, none, some row.seq, locatorOf row.device⟩)

/-- The record of a difference; a bad device is reported before a bad locator. -/
def Difference.toRecord (difference : Difference) (includeOld : Bool) :
    Except StoreFault DeltaRecord := do
  let device ← parseDevice difference.device
  let oldSeq := if includeOld then some ((difference.oldSeq.map ofCell).getD 0) else none
  let record :=
    match difference.newSeq with
    | some cell => DeltaRecord.update device (ofCell cell) oldSeq
    | none => DeltaRecord.delete device oldSeq
  match difference.locator with
  | none => return record
  | some text => return { record with locator := some (← parseName text) }

/-- The records of several differences; the first bad one is reported. -/
def toRecords (includeOld : Bool) : List Difference → Except StoreFault (List DeltaRecord)
  | [] => .ok []
  | difference :: rest => do
    let record ← difference.toRecord includeOld
    return record :: (← toRecords includeOld rest)

/-- The records that lead from one recorded state to another, each with the
device's present locator, in device order. -/
def findDifferences (store : TableStore) (old new : Digest) (includeOld : Bool) :
    Except StoreFault (List DeltaRecord) := do
  if !(← store.isKnown old) then throw (.unknownDigest old)
  if !(← store.isKnown new) then throw (.unknownDigest new)
  let states ← rowsOf store.states
  let devices ← rowsOf store.devices
  let found := differences devices (stateRows states old) (stateRows states new)
  let records ← toRecords includeOld found
  return records.mergeSort fun left right => (compare left.device right.device).isLE

/-! ## Tasks -/

/-- The row has the key with these texts. -/
def hasKey (row : TaskRow) (producer baseName : String) : Bool :=
  row.producer = producer && row.baseName = baseName

/-- The row of a task written at some time. -/
def rowOfTask (task : FetchTask) (createdAt : Nat) : TaskRow where
  producer := task.producer.render
  baseName := task.baseName.render
  minSeq := toCell task.minSeq
  maxSeq := toCell task.maxSeq
  priority := Int64.ofNat task.priority.toUInt8.toNat
  createdAt := createdAt

/-- The task of a row.  A priority that no byte can hold is reported first, then
a bad producer, a bad base name, and a priority that has no meaning. -/
def taskOfRow (row : TaskRow) : Except StoreFault FetchTask := do
  let value := row.priority.toInt
  if value < 0 ∨ 255 < value then
    throw (.invalidData ("priority out of range: " ++ toString value))
  let producer ← parseDevice row.producer
  let baseName ← parseName row.baseName
  match Priority.ofUInt8 (UInt8.ofNat value.toNat) with
  | .error cause => throw (.malformed cause)
  | .ok priority =>
    return ⟨producer, baseName, ofCell row.minSeq, ofCell row.maxSeq, priority⟩

/-- A task is stored under the key. -/
def hasTask (store : TableStore) (key : TaskKey) : Except StoreFault Bool := do
  let rows ← rowsOf store.tasks
  return rows.any fun row => hasKey row key.producer.render key.baseName.render

/-- Store a task at some time unless its key is taken, and tell whether it was
stored. -/
def saveTask (store : TableStore) (task : FetchTask) (now : Nat) :
    Except StoreFault (Bool × TableStore) := do
  let rows ← rowsOf store.tasks
  if ← store.hasTask task.key then return (false, store)
  return (true, { store with tasks := some (rows ++ [rowOfTask task now]) })

/-- Write a task's range and priority into the rows of its key. -/
def overwriteTask (rows : List TaskRow) (task : FetchTask) : List TaskRow :=
  rows.map fun row =>
    if hasKey row task.producer.render task.baseName.render then rowOfTask task row.createdAt
    else row

/-- Widen the task stored under the same key, or store the task at some time, and
return what is then stored. -/
def mergeTask (store : TableStore) (task : FetchTask) (now : Nat) :
    Except StoreFault (FetchTask × TableStore) := do
  let rows ← rowsOf store.tasks
  match rows.find? fun row => hasKey row task.producer.render task.baseName.render with
  | none => return (task, { store with tasks := some (rows ++ [rowOfTask task now]) })
  | some row =>
    let stored ← taskOfRow row
    let widened := stored.widen task
    if widened = stored then return (stored, store)
    else return (widened, { store with tasks := some (overwriteTask rows widened) })

/-- Remove the task of a key, and tell whether there was one. -/
def deleteTask (store : TableStore) (key : TaskKey) : Except StoreFault (Bool × TableStore) := do
  let rows ← rowsOf store.tasks
  let kept := rows.filter fun row => !hasKey row key.producer.render key.baseName.render
  return (← store.hasTask key, { store with tasks := some kept })

/-- The tasks of some rows; the first bad row is reported. -/
def toTasks : List TaskRow → Except StoreFault (List FetchTask)
  | [] => .ok []
  | row :: rest => do
    let task ← taskOfRow row
    return task :: (← toTasks rest)

/-- The stored tasks by the time at which they were written, and as inserted
where the times are equal. -/
def listTasks (store : TableStore) : Except StoreFault (List FetchTask) := do
  let rows ← rowsOf store.tasks
  toTasks (rows.mergeSort fun left right => left.createdAt ≤ right.createdAt)

/-! ## Raw rows -/

/-- Put a raw device row in the place of the one with its key, as the last. -/
def replaceDeviceRow (store : TableStore) (row : DeviceRow) : Except StoreFault TableStore := do
  let rows ← rowsOf store.devices
  return { store with
    devices := some ((rows.filter fun other => other.device ≠ row.device) ++ [row]) }

/-- Put a digest among the recorded ones. -/
def replaceDigest (store : TableStore) (digest : Digest) : Except StoreFault TableStore := do
  let digests ← rowsOf store.digests
  return { store with
    digests := some ((digests.filter fun other => other ≠ digest) ++ [digest]) }

/-- Put a raw state row in the place of the one with its key, as the last. -/
def replaceStateRow (store : TableStore) (row : StateRow) : Except StoreFault TableStore := do
  let rows ← rowsOf store.states
  let kept := rows.filter fun other => !(other.digest = row.digest && other.device = row.device)
  return { store with states := some (kept ++ [row]) }

/-- Put a raw task row in the place of the one with its key, as the last. -/
def replaceTaskRow (store : TableStore) (row : TaskRow) : Except StoreFault TableStore := do
  let rows ← rowsOf store.tasks
  let kept := rows.filter fun other => !hasKey other row.producer row.baseName
  return { store with tasks := some (kept ++ [row]) }

/-- A raw row of one of the tables. -/
inductive Row where
  | device (row : DeviceRow)
  | digest (digest : Digest)
  | state (row : StateRow)
  | task (row : TaskRow)

/-- Put a raw row in the place of the one with its key. -/
def replaceRow (store : TableStore) : Row → Except StoreFault TableStore
  | .device row => store.replaceDeviceRow row
  | .digest digest => store.replaceDigest digest
  | .state row => store.replaceStateRow row
  | .task row => store.replaceTaskRow row

/-- The tables of the store. -/
inductive Table where
  | devices
  | digests
  | states
  | tasks
deriving DecidableEq, Repr, Inhabited

/-- Drop a table with all its rows. -/
def dropTable (store : TableStore) : Table → Except StoreFault TableStore
  | .devices => do
    let _ ← rowsOf store.devices
    return { store with devices := none }
  | .digests => do
    let _ ← rowsOf store.digests
    return { store with digests := none }
  | .states => do
    let _ ← rowsOf store.states
    return { store with states := none }
  | .tasks => do
    let _ ← rowsOf store.tasks
    return { store with tasks := none }

end TableStore

end DigestSync
