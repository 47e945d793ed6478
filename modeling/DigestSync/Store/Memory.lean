import DigestSync.Delta
import DigestSync.Store.Fault
import DigestSync.Task

set_option autoImplicit false

/-! # The memory store

A store remembers the highest number and the locator of each device, the states
that were recorded under their digests, and the fetch tasks that are not yet
done.  The empty state counts as recorded from the start.

Numbers only grow.  A device that is known by its locator alone has number zero
and is left out of every state.
-/

namespace DigestSync

/-- What a device knows, kept in memory. -/
structure MemoryStore where
  /-- The highest number of each device, zero included. -/
  seqs : SortedMap DeviceId Seq
  /-- Where each device's data can be asked for. -/
  locators : SortedMap DeviceId Name
  /-- The states recorded so far. -/
  digests : SortedMap Digest Snapshot
  /-- The tasks not yet done, in the order in which they were first saved; no two
  have the same key. -/
  tasks : List FetchTask
deriving DecidableEq, Repr

namespace MemoryStore

/-- The store that knows nothing. -/
def empty : MemoryStore := ⟨.empty, .empty, .empty, []⟩

instance : Inhabited MemoryStore := ⟨empty⟩

/-! ## Devices -/

/-- The number stored for a device. -/
def deviceSeq (store : MemoryStore) (device : DeviceId) : Option Seq :=
  store.seqs.find? device

/-- Raise a device's number, and return the one then stored. -/
def updateDeviceSeq (store : MemoryStore) (device : DeviceId) (seq : Seq) :
    Seq × MemoryStore :=
  let stored := max ((store.deviceSeq device).getD 0) seq
  (stored, { store with seqs := store.seqs.insert device stored })

/-- The locator of a device. -/
def locator (store : MemoryStore) (device : DeviceId) : Option Name :=
  store.locators.find? device

/-- Store the locator of a device, which thereby is known. -/
def updateLocator (store : MemoryStore) (device : DeviceId) (locator : Name) : MemoryStore :=
  { store with
    seqs := store.seqs.insert device ((store.deviceSeq device).getD 0)
    locators := store.locators.insert device locator }

/-- The state made up of all numbers but zero. -/
def currentState (store : MemoryStore) : Snapshot := Snapshot.ofMap store.seqs

/-! ## Recorded states -/

/-- Record the current state, and return its digest. -/
def rememberState (store : MemoryStore) : Digest × MemoryStore :=
  let state := store.currentState
  (state.digest, { store with digests := store.digests.insert state.digest state })

/-- A state was recorded under the digest. -/
def isKnown (store : MemoryStore) (digest : Digest) : Bool :=
  digest.isOrigin || store.digests.contains digest

/-- The state recorded under a digest. -/
def snapshot (store : MemoryStore) (digest : Digest) : Option Snapshot :=
  match store.digests.find? digest with
  | some state => some state
  | none => if digest.isOrigin then some Snapshot.empty else none

/-- The records that lead from one recorded state to another, each with the
device's present locator. -/
def findDifferences (store : MemoryStore) (old new : Digest) (includeOld : Bool) :
    Except StoreFault (List DeltaRecord) :=
  match store.snapshot old with
  | none => .error (.unknownDigest old)
  | some before =>
    match store.snapshot new with
    | none => .error (.unknownDigest new)
    | some after =>
      .ok ((before.diff after includeOld).map fun record =>
        { record with locator := store.locator record.device })

/-! ## Tasks -/

/-- The task stored under a key. -/
def task? (store : MemoryStore) (key : TaskKey) : Option FetchTask :=
  store.tasks.find? fun task => task.key = key

/-- A task is stored under the key. -/
def hasTask (store : MemoryStore) (key : TaskKey) : Bool := (store.task? key).isSome

/-- Store a task unless its key is taken, and tell whether it was stored. -/
def saveTask (store : MemoryStore) (task : FetchTask) : Bool × MemoryStore :=
  if store.hasTask task.key then (false, store)
  else (true, { store with tasks := store.tasks ++ [task] })

/-- Widen the task stored under the same key, or store the task, and return what
is then stored. -/
def mergeTask (store : MemoryStore) (task : FetchTask) : FetchTask × MemoryStore :=
  match store.task? task.key with
  | none => (task, { store with tasks := store.tasks ++ [task] })
  | some stored =>
    let widened := stored.widen task
    (widened,
      { store with
        tasks := store.tasks.map fun other => if other.key = task.key then widened else other })

/-- Remove the task of a key, and tell whether there was one. -/
def deleteTask (store : MemoryStore) (key : TaskKey) : Bool × MemoryStore :=
  (store.hasTask key, { store with tasks := store.tasks.filter fun task => task.key ≠ key })

/-- The stored tasks in the order in which they were first saved. -/
def listTasks (store : MemoryStore) : List FetchTask := store.tasks

end MemoryStore

end DigestSync
