import DigestSync.Store.Memory

set_option autoImplicit false

/-! # Volumes

A volume is a memory store together with the fault, if any, that its medium has
at the time.  While there is a fault, every call fails with it and leaves the
store as it was.
-/

namespace DigestSync

/-- A store on a medium that may be faulty. -/
structure Volume where
  store : MemoryStore
  fault : Option StoreFault
deriving Repr

namespace Volume

/-- A store on a sound medium. -/
def ofStore (store : MemoryStore) : Volume := ⟨store, none⟩

instance : Inhabited Volume := ⟨ofStore .empty⟩

/-- Ask the store unless the medium is faulty. -/
def ask {α : Type} (volume : Volume) (question : MemoryStore → α) : Except StoreFault α :=
  match volume.fault with
  | some fault => .error fault
  | none => .ok (question volume.store)

/-- Change the store unless the medium is faulty. -/
def change {α : Type} (volume : Volume) (action : MemoryStore → α × MemoryStore) :
    Except StoreFault (α × Volume) :=
  match volume.fault with
  | some fault => .error fault
  | none =>
    let (answer, store) := action volume.store
    .ok (answer, { volume with store })

/-! ## The calls of a store -/

/-- The number stored for a device. -/
def deviceSeq (volume : Volume) (device : DeviceId) : Except StoreFault (Option Seq) :=
  volume.ask fun store => store.deviceSeq device

/-- Raise a device's number, and return the one then stored. -/
def updateDeviceSeq (volume : Volume) (device : DeviceId) (seq : Seq) :
    Except StoreFault (Seq × Volume) :=
  volume.change fun store => store.updateDeviceSeq device seq

/-- The locator of a device. -/
def locator (volume : Volume) (device : DeviceId) : Except StoreFault (Option Name) :=
  volume.ask fun store => store.locator device

/-- Store the locator of a device. -/
def updateLocator (volume : Volume) (device : DeviceId) (locator : Name) :
    Except StoreFault (Unit × Volume) :=
  volume.change fun store => ((), store.updateLocator device locator)

/-- The state made up of all numbers but zero. -/
def currentState (volume : Volume) : Except StoreFault Snapshot :=
  volume.ask MemoryStore.currentState

/-- Record the current state, and return its digest. -/
def rememberState (volume : Volume) : Except StoreFault (Digest × Volume) :=
  volume.change MemoryStore.rememberState

/-- A state was recorded under the digest. -/
def isKnown (volume : Volume) (digest : Digest) : Except StoreFault Bool :=
  volume.ask fun store => store.isKnown digest

/-- The records that lead from one recorded state to another. -/
def findDifferences (volume : Volume) (old new : Digest) (includeOld : Bool) :
    Except StoreFault (List DeltaRecord) :=
  match volume.ask fun store => store.findDifferences old new includeOld with
  | .error fault => .error fault
  | .ok answer => answer

/-- Store a task or widen the one of its key, and return what is then stored. -/
def mergeTask (volume : Volume) (task : FetchTask) : Except StoreFault (FetchTask × Volume) :=
  volume.change fun store => store.mergeTask task

/-- Remove the task of a key, and tell whether there was one. -/
def deleteTask (volume : Volume) (key : TaskKey) : Except StoreFault (Bool × Volume) :=
  volume.change fun store => store.deleteTask key

/-- The stored tasks in the order in which they were first saved. -/
def listTasks (volume : Volume) : Except StoreFault (List FetchTask) :=
  volume.ask MemoryStore.listTasks

end Volume

end DigestSync
