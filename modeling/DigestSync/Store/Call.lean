import DigestSync.Store.Memory
import DigestSync.Store.Table
import DigestSync.Sync.Convergence

set_option autoImplicit false

/-! # Calls on a store

What a store can be asked, as a type of its own, and what it answers.  The memory
store and the tables take the same calls.
-/

namespace DigestSync

/-- A call on a store. -/
inductive StoreCall where
  | deviceSeq (device : DeviceId)
  | updateDeviceSeq (device : DeviceId) (seq : Seq)
  | locator (device : DeviceId)
  | updateLocator (device : DeviceId) (locator : Name)
  | currentState
  | rememberState
  | isKnown (digest : Digest)
  | snapshot (digest : Digest)
  | findDifferences (old new : Digest) (includeOld : Bool)
  | saveTask (task : FetchTask)
  | mergeTask (task : FetchTask)
  | deleteTask (key : TaskKey)
  | hasTask (key : TaskKey)
  | listTasks
deriving DecidableEq, Repr

/-- The answer to a call on a store. -/
inductive StoreAnswer where
  | done
  | truth (value : Bool)
  | seq (value : Option Seq)
  | name (value : Option Name)
  | state (value : Option Snapshot)
  | digest (value : Digest)
  | records (value : List DeltaRecord)
  | tasks (value : List FetchTask)
  | task (value : FetchTask)
deriving DecidableEq, Repr

/-- Take a call. -/
def MemoryStore.take (store : MemoryStore) :
    StoreCall → Except StoreFault (StoreAnswer × MemoryStore)
  | .deviceSeq device => .ok (.seq (store.deviceSeq device), store)
  | .updateDeviceSeq device seq =>
    let (stored, store) := store.updateDeviceSeq device seq
    .ok (.seq (some stored), store)
  | .locator device => .ok (.name (store.locator device), store)
  | .updateLocator device locator => .ok (.done, store.updateLocator device locator)
  | .currentState => .ok (.state (some store.currentState), store)
  | .rememberState =>
    let (digest, store) := store.rememberState
    .ok (.digest digest, store)
  | .isKnown digest => .ok (.truth (store.isKnown digest), store)
  | .snapshot digest => .ok (.state (store.snapshot digest), store)
  | .findDifferences old new includeOld =>
    match store.findDifferences old new includeOld with
    | .error fault => .error fault
    | .ok records => .ok (.records records, store)
  | .saveTask task =>
    let (saved, store) := store.saveTask task
    .ok (.truth saved, store)
  | .mergeTask task =>
    let (stored, store) := store.mergeTask task
    .ok (.task stored, store)
  | .deleteTask key =>
    let (deleted, store) := store.deleteTask key
    .ok (.truth deleted, store)
  | .hasTask key => .ok (.truth (store.hasTask key), store)
  | .listTasks => .ok (.tasks store.listTasks, store)

/-- Take a call at a time. -/
def TableStore.take (store : TableStore) (now : Nat) :
    StoreCall → Except StoreFault (StoreAnswer × TableStore)
  | .deviceSeq device => do return (.seq (← store.deviceSeq device), store)
  | .updateDeviceSeq device seq => do
    let (stored, store) ← store.updateDeviceSeq device seq
    return (.seq (some stored), store)
  | .locator device => do return (.name (← store.locator device), store)
  | .updateLocator device locator => do return (.done, ← store.updateLocator device locator)
  | .currentState => do return (.state (some (← store.currentState)), store)
  | .rememberState => do
    let (digest, store) ← store.rememberState
    return (.digest digest, store)
  | .isKnown digest => do return (.truth (← store.isKnown digest), store)
  | .snapshot digest => do return (.state (← store.snapshot digest), store)
  | .findDifferences old new includeOld => do
    return (.records (← store.findDifferences old new includeOld), store)
  | .saveTask task => do
    let (saved, store) ← store.saveTask task now
    return (.truth saved, store)
  | .mergeTask task => do
    let (stored, store) ← store.mergeTask task now
    return (.task stored, store)
  | .deleteTask key => do
    let (deleted, store) ← store.deleteTask key
    return (.truth deleted, store)
  | .hasTask key => do return (.truth (← store.hasTask key), store)
  | .listTasks => do return (.tasks (← store.listTasks), store)

/-! ## Stores of either kind -/

/-- A store of either kind. -/
inductive AnyStore where
  | memory (store : MemoryStore)
  /-- Tables, which may be kept when they are closed. -/
  | tables (store : TableStore) (isKept : Bool)

namespace AnyStore

/-- Take a call at a time. -/
def takeAt (store : AnyStore) (now : Nat) (call : StoreCall) :
    Except StoreFault (StoreAnswer × AnyStore) :=
  match store with
  | .memory store => do
    let (answer, store) ← store.take call
    return (answer, .memory store)
  | .tables store isKept => do
    let (answer, store) ← store.take now call
    return (answer, .tables store isKept)

/-- The time of calls that come without one; rows of an earlier time are told apart from theirs. -/
def writeTime : Nat := 1

/-- Take a call that comes without a time. -/
def take (store : AnyStore) (call : StoreCall) : Except StoreFault (StoreAnswer × AnyStore) :=
  store.takeAt writeTime call

/-- Close a store and open it again. -/
def reopen : AnyStore → AnyStore
  | .memory _ => .memory .empty
  | .tables store isKept => .tables (if isKept then store else .empty) isKept

/-- Change the tables of a store that has some. -/
def changeTables (store : AnyStore) (action : TableStore → Except StoreFault TableStore) :
    Except StoreFault AnyStore :=
  match store with
  | .memory store => .ok (.memory store)
  | .tables store isKept => do return .tables (← action store) isKept

/-- Take note of several numbers. -/
def fill (entries : List (DeviceId × Seq)) (store : AnyStore) : Except StoreFault AnyStore :=
  entries.foldlM (fun store (device, seq) =>
    Prod.snd <$> store.take (.updateDeviceSeq device seq)) store

/-- The state made up of all numbers but zero. -/
def currentState : AnyStore → Except StoreFault Snapshot
  | .memory store => .ok store.currentState
  | .tables store _ => store.currentState

/-- Compare the current states of two stores. -/
def compare (here there : AnyStore) : Except StoreFault Convergence := do
  return Convergence.compare (← here.currentState) (← there.currentState)

end AnyStore

end DigestSync
