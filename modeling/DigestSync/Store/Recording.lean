import DigestSync.Store.Call

set_option autoImplicit false

/-! # What a store records

A store of either kind takes calls one after the other, each at the time that the clock then
shows, which may be less than it was; a call that fails changes nothing.  Along with such a run
goes the list of the states that were recorded, each under the digest that was returned for it.
-/

namespace DigestSync

/-- The store after a call. -/
def MemoryStore.next (store : MemoryStore) (call : StoreCall) : MemoryStore :=
  match store.take call with
  | .error _ => store
  | .ok (_, next) => next

/-- The store after a call at a time. -/
def TableStore.next (store : TableStore) (now : Nat) (call : StoreCall) : TableStore :=
  match store.take now call with
  | .error _ => store
  | .ok (_, next) => next

namespace AnyStore

/-- Nothing was written to the store, as after the first opening of a database. -/
def IsFresh : AnyStore → Prop
  | .memory store => store = .empty
  | .tables store _ => store = .empty

/-- A state was recorded under the digest. -/
def isKnown (store : AnyStore) (digest : Digest) : Except StoreFault Bool :=
  match store with
  | .memory store => .ok (store.isKnown digest)
  | .tables store _ => store.isKnown digest

/-- The state recorded under a digest. -/
def snapshot (store : AnyStore) (digest : Digest) : Except StoreFault (Option Snapshot) :=
  match store with
  | .memory store => .ok (store.snapshot digest)
  | .tables store _ => store.snapshot digest

/-- The store after a call at a time. -/
def after (store : AnyStore) (call : Nat × StoreCall) : AnyStore :=
  match store.takeAt call.1 call.2 with
  | .error _ => store
  | .ok (_, next) => next

/-- The store after some calls, each at its time. -/
def run (store : AnyStore) (calls : List (Nat × StoreCall)) : AnyStore := calls.foldl after store

/-- The state that a call records, under the digest that it returns. -/
def recordedBy (store : AnyStore) (call : Nat × StoreCall) : List (Digest × Snapshot) :=
  match call.2, store.takeAt call.1 call.2, store.currentState with
  | .rememberState, .ok (.digest digest, _), .ok state => [(digest, state)]
  | _, _, _ => []

/-- The states that are recorded over some calls, each under the digest returned for it. -/
def recorded (store : AnyStore) : List (Nat × StoreCall) → List (Digest × Snapshot)
  | [] => []
  | call :: rest => store.recordedBy call ++ (store.after call).recorded rest

theorem after_memory (memory : MemoryStore) (now : Nat) (call : StoreCall) :
    (AnyStore.memory memory).after (now, call) = .memory (memory.next call) := by
  unfold after takeAt MemoryStore.next
  dsimp only
  cases memory.take call <;> rfl

theorem after_tables (tables : TableStore) (isKept : Bool) (now : Nat) (call : StoreCall) :
    (AnyStore.tables tables isKept).after (now, call) = .tables (tables.next now call) isKept := by
  unfold after takeAt TableStore.next
  dsimp only
  cases tables.take now call <;> rfl

theorem run_append (store : AnyStore) (front rest : List (Nat × StoreCall)) :
    store.run (front ++ rest) = (store.run front).run rest := by
  unfold run
  rw [List.foldl_append]

theorem recorded_append (store : AnyStore) (front rest : List (Nat × StoreCall)) :
    store.recorded (front ++ rest) = store.recorded front ++ (store.run front).recorded rest := by
  induction front generalizing store with
  | nil => rfl
  | cons call others ih =>
    rw [List.cons_append, recorded, ih, recorded, List.append_assoc]
    rfl

end AnyStore

end DigestSync
