import DigestSync.Store.Call
import DigestSync.Store.Schema

set_option autoImplicit false

/-! # A database over its life

A database is opened before it is used, which brings it up to date: the first time
this adds the tables of the store, without rows, and later it leaves them as they are.
The same steps, calls and reopenings, can be taken by a memory store, for which
reopening is nothing.
-/

namespace DigestSync

/-- A database: what its catalog tells, and the tables of the store, which are missing
as long as it has not been opened. -/
structure Database where
  catalog : Catalog
  store : TableStore

/-- A step in the life of a store. -/
inductive StoreStep where
  /-- A call is taken at a time. -/
  | call (now : Nat) (call : StoreCall)
  /-- The store is closed and opened again. -/
  | reopen

/-- When a step takes place, if that matters. -/
def StoreStep.time? : StoreStep → Option Nat
  | .call now _ => some now
  | .reopen => none

namespace Database

/-- The database that was never opened. -/
def blank : Database := ⟨⟨[], none⟩, ⟨none, none, none, none⟩⟩

/-- Open a database.  The tables that are added have no rows. -/
def connect (database : Database) : Except StoreFault Database :=
  match database.catalog.migrate with
  | (.error fault, _) => .error fault
  | (.ok (), catalog) =>
    .ok ⟨catalog, if catalog.tables = database.catalog.tables then database.store else .empty⟩

/-- The answers to the calls of some steps.  A call that fails changes nothing, and an
opening that fails counts as an answer. -/
def answersTo (database : Database) : List StoreStep → List (Except StoreFault StoreAnswer)
  | [] => []
  | .call now call :: rest =>
    match database.store.take now call with
    | .error fault => .error fault :: database.answersTo rest
    | .ok (answer, store) => .ok answer :: { database with store }.answersTo rest
  | .reopen :: rest =>
    match database.connect with
    | .error fault => .error fault :: database.answersTo rest
    | .ok opened => opened.answersTo rest

end Database

/-- The answers to the calls of some steps. -/
def MemoryStore.answersTo (store : MemoryStore) :
    List StoreStep → List (Except StoreFault StoreAnswer)
  | [] => []
  | .call _ call :: rest =>
    match store.take call with
    | .error fault => .error fault :: store.answersTo rest
    | .ok (answer, store) => .ok answer :: store.answersTo rest
  | .reopen :: rest => store.answersTo rest

end DigestSync
