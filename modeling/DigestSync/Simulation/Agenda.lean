import DigestSync.Time
import Std.Data.TreeMap.Basic

set_option autoImplicit false

/-! # Agendas

An agenda lists what is still to happen in a simulated run, in the order of the
times at which it is due.  Of two things due at the same time, the one that was
entered first comes first.
-/

namespace DigestSync

/-- Things that are due at the same time, of which at least one is left. -/
structure Batch (α : Type) where
  first : α
  /-- What comes next, in order. -/
  following : List α
  /-- What comes after that, the last in front. -/
  entered : List α
deriving Repr

namespace Batch

variable {α : Type}

/-- A single thing. -/
def single (item : α) : Batch α := ⟨item, [], []⟩

/-- Enter something behind all others. -/
def push (batch : Batch α) (item : α) : Batch α :=
  { batch with entered := item :: batch.entered }

/-- The things in order. -/
def toList (batch : Batch α) : List α :=
  batch.first :: (batch.following ++ batch.entered.reverse)

/-- What is left after the first thing, if anything is. -/
def rest? (batch : Batch α) : Option (Batch α) :=
  match batch.following with
  | next :: following => some ⟨next, following, batch.entered⟩
  | [] =>
    match batch.entered.reverse with
    | next :: following => some ⟨next, following, []⟩
    | [] => none

end Batch

/-- What is still to happen, by the time at which it is due. -/
structure Agenda (α : Type) where
  batches : Std.TreeMap Instant (Batch α)

namespace Agenda

variable {α : Type}

/-- Nothing is to happen. -/
def empty : Agenda α := ⟨∅⟩

/-- Enter something that is due at a time. -/
def insert (agenda : Agenda α) (due : Instant) (item : α) : Agenda α :=
  match agenda.batches[due]? with
  | none => ⟨agenda.batches.insert due (.single item)⟩
  | some batch => ⟨agenda.batches.insert due (batch.push item)⟩

/-- What is due first, and the rest. -/
def first? (agenda : Agenda α) : Option (Instant × α × Agenda α) :=
  match agenda.batches.minEntry? with
  | none => none
  | some (due, batch) =>
    match batch.rest? with
    | none => some (due, batch.first, ⟨agenda.batches.erase due⟩)
    | some rest => some (due, batch.first, ⟨agenda.batches.insert due rest⟩)

/-- What is due first if that is no later than `limit`, and the rest. -/
def next? (agenda : Agenda α) (limit : Instant) : Option (Instant × α × Agenda α) :=
  match agenda.first? with
  | none => none
  | some (due, item, rest) => if due ≤ limit then some (due, item, rest) else none

end Agenda

end DigestSync
