import DigestSync.Fetch.Fetcher

set_option autoImplicit false

/-! # The worklist

The tasks that are to be fetched, are being fetched or have just been, in the
order in which they get their turn: urgent ones in front, the latest first, and
then the others in order of arrival.  Each entry has a number that is never used
again.  A finished entry stays for a while, so that a repeated request for the
same records is recognised.
-/

namespace DigestSync

/-- The number of an entry. -/
abbrev FetcherId := Nat

/-- Where an entry stands. -/
inductive SlotState where
  /-- It waits for its turn. -/
  | idle (fetcher : Fetcher)
  /-- An attempt is under way. -/
  | active
  /-- It is finished, and forgotten at the given time. -/
  | finished (expiry : Instant)
deriving DecidableEq, Repr

/-- An entry of the worklist. -/
structure Slot where
  id : FetcherId
  task : FetchTask
  state : SlotState
deriving DecidableEq, Repr

/-- The entries in their order. -/
structure Worklist where
  slots : List Slot
  /-- How many attempts are under way. -/
  active : Nat
  /-- The number that the next entry gets. -/
  nextId : FetcherId
  /-- No further entry is accepted. -/
  stopped : Bool
deriving DecidableEq, Repr

namespace Slot

/-- An attempt is under way. -/
def isActive (slot : Slot) : Bool :=
  match slot.state with
  | .active => true
  | _ => false

/-- The entry is not finished. -/
def isLive (slot : Slot) : Bool :=
  match slot.state with
  | .finished _ => false
  | _ => true

/-- The entry is finished and due to be forgotten. -/
def isExpired (slot : Slot) (now : Instant) : Bool :=
  match slot.state with
  | .finished expiry => expiry ≤ now
  | _ => false

/-- The entry's range holds that of a task with the same key. -/
def covers (slot : Slot) (task : FetchTask) : Bool :=
  slot.task.key = task.key && slot.task.spans task

/-- The fetcher of an entry whose next attempt may start. -/
def due? (slot : Slot) (now : Instant) : Option Fetcher :=
  match slot.state with
  | .idle fetcher => if fetcher.nextRetry ≤ now then some fetcher else none
  | _ => none

/-- When the entry next needs attention by itself. -/
def wake? (slot : Slot) (now : Instant) : Option Instant :=
  match slot.state with
  | .idle fetcher => if fetcher.nextRetry ≤ now then none else some fetcher.nextRetry
  | .active => none
  | .finished expiry => some expiry

end Slot

namespace Worklist

/-- The worklist without entries. -/
def empty : Worklist := ⟨[], 0, 0, false⟩

instance : Inhabited Worklist := ⟨empty⟩

/-- The numbers of the entries in their order. -/
def order (list : Worklist) : List FetcherId := list.slots.map (·.id)

/-- The entry with a number. -/
def slot? (list : Worklist) (id : FetcherId) : Option Slot :=
  list.slots.find? fun slot => slot.id = id

/-- An entry covers the range of a task. -/
def covers (list : Worklist) (task : FetchTask) : Bool :=
  list.slots.any fun slot => slot.covers task

/-- The tasks of the unfinished entries with a key. -/
def liveTasks (list : Worklist) (key : TaskKey) : List FetchTask :=
  (list.slots.filter fun slot => slot.isLive && slot.task.key = key).map (·.task)

/-- The least task that reaches as far as some tasks do. -/
def span : List FetchTask → Option FetchTask
  | [] => none
  | task :: rest => some (rest.foldl FetchTask.widen task)

/-- The least task that reaches as far as all unfinished entries with a key. -/
def liveSpan (list : Worklist) (key : TaskKey) : Option FetchTask := span (list.liveTasks key)

/-- Add an entry for a task. -/
def insert (list : Worklist) (task : FetchTask) (fetcher : Fetcher) : Worklist :=
  let slot : Slot := ⟨list.nextId, task, .idle fetcher⟩
  { list with
    nextId := list.nextId + 1
    slots :=
      match task.priority with
      | .high => slot :: list.slots
      | .normal => list.slots ++ [slot] }

/-- Move an entry to another state. -/
def setState (list : Worklist) (id : FetcherId) (state : SlotState) : Worklist :=
  { list with
    slots := list.slots.map fun slot => if slot.id = id then { slot with state } else slot }

/-- An attempt of the entry is under way. -/
def isActive (list : Worklist) (id : FetcherId) : Bool :=
  list.slots.any fun slot => slot.id = id && slot.isActive

/-- End an entry's attempt and move it to another state. -/
def release (list : Worklist) (id : FetcherId) (state : SlotState) : Worklist :=
  { list.setState id state with active := list.active - 1 }

/-- Remove all entries with a key. -/
def removeKey (list : Worklist) (key : TaskKey) : Worklist :=
  { list with
    slots := list.slots.filter fun slot => slot.task.key ≠ key
    active :=
      list.active - list.slots.countP fun slot => slot.task.key = key && slot.isActive }

/-- Accept no further entry, and end all attempts. -/
def stop (list : Worklist) : Worklist := { list with active := 0, stopped := true }

/-! ## Scheduling -/

/-- Forget the finished entries whose time has come. -/
def purge (list : Worklist) (now : Instant) : Worklist :=
  { list with slots := list.slots.filter fun slot => !slot.isExpired now }

/-- Start attempts in order, as many as there is room for. -/
def startDue (now : Instant) : Nat → List Slot → List Slot × List (FetcherId × Fetcher)
  | _, [] => ([], [])
  | room, slot :: rest =>
    match room, slot.due? now with
    | room + 1, some fetcher =>
      let (slots, started) := startDue now room rest
      ({ slot with state := .active } :: slots, (slot.id, fetcher) :: started)
    | room, _ =>
      let (slots, started) := startDue now room rest
      (slot :: slots, started)

/-- When to look at the worklist again. -/
def wakeTime (list : Worklist) (config : FetchConfig) (now : Instant) : Instant :=
  (list.slots.filterMap fun slot => slot.wake? now).foldl min (now + config.maxIdle)

/-- Forget what is over and start what is due.  The result tells which attempts
are to be started, and when to look again. -/
def schedule (list : Worklist) (config : FetchConfig) (now : Instant) :
    Worklist × List (FetcherId × Fetcher) × Instant :=
  let list := list.purge now
  let (slots, started) := startDue now (config.maxParallel - list.active) list.slots
  ({ list with slots, active := list.active + started.length }, started,
    list.wakeTime config now)

end Worklist

end DigestSync
