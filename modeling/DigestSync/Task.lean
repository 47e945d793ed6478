import DigestSync.Snapshot

set_option autoImplicit false

/-! # Fetch tasks

A task asks for a range of numbered records of one producer under one base
name.  Tasks with the same producer and base name share a key, and a task can
be widened by another one of its key.
-/

namespace DigestSync

/-- How urgent a task is. -/
inductive Priority where
  | normal
  | high
deriving DecidableEq, Repr, Inhabited

namespace Priority

/-- The number of a priority. -/
def toUInt8 : Priority → UInt8
  | .normal => 0
  | .high => 1

/-- The priority with a number. -/
def ofUInt8 (value : UInt8) : Except Malformed Priority :=
  if value = 0 then .ok .normal
  else if value = 1 then .ok .high
  else .error (.priority value)

/-- The more urgent of two priorities. -/
def max : Priority → Priority → Priority
  | .normal, other => other
  | .high, _ => .high

end Priority

/-- What tasks are told apart by. -/
structure TaskKey where
  producer : DeviceId
  baseName : Name
deriving DecidableEq, Repr, Inhabited

instance : Ord TaskKey where
  compare left right :=
    (compare left.producer right.producer).then (compare left.baseName right.baseName)

/-- A range of records to be fetched from a producer, both ends included. -/
structure FetchTask where
  producer : DeviceId
  baseName : Name
  minSeq : Seq
  maxSeq : Seq
  priority : Priority
deriving DecidableEq, Repr, Inhabited

namespace FetchTask

/-- The key of a task. -/
def key (task : FetchTask) : TaskKey := ⟨task.producer, task.baseName⟩

/-- The range holds no number. -/
def isEmpty (task : FetchTask) : Bool := task.maxSeq < task.minSeq

/-- How many numbers the range holds. -/
def segmentCount (task : FetchTask) : Seq :=
  if task.isEmpty then 0 else task.maxSeq - task.minSeq + 1

/-- The range holds a number. -/
def contains (task : FetchTask) (seq : Seq) : Bool := task.minSeq ≤ seq && seq ≤ task.maxSeq

/-- The range of another task lies between the ends of this one. -/
def spans (task other : FetchTask) : Bool :=
  task.minSeq ≤ other.minSeq && other.maxSeq ≤ task.maxSeq

/-- The least task that reaches as far as two tasks do, and is as urgent as the
more urgent one. -/
def widen (task other : FetchTask) : FetchTask :=
  { task with
    minSeq := min task.minSeq other.minSeq
    maxSeq := max task.maxSeq other.maxSeq
    priority := task.priority.max other.priority }

end FetchTask

end DigestSync
