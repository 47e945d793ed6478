import DigestSync.Snapshot

set_option autoImplicit false

/-! # Progress of a transfer

Which records of a range have arrived: all below a moving bound, and some runs
beyond it that came out of order.  The runs are in ascending order, with at least
one missing record below each of them.  When the record at the bound arrives, the
bound moves past the run that follows without a gap.
-/

namespace DigestSync

/-- Successive records. -/
structure Run where
  first : Seq
  last : Seq
deriving DecidableEq, Repr, Inhabited

/-- The records that have arrived. -/
structure Progress where
  /-- The first record that has not arrived. -/
  next : Seq
  /-- The records beyond it that have arrived. -/
  ahead : List Run
deriving DecidableEq, Repr, Inhabited

namespace Run

/-- The record is one of the run. -/
def contains (run : Run) (seq : Seq) : Bool := run.first ≤ seq && seq ≤ run.last

/-- Put a run in front of others, the first of which it may touch. -/
def join (run : Run) : List Run → List Run
  | [] => [run]
  | following :: rest =>
    if run.last + 1 = following.first then ⟨run.first, following.last⟩ :: rest
    else run :: following :: rest

/-- Add a record to ascending runs. -/
def insert (seq : Seq) : List Run → List Run
  | [] => [⟨seq, seq⟩]
  | run :: rest =>
    if seq < run.first then join ⟨seq, seq⟩ (run :: rest)
    else if seq ≤ run.last then run :: rest
    else if seq = run.last + 1 then join ⟨run.first, seq⟩ rest
    else run :: insert seq rest

end Run

namespace Progress

/-- Nothing from `first` on has arrived. -/
def start (first : Seq) : Progress := ⟨first, []⟩

/-- The record has arrived, or lies before the range. -/
def isReceived (progress : Progress) (seq : Seq) : Bool :=
  seq < progress.next || progress.ahead.any fun run => run.contains seq

/-- The progress with the given bound, which moves past a run that begins there. -/
def settle (next : Seq) : List Run → Progress
  | [] => ⟨next, []⟩
  | run :: rest => if run.first = next then ⟨run.last + 1, rest⟩ else ⟨next, run :: rest⟩

/-- Take note of a record's arrival. -/
def mark (progress : Progress) (seq : Seq) : Progress :=
  if seq < progress.next then progress
  else if progress.next < seq then
    { progress with ahead := Run.insert seq progress.ahead }
  else settle (progress.next + 1) progress.ahead

/-- The progress after the arrival of some records. -/
def after (first : Seq) (arrivals : List Seq) : Progress := arrivals.foldl mark (start first)

/-- Everything up to `last` has arrived. -/
def isComplete (progress : Progress) (last : Seq) : Bool := last < progress.next

end Progress

end DigestSync
