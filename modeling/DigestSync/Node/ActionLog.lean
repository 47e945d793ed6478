import DigestSync.Data.SortedMap
import DigestSync.Name.Text
import DigestSync.Snapshot

set_option autoImplicit false

/-! # The action log

The records that a device has made itself, numbered from one, and those that it
has fetched from others, by producer and number.
-/

namespace DigestSync

/-- A device's records and those of others that it has. -/
structure ActionLog where
  /-- The device's own records in their order. -/
  own : List Bytes
  /-- The records of other devices. -/
  applied : SortedMap DeviceId (SortedMap Seq Bytes)
  /-- The ranges that were fetched completely, in order of completion. -/
  completed : List (DeviceId × Seq × Seq)
deriving DecidableEq, Repr

namespace ActionLog

/-- The log without a record. -/
def empty : ActionLog := ⟨[], .empty, []⟩

instance : Inhabited ActionLog := ⟨empty⟩

/-- The highest number of an own record. -/
def ownSeq (log : ActionLog) : Seq := UInt64.ofNat log.own.length

/-- Add an own record. -/
def append (log : ActionLog) (record : Bytes) : ActionLog :=
  { log with own := log.own ++ [record] }

/-- The own record with a number. -/
def lookup (log : ActionLog) (seq : Seq) : Option Bytes :=
  if seq = 0 then none else log.own[seq.toNat - 1]?

/-- The records of a producer in the order of their numbers. -/
def appliedFrom (log : ActionLog) (producer : DeviceId) : List (Seq × Bytes) :=
  match log.applied.find? producer with
  | none => []
  | some records => records.entries

/-- Take a record of a producer. -/
def apply (log : ActionLog) (producer : DeviceId) (seq : Seq) (record : Bytes) : ActionLog :=
  let records := (log.applied.find? producer).getD .empty
  { log with applied := log.applied.insert producer (records.insert seq record) }

/-- Take note of a range that is complete. -/
def finish (log : ActionLog) (producer : DeviceId) (first last : Seq) : ActionLog :=
  { log with completed := log.completed ++ [(producer, first, last)] }

/-- The complete ranges by the producer's text, first and last number. -/
def sortedCompleted (log : ActionLog) : List (DeviceId × Seq × Seq) :=
  log.completed.mergeSort fun left right =>
    ((compare left.1.render right.1.render).then
      ((compare left.2.1 right.2.1).then (compare left.2.2 right.2.2))).isLE

/-- The end of the unbroken run of numbers from `next` on in an ascending list;
one less than `next` if the run is empty. -/
def runFrom : Seq → List (Seq × Bytes) → Seq
  | next, [] => next - 1
  | next, entry :: rest =>
    if entry.1 < next then runFrom next rest
    else if entry.1 = next then runFrom (next + 1) rest
    else next - 1

/-- The number up to which all records of a producer are there. -/
def appliedThrough (log : ActionLog) (producer : DeviceId) : Seq :=
  runFrom 1 (log.appliedFrom producer)

end ActionLog

end DigestSync
