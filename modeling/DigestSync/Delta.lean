import DigestSync.Snapshot

set_option autoImplicit false

/-! # Deltas

What changed between two snapshots, as one record for each device that differs.
An update carries the newer number; a deletion says that the device is no longer
listed.  A record may also tell the older number and where the device's data
can be asked for.
-/

namespace DigestSync

/-- What happened to a device. -/
inductive ChangeKind where
  | update
  | delete
deriving DecidableEq, Repr, Inhabited

/-- One device's change. -/
structure DeltaRecord where
  device : DeviceId
  kind : ChangeKind
  seq : Seq
  oldSeq : Option Seq
  locator : Option Name
deriving DecidableEq, Repr, Inhabited

namespace DeltaRecord

/-- The device now has this number. -/
def update (device : DeviceId) (seq : Seq) (oldSeq : Option Seq) : DeltaRecord :=
  ⟨device, .update, seq, oldSeq, none⟩

/-- The device is no longer listed. -/
def delete (device : DeviceId) (oldSeq : Option Seq) : DeltaRecord :=
  ⟨device, .delete, 0, oldSeq, none⟩

/-- The record is an update. -/
def isUpdate (record : DeltaRecord) : Bool := record.kind = .update

/-- The numbers that an update with a known older number adds, first and last. -/
def missingRange (record : DeltaRecord) : Option (Seq × Seq) :=
  match record.kind, record.oldSeq with
  | .update, some old => if old < record.seq then some (old + 1, record.seq) else none
  | _, _ => none

end DeltaRecord

namespace Snapshot

/-- Walk two ascending lists of entries side by side and record each device
whose numbers differ. -/
def diffEntries (includeOld : Bool) :
    List (DeviceId × Seq) → List (DeviceId × Seq) → List DeltaRecord
  | [], new => new.map fun entry =>
      DeltaRecord.update entry.1 entry.2 (if includeOld then some 0 else none)
  | old, [] => old.map fun entry =>
      DeltaRecord.delete entry.1 (if includeOld then some entry.2 else none)
  | gone :: old, come :: new =>
    match compare gone.1 come.1 with
    | .lt =>
      DeltaRecord.delete gone.1 (if includeOld then some gone.2 else none) ::
        diffEntries includeOld old (come :: new)
    | .gt =>
      DeltaRecord.update come.1 come.2 (if includeOld then some 0 else none) ::
        diffEntries includeOld (gone :: old) new
    | .eq =>
      if gone.2 = come.2 then diffEntries includeOld old new
      else
        DeltaRecord.update come.1 come.2 (if includeOld then some gone.2 else none) ::
          diffEntries includeOld old new
termination_by old new => old.length + new.length

/-- The records that lead from one snapshot to another, in device order.  The
older numbers, zero for a device that was not listed, are told on request. -/
def diff (old new : Snapshot) (includeOld : Bool) : List DeltaRecord :=
  diffEntries includeOld old.entries new.entries

/-- Replay one record literally: an update sets the device's number, a deletion
or an update to zero drops the device. -/
def applyRecord (snapshot : Snapshot) (record : DeltaRecord) : Snapshot :=
  if positive : record.seq ≠ 0 then
    match record.kind with
    | .update => snapshot.set record.device record.seq positive
    | .delete => snapshot.erase record.device
  else snapshot.erase record.device

/-- Replay records in order. -/
def apply (snapshot : Snapshot) (records : List DeltaRecord) : Snapshot :=
  records.foldl applyRecord snapshot

end Snapshot

end DigestSync
