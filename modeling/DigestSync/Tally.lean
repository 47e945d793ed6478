import DigestSync.Delta

set_option autoImplicit false

/-! # Snapshots in the making

A snapshot comes from nothing or from a list of entries, and goes on by merging numbers and by
replaying records.  A tally is the plain list of entries that these steps work on.  Neither its
order nor the absence of zeros is part of its type, and merging tells whether anything has changed.
-/

namespace DigestSync

/-- Numbers of devices in a plain list of entries. -/
structure Tally where
  entries : List (DeviceId × Seq)
deriving DecidableEq, Repr, Inhabited

/-- A step on the way to a snapshot. -/
inductive SnapshotEdit where
  /-- Start from nothing. -/
  | clear
  /-- Start from some entries. -/
  | load (entries : List (DeviceId × Seq))
  /-- Take note of a number. -/
  | merge (device : DeviceId) (seq : Seq)
  /-- Replay some records. -/
  | apply (records : List DeltaRecord)
deriving Repr, Inhabited

namespace Tally

/-- The tally without entries. -/
def empty : Tally := ⟨[]⟩

/-- The number listed for a device. -/
def get? (tally : Tally) (device : DeviceId) : Option Seq := Entries.find? tally.entries device

/-- List a device with a number, whatever it had before. -/
def put (tally : Tally) (device : DeviceId) (seq : Seq) : Tally :=
  ⟨Entries.insert tally.entries device seq⟩

/-- List a device no more. -/
def drop (tally : Tally) (device : DeviceId) : Tally := ⟨Entries.erase tally.entries device⟩

/-- Take note of a device's number, keeping the higher one, and tell whether that has changed
anything. -/
def merge (tally : Tally) (device : DeviceId) (seq : Seq) : Tally × Bool :=
  if seq = 0 then (tally, false)
  else
    match tally.get? device with
    | some known => if seq ≤ known then (tally, false) else (tally.put device seq, true)
    | none => (tally.put device seq, true)

/-- The tally of a list of entries: each device's highest number. -/
def ofEntries (entries : List (DeviceId × Seq)) : Tally :=
  entries.foldl (fun tally entry => (tally.merge entry.1 entry.2).1) empty

/-- Replay one record literally. -/
def applyRecord (tally : Tally) (record : DeltaRecord) : Tally :=
  match record.kind with
  | .update =>
    if 0 < record.seq then tally.put record.device record.seq else tally.drop record.device
  | .delete => tally.drop record.device

/-- Take one step. -/
def edit (tally : Tally) : SnapshotEdit → Tally
  | .clear => empty
  | .load entries => ofEntries entries
  | .merge device seq => (tally.merge device seq).1
  | .apply records => records.foldl applyRecord tally

/-- What some steps lead to. -/
def edited (edits : List SnapshotEdit) : Tally := edits.foldl edit empty

end Tally

namespace Snapshot

/-- Take one step. -/
def edit (snapshot : Snapshot) : SnapshotEdit → Snapshot
  | .clear => empty
  | .load entries => ofEntries entries
  | .merge device seq => snapshot.merge device seq
  | .apply records => snapshot.apply records

/-- What some steps lead to. -/
def edited (edits : List SnapshotEdit) : Snapshot := edits.foldl edit empty

end Snapshot

end DigestSync
