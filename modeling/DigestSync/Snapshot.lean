import DigestSync.Data.SortedMap
import DigestSync.Digest
import DigestSync.Name.Basic

set_option autoImplicit false

/-! # State snapshots

A snapshot gives each device the highest sequence number known of it.  A device
with number zero is not listed, so a snapshot is determined by the numbers it
gives.  Snapshots are joined by taking the larger number of each device.

The digest of a snapshot hashes a fixed tag and then, device by device, the
number of name components, each component behind its length, and the sequence
number; all of fixed width, so that no two snapshots share their input.
-/

namespace DigestSync

/-- A sequence number. -/
abbrev Seq := UInt64

/-- The highest sequence number known of each device. -/
structure Snapshot where
  seqs : SortedMap DeviceId Seq
  nonzero : ∀ entry ∈ seqs.entries, entry.2 ≠ 0
deriving DecidableEq, Repr

namespace Snapshot

/-- The snapshot that knows of no device. -/
def empty : Snapshot := ⟨SortedMap.empty, by simp [SortedMap.empty]⟩

instance : Inhabited Snapshot := ⟨empty⟩

/-- The entries in device order. -/
def entries (snapshot : Snapshot) : List (DeviceId × Seq) := snapshot.seqs.entries

/-- The number listed for a device. -/
def get? (snapshot : Snapshot) (device : DeviceId) : Option Seq := snapshot.seqs.find? device

/-- The number of a device, zero if it is not listed. -/
def seqOf (snapshot : Snapshot) (device : DeviceId) : Seq := (snapshot.get? device).getD 0

/-- The number of listed devices. -/
def size (snapshot : Snapshot) : Nat := snapshot.entries.length

/-- No device is listed. -/
def isEmpty (snapshot : Snapshot) : Bool := snapshot.entries.isEmpty

/-- Give a device a number other than zero. -/
def set (snapshot : Snapshot) (device : DeviceId) (seq : Seq) (positive : seq ≠ 0) : Snapshot :=
  ⟨snapshot.seqs.insert device seq, fun entry member => by
    rcases Entries.mem_insert member with here | there
    · exact here ▸ positive
    · exact snapshot.nonzero entry there⟩

/-- Drop a device. -/
def erase (snapshot : Snapshot) (device : DeviceId) : Snapshot :=
  ⟨snapshot.seqs.erase device, fun entry member =>
    snapshot.nonzero entry (Entries.mem_of_mem_erase member)⟩

/-- A number is higher than the one known of the device. -/
def isRaisedBy (snapshot : Snapshot) (device : DeviceId) (seq : Seq) : Bool :=
  snapshot.seqOf device < seq

theorem ne_zero_of_isRaisedBy {snapshot : Snapshot} {device : DeviceId} {seq : Seq}
    (raised : snapshot.isRaisedBy device seq = true) : seq ≠ 0 := by
  have less : snapshot.seqOf device < seq := of_decide_eq_true raised
  rintro rfl
  simp at less

/-- Take note of a device's number, keeping the higher one. -/
def merge (snapshot : Snapshot) (device : DeviceId) (seq : Seq) : Snapshot :=
  if raised : snapshot.isRaisedBy device seq = true then
    snapshot.set device seq (ne_zero_of_isRaisedBy raised)
  else snapshot

/-- Take note of several numbers. -/
def mergeAll (snapshot : Snapshot) (entries : List (DeviceId × Seq)) : Snapshot :=
  entries.foldl (fun state entry => state.merge entry.1 entry.2) snapshot

/-- The snapshot of a list of entries: each device's highest number. -/
def ofEntries (entries : List (DeviceId × Seq)) : Snapshot := empty.mergeAll entries

/-- The snapshot of a map that may hold zeros, which are left out. -/
def ofMap (seqs : SortedMap DeviceId Seq) : Snapshot :=
  ⟨⟨seqs.entries.filter fun entry => entry.2 ≠ 0, List.Pairwise.filter _ seqs.ordered⟩,
    by simp⟩

/-- The tag that the digest of every snapshot starts with. -/
def digestTag : Bytes := Bytes.ofText "driftsync-state-v0:"

/-- The part of the digest's input that stands for one component. -/
def componentInput (component : Bytes) : Bytes :=
  Bytes.ofUInt32 (UInt32.ofNat component.length) ++ component

/-- The part of the digest's input that stands for one entry. -/
def entryInput (entry : DeviceId × Seq) : Bytes :=
  Bytes.ofUInt32 (UInt32.ofNat entry.1.name.size) ++
    entry.1.name.components.flatMap componentInput ++ Bytes.ofUInt64 entry.2

/-- What the digest of a snapshot hashes. -/
def digestInput (snapshot : Snapshot) : Bytes :=
  digestTag ++ snapshot.entries.flatMap entryInput

/-- The digest of a snapshot. -/
def digest (snapshot : Snapshot) : Digest := Digest.hash snapshot.digestInput

end Snapshot

namespace Digest

/-- The digest of the empty snapshot, known to everyone. -/
def origin : Digest := Snapshot.empty.digest

/-- The digest is that of the empty snapshot. -/
def isOrigin (digest : Digest) : Bool := digest == origin

end Digest

end DigestSync
