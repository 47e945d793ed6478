import DigestSync.Data.Blake3
import DigestSync.Malformed

set_option autoImplicit false

/-! # Digests

The 32-byte BLAKE3 hash by which a state is known to others.  A digest is
written in hexadecimal, and by its first sixteen digits where a short form
will do.
-/

namespace DigestSync

/-- A 32-byte digest. -/
structure Digest where
  bytes : Bytes
  length_eq : bytes.length = 32
deriving DecidableEq, Repr

namespace Digest

instance : Ord Digest := ⟨fun left right => compare left.bytes right.bytes⟩

instance : Std.TransOrd Digest where
  eq_swap := Std.OrientedOrd.eq_swap (α := List UInt8)
  isLE_trans := Std.TransOrd.isLE_trans (α := List UInt8)

instance : Std.LawfulEqOrd Digest where
  eq_of_compare {left right} same := by
    have bytes_eq : left.bytes = right.bytes :=
      Std.LawfulEqOrd.eq_of_compare (α := List UInt8) same
    cases left; cases right
    simpa using bytes_eq

/-- The digest of some data. -/
def hash (data : Bytes) : Digest := ⟨Blake3.hash data, Blake3.length_hash data⟩

/-- The digest with all bytes equal. -/
def fill (byte : UInt8) : Digest := ⟨List.replicate 32 byte, List.length_replicate⟩

instance : Inhabited Digest := ⟨fill 0⟩

/-- Take bytes as a digest if there are 32 of them. -/
def ofBytes (bytes : Bytes) : Except Malformed Digest :=
  if size : bytes.length = 32 then .ok ⟨bytes, size⟩
  else .error (.digestLength bytes.length)

/-- The 64 hexadecimal digits. -/
def toHex (digest : Digest) : String := Hex.encode digest.bytes

/-- The digest that a hexadecimal text stands for.  Faults of the text are
reported before a wrong length. -/
def ofHex (text : String) : Except Malformed Digest :=
  match Hex.decode text with
  | .error fault => .error (.digestHex fault)
  | .ok bytes => ofBytes bytes

/-- The first sixteen hexadecimal digits. -/
def short (digest : Digest) : String := Hex.encode (digest.bytes.take 8)

end Digest

end DigestSync
