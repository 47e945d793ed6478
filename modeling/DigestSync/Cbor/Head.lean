import DigestSync.Data.Bytes

set_option autoImplicit false

/-! # CBOR heads

Every CBOR item starts with a head: three bits for its major type and an
argument of up to eight bytes, which is a value, a length or a count.  This
module writes heads in their shortest form and reads them in every form that is
not reserved.

A decoder reads its input strictly from front to back, so of several faults the
first one in the stream is reported.
-/

namespace DigestSync.Cbor

/-- Why an input is not the encoding of the expected value. -/
inductive Fault where
  /-- The input ends before the value does. -/
  | truncated
  /-- The bytes are not well-formed CBOR. -/
  | illFormed
  /-- A well-formed item is not the one that was expected. -/
  | unexpected
  /-- Containers are nested too deeply. -/
  | tooDeep
deriving DecidableEq, Repr, Inhabited

/-- A decoder reads a value from the front of its input and returns the rest. -/
abbrev Reader (α : Type) := Bytes → Except Fault (α × Bytes)

/-- The head of an item.  A length or count is absent when the item goes on
until a stop mark. -/
inductive Head where
  | unsigned (value : UInt64)
  | negative (value : UInt64)
  | bytes (length : Option Nat)
  | text (length : Option Nat)
  | array (count : Option Nat)
  | map (count : Option Nat)
  | tag (number : UInt64)
  | simple (value : UInt8)
  | float
  | stop
deriving DecidableEq, Repr, Inhabited

/-! ## Writing -/

/-- The shortest head of a major type with an argument. -/
def writeHead (major : UInt8) (argument : UInt64) : Bytes :=
  if argument < 24 then [major * 32 + argument.toUInt8]
  else if argument < 0x100 then (major * 32 + 24) :: Bytes.ofNatBE 1 argument.toNat
  else if argument < 0x10000 then (major * 32 + 25) :: Bytes.ofNatBE 2 argument.toNat
  else if argument < 0x100000000 then (major * 32 + 26) :: Bytes.ofNatBE 4 argument.toNat
  else (major * 32 + 27) :: Bytes.ofNatBE 8 argument.toNat

/-! ## Reading -/

/-- Read exactly `count` bytes. -/
def readBytes (count : Nat) : Reader Bytes := fun input =>
  let front := input.take count
  if front.length = count then .ok (front, input.drop count) else .error .truncated

/-- Read a big-endian number of `count` bytes. -/
def readNumber (count : Nat) : Reader Nat := fun input =>
  match readBytes count input with
  | .error fault => .error fault
  | .ok (digits, rest) => .ok (Bytes.toNatBE digits, rest)

/-- Read the argument that the five low bits of a head announce; the bits 31
stand for an absent argument, and 28 to 30 are reserved. -/
def readArgument (low : UInt8) : Reader (Option UInt64) := fun input =>
  let wide (count : Nat) : Except Fault (Option UInt64 × Bytes) :=
    match readNumber count input with
    | .error fault => .error fault
    | .ok (value, rest) => .ok (some (UInt64.ofNat value), rest)
  if low < 24 then .ok (some low.toUInt64, input)
  else if low = 24 then wide 1
  else if low = 25 then wide 2
  else if low = 26 then wide 4
  else if low = 27 then wide 8
  else if low = 31 then .ok (none, input)
  else .error .illFormed

/-- The head with a major type, the low bits of its first byte and its argument.
Numbers and tags cannot go without an argument. -/
def headOf (major low : UInt8) (argument : Option UInt64) : Option Head :=
  match major.toNat, argument with
  | 0, some value => some (.unsigned value)
  | 1, some value => some (.negative value)
  | 2, length => some (.bytes (length.map UInt64.toNat))
  | 3, length => some (.text (length.map UInt64.toNat))
  | 4, count => some (.array (count.map UInt64.toNat))
  | 5, count => some (.map (count.map UInt64.toNat))
  | 6, some number => some (.tag number)
  | 7, none => some .stop
  | 7, some value => some (if low ≤ 24 then .simple value.toUInt8 else .float)
  | _, _ => none

/-- Read one head. -/
def readHead : Reader Head
  | [] => .error .truncated
  | first :: input =>
    match readArgument (first % 32) input with
    | .error fault => .error fault
    | .ok (argument, rest) =>
      match headOf (first / 32) (first % 32) argument with
      | none => .error .illFormed
      | some head => .ok (head, rest)

theorem length_of_readBytes {count : Nat} {input front rest : Bytes}
    (read : readBytes count input = .ok (front, rest)) : rest.length + count = input.length := by
  simp only [readBytes] at read
  split at read
  · rename_i enough
    simp only [Except.ok.injEq, Prod.mk.injEq] at read
    rw [← read.2, List.length_drop]
    rw [List.length_take] at enough
    omega
  · simp at read

theorem length_of_readNumber {count value : Nat} {input rest : Bytes}
    (read : readNumber count input = .ok (value, rest)) : rest.length + count = input.length := by
  simp only [readNumber] at read
  split at read
  · simp at read
  · rename_i front
    simp only [Except.ok.injEq, Prod.mk.injEq] at read
    exact read.2 ▸ length_of_readBytes front

theorem length_of_readArgument {low : UInt8} {argument : Option UInt64} {input rest : Bytes}
    (read : readArgument low input = .ok (argument, rest)) : rest.length ≤ input.length := by
  simp only [readArgument] at read
  repeat' split at read
  all_goals
    simp only [Except.ok.injEq, Prod.mk.injEq, reduceCtorEq] at read
  all_goals
    first
    | exact read.2 ▸ Nat.le_refl _
    | (rename_i number
       have := length_of_readNumber number
       rw [← read.2]
       omega)

/-- A head takes at least one byte. -/
theorem length_of_readHead {head : Head} {input rest : Bytes}
    (read : readHead input = .ok (head, rest)) : rest.length < input.length := by
  cases input with
  | nil => simp [readHead] at read
  | cons first input =>
    simp only [readHead] at read
    split at read
    · simp at read
    · rename_i argument
      split at read
      · simp at read
      · simp only [Except.ok.injEq, Prod.mk.injEq] at read
        have := length_of_readArgument argument
        rw [← read.2, List.length_cons]
        omega

/-- Read the next head that is no tag. -/
def readUntagged (input : Bytes) : Except Fault (Head × Bytes) :=
  match _read : readHead input with
  | .error fault => .error fault
  | .ok (.tag _, rest) => readUntagged rest
  | .ok (head, rest) => .ok (head, rest)
termination_by input.length
decreasing_by exact length_of_readHead _read

end DigestSync.Cbor
