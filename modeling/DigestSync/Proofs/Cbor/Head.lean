import DigestSync.Cbor.Item
import DigestSync.Proofs.Data.Bytes

set_option autoImplicit false

/-! # Reading heads back

A reader is fit for a writer if it takes each value from the bytes that were written for
it, whatever follows them.  This is so for numbers of a fixed size, and from there on
for heads: the shortest head of a major type with an argument is read as such.
-/

namespace DigestSync

namespace Cbor

/-- The reader takes the value from these bytes, whatever follows them. -/
def Reads {α : Type} (reader : Reader α) (front : Bytes) (value : α) : Prop :=
  ∀ rest, reader (front ++ rest) = .ok (value, rest)

/-! ## Bytes and numbers -/

theorem reads_readBytes (content : Bytes) : Reads (readBytes content.length) content content := by
  intro rest
  unfold readBytes
  simp

theorem reads_readNumber (digits : Bytes) :
    Reads (readNumber digits.length) digits digits.toNatBE := by
  intro rest
  unfold readNumber
  simp only [reads_readBytes digits rest]

/-! ## Heads -/

/-- A major type and the low bits of a head are read off its first byte. -/
theorem div_mod_major {major low : UInt8} (small : major < 8) (short : low < 32) :
    (major * 32 + low) / 32 = major ∧ (major * 32 + low) % 32 = low := by
  have major_lt : major.toNat < 8 := UInt8.lt_iff_toNat_lt.mp small
  have low_lt : low.toNat < 32 := UInt8.lt_iff_toNat_lt.mp short
  have bits : (32 : UInt8).toNat = 32 := rfl
  have total : (major * 32 + low).toNat = major.toNat * 32 + low.toNat := by
    rw [UInt8.toNat_add, UInt8.toNat_mul, bits]
    omega
  constructor
  · apply UInt8.toNat_inj.mp
    rw [UInt8.toNat_div, total, bits]
    omega
  · apply UInt8.toNat_inj.mp
    rw [UInt8.toNat_mod, total, bits]
    omega

theorem reads_readHead_of_argument {major low : UInt8} {digits : Bytes} {argument : UInt64}
    {head : Head} (small : major < 8) (short : low < 32)
    (read : Reads (readArgument low) digits (some argument))
    (named : headOf major low (some argument) = some head) :
    Reads readHead ((major * 32 + low) :: digits) head := by
  intro rest
  obtain ⟨high, remainder⟩ := div_mod_major small short
  rw [List.cons_append]
  unfold readHead
  simp only [high, remainder, read rest, named]

/-- An argument behind the head is read from its digits. -/
theorem reads_readArgument_wide {low : UInt8} {digits : Bytes}
    (wide : ∀ input, readArgument low input =
      match readNumber digits.length input with
      | .error fault => .error fault
      | .ok (value, rest) => .ok (some (UInt64.ofNat value), rest)) :
    Reads (readArgument low) digits (some (UInt64.ofNat digits.toNatBE)) := by
  intro rest
  rw [wide, reads_readNumber digits rest]

theorem IsHead.lt_size {major : UInt8} {argument : Nat} {front : Bytes}
    (written : IsHead major argument front) : argument < UInt64.size := by
  cases written with
  | short tiny => exact Nat.lt_trans tiny (by decide)
  | @wide low digits announced spelled =>
    have below := Bytes.toNatBE_lt digits
    rw [spelled] at below
    apply Nat.lt_of_lt_of_le below
    simp only [List.mem_cons, Prod.mk.injEq, List.not_mem_nil, or_false] at announced
    rcases announced with ⟨-, size⟩ | ⟨-, size⟩ | ⟨-, size⟩ | ⟨-, size⟩
    all_goals
      rw [size]
      decide

/-- A head is read as what it says, in whichever way its argument is written. -/
theorem IsHead.reads {major : UInt8} {argument : Nat} {front : Bytes} {head : Head}
    (written : IsHead major argument front) (small : major < 8)
    (named : ∀ low, headOf major low (some (UInt64.ofNat argument)) = some head) :
    Reads readHead front head := by
  cases written with
  | short tiny =>
    have low : (UInt8.ofNat argument).toNat = argument := by
      rw [UInt8.toNat_ofNat']
      omega
    have below : UInt8.ofNat argument < 24 := by
      apply UInt8.lt_iff_toNat_lt.mpr
      rwa [low]
    have short : UInt8.ofNat argument < 32 := by
      apply UInt8.lt_iff_toNat_lt.mpr
      rw [low]
      exact Nat.lt_trans tiny (by decide)
    have same : (UInt8.ofNat argument).toUInt64 = UInt64.ofNat argument := by
      apply UInt64.toNat_inj.mp
      rw [UInt8.toNat_toUInt64, low, UInt64.toNat_ofNat_of_lt' (Nat.lt_trans tiny (by decide))]
    apply reads_readHead_of_argument small short _ (named _)
    intro rest
    simp only [readArgument, if_pos below, same, List.nil_append]
  | @wide low digits announced spelled =>
    rw [← spelled] at named
    simp only [List.mem_cons, Prod.mk.injEq, List.not_mem_nil, or_false] at announced
    rcases announced with ⟨rfl, size⟩ | ⟨rfl, size⟩ | ⟨rfl, size⟩ | ⟨rfl, size⟩
    all_goals
      exact reads_readHead_of_argument small (by decide)
        (reads_readArgument_wide fun _ => by rw [size]; rfl) (named _)

theorem IsHead.reads_unsigned {value : Nat} {front : Bytes} (written : IsHead 0 value front) :
    Reads readHead front (.unsigned (UInt64.ofNat value)) :=
  written.reads (by decide) fun _ => rfl

theorem toNat_count {count : Nat} (fits : count < UInt64.size) :
    (UInt64.ofNat count).toNat = count := UInt64.toNat_ofNat_of_lt' fits

/-- A head whose argument is a length or a count is read with this number. -/
theorem IsHead.reads_counted {major : UInt8} {count : Nat} {front : Bytes}
    {form : Option Nat → Head} (written : IsHead major count front) (small : major < 8)
    (named : ∀ low value, headOf major low (some value) = some (form (some value.toNat))) :
    Reads readHead front (form (some count)) := by
  apply written.reads small
  intro low
  rw [named, toNat_count written.lt_size]

section

variable {count : Nat} {front : Bytes}

theorem IsHead.reads_bytes (written : IsHead 2 count front) :
    Reads readHead front (.bytes (some count)) :=
  written.reads_counted (by decide) fun _ _ => rfl

theorem IsHead.reads_text (written : IsHead 3 count front) :
    Reads readHead front (.text (some count)) :=
  written.reads_counted (by decide) fun _ _ => rfl

theorem IsHead.reads_array (written : IsHead 4 count front) :
    Reads readHead front (.array (some count)) :=
  written.reads_counted (by decide) fun _ _ => rfl

theorem IsHead.reads_map (written : IsHead 5 count front) :
    Reads readHead front (.map (some count)) :=
  written.reads_counted (by decide) fun _ _ => rfl

end

/-! ## The shortest heads -/

theorem isHead_wide {low : UInt8} {count argument : Nat} (major : UInt8)
    (announced : (low, count) ∈ [((24 : UInt8), 1), (25, 2), (26, 4), (27, 8)])
    (small : argument < 256 ^ count) :
    IsHead major argument ((major * 32 + low) :: Bytes.ofNatBE count argument) := by
  refine .wide ?_ (Bytes.toNatBE_ofNatBE small)
  rwa [Bytes.length_ofNatBE]

/-- What is written is a head. -/
theorem isHead_writeHead (major : UInt8) (argument : UInt64) :
    IsHead major argument.toNat (writeHead major argument) := by
  unfold writeHead
  split
  · rename_i tiny
    have low : argument.toUInt8 = UInt8.ofNat argument.toNat := by
      apply UInt8.toNat_inj.mp
      rw [UInt64.toNat_toUInt8, UInt8.toNat_ofNat']
    rw [low]
    exact .short (UInt64.lt_iff_toNat_lt.mp tiny)
  · split
    · rename_i byte
      exact isHead_wide major (by decide) (UInt64.lt_iff_toNat_lt.mp byte)
    · split
      · rename_i word
        exact isHead_wide major (by decide) (UInt64.lt_iff_toNat_lt.mp word)
      · split
        · rename_i double
          exact isHead_wide major (by decide) (UInt64.lt_iff_toNat_lt.mp double)
        · exact isHead_wide major (by decide) argument.toNat_lt

theorem isHead_countHead {count : Nat} (major : UInt8) (fits : count < UInt64.size) :
    IsHead major count (Value.countHead major count) := by
  have written := isHead_writeHead major (UInt64.ofNat count)
  rwa [toNat_count fits] at written

theorem reads_readHead_unsigned (value : UInt64) :
    Reads readHead (writeHead 0 value) (.unsigned value) := by
  have read := (isHead_writeHead 0 value).reads_unsigned
  rwa [UInt64.ofNat_toNat] at read

/-! ## Heads that are no tag -/

/-- A head that is no tag is found at once. -/
theorem readUntagged_of_readHead {input rest : Bytes} {head : Head}
    (read : readHead input = .ok (head, rest)) (untagged : ∀ number, head ≠ .tag number) :
    readUntagged input = .ok (head, rest) := by
  unfold readUntagged
  split
  · rename_i fault failed
    rw [read] at failed
    cases failed
  · rename_i number tail tagged
    rw [read] at tagged
    cases tagged
    exact absurd rfl (untagged number)
  · rename_i other tail different found
    rw [read] at found
    cases found
    rfl

theorem reads_readUntagged {front : Bytes} {head : Head} (read : Reads readHead front head)
    (untagged : ∀ number, head ≠ .tag number) : Reads readUntagged front head :=
  fun rest => readUntagged_of_readHead (read rest) untagged

section

variable {count : Nat} {front : Bytes}

theorem IsHead.reads_readUntagged_bytes (written : IsHead 2 count front) :
    Reads readUntagged front (.bytes (some count)) :=
  reads_readUntagged written.reads_bytes fun _ => nofun

theorem IsHead.reads_readUntagged_text (written : IsHead 3 count front) :
    Reads readUntagged front (.text (some count)) :=
  reads_readUntagged written.reads_text fun _ => nofun

theorem IsHead.reads_readUntagged_array (written : IsHead 4 count front) :
    Reads readUntagged front (.array (some count)) :=
  reads_readUntagged written.reads_array fun _ => nofun

theorem IsHead.reads_readUntagged_map (written : IsHead 5 count front) :
    Reads readUntagged front (.map (some count)) :=
  reads_readUntagged written.reads_map fun _ => nofun

end

end Cbor

end DigestSync
