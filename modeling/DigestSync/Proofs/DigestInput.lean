import DigestSync.Proofs.Cbor.Head
import DigestSync.Proofs.Snapshot

set_option autoImplicit false

/-! # What a digest stands for

The input of a digest is put together from numbers of a fixed width and from lists that stand
behind their lengths.  Each of these can be split off the front of whatever it stands in front of,
and so can the part of an entry.  How many entries there are is told by the end of the input alone.
So states with different numbers have different inputs, as long as the lengths fit into 32 bits,
and a digest that two states share is a collision of the hash.
-/

namespace DigestSync

/-! ## Forms that can be split off -/

/-- The form of a value that fits can be split off the front of whatever it stands in front of. -/
def IsPrefixFree {α : Type} (fits : α → Prop) (form : α → Bytes) : Prop :=
  ∀ ⦃left right : α⦄ ⦃behind after : Bytes⦄, fits left → fits right →
    form left ++ behind = form right ++ after → left = right ∧ behind = after

section

variable {α β : Type} {fits : α → Prop} {form : α → Bytes}

/-- Forms of one length can be split off if they tell the values apart. -/
theorem isPrefixFree_of_length {width : Nat} (fixed : ∀ value, (form value).length = width)
    (apart : ∀ ⦃left right⦄, fits left → fits right → form left = form right → left = right) :
    IsPrefixFree fits form := by
  intro left right behind after here there same
  have aligned : (form left).length = (form right).length := by rw [fixed, fixed]
  obtain ⟨front, rest⟩ := List.append_inj same aligned
  exact ⟨apart here there front, rest⟩

namespace IsPrefixFree

/-- Two forms behind one another. -/
theorem append {fits' : β → Prop} {form' : β → Bytes} (first : IsPrefixFree fits form)
    (second : IsPrefixFree fits' form') :
    IsPrefixFree (fun pair : α × β => fits pair.1 ∧ fits' pair.2)
      fun pair => form pair.1 ++ form' pair.2 := by
  intro left right behind after here there same
  simp only [List.append_assoc] at same
  obtain ⟨head, rest⟩ := first here.1 there.1 same
  obtain ⟨tail, rest⟩ := second here.2 there.2 rest
  exact ⟨Prod.ext head tail, rest⟩

/-- As many forms as are known to come. -/
theorem flatMap (free : IsPrefixFree fits form) {left right : List α}
    (aligned : left.length = right.length) (here : ∀ value ∈ left, fits value)
    (there : ∀ value ∈ right, fits value) {behind after : Bytes}
    (same : left.flatMap form ++ behind = right.flatMap form ++ after) :
    left = right ∧ behind = after := by
  induction left generalizing right with
  | nil =>
    obtain rfl : right = [] := List.eq_nil_of_length_eq_zero aligned.symm
    exact ⟨rfl, same⟩
  | cons first left ih =>
    cases right with
    | nil => cases aligned
    | cons second right =>
      obtain ⟨fitsFirst, fitsLeft⟩ := List.forall_mem_cons.mp here
      obtain ⟨fitsSecond, fitsRight⟩ := List.forall_mem_cons.mp there
      rw [List.flatMap_cons, List.flatMap_cons, List.append_assoc, List.append_assoc] at same
      obtain ⟨rfl, tail⟩ := free fitsFirst fitsSecond same
      obtain ⟨rfl, rest⟩ := ih (Nat.succ.inj aligned) fitsLeft fitsRight tail
      exact ⟨rfl, rest⟩

/-- Forms with nothing behind them need no count if none of them is empty. -/
theorem flatMap_inj (free : IsPrefixFree fits form) (solid : ∀ value, form value ≠ [])
    {left right : List α} (here : ∀ value ∈ left, fits value) (there : ∀ value ∈ right, fits value)
    (same : left.flatMap form = right.flatMap form) : left = right := by
  induction left generalizing right with
  | nil =>
    cases right with
    | nil => rfl
    | cons second right =>
      rw [List.flatMap_nil, List.flatMap_cons] at same
      exact absurd (List.append_eq_nil_iff.mp same.symm).1 (solid second)
  | cons first left ih =>
    cases right with
    | nil =>
      rw [List.flatMap_nil, List.flatMap_cons] at same
      exact absurd (List.append_eq_nil_iff.mp same).1 (solid first)
    | cons second right =>
      obtain ⟨fitsFirst, fitsLeft⟩ := List.forall_mem_cons.mp here
      obtain ⟨fitsSecond, fitsRight⟩ := List.forall_mem_cons.mp there
      rw [List.flatMap_cons, List.flatMap_cons] at same
      obtain ⟨rfl, rest⟩ := free fitsFirst fitsSecond same
      rw [ih fitsLeft fitsRight rest]

end IsPrefixFree

end

/-! ## Numbers and counted lists -/

namespace Bytes

theorem ofNatBE_inj {count left right : Nat} (here : left < 256 ^ count)
    (there : right < 256 ^ count) (same : ofNatBE count left = ofNatBE count right) :
    left = right := by
  rw [← toNatBE_ofNatBE here, same, toNatBE_ofNatBE there]

theorem isPrefixFree_ofUInt64 : IsPrefixFree (fun _ => True) ofUInt64 :=
  isPrefixFree_of_length length_ofUInt64 fun left right _ _ same =>
    UInt64.toNat_inj.mp (ofNatBE_inj left.toNat_lt right.toNat_lt same)

/-- The form of a length. -/
def ofLength (length : Nat) : Bytes := ofUInt32 (UInt32.ofNat length)

theorem isPrefixFree_ofLength : IsPrefixFree (· < UInt32.size) ofLength := by
  refine isPrefixFree_of_length (fun length => length_ofNatBE 4 _) ?_
  intro left right here there same
  have equal : (UInt32.ofNat left).toNat = (UInt32.ofNat right).toNat :=
    ofNatBE_inj (UInt32.ofNat left).toNat_lt (UInt32.ofNat right).toNat_lt same
  rwa [UInt32.toNat_ofNat_of_lt' here, UInt32.toNat_ofNat_of_lt' there] at equal

end Bytes

/-- A list behind its length. -/
theorem IsPrefixFree.counted {α : Type} {fits : α → Prop} {form : α → Bytes}
    (free : IsPrefixFree fits form) :
    IsPrefixFree (fun values : List α => values.length < UInt32.size ∧ ∀ value ∈ values, fits value)
      fun values => Bytes.ofLength values.length ++ values.flatMap form := by
  intro left right behind after here there same
  simp only [List.append_assoc] at same
  obtain ⟨aligned, rest⟩ := Bytes.isPrefixFree_ofLength here.1 there.1 same
  exact free.flatMap aligned here.2 there.2 rest

/-! ## Entries -/

/-- The number of components and the length of each fit into 32 bits. -/
def Name.IsShort (name : Name) : Prop :=
  name.size < UInt32.size ∧ ∀ component ∈ name.components, component.length < UInt32.size

instance (name : Name) : Decidable name.IsShort := inferInstanceAs (Decidable (_ ∧ _))

namespace Snapshot

theorem isPrefixFree_componentInput :
    IsPrefixFree (fun component : Bytes => component.length < UInt32.size) componentInput := by
  have bytes : IsPrefixFree (fun _ : UInt8 => True) fun byte => [byte] :=
    isPrefixFree_of_length (fun _ => rfl) fun _ _ _ _ same => List.singleton_inj.mp same
  intro left right behind after here there same
  refine bytes.counted ⟨here, fun _ _ => trivial⟩ ⟨there, fun _ _ => trivial⟩ ?_
  simp only [List.flatMap_singleton']
  exact same

theorem isPrefixFree_entryInput :
    IsPrefixFree (fun entry : DeviceId × Seq => entry.1.name.IsShort) entryInput := by
  rintro ⟨⟨⟨left⟩⟩, seq⟩ ⟨⟨⟨right⟩⟩, seq'⟩ behind after here there same
  have parts := isPrefixFree_componentInput.counted.append Bytes.isPrefixFree_ofUInt64
  obtain ⟨equal, rest⟩ :=
    @parts (left, seq) (right, seq') behind after ⟨here, trivial⟩ ⟨there, trivial⟩ same
  cases equal
  exact ⟨rfl, rest⟩

theorem entryInput_ne_nil (entry : DeviceId × Seq) : entryInput entry ≠ [] := by
  intro none
  have length := congrArg List.length none
  simp only [entryInput, List.length_append, Bytes.length_ofUInt64, List.length_nil] at length
  omega

/-! ## States -/

/-- The names of all devices in a map are short. -/
def HasShortNames (seqs : SortedMap DeviceId Seq) : Prop :=
  ∀ entry ∈ seqs.entries, entry.1.name.IsShort

instance (seqs : SortedMap DeviceId Seq) : Decidable (HasShortNames seqs) :=
  inferInstanceAs (Decidable (∀ entry ∈ seqs.entries, _))

/-- The input of a map that may hold zeros. -/
def inputOf (seqs : SortedMap DeviceId Seq) : Bytes :=
  digestTag ++ seqs.entries.flatMap entryInput

theorem inputOf_seqs (snapshot : Snapshot) : inputOf snapshot.seqs = snapshot.digestInput := rfl

theorem inputOf_inj {left right : SortedMap DeviceId Seq} (here : HasShortNames left)
    (there : HasShortNames right) (same : inputOf left = inputOf right) : left = right := by
  have entries : left.entries.flatMap entryInput = right.entries.flatMap entryInput :=
    List.append_cancel_left same
  apply SortedMap.eq_of_entries
  exact isPrefixFree_entryInput.flatMap_inj entryInput_ne_nil here there entries

/-- Two different inputs with one digest. -/
def Collide (left right : Bytes) : Prop := left ≠ right ∧ Digest.hash left = Digest.hash right

/-- Maps of numbers with the same input are the same, zeros included, as long as the number of
components of each device's name and the length of each component fit into 32 bits.  So two states
have the same input exactly if they are the same, and they have the same digest exactly if they are
the same or their inputs are a collision of the hash. -/
theorem digest_stands_for_state :
    (∀ left right : SortedMap DeviceId Seq, HasShortNames left → HasShortNames right →
        inputOf left = inputOf right → left = right) ∧
      ∀ left right : Snapshot, HasShortNames left.seqs → HasShortNames right.seqs →
        (left.digestInput = right.digestInput ↔ left = right) ∧
          (left.digest = right.digest ↔
            left = right ∨ Collide left.digestInput right.digestInput) := by
  refine ⟨fun left right here there same => inputOf_inj here there same, ?_⟩
  intro left right here there
  have input : left.digestInput = right.digestInput ↔ left = right := by
    rw [← inputOf_seqs, ← inputOf_seqs]
    exact ⟨fun same => eq_of_seqs (inputOf_inj here there same), fun same => by rw [same]⟩
  refine ⟨input, ?_⟩
  constructor
  · intro same
    by_cases equal : left.digestInput = right.digestInput
    · exact Or.inl (input.mp equal)
    · exact Or.inr ⟨equal, same⟩
  · rintro (rfl | ⟨-, same⟩)
    · rfl
    · exact same

/-- A device whose name has two components, and one whose only component holds the same bytes with
the length of the second one between them. -/
def lookalikes : Snapshot × Snapshot :=
  (.ofEntries [(⟨⟨[[97], [98]]⟩⟩, 1)], .ofEntries [(⟨⟨[[97, 0, 0, 0, 1, 98]]⟩⟩, 1)])

/-- The two have different inputs, and share a digest only if these collide. -/
theorem digest_stands_for_state_lookalikes :
    lookalikes.1.digestInput ≠ lookalikes.2.digestInput ∧
      (lookalikes.1.digest = lookalikes.2.digest →
        Collide lookalikes.1.digestInput lookalikes.2.digestInput) := by
  have apart : lookalikes.1 ≠ lookalikes.2 := by decide +kernel
  obtain ⟨-, states⟩ := digest_stands_for_state
  obtain ⟨input, digest⟩ := states lookalikes.1 lookalikes.2 (by decide +kernel) (by decide +kernel)
  exact ⟨mt input.mp apart, fun same => (digest.mp same).resolve_left apart⟩

end Snapshot

end DigestSync
