import DigestSync.Proofs.Delta
import DigestSync.Proofs.Name.Prefix
import Mathlib.Order.Defs.Unbundled
import Mathlib.Order.Preorder.Chain

set_option autoImplicit false

/-! # The order of names

Lists are ordered by what they begin with: one that goes on is greater than one that ends, and
otherwise the first place where they differ decides.  Names are ordered so by their components, and
components by their bytes.  This order is total, and a proper beginning of a name comes before it.
Records and the entries that a digest is taken of stand in it, in whatever order they were found.
-/

namespace DigestSync

/-- A list comes before another one, which goes on where it ends or holds a greater item at the
first place where they differ. -/
inductive Precedes {α : Type} (less : α → α → Prop) : List α → List α → Prop where
  | ends (left : List α) (item : α) (rest : List α) : Precedes less left (left ++ item :: rest)
  | differs (common : List α) {first second : α} (lefts rights : List α)
      (decides : less first second) :
      Precedes less (common ++ first :: lefts) (common ++ second :: rights)

namespace Precedes

variable {α : Type} {less : α → α → Prop} {left right : List α} {first second : α}

theorem nil_cons (item : α) (rest : List α) : Precedes less [] (item :: rest) :=
  .ends [] item rest

theorem ne_nil (precedes : Precedes less left right) : right ≠ [] := by
  cases precedes <;> simp

/-- An item in front of both leaves the rest to decide. -/
theorem cons (item : α) (precedes : Precedes less left right) :
    Precedes less (item :: left) (item :: right) := by
  cases precedes with
  | ends left other rest => exact .ends (item :: left) other rest
  | differs common lefts rights decides => exact .differs (item :: common) lefts rights decides

theorem cons_iff :
    Precedes less (first :: left) (second :: right) ↔
      less first second ∨ first = second ∧ Precedes less left right := by
  constructor
  · intro precedes
    generalize whole : first :: left = front at precedes
    generalize other : second :: right = back at precedes
    cases precedes with
    | ends _ item rest =>
      subst whole
      obtain ⟨same, later⟩ := List.cons.inj other
      exact Or.inr ⟨same.symm, later ▸ .ends left item rest⟩
    | differs common lefts rights decides =>
      cases common with
      | nil =>
        cases whole
        cases other
        exact Or.inl decides
      | cons item common =>
        cases whole
        cases other
        exact Or.inr ⟨rfl, .differs common lefts rights decides⟩
  · rintro (decides | ⟨rfl, precedes⟩)
    · exact .differs [] left right decides
    · exact precedes.cons first

end Precedes

/-- If the order of items is the comparison, so is that of lists. -/
theorem compare_eq_lt_iff_precedes {α : Type} [Ord α] [Std.LawfulEqOrd α] {less : α → α → Prop}
    (decides : ∀ first second, compare first second = .lt ↔ less first second)
    (left right : List α) : compare left right = .lt ↔ Precedes less left right := by
  induction left generalizing right with
  | nil =>
    cases right with
    | nil => exact iff_of_false (by simp) fun precedes => precedes.ne_nil rfl
    | cons item rest => exact iff_of_true List.compare_nil_cons (.nil_cons item rest)
  | cons first lefts ih =>
    cases right with
    | nil => exact iff_of_false (by simp) fun precedes => precedes.ne_nil rfl
    | cons second rights =>
      rw [List.compare_cons_cons, Ordering.then_eq_lt, decides, ih, Std.compare_eq_iff_eq,
        Precedes.cons_iff]

namespace Name

variable {left right start name rest : Name}

/-! ## Beginnings -/

theorem isPrefixOf_iff_exists : start.isPrefixOf name = true ↔ ∃ rest, name = start ++ rest := by
  rw [isPrefixOf_iff]
  constructor
  · rintro ⟨rest, whole⟩
    exact ⟨⟨rest⟩, congrArg Name.mk whole.symm⟩
  · rintro ⟨rest, rfl⟩
    exact List.prefix_append _ _

theorem drop?_eq_none_iff : name.drop? start = none ↔ start.isPrefixOf name = false := by
  rw [← Bool.not_eq_true, isPrefixOf_iff_exists, Option.eq_none_iff_forall_ne_some]
  simp only [ne_eq, drop?_eq_some_iff, not_exists]

theorem isPrefixOf_antisymm (first : left.isPrefixOf right = true)
    (second : right.isPrefixOf left = true) : left = right := by
  have forth := isPrefixOf_iff.mp first
  have back := isPrefixOf_iff.mp second
  exact congrArg Name.mk (forth.eq_of_length_le back.length_le)

theorem isPartialOrder_isPrefixOf :
    IsPartialOrder Name fun left right => left.isPrefixOf right = true where
  refl := isPrefixOf_refl
  trans _ _ _ := isPrefixOf_trans
  antisymm _ _ := isPrefixOf_antisymm

/-! ## Comparison -/

theorem isLinearOrder_compare :
    IsLinearOrder Name fun left right => (compare left right).isLE = true where
  refl left := by rw [Std.ReflOrd.compare_self]; rfl
  trans _ _ _ := Std.TransOrd.isLE_trans
  antisymm _ _ below above := Std.compare_eq_iff_eq.mp (Std.OrientedCmp.isLE_antisymm below above)
  total := isLE_or_isLE

/-- Bytes decide on components, and components on names. -/
theorem compare_eq_lt_iff :
    compare left right = .lt ↔
      Precedes (Precedes (· < ·)) left.components right.components :=
  compare_eq_lt_iff_precedes
    (compare_eq_lt_iff_precedes fun _ _ : UInt8 => Std.compare_eq_lt) _ _

theorem compare_eq_lt_of_isPrefixOf (begins : start.isPrefixOf name = true)
    (proper : start ≠ name) : compare start name = .lt := by
  obtain ⟨⟨components⟩, rfl⟩ := isPrefixOf_iff_exists.mp begins
  cases components with
  | nil => exact absurd (congrArg Name.mk (List.append_nil start.components).symm) proper
  | cons component components => exact compare_eq_lt_iff.mpr (.ends _ component components)

/-- What is left of a name behind its start is what has to be appended to the start to make up the
name; there is no such answer exactly if the name does not begin so.  To begin another name is a
partial order, in which the beginnings of any name form a chain.  The comparison is a total order in
which only equal names compare as equal.  A proper beginning is less, and otherwise the first
component in which two names differ decides: the lesser one is a proper beginning of the other, or
has the lesser byte where they first differ.  Records of a delta, and the entries of which a digest
is taken, stand in this order in whatever order they were found. -/
theorem lawfully_ordered :
    (∀ start name rest : Name, name.drop? start = some rest ↔ name = start ++ rest) ∧
      (∀ start name : Name, name.drop? start = none ↔ start.isPrefixOf name = false) ∧
      (∀ start name : Name, start.isPrefixOf name = true ↔ ∃ rest, name = start ++ rest) ∧
      IsPartialOrder Name (fun left right => left.isPrefixOf right = true) ∧
      (∀ name : Name, IsChain (fun left right => left.isPrefixOf right = true)
        {start : Name | start.isPrefixOf name = true}) ∧
      IsLinearOrder Name (fun left right => (compare left right).isLE = true) ∧
      (∀ left right : Name, compare left right = .eq ↔ left = right) ∧
      (∀ left right : Name, compare right left = (compare left right).swap) ∧
      (∀ start name : Name, start.isPrefixOf name = true → start ≠ name →
        compare start name = .lt) ∧
      (∀ left right : Name, compare left right = .lt ↔
        Precedes (Precedes (· < ·)) left.components right.components) ∧
      (∀ (old new : Snapshot) (includeOld : Bool) (found : List DeltaRecord),
        found.Perm (old.diff new includeOld) →
        found.mergeSort (fun left right => (compare left.device.name right.device.name).isLE) =
          old.diff new includeOld) ∧
      ∀ (snapshot : Snapshot) (found : List (DeviceId × Seq)), found.Perm snapshot.entries →
        snapshot.digest = Digest.hash (Snapshot.digestTag ++
          (found.mergeSort fun left right => (compare left.1.name right.1.name).isLE).flatMap
            Snapshot.entryInput) := by
  refine ⟨fun _ _ _ => drop?_eq_some_iff, fun _ _ => drop?_eq_none_iff,
    fun _ _ => isPrefixOf_iff_exists, isPartialOrder_isPrefixOf, ?_, isLinearOrder_compare,
    fun _ _ => Std.compare_eq_iff_eq, fun _ _ => Std.OrientedCmp.eq_swap,
    fun _ _ => compare_eq_lt_of_isPrefixOf, fun _ _ => compare_eq_lt_iff, ?_, ?_⟩
  · intro name left first right second _
    exact isPrefixOf_or_isPrefixOf first second
  · intro old new includeOld found perm
    exact mergeSort_eq_of_pairwise (fun record => record.device.name) perm
      (Snapshot.pairwise_diff old new includeOld)
  · intro snapshot found perm
    have sorted := mergeSort_eq_of_pairwise (fun entry : DeviceId × Seq => entry.1.name) perm
      snapshot.seqs.ordered
    rw [sorted]
    rfl

/-- A name comes before the same name with an empty component, which comes before one whose first
component goes on; and so they stand, though they were found the other way round. -/
theorem lawfully_ordered_lookalikes :
    let short : Name := ⟨[[97]]⟩
    let longer : Name := ⟨[[97], []]⟩
    let other : Name := ⟨[[97, 0]]⟩
    let found : List (DeviceId × Seq) := [(⟨other⟩, 1), (⟨longer⟩, 2), (⟨short⟩, 3)]
    let told : List DeltaRecord := Snapshot.empty.diff (Snapshot.ofEntries found) true
    (short.isPrefixOf longer = true ∧ short ≠ longer ∧ compare short longer = .lt ∧
        compare longer other = .lt) ∧
      (found.Perm (Snapshot.ofEntries found).entries ∧
        (Snapshot.ofEntries found).digest = Digest.hash (Snapshot.digestTag ++
          (found.mergeSort fun left right => (compare left.1.name right.1.name).isLE).flatMap
            Snapshot.entryInput)) ∧
      told.reverse.Perm told ∧
        told.reverse.mergeSort
          (fun left right => (compare left.device.name right.device.name).isLE) = told := by
  intro short longer other found told
  obtain ⟨-, -, -, -, -, -, -, -, proper, differs, sorted, listed⟩ := lawfully_ordered
  have begins : short.isPrefixOf longer = true := rfl
  have apart : short ≠ longer := by decide
  have entries : found.Perm (Snapshot.ofEntries found).entries := by decide
  have records : told.reverse.Perm told := List.reverse_perm told
  refine ⟨⟨begins, apart, proper _ _ begins apart, (differs _ _).mpr ?_⟩,
    ⟨entries, listed _ _ entries⟩, records, sorted _ _ _ _ records⟩
  exact .differs [] [[]] [] (.ends [97] 0 [])

end Name

end DigestSync
