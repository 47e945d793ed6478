import DigestSync.Name.Basic

set_option autoImplicit false

/-! # Beginnings of names

A name begins with another one exactly if it is that one with something appended, and then what
follows is what was appended.  Two beginnings of one name can be compared: one of them begins
with the other.
-/

namespace DigestSync

namespace Name

variable {left right start name rest : Name} {component other : Bytes}

theorem isPrefixOf_iff : left.isPrefixOf right = true ↔ left.components <+: right.components :=
  List.isPrefixOf_iff_prefix

theorem isPrefixOf_append (start rest : Name) : start.isPrefixOf (start ++ rest) = true :=
  isPrefixOf_iff.mpr (List.prefix_append _ _)

theorem isPrefixOf_push (name : Name) (component : Bytes) :
    name.isPrefixOf (name.push component) = true :=
  isPrefixOf_append name ⟨[component]⟩

theorem isPrefixOf_refl (name : Name) : name.isPrefixOf name = true :=
  isPrefixOf_iff.mpr List.prefix_rfl

theorem isPrefixOf_trans (first : left.isPrefixOf right = true)
    (second : right.isPrefixOf name = true) : left.isPrefixOf name = true :=
  isPrefixOf_iff.mpr ((isPrefixOf_iff.mp first).trans (isPrefixOf_iff.mp second))

/-- Of two beginnings of a name one begins with the other. -/
theorem isPrefixOf_or_isPrefixOf (first : left.isPrefixOf name = true)
    (second : right.isPrefixOf name = true) :
    left.isPrefixOf right = true ∨ right.isPrefixOf left = true :=
  (List.prefix_or_prefix_of_prefix (isPrefixOf_iff.mp first) (isPrefixOf_iff.mp second)).imp
    isPrefixOf_iff.mpr isPrefixOf_iff.mpr

/-! ## One more component -/

/-- A beginning of a name with one more component is all of it, or is one without it. -/
theorem isPrefixOf_push_iff : left.isPrefixOf (right.push component) = true ↔
    left = right.push component ∨ left.isPrefixOf right = true := by
  rw [isPrefixOf_iff, isPrefixOf_iff]
  refine List.prefix_concat_iff.trans (or_congr_left ?_)
  constructor
  · exact fun same => congrArg Name.mk same
  · exact fun same => congrArg Name.components same

theorem push_injective (same : left.push component = right.push other) :
    left = right ∧ component = other := by
  obtain ⟨front, last⟩ := List.append_inj' (congrArg Name.components same) rfl
  exact ⟨congrArg Name.mk front, List.singleton_inj.mp last⟩

theorem not_push_isPrefixOf (name : Name) (component : Bytes) :
    ¬(name.push component).isPrefixOf name = true := by
  intro begins
  have short : name.components.length + 1 ≤ name.components.length := by
    simpa [push] using (isPrefixOf_iff.mp begins).length_le
  omega

/-! ## What follows -/

/-- What follows the start of a name is what was appended to it. -/
theorem drop?_eq_some_iff : name.drop? start = some rest ↔ name = start ++ rest := by
  unfold drop?
  constructor
  · intro found
    split at found
    · rename_i begins
      cases found
      exact congrArg Name.mk (List.prefix_iff_eq_append.mp (isPrefixOf_iff.mp begins)).symm
    · cases found
  · rintro rfl
    have dropped : (start ++ rest).components.drop start.size = rest.components :=
      List.drop_left
    rw [if_pos (isPrefixOf_append start rest), dropped]

end Name

end DigestSync
