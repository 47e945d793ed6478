import Mathlib.Data.List.Nodup

set_option autoImplicit false

/-! # Lists of rows

Rows with distinct keys are found under their keys, and rows that are all images of
some entries are the image of a list of these.
-/

namespace DigestSync

section

variable {ρ κ ε : Type}

theorem find?_key_eq_some_iff [DecidableEq κ] {key : ρ → κ} {rows : List ρ}
    (distinct : (rows.map key).Nodup) {wanted : κ} {row : ρ} :
    rows.find? (fun other => key other = wanted) = some row ↔ row ∈ rows ∧ key row = wanted := by
  constructor
  · intro found
    exact ⟨List.mem_of_find?_eq_some found, by simpa using List.find?_some found⟩
  · rintro ⟨member, rfl⟩
    cases found : rows.find? (fun other => key other = key row) with
    | none =>
      have absent := List.find?_eq_none.mp found row member
      simp at absent
    | some other =>
      have same : key other = key row := by simpa using List.find?_some found
      have one : other = row :=
        List.inj_on_of_nodup_map distinct (List.mem_of_find?_eq_some found) member same
      rw [one]

/-- Of rows with distinct keys, at most the one that is found has the wanted key. -/
theorem filter_key_eq_find? [DecidableEq κ] {key : ρ → κ} {rows : List ρ}
    (distinct : (rows.map key).Nodup) (wanted : κ) :
    rows.filter (fun row => key row = wanted) =
      (rows.find? fun row => key row = wanted).toList := by
  induction rows with
  | nil => rfl
  | cons row rest ih =>
    obtain ⟨fresh, later⟩ := List.nodup_cons.mp distinct
    by_cases here : key row = wanted
    · have alone : rest.filter (fun other => key other = wanted) = [] := by
        apply List.filter_eq_nil_iff.mpr
        intro other member same
        exact fresh (here ▸ of_decide_eq_true same ▸ List.mem_map_of_mem member)
      simp only [List.filter_cons, List.find?_cons, here, decide_true, if_true, alone,
        Option.toList_some]
    · simp only [List.filter_cons, List.find?_cons, here, decide_false, Bool.false_eq_true,
        if_false, ih later]

/-- Rows that are images of good entries are the image of a list of good entries. -/
theorem exists_map_of_forall {image : ε → ρ} {good : ε → Prop} {rows : List ρ}
    (images : ∀ row ∈ rows, ∃ entry, good entry ∧ row = image entry) :
    ∃ order : List ε, rows = order.map image ∧ ∀ entry ∈ order, good entry := by
  induction rows with
  | nil => exact ⟨[], rfl, by simp⟩
  | cons row rest ih =>
    obtain ⟨entry, fits, rfl⟩ := images row List.mem_cons_self
    obtain ⟨order, rfl, all⟩ := ih fun later there => images later (List.mem_cons_of_mem _ there)
    exact ⟨entry :: order, rfl, List.forall_mem_cons.mpr ⟨fits, all⟩⟩

/-- Rows that are distinct images of distinct entries are the image of a reordering. -/
theorem exists_perm_map {image : ε → ρ} {entries : List ε} {rows : List ρ}
    (distinct : rows.Nodup) (single : entries.Nodup)
    (mem : ∀ row, row ∈ rows ↔ ∃ entry ∈ entries, row = image entry)
    (injective : ∀ left ∈ entries, ∀ right ∈ entries, image left = image right → left = right) :
    ∃ order : List ε, order.Perm entries ∧ rows = order.map image := by
  obtain ⟨order, rfl, inside⟩ := exists_map_of_forall fun row => (mem row).mp
  refine ⟨order, (List.perm_ext_iff_of_nodup distinct.of_map single).mpr fun entry => ?_, rfl⟩
  refine ⟨inside entry, ?_⟩
  intro member
  obtain ⟨other, there, same⟩ := List.mem_map.mp ((mem (image entry)).mpr ⟨entry, member, rfl⟩)
  rwa [← injective other (inside other there) entry member same]

end

end DigestSync
