import DigestSync.Data.SortedMap
import Mathlib.Data.List.Nodup

set_option autoImplicit false

/-! # Lookups in sorted maps

A key is bound to a value exactly if the two are an entry, so binding a key changes
this one alone, and maps with the same lookups are the same.
-/

namespace DigestSync

section

variable {κ ν : Type} [Ord κ]

theorem SortedMap.eq_of_entries {left right : SortedMap κ ν}
    (same : left.entries = right.entries) : left = right := by
  cases left
  cases right
  cases same
  rfl

@[simp] theorem SortedMap.find?_empty (key : κ) : (empty : SortedMap κ ν).find? key = none := rfl

theorem Entries.find?_eq_none_of_lt {entries : List (κ × ν)} {key : κ}
    (above : ∀ entry ∈ entries, compare key entry.1 = .lt) : find? entries key = none := by
  cases entries with
  | nil => rfl
  | cons head rest => simp only [find?, above head List.mem_cons_self]

/-- Of two keys one is not greater than the other. -/
theorem isLE_or_isLE [Std.OrientedOrd κ] (left right : κ) :
    (compare left right).isLE = true ∨ (compare right left).isLE = true := by
  cases order : compare left right with
  | gt => exact Or.inr (by rw [Std.OrientedCmp.lt_of_gt order]; rfl)
  | lt => exact Or.inl rfl
  | eq => exact Or.inl rfl

variable [Std.LawfulEqOrd κ]

theorem Entries.find?_cons_self (head : κ × ν) (rest : List (κ × ν)) :
    find? (head :: rest) head.1 = some head.2 := by
  simp only [find?, Std.ReflOrd.compare_self]

theorem ne_of_lt {left right : κ} (less : compare left right = .lt) : left ≠ right := by
  rintro rfl
  rw [Std.ReflOrd.compare_self] at less
  cases less

theorem Ascending.nodup {entries : List (κ × ν)} (ordered : Ascending entries) :
    (entries.map (·.1)).Nodup :=
  List.pairwise_map.mpr (ordered.imp fun less => ne_of_lt less)

theorem Ascending.eq_of_mem {entries : List (κ × ν)} (ordered : Ascending entries)
    {left right : κ × ν} (here : left ∈ entries) (there : right ∈ entries)
    (same : left.1 = right.1) : left = right :=
  List.inj_on_of_nodup_map ordered.nodup here there same

variable [Std.TransOrd κ]

/-- Two ascending lists with the same entries are the same. -/
theorem Ascending.eq_of_mem_iff {left right : List (κ × ν)} (before : Ascending left)
    (after : Ascending right) (same : ∀ entry, entry ∈ left ↔ entry ∈ right) : left = right := by
  have perm : left.Perm right :=
    (List.perm_ext_iff_of_nodup before.nodup.of_map after.nodup.of_map).mpr same
  refine List.Perm.eq_of_pairwise (fun one other _ _ less greater => ?_) before after perm
  exact absurd greater (Std.OrientedCmp.not_lt_of_lt less)

/-- Sorting what is a reordering of strictly ascending rows gives these. -/
theorem mergeSort_eq_of_pairwise {ρ : Type} (key : ρ → κ) {rows sorted : List ρ}
    (perm : rows.Perm sorted)
    (ascending : sorted.Pairwise fun early late => compare (key early) (key late) = .lt) :
    (rows.mergeSort fun left right => (compare (key left) (key right)).isLE) = sorted := by
  have distinct : (sorted.map key).Nodup :=
    List.pairwise_map.mpr (ascending.imp fun less => ne_of_lt less)
  have again := (List.mergeSort_perm rows
    fun left right => (compare (key left) (key right)).isLE).trans perm
  have total : ∀ left right : ρ, ((compare (key left) (key right)).isLE ||
      (compare (key right) (key left)).isLE) = true :=
    fun left right => (Bool.or_eq_true _ _).mpr (isLE_or_isLE (key left) (key right))
  apply List.Perm.eq_of_pairwise _
    (List.pairwise_mergeSort (fun _ _ _ => Std.TransCmp.isLE_trans) total rows)
    (ascending.imp fun less => Ordering.isLE_of_eq_lt less) again
  intro left right here there below above
  have same : key left = key right := Std.LawfulEqCmp.eq_of_compare
    (Std.OrientedCmp.isLE_antisymm below above)
  exact List.inj_on_of_nodup_map distinct (again.subset here) there same

namespace Entries

omit [Std.LawfulEqOrd κ] in
theorem find?_cons_of_lt {head : κ × ν} {rest : List (κ × ν)} {key : κ}
    (less : compare head.1 key = .lt) : find? (head :: rest) key = find? rest key := by
  simp only [find?, Std.OrientedCmp.gt_of_lt less]

theorem find?_eq_some_iff {entries : List (κ × ν)} (ordered : Ascending entries) {key : κ}
    {value : ν} : find? entries key = some value ↔ (key, value) ∈ entries := by
  induction entries with
  | nil => simp [find?]
  | cons head rest ih =>
    obtain ⟨before, tail⟩ := List.pairwise_cons.mp ordered
    simp only [find?, List.mem_cons]
    split
    · rename_i less
      constructor
      · intro found
        cases found
      · rintro (here | later)
        · exact absurd (congrArg Prod.fst here) (ne_of_lt less)
        · exact absurd (before _ later) (Std.OrientedCmp.not_lt_of_lt less)
    · rename_i same
      have same : key = head.1 := Std.LawfulEqOrd.eq_of_compare same
      constructor
      · rintro ⟨rfl⟩
        exact Or.inl (Prod.ext same rfl)
      · rintro (here | later)
        · exact congrArg (fun entry => some entry.2) here.symm
        · exact absurd same.symm (ne_of_lt (before _ later))
    · rename_i greater
      rw [ih tail]
      have less : compare head.1 key = .lt := Std.OrientedCmp.lt_of_gt greater
      refine ⟨Or.inr, ?_⟩
      rintro (here | later)
      · exact absurd (congrArg Prod.fst here).symm (ne_of_lt less)
      · exact later

omit [Std.LawfulEqOrd κ] in
/-- A key that comes after all others is bound at the end. -/
theorem insert_of_greatest {entries : List (κ × ν)} {key : κ}
    (below : ∀ entry ∈ entries, compare entry.1 key = .lt) (value : ν) :
    insert entries key value = entries ++ [(key, value)] := by
  induction entries with
  | nil => rfl
  | cons head rest ih =>
    obtain ⟨here, later⟩ := List.forall_mem_cons.mp below
    simp only [insert, Std.OrientedCmp.gt_of_lt here, ih later, List.cons_append]

theorem mem_insert_iff {entries : List (κ × ν)} (ordered : Ascending entries) {key : κ}
    {value : ν} {entry : κ × ν} :
    entry ∈ insert entries key value ↔ entry = (key, value) ∨ entry ∈ entries ∧ entry.1 ≠ key := by
  induction entries with
  | nil => simp [insert]
  | cons head rest ih =>
    obtain ⟨before, tail⟩ := List.pairwise_cons.mp ordered
    simp only [insert]
    split
    · rename_i less
      have apart : ∀ other ∈ head :: rest, other.1 ≠ key := by
        intro other member
        rcases List.mem_cons.mp member with rfl | later
        · exact (ne_of_lt less).symm
        · exact (ne_of_lt (Std.TransCmp.lt_trans less (before _ later))).symm
      rw [List.mem_cons]
      exact or_congr_right ⟨fun member => ⟨member, apart _ member⟩, And.left⟩
    · rename_i same
      have same : key = head.1 := Std.LawfulEqOrd.eq_of_compare same
      rw [List.mem_cons, List.mem_cons]
      apply or_congr_right
      constructor
      · intro later
        exact ⟨Or.inr later, same ▸ (ne_of_lt (before _ later)).symm⟩
      · rintro ⟨here | later, away⟩
        · exact absurd (same ▸ congrArg Prod.fst here) away
        · exact later
    · rename_i greater
      have less : compare head.1 key = .lt := Std.OrientedCmp.lt_of_gt greater
      rw [List.mem_cons, ih tail, List.mem_cons]
      constructor
      · rintro (rfl | here | ⟨later, away⟩)
        · exact Or.inr ⟨Or.inl rfl, ne_of_lt less⟩
        · exact Or.inl here
        · exact Or.inr ⟨Or.inr later, away⟩
      · rintro (here | ⟨rfl | later, away⟩)
        · exact Or.inr (Or.inl here)
        · exact Or.inl rfl
        · exact Or.inr (Or.inr ⟨later, away⟩)

theorem mem_erase_iff {entries : List (κ × ν)} (ordered : Ascending entries) {key : κ}
    {entry : κ × ν} : entry ∈ erase entries key ↔ entry ∈ entries ∧ entry.1 ≠ key := by
  induction entries with
  | nil => simp [erase]
  | cons head rest ih =>
    obtain ⟨before, tail⟩ := List.pairwise_cons.mp ordered
    simp only [erase]
    split
    · rename_i less
      refine ⟨fun member => ⟨member, ?_⟩, And.left⟩
      rcases List.mem_cons.mp member with rfl | later
      · exact (ne_of_lt less).symm
      · exact (ne_of_lt (Std.TransCmp.lt_trans less (before _ later))).symm
    · rename_i same
      have same : key = head.1 := Std.LawfulEqOrd.eq_of_compare same
      rw [List.mem_cons]
      constructor
      · intro later
        exact ⟨Or.inr later, same ▸ (ne_of_lt (before _ later)).symm⟩
      · rintro ⟨here | later, away⟩
        · exact absurd (same ▸ congrArg Prod.fst here) away
        · exact later
    · rename_i greater
      have less : compare head.1 key = .lt := Std.OrientedCmp.lt_of_gt greater
      rw [List.mem_cons, ih tail, List.mem_cons]
      constructor
      · rintro (rfl | ⟨later, away⟩)
        · exact ⟨Or.inl rfl, ne_of_lt less⟩
        · exact ⟨Or.inr later, away⟩
      · rintro ⟨rfl | later, away⟩
        · exact Or.inl rfl
        · exact Or.inr ⟨later, away⟩

end Entries

namespace SortedMap

theorem find?_eq_some_iff {map : SortedMap κ ν} {key : κ} {value : ν} :
    map.find? key = some value ↔ (key, value) ∈ map.entries :=
  Entries.find?_eq_some_iff map.ordered

theorem find?_eq_none_iff {map : SortedMap κ ν} {key : κ} :
    map.find? key = none ↔ ∀ entry ∈ map.entries, entry.1 ≠ key := by
  rw [Option.eq_none_iff_forall_ne_some]
  constructor
  · rintro none ⟨_, value⟩ member rfl
    exact none value (find?_eq_some_iff.mpr member)
  · intro none value found
    exact none (key, value) (find?_eq_some_iff.mp found) rfl

theorem mem_insert_iff {map : SortedMap κ ν} {key : κ} {value : ν} {entry : κ × ν} :
    entry ∈ (map.insert key value).entries ↔
      entry = (key, value) ∨ entry ∈ map.entries ∧ entry.1 ≠ key :=
  Entries.mem_insert_iff map.ordered

theorem find?_insert [DecidableEq κ] (map : SortedMap κ ν) (key other : κ) (value : ν) :
    (map.insert key value).find? other = if other = key then some value else map.find? other := by
  refine Option.ext ?_
  intro found
  rw [find?_eq_some_iff, mem_insert_iff]
  by_cases here : other = key
  · simp [here, eq_comm]
  · rw [if_neg here, find?_eq_some_iff]
    simp [here]

theorem find?_erase [DecidableEq κ] (map : SortedMap κ ν) (key other : κ) :
    (map.erase key).find? other = if other = key then none else map.find? other := by
  refine Option.ext ?_
  intro found
  have erased : (map.erase key).find? other = some found ↔
      (other, found) ∈ map.entries ∧ other ≠ key :=
    find?_eq_some_iff.trans (Entries.mem_erase_iff map.ordered)
  by_cases here : other = key
  · rw [erased, if_pos here]
    simp [here]
  · rw [erased, if_neg here, find?_eq_some_iff]
    simp [here]

/-- Several keys are removed one after another. -/
theorem find?_foldl_erase [DecidableEq κ] (map : SortedMap κ ν) (keys : List κ) (other : κ) :
    (keys.foldl erase map).find? other = if other ∈ keys then none else map.find? other := by
  induction keys generalizing map with
  | nil => simp
  | cons key rest ih =>
    rw [List.foldl_cons, ih, find?_erase]
    by_cases later : other ∈ rest <;> by_cases here : other = key <;> simp [later, here]

theorem ext_mem {left right : SortedMap κ ν}
    (same : ∀ entry, entry ∈ left.entries ↔ entry ∈ right.entries) : left = right :=
  eq_of_entries (left.ordered.eq_of_mem_iff right.ordered same)

/-- Maps with the same lookups are the same. -/
theorem ext_find? {left right : SortedMap κ ν} (same : ∀ key, left.find? key = right.find? key) :
    left = right :=
  ext_mem fun ⟨key, value⟩ => by
    rw [← find?_eq_some_iff, ← find?_eq_some_iff, same key]

end SortedMap

end

end DigestSync
