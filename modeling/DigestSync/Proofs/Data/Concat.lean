import Mathlib.Data.List.Basic

set_option autoImplicit false

/-! # One more row

What is true of a table when a row has been added at its end: where the row is found, what
becomes of it when rows are rewritten, and where it comes when they are sorted.
-/

namespace DigestSync

section

variable {ρ : Type} {rows : List ρ} {row : ρ}

/-- A row is found behind rows that do not fit. -/
theorem find?_concat {fits : ρ → Bool} (away : ∀ other ∈ rows, fits other = false)
    (here : fits row = true) : (rows ++ [row]).find? fits = some row := by
  have absent : rows.find? fits = none := by
    apply List.find?_eq_none.mpr
    intro other member
    simp [away other member]
  rw [List.find?_append, absent, Option.none_or, List.find?_cons_of_pos here]

/-- Where only the last row fits, only that is rewritten. -/
theorem map_ite_concat {fits : ρ → Prop} [DecidablePred fits] {change : ρ → ρ}
    (away : ∀ other ∈ rows, ¬fits other) (here : fits row) :
    ((rows ++ [row]).map fun other => if fits other then change other else other) =
      rows ++ [change row] := by
  have kept : (rows.map fun other => if fits other then change other else other) = rows :=
    (List.map_congr_left fun other member => if_neg (away other member)).trans rows.map_id
  rw [List.map_append, kept, List.map_singleton, if_pos here]

/-! ## Sorting -/

variable {le : ρ → ρ → Bool} (trans : ∀ a b c, le a b = true → le b c = true → le a c = true)
  (total : ∀ a b, (le a b || le b a) = true)

include trans total

/-- A first row comes behind the rows that are less, and in front of all others. -/
theorem mergeSort_cons_eq (head : ρ) (rest : List ρ) :
    (head :: rest).mergeSort le =
      (rest.mergeSort le).filter (fun other => !le head other) ++
        head :: (rest.mergeSort le).filter (fun other => le head other) := by
  obtain ⟨early, late, sorted, split, less⟩ := List.mergeSort_cons trans total head rest
  have ordered := List.pairwise_mergeSort trans total (head :: rest)
  rw [sorted] at ordered
  have above : ∀ other ∈ late, le head other = true :=
    (List.pairwise_cons.mp (List.pairwise_append.mp ordered).2.1).1
  have front : (early ++ late).filter (fun other => !le head other) = early := by
    rw [List.filter_append, List.filter_eq_self.mpr less, List.filter_eq_nil_iff.mpr,
      List.append_nil]
    simpa using above
  have back : (early ++ late).filter (fun other => le head other) = late := by
    rw [List.filter_append, List.filter_eq_self.mpr above, List.filter_eq_nil_iff.mpr,
      List.nil_append]
    simpa using less
  rw [sorted, split, front, back]

/-- A last row leaves the order of the others as it is, and comes behind all that are not
greater. -/
theorem mergeSort_concat (rows : List ρ) (row : ρ) :
    ∃ front back, (rows ++ [row]).mergeSort le = front ++ row :: back ∧
      rows.mergeSort le = front ++ back ∧ ∀ other ∈ back, le other row = false := by
  induction rows with
  | nil => exact ⟨[], [], List.mergeSort_singleton row, List.mergeSort_nil, nofun⟩
  | cons head rest ih =>
    obtain ⟨front, back, sorted, others, later⟩ := ih
    rw [List.cons_append, mergeSort_cons_eq trans total, mergeSort_cons_eq trans total, sorted,
      others]
    simp only [List.filter_append, List.filter_cons]
    cases order : le head row with
    | true =>
      refine ⟨front.filter (fun other => !le head other) ++
        back.filter (fun other => !le head other) ++
          head :: front.filter (fun other => le head other),
        back.filter (fun other => le head other), by simp, by simp, ?_⟩
      exact fun other member => later other (List.mem_of_mem_filter member)
    | false =>
      refine ⟨front.filter (fun other => !le head other),
        back.filter (fun other => !le head other) ++ head ::
          (front.filter (fun other => le head other) ++ back.filter (fun other => le head other)),
        by simp, by simp, ?_⟩
      intro other member
      simp only [List.mem_append, List.mem_cons, List.mem_filter] at member
      rcases member with ⟨inside, -⟩ | rfl | ⟨-, above⟩ | ⟨inside, -⟩
      · exact later other inside
      · exact order
      -- What is above the first row is not below the last one, as the first would be too.
      · by_contra below
        rw [trans head other row above (by simpa using below)] at order
        cases order
      · exact later other inside

end

end DigestSync
