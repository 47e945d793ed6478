import DigestSync.Proofs.Data.Order
import DigestSync.Task

set_option autoImplicit false

/-! # The hull of fetch tasks

Widening a task by others of its key gives the task that reaches exactly as far as
all of them do, whatever their order.
-/

namespace DigestSync

open scoped SeqOrder

namespace Priority

theorem max_comm (left right : Priority) : left.max right = right.max left := by
  cases left <;> cases right <;> rfl

theorem max_assoc (first second third : Priority) :
    (first.max second).max third = first.max (second.max third) := by
  cases first <;> rfl

theorem max_eq_high_iff (left right : Priority) :
    left.max right = .high ↔ left = .high ∨ right = .high := by
  cases left <;> simp [max]

end Priority

namespace FetchTask

@[simp] theorem key_widen (task other : FetchTask) : (task.widen other).key = task.key := rfl

theorem widen_assoc (first second third : FetchTask) :
    (first.widen second).widen third = first.widen (second.widen third) := by
  simp only [widen, FetchTask.mk.injEq, true_and]
  exact ⟨min_assoc _ _ _, max_assoc _ _ _, Priority.max_assoc _ _ _⟩

theorem widen_comm {task other : FetchTask} (same : task.key = other.key) :
    task.widen other = other.widen task := by
  simp only [key, TaskKey.mk.injEq] at same
  simp only [widen, FetchTask.mk.injEq]
  exact ⟨same.1, same.2, min_comm _ _, max_comm _ _, Priority.max_comm _ _⟩

/-! ## Ranges -/

theorem contains_iff (task : FetchTask) (seq : Seq) :
    task.contains seq = true ↔ task.minSeq ≤ seq ∧ seq ≤ task.maxSeq := by
  simp [contains]

theorem spans_iff {task other : FetchTask} :
    task.spans other = true ↔ task.minSeq ≤ other.minSeq ∧ other.maxSeq ≤ task.maxSeq := by
  simp [spans]

theorem spans_self (task : FetchTask) : task.spans task = true :=
  spans_iff.mpr ⟨le_refl _, le_refl _⟩

theorem spans_widen_self (task other : FetchTask) : (task.widen other).spans other = true :=
  spans_iff.mpr ⟨min_le_right _ _, le_max_right _ _⟩

theorem spans_widen {task other : FetchTask} (spanned : task.spans other = true)
    (more : FetchTask) : (task.widen more).spans other = true := by
  obtain ⟨lower, upper⟩ := spans_iff.mp spanned
  exact spans_iff.mpr ⟨(min_le_left _ _).trans lower, upper.trans (le_max_left _ _)⟩

theorem spans_trans {first second third : FetchTask} (outer : first.spans second = true)
    (inner : second.spans third = true) : first.spans third = true := by
  obtain ⟨lower, upper⟩ := spans_iff.mp outer
  obtain ⟨lowest, uppermost⟩ := spans_iff.mp inner
  exact spans_iff.mpr ⟨lower.trans lowest, uppermost.trans upper⟩

/-- A range between the ends of another holds no number that the other does not hold. -/
theorem contains_of_spans {task other : FetchTask} (spanned : task.spans other = true) {seq : Seq}
    (inside : other.contains seq = true) : task.contains seq = true := by
  obtain ⟨lower, upper⟩ := spans_iff.mp spanned
  obtain ⟨above, upto⟩ := (other.contains_iff seq).mp inside
  exact (task.contains_iff seq).mpr ⟨lower.trans above, upto.trans upper⟩

/-! ## Hulls -/

/-- A task reaches exactly as far as some tasks do together, and is as urgent as the
most urgent of them. -/
structure IsHull (hull : FetchTask) (tasks : List FetchTask) : Prop where
  lower : ∀ task ∈ tasks, hull.minSeq ≤ task.minSeq
  lowest : ∃ task ∈ tasks, task.minSeq = hull.minSeq
  upper : ∀ task ∈ tasks, task.maxSeq ≤ hull.maxSeq
  uppermost : ∃ task ∈ tasks, task.maxSeq = hull.maxSeq
  urgent : hull.priority = .high ↔ ∃ task ∈ tasks, task.priority = .high

theorem isHull_singleton (task : FetchTask) : IsHull task [task] := by
  constructor <;> simp

/-- Widening a hull by one more task gives the hull of all. -/
theorem IsHull.widen {hull : FetchTask} {tasks : List FetchTask} (whole : IsHull hull tasks)
    (task : FetchTask) : IsHull (hull.widen task) (tasks ++ [task]) where
  lower := by
    intro other member
    rcases List.mem_append.mp member with early | late
    · exact (min_le_left _ _).trans (whole.lower other early)
    · rw [List.mem_singleton.mp late]
      exact min_le_right _ _
  lowest := by
    obtain ⟨least, member, equal⟩ := whole.lowest
    rcases min_choice hull.minSeq task.minSeq with left | right
    · exact ⟨least, List.mem_append_left _ member, equal.trans left.symm⟩
    · exact ⟨task, by simp, right.symm⟩
  upper := by
    intro other member
    rcases List.mem_append.mp member with early | late
    · exact (whole.upper other early).trans (le_max_left _ _)
    · rw [List.mem_singleton.mp late]
      exact le_max_right _ _
  uppermost := by
    obtain ⟨greatest, member, equal⟩ := whole.uppermost
    rcases max_choice hull.maxSeq task.maxSeq with left | right
    · exact ⟨greatest, List.mem_append_left _ member, equal.trans left.symm⟩
    · exact ⟨task, by simp, right.symm⟩
  urgent := by
    rw [show (hull.widen task).priority = hull.priority.max task.priority from rfl,
      Priority.max_eq_high_iff, whole.urgent]
    simp [or_and_right, exists_or]

theorem IsHull.spans {hull : FetchTask} {tasks : List FetchTask} (whole : hull.IsHull tasks)
    {task : FetchTask} (member : task ∈ tasks) : hull.spans task = true :=
  spans_iff.mpr ⟨whole.lower task member, whole.upper task member⟩

/-- A hull holds all that any of its tasks holds. -/
theorem IsHull.contains {hull : FetchTask} {tasks : List FetchTask} (whole : hull.IsHull tasks)
    {task : FetchTask} (member : task ∈ tasks) {seq : Seq} (inside : task.contains seq = true) :
    hull.contains seq = true :=
  contains_of_spans (whole.spans member) inside

/-- Widening by all of some tasks, one after the other, gives the hull of all. -/
theorem IsHull.foldl {hull : FetchTask} {tasks : List FetchTask} (whole : hull.IsHull tasks)
    (rest : List FetchTask) : IsHull (rest.foldl FetchTask.widen hull) (tasks ++ rest) := by
  induction rest generalizing hull tasks with
  | nil => rwa [List.append_nil]
  | cons task rest ih =>
    rw [List.foldl_cons, List.append_cons]
    exact ih (whole.widen task)

theorem isHull_foldl (first : FetchTask) (rest : List FetchTask) :
    IsHull (rest.foldl FetchTask.widen first) (first :: rest) :=
  (isHull_singleton first).foldl rest

theorem key_foldl_widen (first : FetchTask) (rest : List FetchTask) :
    (rest.foldl FetchTask.widen first).key = first.key := by
  induction rest generalizing first with
  | nil => rfl
  | cons task rest ih => rw [List.foldl_cons, ih, key_widen]

/-- A hull is not widened by any of its tasks. -/
theorem IsHull.widen_eq_self {hull : FetchTask} {tasks : List FetchTask}
    (whole : hull.IsHull tasks) {task : FetchTask} (member : task ∈ tasks) :
    hull.widen task = hull := by
  have urgent : hull.priority.max task.priority = hull.priority := by
    cases priority : task.priority with
    | normal => cases hull.priority <;> rfl
    | high =>
      rw [whole.urgent.mpr ⟨task, member, priority⟩]
      rfl
  rw [FetchTask.widen, min_eq_left (whole.lower task member),
    max_eq_left (whole.upper task member), urgent]

/-- Tasks of one key have one hull, in whatever order and however often they come. -/
theorem IsHull.unique {hull other : FetchTask} {tasks others : List FetchTask}
    (whole : hull.IsHull tasks) (again : other.IsHull others)
    (same : ∀ task, task ∈ others ↔ task ∈ tasks) (key : other.key = hull.key) :
    other = hull := by
  have lower : other.minSeq = hull.minSeq := by
    obtain ⟨least, member, reached⟩ := whole.lowest
    obtain ⟨lowest, inside, attained⟩ := again.lowest
    apply le_antisymm
    · exact reached ▸ again.lower least ((same least).mpr member)
    · exact attained ▸ whole.lower lowest ((same lowest).mp inside)
  have upper : other.maxSeq = hull.maxSeq := by
    obtain ⟨greatest, member, reached⟩ := whole.uppermost
    obtain ⟨uppermost, inside, attained⟩ := again.uppermost
    apply le_antisymm
    · exact attained ▸ whole.upper uppermost ((same uppermost).mp inside)
    · exact reached ▸ again.upper greatest ((same greatest).mpr member)
  have urgent : other.priority = .high ↔ hull.priority = .high := by
    rw [again.urgent, whole.urgent]
    simp only [same]
  have priority : other.priority = hull.priority := by
    cases here : hull.priority with
    | high => exact urgent.mpr here
    | normal =>
      cases there : other.priority with
      | normal => rfl
      | high =>
        have both := urgent.mp there
        rw [here] at both
        cases both
  obtain ⟨producer, baseName⟩ := TaskKey.mk.inj key
  cases other
  cases hull
  simp only [FetchTask.mk.injEq]
  exact ⟨producer, baseName, lower, upper, priority⟩

end FetchTask

end DigestSync
