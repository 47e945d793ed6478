import DigestSync.Proofs.Store.DeviceRows
import DigestSync.Proofs.Store.MemoryTasks

set_option autoImplicit false

/-! # The rows of tasks

The rows of the task table agree with the tasks of a memory store if they are these
tasks in the same order, each with the time at which it was first written, and no time
is before an earlier one.  Sorting by time then changes nothing, and a key has a row
where it has a task.

Whatever the rows are, a call on tasks changes no others, and writes no time but its own.
-/

namespace DigestSync

/-- The names of the key are read back from their written forms. -/
def TaskKey.IsProper (key : TaskKey) : Prop := key.producer.IsProper ∧ key.baseName.IsProper

instance (key : TaskKey) : Decidable key.IsProper :=
  inferInstanceAs (Decidable (key.producer.IsProper ∧ key.baseName.IsProper))

namespace TableStore

theorem ofUInt8_toUInt8 (priority : Priority) :
    Priority.ofUInt8 (UInt8.ofNat (Int64.ofNat priority.toUInt8.toNat).toInt.toNat) =
      .ok priority := by
  cases priority <;> decide

theorem priority_cell_range (priority : Priority) :
    ¬((Int64.ofNat priority.toUInt8.toNat).toInt < 0 ∨
      255 < (Int64.ofNat priority.toUInt8.toNat).toInt) := by
  cases priority <;> decide

/-- A task with proper names is read back from its row. -/
theorem taskOfRow_rowOfTask {task : FetchTask} (proper : task.key.IsProper) (createdAt : Nat) :
    taskOfRow (rowOfTask task createdAt) = .ok task := by
  have producer : parseDevice task.producer.render = .ok task.producer :=
    parseDevice_render proper.1
  have baseName : parseName task.baseName.render = .ok task.baseName := parseName_render proper.2
  simp only [taskOfRow, rowOfTask, if_neg (priority_cell_range task.priority), producer, baseName]
  simp only [bind, Except.bind, pure, Except.pure, ofUInt8_toUInt8, ofCell_toCell]

/-- The row of a task has the texts of a key if the task has the key. -/
theorem hasKey_rowOfTask {task : FetchTask} {key : TaskKey} (proper : task.key.IsProper)
    (own : key.IsProper) (createdAt : Nat) :
    hasKey (rowOfTask task createdAt) key.producer.render key.baseName.render =
      decide (task.key = key) := by
  have texts : (task.producer.render = key.producer.render ∧
      task.baseName.render = key.baseName.render) ↔ task.key = key := by
    constructor
    · rintro ⟨producer, baseName⟩
      have first : task.key.producer = key.producer :=
        DeviceId.render_injective proper.1 own.1 producer
      have second : task.key.baseName = key.baseName :=
        Name.render_injective proper.2 own.2 baseName
      cases key
      exact congrArg₂ TaskKey.mk first second
    · rintro rfl
      exact ⟨rfl, rfl⟩
  rw [hasKey, ← Bool.decide_and]
  exact decide_eq_decide.mpr texts

/-- The row of a task with the time at which it was first written. -/
def stampedRow (entry : FetchTask × Nat) : TaskRow := rowOfTask entry.1 entry.2

/-- The rows and the stored tasks are told by the same tasks with their times. -/
structure StampsAgree (stamped : List (FetchTask × Nat)) (rows : List TaskRow)
    (tasks : List FetchTask) (now : Nat) : Prop where
  rows_eq : rows = stamped.map stampedRow
  tasks_eq : tasks = stamped.map (·.1)
  ordered : stamped.Pairwise fun early late => early.2 ≤ late.2
  past : ∀ entry ∈ stamped, entry.2 ≤ now
  keyed : (stamped.map fun entry => entry.1.key).Nodup
  proper : ∀ entry ∈ stamped, entry.1.key.IsProper

/-- The rows agree with the stored tasks, and no row was written after a time. -/
def TasksAgree (rows : List TaskRow) (tasks : List FetchTask) (now : Nat) : Prop :=
  ∃ stamped, StampsAgree stamped rows tasks now

variable {rows : List TaskRow} {store : MemoryStore} {now : Nat} {key : TaskKey}
  {task : FetchTask} {stamped : List (FetchTask × Nat)}

theorem tasksAgree_empty (now : Nat) : TasksAgree [] [] now :=
  ⟨[], rfl, rfl, List.Pairwise.nil, by simp, List.nodup_nil, by simp⟩

theorem TasksAgree.later (agree : TasksAgree rows store.tasks now) {after : Nat}
    (late : now ≤ after) : TasksAgree rows store.tasks after := by
  obtain ⟨stamped, stamps⟩ := agree
  exact ⟨stamped, { stamps with past := fun entry member => (stamps.past entry member).trans late }⟩

/-! ## Finding rows -/

/-- The row of a key is that of the task stored under it. -/
theorem StampsAgree.find?_eq (stamps : StampsAgree stamped rows store.tasks now)
    (own : key.IsProper) :
    rows.find? (fun row => hasKey row key.producer.render key.baseName.render) =
      (stamped.find? fun entry => entry.1.key = key).map stampedRow := by
  rw [stamps.rows_eq, List.find?_map]
  refine congrArg (Option.map stampedRow) ?_
  have proper := stamps.proper
  clear stamps
  induction stamped with
  | nil => rfl
  | cons entry rest ih =>
    obtain ⟨here, later⟩ := List.forall_mem_cons.mp proper
    have test : hasKey (stampedRow entry) key.producer.render key.baseName.render =
        decide (entry.1.key = key) := hasKey_rowOfTask here own entry.2
    simp only [List.find?_cons, Function.comp, test]
    cases decide (entry.1.key = key)
    · exact ih later
    · rfl

/-- The task stored under a key, found among the tasks with their times. -/
theorem StampsAgree.task?_eq (stamps : StampsAgree stamped rows store.tasks now)
    (key : TaskKey) :
    store.task? key = (stamped.find? fun entry => entry.1.key = key).map (·.1) := by
  rw [MemoryStore.task?, stamps.tasks_eq, List.find?_map]
  rfl

theorem TasksAgree.isKeyed (agree : TasksAgree rows store.tasks now) : store.IsKeyed := by
  obtain ⟨stamped, stamps⟩ := agree
  rw [MemoryStore.IsKeyed, stamps.tasks_eq, List.map_map]
  exact stamps.keyed

/-- A key has a row if it has a task. -/
theorem TasksAgree.any_eq (agree : TasksAgree rows store.tasks now) (own : key.IsProper) :
    (rows.any fun row => hasKey row key.producer.render key.baseName.render) =
      store.hasTask key := by
  obtain ⟨stamped, stamps⟩ := agree
  rw [← List.isSome_find?, stamps.find?_eq own, MemoryStore.hasTask, stamps.task?_eq,
    Option.isSome_map, Option.isSome_map]

/-- A key without a task has no row. -/
theorem TasksAgree.find?_eq_none (agree : TasksAgree rows store.tasks now) (own : key.IsProper)
    (free : store.task? key = none) :
    (rows.find? fun row => hasKey row key.producer.render key.baseName.render) = none := by
  obtain ⟨stamped, stamps⟩ := agree
  rw [stamps.task?_eq, Option.map_eq_none_iff] at free
  rw [stamps.find?_eq own, free]
  rfl

/-- A key with a task has the row of this task. -/
theorem TasksAgree.find?_eq_some (agree : TasksAgree rows store.tasks now) (own : key.IsProper)
    {stored : FetchTask} (found : store.task? key = some stored) :
    ∃ createdAt, (rows.find? fun row => hasKey row key.producer.render key.baseName.render) =
      some (rowOfTask stored createdAt) := by
  obtain ⟨stamped, stamps⟩ := agree
  rw [stamps.task?_eq, Option.map_eq_some_iff] at found
  obtain ⟨entry, there, rfl⟩ := found
  rw [stamps.find?_eq own, there]
  exact ⟨entry.2, rfl⟩

/-! ## Reading tasks -/

theorem toTasks_map (proper : ∀ entry ∈ stamped, entry.1.key.IsProper) :
    toTasks (stamped.map stampedRow) = .ok (stamped.map (·.1)) := by
  induction stamped with
  | nil => rfl
  | cons entry rest ih =>
    obtain ⟨here, later⟩ := List.forall_mem_cons.mp proper
    rw [List.map_cons, toTasks, stampedRow, taskOfRow_rowOfTask here, ih later]
    rfl

/-- The rows by their times are read as the tasks in the order in which they were saved. -/
theorem TasksAgree.toTasks_eq (agree : TasksAgree rows store.tasks now) :
    toTasks (rows.mergeSort fun left right => left.createdAt ≤ right.createdAt) =
      .ok store.tasks := by
  obtain ⟨stamped, stamps⟩ := agree
  have ordered : rows.Pairwise fun left right =>
      decide (left.createdAt ≤ right.createdAt) = true := by
    rw [stamps.rows_eq, List.pairwise_map]
    exact stamps.ordered.imp fun le => decide_eq_true le
  rw [List.mergeSort_of_pairwise ordered, stamps.rows_eq, toTasks_map stamps.proper,
    stamps.tasks_eq]

/-! ## Writing rows -/

/-- Adding the row of a task whose key is free agrees with adding the task. -/
theorem TasksAgree.add (agree : TasksAgree rows store.tasks now) (own : task.key.IsProper)
    (free : store.task? task.key = none) :
    TasksAgree (rows ++ [rowOfTask task now]) (store.tasks ++ [task]) now := by
  obtain ⟨stamped, stamps⟩ := agree
  have fresh : ∀ entry ∈ stamped, entry.1.key ≠ task.key := by
    rw [stamps.task?_eq, Option.map_eq_none_iff, List.find?_eq_none] at free
    simpa using free
  refine ⟨stamped ++ [(task, now)], ?_, ?_, ?_, ?_, ?_, ?_⟩
  · rw [stamps.rows_eq, List.map_append]
    rfl
  · rw [stamps.tasks_eq, List.map_append]
    rfl
  · refine List.pairwise_append.mpr ⟨stamps.ordered, List.pairwise_singleton _ _, ?_⟩
    intro early member late last
    rw [List.mem_singleton.mp last]
    exact stamps.past early member
  · refine List.forall_mem_append.mpr ⟨stamps.past, ?_⟩
    simp
  · rw [List.map_append]
    refine List.Nodup.append stamps.keyed (List.nodup_singleton _) ?_
    simpa using fresh
  · refine List.forall_mem_append.mpr ⟨stamps.proper, ?_⟩
    simpa using own

/-- Writing a task over the rows of its key agrees with putting it in place of the tasks
of its key. -/
theorem TasksAgree.overwrite (agree : TasksAgree rows store.tasks now)
    (own : task.key.IsProper) :
    TasksAgree (overwriteTask rows task)
      (store.tasks.map fun other => if other.key = task.key then task else other) now := by
  obtain ⟨stamped, stamps⟩ := agree
  let replaced (entry : FetchTask × Nat) : FetchTask × Nat :=
    (if entry.1.key = task.key then task else entry.1, entry.2)
  have key (entry : FetchTask × Nat) : (replaced entry).1.key = entry.1.key := by
    by_cases here : entry.1.key = task.key <;> simp [replaced, here]
  refine ⟨stamped.map replaced, ?_, ?_, ?_, ?_, ?_, ?_⟩
  · rw [overwriteTask, stamps.rows_eq, List.map_map, List.map_map]
    refine List.map_congr_left ?_
    intro entry member
    have test : hasKey (stampedRow entry) task.producer.render task.baseName.render =
        decide (entry.1.key = task.key) :=
      hasKey_rowOfTask (stamps.proper entry member) own entry.2
    simp only [Function.comp, test, decide_eq_true_eq]
    by_cases here : entry.1.key = task.key
    · simp only [replaced, if_pos here]
      rfl
    · simp only [replaced, if_neg here]
  · rw [stamps.tasks_eq, List.map_map, List.map_map]
    rfl
  · exact List.pairwise_map.mpr stamps.ordered
  · exact List.forall_mem_map.mpr stamps.past
  · rw [List.map_map]
    have keys : stamped.map ((fun entry => entry.1.key) ∘ replaced) =
        stamped.map fun entry => entry.1.key := List.map_congr_left fun entry _ => key entry
    rw [keys]
    exact stamps.keyed
  · refine List.forall_mem_map.mpr ?_
    intro entry member
    rw [key]
    exact stamps.proper entry member

/-- Removing the rows of a key agrees with removing its task. -/
theorem TasksAgree.remove (agree : TasksAgree rows store.tasks now) (own : key.IsProper) :
    TasksAgree (rows.filter fun row => !hasKey row key.producer.render key.baseName.render)
      (store.tasks.filter fun other => other.key ≠ key) now := by
  obtain ⟨stamped, stamps⟩ := agree
  refine ⟨stamped.filter fun entry => entry.1.key ≠ key, ?_, ?_, ?_, ?_, ?_, ?_⟩
  · rw [stamps.rows_eq, List.filter_map]
    refine congrArg _ (List.filter_congr fun entry member => ?_)
    have test : hasKey (stampedRow entry) key.producer.render key.baseName.render =
        decide (entry.1.key = key) := hasKey_rowOfTask (stamps.proper entry member) own entry.2
    simp only [Function.comp, test, ne_eq, decide_not]
  · rw [stamps.tasks_eq, List.filter_map]
    rfl
  · exact stamps.ordered.filter _
  · exact fun entry member => stamps.past entry (List.mem_filter.mp member).1
  · exact stamps.keyed.sublist (List.filter_sublist.map _)
  · exact fun entry member => stamps.proper entry (List.mem_filter.mp member).1

/-- Where the stored task already reaches as far, putting the widened one in its place
changes nothing. -/
theorem replace_widened_eq (keyed : store.IsKeyed) {stored : FetchTask}
    (found : store.task? task.key = some stored) (same : stored.widen task = stored) :
    (store.tasks.map fun other => if other.key = task.key then stored.widen task else other) =
      store.tasks := by
  rw [same]
  refine (List.map_congr_left fun other member => ?_).trans store.tasks.map_id
  by_cases here : other.key = task.key
  · have there := keyed.mem_tasks_iff.mp member
    rw [here, found] at there
    rw [if_pos here, Option.some.inj there]
    rfl
  · rw [if_neg here]
    rfl

end TableStore

/-! ## Rows and their times -/

namespace TableStore

theorem rowsOf_eq_ok_iff {α : Type} {table : Option (List α)} {rows : List α} :
    rowsOf table = .ok rows ↔ table = some rows := by
  cases table <;> simp [rowsOf]

/-- Where a second step follows a first one and succeeds, the first succeeds too. -/
theorem exists_of_bind_eq_ok {α β : Type} {first : Except StoreFault α}
    {second : α → Except StoreFault β} {result : β} (done : first >>= second = .ok result) :
    ∃ value, first = .ok value ∧ second value = .ok result := by
  cases first with
  | error => cases done
  | ok value => exact ⟨value, rfl, done⟩

/-- A call at some time changes no rows but those of tasks, each of which then has this time or
that of a row from before. -/
def Rewrites (store : TableStore) (now : Nat) (next : TableStore) : Prop :=
  ∃ before tasks, store.tasks = some before ∧ next = { store with tasks := some tasks } ∧
    ∀ row ∈ tasks, row.createdAt = now ∨ ∃ old ∈ before, row.createdAt = old.createdAt

variable {store next : TableStore} {task stored : FetchTask} {now : Nat}

theorem rewrites_self {rows : List TaskRow} (there : store.tasks = some rows) (now : Nat) :
    store.Rewrites now store :=
  ⟨rows, rows, there, there ▸ rfl, fun row member => Or.inr ⟨row, member, rfl⟩⟩

theorem rewrites_append {rows : List TaskRow} (there : store.tasks = some rows)
    (task : FetchTask) (now : Nat) :
    store.Rewrites now { store with tasks := some (rows ++ [rowOfTask task now]) } := by
  refine ⟨rows, _, there, rfl, List.forall_mem_append.mpr ⟨?_, ?_⟩⟩
  · exact fun row member => Or.inr ⟨row, member, rfl⟩
  · exact List.forall_mem_singleton.mpr (Or.inl rfl)

theorem rewrites_saveTask {saved : Bool} (done : store.saveTask task now = .ok (saved, next)) :
    store.Rewrites now next := by
  obtain ⟨rows, there, done⟩ := exists_of_bind_eq_ok done
  obtain ⟨taken, -, done⟩ := exists_of_bind_eq_ok done
  cases taken with
  | true =>
    cases done
    exact rewrites_self (rowsOf_eq_ok_iff.mp there) now
  | false =>
    cases done
    exact rewrites_append (rowsOf_eq_ok_iff.mp there) task now

/-- A row that is written over keeps the time at which it was first written. -/
theorem rewrites_mergeTask (done : store.mergeTask task now = .ok (stored, next)) :
    store.Rewrites now next := by
  obtain ⟨rows, there, done⟩ := exists_of_bind_eq_ok done
  have there := rowsOf_eq_ok_iff.mp there
  split at done
  · cases done
    exact rewrites_append there task now
  · obtain ⟨read, -, done⟩ := exists_of_bind_eq_ok done
    dsimp only at done
    split at done
    · cases done
      exact rewrites_self there now
    · cases done
      refine ⟨rows, _, there, rfl, List.forall_mem_map.mpr ?_⟩
      intro row member
      refine Or.inr ⟨row, member, ?_⟩
      split
      · rfl
      · rfl

theorem rewrites_deleteTask {key : TaskKey} {deleted : Bool} (now : Nat)
    (done : store.deleteTask key = .ok (deleted, next)) : store.Rewrites now next := by
  obtain ⟨rows, there, done⟩ := exists_of_bind_eq_ok done
  obtain ⟨_, -, done⟩ := exists_of_bind_eq_ok done
  cases done
  refine ⟨rows, _, rowsOf_eq_ok_iff.mp there, rfl, fun row member => Or.inr ⟨row, ?_, rfl⟩⟩
  exact List.mem_of_mem_filter member

end TableStore

end DigestSync
