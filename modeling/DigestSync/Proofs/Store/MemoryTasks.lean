import DigestSync.Proofs.Data.Keyed
import DigestSync.Proofs.Task
import DigestSync.Store.Memory

set_option autoImplicit false

/-! # The tasks of a memory store

A store holds one task per key.  What a call leaves under the key it is about is told
by the task found there before, and nothing changes under the other keys.
-/

namespace DigestSync

namespace MemoryStore

/-- No two stored tasks have the same key. -/
def IsKeyed (store : MemoryStore) : Prop := (store.tasks.map FetchTask.key).Nodup

theorem key_of_task? {store : MemoryStore} {key : TaskKey} {task : FetchTask}
    (found : store.task? key = some task) : task.key = key := by
  simpa using List.find?_some found

theorem task?_congr {left right : MemoryStore} (same : left.tasks = right.tasks) :
    left.task? = right.task? := by
  funext key
  unfold task?
  rw [same]

theorem mem_of_task? {store : MemoryStore} {key : TaskKey} {task : FetchTask}
    (found : store.task? key = some task) : task ∈ store.tasks := List.mem_of_find?_eq_some found

/-- The stored tasks are those that are found under their keys. -/
theorem IsKeyed.mem_tasks_iff {store : MemoryStore} (keyed : store.IsKeyed)
    {task : FetchTask} : task ∈ store.tasks ↔ store.task? task.key = some task := by
  rw [task?, find?_key_eq_some_iff keyed]
  exact (and_iff_left rfl).symm

/-- The task that merging puts in place of another one keeps every key. -/
theorem key_replace {stored task other : FetchTask} (same : stored.key = task.key) :
    (if other.key = task.key then stored.widen task else other).key = other.key := by
  by_cases here : other.key = task.key
  · simp [here, same]
  · simp [here]

theorem tasks_mergeTask_of_none {store : MemoryStore} {task : FetchTask}
    (absent : store.task? task.key = none) :
    (store.mergeTask task).2.tasks = store.tasks ++ [task] := by
  simp [mergeTask, absent]

theorem tasks_mergeTask_of_some {store : MemoryStore} {task stored : FetchTask}
    (found : store.task? task.key = some stored) :
    (store.mergeTask task).2.tasks = store.tasks.map fun other =>
      if other.key = task.key then stored.widen task else other := by
  simp [mergeTask, found]

theorem task?_mergeTask (store : MemoryStore) (task : FetchTask) (key : TaskKey) :
    (store.mergeTask task).2.task? key =
      if key = task.key then some (((store.task? task.key).map (·.widen task)).getD task)
      else store.task? key := by
  cases found : store.task? task.key with
  | none =>
    have added : (store.mergeTask task).2.task? key =
        (store.task? key).or (if task.key = key then some task else none) := by
      simp only [task?, tasks_mergeTask_of_none found, List.find?_append, List.find?_singleton,
        decide_eq_true_eq]
    rw [added]
    by_cases here : key = task.key
    · subst here
      simp [found]
    · simp [here, Ne.symm here]
  | some stored =>
    have same : stored.key = task.key := key_of_task? found
    have replaced : (store.mergeTask task).2.task? key =
        (store.task? key).map fun other =>
          if other.key = task.key then stored.widen task else other := by
      simp only [task?, tasks_mergeTask_of_some found, List.find?_map]
      congr 1
      refine congrArg (List.find? · store.tasks) (funext fun other => ?_)
      exact congrArg (fun shared => decide (shared = key)) (key_replace same)
    rw [replaced]
    by_cases here : key = task.key
    · subst here
      simp [found, same]
    · rw [if_neg here]
      cases kept : store.task? key with
      | none => rfl
      | some other =>
        have away : ¬ other.key = task.key := fun equal => here ((key_of_task? kept).symm.trans equal)
        simp [away]

theorem task?_deleteTask (store : MemoryStore) (gone key : TaskKey) :
    (store.deleteTask gone).2.task? key = if key = gone then none else store.task? key := by
  simp only [deleteTask, task?, List.find?_filter]
  by_cases here : key = gone
  · subst here
    simp only [if_true, List.find?_eq_none]
    simp
  · rw [if_neg here]
    refine congrArg (List.find? · store.tasks) (funext fun task => ?_)
    by_cases found : task.key = key
    · simp [found, here]
    · simp [found]

theorem isKeyed_mergeTask {store : MemoryStore} (keyed : store.IsKeyed) (task : FetchTask) :
    (store.mergeTask task).2.IsKeyed := by
  unfold IsKeyed at keyed ⊢
  cases found : store.task? task.key with
  | none =>
    have fresh : task.key ∉ store.tasks.map FetchTask.key := by
      intro member
      obtain ⟨other, inside, same⟩ := List.mem_map.mp member
      have none := List.find?_eq_none.mp found other inside
      simp [same] at none
    rw [tasks_mergeTask_of_none found, List.map_append]
    exact List.Nodup.append keyed (List.nodup_singleton _) (by simpa using fresh)
  | some stored =>
    have same : stored.key = task.key := key_of_task? found
    have keys : store.tasks.map (FetchTask.key ∘ fun other =>
        if other.key = task.key then stored.widen task else other) =
          store.tasks.map FetchTask.key :=
      List.map_congr_left fun other _ => key_replace same
    rw [tasks_mergeTask_of_some found, List.map_map, keys]
    exact keyed

theorem isKeyed_deleteTask {store : MemoryStore} (keyed : store.IsKeyed) (gone : TaskKey) :
    (store.deleteTask gone).2.IsKeyed :=
  List.Nodup.sublist (List.Sublist.map _ List.filter_sublist) keyed

end MemoryStore

end DigestSync
