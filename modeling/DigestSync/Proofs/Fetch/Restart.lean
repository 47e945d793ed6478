import DigestSync.Proofs.Fetch.Redundancy
import DigestSync.Store.Recording

set_option autoImplicit false

/-! # Restarting a manager

A new manager that is told to restore adds the stored tasks one by one, as if they were asked for
again.  Each is merged into its own row, which stays as it is, and is covered by no entry, since
the entries so far are for other keys.  A second time each is covered by the entry made of it.

So what an earlier manager has stored in full is taken up in full by the next one.
-/

namespace DigestSync

open scoped SeqOrder

/-! ## Merging a task into its own row -/

theorem FetchTask.widen_self (task : FetchTask) : task.widen task = task := by
  have urgent : task.priority.max task.priority = task.priority := by
    cases task.priority <;> rfl
  simp only [widen, min_self, max_self, urgent]

namespace FetchTask

variable {task other : FetchTask}

theorem isEmpty_eq_false_iff : task.isEmpty = false ↔ task.minSeq ≤ task.maxSeq := by
  simp [isEmpty]

/-- A range that spans one with numbers has numbers. -/
theorem filled_of_spans (spanned : task.spans other = true) (solid : other.isEmpty = false) :
    task.minSeq ≤ task.maxSeq := by
  obtain ⟨lower, upper⟩ := spans_iff.mp spanned
  exact lower.trans ((isEmpty_eq_false_iff.mp solid).trans upper)

end FetchTask

namespace MemoryStore

variable {store : MemoryStore} {task : FetchTask}

/-- Merging a stored task once more changes nothing. -/
theorem mergeTask_of_mem (keyed : store.IsKeyed) (stored : task ∈ store.tasks) :
    (store.mergeTask task).2 = store := by
  have found : store.task? task.key = some task := keyed.mem_tasks_iff.mp stored
  have same : ∀ other ∈ store.tasks,
      (if other.key = task.key then task.widen task else other) = id other := by
    intro other member
    by_cases here : other.key = task.key
    · rw [if_pos here, task.widen_self]
      exact (List.inj_on_of_nodup_map keyed member stored here).symm
    · rw [if_neg here]
      rfl
  have tasks := tasks_mergeTask_of_some found
  rw [List.map_congr_left same, List.map_id] at tasks
  simp only [mergeTask, found] at tasks ⊢
  rw [tasks]

/-- No call leaves two tasks with one key. -/
theorem IsKeyed.next (keyed : store.IsKeyed) (call : StoreCall) : (store.next call).IsKeyed := by
  cases call with
  | mergeTask task => exact isKeyed_mergeTask keyed task
  | deleteTask key => exact isKeyed_deleteTask keyed key
  | saveTask task =>
    unfold MemoryStore.next take saveTask
    dsimp only
    split
    · exact keyed
    · rename_i free
      have absent : store.task? task.key = none := by
        simpa [hasTask] using free
      have added := isKeyed_mergeTask keyed task
      unfold IsKeyed at added
      rwa [tasks_mergeTask_of_none absent] at added
  | findDifferences old new includeOld =>
    unfold MemoryStore.next take
    dsimp only
    cases store.findDifferences old new includeOld <;> exact keyed
  | deviceSeq | updateDeviceSeq | locator | updateLocator | currentState | rememberState
  | isKnown | snapshot | hasTask | listTasks => exact keyed

/-- Whatever calls a store has taken, no two of its tasks have the same key. -/
theorem isKeyed_foldl_next (calls : List StoreCall) :
    (calls.foldl MemoryStore.next .empty).IsKeyed := by
  induction calls using List.reverseRecOn with
  | nil => exact List.nodup_nil
  | append_singleton calls call ih =>
    rw [List.foldl_append]
    exact ih.next call

end MemoryStore

/-! ## Adding several entries -/

namespace Worklist

variable {list : Worklist}

/-- Add an entry for each of several tasks. -/
def insertAll (list : Worklist) (fetcher : FetchTask → Fetcher) (tasks : List FetchTask) :
    Worklist :=
  tasks.foldl (fun list task => list.insert task (fetcher task)) list

variable {fetcher : FetchTask → Fetcher} {tasks : List FetchTask}

theorem insertAll_cons (list : Worklist) (fetcher : FetchTask → Fetcher) (task : FetchTask)
    (rest : List FetchTask) :
    list.insertAll fetcher (task :: rest) =
      (list.insert task (fetcher task)).insertAll fetcher rest := rfl

theorem stopped_insertAll (list : Worklist) (fetcher : FetchTask → Fetcher)
    (tasks : List FetchTask) : (list.insertAll fetcher tasks).stopped = list.stopped := by
  induction tasks generalizing list with
  | nil => rfl
  | cons task rest ih => exact ih (list.insert task (fetcher task))

/-- The urgent tasks come first, the latest in front, and the others last, in their order. -/
theorem tasks_insertAll (list : Worklist) (fetcher : FetchTask → Fetcher)
    (tasks : List FetchTask) :
    (list.insertAll fetcher tasks).slots.map (·.task) =
      (tasks.filter fun task => task.priority = .high).reverse ++
        (list.slots.map (·.task) ++ tasks.filter fun task => task.priority = .normal) := by
  induction tasks generalizing list with
  | nil => simp [insertAll]
  | cons task rest ih =>
    rw [insertAll_cons, ih]
    cases urgent : task.priority <;> simp [insert, urgent]

/-- Each entry was there before or waits with the fetcher of its task. -/
theorem mem_insertAll {slot : Slot} (member : slot ∈ (list.insertAll fetcher tasks).slots) :
    slot ∈ list.slots ∨ slot.state = .idle (fetcher slot.task) := by
  induction tasks generalizing list with
  | nil => exact Or.inl member
  | cons task rest ih =>
    rcases ih member with before | waiting
    · rcases mem_insert.mp before with rfl | old
      · exact Or.inr rfl
      · exact Or.inl old
    · exact Or.inr waiting

theorem exists_slot_insertAll (list : Worklist) (fetcher : FetchTask → Fetcher) {task : FetchTask}
    (member : task ∈ tasks) : ∃ slot ∈ (list.insertAll fetcher tasks).slots, slot.task = task := by
  rw [← List.mem_map, tasks_insertAll]
  cases urgent : task.priority <;> simp [member, urgent]

end Worklist

namespace FetchManager

variable {manager : FetchManager} {store : MemoryStore} {volume : Volume} {now : Instant}
  {resolve : DeviceId → Name} {task : FetchTask} {tasks : List FetchTask}

/-! ## Adding stored tasks -/

/-- Add an entry for each of several tasks. -/
def takeUp (manager : FetchManager) (now : Instant) (resolve : DeviceId → Name)
    (tasks : List FetchTask) : FetchManager :=
  { manager with
    worklist := manager.worklist.insertAll
      (fun task =>
        .start task (.direct (resolve task.producer)) manager.config.maxRetryPause now) tasks }

/-- A task with an empty or covered range is turned down. -/
theorem enqueue_of_turned_down (running : manager.worklist.stopped = false)
    (futile : task.isEmpty = true ∨ manager.worklist.covers task = true) :
    manager.enqueue volume now resolve task = (.ok false, manager, volume) := by
  have answered : manager.enterEnqueue resolve task = .answered (.ok false) := by
    unfold enterEnqueue
    rcases futile with empty | covered
    · rw [if_pos empty]
    · rw [running, if_pos covered]
      simp
  simp only [enqueue, answered]

/-- Any other task is stored and added. -/
theorem enqueue_of_lacking (running : manager.worklist.stopped = false)
    (free : manager.step = none) (sound : volume.fault = none) (solid : task.isEmpty = false)
    (uncovered : manager.worklist.covers task = false) :
    manager.enqueue volume now resolve task =
      (.ok true, manager.takeUp now resolve [task],
        { volume with store := (volume.store.mergeTask task).2 }) := by
  have entered : manager.enterEnqueue resolve task =
      .entered (manager.goOn (.storing task (.direct (resolve task.producer)))) := by
    simp only [enterEnqueue, solid, running, uncovered, Bool.false_eq_true, if_false]
  have stored := manager.advance_storing sound now task (.direct (resolve task.producer))
  have added := advance_inserting running
    { volume with store := (volume.store.mergeTask task).2 } now task
    (.direct (resolve task.producer))
  simp only [enqueue, entered, settle, stored, added, Option.getD_some, leave, takeUp, free]
  rfl

/-- Tasks with empty or covered ranges are all turned down. -/
theorem enqueueAll_of_turned_down (running : manager.worklist.stopped = false)
    (futile : ∀ task ∈ tasks, task.isEmpty = true ∨ manager.worklist.covers task = true)
    (count : Nat) :
    enqueueAll volume now resolve tasks count manager = (.ok count, manager, volume) := by
  induction tasks with
  | nil => rfl
  | cons task rest ih =>
    obtain ⟨here, later⟩ := List.forall_mem_cons.mp futile
    simp only [enqueueAll, enqueue_of_turned_down running here, Bool.false_eq_true, if_false,
      ih later]

/-- Stored tasks whose keys have no entry are added, but for those with empty ranges, and what is
stored stays as it is. -/
theorem enqueueAll_stored (running : manager.worklist.stopped = false)
    (free : manager.step = none) (keyed : store.IsKeyed) (distinct : (tasks.map (·.key)).Nodup)
    (stored : ∀ task ∈ tasks, task ∈ store.tasks)
    (fresh : ∀ slot ∈ manager.worklist.slots, slot.task.key ∉ tasks.map (·.key)) (count : Nat) :
    let filled := tasks.filter fun task => task.minSeq ≤ task.maxSeq
    enqueueAll (.ofStore store) now resolve tasks count manager =
      (.ok (count + filled.length), manager.takeUp now resolve filled, .ofStore store) := by
  intro filled
  induction tasks generalizing manager count with
  | nil => rfl
  | cons task rest ih =>
    obtain ⟨here, later⟩ := List.forall_mem_cons.mp stored
    rw [List.map_cons] at distinct fresh
    obtain ⟨alone, others⟩ := List.nodup_cons.mp distinct
    have apart : ∀ slot ∈ manager.worklist.slots, slot.task.key ∉ rest.map (·.key) :=
      fun slot member inside => fresh slot member (List.mem_cons_of_mem _ inside)
    by_cases solid : task.minSeq ≤ task.maxSeq
    case neg =>
      have empty : task.isEmpty = true := by simpa [FetchTask.isEmpty] using solid
      have same : filled = rest.filter fun task => task.minSeq ≤ task.maxSeq :=
        List.filter_cons_of_neg (by simpa using solid)
      simp only [enqueueAll, enqueue_of_turned_down running (Or.inl empty), Bool.false_eq_true,
        if_false, ih running free others later apart, same]
    case pos =>
      -- An entry could cover the task only under its key.
      have uncovered : manager.worklist.covers task = false :=
        Worklist.covers_eq_false_iff.mpr fun slot member same =>
          absurd (same ▸ List.mem_cons_self) (fresh slot member)
      have added : manager.enqueue (.ofStore store) now resolve task =
          (.ok true, manager.takeUp now resolve [task], .ofStore store) := by
        rw [enqueue_of_lacking running free rfl (FetchTask.isEmpty_eq_false_iff.mpr solid)
          uncovered]
        simp only [Volume.ofStore, MemoryStore.mergeTask_of_mem keyed here]
      have behind : ∀ slot ∈ (manager.takeUp now resolve [task]).worklist.slots,
          slot.task.key ∉ rest.map (·.key) := by
        intro slot member
        rcases Worklist.mem_insert.mp member with rfl | old
        · exact alone
        · exact apart slot old
      have longer : filled = task :: rest.filter fun task => task.minSeq ≤ task.maxSeq :=
        List.filter_cons_of_pos (by simpa using solid)
      have going : (manager.takeUp now resolve [task]).worklist.stopped = false := running
      have onwards := ih going free others later behind (count + 1)
      simp only [enqueueAll, added, if_true, onwards, longer, List.length_cons, Nat.add_assoc,
        Nat.add_comm 1]
      rfl

/-! ## Restoring -/

/-- A new manager that restores takes up every stored task whose range has numbers, the urgent ones
in front with the latest first, and the others behind them in their order.  What is stored stays as
it is, and to restore once more changes nothing.  If an earlier manager left the store, and each of
its unfinished entries lay within the stored task of its key, then each lies within a new entry. -/
theorem restores_what_is_stored (config : FetchConfig) {store : MemoryStore}
    (keyed : store.IsKeyed) (now : Instant) (resolve : DeviceId → Name) :
    let rows := store.listTasks.filter fun row => row.minSeq ≤ row.maxSeq
    ∃ manager,
      (new config).restore (.ofStore store) now resolve =
        (.ok rows.length, manager, .ofStore store) ∧
      manager.worklist.slots.map (·.task) =
        (rows.filter fun row => row.priority = .high).reverse ++
          (rows.filter fun row => row.priority = .normal) ∧
      (∀ slot ∈ manager.worklist.slots, slot.state =
        .idle (.start slot.task (.direct (resolve slot.task.producer)) config.maxRetryPause
          now)) ∧
      (∀ later resolver, manager.restore (.ofStore store) later resolver =
        (.ok 0, manager, .ofStore store)) ∧
      ∀ earlier first events,
        let scene := (ManagerScene.start earlier first).run events
        scene.volume.store = store → scene.IsPersisted →
          ∀ slot ∈ scene.manager.worklist.slots, slot.isLive = true →
            ∃ entry ∈ manager.worklist.slots, entry.task.key = slot.task.key ∧
              ∀ seq, slot.task.contains seq = true → entry.task.contains seq = true := by
  intro rows
  have entered : ∀ row ∈ store.tasks, row.minSeq ≤ row.maxSeq →
      ∃ slot ∈ ((new config).takeUp now resolve rows).worklist.slots, slot.task = row :=
    fun row stored solid => Worklist.exists_slot_insertAll _ _
      (List.mem_filter.mpr ⟨stored, decide_eq_true solid⟩)
  have futile : ∀ row ∈ store.tasks, row.isEmpty = true ∨
      ((new config).takeUp now resolve rows).worklist.covers row = true := by
    intro row stored
    by_cases solid : row.minSeq ≤ row.maxSeq
    · obtain ⟨slot, member, rfl⟩ := entered row stored solid
      refine Or.inr (List.any_eq_true.mpr ⟨slot, member, ?_⟩)
      simp [Slot.covers, FetchTask.spans_self]
    · exact Or.inl (by simpa [FetchTask.isEmpty] using solid)
  refine ⟨(new config).takeUp now resolve rows, ?_, ?_, ?_, ?_, ?_⟩
  · have fresh : ∀ slot ∈ (new config).worklist.slots,
        slot.task.key ∉ store.tasks.map (·.key) :=
      fun _ member => absurd member List.not_mem_nil
    have added : enqueueAll (.ofStore store) now resolve store.tasks 0 (new config) =
        (.ok (0 + rows.length), (new config).takeUp now resolve rows, .ofStore store) :=
      enqueueAll_stored rfl rfl keyed keyed (fun _ => id) fresh 0
    rwa [Nat.zero_add] at added
  · exact Worklist.tasks_insertAll _ _ rows
  · intro slot member
    rcases Worklist.mem_insertAll member with before | waiting
    · cases before
    · exact waiting
  · have running : ((new config).takeUp now resolve rows).worklist.stopped = false :=
      Worklist.stopped_insertAll _ _ rows
    exact fun later resolver => enqueueAll_of_turned_down running futile 0
  · -- The range of a live entry has numbers, and so the row that spans it.
    rintro earlier first events scene left persisted slot inside live
    obtain ⟨row, stored, spanned⟩ := persisted slot inside live
    rw [left] at stored
    have irredundant : scene.Irredundant :=
      (ManagerScene.irredundant_start earlier first).run events
    obtain ⟨entry, member, same⟩ := entered row (MemoryStore.mem_of_task? stored)
      (FetchTask.filled_of_spans spanned (irredundant.sparse.solid slot inside))
    refine ⟨entry, member, ?_, fun seq held => ?_⟩
    · rw [same, MemoryStore.key_of_task? stored]
    · rw [same]
      exact FetchTask.contains_of_spans spanned held

/-- A range of another producer. -/
def aside : FetchTask := ⟨⟨.ofTexts ["q"]⟩, .ofTexts ["a"], 7, 8, .normal⟩

/-- A range without a number. -/
def blank : FetchTask := ⟨⟨.ofTexts ["r"]⟩, .ofTexts ["a"], 3, 2, .high⟩

/-- What is stored when two overlapping ranges and another one are asked for, beside a range
without a number and one that is cancelled. -/
def leftStore : MemoryStore :=
  [.saveTask blank, .saveTask { aside with baseName := .ofTexts ["b"] },
    .saveTask ManagerScene.overlap.1, .mergeTask ManagerScene.overlap.2, .mergeTask aside,
    .deleteTask ⟨aside.producer, .ofTexts ["b"]⟩].foldl MemoryStore.next .empty

/-- A manager takes up two overlapping ranges and another one, beside what is stored. -/
def leftEvents : List (Instant × ManagerEvent) :=
  ManagerScene.overlappingEvents ++
    [(5, .enqueue (fun _ => Name.empty) aside), (5, .advance), (5, .advance)]

/-- Both overlapping ranges are taken up by one urgent entry, which comes in front. -/
theorem restores_what_is_stored_overlapping :
    let widened := { ManagerScene.overlap.2 with minSeq := 1 }
    ∃ manager,
      (new .standard).restore (.ofStore leftStore) 0 (fun _ => Name.empty) =
        (.ok 2, manager, .ofStore leftStore) ∧
      manager.worklist.slots.map (·.task) = [widened, aside] ∧
      ∃ entry ∈ manager.worklist.slots, entry.task.key = ManagerScene.overlap.1.key ∧
        ∀ seq, ManagerScene.overlap.1.contains seq = true → entry.task.contains seq = true := by
  intro widened
  have keyed : leftStore.IsKeyed := MemoryStore.isKeyed_foldl_next _
  obtain ⟨manager, restored, tasks, -, -, taken⟩ :=
    restores_what_is_stored .standard keyed 0 fun _ => Name.empty
  have rows : leftStore.listTasks.filter (fun row => row.minSeq ≤ row.maxSeq) =
      [widened, aside] := by
    decide +kernel
  rw [rows] at restored tasks
  refine ⟨manager, restored, tasks, ?_⟩
  have left : ((ManagerScene.start .standard (MemoryStore.empty.saveTask blank).2).run
      leftEvents).volume.store = leftStore := by
    decide +kernel
  have persisted : ((ManagerScene.start .standard (MemoryStore.empty.saveTask blank).2).run
      leftEvents).IsPersisted := by
    have spanned : ∀ slot ∈ ((ManagerScene.start .standard
        (MemoryStore.empty.saveTask blank).2).run leftEvents).manager.worklist.slots,
        ∃ row ∈ leftStore.tasks, row.key = slot.task.key ∧ row.spans slot.task = true := by
      decide +kernel
    intro slot member _
    obtain ⟨row, stored, same, spans⟩ := spanned slot member
    refine ⟨row, ?_, spans⟩
    rw [left, ← same]
    exact keyed.mem_tasks_iff.mp stored
  exact taken .standard _ leftEvents left persisted ⟨0, ManagerScene.overlap.1, .active⟩
    (by decide +kernel) rfl

end FetchManager

end DigestSync
