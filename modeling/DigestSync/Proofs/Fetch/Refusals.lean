import DigestSync.Proofs.Fetch.Calls

set_option autoImplicit false

/-! # Calls that the store refuses

A call to add a task asks the store first and touches the worklist last, so nothing is
changed if the store refuses it.  A call to cancel a key does it the other way round: by the
time the store refuses, the entries are gone and their attempts have ended, while the task
stays stored.
-/

namespace DigestSync

namespace ManagerScene

variable {scene : ManagerScene} {events : List (Instant × ManagerEvent)}
  {answer : Except FetchFault Bool} {resolve : DeviceId → Name} {task : FetchTask}
  {key : TaskKey} {fault : StoreFault}

/-- If the store refuses a call to add a task, worklist and store are as they would be without
the call. -/
theorem Enqueues.refused (enqueues : scene.Enqueues resolve task events (.error (.store fault))) :
    (scene.run events).manager.worklist = (scene.run (bystanders events)).manager.worklist ∧
      (scene.run events).volume.store = scene.volume.store := by
  cases enqueues with
  | atOnce free answered => exact absurd answered FetchManager.enterEnqueue_ne_store
  | later free entered leaves =>
    rw [react_enqueue _ free entered] at leaves
    obtain ⟨broken, -, kept⟩ | stopped | ⟨added, -⟩ :=
      leaves.of_storing rfl (alongside_goOn scene _)
    · rw [run_bystanders_cons, run, List.foldl_cons, react_enqueue _ free entered]
      exact kept
    · cases stopped
    · cases added

/-- If the store refuses a call to cancel a key, the store is as before, and the worklist is as
it would be without the call, but for the entries with the key. -/
theorem Cancels.refused (cancels : scene.Cancels key events (.error (.store fault))) :
    (scene.run events).manager.worklist =
        ((scene.drop key).run (bystanders events)).manager.worklist ∧
      (scene.run events).volume.store = scene.volume.store := by
  cases cancels with
  | later free leaves =>
    rw [react_cancel _ free] at leaves
    have along : Alongside { scene with manager := scene.manager.enterCancel key }
        (scene.drop key) := ⟨rfl, rfl, rfl⟩
    obtain ⟨worklist, ⟨done, -⟩ | ⟨broken, -, store⟩⟩ := leaves.of_clearing rfl along
    · cases done
    · rw [run_bystanders_cons, run, List.foldl_cons, react_cancel _ free]
      exact ⟨worklist, store⟩

/-- Removing the entries with a key changes nothing if and only if there are none. -/
theorem removeKey_eq_self_iff {list : Worklist} :
    list.removeKey key = list ↔ ∀ slot ∈ list.slots, slot.task.key ≠ key := by
  constructor
  · intro same slot member
    have kept : (list.removeKey key).slots = list.slots := congrArg Worklist.slots same
    have inside : slot ∈ (list.removeKey key).slots := kept ▸ member
    simpa using (List.mem_filter.mp inside).2
  · intro foreign
    have slots : list.slots.filter (fun slot => slot.task.key ≠ key) = list.slots :=
      List.filter_eq_self.mpr fun slot member => by simpa using foreign slot member
    have none : list.slots.countP (fun slot => slot.task.key = key && slot.isActive) = 0 :=
      List.countP_eq_zero.mpr fun slot member => by simp [foreign slot member]
    simp only [Worklist.removeKey, slots, none, Nat.sub_zero]

/-- Of every call that the store refuses, in every run of a manager before a shutdown and with
other events between the steps of the call: one that is to add a task leaves worklist and
store as they would be without it.  One that is to cancel a key leaves the store as it was but
removes the entries with the key.  So, if nothing happens beside it, it leaves the worklist as
it was if and only if there is no such entry. -/
theorem refused_calls (config : FetchConfig) (store : MemoryStore)
    (events : List (Instant × ManagerEvent)) :
    let scene := (start config store).run events
    (∀ resolve task course fault, scene.Enqueues resolve task course (.error (.store fault)) →
        (scene.run course).manager.worklist = (scene.run (bystanders course)).manager.worklist ∧
          (scene.run course).volume.store = scene.volume.store) ∧
      ∀ key course fault, scene.Cancels key course (.error (.store fault)) →
        (scene.run course).manager.worklist =
            ((scene.drop key).run (bystanders course)).manager.worklist ∧
          (scene.run course).volume.store = scene.volume.store ∧
          (bystanders course = [] →
            ((scene.run course).manager.worklist = scene.manager.worklist ↔
              ∀ slot ∈ scene.manager.worklist.slots, slot.task.key ≠ key)) := by
  intro scene
  refine ⟨fun resolve task course fault enqueues => enqueues.refused, ?_⟩
  intro key course fault cancels
  obtain ⟨worklist, stored⟩ := cancels.refused
  refine ⟨worklist, stored, fun alone => ?_⟩
  rw [worklist, alone]
  exact removeKey_eq_self_iff

/-- A task is added, and the medium of the store becomes faulty. -/
def faultyEvents : List (Instant × ManagerEvent) :=
  [(0, .enqueue (fun _ => Name.empty) overlap.1), (0, .advance), (0, .advance),
    (1, .medium (some .engine))]

/-- A call to add a task, with a look at the worklist between its steps. -/
def refusedEnqueue : List (Instant × ManagerEvent) :=
  [(2, .enqueue (fun _ => Name.empty) overlap.2), (2, .look), (3, .advance)]

/-- A call to cancel a key that meets nothing else. -/
def refusedCancel : List (Instant × ManagerEvent) := [(2, .cancel overlap.1.key), (3, .advance)]

theorem enqueues_refusedEnqueue :
    ((start .standard .empty).run faultyEvents).Enqueues (fun _ => Name.empty) overlap.2
      refusedEnqueue (.error (.store .engine)) :=
  .later (by decide +kernel) rfl (.other (by simp) (.last (by decide +kernel)))

theorem cancels_refusedCancel :
    ((start .standard .empty).run faultyEvents).Cancels overlap.1.key refusedCancel
      (.error (.store .engine)) :=
  .later (by decide +kernel) (.last (by decide +kernel))

/-- The call to add a task only lets the look take place; the one to cancel a key removes the
entry that it names. -/
theorem refused_calls_faulty :
    let scene := (start .standard .empty).run faultyEvents
    (scene.run refusedEnqueue).manager.worklist =
        (scene.run [(2, .look)]).manager.worklist ∧
      (scene.run refusedCancel).manager.worklist ≠ scene.manager.worklist := by
  obtain ⟨added, cancelled⟩ := refused_calls .standard .empty faultyEvents
  obtain ⟨worklist, -⟩ := added _ _ _ _ enqueues_refusedEnqueue
  obtain ⟨-, -, same⟩ := cancelled _ _ _ cancels_refusedCancel
  refine ⟨worklist, ?_⟩
  rw [ne_eq, same rfl]
  decide +kernel

/-- A task is stored and waits; a call to cancel its key is refused by the store; after that
no entry is left, and the task is stored still. -/
theorem refused_cancel_drops_entry :
    let scene := (start .standard .empty).run faultyEvents
    scene.Cancels overlap.1.key refusedCancel (.error (.store .engine)) ∧
      scene.manager.worklist.slots.map Slot.task = [overlap.1] ∧
      (scene.run refusedCancel).manager.worklist.slots = [] ∧
      scene.volume.store.tasks = [overlap.1] ∧
      (scene.run refusedCancel).volume.store.tasks = [overlap.1] := by
  refine ⟨cancels_refusedCancel, ?_, ?_, ?_, ?_⟩ <;> decide +kernel

end ManagerScene

end DigestSync
