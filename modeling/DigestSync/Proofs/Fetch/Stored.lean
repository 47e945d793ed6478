import DigestSync.Fetch.Interleaving
import DigestSync.Proofs.Fetch.Worklist
import DigestSync.Proofs.Store.MemoryTasks

set_option autoImplicit false

/-! # Stored tasks and unfinished entries

The task stored under a key is the hull of the unfinished entries with this key.
While a call or the end of an attempt is between two steps, the key that it is about
is the only one for which that may not hold, and its next step tells what is stored
instead.  Every event keeps this, so it holds in every run on a sound medium.
-/

namespace DigestSync

/-- What is stored agrees with the unfinished entries, as far as the next step of what
has entered allows. -/
def Explains (list : Worklist) (store : MemoryStore) : Option PersistStep → Prop
  | none | some (.storing _ _) => ∀ key, store.task? key = list.liveSpan key
  | some (.inserting task _) =>
    ∀ key, store.task? key =
      Worklist.span (list.liveTasks key ++ [task].filter (·.key = key))
  | some (.clearing gone _) =>
    list.liveSpan gone = none ∧ ∀ key, key ≠ gone → store.task? key = list.liveSpan key
  | some (.dropping gone left) =>
    list.liveSpan gone = left ∧ ∀ key, key ≠ gone → store.task? key = list.liveSpan key
  | some (.respanning left) =>
    list.liveSpan left.key = some left ∧ store.task? left.key = none ∧
      ∀ key, key ≠ left.key → store.task? key = list.liveSpan key

/-- Only the tasks of unfinished entries matter. -/
theorem Explains.congr {before after : Worklist} {store : MemoryStore}
    {step : Option PersistStep} (explains : Explains before store step)
    (same : ∀ key, after.liveTasks key = before.liveTasks key) : Explains after store step := by
  have spans : ∀ key, after.liveSpan key = before.liveSpan key := fun key =>
    congrArg Worklist.span (same key)
  rcases step with _ | _ | _ | _ | _ | _ <;> simpa only [Explains, spans, same] using explains

/-- What is stored after a step agrees with the unfinished entries. -/
def StepAgrees {α : Type} (outcome : FetchManager × Volume × α) : Prop :=
  Explains outcome.1.worklist outcome.2.1.store outcome.1.step

namespace FetchManager

variable {manager : FetchManager} {volume : Volume} {now : Instant}

/-! ## Entering -/

/-- A task enters, or else it is empty or covered. -/
theorem enterEnqueue_cases (running : manager.worklist.stopped = false)
    (resolve : DeviceId → Name) (task : FetchTask) :
    (∃ hint, manager.enterEnqueue resolve task = .entered (manager.goOn (.storing task hint))) ∨
      manager.enterEnqueue resolve task = .answered (.ok false) ∧
        (task.isEmpty = true ∨ manager.worklist.covers task = true) := by
  unfold enterEnqueue
  by_cases empty : task.isEmpty = true
  · rw [if_pos empty]
    exact Or.inr ⟨rfl, Or.inl empty⟩
  · rw [if_neg empty, running, if_neg (by simp)]
    by_cases covered : manager.worklist.covers task = true
    · rw [if_pos covered]
      exact Or.inr ⟨rfl, Or.inr covered⟩
    · rw [if_neg covered]
      exact Or.inl ⟨_, rfl⟩

/-! ## Steps -/

theorem advance_of_step {step : PersistStep} (next : manager.step = some step)
    (volume : Volume) (now : Instant) :
    manager.advance volume now = manager.perform volume now step := by
  unfold advance
  rw [next]

theorem advance_of_free (free : manager.step = none) (volume : Volume) (now : Instant) :
    manager.advance volume now = (manager, volume, none) := by
  unfold advance
  rw [free]

/-- The first step of a call that has entered with a task stores it. -/
theorem advance_storing (manager : FetchManager) (sound : volume.fault = none) (now : Instant)
    (task : FetchTask) (hint : ForwardingHint) :
    (manager.goOn (.storing task hint)).advance volume now =
      (manager.goOn (.inserting task hint),
        { volume with store := (volume.store.mergeTask task).2 }, none) := by
  show (manager.goOn _).perform volume now (.storing task hint) = _
  simp only [perform, Volume.mergeTask, Volume.change, sound, goOn]

/-- The second step makes an entry of the task. -/
theorem advance_inserting (running : manager.worklist.stopped = false) (volume : Volume)
    (now : Instant) (task : FetchTask) (hint : ForwardingHint) :
    (manager.goOn (.inserting task hint)).advance volume now =
      ({ manager.leave with
          worklist := manager.worklist.insert task
            (.start task hint manager.config.maxRetryPause now) }, volume, some (.ok true)) := by
  show (manager.goOn _).perform volume now (.inserting task hint) = _
  simp only [perform, goOn, running, Bool.false_eq_true, if_false, leave]

/-- A call that has entered to add a task stores it as the hull of the unfinished
entries and this one. -/
theorem explains_storing {task : FetchTask} {hint : ForwardingHint}
    (sound : volume.fault = none)
    (explains : Explains manager.worklist volume.store (some (.storing task hint))) :
    StepAgrees (manager.perform volume now (.storing task hint)) := by
  simp only [StepAgrees, perform, Volume.mergeTask, Volume.change, sound]
  intro key
  have before := explains key
  rw [MemoryStore.task?_mergeTask]
  by_cases here : key = task.key
  · subst here
    simp only [if_true, List.filter_cons, decide_true, List.filter_nil, goOn]
    rw [Worklist.span_concat, before]
    rfl
  · simp only [here, if_false, List.filter_cons, Ne.symm here, decide_false, List.filter_nil,
      List.append_nil, goOn, Bool.false_eq_true]
    exact before

theorem explains_inserting {task : FetchTask} {hint : ForwardingHint}
    (running : manager.worklist.stopped = false)
    (explains : Explains manager.worklist volume.store (some (.inserting task hint))) :
    StepAgrees (manager.perform volume now (.inserting task hint)) := by
  simp only [StepAgrees, perform, running, Bool.false_eq_true, if_false]
  intro key
  rw [Worklist.liveSpan_insert]
  exact explains key

theorem explains_clearing {gone : TaskKey} {removed : Bool} (sound : volume.fault = none)
    (explains : Explains manager.worklist volume.store (some (.clearing gone removed))) :
    StepAgrees (manager.perform volume now (.clearing gone removed)) := by
  obtain ⟨none, others⟩ := explains
  simp only [StepAgrees, perform, Volume.deleteTask, Volume.change, sound]
  intro key
  rw [MemoryStore.task?_deleteTask]
  by_cases here : key = gone
  · rw [if_pos here, here]
    exact none.symm
  · rw [if_neg here]
    exact others key here

theorem explains_dropping {gone : TaskKey} {left : Option FetchTask}
    (sound : volume.fault = none)
    (explains : Explains manager.worklist volume.store (some (.dropping gone left))) :
    StepAgrees (manager.perform volume now (.dropping gone left)) := by
  obtain ⟨span, others⟩ := explains
  have dropped : ∀ key, (volume.store.deleteTask gone).2.task? key =
      if key = gone then none else manager.worklist.liveSpan key := by
    intro key
    rw [MemoryStore.task?_deleteTask]
    by_cases here : key = gone
    · rw [if_pos here, if_pos here]
    · rw [if_neg here, if_neg here, others key here]
  cases left with
  | none =>
    simp only [StepAgrees, perform, Volume.deleteTask, Volume.change, sound]
    intro key
    rw [dropped key]
    by_cases here : key = gone
    · rw [if_pos here, here]
      exact span.symm
    · rw [if_neg here]
      rfl
  | some left =>
    have same : left.key = gone := Worklist.key_of_liveSpan span
    simp only [StepAgrees, perform, Volume.deleteTask, Volume.change, sound]
    refine ⟨?_, ?_, ?_⟩
    · rw [same]
      exact span
    · rw [dropped, if_pos same]
    · intro key away
      rw [dropped, if_neg (same ▸ away)]
      rfl

theorem explains_respanning {left : FetchTask} (sound : volume.fault = none)
    (explains : Explains manager.worklist volume.store (some (.respanning left))) :
    StepAgrees (manager.perform volume now (.respanning left)) := by
  obtain ⟨span, absent, others⟩ := explains
  simp only [StepAgrees, perform, Volume.mergeTask, Volume.change, sound]
  intro key
  rw [MemoryStore.task?_mergeTask]
  by_cases here : key = left.key
  · rw [if_pos here, absent, here]
    exact span.symm
  · rw [if_neg here]
    exact others key here

/-- Every step keeps what is stored in agreement with the unfinished entries. -/
theorem explains_advance (sound : volume.fault = none)
    (running : manager.worklist.stopped = false)
    (explains : Explains manager.worklist volume.store manager.step) :
    StepAgrees (manager.advance volume now) := by
  unfold advance
  cases entered : manager.step with
  | none =>
    rw [entered] at explains
    simpa only [StepAgrees, entered] using explains
  | some step =>
    rw [entered] at explains
    cases step with
    | storing => exact explains_storing sound explains
    | inserting => exact explains_inserting running explains
    | clearing => exact explains_clearing sound explains
    | dropping => exact explains_dropping sound explains
    | respanning => exact explains_respanning sound explains

/-- A step leaves the worklist as it is or adds an entry whose fetcher is for its
task. -/
theorem worklist_advance (manager : FetchManager) (volume : Volume) (now : Instant) :
    (manager.advance volume now).1.worklist = manager.worklist ∨
      ∃ task fetcher, fetcher.task = task ∧
        (manager.advance volume now).1.worklist = manager.worklist.insert task fetcher := by
  unfold advance
  cases manager.step with
  | none => exact Or.inl rfl
  | some step =>
    cases step with
    | storing task hint =>
      refine Or.inl ?_
      simp only [perform]
      split <;> rfl
    | inserting task hint =>
      simp only [perform]
      split
      · exact Or.inl rfl
      · exact Or.inr ⟨task, Fetcher.start task hint manager.config.maxRetryPause now, rfl, rfl⟩
    | clearing gone removed =>
      refine Or.inl ?_
      simp only [perform]
      split <;> rfl
    | dropping gone left =>
      cases left <;> exact Or.inl rfl
    | respanning left =>
      refine Or.inl ?_
      simp only [perform]
      split <;> rfl

/-- A step merges a task into those that are stored, or deletes one, or leaves the
volume as it is. -/
theorem volume_advance (manager : FetchManager) (volume : Volume) (now : Instant) :
    (manager.advance volume now).2.1 = volume ∨
      (∃ task, (manager.advance volume now).2.1 =
        { volume with store := (volume.store.mergeTask task).2 }) ∨
      ∃ key, (manager.advance volume now).2.1 =
        { volume with store := (volume.store.deleteTask key).2 } := by
  unfold advance
  cases manager.step with
  | none => exact Or.inl rfl
  | some step =>
    cases step with
    | storing task hint =>
      cases fault : volume.fault with
      | none => exact Or.inr (Or.inl ⟨task, by simp [perform, Volume.mergeTask, Volume.change, fault]⟩)
      | some broken => exact Or.inl (by simp [perform, Volume.mergeTask, Volume.change, fault])
    | inserting task hint =>
      refine Or.inl ?_
      simp only [perform]
      split <;> rfl
    | clearing key removed =>
      cases fault : volume.fault with
      | none => exact Or.inr (Or.inr ⟨key, by simp [perform, Volume.deleteTask, Volume.change, fault]⟩)
      | some broken => exact Or.inl (by simp [perform, Volume.deleteTask, Volume.change, fault])
    | dropping key left =>
      cases fault : volume.fault with
      | none =>
        refine Or.inr (Or.inr ⟨key, ?_⟩)
        cases left <;> simp [perform, Volume.deleteTask, Volume.change, fault]
      | some broken =>
        refine Or.inl ?_
        cases left <;> simp [perform, Volume.deleteTask, Volume.change, fault]
    | respanning left =>
      cases fault : volume.fault with
      | none => exact Or.inr (Or.inl ⟨left, by simp [perform, Volume.mergeTask, Volume.change, fault]⟩)
      | some broken => exact Or.inl (by simp [perform, Volume.mergeTask, Volume.change, fault])

end FetchManager

end DigestSync
