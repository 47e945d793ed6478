import DigestSync.Fetch.Calls
import DigestSync.Proofs.Fetch.Faults

set_option autoImplicit false

/-! # What a call on a manager does

Until a call has left, nothing else enters, and what needs no entry goes on as it would
without the call.  So what the call itself does can be told by comparison with the same run
of the others: one that is to add a task adds one entry by its last step or leaves the
worklist alone; one that is to cancel a key removes its entries as it enters, and its last
step leaves the worklist alone.
-/

namespace DigestSync

namespace FetchManager

variable {manager : FetchManager} {volume : Volume} {now : Instant}

theorem settle_of_answered {answer : Except FetchFault Bool}
    (answered : (manager.advance volume now).2.2 = some answer) :
    manager.settle volume now = manager.advance volume now := by
  unfold settle
  split
  · rename_i unanswered
    rw [unanswered] at answered
    cases answered
  · rfl

theorem settle_of_unanswered (unanswered : (manager.advance volume now).2.2 = none) :
    manager.settle volume now =
      (manager.advance volume now).1.advance (manager.advance volume now).2.1 now := by
  unfold settle
  split
  · rename_i outcome
    rw [outcome]
  · rename_i other
    exact absurd (by rw [← unanswered]) (other _ _)

/-- While it enters, a call to add a task meets no fault of the store. -/
theorem enterEnqueue_ne_store {resolve : DeviceId → Name} {task : FetchTask} {fault : StoreFault} :
    manager.enterEnqueue resolve task ≠ .answered (.error (.store fault)) := by
  unfold enterEnqueue
  split
  · simp
  · split
    · simp
    · split <;> simp

end FetchManager

namespace ManagerScene

variable {scene alone : ManagerScene} {now : Instant} {event : ManagerEvent}
  {events : List (Instant × ManagerEvent)} {answer : Except FetchFault Bool}
  {resolve : DeviceId → Name} {task : FetchTask} {hint : ForwardingHint} {key : TaskKey}

/-! ## Entering -/

theorem react_enqueue (now : Instant) {manager : FetchManager} (free : scene.isTaken = false)
    (entered : scene.manager.enterEnqueue resolve task = .entered manager) :
    scene.react now (.enqueue resolve task) =
      { scene with
        manager := scene.manager.goOn (.storing task (.direct (resolve task.producer))) } := by
  simp only [react, free, entered, Bool.false_eq_true, if_false]
  rw [FetchManager.eq_of_entered entered]

theorem react_enqueue_of_answered (now : Instant) (free : scene.isTaken = false)
    (answered : scene.manager.enterEnqueue resolve task = .answered answer) :
    scene.react now (.enqueue resolve task) = scene := by
  simp only [react, free, answered, Bool.false_eq_true, if_false]

theorem react_cancel (now : Instant) (free : scene.isTaken = false) :
    scene.react now (.cancel key) =
      { scene with manager := scene.manager.enterCancel key } := by
  simp only [react, free, Bool.false_eq_true, if_false]

/-! ## Events beside a call -/

/-- Two scenes differ at most in what has entered and in what is stored. -/
structure Alongside (scene alone : ManagerScene) : Prop where
  config : alone.manager.config = scene.manager.config
  worklist : alone.manager.worklist = scene.manager.worklist
  underWay : alone.underWay = scene.underWay

theorem alongside_goOn (scene : ManagerScene) (step : PersistStep) :
    Alongside { scene with manager := scene.manager.goOn step } scene := ⟨rfl, rfl, rfl⟩

/-- What needs no entry happens alike, whatever has entered. -/
theorem Alongside.react (along : Alongside scene alone) (now : Instant)
    (free : event.isFree = true) :
    Alongside (scene.react now event) (alone.react now event) := by
  obtain ⟨config, worklist, underWay⟩ := along
  cases event with
  | enqueue | cancel | advance | complete => cases free
  | medium fault => exact ⟨config, worklist, underWay⟩
  | look =>
    simp only [ManagerScene.react, worklist]
    split
    · exact ⟨config, worklist, underWay⟩
    · simp only [FetchManager.schedule, worklist, config]
      exact ⟨rfl, rfl, by rw [underWay]⟩
  | fail resolve id fetcher =>
    have same : alone.isUnderWay id fetcher = scene.isUnderWay id fetcher := by
      simp only [isUnderWay, underWay]
    have fewer : alone.without id = scene.without id := by simp only [without, underWay]
    simp only [ManagerScene.react, same]
    split
    · simp only [FetchManager.fail, worklist]
      split
      · exact ⟨config, rfl, fewer⟩
      · exact ⟨config, worklist, fewer⟩
    · exact ⟨config, worklist, underWay⟩

/-- Whatever needs to enter has to wait until what has entered has left. -/
theorem react_of_taken (taken : scene.isTaken = true) (foreign : event ≠ .advance)
    (bound : event.isFree = false) : scene.react now event = scene := by
  cases event with
  | advance => exact absurd rfl foreign
  | look | fail | medium => cases bound
  | enqueue | cancel | complete => simp [react, taken]

/-- What needs no entry changes neither what has entered nor what is stored. -/
theorem step_react_of_isFree (scene : ManagerScene) (now : Instant) (free : event.isFree = true) :
    (scene.react now event).manager.step = scene.manager.step ∧
      (scene.react now event).volume.store = scene.volume.store := by
  cases event with
  | enqueue | cancel | advance | complete => cases free
  | medium fault => exact ⟨rfl, rfl⟩
  | look =>
    simp only [react]
    split <;> exact ⟨rfl, rfl⟩
  | fail resolve id fetcher =>
    simp only [react, FetchManager.fail]
    split
    · split <;> exact ⟨rfl, rfl⟩
    · exact ⟨rfl, rfl⟩

/-- While a call is inside, another event leaves its step and the store as they are, and
happens as it would without the call, if at all. -/
theorem Alongside.other (along : Alongside scene alone) (taken : scene.isTaken = true)
    (foreign : event ≠ .advance) :
    (scene.react now event).manager.step = scene.manager.step ∧
      (scene.react now event).volume.store = scene.volume.store ∧
      Alongside (scene.react now event) (alone.run (bystanders [(now, event)])) := by
  cases free : event.isFree with
  | true =>
    obtain ⟨step, store⟩ := step_react_of_isFree scene now free
    refine ⟨step, store, ?_⟩
    simpa [bystanders, free, run] using along.react now free
  | false =>
    rw [react_of_taken taken foreign free]
    exact ⟨rfl, rfl, by simpa [bystanders, free, run] using along⟩

theorem run_bystanders_cons (event : Instant × ManagerEvent) :
    alone.run (bystanders (event :: events)) =
      (alone.run (bystanders [event])).run (bystanders events) := by
  rw [← run_append, bystanders, bystanders, bystanders, ← List.filter_append]
  rfl

/-! ## Steps of a call -/

/-- The step of what has entered comes from no bystander. -/
theorem run_bystanders_advance : alone.run (bystanders [(now, .advance)]) = alone := rfl

/-- A task that is stored is added by the next step, unless nothing is accepted any more. -/
theorem Leaves.of_inserting (leaves : scene.Leaves events answer)
    (entered : scene.manager.step = some (.inserting task hint)) (along : Alongside scene alone) :
    answer = .error .stopped ∨
      answer = .ok true ∧ ∃ fetcher, (scene.run events).manager.worklist =
        (alone.run (bystanders events)).manager.worklist.insert task fetcher := by
  induction leaves generalizing alone with
  | @last scene now answer answered =>
    simp only [FetchManager.advance, entered, FetchManager.perform] at answered
    split at answered
    · exact Or.inl (Option.some.inj answered).symm
    · rename_i running
      refine Or.inr ⟨(Option.some.inj answered).symm,
        .start task hint scene.manager.config.maxRetryPause now, ?_⟩
      rw [run_bystanders_advance, along.worklist]
      show (scene.react now .advance).manager.worklist = _
      simp only [react, FetchManager.advance, entered, FetchManager.perform, if_neg running]
  | step unanswered later ih =>
    simp only [FetchManager.advance, entered, FetchManager.perform] at unanswered
    split at unanswered <;> cases unanswered
  | other foreign later ih =>
    obtain ⟨step, -, beside⟩ := along.other (by simp [isTaken, entered]) foreign
    rw [run_bystanders_cons]
    exact ih (step.trans entered) beside

/-- A call to add a task leaves worklist and store alone if the store fails, and otherwise
adds the task, unless nothing is accepted any more. -/
theorem Leaves.of_storing (leaves : scene.Leaves events answer)
    (entered : scene.manager.step = some (.storing task hint)) (along : Alongside scene alone) :
    (∃ fault, answer = .error (.store fault) ∧
        (scene.run events).manager.worklist =
          (alone.run (bystanders events)).manager.worklist ∧
        (scene.run events).volume.store = scene.volume.store) ∨
      answer = .error .stopped ∨
      answer = .ok true ∧ ∃ fetcher, (scene.run events).manager.worklist =
        (alone.run (bystanders events)).manager.worklist.insert task fetcher := by
  induction leaves generalizing alone with
  | @last scene now answer answered =>
    simp only [FetchManager.advance, entered, FetchManager.perform] at answered
    split at answered
    · rename_i fault failed
      have after : scene.react now .advance = { scene with manager := scene.manager.leave } := by
        simp only [react, FetchManager.advance, entered, FetchManager.perform, failed]
      refine Or.inl ⟨fault, (Option.some.inj answered).symm, ?_⟩
      rw [run_bystanders_advance, along.worklist]
      show (scene.react now .advance).manager.worklist = _ ∧
        (scene.react now .advance).volume.store = _
      rw [after]
      exact ⟨rfl, rfl⟩
    · cases answered
  | @step scene now answer rest unanswered later =>
    simp only [FetchManager.advance, entered, FetchManager.perform] at unanswered
    split at unanswered
    · cases unanswered
    · rename_i row volume stored
      refine Or.inr ?_
      have after : scene.react now .advance =
          { scene with manager := scene.manager.goOn (.inserting task hint), volume } := by
        simp only [react, FetchManager.advance, entered, FetchManager.perform, stored]
      have beside : Alongside (scene.react now .advance) alone := by
        rw [after]
        exact ⟨along.config, along.worklist, along.underWay⟩
      exact later.of_inserting (by rw [after]; rfl) beside
  | other foreign later ih =>
    obtain ⟨step, store, beside⟩ := along.other (by simp [isTaken, entered]) foreign
    rw [run_bystanders_cons]
    have rest := ih (step.trans entered) beside
    rwa [store] at rest

/-- The last step of a call to cancel a key leaves the worklist alone.  If it fails, it leaves the
store alone too, and otherwise it removes the stored task of the key and tells whether there was
one. -/
theorem Leaves.of_clearing {removed : Bool} (leaves : scene.Leaves events answer)
    (entered : scene.manager.step = some (.clearing key removed))
    (along : Alongside scene alone) :
    (scene.run events).manager.worklist = (alone.run (bystanders events)).manager.worklist ∧
      (answer = .ok (removed || scene.volume.store.hasTask key) ∧
          (scene.run events).volume.store = (scene.volume.store.deleteTask key).2 ∨
        ∃ fault, answer = .error (.store fault) ∧
          (scene.run events).volume.store = scene.volume.store) := by
  induction leaves generalizing alone with
  | @last scene now answer answered =>
    rw [run_bystanders_advance, along.worklist]
    show (scene.react now .advance).manager.worklist = _ ∧
      (answer = .ok (removed || scene.volume.store.hasTask key) ∧
          (scene.react now .advance).volume.store = _ ∨
        ∃ fault, answer = .error (.store fault) ∧ (scene.react now .advance).volume.store = _)
    cases medium : scene.volume.fault with
    | some fault =>
      have deleted : scene.volume.deleteTask key = .error fault := by
        simp only [Volume.deleteTask, Volume.change, medium]
      simp only [FetchManager.advance, entered, FetchManager.perform, deleted] at answered
      simp only [react, FetchManager.advance, entered, FetchManager.perform, deleted]
      exact ⟨rfl, Or.inr ⟨fault, (Option.some.inj answered).symm, trivial⟩⟩
    | none =>
      have deleted : scene.volume.deleteTask key = .ok (scene.volume.store.hasTask key,
          { scene.volume with store := (scene.volume.store.deleteTask key).2 }) := by
        simp only [Volume.deleteTask, Volume.change, medium]
        rfl
      simp only [FetchManager.advance, entered, FetchManager.perform, deleted] at answered
      simp only [react, FetchManager.advance, entered, FetchManager.perform, deleted]
      exact ⟨rfl, Or.inl ⟨(Option.some.inj answered).symm, trivial⟩⟩
  | step unanswered later ih =>
    simp only [FetchManager.advance, entered, FetchManager.perform] at unanswered
    split at unanswered <;> cases unanswered
  | other foreign later ih =>
    obtain ⟨step, store, beside⟩ := along.other (by simp [isTaken, entered]) foreign
    rw [run_bystanders_cons]
    have rest := ih (step.trans entered) beside
    rwa [store] at rest

/-! ## Calls that meet no other event -/

/-- What has entered and is answered by its second step at the latest leaves as `settle`
computes it. -/
theorem exists_leaves_settle (scene : ManagerScene) (now : Instant)
    (second : (scene.manager.advance scene.volume now).2.2 = none →
      ∃ answer, ((scene.react now .advance).manager.advance (scene.react now .advance).volume
        now).2.2 = some answer) :
    ∃ course answer, scene.Leaves course answer ∧
      scene.manager.settle scene.volume now =
        ((scene.run course).manager, (scene.run course).volume, some answer) := by
  cases first : (scene.manager.advance scene.volume now).2.2 with
  | some answer =>
    refine ⟨[(now, .advance)], answer, .last first, ?_⟩
    rw [FetchManager.settle_of_answered first, ← first]
    rfl
  | none =>
    obtain ⟨answer, answered⟩ := second first
    refine ⟨[(now, .advance), (now, .advance)], answer, .step first (.last answered), ?_⟩
    rw [FetchManager.settle_of_unanswered first, ← answered]
    rfl

/-- A call to cancel a key that meets no other event does what `cancel` computes. -/
theorem exists_cancels_cancel (free : scene.isTaken = false) (now : Instant) (key : TaskKey) :
    ∃ course answer, scene.Cancels key course answer ∧
      scene.manager.cancel scene.volume now key =
        (answer, (scene.run course).manager, (scene.run course).volume) := by
  obtain ⟨course, answer, leaves, settled⟩ :=
    exists_leaves_settle (scene.react now (.cancel key)) now (by
      intro unanswered
      rw [react_cancel now free] at unanswered
      simp only [FetchManager.advance, FetchManager.enterCancel, FetchManager.perform] at unanswered
      split at unanswered <;> cases unanswered)
  refine ⟨(now, .cancel key) :: course, answer, .later free leaves, ?_⟩
  simp only [react_cancel now free] at settled
  simp only [FetchManager.cancel, settled, run, List.foldl_cons, react_cancel now free,
    Option.getD_some]

/-- A call to add a task that meets no other event does what `enqueue` computes. -/
theorem exists_enqueues_enqueue (free : scene.isTaken = false) (now : Instant)
    (resolve : DeviceId → Name) (task : FetchTask) :
    ∃ course answer, scene.Enqueues resolve task course answer ∧
      scene.manager.enqueue scene.volume now resolve task =
        (answer, (scene.run course).manager, (scene.run course).volume) := by
  cases begun : scene.manager.enterEnqueue resolve task with
  | answered answer =>
    refine ⟨[(now, .enqueue resolve task)], answer, .atOnce free begun, ?_⟩
    simp only [FetchManager.enqueue, begun, run, List.foldl_cons, List.foldl_nil,
      react_enqueue_of_answered now free begun]
  | entered manager =>
    have entered := react_enqueue now free begun
    obtain ⟨course, answer, leaves, settled⟩ :=
      exists_leaves_settle (scene.react now (.enqueue resolve task)) now (by
        intro unanswered
        rw [entered] at unanswered ⊢
        simp only [FetchManager.advance, FetchManager.goOn, FetchManager.perform] at unanswered
        split at unanswered
        · cases unanswered
        · rename_i row volume stored
          simp only [react, FetchManager.advance, FetchManager.goOn, FetchManager.perform, stored]
          split <;> exact ⟨_, rfl⟩)
    refine ⟨(now, .enqueue resolve task) :: course, answer, .later free begun leaves, ?_⟩
    simp only [entered] at settled
    simp only [FetchManager.enqueue, begun, FetchManager.eq_of_entered begun, settled, run,
      List.foldl_cons, entered, Option.getD_some]

end ManagerScene

end DigestSync
