import DigestSync.Proofs.Fetch.Calls
import DigestSync.Proofs.Fetch.Order
import DigestSync.Proofs.Fetch.Redundancy

set_option autoImplicit false

/-! # What a call to cancel a key leaves behind

A call to cancel a key takes away the entries and the stored task of the key, and nothing else.
The numbers of the entries are used up and belong to no entry any more, which no later event
changes.  So the ends of their attempts, whenever they come, find no entry to end, though there may
be new ones with the same key.
-/

namespace DigestSync

namespace Worklist

variable {config : FetchConfig} {now : Instant} {before after list : Worklist} {id : FetcherId}
  {key : TaskKey}

theorem Narrows.trans {later : Worklist} (late : later.Narrows after)
    (early : after.Narrows before) : later.Narrows before where
  order := late.order.trans early.order
  nextId := late.nextId.trans early.nextId
  slots := by
    intro slot member
    obtain ⟨other, inside, number, task⟩ := late.slots slot member
    obtain ⟨first, there, same, range⟩ := early.slots other inside
    exact ⟨first, there, same.trans number, range.trans task⟩

/-! ## Numbers that are used up -/

/-- The number is used up and belongs to no entry. -/
structure Retired (list : Worklist) (id : FetcherId) : Prop where
  used : id < list.nextId
  absent : ∀ slot ∈ list.slots, slot.id ≠ id

theorem Retired.narrow (retired : before.Retired id) (narrows : after.Narrows before) :
    after.Retired id where
  used := narrows.nextId ▸ retired.used
  absent := by
    intro slot member
    obtain ⟨other, inside, number, -⟩ := narrows.slots slot member
    rw [← number]
    exact retired.absent other inside

/-- A new entry gets another number. -/
theorem Retired.insert (retired : list.Retired id) (task : FetchTask) (fetcher : Fetcher) :
    (list.insert task fetcher).Retired id where
  used := Nat.lt_succ_of_lt retired.used
  absent := by
    intro slot member
    rcases mem_insert.mp member with rfl | old
    · exact Nat.ne_of_gt retired.used
    · exact retired.absent slot old

theorem Moves.retired {underWay later : List (FetcherId × Fetcher)}
    (moves : Moves config now before underWay after later) (retired : before.Retired id) :
    after.Retired id := by
  cases moves with
  | keep => exact retired
  | insert task fetcher => exact retired.insert task fetcher
  | removeKey key => exact retired.narrow (narrows_removeKey before key)
  | schedule => exact retired.narrow (narrows_schedule before config now)
  | release attempt state => exact retired.narrow (narrows_release before attempt.1 state)

theorem Retired.isActive_eq_false (retired : list.Retired id) : list.isActive id = false := by
  rw [isActive, List.any_eq_false]
  intro slot member
  simp [retired.absent slot member]

/-- Removing the entries with a key retires their numbers. -/
theorem retired_removeKey (tidy : list.Tidy) {slot : Slot} (member : slot ∈ list.slots) :
    (list.removeKey slot.task.key).Retired slot.id where
  used := tidy.counted slot member
  absent := by
    intro other left same
    obtain ⟨inside, foreign⟩ := List.mem_filter.mp left
    have one : other = slot := tidy.eq_of_id inside member same
    simp [one] at foreign

/-- Removing the entries with a key takes as many attempts off the count as belonged to them. -/
theorem active_removeKey {maxParallel : Nat} (counted : list.Counted maxParallel)
    (key : TaskKey) :
    (list.removeKey key).active +
      list.slots.countP (fun slot => slot.task.key = key && slot.isActive) = list.active := by
  have gone := busy_removeKey list key
  have active := counted.active
  show list.active - list.slots.countP _ + _ = _
  omega

end Worklist

namespace ManagerScene

variable {scene : ManagerScene} {id : FetcherId} {key : TaskKey} {answer : Bool}
  {course : List (Instant × ManagerEvent)}

theorem ignores_of_retired (retired : scene.manager.worklist.Retired id) : scene.Ignores id := by
  intro now event ends
  cases event with
  | enqueue | cancel | advance | look | medium => exact ends.elim
  | complete other fetcher =>
    obtain rfl : other = id := ends
    simp only [react, FetchManager.enterComplete, retired.isActive_eq_false, Bool.false_eq_true,
      if_false]
    split <;> exact ⟨rfl, rfl⟩
  | fail resolve other fetcher =>
    obtain rfl : other = id := ends
    simp only [react, FetchManager.fail, retired.isActive_eq_false, Bool.false_eq_true, if_false]
    split <;> exact ⟨rfl, rfl⟩

theorem retired_run (retired : scene.manager.worklist.Retired id)
    (events : List (Instant × ManagerEvent)) :
    (scene.run events).manager.worklist.Retired id :=
  run_induction (fun event _ scene => (scene.moves_react event.1 event.2).retired) retired

theorem retired_shutdown (retired : scene.manager.worklist.Retired id) :
    scene.shutdown.manager.worklist.Retired id := ⟨retired.used, retired.absent⟩

/-- What needs no entry adds none to the worklist. -/
theorem narrows_run_bystanders (lacks : scene.manager.worklist.Lacks scene.manager.step)
    (events : List (Instant × ManagerEvent)) :
    (scene.run (bystanders events)).manager.worklist.Narrows scene.manager.worklist := by
  suffices kept : (scene.run (bystanders events)).manager.worklist.Narrows scene.manager.worklist ∧
      (scene.run (bystanders events)).manager.worklist.Lacks
        (scene.run (bystanders events)).manager.step from kept.1
  refine run_induction (motive := fun later => later.manager.worklist.Narrows _ ∧
    later.manager.worklist.Lacks later.manager.step) ?_ ⟨.refl _, lacks⟩
  rintro ⟨now, event⟩ member later ⟨narrows, lacking⟩
  have free : event.isFree = true := (List.mem_filter.mp member).2
  have still : event ≠ .advance := by
    rintro rfl
    cases free
  obtain ⟨more, lacking⟩ := narrows_react now lacking still
  exact ⟨more.trans narrows, lacking⟩

/-! ## The call -/

theorem Cancels.isTaken_eq_false {result : Except FetchFault Bool}
    (cancels : scene.Cancels key course result) : scene.isTaken = false := by
  cases cancels with
  | later free => exact free

/-- A call to cancel a key that is not refused removes the stored task of the key, and its entries
from what the worklist would be without the call. -/
theorem Cancels.accepted (cancels : scene.Cancels key course (.ok answer)) :
    (scene.run course).manager.worklist =
        ((scene.drop key).run (bystanders course)).manager.worklist ∧
      (scene.run course).volume.store = (scene.volume.store.deleteTask key).2 ∧
      answer = (!(scene.manager.worklist.slots.filter fun slot => slot.task.key = key).isEmpty ||
        scene.volume.store.hasTask key) := by
  cases cancels with
  | later free leaves =>
    rw [react_cancel _ free] at leaves
    have along : Alongside { scene with manager := scene.manager.enterCancel key }
        (scene.drop key) := ⟨rfl, rfl, rfl⟩
    obtain ⟨worklist, ⟨done, store⟩ | ⟨fault, refused, -⟩⟩ := leaves.of_clearing rfl along
    · rw [run_bystanders_cons, run, List.foldl_cons, react_cancel _ free]
      exact ⟨worklist, store, Except.ok.inj done⟩
    · cases refused

/-- The answer tells whether there was anything to remove. -/
theorem Cancels.answer_iff (cancels : scene.Cancels key course (.ok answer)) :
    answer = true ↔ (∃ slot ∈ scene.manager.worklist.slots, slot.task.key = key) ∨
      ∃ row ∈ scene.volume.store.tasks, row.key = key := by
  obtain ⟨-, -, answered⟩ := cancels.accepted
  rw [answered]
  simp [MemoryStore.hasTask, MemoryStore.task?, List.find?_isSome]

/-- As soon as a call to cancel a key has entered, the numbers of the entries with the key are
retired. -/
theorem Cancels.retired {result : Except FetchFault Bool}
    (cancels : scene.Cancels key course result) (tidy : scene.manager.worklist.Tidy) {slot : Slot}
    (member : slot ∈ scene.manager.worklist.slots) (same : slot.task.key = key)
    {begun ended : List (Instant × ManagerEvent)} (split : course = begun ++ ended)
    (entered : begun ≠ []) : (scene.run begun).manager.worklist.Retired slot.id := by
  cases cancels with
  | @later now _ rest free leaves =>
    cases begun with
    | nil => exact absurd rfl entered
    | cons first others =>
      obtain ⟨rfl, -⟩ := List.cons.inj split
      have gone : (scene.react now (.cancel key)).manager.worklist.Retired slot.id := by
        rw [react_cancel now free, ← same]
        exact Worklist.retired_removeKey tidy member
      exact retired_run gone others

/-- In every run of a manager before a shutdown, for a call to cancel a key that is not refused,
with other events between its steps: no entry and no stored task with the key is left.  The stored
tasks of all other keys are as before, in their order, and so is the rest of the store.  The
worklist is as it would be without the call, had it not held the entries with the key: it keeps the
other entries in their order, its next number, and its count but for the attempts of those entries
that were under way.  The answer is yes just if there was such an entry or such a task.  And as
soon as the call has entered, no end of an attempt of a removed entry is taken note of, after
whatever events, a shutdown among them. -/
theorem cancel_is_exact_and_final (config : FetchConfig) (store : MemoryStore)
    (events : List (Instant × ManagerEvent)) (key : TaskKey)
    (course : List (Instant × ManagerEvent)) (answer : Bool)
    (cancels : ((start config store).run events).Cancels key course (.ok answer)) :
    let scene := (start config store).run events
    let before := scene.manager.worklist
    let kept := (scene.drop key).manager.worklist
    let after := scene.run course
    ((∀ slot ∈ after.manager.worklist.slots, slot.task.key ≠ key) ∧
      ∀ row ∈ after.volume.store.tasks, row.key ≠ key) ∧
    after.volume.store = { scene.volume.store with
      tasks := scene.volume.store.tasks.filter fun row => row.key ≠ key } ∧
    (after.manager.worklist = ((scene.drop key).run (bystanders course)).manager.worklist ∧
      kept.slots = before.slots.filter (fun slot => slot.task.key ≠ key) ∧
      kept.active + before.slots.countP (fun slot => slot.task.key = key && slot.isActive) =
        before.active ∧
      kept.nextId = before.nextId ∧ after.manager.worklist.nextId = before.nextId ∧
      kept.stopped = before.stopped) ∧
    (answer = true ↔ (∃ slot ∈ before.slots, slot.task.key = key) ∨
      ∃ row ∈ scene.volume.store.tasks, row.key = key) ∧
    ∀ slot ∈ before.slots, slot.task.key = key →
      ∀ begun ended, course = begun ++ ended → begun ≠ [] → ∀ later,
        ((scene.run begun).run later).Ignores slot.id ∧
        ∀ more, (((scene.run begun).run later).shutdown.run more).Ignores slot.id := by
  intro scene before kept after
  have orderly : scene.Orderly config := orderly_run (orderly_start config store) events
  obtain ⟨worklist, stored, -⟩ := cancels.accepted
  have narrows : after.manager.worklist.Narrows kept := by
    have free : scene.manager.step = none := by
      simpa [isTaken] using cancels.isTaken_eq_false
    have lacks : kept.Lacks scene.manager.step := by
      rw [free]
      trivial
    exact worklist ▸ narrows_run_bystanders lacks course
  refine ⟨⟨?_, ?_⟩, stored, ⟨worklist, rfl, ?_, rfl, narrows.nextId, rfl⟩, ?_, ?_⟩
  · intro slot member
    obtain ⟨other, inside, -, task⟩ := narrows.slots slot member
    rw [← task]
    simpa using (List.mem_filter.mp inside).2
  · intro row member
    rw [stored] at member
    simpa using (List.mem_filter.mp member).2
  · exact Worklist.active_removeKey orderly.counted key
  · exact cancels.answer_iff
  · intro slot member same begun ended split entered later
    have retired := retired_run (cancels.retired orderly.tidy member same split entered) later
    exact ⟨ignores_of_retired retired,
      fun more => ignores_of_retired (retired_run (retired_shutdown retired) more)⟩

/-- A task is added and taken up. -/
def takenUp : List (Instant × ManagerEvent) :=
  [(0, .enqueue (fun _ => .empty) overlap.1), (0, .advance), (0, .advance), (1, .look)]

/-- A call to cancel its key, with a look at the worklist between its steps. -/
def cancelled : List (Instant × ManagerEvent) :=
  [(2, .cancel overlap.1.key), (2, .look), (3, .advance)]

/-- The same task is added once more and taken up. -/
def takenUpAgain : List (Instant × ManagerEvent) :=
  [(4, .enqueue (fun _ => .empty) overlap.1), (4, .advance), (4, .advance), (5, .look)]

/-- The first attempt of a task that was cancelled and added again may still end, and does not end
the second one. -/
theorem cancel_is_exact_and_final_again :
    let scene := (start .standard .empty).run takenUp
    let again := (scene.run cancelled).run takenUpAgain
    scene.Cancels overlap.1.key cancelled (.ok true) ∧
      (∀ slot ∈ (scene.run cancelled).manager.worklist.slots, slot.task.key ≠ overlap.1.key) ∧
      again.manager.worklist.slots = [⟨1, overlap.1, .active⟩] ∧ again.isTaken = false ∧
      again.isUnderWay 0 (.start overlap.1 .broadcast 0 0) = true ∧ again.Ignores 0 := by
  intro scene again
  have cancels : scene.Cancels overlap.1.key cancelled (.ok true) :=
    .later (by decide +kernel) (.other (by simp) (.last (by decide +kernel)))
  have active : (⟨0, overlap.1, .active⟩ : Slot) ∈ scene.manager.worklist.slots := by
    decide +kernel
  obtain ⟨⟨gone, -⟩, -, -, -, ends⟩ :=
    cancel_is_exact_and_final .standard .empty takenUp overlap.1.key cancelled true cancels
  obtain ⟨ignored, -⟩ :=
    ends _ active rfl cancelled [] (List.append_nil _).symm (List.cons_ne_nil _ _) takenUpAgain
  refine ⟨cancels, gone, ?_, ?_, ?_, ignored⟩ <;> decide +kernel

end ManagerScene

end DigestSync
