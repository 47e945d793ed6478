import DigestSync.Proofs.Fetch.Interleaving

set_option autoImplicit false

/-! # What an event does to the worklist

Whatever happens to a manager, sound medium or not, at most one operation of the worklist comes
of it.  So what all operations keep holds in every run: numbers tell the entries apart, and the
attempts belong to their entries.
-/

namespace DigestSync

/-- What an event does to a worklist and to the attempts under way. -/
inductive Worklist.Moves (config : FetchConfig) (now : Instant) (list : Worklist)
    (underWay : List (FetcherId × Fetcher)) : Worklist → List (FetcherId × Fetcher) → Prop where
  /-- The entries stay as they are, though attempts may end. -/
  | keep {later : List (FetcherId × Fetcher)} (fewer : ∀ attempt ∈ later, attempt ∈ underWay) :
      Moves config now list underWay list later
  /-- An entry is added. -/
  | insert (task : FetchTask) (fetcher : Fetcher) (own : fetcher.task = task) :
      Moves config now list underWay (list.insert task fetcher) underWay
  /-- The entries with a key are removed. -/
  | removeKey (key : TaskKey) : Moves config now list underWay (list.removeKey key) underWay
  /-- Entries are forgotten, and attempts start. -/
  | schedule :
      Moves config now list underWay (list.schedule config now).1
        (underWay ++ (list.schedule config now).2.1)
  /-- The attempt of an entry ends. -/
  | release {later : List (FetcherId × Fetcher)} (attempt : FetcherId × Fetcher)
      (state : SlotState) (begun : attempt ∈ underWay) (active : list.isActive attempt.1 = true)
      (ended : state ≠ .active)
      (own : ∀ fetcher, state = .idle fetcher → fetcher.task = attempt.2.task)
      (fewer : ∀ attempt ∈ later, attempt ∈ underWay) :
      Moves config now list underWay (list.release attempt.1 state) later

namespace Worklist.Moves

variable {config : FetchConfig} {now : Instant} {before after : Worklist}
  {underWay later : List (FetcherId × Fetcher)}

theorem stopped (moves : Moves config now before underWay after later) :
    after.stopped = before.stopped := by
  cases moves <;> rfl

theorem tidy (moves : Moves config now before underWay after later) (tidy : before.Tidy)
    (linked : Linked before underWay) : after.Tidy := by
  cases moves with
  | keep => exact tidy
  | insert task fetcher own => exact tidy_insert tidy own
  | removeKey key => exact tidy_removeKey tidy key
  | schedule => exact tidy_schedule tidy config now
  | release attempt state begun active ended own fewer =>
    refine tidy_release tidy ?_
    intro fetcher moved slot member same
    rw [own fetcher moved]
    exact (linked attempt begun).2 slot member same

theorem linked (moves : Moves config now before underWay after later) (tidy : before.Tidy)
    (linked : Linked before underWay) : Linked after later := by
  cases moves with
  | keep fewer => exact fun attempt member => linked attempt (fewer attempt member)
  | insert task fetcher own => exact linked.insert task fetcher
  | removeKey key => exact linked.narrow (narrows_removeKey before key)
  | schedule => exact linked.schedule tidy config now
  | release attempt state begun active ended own fewer =>
    have left : Linked before later := fun other member => linked other (fewer other member)
    exact left.narrow (narrows_release before attempt.1 state)

end Worklist.Moves

/-- A call that enters to add a task changes nothing but the next step. -/
theorem FetchManager.eq_of_entered {manager later : FetchManager} {resolve : DeviceId → Name}
    {task : FetchTask} (entered : manager.enterEnqueue resolve task = .entered later) :
    later = manager.goOn (.storing task (.direct (resolve task.producer))) := by
  unfold enterEnqueue at entered
  split at entered
  · cases entered
  · split at entered
    · cases entered
    · split at entered <;> cases entered
      rfl

theorem FetchManager.config_advance (manager : FetchManager) (volume : Volume) (now : Instant) :
    (manager.advance volume now).1.config = manager.config := by
  unfold advance
  split
  · rfl
  · rename_i step _
    cases step with
    | dropping key left => cases left <;> rfl
    | storing | inserting | clearing | respanning =>
      simp only [perform]
      split <;> rfl

namespace ManagerScene

variable {scene : ManagerScene} {now : Instant}

/-! ## Events -/

theorem mem_of_mem_without {id : FetcherId} {attempt : FetcherId × Fetcher}
    (member : attempt ∈ scene.without id) : attempt ∈ scene.underWay :=
  (List.mem_filter.mp member).1

/-- The attempt that is meant by a number and a task. -/
theorem attempt_of_isUnderWay {id : FetcherId} {fetcher : Fetcher}
    (begun : scene.isUnderWay id fetcher = true) :
    ∃ attempt ∈ scene.underWay, attempt.1 = id ∧ attempt.2.task = fetcher.task := by
  obtain ⟨attempt, member, facts⟩ := List.any_eq_true.mp begun
  simp only [Bool.and_eq_true, decide_eq_true_eq] at facts
  exact ⟨attempt, member, facts⟩

/-- Every event comes down to one operation of the worklist at most. -/
theorem moves_react (scene : ManagerScene) (now : Instant) (event : ManagerEvent) :
    scene.manager.worklist.Moves scene.manager.config now scene.underWay
      (scene.react now event).manager.worklist (scene.react now event).underWay := by
  have idle : scene.manager.worklist.Moves scene.manager.config now scene.underWay
      scene.manager.worklist scene.underWay := .keep fun _ member => member
  cases event with
  | enqueue resolve task =>
    simp only [react]
    split
    · exact idle
    · split
      · exact idle
      · rename_i manager entered
        rw [FetchManager.eq_of_entered entered]
        exact idle
  | cancel key =>
    simp only [react]
    split
    · exact idle
    · exact .removeKey key
  | advance =>
    rcases scene.manager.worklist_advance scene.volume now with same | ⟨task, fetcher, own, added⟩
    · exact same ▸ idle
    · exact added ▸ .insert task fetcher own
  | look =>
    simp only [react]
    split
    · exact idle
    · exact .schedule
  | complete id fetcher =>
    simp only [react]
    split
    · exact idle
    · rename_i enters
      have begun : scene.isUnderWay id fetcher = true := by
        simp only [Bool.or_eq_true, Bool.not_eq_true', not_or, Bool.not_eq_false] at enters
        exact enters.2
      obtain ⟨attempt, member, rfl, own⟩ := attempt_of_isUnderWay begun
      unfold FetchManager.enterComplete
      split
      · rename_i active
        refine .release attempt _ member active ?_ ?_ fun _ => mem_of_mem_without
        · rintro ⟨⟩
        · rintro other ⟨⟩
      · exact .keep fun _ => mem_of_mem_without
  | fail resolve id fetcher =>
    simp only [react]
    split
    · rename_i begun
      obtain ⟨attempt, member, rfl, own⟩ := attempt_of_isUnderWay begun
      unfold FetchManager.fail
      split
      · rename_i active
        refine .release attempt _ member active ?_ ?_ fun _ => mem_of_mem_without
        · rintro ⟨⟩
        · rintro other ⟨⟩
          exact own.symm
      · exact .keep fun _ => mem_of_mem_without
    · exact idle
  | medium fault => exact idle

theorem config_react (scene : ManagerScene) (now : Instant) (event : ManagerEvent) :
    (scene.react now event).manager.config = scene.manager.config := by
  cases event with
  | enqueue resolve task =>
    simp only [react]
    split
    · rfl
    · split
      · rfl
      · rename_i manager entered
        rw [FetchManager.eq_of_entered entered]
        rfl
  | advance => exact scene.manager.config_advance scene.volume now
  | complete id fetcher =>
    simp only [react, FetchManager.enterComplete]
    split
    · rfl
    · split <;> rfl
  | fail resolve id fetcher =>
    simp only [react, FetchManager.fail]
    split
    · split <;> rfl
    · rfl
  | cancel | look =>
    simp only [react]
    split <;> rfl
  | medium fault => rfl

/-! ## Runs -/

/-- What every event keeps, whether the medium is sound or not. -/
structure Steady (scene : ManagerScene) : Prop where
  tidy : scene.manager.worklist.Tidy
  linked : Linked scene.manager.worklist scene.underWay
  running : scene.manager.worklist.stopped = false

theorem steady_start (config : FetchConfig) (store : MemoryStore) :
    (start config store).Steady where
  tidy := Worklist.tidy_empty
  linked := by simp [Linked, start]
  running := rfl

theorem Steady.react (steady : scene.Steady) (now : Instant) (event : ManagerEvent) :
    (scene.react now event).Steady where
  tidy := (scene.moves_react now event).tidy steady.tidy steady.linked
  linked := (scene.moves_react now event).linked steady.tidy steady.linked
  running := (scene.moves_react now event).stopped.trans steady.running

end ManagerScene

end DigestSync
