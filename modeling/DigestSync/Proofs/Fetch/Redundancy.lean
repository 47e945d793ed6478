import DigestSync.Proofs.Fetch.Calls

set_option autoImplicit false

/-! # No entry is redundant

A range is added only if no earlier entry with its key covers it.  This is checked as the
call enters, and the entry is added some steps later.  In between nothing else can add an
entry, for it would have to enter, and no other event gives an entry another range.  So what
was checked still holds by then.
-/

namespace DigestSync

open scoped SeqOrder

namespace FetchTask

variable {task other : FetchTask}

/-- A range with numbers that is not between the ends of another holds a number that the other
does not hold. -/
theorem exists_contains_of_not_spans (solid : other.isEmpty = false)
    (beyond : task.spans other = false) :
    ∃ seq, other.contains seq = true ∧ task.contains seq = false := by
  have filled : other.minSeq ≤ other.maxSeq := by simpa [isEmpty] using solid
  have beyond : ¬(task.minSeq ≤ other.minSeq ∧ other.maxSeq ≤ task.maxSeq) := by
    rw [← spans_iff, beyond]
    exact Bool.false_ne_true
  rcases not_and_or.mp beyond with below | above
  · refine ⟨other.minSeq, (contains_iff _ _).mpr ⟨le_refl _, filled⟩, Bool.eq_false_iff.mpr ?_⟩
    exact fun held => below ((contains_iff _ _).mp held).1
  · refine ⟨other.maxSeq, (contains_iff _ _).mpr ⟨filled, le_refl _⟩, Bool.eq_false_iff.mpr ?_⟩
    exact fun held => above ((contains_iff _ _).mp held).2

end FetchTask

/-! ## Worklists -/

namespace Worklist

variable {before after list : Worklist} {task : FetchTask} {step : Option PersistStep}

/-- No entry covers the range of a later one with its key, and every range holds a number. -/
structure Sparse (list : Worklist) : Prop where
  apart : ∀ first ∈ list.slots, ∀ second ∈ list.slots, first.task.key = second.task.key →
    first.id < second.id → first.task.spans second.task = false
  solid : ∀ slot ∈ list.slots, slot.task.isEmpty = false

/-- A task that is about to be added has a range with a number, which no entry covers. -/
def Lacks (list : Worklist) : Option PersistStep → Prop
  | some (.storing task _) | some (.inserting task _) =>
    task.isEmpty = false ∧ list.covers task = false
  | some (.clearing _ _) | some (.dropping _ _) | some (.respanning _) | none => True

theorem covers_eq_false_iff : list.covers task = false ↔
    ∀ slot ∈ list.slots, slot.task.key = task.key → slot.task.spans task = false := by
  simp only [covers, Slot.covers, List.any_eq_false, Bool.and_eq_true, decide_eq_true_eq, not_and,
    Bool.not_eq_true]

theorem exists_spans_of_covers (covered : list.covers task = true) :
    ∃ slot ∈ list.slots, slot.task.key = task.key ∧ slot.task.spans task = true := by
  obtain ⟨slot, member, facts⟩ := List.any_eq_true.mp covered
  simp only [Slot.covers, Bool.and_eq_true, decide_eq_true_eq] at facts
  exact ⟨slot, member, facts⟩

theorem Narrows.refl (list : Worklist) : Narrows list list where
  order := List.Sublist.refl _
  nextId := rfl
  slots := fun slot member => ⟨slot, member, rfl, rfl⟩

theorem Sparse.narrow (sparse : before.Sparse) (narrows : after.Narrows before) :
    after.Sparse where
  apart := by
    intro first here second there same earlier
    obtain ⟨one, inOne, id, task⟩ := narrows.slots first here
    obtain ⟨two, inTwo, other, range⟩ := narrows.slots second there
    rw [← task, ← range]
    exact sparse.apart one inOne two inTwo (by rw [task, range, same]) (by rwa [id, other])
  solid := by
    intro slot member
    obtain ⟨other, inside, -, task⟩ := narrows.slots slot member
    rw [← task]
    exact sparse.solid other inside

theorem Lacks.narrow (lacks : before.Lacks step) (narrows : after.Narrows before) :
    after.Lacks step := by
  have still : ∀ {task : FetchTask}, before.covers task = false → after.covers task = false := by
    intro task uncovered
    refine covers_eq_false_iff.mpr fun slot member same => ?_
    obtain ⟨other, inside, -, range⟩ := narrows.slots slot member
    rw [← range] at same ⊢
    exact covers_eq_false_iff.mp uncovered other inside same
  rcases step with _ | step
  · trivial
  · cases step with
    | storing | inserting => exact ⟨lacks.1, still lacks.2⟩
    | clearing | dropping | respanning => trivial

/-- An entry is added without redundancy if its range is covered by none. -/
theorem Sparse.insert (sparse : list.Sparse) (tidy : list.Tidy) (solid : task.isEmpty = false)
    (uncovered : list.covers task = false) (fetcher : Fetcher) :
    (list.insert task fetcher).Sparse where
  apart := by
    intro first here second there same earlier
    rcases mem_insert.mp there with rfl | old
    · rcases mem_insert.mp here with rfl | older
      · exact absurd earlier (Nat.lt_irrefl _)
      · exact covers_eq_false_iff.mp uncovered first older same
    · rcases mem_insert.mp here with rfl | older
      · exact absurd (tidy.counted second old) (Nat.lt_asymm earlier)
      · exact sparse.apart first older second old same earlier
  solid := by
    intro slot member
    rcases mem_insert.mp member with rfl | old
    · exact solid
    · exact sparse.solid slot old

theorem perm_insert (list : Worklist) (task : FetchTask) (fetcher : Fetcher) :
    (list.insert task fetcher).slots.Perm (⟨list.nextId, task, .idle fetcher⟩ :: list.slots) := by
  cases urgent : task.priority with
  | high => simp [insert, urgent]
  | normal =>
    simp only [insert, urgent]
    exact List.perm_append_singleton _ _

end Worklist

/-! ## Steps of a manager -/

namespace FetchManager

variable {manager later : FetchManager} {resolve : DeviceId → Name} {task : FetchTask}

/-- What enters to be added is covered by no entry. -/
theorem lacks_of_entered (entered : manager.enterEnqueue resolve task = .entered later) :
    later.worklist = manager.worklist ∧ later.worklist.Lacks later.step := by
  have stored := eq_of_entered entered
  unfold enterEnqueue at entered
  split at entered
  · cases entered
  · rename_i solid
    split at entered
    · cases entered
    · split at entered
      · cases entered
      · rename_i uncovered
        rw [stored]
        exact ⟨rfl, Bool.eq_false_iff.mpr solid, Bool.eq_false_iff.mpr uncovered⟩

/-- A range with numbers is turned down without a fault only if an entry covers it. -/
theorem covers_of_turned_down (solid : task.isEmpty = false)
    (answered : manager.enterEnqueue resolve task = .answered (.ok false)) :
    manager.worklist.covers task = true := by
  simp only [enterEnqueue, solid, Bool.false_eq_true, if_false] at answered
  split at answered
  · cases answered
  · split at answered
    · assumption
    · cases answered

/-- As it enters, no call to add a task is told that the task was added. -/
theorem enterEnqueue_ne_added : manager.enterEnqueue resolve task ≠ .answered (.ok true) := by
  unfold enterEnqueue
  split
  · simp
  · split
    · simp
    · split <;> simp

/-- A step leaves the worklist alone or adds what it lacks. -/
theorem lacks_advance (volume : Volume) (now : Instant)
    (lacks : manager.worklist.Lacks manager.step) :
    let after := (manager.advance volume now).1
    after.worklist.Lacks after.step ∧
      (after.worklist = manager.worklist ∨
        ∃ task fetcher, task.isEmpty = false ∧ manager.worklist.covers task = false ∧
          after.worklist = manager.worklist.insert task fetcher) := by
  unfold advance
  cases entered : manager.step with
  | none => exact ⟨by rw [entered]; trivial, Or.inl rfl⟩
  | some step =>
    rw [entered] at lacks
    cases step with
    | storing task hint =>
      simp only [perform]
      split
      · exact ⟨trivial, Or.inl rfl⟩
      · exact ⟨lacks, Or.inl rfl⟩
    | inserting task hint =>
      simp only [perform]
      split
      · exact ⟨trivial, Or.inl rfl⟩
      · exact ⟨trivial, Or.inr ⟨task, _, lacks.1, lacks.2, rfl⟩⟩
    | clearing key removed =>
      simp only [perform]
      split <;> exact ⟨trivial, Or.inl rfl⟩
    | dropping key left =>
      cases left <;> exact ⟨trivial, Or.inl rfl⟩
    | respanning left =>
      simp only [perform]
      split <;> exact ⟨trivial, Or.inl rfl⟩

end FetchManager

/-! ## Runs -/

namespace ManagerScene

variable {scene : ManagerScene} {event : ManagerEvent}

/-- An event other than a step adds no entry, and what enters by it is covered by none. -/
theorem narrows_react (now : Instant)
    (lacks : scene.manager.worklist.Lacks scene.manager.step)
    (still : event ≠ .advance) :
    (scene.react now event).manager.worklist.Narrows scene.manager.worklist ∧
      (scene.react now event).manager.worklist.Lacks (scene.react now event).manager.step := by
  have idle : scene.manager.worklist.Narrows scene.manager.worklist ∧
      scene.manager.worklist.Lacks scene.manager.step := ⟨.refl _, lacks⟩
  cases event with
  | advance => exact absurd rfl still
  | enqueue resolve task =>
    simp only [react]
    split
    · exact idle
    · split
      · exact idle
      · rename_i manager entered
        obtain ⟨same, lacking⟩ := FetchManager.lacks_of_entered entered
        exact ⟨same ▸ .refl _, lacking⟩
  | cancel key =>
    simp only [react]
    split
    · exact idle
    · exact ⟨Worklist.narrows_removeKey _ key, trivial⟩
  | look =>
    simp only [react]
    split
    · exact idle
    · have narrows := Worklist.narrows_schedule scene.manager.worklist scene.manager.config now
      exact ⟨narrows, lacks.narrow narrows⟩
  | complete id fetcher =>
    simp only [react, FetchManager.enterComplete]
    split
    · exact idle
    · split
      · exact ⟨Worklist.narrows_release _ _ _, trivial⟩
      · exact idle
  | fail resolve id fetcher =>
    simp only [react, FetchManager.fail]
    split
    · split
      · have narrows := Worklist.narrows_release scene.manager.worklist id
          (.idle (fetcher.failAttempt resolve now))
        exact ⟨narrows, lacks.narrow narrows⟩
      · exact idle
    · exact idle
  | medium fault => exact idle

/-- What every event keeps: no entry is redundant, nor is the one that is about to be added. -/
structure Irredundant (scene : ManagerScene) : Prop extends Steady scene where
  sparse : scene.manager.worklist.Sparse
  lacks : scene.manager.worklist.Lacks scene.manager.step

theorem irredundant_start (config : FetchConfig) (store : MemoryStore) :
    (start config store).Irredundant where
  toSteady := steady_start config store
  sparse := ⟨nofun, nofun⟩
  lacks := trivial

theorem Irredundant.react (irredundant : scene.Irredundant) (now : Instant)
    (event : ManagerEvent) : (scene.react now event).Irredundant := by
  have steady := irredundant.toSteady.react now event
  by_cases still : event = .advance
  · subst still
    obtain ⟨lacks, same | ⟨task, fetcher, solid, uncovered, added⟩⟩ :=
      FetchManager.lacks_advance scene.volume now irredundant.lacks
    · exact ⟨steady, same ▸ irredundant.sparse, lacks⟩
    · exact ⟨steady, added ▸ irredundant.sparse.insert irredundant.tidy solid uncovered fetcher,
        lacks⟩
  · obtain ⟨narrows, lacks⟩ := narrows_react now irredundant.lacks still
    exact ⟨steady, irredundant.sparse.narrow narrows, lacks⟩

theorem Irredundant.run (irredundant : scene.Irredundant)
    (events : List (Instant × ManagerEvent)) : (scene.run events).Irredundant :=
  run_induction (fun event _ _ irredundant => irredundant.react event.1 event.2) irredundant

/-! ## Calls -/

/-- A range with numbers is turned down without a fault as soon as the call enters, because an
entry covers it. -/
theorem Enqueues.turned_down {resolve : DeviceId → Name} {task : FetchTask}
    {course : List (Instant × ManagerEvent)}
    (enqueues : scene.Enqueues resolve task course (.ok false)) (solid : task.isEmpty = false) :
    scene.manager.worklist.covers task = true ∧ scene.run course = scene := by
  cases enqueues with
  | @atOnce now _ free answered =>
    exact ⟨FetchManager.covers_of_turned_down solid answered,
      react_enqueue_of_answered now free answered⟩
  | later free entered leaves =>
    rw [react_enqueue _ free entered] at leaves
    obtain ⟨fault, refused, -⟩ | stopped | ⟨added, -⟩ :=
      leaves.of_storing rfl (alongside_goOn scene _)
    · cases refused
    · cases stopped
    · cases added

/-- A call that is told that its task was added has added it, to what the worklist would be
without the call. -/
theorem Enqueues.added {resolve : DeviceId → Name} {task : FetchTask}
    {course : List (Instant × ManagerEvent)}
    (enqueues : scene.Enqueues resolve task course (.ok true)) :
    ∃ fetcher, (scene.run course).manager.worklist =
      (scene.run (bystanders course)).manager.worklist.insert task fetcher := by
  cases enqueues with
  | atOnce free answered => exact absurd answered FetchManager.enterEnqueue_ne_added
  | later free entered leaves =>
    rw [react_enqueue _ free entered] at leaves
    obtain ⟨fault, refused, -⟩ | stopped | ⟨-, added⟩ :=
      leaves.of_storing rfl (alongside_goOn scene _)
    · cases refused
    · cases stopped
    · rw [run_bystanders_cons, run, List.foldl_cons, react_enqueue _ free entered]
      exact added

/-- In every run of a manager before a shutdown, on a medium of any kind: of two entries with
the same key, the later one's range holds a number that the earlier one's does not hold.  A
call to add a range with numbers that is answered no found an entry with its key whose range
holds all these numbers, and changed nothing.  One that is answered yes has added one entry,
with just this task and with a number of its own, to what the worklist would be without the
call. -/
theorem entries_irredundant (config : FetchConfig) (store : MemoryStore)
    (events : List (Instant × ManagerEvent)) :
    let scene := (start config store).run events
    (∀ first ∈ scene.manager.worklist.slots, ∀ second ∈ scene.manager.worklist.slots,
        first.task.key = second.task.key → first.id < second.id →
        ∃ seq, second.task.contains seq = true ∧ first.task.contains seq = false) ∧
      (∀ resolve task course, scene.Enqueues resolve task course (.ok false) →
        task.isEmpty = false →
        (∃ slot ∈ scene.manager.worklist.slots, slot.task.key = task.key ∧
          ∀ seq, task.contains seq = true → slot.task.contains seq = true) ∧
        scene.run course = scene) ∧
      ∀ resolve task course, scene.Enqueues resolve task course (.ok true) →
        ∃ slot : Slot, slot.task = task ∧
          (∀ other ∈ (scene.run (bystanders course)).manager.worklist.slots, other.id < slot.id) ∧
          (scene.run course).manager.worklist.slots.Perm
            (slot :: (scene.run (bystanders course)).manager.worklist.slots) := by
  intro scene
  have irredundant : scene.Irredundant := (irredundant_start config store).run events
  refine ⟨?_, ?_, ?_⟩
  · intro first here second there same earlier
    exact FetchTask.exists_contains_of_not_spans (irredundant.sparse.solid second there)
      (irredundant.sparse.apart first here second there same earlier)
  · intro resolve task course enqueues solid
    obtain ⟨covered, same⟩ := enqueues.turned_down solid
    obtain ⟨slot, member, key, spanned⟩ := Worklist.exists_spans_of_covers covered
    exact ⟨⟨slot, member, key, fun seq held => FetchTask.contains_of_spans spanned held⟩, same⟩
  · intro resolve task course enqueues
    obtain ⟨fetcher, added⟩ := enqueues.added
    have beside := (irredundant.run (bystanders course)).tidy
    refine ⟨⟨_, task, .idle fetcher⟩, rfl, beside.counted, ?_⟩
    rw [added]
    exact Worklist.perm_insert _ task fetcher

/-- A range and one that overlaps it are taken up. -/
def overlappingEvents : List (Instant × ManagerEvent) :=
  [(0, .enqueue (fun _ => Name.empty) overlap.1), (0, .advance), (1, .look), (2, .advance),
    (3, .enqueue (fun _ => Name.empty) overlap.2), (3, .advance), (3, .advance), (4, .look)]

/-- A part of the first range. -/
def part : FetchTask := { overlap.1 with maxSeq := 4 }

/-- A range that reaches farther than both. -/
def farther : FetchTask := { overlap.2 with maxSeq := 12 }

/-- The first of two overlapping ranges does not hold all of the second; a part of it is turned
down at once; and one that reaches farther is added, with a look and another call in
between. -/
theorem entries_irredundant_overlapping :
    let scene := (start .standard .empty).run overlappingEvents
    (∃ seq, overlap.2.contains seq = true ∧ overlap.1.contains seq = false) ∧
      scene.run [(5, .enqueue (fun _ => Name.empty) part)] = scene ∧
      ∃ slot : Slot, slot.task = farther ∧
        (scene.run [(5, .enqueue (fun _ => Name.empty) farther), (5, .look),
            (6, .enqueue (fun _ => Name.empty) farther), (7, .advance), (7, .look),
            (8, .advance)]).manager.worklist.slots.Perm
          (slot :: (scene.run [(5, .look), (7, .look)]).manager.worklist.slots) := by
  intro scene
  obtain ⟨apart, turnedDown, added⟩ := entries_irredundant .standard .empty overlappingEvents
  have slots : scene.manager.worklist.slots =
      [⟨1, overlap.2, .active⟩, ⟨0, overlap.1, .active⟩] := by decide +kernel
  refine ⟨?_, ?_, ?_⟩
  · exact apart ⟨0, overlap.1, .active⟩ (by rw [slots]; simp) ⟨1, overlap.2, .active⟩
      (by rw [slots]; simp) rfl Nat.zero_lt_one
  · have turned : scene.Enqueues (fun _ => Name.empty) part
        [(5, .enqueue (fun _ => Name.empty) part)] (.ok false) :=
      .atOnce (by decide +kernel) (by rfl)
    exact (turnedDown _ _ _ turned rfl).2
  · have goes : scene.Enqueues (fun _ => Name.empty) farther
        [(5, .enqueue (fun _ => Name.empty) farther), (5, .look),
          (6, .enqueue (fun _ => Name.empty) farther), (7, .advance), (7, .look),
          (8, .advance)] (.ok true) :=
      .later (by decide +kernel) rfl (.other (by simp) (.other (by simp)
        (.step (by decide +kernel) (.other (by simp) (.last (by decide +kernel))))))
    obtain ⟨slot, own, -, all⟩ := added _ _ _ goes
    exact ⟨slot, own, all⟩

end ManagerScene

end DigestSync
