import DigestSync.Proofs.Fetch.Stored

set_option autoImplicit false

/-! # What every run of a manager keeps

On a sound medium and before a shutdown, every event leaves the entries tidy, the
attempts linked to their entries, and the stored tasks in agreement with the
unfinished entries.  Hence, whenever nothing has entered, the task stored under a key
is the hull of the unfinished entries with this key, and there is one if and only if
there are such entries.
-/

namespace DigestSync

/-- Attempts have used up numbers, and are for the tasks of the entries with these
numbers. -/
def Linked (list : Worklist) (underWay : List (FetcherId × Fetcher)) : Prop :=
  ∀ attempt ∈ underWay, attempt.1 < list.nextId ∧
    ∀ slot ∈ list.slots, slot.id = attempt.1 → attempt.2.task = slot.task

namespace Linked

variable {before after : Worklist} {underWay : List (FetcherId × Fetcher)}

theorem narrow (linked : Linked before underWay) (narrows : after.Narrows before) :
    Linked after underWay := by
  intro attempt member
  obtain ⟨used, alike⟩ := linked attempt member
  refine ⟨narrows.nextId ▸ used, ?_⟩
  intro slot inside same
  obtain ⟨other, found, id, task⟩ := narrows.slots slot inside
  rw [← task]
  exact alike other found (id.trans same)

theorem filter (linked : Linked before underWay) (keep : FetcherId × Fetcher → Bool) :
    Linked before (underWay.filter keep) := fun attempt member =>
  linked attempt (List.mem_filter.mp member).1

/-- A new entry has a number that no attempt has. -/
theorem insert (linked : Linked before underWay) (task : FetchTask) (fetcher : Fetcher) :
    Linked (before.insert task fetcher) underWay := by
  intro attempt member
  obtain ⟨used, alike⟩ := linked attempt member
  refine ⟨Nat.lt_succ_of_lt used, ?_⟩
  intro slot inside same
  rcases Worklist.mem_insert.mp inside with rfl | old
  · exact absurd same (Nat.ne_of_gt used)
  · exact alike slot old same

/-- The attempts that a look starts are for the tasks of their entries. -/
theorem schedule (linked : Linked before underWay) (tidy : before.Tidy) (config : FetchConfig)
    (now : Instant) :
    Linked (before.schedule config now).1 (underWay ++ (before.schedule config now).2.1) := by
  have narrows := Worklist.narrows_schedule before config now
  intro attempt member
  rcases List.mem_append.mp member with old | new
  · exact linked.narrow narrows attempt old
  · obtain ⟨slot, inside, same, stands⟩ := Worklist.idle_of_mem_schedule new
    constructor
    · rw [narrows.nextId, ← same]
      exact tidy.counted slot inside
    · intro later found equal
      obtain ⟨other, there, id, task⟩ := narrows.slots later found
      have one : other = slot := tidy.eq_of_id there inside (id.trans (equal.trans same.symm))
      rw [← task, one]
      exact tidy.own slot inside attempt.2 stands

end Linked

namespace ManagerScene

/-- What every event keeps on a sound medium. -/
structure Sound (scene : ManagerScene) : Prop where
  tidy : scene.manager.worklist.Tidy
  linked : Linked scene.manager.worklist scene.underWay
  running : scene.manager.worklist.stopped = false
  medium : scene.volume.fault = none
  keyed : scene.volume.store.IsKeyed
  explains : Explains scene.manager.worklist scene.volume.store scene.manager.step

variable {scene : ManagerScene} {now : Instant}

theorem sound_start (config : FetchConfig) {store : MemoryStore} (bare : store.tasks = []) :
    (start config store).Sound where
  tidy := Worklist.tidy_empty
  linked := by simp [Linked, start]
  running := rfl
  medium := rfl
  keyed := by simp [start, Volume.ofStore, MemoryStore.IsKeyed, bare]
  explains := fun key => by
    simp [start, Volume.ofStore, MemoryStore.task?, bare, FetchManager.new, Worklist.liveSpan,
      Worklist.liveTasks, Worklist.empty, Worklist.span]

/-- The entries with the number of an attempt are for the attempt's task. -/
theorem Sound.task_of_isUnderWay (sound : scene.Sound) {id : FetcherId} {fetcher : Fetcher}
    (begun : scene.isUnderWay id fetcher = true) {slot : Slot}
    (member : slot ∈ scene.manager.worklist.slots) (same : slot.id = id) :
    fetcher.task = slot.task := by
  obtain ⟨attempt, inside, facts⟩ := List.any_eq_true.mp begun
  simp only [Bool.and_eq_true, decide_eq_true_eq] at facts
  rw [← facts.2]
  exact (sound.linked attempt inside).2 slot member (same.trans facts.1.symm)

/-! ## Events -/

theorem sound_enqueue (sound : scene.Sound) (resolve : DeviceId → Name) (task : FetchTask) :
    (scene.react now (.enqueue resolve task)).Sound := by
  simp only [react]
  split
  · exact sound
  · rename_i free
    have free : scene.manager.step = none := by simpa [isTaken] using free
    have before := sound.explains
    rw [free] at before
    unfold FetchManager.enterEnqueue
    split
    · exact sound
    · rename_i manager entered
      split at entered
      · cases entered
      · rw [sound.running] at entered
        simp only [Bool.false_eq_true, if_false] at entered
        split at entered <;> cases entered
        exact ⟨sound.tidy, sound.linked, sound.running, sound.medium, sound.keyed, before⟩

theorem sound_cancel (sound : scene.Sound) (key : TaskKey) :
    (scene.react now (.cancel key)).Sound := by
  simp only [react]
  split
  · exact sound
  · rename_i free
    have free : scene.manager.step = none := by simpa [isTaken] using free
    have before := sound.explains
    rw [free] at before
    refine ⟨Worklist.tidy_removeKey sound.tidy key,
      sound.linked.narrow (Worklist.narrows_removeKey _ key), sound.running, sound.medium,
      sound.keyed, ?_, ?_⟩
    · rw [Worklist.liveSpan, FetchManager.enterCancel, Worklist.liveTasks_removeKey_self]
      rfl
    · intro other away
      rw [Worklist.liveSpan, FetchManager.enterCancel, Worklist.liveTasks_removeKey_of_ne away]
      exact before other

theorem sound_advance (sound : scene.Sound) : (scene.react now .advance).Sound := by
  have worklist := scene.manager.worklist_advance scene.volume now
  have volume : (scene.react now .advance).volume = scene.volume ∨
      (∃ task, (scene.react now .advance).volume =
        { scene.volume with store := (scene.volume.store.mergeTask task).2 }) ∨
      ∃ key, (scene.react now .advance).volume =
        { scene.volume with store := (scene.volume.store.deleteTask key).2 } :=
    scene.manager.volume_advance scene.volume now
  constructor
  case tidy =>
    rcases worklist with same | ⟨task, fetcher, own, added⟩
    · exact same ▸ sound.tidy
    · exact added ▸ Worklist.tidy_insert sound.tidy own
  case linked =>
    rcases worklist with same | ⟨task, fetcher, -, added⟩
    · exact same ▸ sound.linked
    · exact added ▸ sound.linked.insert task fetcher
  case running =>
    rcases worklist with same | ⟨task, fetcher, -, added⟩
    · exact same ▸ sound.running
    · exact added ▸ sound.running
  case medium =>
    rcases volume with same | ⟨task, merged⟩ | ⟨key, deleted⟩
    · exact same ▸ sound.medium
    · exact merged ▸ sound.medium
    · exact deleted ▸ sound.medium
  case keyed =>
    rcases volume with same | ⟨task, merged⟩ | ⟨key, deleted⟩
    · exact same ▸ sound.keyed
    · exact merged ▸ MemoryStore.isKeyed_mergeTask sound.keyed task
    · exact deleted ▸ MemoryStore.isKeyed_deleteTask sound.keyed key
  case explains =>
    exact FetchManager.explains_advance sound.medium sound.running sound.explains

theorem sound_look (sound : scene.Sound) : (scene.react now .look).Sound := by
  simp only [react]
  split
  · exact sound
  · exact ⟨Worklist.tidy_schedule sound.tidy _ now,
      sound.linked.schedule sound.tidy _ now, sound.running, sound.medium, sound.keyed,
      sound.explains.congr fun key => Worklist.liveTasks_schedule _ _ now key⟩

theorem sound_complete (sound : scene.Sound) (id : FetcherId) (fetcher : Fetcher) :
    (scene.react now (.complete id fetcher)).Sound := by
  simp only [react]
  split
  · exact sound
  · rename_i enters
    simp only [Bool.or_eq_true, Bool.not_eq_true', not_or, Bool.not_eq_false, isTaken,
      Bool.not_eq_true, Option.isSome_eq_false_iff, Option.isNone_iff_eq_none] at enters
    obtain ⟨free, begun⟩ := enters
    have before := sound.explains
    rw [free] at before
    have left : Linked scene.manager.worklist (scene.without id) := sound.linked.filter _
    unfold FetchManager.enterComplete
    split
    · refine ⟨Worklist.tidy_release sound.tidy ?_, left.narrow (Worklist.narrows_release _ _ _),
        sound.running, sound.medium, sound.keyed, rfl, ?_⟩
      · intro other stands
        cases stands
      · intro key away
        have kept : (scene.manager.worklist.release id
            (.finished (now + scene.manager.config.timedWait))).liveTasks key =
              scene.manager.worklist.liveTasks key := by
          refine Worklist.liveTasks_release ?_
          intro slot member same
          have task := sound.task_of_isUnderWay begun member same
          simp [Worklist.view, ← task, away.symm]
        rw [Worklist.liveSpan, kept]
        exact before key
    · exact ⟨sound.tidy, left, sound.running, sound.medium, sound.keyed, sound.explains⟩

theorem sound_fail (sound : scene.Sound) (resolve : DeviceId → Name) (id : FetcherId)
    (fetcher : Fetcher) : (scene.react now (.fail resolve id fetcher)).Sound := by
  simp only [react]
  split
  · rename_i begun
    have left : Linked scene.manager.worklist (scene.without id) := sound.linked.filter _
    unfold FetchManager.fail
    split
    · rename_i active
      refine ⟨Worklist.tidy_release sound.tidy ?_, left.narrow (Worklist.narrows_release _ _ _),
        sound.running, sound.medium, sound.keyed,
        sound.explains.congr fun key => Worklist.liveTasks_retry sound.tidy active _ key⟩
      intro other moved slot member same
      cases moved
      exact sound.task_of_isUnderWay begun member same
    · exact ⟨sound.tidy, left, sound.running, sound.medium, sound.keyed, sound.explains⟩
  · exact sound

theorem sound_react (sound : scene.Sound) {event : ManagerEvent} (allowed : event.IsSound) :
    (scene.react now event).Sound := by
  cases event with
  | enqueue resolve task => exact sound_enqueue sound resolve task
  | cancel key => exact sound_cancel sound key
  | advance => exact sound_advance sound
  | look => exact sound_look sound
  | complete id fetcher => exact sound_complete sound id fetcher
  | fail resolve id fetcher => exact sound_fail sound resolve id fetcher
  | medium fault =>
    cases fault with
    | none => exact ⟨sound.tidy, sound.linked, sound.running, rfl, sound.keyed, sound.explains⟩
    | some broken => cases allowed

/-- What each of some events keeps is kept when they happen one after another. -/
theorem run_induction {motive : ManagerScene → Prop} {events : List (Instant × ManagerEvent)}
    (keeps : ∀ event ∈ events, ∀ scene : ManagerScene,
      motive scene → motive (scene.react event.1 event.2)) (begun : motive scene) :
    motive (scene.run events) := by
  induction events generalizing scene with
  | nil => exact begun
  | cons event rest ih =>
    obtain ⟨first, others⟩ := List.forall_mem_cons.mp keeps
    exact ih others (first scene begun)

theorem sound_run (sound : scene.Sound) {events : List (Instant × ManagerEvent)}
    (allowed : ∀ event ∈ events, event.2.IsSound) : (scene.run events).Sound :=
  run_induction (fun event member _ sound => sound_react sound (allowed event member)) sound

/-! ## The stored tasks -/

theorem Sound.stored_iff_live (sound : scene.Sound) (free : scene.manager.step = none)
    (key : TaskKey) :
    (∃ row ∈ scene.volume.store.listTasks, row.key = key) ↔
      ∃ slot ∈ scene.manager.worklist.slots, slot.isLive = true ∧ slot.task.key = key := by
  have agrees := sound.explains
  rw [free] at agrees
  constructor
  · rintro ⟨row, stored, rfl⟩
    have span := (sound.keyed.mem_tasks_iff.mp stored).symm.trans (agrees row.key)
    obtain ⟨task, member, -⟩ := (Worklist.isHull_span span.symm).lowest
    obtain ⟨slot, inside, live, -⟩ := Worklist.mem_liveTasks.mp member
    exact ⟨slot, inside, live⟩
  · rintro ⟨slot, inside, live⟩
    have member := Worklist.mem_liveTasks.mpr ⟨slot, inside, live, rfl⟩
    cases span : scene.manager.worklist.liveSpan key with
    | none =>
      rw [(Worklist.span_eq_none_iff _).mp span] at member
      cases member
    | some row =>
      have stored := (agrees key).trans span
      exact ⟨row, MemoryStore.mem_of_task? stored, MemoryStore.key_of_task? stored⟩

theorem Sound.isHull_of_stored (sound : scene.Sound) (free : scene.manager.step = none)
    {row : FetchTask} (stored : row ∈ scene.volume.store.listTasks) :
    row.IsHull (scene.manager.worklist.liveTasks row.key) := by
  have agrees := sound.explains
  rw [free] at agrees
  exact Worklist.isHull_span ((sound.keyed.mem_tasks_iff.mp stored).symm.trans (agrees row.key)).symm

/-- In every run on a sound medium from a store without tasks, whenever nothing has
entered: no two stored tasks share a key, one is stored under a key if and only if an
unfinished entry has this key, and it is the hull of all unfinished entries with the
key. -/
theorem stored_tasks_are_live_hulls (config : FetchConfig) (store : MemoryStore)
    (bare : store.tasks = []) {events : List (Instant × ManagerEvent)}
    (allowed : ∀ event ∈ events, event.2.IsSound)
    (free : ((start config store).run events).manager.step = none) :
    let scene := (start config store).run events
    (scene.volume.store.listTasks.map FetchTask.key).Nodup ∧
      ∀ key : TaskKey,
        ((∃ row ∈ scene.volume.store.listTasks, row.key = key) ↔
          ∃ slot ∈ scene.manager.worklist.slots, slot.isLive = true ∧ slot.task.key = key) ∧
        ∀ row ∈ scene.volume.store.listTasks, row.key = key →
          row.IsHull (scene.manager.worklist.liveTasks key) := by
  intro scene
  have sound : scene.Sound := sound_run (sound_start config bare) allowed
  refine ⟨sound.keyed, fun key => ⟨sound.stored_iff_live free key, ?_⟩⟩
  rintro row stored rfl
  exact sound.isHull_of_stored free stored

/-- A range of a producer, and one that overlaps it and is urgent. -/
def overlap : FetchTask × FetchTask :=
  (⟨⟨.ofTexts ["p"]⟩, .ofTexts ["a"], 1, 5, .normal⟩,
    ⟨⟨.ofTexts ["p"]⟩, .ofTexts ["a"], 3, 9, .high⟩)

/-- Both ranges are taken up, and the first is completed. -/
def overlapEvents : List (Instant × ManagerEvent) :=
  [(0, .enqueue (fun _ => Name.empty) overlap.1), (0, .advance), (0, .advance), (1, .look),
    (2, .enqueue (fun _ => Name.empty) overlap.2), (2, .advance), (3, .advance), (4, .look),
    (5, .complete 0 (.start overlap.1 .broadcast 0 0)), (5, .advance), (6, .look),
    (6, .advance)]

/-- After the first of two overlapping ranges is completed, the second one is stored
alone. -/
theorem stored_tasks_are_live_hulls_overlap :
    ((start .standard .empty).run overlapEvents).volume.store.listTasks = [overlap.2] ∧
      overlap.2.IsHull
        (((start .standard .empty).run overlapEvents).manager.worklist.liveTasks overlap.1.key) := by
  have free : ((start .standard .empty).run overlapEvents).manager.step = none := by
    decide +kernel
  have rows : ((start .standard .empty).run overlapEvents).volume.store.listTasks =
      [overlap.2] := by decide +kernel
  have allowed : ∀ event ∈ overlapEvents, event.2.IsSound := by
    simp [overlapEvents, ManagerEvent.IsSound]
  obtain ⟨-, hulls⟩ := stored_tasks_are_live_hulls .standard .empty rfl allowed free
  obtain ⟨-, hull⟩ := hulls overlap.1.key
  exact ⟨rows, hull overlap.2 (by rw [rows]; exact List.mem_singleton_self _) rfl⟩

end ManagerScene

end DigestSync
