import DigestSync.Proofs.Fetch.Interleaving
import DigestSync.Proofs.Node.Applied

set_option autoImplicit false

/-! # Honest entries

A waiting entry has an honest fetcher, and all of a finished one is in the log.  Before a
shutdown every step of the manager keeps this.  A task that enters is on its way into the
worklist, unless an entry covers it: then each of its records is in the log, or the entry
is still unfinished.  Records leave the unfinished entries only when they are in the log.
-/

namespace DigestSync

open scoped SeqOrder

variable {log later : ActionLog}

/-- A waiting entry has an honest fetcher, and all of a finished one is in the log. -/
structure Slot.Honest (log : ActionLog) (slot : Slot) : Prop where
  idle : ∀ fetcher, slot.state = .idle fetcher → fetcher.Honest log
  finished : ∀ expiry, slot.state = .finished expiry → ∀ seq, slot.task.contains seq = true →
    log.HasApplied slot.task.producer seq

theorem Slot.Honest.mono {slot : Slot} (honest : slot.Honest log)
    (grown : ∀ producer seq, log.HasApplied producer seq → later.HasApplied producer seq) :
    slot.Honest later where
  idle fetcher stands := (honest.idle fetcher stands).mono grown
  finished expiry stands seq inside := grown _ _ (honest.finished expiry stands seq inside)

namespace Worklist

variable {list : Worklist} {key : TaskKey} {task : FetchTask} {id : FetcherId} {state : SlotState}

theorem mem_liveTasks_of_mem {slot : Slot} (member : slot ∈ list.slots) (live : slot.isLive = true) :
    slot.task ∈ list.liveTasks slot.task.key := mem_liveTasks.mpr ⟨slot, member, ⟨live, rfl⟩, rfl⟩

/-- When an entry is moved, all unfinished tasks stay but perhaps its own. -/
theorem mem_liveTasks_release (member : task ∈ list.liveTasks key) :
    (∃ slot ∈ list.slots, slot.id = id ∧ slot.task = task) ∨
      task ∈ (list.release id state).liveTasks key := by
  obtain ⟨slot, inside, facts, same⟩ := mem_liveTasks.mp member
  by_cases here : slot.id = id
  · exact Or.inl ⟨slot, inside, here, same⟩
  · have stays : slot ∈ (list.release id state).slots :=
      List.mem_map.mpr ⟨slot, inside, if_neg here⟩
    exact Or.inr (mem_liveTasks.mpr ⟨slot, stays, facts, same⟩)

end Worklist

/-- What a volume knows of devices and states stays, and so does the fault of its medium. -/
structure Volume.KeepsLog (before after : Volume) : Prop where
  state : after.store.currentState = before.store.currentState
  digests : after.store.digests = before.store.digests
  fault : after.fault = before.fault

theorem Volume.KeepsLog.trans {first second third : Volume} (early : first.KeepsLog second)
    (late : second.KeepsLog third) : first.KeepsLog third :=
  ⟨late.state.trans early.state, late.digests.trans early.digests, late.fault.trans early.fault⟩

theorem Volume.eq_ofStore {volume : Volume} (sound : volume.fault = none) :
    volume = .ofStore volume.store := by
  cases volume
  cases sound
  rfl

namespace FetchManager

variable {manager : FetchManager} {volume : Volume} {now : Instant} {key : TaskKey}
  {task : FetchTask}

/-- The task that is on its way into the worklist. -/
def adding (manager : FetchManager) : Option FetchTask :=
  match manager.step with
  | some (.storing task _) => some task
  | some (.inserting task _) => some task
  | _ => none

/-- No entry is refused, all entries are honest, and no task that is on its way ends at the
highest number. -/
structure Honest (log : ActionLog) (manager : FetchManager) : Prop where
  running : manager.worklist.stopped = false
  tidy : manager.worklist.Tidy
  slots : ∀ slot ∈ manager.worklist.slots, slot.Honest log
  adding : ∀ task ∈ manager.adding, task.maxSeq.toNat + 1 < 2 ^ 64

theorem Honest.mono (honest : manager.Honest log)
    (grown : ∀ producer seq, log.HasApplied producer seq → later.HasApplied producer seq) :
    manager.Honest later :=
  { honest with slots := fun slot member => (honest.slots slot member).mono grown }

/-! ## Entering -/

/-- What is covered is in the log or being fetched. -/
theorem Honest.of_covers (honest : manager.Honest log)
    (covered : task.isEmpty = true ∨ manager.worklist.covers task = true) {seq : Seq}
    (inside : task.contains seq = true) :
    log.HasApplied task.producer seq ∨
      ∃ other ∈ manager.worklist.liveTasks task.key, other.contains seq = true := by
  obtain ⟨above, upto⟩ := (task.contains_iff seq).mp inside
  rcases covered with empty | covered
  · have none : task.maxSeq < task.minSeq := of_decide_eq_true empty
    exact absurd (above.trans upto) (not_le.mpr none)
  · obtain ⟨slot, member, covers⟩ := List.any_eq_true.mp covered
    simp only [Slot.covers, FetchTask.spans, Bool.and_eq_true, decide_eq_true_eq] at covers
    obtain ⟨same, first, last⟩ := covers
    have within : slot.task.contains seq = true :=
      (slot.task.contains_iff seq).mpr ⟨first.trans above, upto.trans last⟩
    have producer : slot.task.producer = task.producer := congrArg TaskKey.producer same
    -- A finished entry covers a task as well, but then all of it has arrived.
    cases live : slot.isLive with
    | true => exact Or.inr ⟨slot.task, same ▸ Worklist.mem_liveTasks_of_mem member live, within⟩
    | false =>
      have stands : ∃ expiry, slot.state = .finished expiry := by
        unfold Slot.isLive at live
        split at live
        · exact ⟨_, ‹_›⟩
        · cases live
      obtain ⟨expiry, stands⟩ := stands
      exact Or.inl (producer ▸ (honest.slots slot member).finished expiry stands seq within)

theorem Honest.enter (honest : manager.Honest log) (low : task.maxSeq.toNat + 1 < 2 ^ 64)
    (hint : ForwardingHint) : (manager.goOn (.storing task hint)).Honest log :=
  { honest with adding := fun other member => by cases member; exact low }

/-! ## Advancing -/

/-- A step keeps a task on its way, or adds it, or there is none. -/
theorem advance_cases (running : manager.worklist.stopped = false)
    (sound : volume.fault = none) :
    (∃ task, manager.adding = some task ∧
      (manager.advance volume now).1.adding = some task ∧
      (manager.advance volume now).1.worklist = manager.worklist) ∨
    (∃ task hint, manager.adding = some task ∧ (manager.advance volume now).1.adding = none ∧
      (manager.advance volume now).1.worklist = manager.worklist.insert task
        (.start task hint manager.config.maxRetryPause now)) ∨
    manager.adding = none ∧ (manager.advance volume now).1.adding = none ∧
      (manager.advance volume now).1.worklist = manager.worklist := by
  unfold advance adding
  cases stands : manager.step with
  | none => exact Or.inr (Or.inr ⟨rfl, by simp only [stands], rfl⟩)
  | some step =>
    cases step with
    | storing task hint =>
      refine Or.inl ⟨task, rfl, ?_⟩
      simp only [perform, Volume.mergeTask, Volume.change, sound]
      exact ⟨rfl, rfl⟩
    | inserting task hint =>
      refine Or.inr (Or.inl ⟨task, hint, rfl, ?_⟩)
      simp only [perform, running]
      exact ⟨rfl, rfl⟩
    | clearing gone removed =>
      refine Or.inr (Or.inr ⟨rfl, ?_⟩)
      simp only [perform, Volume.deleteTask, Volume.change, sound]
      exact ⟨rfl, rfl⟩
    | dropping gone left =>
      refine Or.inr (Or.inr ⟨rfl, ?_⟩)
      cases left <;> exact ⟨rfl, rfl⟩
    | respanning left =>
      refine Or.inr (Or.inr ⟨rfl, ?_⟩)
      simp only [perform, Volume.mergeTask, Volume.change, sound]
      exact ⟨rfl, rfl⟩

theorem Honest.advance (honest : manager.Honest log) (sound : volume.fault = none)
    (now : Instant) : (manager.advance volume now).1.Honest log := by
  rcases advance_cases honest.running sound with
    ⟨task, before, after, same⟩ | ⟨task, hint, before, after, added⟩ | ⟨before, after, same⟩
  · refine ⟨same ▸ honest.running, same ▸ honest.tidy, same ▸ honest.slots, ?_⟩
    rw [after, ← before]
    exact honest.adding
  · refine ⟨added ▸ honest.running, added ▸ Worklist.tidy_insert honest.tidy rfl, ?_, ?_⟩
    · intro slot member
      rw [added] at member
      rcases Worklist.mem_insert.mp member with rfl | old
      · refine ⟨fun fetcher stands => ?_, nofun⟩
        cases stands
        exact .start (honest.adding task before) hint _ now
      · exact honest.slots slot old
    · rw [after]
      exact nofun
  · refine ⟨same ▸ honest.running, same ▸ honest.tidy, same ▸ honest.slots, ?_⟩
    rw [after]
    exact nofun

theorem linked_advance {underWay : List (FetcherId × Fetcher)}
    (linked : Linked manager.worklist underWay) (volume : Volume) (now : Instant) :
    Linked (manager.advance volume now).1.worklist underWay := by
  rcases manager.worklist_advance volume now with kept | ⟨task, fetcher, -, added⟩
  · exact kept ▸ linked
  · exact added ▸ linked.insert task fetcher

/-- A step leaves all unfinished entries. -/
theorem mem_liveTasks_advance (running : manager.worklist.stopped = false)
    (sound : volume.fault = none) (member : task ∈ manager.worklist.liveTasks key) :
    task ∈ (manager.advance volume now).1.worklist.liveTasks key := by
  rcases advance_cases running sound with
    ⟨other, -, -, same⟩ | ⟨other, hint, -, -, added⟩ | ⟨-, -, same⟩
  · rwa [same]
  · rw [added]
    exact Worklist.mem_liveTasks_insert.mpr (Or.inr member)
  · rwa [same]

/-- A task that is on its way stays so or becomes an entry. -/
theorem adding_advance (running : manager.worklist.stopped = false)
    (sound : volume.fault = none) (member : task ∈ manager.adding) :
    task ∈ (manager.advance volume now).1.adding ∨
      task ∈ (manager.advance volume now).1.worklist.liveTasks task.key := by
  rcases advance_cases running sound with
    ⟨other, before, after, -⟩ | ⟨other, hint, before, -, added⟩ | ⟨before, -, -⟩
  · rw [after, ← before]
    exact Or.inl member
  · cases before.symm.trans member
    rw [added]
    exact Or.inr (Worklist.mem_liveTasks_insert.mpr (Or.inl ⟨rfl, rfl⟩))
  · cases before.symm.trans member

/-- A step changes stored tasks at most. -/
theorem keepsLog_advance (manager : FetchManager) (volume : Volume) (now : Instant) :
    volume.KeepsLog (manager.advance volume now).2.1 := by
  rcases manager.volume_advance volume now with same | ⟨task, merged⟩ | ⟨key, deleted⟩
  · rw [same]
    exact ⟨rfl, rfl, rfl⟩
  · rw [merged]
    unfold MemoryStore.mergeTask
    split <;> exact ⟨rfl, rfl, rfl⟩
  · rw [deleted]
    exact ⟨rfl, rfl, rfl⟩

/-- Nothing is on its way when nobody has entered. -/
theorem step_isSome_of_adding (member : task ∈ manager.adding) : manager.step.isSome = true := by
  unfold adding at member
  cases stands : manager.step with
  | none =>
    rw [stands] at member
    cases member
  | some step => rfl

/-! ## Attempts -/

theorem Honest.schedule (honest : manager.Honest log) :
    (manager.schedule now).1.Honest log where
  running := honest.running
  tidy := Worklist.tidy_schedule honest.tidy _ now
  slots := by
    intro slot member
    obtain ⟨other, inside, rfl | ⟨fetcher, -, rfl⟩⟩ := Worklist.mem_schedule member
    · exact honest.slots slot inside
    · exact ⟨nofun, nofun⟩
  adding := honest.adding

/-- The attempts to be started have honest fetchers. -/
theorem Honest.of_mem_schedule (honest : manager.Honest log) {attempt : FetcherId × Fetcher}
    (member : attempt ∈ (manager.schedule now).2) : attempt.2.Honest log := by
  obtain ⟨slot, inside, -, stands⟩ := Worklist.idle_of_mem_schedule member
  exact (honest.slots slot inside).idle _ stands

variable {id : FetcherId} {fetcher : Fetcher} {underWay : List (FetcherId × Fetcher)}

theorem linked_enterComplete (linked : Linked manager.worklist underWay) :
    Linked (manager.enterComplete now id key).worklist underWay := by
  unfold enterComplete
  split
  · exact linked.narrow (Worklist.narrows_release _ _ _)
  · exact linked

/-- The end of a completed attempt finishes an entry, all of which is in the log. -/
theorem Honest.enterComplete (honest : manager.Honest log)
    (own : ∀ slot ∈ manager.worklist.slots, slot.id = id → fetcher.task = slot.task)
    (brought : ∀ seq, fetcher.task.contains seq = true →
      log.HasApplied fetcher.task.producer seq) :
    (manager.enterComplete now id fetcher.task.key).Honest log := by
  unfold FetchManager.enterComplete
  split
  · refine ⟨honest.running, Worklist.tidy_release honest.tidy nofun, ?_, nofun⟩
    intro slot member
    obtain ⟨other, inside, same, task, ⟨moved, here⟩ | rfl⟩ := Worklist.mem_release member
    · refine ⟨fun waiting stands => ?_, fun expiry _ => ?_⟩
      · rw [moved] at stands
        cases stands
      · rw [← task, ← own other inside (same.trans here)]
        exact brought
    · exact honest.slots slot inside
  · exact honest

/-- Whatever is no longer to be fetched after the end of a completed attempt is in the log. -/
theorem mem_liveTasks_enterComplete
    (own : ∀ slot ∈ manager.worklist.slots, slot.id = id → fetcher.task = slot.task)
    (member : task ∈ manager.worklist.liveTasks key) :
    fetcher.task = task ∨
      task ∈ (manager.enterComplete now id fetcher.task.key).worklist.liveTasks key := by
  unfold enterComplete
  split
  · rcases Worklist.mem_liveTasks_release member with ⟨slot, inside, here, same⟩ | stays
    · exact Or.inl ((own slot inside here).trans same)
    · exact Or.inr stays
  · exact Or.inr member

theorem linked_fail (linked : Linked manager.worklist underWay) (resolve : DeviceId → Name) :
    Linked (manager.fail now resolve id fetcher).worklist underWay := by
  unfold fail
  split
  · exact linked.narrow (Worklist.narrows_release _ _ _)
  · exact linked

/-- A failed attempt is none of those who enter. -/
theorem step_fail (manager : FetchManager) (now : Instant) (resolve : DeviceId → Name)
    (id : FetcherId) (fetcher : Fetcher) :
    (manager.fail now resolve id fetcher).step = manager.step := by
  unfold fail
  split <;> rfl

/-- A failed attempt leaves an entry that waits with its fetcher. -/
theorem Honest.fail (honest : manager.Honest log) (resolve : DeviceId → Name)
    (own : ∀ slot ∈ manager.worklist.slots, slot.id = id → fetcher.task = slot.task)
    (backed : fetcher.Honest log) : (manager.fail now resolve id fetcher).Honest log := by
  unfold FetchManager.fail
  split
  · refine ⟨honest.running, Worklist.tidy_release honest.tidy ?_, ?_, honest.adding⟩
    · intro other moved slot member same
      cases moved
      exact own slot member same
    · intro slot member
      obtain ⟨other, inside, -, -, ⟨moved, -⟩ | rfl⟩ := Worklist.mem_release member
      · refine ⟨fun waiting stands => ?_, fun expiry stands => ?_⟩
        · cases moved.symm.trans stands
          exact backed.failAttempt resolve now
        · cases moved.symm.trans stands
      · exact honest.slots slot inside
  · exact honest

/-- A failed attempt leaves all that is to be fetched. -/
theorem liveTasks_fail (tidy : manager.worklist.Tidy) (resolve : DeviceId → Name)
    (key : TaskKey) : (manager.fail now resolve id fetcher).worklist.liveTasks key =
      manager.worklist.liveTasks key := by
  unfold fail
  split
  · rename_i active
    exact Worklist.liveTasks_retry tidy active _ key
  · rfl

end FetchManager

end DigestSync
