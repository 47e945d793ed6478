import DigestSync.Proofs.Fetch.Moves
import DigestSync.Proofs.Fetch.Window

set_option autoImplicit false

/-! # Unfinished entries on a faulty medium

A stored task reaches at least as far as the unfinished entries with its key, even if calls on the
store fail.  There is one way to lose this: the end of an entry removes the stored task of a key,
and the call that is to store what is left of the key fails.
-/

namespace DigestSync

open scoped SeqOrder

/-! ## Stored ranges -/

namespace MemoryStore

variable {store : MemoryStore} {task : FetchTask}

/-- The range of a task lies within that of the stored task of its key. -/
def Holds (store : MemoryStore) (task : FetchTask) : Prop :=
  ∃ row, store.task? task.key = some row ∧ row.spans task = true

/-- A merged task spans what it spanned before. -/
theorem holds_mergeTask {merged : FetchTask} (same : task.key = merged.key)
    (spanned : merged.spans task = true) : (store.mergeTask merged).2.Holds task := by
  refine ⟨_, (task?_mergeTask store merged task.key).trans (if_pos same), ?_⟩
  cases store.task? merged.key with
  | none => exact spanned
  | some row => exact FetchTask.spans_trans (row.spans_widen_self merged) spanned

theorem Holds.mergeTask (holds : store.Holds task) (merged : FetchTask) :
    (store.mergeTask merged).2.Holds task := by
  obtain ⟨row, stored, spanned⟩ := holds
  by_cases same : task.key = merged.key
  · refine ⟨row.widen merged, (task?_mergeTask store merged task.key).trans ?_,
      FetchTask.spans_widen spanned merged⟩
    rw [if_pos same, ← same, stored]
    rfl
  · exact ⟨row, (task?_mergeTask store merged task.key).trans ((if_neg same).trans stored), spanned⟩

theorem Holds.deleteTask (holds : store.Holds task) {gone : TaskKey} (away : task.key ≠ gone) :
    (store.deleteTask gone).2.Holds task := by
  obtain ⟨row, stored, spanned⟩ := holds
  exact ⟨row, (task?_deleteTask store gone task.key).trans ((if_neg away).trans stored), spanned⟩

end MemoryStore

namespace Worklist

theorem mem_liveTasks_removeKey {list : Worklist} {task : FetchTask} {gone key : TaskKey}
    (member : task ∈ (list.removeKey gone).liveTasks key) : task ∈ list.liveTasks key := by
  obtain ⟨slot, inside, facts, rfl⟩ := mem_liveTasks.mp member
  exact mem_liveTasks.mpr ⟨slot, (List.mem_filter.mp inside).1, facts, rfl⟩

/-- An entry that is finished leaves the others as they are. -/
theorem mem_liveTasks_finish {list : Worklist} {task : FetchTask} {id : FetcherId}
    {expiry : Instant} {key : TaskKey}
    (member : task ∈ (list.release id (.finished expiry)).liveTasks key) :
    task ∈ list.liveTasks key := by
  obtain ⟨slot, inside, ⟨live, same⟩, rfl⟩ := mem_liveTasks.mp member
  obtain ⟨other, old, -, -, ⟨finished, -⟩ | rfl⟩ := mem_release inside
  · rw [Slot.isLive, finished] at live
    cases live
  · exact mem_liveTasks.mpr ⟨slot, old, ⟨live, same⟩, rfl⟩

theorem liveTasks_eq_nil_of_span {list : Worklist} {key : TaskKey}
    (empty : list.liveSpan key = none) : list.liveTasks key = [] :=
  (span_eq_none_iff _).mp empty

end Worklist

/-! ## What the next step is about -/

/-- What the next step knows of the unfinished entries with its key. -/
def Worklist.Awaits (list : Worklist) : Option PersistStep → Prop
  | some (.clearing gone _) => list.liveSpan gone = none
  | some (.dropping gone left) => list.liveSpan gone = left
  | some (.respanning left) => list.liveSpan left.key = some left
  | some (.storing _ _) | some (.inserting _ _) | none => True

theorem Worklist.Awaits.congr {before after : Worklist} {step : Option PersistStep}
    (awaits : before.Awaits step)
    (same : ∀ key, after.liveTasks key = before.liveTasks key) : after.Awaits step := by
  have spans : ∀ key, after.liveSpan key = before.liveSpan key := fun key =>
    congrArg Worklist.span (same key)
  rcases step with _ | _ | _ | _ | _ | _ <;> simp only [Worklist.Awaits, spans] at awaits ⊢ <;> exact awaits

/-- Every unfinished entry is within the stored task of its key, but for a key whose stored task
was just removed; and so is a task that is about to be added. -/
structure Backed (list : Worklist) (store : MemoryStore) (step : Option PersistStep) : Prop where
  entries : ∀ key, ∀ task ∈ list.liveTasks key,
    (∀ left, step = some (.respanning left) → key = left.key → store.task? key ≠ none) →
      store.Holds task
  added : ∀ task hint, step = some (.inserting task hint) → store.Holds task

namespace Backed

variable {list after : Worklist} {store : MemoryStore} {step : Option PersistStep}

/-- Nothing is lost if there is no further unfinished entry. -/
theorem fewer (backed : Backed list store step)
    (less : ∀ key, ∀ task ∈ after.liveTasks key, task ∈ list.liveTasks key) :
    Backed after store step where
  entries := fun key task member => backed.entries key task (less key task member)
  added := backed.added

/-- With a next step that no stored task depends on, all unfinished entries are held. -/
theorem holds (backed : Backed list store step)
    (settled : ∀ left, step ≠ some (.respanning left)) {key : TaskKey} {task : FetchTask}
    (member : task ∈ list.liveTasks key) : store.Holds task :=
  backed.entries key task member fun left here => absurd here (settled left)

theorem of_holds (held : ∀ key, ∀ task ∈ list.liveTasks key, store.Holds task)
    (added : ∀ task hint, step = some (.inserting task hint) → store.Holds task) :
    Backed list store step :=
  ⟨fun key task member _ => held key task member, added⟩

end Backed

/-- The end of an entry cannot store what is left of a key whose stored task it removed. -/
def Volume.Loses (volume : Volume) (step : Option PersistStep) : Prop :=
  ∃ left, step = some (.respanning left) ∧ volume.fault ≠ none ∧
    volume.store.task? left.key = none

namespace FetchManager

variable {manager : FetchManager} {volume : Volume} {now : Instant}

theorem awaits_advance (awaits : manager.worklist.Awaits manager.step) :
    (manager.advance volume now).1.worklist.Awaits (manager.advance volume now).1.step := by
  unfold advance
  cases entered : manager.step with
  | none => simp only [entered, Worklist.Awaits]
  | some step =>
    rw [entered] at awaits
    cases step with
    | storing task hint =>
      simp only [perform]
      split <;> trivial
    | inserting task hint =>
      simp only [perform]
      split <;> trivial
    | clearing gone removed =>
      simp only [perform]
      split <;> trivial
    | dropping gone left =>
      cases left with
      | none => trivial
      | some left =>
        have same : left.key = gone := Worklist.key_of_liveSpan awaits
        simp only [perform, goOn, Worklist.Awaits]
        rw [same]
        exact awaits
    | respanning left =>
      simp only [perform]
      split <;> trivial

/-- Removing the stored task of a key without unfinished entries loses nothing. -/
theorem held_deleteTask {list : Worklist} {store : MemoryStore} {gone : TaskKey}
    (held : ∀ key, ∀ task ∈ list.liveTasks key, store.Holds task)
    (empty : list.liveSpan gone = none) :
    ∀ key, ∀ task ∈ list.liveTasks key, (store.deleteTask gone).2.Holds task := by
  intro key task member
  refine (held key task member).deleteTask ?_
  rintro rfl
  rw [← Worklist.key_of_mem_liveTasks member, Worklist.liveTasks_eq_nil_of_span empty] at member
  cases member

/-- The entries that a step leaves are within the tasks that it leaves stored. -/
def StepBacked (turn : FetchManager × Volume × Option (Except FetchFault Bool)) : Prop :=
  Backed turn.1.worklist turn.2.1.store turn.1.step

/-- A call that has entered to add a task stores it, or leaves. -/
theorem backed_storing {task : FetchTask} {hint : ForwardingHint}
    (backed : Backed manager.worklist volume.store (some (.storing task hint))) :
    StepBacked (manager.perform volume now (.storing task hint)) := by
  have held : ∀ key, ∀ other ∈ manager.worklist.liveTasks key, volume.store.Holds other :=
    fun key other member => backed.holds (by simp) member
  cases fault : volume.fault with
  | some broken =>
    simp only [StepBacked, perform, Volume.mergeTask, Volume.change, fault]
    exact .of_holds held (by simp [leave])
  | none =>
    simp only [StepBacked, perform, Volume.mergeTask, Volume.change, fault]
    refine .of_holds (fun key other member => (held key other member).mergeTask task) ?_
    rintro _ _ ⟨⟩
    exact MemoryStore.holds_mergeTask rfl task.spans_self

/-- The task that is added was stored before. -/
theorem backed_inserting {task : FetchTask} {hint : ForwardingHint}
    (backed : Backed manager.worklist volume.store (some (.inserting task hint))) :
    StepBacked (manager.perform volume now (.inserting task hint)) := by
  simp only [StepBacked, perform]
  split
  · exact .of_holds (fun key other member => backed.holds (by simp) member) (by simp [leave])
  · refine .of_holds (fun key other member => ?_) (by simp [leave])
    rcases Worklist.mem_liveTasks_insert.mp member with ⟨rfl, -⟩ | old
    · exact backed.added other hint rfl
    · exact backed.holds (by simp) old

theorem backed_clearing {gone : TaskKey} {removed : Bool}
    (empty : manager.worklist.liveSpan gone = none)
    (backed : Backed manager.worklist volume.store (some (.clearing gone removed))) :
    StepBacked (manager.perform volume now (.clearing gone removed)) := by
  have held : ∀ key, ∀ other ∈ manager.worklist.liveTasks key, volume.store.Holds other :=
    fun key other member => backed.holds (by simp) member
  cases fault : volume.fault with
  | some broken =>
    simp only [StepBacked, perform, Volume.deleteTask, Volume.change, fault]
    exact .of_holds held (by simp [leave])
  | none =>
    simp only [StepBacked, perform, Volume.deleteTask, Volume.change, fault]
    exact .of_holds (held_deleteTask held empty) (by simp [leave])

/-- The end of an entry removes the stored task of its key, but that of no other. -/
theorem backed_dropping {gone : TaskKey} {left : Option FetchTask}
    (spanned : manager.worklist.liveSpan gone = left)
    (backed : Backed manager.worklist volume.store (some (.dropping gone left))) :
    StepBacked (manager.perform volume now (.dropping gone left)) := by
  have held : ∀ key, ∀ other ∈ manager.worklist.liveTasks key, volume.store.Holds other :=
    fun key other member => backed.holds (by simp) member
  cases fault : volume.fault with
  | some broken =>
    simp only [StepBacked, perform, Volume.deleteTask, Volume.change, fault]
    cases left with
    | none => exact .of_holds held (by simp [leave])
    | some left => exact .of_holds held (by simp [goOn])
  | none =>
    simp only [StepBacked, perform, Volume.deleteTask, Volume.change, fault]
    cases left with
    | none => exact .of_holds (held_deleteTask held spanned) (by simp [leave])
    | some left =>
      refine ⟨fun key other member present => ?_, by simp [goOn]⟩
      have here : left.key = gone := Worklist.key_of_liveSpan spanned
      have away : other.key ≠ gone := by
        intro same
        have alike : key = gone := (Worklist.key_of_mem_liveTasks member).symm.trans same
        refine present left rfl (alike.trans here.symm) ?_
        exact (MemoryStore.task?_deleteTask volume.store gone key).trans (if_pos alike)
      exact (held key other member).deleteTask away

/-- What is left of the key is stored again; if that fails, a task must still be stored. -/
theorem backed_respanning {left : FetchTask}
    (spanned : manager.worklist.liveSpan left.key = some left)
    (backed : Backed manager.worklist volume.store (some (.respanning left)))
    (safe : ¬ volume.Loses (some (.respanning left))) :
    StepBacked (manager.perform volume now (.respanning left)) := by
  have others : ∀ key, ∀ other ∈ manager.worklist.liveTasks key,
      (key = left.key → volume.store.task? key ≠ none) → volume.store.Holds other := by
    intro key other member present
    refine backed.entries key other member ?_
    rintro _ ⟨⟩
    exact present
  cases fault : volume.fault with
  | some broken =>
    have present : volume.store.task? left.key ≠ none := fun gone =>
      safe ⟨left, rfl, by simp [fault], gone⟩
    simp only [StepBacked, perform, Volume.mergeTask, Volume.change, fault]
    refine .of_holds (fun key other member => others key other member ?_) (by simp [leave])
    rintro rfl
    exact present
  | none =>
    simp only [StepBacked, perform, Volume.mergeTask, Volume.change, fault]
    refine .of_holds (fun key other member => ?_) (by simp [leave])
    have alike : other.key = key := Worklist.key_of_mem_liveTasks member
    by_cases here : key = left.key
    · subst here
      exact MemoryStore.holds_mergeTask alike ((Worklist.isHull_span spanned).spans member)
    · exact (others key other member fun same => absurd same here).mergeTask left

/-- A step leaves all unfinished entries within the stored tasks, unless it loses one. -/
theorem backed_advance (awaits : manager.worklist.Awaits manager.step)
    (backed : Backed manager.worklist volume.store manager.step)
    (safe : ¬ volume.Loses manager.step) : StepBacked (manager.advance volume now) := by
  unfold advance
  cases entered : manager.step with
  | none =>
    rw [entered] at backed
    simpa only [StepBacked, entered] using backed
  | some step =>
    rw [entered] at awaits backed safe
    cases step with
    | storing => exact backed_storing backed
    | inserting => exact backed_inserting backed
    | clearing => exact backed_clearing awaits backed
    | dropping => exact backed_dropping awaits backed
    | respanning => exact backed_respanning awaits backed safe

end FetchManager

/-! ## Runs -/

namespace ManagerScene

variable {scene : ManagerScene}

/-- What enters knows its key, and takes nothing up yet. -/
structure Enters (before after : ManagerScene) : Prop where
  free : before.manager.step = none
  awaits : after.manager.worklist.Awaits after.manager.step
  early : ∀ left, after.manager.step ≠ some (.respanning left)
  bare : ∀ task hint, after.manager.step ≠ some (.inserting task hint)
  fewer : ∀ key, ∀ task ∈ after.manager.worklist.liveTasks key,
    task ∈ before.manager.worklist.liveTasks key

/-- An event other than a step leaves the store as it is, and lets something enter or leaves the
tasks of the unfinished entries as they are. -/
theorem react_cases (steady : scene.Steady) (now : Instant) {event : ManagerEvent}
    (still : event ≠ .advance) :
    (scene.react now event).volume.store = scene.volume.store ∧
      (scene.Enters (scene.react now event) ∨
        (scene.react now event).manager.step = scene.manager.step ∧
          ∀ key, (scene.react now event).manager.worklist.liveTasks key =
            scene.manager.worklist.liveTasks key) := by
  have idle : scene.volume.store = scene.volume.store ∧
      (scene.Enters scene ∨ scene.manager.step = scene.manager.step ∧
        ∀ key, scene.manager.worklist.liveTasks key = scene.manager.worklist.liveTasks key) :=
    ⟨rfl, Or.inr ⟨rfl, fun _ => rfl⟩⟩
  cases event with
  | advance => exact absurd rfl still
  | enqueue resolve task =>
    simp only [react]
    split
    · exact idle
    · rename_i free
      split
      · exact idle
      · rename_i manager entered
        rw [FetchManager.eq_of_entered entered]
        exact ⟨rfl, Or.inl ⟨by simpa [isTaken] using free, trivial, by simp [FetchManager.goOn],
          by simp [FetchManager.goOn], fun _ _ member => member⟩⟩
  | cancel key =>
    simp only [react]
    split
    · exact idle
    · rename_i free
      refine ⟨rfl, Or.inl ⟨by simpa [isTaken] using free, ?_, by simp [FetchManager.enterCancel],
        by simp [FetchManager.enterCancel], ?_⟩⟩
      · exact (Worklist.span_eq_none_iff _).mpr (Worklist.liveTasks_removeKey_self _ key)
      · exact fun other task member => Worklist.mem_liveTasks_removeKey member
  | look =>
    simp only [react]
    split
    · exact idle
    · exact ⟨rfl, Or.inr ⟨rfl, fun key => Worklist.liveTasks_schedule _ _ now key⟩⟩
  | complete id fetcher =>
    simp only [react, FetchManager.enterComplete]
    split
    · exact idle
    · rename_i enters
      have free : scene.manager.step = none := by
        simp only [Bool.or_eq_true, not_or, isTaken, Bool.not_eq_true, Option.isSome_eq_false_iff,
          Option.isNone_iff_eq_none] at enters
        exact enters.1
      split
      · exact ⟨rfl, Or.inl ⟨free, rfl, by simp, by simp, fun key task member =>
          Worklist.mem_liveTasks_finish member⟩⟩
      · exact ⟨rfl, Or.inr ⟨rfl, fun _ => rfl⟩⟩
  | fail resolve id fetcher =>
    simp only [react, FetchManager.fail]
    split
    · split
      · rename_i active
        exact ⟨rfl, Or.inr ⟨rfl, Worklist.liveTasks_retry steady.tidy active _⟩⟩
      · exact ⟨rfl, Or.inr ⟨rfl, fun _ => rfl⟩⟩
    · exact idle
  | medium fault => exact ⟨rfl, Or.inr ⟨rfl, fun _ => rfl⟩⟩

/-- With this event the stored task of a key is lost. -/
def Loses (scene : ManagerScene) (event : ManagerEvent) : Prop :=
  event = .advance ∧ scene.volume.Loses scene.manager.step

/-- The range of every unfinished entry lies within that of the stored task of its key. -/
def IsPersisted (scene : ManagerScene) : Prop :=
  ∀ slot ∈ scene.manager.worklist.slots, slot.isLive = true →
    ∃ row, scene.volume.store.task? slot.task.key = some row ∧ row.spans slot.task = true

theorem awaits_react (steady : scene.Steady)
    (awaits : scene.manager.worklist.Awaits scene.manager.step) (now : Instant)
    (event : ManagerEvent) :
    (scene.react now event).manager.worklist.Awaits (scene.react now event).manager.step := by
  by_cases still : event = .advance
  · subst still
    exact FetchManager.awaits_advance awaits
  · obtain ⟨-, enters | ⟨step, same⟩⟩ := react_cases steady now still
    · exact enters.awaits
    · rw [step]
      exact awaits.congr same

theorem backed_react (steady : scene.Steady)
    (awaits : scene.manager.worklist.Awaits scene.manager.step)
    (backed : Backed scene.manager.worklist scene.volume.store scene.manager.step) (now : Instant)
    {event : ManagerEvent} (safe : ¬ scene.Loses event) :
    Backed (scene.react now event).manager.worklist (scene.react now event).volume.store
      (scene.react now event).manager.step := by
  by_cases still : event = .advance
  · subst still
    exact FetchManager.backed_advance awaits backed fun loses => safe ⟨rfl, loses⟩
  · obtain ⟨store, enters | ⟨step, same⟩⟩ := react_cases steady now still
    · rw [store]
      refine .of_holds (fun key task member => ?_) fun task hint here =>
        absurd here (enters.bare task hint)
      exact backed.holds (by simp [enters.free]) (enters.fewer key task member)
    · rw [store, step]
      exact backed.fewer fun key task member => same key ▸ member

theorem isPersisted_of_backed (free : scene.manager.step = none)
    (backed : Backed scene.manager.worklist scene.volume.store scene.manager.step) :
    scene.IsPersisted := by
  intro slot member live
  have counted : slot.task ∈ scene.manager.worklist.liveTasks slot.task.key :=
    Worklist.mem_liveTasks.mpr ⟨slot, member, ⟨live, rfl⟩, rfl⟩
  exact backed.holds (by simp [free]) counted

/-- After a loss nothing has entered, and a key with unfinished entries has no stored task. -/
theorem lost_react (awaits : scene.manager.worklist.Awaits scene.manager.step) (now : Instant)
    {event : ManagerEvent} (loses : scene.Loses event) :
    (scene.react now event).manager.step = none ∧ ¬ (scene.react now event).IsPersisted := by
  obtain ⟨rfl, left, entered, faulty, gone⟩ := loses
  obtain ⟨broken, fault⟩ := Option.ne_none_iff_exists'.mp faulty
  have after : scene.react now .advance = { scene with manager := scene.manager.leave } := by
    simp only [react, FetchManager.advance, entered, FetchManager.perform, Volume.mergeTask,
      Volume.change, fault]
  rw [after]
  refine ⟨rfl, fun persisted => ?_⟩
  rw [entered] at awaits
  obtain ⟨task, member, -⟩ := (Worklist.isHull_span awaits).lowest
  obtain ⟨slot, inside, ⟨live, same⟩, -⟩ := Worklist.mem_liveTasks.mp member
  obtain ⟨row, stored, -⟩ := persisted slot inside live
  rw [same, gone] at stored
  cases stored

/-- A manager among its events on a medium of any kind. -/
structure Guarded (scene : ManagerScene) : Prop where
  steady : scene.Steady
  awaits : scene.manager.worklist.Awaits scene.manager.step

theorem run_append (scene : ManagerScene) (early late : List (Instant × ManagerEvent)) :
    scene.run (early ++ late) = (scene.run early).run late := List.foldl_append

theorem guarded_run (guarded : scene.Guarded) (events : List (Instant × ManagerEvent)) :
    (scene.run events).Guarded := by
  refine run_induction (fun event _ scene guarded => ?_) guarded
  exact ⟨guarded.steady.react event.1 event.2,
    awaits_react guarded.steady guarded.awaits event.1 event.2⟩

theorem guarded_start (config : FetchConfig) (store : MemoryStore) :
    (start config store).Guarded := ⟨steady_start config store, trivial⟩

theorem backed_run (config : FetchConfig) (store : MemoryStore)
    {events : List (Instant × ManagerEvent)}
    (safe : ∀ early now event, early ++ [(now, event)] <+: events →
      ¬ ((start config store).run early).Loses event) :
    Backed ((start config store).run events).manager.worklist
      ((start config store).run events).volume.store
      ((start config store).run events).manager.step := by
  induction events using List.reverseRecOn with
  | nil =>
    refine .of_holds (fun key task member => ?_) (by simp [run, start, FetchManager.new])
    obtain ⟨slot, inside, -⟩ := Worklist.mem_liveTasks.mp member
    cases inside
  | append_singleton early event ih =>
    have guarded := guarded_run (guarded_start config store) early
    have backed := ih fun earlier now other before =>
      safe earlier now other (before.trans (List.prefix_append early [event]))
    rw [run_append]
    exact backed_react guarded.steady guarded.awaits backed event.1
      (safe early event.1 event.2 (List.prefix_refl _))

/-- In every run of a manager before a shutdown, with a medium that is faulty for any of its calls,
the following are the same: whenever nothing has entered, the range of every unfinished entry lies
within that of the stored task of its key; and at no point the end of an entry, which has removed
the stored task of the key, fails to store what is left. -/
theorem persisted_iff_nothing_lost (config : FetchConfig) (store : MemoryStore)
    (events : List (Instant × ManagerEvent)) :
    (∀ early, early <+: events → ((start config store).run early).manager.step = none →
        ((start config store).run early).IsPersisted) ↔
      ∀ early now event, early ++ [(now, event)] <+: events →
        ¬ ((start config store).run early).Loses event := by
  constructor
  · intro persisted early now event within loses
    have guarded := guarded_run (guarded_start config store) early
    obtain ⟨free, unpersisted⟩ := lost_react guarded.awaits now loses
    have after := persisted _ within
    rw [run_append] at after
    exact unpersisted (after free)
  · intro safe early within free
    refine isPersisted_of_backed free (backed_run config store ?_)
    intro earlier now event before
    exact safe earlier now event (before.trans within)

/-- Both of two overlapping ranges are taken up, and as the first is completed, the medium becomes
faulty after its stored task is removed. -/
def brokenEvents : List (Instant × ManagerEvent) :=
  [(0, .enqueue (fun _ => Name.empty) overlap.1), (0, .advance), (0, .advance), (1, .look),
    (2, .enqueue (fun _ => Name.empty) overlap.2), (2, .advance), (3, .advance), (4, .look),
    (5, .complete 0 (.start overlap.1 .broadcast 0 0)), (5, .advance),
    (5, .medium (some .engine)), (6, .advance)]

/-- The second range is still to be fetched, and nothing is stored. -/
theorem unpersisted_after_fault :
    ((start .standard .empty).run brokenEvents).manager.step = none ∧
      ¬ ((start .standard .empty).run brokenEvents).IsPersisted := by
  have gone : ((start .standard .empty).run brokenEvents).volume.store.task? overlap.2.key =
      none := by decide +kernel
  have waiting : ∃ slot ∈ ((start .standard .empty).run brokenEvents).manager.worklist.slots,
      slot.isLive = true ∧ slot.task.key = overlap.2.key := by decide +kernel
  refine ⟨by decide +kernel, fun persisted => ?_⟩
  obtain ⟨slot, inside, live, same⟩ := waiting
  obtain ⟨row, stored, -⟩ := persisted slot inside live
  rw [same, gone] at stored
  cases stored

end ManagerScene

end DigestSync
