import DigestSync.Proofs.Node.Tracking

set_option autoImplicit false

/-! # Starting a node

On a sound medium a node starts without a fault, however much is stored.  All stored tasks
are taken up, so that no entry is refused and each has an honest fetcher, and the state is
the one that is stored.
-/

namespace DigestSync

open scoped SeqOrder

variable {store : MemoryStore} {volume : Volume} {now : Instant}

/-! ## Locators -/

namespace Node

/-- The log and the tasks are as they were after the own locator is stored. -/
theorem storeLocator_ofStore (config : NodeConfig) (device : DeviceId) (store : MemoryStore) :
    ∃ next, storeLocator config device (.ofStore store) = .ok (.ofStore next) ∧
      next.currentState = store.currentState ∧ next.tasks = store.tasks := by
  unfold storeLocator
  split
  · exact ⟨store, rfl, rfl, rfl⟩
  · rename_i locator _
    exact ⟨store.updateLocator device locator, rfl,
      MemoryStore.currentState_updateLocator store device locator, rfl⟩

theorem storedLocators_ofStore (store : MemoryStore) :
    ∃ locators, storedLocators (.ofStore store) = .ok locators := by
  unfold storedLocators
  have current : (Volume.ofStore store).currentState = .ok store.currentState := rfl
  rw [current]
  dsimp only
  generalize (SortedMap.empty : LocatorTable) = table
  induction store.currentState.entries generalizing table with
  | nil => exact ⟨table, rfl⟩
  | cons entry rest ih =>
    have asked : (Volume.ofStore store).locator entry.1 = .ok (store.locator entry.1) := rfl
    rw [List.foldlM_cons, asked]
    cases store.locator entry.1 with
    | none => exact ih table
    | some locator => exact ih (table.insert entry.1 locator)

end Node

/-! ## Stored tasks -/

namespace FetchManager

variable {manager : FetchManager} {log : ActionLog} {task : FetchTask}

/-- Adding a task succeeds. -/
theorem Honest.enqueue (honest : manager.Honest log) (sound : volume.fault = none)
    (low : task.maxSeq.toNat + 1 < 2 ^ 64) (now : Instant) (resolve : DeviceId → Name) :
    ∃ added next left, manager.enqueue volume now resolve task = (.ok added, next, left) ∧
      next.Honest log ∧ volume.KeepsLog left := by
  rcases enterEnqueue_cases honest.running resolve task with ⟨hint, entered⟩ | ⟨answered, -⟩
  · have stored := manager.advance_storing sound now task hint
    have early := (honest.enter low hint).advance sound now
    have keeps := (manager.goOn (.storing task hint)).keepsLog_advance volume now
    rw [stored] at early keeps
    have added := advance_inserting honest.running
      { volume with store := (volume.store.mergeTask task).2 } now task hint
    have late := early.advance (keeps.fault.trans sound) now
    rw [added] at late
    refine ⟨true, _, _, ?_, late, keeps⟩
    simp only [FetchManager.enqueue, entered, settle, stored, added, Option.getD_some]
  · refine ⟨false, manager, volume, ?_, honest, ⟨rfl, rfl, rfl⟩⟩
    simp only [FetchManager.enqueue, answered]

/-- Adding several tasks succeeds. -/
theorem Honest.enqueueAll (honest : manager.Honest log) (sound : volume.fault = none)
    (now : Instant) (resolve : DeviceId → Name) {tasks : List FetchTask}
    (low : ∀ task ∈ tasks, task.maxSeq.toNat + 1 < 2 ^ 64) (count : Nat) :
    ∃ total next left,
      FetchManager.enqueueAll volume now resolve tasks count manager = (.ok total, next, left) ∧
        next.Honest log ∧ volume.KeepsLog left := by
  induction tasks generalizing manager volume count with
  | nil => exact ⟨count, manager, volume, rfl, honest, ⟨rfl, rfl, rfl⟩⟩
  | cons task rest ih =>
    obtain ⟨added, next, left, outcome, honest, keeps⟩ :=
      honest.enqueue sound (low task List.mem_cons_self) now resolve
    obtain ⟨total, last, final, later, facts, kept⟩ :=
      ih honest (keeps.fault.trans sound)
        (fun other member => low other (List.mem_cons_of_mem _ member))
        (if added then count + 1 else count)
    refine ⟨total, last, final, ?_, facts, keeps.trans kept⟩
    simp only [FetchManager.enqueueAll, outcome, later]

theorem honest_new (config : FetchConfig) : (new config).Honest log where
  running := rfl
  tidy := Worklist.tidy_empty
  slots := nofun
  adding := nofun

end FetchManager

/-! ## Joining -/

/-- What a node needs before it joins its group is there. -/
theorem Node.prepare_ofStore (config : NodeConfig) (device : DeviceId)
    (low : ∀ task ∈ store.tasks, task.maxSeq.toNat + 1 < 2 ^ 64) (now : Instant) :
    ∃ locators manager volume,
      prepare config device (.ofStore store) now = (.ok (locators, manager), volume) ∧
        manager.Honest .empty ∧ volume.fault = none ∧
        volume.store.currentState = store.currentState := by
  obtain ⟨next, told, state, tasks⟩ := storeLocator_ofStore config device store
  obtain ⟨locators, known⟩ := storedLocators_ofStore next
  have listed : (Volume.ofStore next).listTasks = .ok store.tasks := congrArg Except.ok tasks
  obtain ⟨total, manager, volume, outcome, honest, keeps⟩ :=
    (FetchManager.honest_new config.fetch).enqueueAll
      (rfl : (Volume.ofStore next).fault = none) now locators.resolve low 0
  refine ⟨locators, manager.start, volume, ?_, ⟨honest.running, honest.tidy, honest.slots,
    honest.adding⟩, keeps.fault, keeps.state.trans state⟩
  simp only [prepare, told, known, FetchManager.restore, listed, outcome]

namespace NodeScene

/-- A node starts, and it is sound with regard to the stored state. -/
theorem sound_join (config : NodeConfig) (device : DeviceId)
    (low : ∀ task ∈ store.tasks, task.maxSeq.toNat + 1 < 2 ^ 64) (now : Instant) :
    ∃ scene, join config device store now = .ok scene ∧
      scene.Sound config device store.currentState := by
  obtain ⟨locators, manager, volume, ready, honest, sound, state⟩ :=
    Node.prepare_ofStore config device low now
  have whole := Volume.eq_ofStore sound
  generalize volume.store = next at whole state
  subst whole
  have joined : join config device store now = .ok
      ⟨Node.start config device next.rememberState.1 locators manager now,
        .ofStore next.rememberState.2, [], .idle⟩ := by
    simp only [join, ready, Volume.rememberState_ofStore]
  refine ⟨_, joined, ?_⟩
  constructor
  case config_eq => rfl
  case own => rfl
  case running => rfl
  case dispatching => rfl
  case rooted => exact Peer.rooted_resume next device config.sync now
  case medium => rfl
  case fetch => exact honest
  case linked => nofun
  case pipelines => nofun
  case waiting => nofun
  case pending => nofun
  case tracks =>
    intro other _ seq above upto
    have upto : seq ≤ next.currentState.seqOf other := upto
    rw [state] at upto
    exact absurd upto (not_le.mpr above)

end NodeScene

end DigestSync
