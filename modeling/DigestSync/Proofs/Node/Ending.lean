import DigestSync.Node.Ending
import DigestSync.Proofs.Fetch.Faults
import DigestSync.Proofs.Node.Interleaving

set_option autoImplicit false

/-! # What a shutdown leaves behind

The stored tasks of a node back its unfinished entries at all times, since nothing but the
manager writes them, and its steps keep that.  So when a node is shut down, whatever number
it keeps track of is in the log, in the range of a stored task, or in memory alone: with the
dispatcher, or with what has entered the manager and is about to store it.  What is stored is
fetched after the next start.  What is in memory alone is gone for good, since the state that
the next start finds has the number already.
-/

namespace DigestSync

open scoped SeqOrder

/-! ## The sync core leaves the tasks alone -/

namespace MemoryStore

theorem tasks_takeRecords (store : MemoryStore) (records : List DeltaRecord) :
    (store.takeRecords records).tasks = store.tasks := by
  unfold takeRecords
  induction records.filter DeltaRecord.isUpdate generalizing store with
  | nil => rfl
  | cons record rest ih =>
    rw [List.foldl_cons, ih]
    unfold takeRecord
    split <;> rfl

theorem tasks_hear (store : MemoryStore) (own : DeviceId) (tiding? : Option Tiding) :
    (store.hear own tiding?).tasks = store.tasks := by
  unfold hear
  split
  · rfl
  · split
    · exact tasks_takeRecords store _
    · rfl
  · rfl

theorem Holds.congr {before after : MemoryStore} (same : after.tasks = before.tasks)
    {task : FetchTask} (holds : before.Holds task) : after.Holds task := by
  unfold Holds
  rw [task?_congr same]
  exact holds

end MemoryStore

theorem Peer.Advances.tasks_eq {peer : Peer} {tiding? : Option Tiding} {turn : SyncTurn}
    (advances : peer.Advances tiding? turn) : turn.volume.store.tasks = peer.store.tasks := by
  rcases advances.store_eq with kept | remembered
  · rw [kept, MemoryStore.tasks_hear]
  · rw [remembered]
    exact MemoryStore.tasks_hear _ _ _

theorem Backed.congr {list : Worklist} {before after : MemoryStore} {step : Option PersistStep}
    (backed : Backed list before step) (same : after.tasks = before.tasks) :
    Backed list after step where
  entries := by
    intro key task member present
    rw [MemoryStore.task?_congr same] at present
    exact (backed.entries key task member present).congr same
  added := fun task hint next => (backed.added task hint next).congr same

/-! ## Stored tasks are taken up -/

namespace FetchManager

variable {manager : FetchManager} {volume : Volume} {now : Instant}

/-- On a sound medium nothing has entered a running manager, its entries are unfinished, and
the stored tasks back them. -/
structure Fresh (manager : FetchManager) (volume : Volume) : Prop where
  running : manager.worklist.stopped = false
  free : manager.step = none
  medium : volume.fault = none
  live : ∀ slot ∈ manager.worklist.slots, slot.isLive = true
  backed : Backed manager.worklist volume.store manager.step

theorem fresh_new (config : FetchConfig) (store : MemoryStore) :
    (new config).Fresh (.ofStore store) where
  running := rfl
  free := rfl
  medium := rfl
  live := nofun
  backed := .of_holds
    (fun key task member => by simp [new, Worklist.liveTasks, Worklist.empty] at member)
    (by simp [new])

/-- What an entry covers is to be fetched already. -/
theorem Fresh.fetches_of_covers (fresh : manager.Fresh volume) {task : FetchTask}
    (covered : manager.worklist.covers task = true) {seq : Seq}
    (inside : task.contains seq = true) : manager.Fetches task.key seq := by
  obtain ⟨slot, member, covers⟩ := List.any_eq_true.mp covered
  obtain ⟨key, spans⟩ := Bool.and_eq_true_iff.mp covers
  have key : slot.task.key = task.key := of_decide_eq_true key
  have live := Worklist.mem_liveTasks.mpr
    ⟨slot, member, ⟨fresh.live slot member, key⟩, rfl⟩
  exact ⟨slot.task, live, FetchTask.contains_of_spans spans inside⟩

/-- An added task is fetched from then on, and so is all that was before. -/
theorem Fresh.enqueue (fresh : manager.Fresh volume) (now : Instant)
    (resolve : DeviceId → Name) (task : FetchTask) :
    ∃ added next left, manager.enqueue volume now resolve task = (.ok added, next, left) ∧
      next.Fresh left ∧ (∀ key seq, manager.Fetches key seq → next.Fetches key seq) ∧
      ∀ seq, task.contains seq = true → next.Fetches task.key seq := by
  rcases enterEnqueue_cases fresh.running resolve task with
    ⟨hint, entered⟩ | ⟨answered, refused⟩
  · have begun : Backed manager.worklist volume.store (some (.storing task hint)) :=
      .of_holds (fun key other member => fresh.backed.holds (by simp [fresh.free]) member) (by simp)
    have stored : StepBacked ((manager.goOn (.storing task hint)).advance volume now) := by
      show StepBacked ((manager.goOn _).perform volume now (.storing task hint))
      exact backed_storing begun
    have kept := manager.advance_storing fresh.medium now task hint
    rw [kept] at stored
    have inserted : StepBacked ((manager.goOn (.inserting task hint)).advance
        { volume with store := (volume.store.mergeTask task).2 } now) := by
      show StepBacked ((manager.goOn _).perform _ now (.inserting task hint))
      exact backed_inserting stored
    have left := advance_inserting fresh.running
      { volume with store := (volume.store.mergeTask task).2 } now task hint
    rw [left] at inserted
    have after : Fresh { manager.leave with
        worklist := manager.worklist.insert task
          (.start task hint manager.config.maxRetryPause now) }
        { volume with store := (volume.store.mergeTask task).2 } := by
      refine ⟨fresh.running, rfl, fresh.medium, fun slot member => ?_, inserted⟩
      rcases Worklist.mem_insert.mp member with rfl | old
      · rfl
      · exact fresh.live slot old
    refine ⟨true, _, _, ?_, after, ?_, ?_⟩
    · simp only [FetchManager.enqueue, entered, settle, kept, left, Option.getD_some]
    · rintro key seq ⟨other, member, inside⟩
      exact ⟨other, Worklist.mem_liveTasks_insert.mpr (Or.inr member), inside⟩
    · intro seq inside
      exact ⟨task, Worklist.mem_liveTasks_insert.mpr (Or.inl ⟨rfl, rfl⟩), inside⟩
  · refine ⟨false, manager, volume, ?_, fresh, fun _ _ => id, fun seq inside => ?_⟩
    · simp only [FetchManager.enqueue, answered]
    · rcases refused with empty | covered
      · obtain ⟨above, upto⟩ := (task.contains_iff seq).mp inside
        have none : task.maxSeq < task.minSeq := of_decide_eq_true empty
        exact absurd (above.trans upto) (not_le.mpr none)
      · exact fresh.fetches_of_covers covered inside

/-- All of several added tasks are fetched. -/
theorem Fresh.enqueueAll (fresh : manager.Fresh volume) (now : Instant)
    (resolve : DeviceId → Name) (tasks : List FetchTask) (count : Nat) :
    ∃ total next left,
      FetchManager.enqueueAll volume now resolve tasks count manager = (.ok total, next, left) ∧
        next.Fresh left ∧ (∀ key seq, manager.Fetches key seq → next.Fetches key seq) ∧
        ∀ task ∈ tasks, ∀ seq, task.contains seq = true → next.Fetches task.key seq := by
  induction tasks generalizing manager volume count with
  | nil => exact ⟨count, manager, volume, rfl, fresh, fun _ _ => id, nofun⟩
  | cons task rest ih =>
    obtain ⟨added, next, left, outcome, fresh, kept, taken⟩ := fresh.enqueue now resolve task
    obtain ⟨total, last, final, later, facts, keeps, others⟩ :=
      ih fresh (if added then count + 1 else count)
    refine ⟨total, last, final, ?_, facts, fun key seq before => keeps key seq (kept key seq before),
      List.forall_mem_cons.mpr ⟨?_, others⟩⟩
    · simp only [FetchManager.enqueueAll, outcome, later]
    · exact fun seq inside => keeps task.key seq (taken seq inside)

/-- What is there before a node joins its group: a manager that fetches all that the stored
tasks ask for. -/
theorem fresh_prepare (config : NodeConfig) (device : DeviceId) (store : MemoryStore)
    (now : Instant) :
    ∃ locators manager volume,
      Node.prepare config device (.ofStore store) now = (.ok (locators, manager), volume) ∧
        manager.Fresh volume ∧
        ∀ task ∈ store.tasks, ∀ seq, task.contains seq = true → manager.Fetches task.key seq := by
  obtain ⟨next, told, -, tasks⟩ := Node.storeLocator_ofStore config device store
  obtain ⟨locators, known⟩ := Node.storedLocators_ofStore next
  have listed : (Volume.ofStore next).listTasks = .ok store.tasks := congrArg Except.ok tasks
  obtain ⟨total, manager, volume, outcome, fresh, -, taken⟩ :=
    (fresh_new config.fetch next).enqueueAll now locators.resolve store.tasks 0
  refine ⟨locators, manager.start, volume, ?_,
    ⟨fresh.running, fresh.free, fresh.medium, fresh.live, fresh.backed⟩, taken⟩
  simp only [Node.prepare, told, known, restore, listed, outcome]

end FetchManager

namespace NodeScene

variable {scene : NodeScene} {config : NodeConfig} {device : DeviceId} {first : Snapshot}
  {now : Instant}

/-- The stored tasks back the unfinished entries, and what has entered knows what is left of
the key that it is about. -/
structure Persistent (scene : NodeScene) : Prop where
  awaits : scene.node.fetch.worklist.Awaits scene.node.fetch.step
  backed : Backed scene.node.fetch.worklist scene.volume.store scene.node.fetch.step

/-- A node starts, and it fetches all that the stored tasks ask for. -/
theorem exists_join (config : NodeConfig) (device : DeviceId) (store : MemoryStore)
    (now : Instant) :
    ∃ scene, join config device store now = .ok scene ∧ scene.Persistent ∧
      scene.node.config = config ∧
      ∀ task ∈ store.tasks, ∀ seq, task.contains seq = true →
        scene.node.fetch.Fetches task.key seq := by
  obtain ⟨locators, manager, volume, ready, fresh, taken⟩ :=
    FetchManager.fresh_prepare config device store now
  have whole := Volume.eq_ofStore fresh.medium
  have joined : join config device store now = .ok
      ⟨Node.start config device volume.store.rememberState.1 locators manager now,
        .ofStore volume.store.rememberState.2, [], .idle⟩ := by
    rw [whole] at ready
    simp only [join, ready, Volume.rememberState_ofStore]
  refine ⟨_, joined, ⟨?_, fresh.backed.congr rfl⟩, rfl, taken⟩
  show manager.worklist.Awaits manager.step
  rw [fresh.free]
  trivial

/-- What is stored is fetched after the next start. -/
theorem exists_join_fetching {left : NodeScene} (device : DeviceId) (now : Instant) :
    ∃ again, join left.node.config device left.volume.store now = .ok again ∧
      ∀ other seq, left.HasStored other seq → again.IsFetching other seq := by
  obtain ⟨again, joined, -, same, taken⟩ :=
    exists_join left.node.config device left.volume.store now
  refine ⟨again, joined, ?_⟩
  rintro other seq ⟨row, found, inside⟩
  have key := MemoryStore.key_of_task? found
  have fetches := taken row (MemoryStore.mem_of_task? found) seq inside
  rw [key] at fetches
  unfold IsFetching
  rw [same]
  exact fetches

/-! ## Events -/

/-- The manager of a node with its store and the attempts of the pipelines. -/
def managing (scene : NodeScene) : ManagerScene :=
  ⟨scene.node.fetch, scene.volume, scene.attempts⟩

/-- The manager and the store are as before, or as after something that may happen to a
manager. -/
inductive Follows (before after : NodeScene) : Prop where
  | same (fetch : after.node.fetch = before.node.fetch) (volume : after.volume = before.volume)
  | managed (now : Instant) (event : ManagerEvent)
      (fetch : after.node.fetch = (before.managing.react now event).manager)
      (volume : after.volume = (before.managing.react now event).volume)

theorem follows_enqueue (free : ¬ scene.isTaken = true) {task : FetchTask} {fetch : FetchManager}
    (entered : scene.node.fetch.enterEnqueue scene.node.locators.resolve task = .entered fetch)
    (dispatcher : Dispatcher) :
    Follows scene { scene.withFetch fetch with dispatcher } := by
  have happened : scene.managing.react 0 (.enqueue scene.node.locators.resolve task) =
      ⟨fetch, scene.volume, scene.attempts⟩ := by
    simp only [ManagerScene.react, managing, entered]
    exact if_neg free
  exact .managed 0 (.enqueue scene.node.locators.resolve task) (by rw [happened]; rfl)
    (by rw [happened]; rfl)

theorem follows_dispatch (scene : NodeScene) : Follows scene scene.dispatch := by
  unfold dispatch
  split
  · split <;> exact .same rfl rfl
  · rename_i rest _
    cases rest with
    | nil => exact .same rfl rfl
    | cons record rest =>
      simp only [sort]
      obtain ⟨locators, learnt⟩ := scene.node.learnLocator_eq record
      rw [learnt]
      split
      · exact .same rfl rfl
      · split <;> exact .same rfl rfl
  · unfold submit
    split
    · exact .same rfl rfl
    · rename_i free
      split
      · exact .same rfl rfl
      · rename_i entered
        exact follows_enqueue free entered _
  · exact .same rfl rfl

theorem follows_request (scene : NodeScene) (now : Instant) (producer : DeviceId)
    (low high : Seq) (priority : Priority) :
    Follows scene (scene.react now (.request producer low high priority)) := by
  simp only [react]
  split
  · exact .same rfl rfl
  · rename_i free
    split
    · exact .same rfl rfl
    · rename_i entered
      exact follows_enqueue free entered scene.dispatcher

theorem follows_look (running : scene.node.fetch.worklist.stopped = false) (now : Instant) :
    Follows scene (scene.look now) := by
  simp only [look, Node.look]
  split
  · have happened : scene.managing.react now .look =
        ⟨(scene.node.fetch.schedule now).1, scene.volume,
          scene.attempts ++ (scene.node.fetch.schedule now).2⟩ := by
      simp only [ManagerScene.react, managing, running, Bool.false_eq_true, if_false]
    exact .managed now .look (by rw [happened]) (by rw [happened])
  · exact .same rfl rfl

theorem isUnderWay_of_getElem? {place : Nat} {id : FetcherId} {fetcher : Fetcher}
    {stage : PipelineStage} (there : scene.pipelines[place]? = some ⟨id, fetcher, stage⟩) :
    scene.managing.isUnderWay id fetcher = true := by
  have listed : (id, fetcher) ∈ scene.attempts :=
    List.mem_map_of_mem (List.mem_of_getElem? there)
  exact List.any_eq_true.mpr ⟨_, listed, by simp⟩

theorem follows_conclude (scene : NodeScene) (now : Instant) (place : Nat) :
    Follows scene (scene.conclude now place) := by
  unfold conclude
  split
  · rename_i id fetcher there
    split
    · exact .same rfl rfl
    · rename_i free
      have happened : scene.managing.react now (.complete id fetcher) =
          ⟨scene.node.fetch.enterComplete now id fetcher.task.key, scene.volume,
            scene.managing.without id⟩ := by
        have free : ¬ scene.managing.isTaken = true := free
        simp only [ManagerScene.react, isUnderWay_of_getElem? there, free, Bool.not_true,
          Bool.or_self, Bool.false_eq_true, if_false]
        rfl
      exact .managed now (.complete id fetcher) (by rw [happened]; rfl) (by rw [happened]; rfl)
  · rename_i id fetcher there
    have happened : scene.managing.react now (.fail scene.node.locators.resolve id fetcher) =
        ⟨scene.node.fetch.fail now scene.node.locators.resolve id fetcher, scene.volume,
          scene.managing.without id⟩ := if_pos (isUnderWay_of_getElem? there)
    exact .managed now (.fail scene.node.locators.resolve id fetcher) (by rw [happened]; rfl)
      (by rw [happened]; rfl)
  · exact .same rfl rfl

/-- What happens to a node apart from its sync core is nothing new to its manager. -/
theorem Sound.follows (sound : scene.Sound config device first) (now : Instant)
    {event : NodeEvent} (apart : ∀ input, event ≠ .sync input) :
    Follows scene (scene.react now event) := by
  cases event with
  | sync input => exact absurd rfl (apart input)
  | dispatch => exact follows_dispatch scene
  | request producer low high priority => exact follows_request scene now producer low high priority
  | advance => exact .managed now .advance rfl rfl
  | look => exact follows_look sound.fetch.running now
  | begin place =>
    simp only [NodeScene.react, NodeScene.begin]
    split <;> exact .same rfl rfl
  | resolve place seq answer =>
    simp only [NodeScene.react, NodeScene.resolve]
    split
    · split <;> exact .same rfl rfl
    · exact .same rfl rfl
  | conclude place => exact follows_conclude scene now place

theorem Persistent.sync (persistent : scene.Persistent) (sound : scene.Sound config device first)
    (input : PeerInput) : (scene.react now (.sync input)).Persistent := by
  have told := Node.hear_eq sound.running sound.rooted.running scene.volume.store now input
  rw [← Volume.eq_ofStore sound.medium] at told
  have tasks := (sound.rooted.advances_turn now input).tasks_eq
  have after : (scene.react now (.sync input)).volume.store.tasks = scene.volume.store.tasks := by
    simp only [react, told]
    exact tasks
  have fetch : (scene.react now (.sync input)).node.fetch = scene.node.fetch := by
    simp only [react, told]
    rfl
  refine ⟨?_, ?_⟩
  · rw [fetch]
    exact persistent.awaits
  · rw [fetch]
    exact persistent.backed.congr after

/-- Every event keeps the unfinished entries backed. -/
theorem Persistent.react (persistent : scene.Persistent)
    (sound : scene.Sound config device first) (now : Instant) (event : NodeEvent) :
    (scene.react now event).Persistent := by
  by_cases apart : ∀ input, event ≠ .sync input
  · cases sound.follows now apart with
    | same fetch volume =>
      refine ⟨?_, ?_⟩
      · rw [fetch]
        exact persistent.awaits
      · rw [fetch, volume]
        exact persistent.backed
    | managed now act fetch volume =>
      have steady : scene.managing.Steady := ⟨sound.fetch.tidy, sound.linked, sound.fetch.running⟩
      have safe : ¬ scene.managing.Loses act := fun loses => by
        obtain ⟨-, left, -, faulty, -⟩ := loses
        exact faulty sound.medium
      refine ⟨?_, ?_⟩
      · rw [fetch]
        exact ManagerScene.awaits_react steady persistent.awaits now act
      · rw [fetch, volume]
        exact ManagerScene.backed_react steady persistent.awaits persistent.backed now safe
  · obtain ⟨input, rfl⟩ := not_forall_not.mp apart
    exact persistent.sync sound input

/-- What a sound node has at the start and keeps with every event, it has at the end of a
run. -/
theorem Sound.run_induction {Kept : NodeScene → Prop}
    (step : ∀ (scene : NodeScene) (now : Instant) (event : NodeEvent),
      scene.Sound config device first → Kept scene → Kept (scene.react now event))
    (sound : scene.Sound config device first) (kept : Kept scene)
    {events : List (Instant × NodeEvent)} (allowed : ∀ event ∈ events, event.2.IsLow)
    (apart : Set.InjOn Snapshot.digest {state | state ∈ scene.states events})
    (below : ∀ state ∈ scene.states events, ∀ other, (state.seqOf other).toNat + 1 < 2 ^ 64) :
    Kept (scene.run events) := by
  induction events generalizing scene with
  | nil => exact kept
  | cons event rest ih =>
    have later : ∀ state ∈ (scene.react event.1 event.2).states rest,
        state ∈ scene.states (event :: rest) := fun state member => List.mem_cons_of_mem _ member
    have after := later _ (current_mem_states (scene.react event.1 event.2) rest)
    have next : (scene.react event.1 event.2).Sound config device first :=
      sound.react (allowed event List.mem_cons_self)
        (fun same => apart after List.mem_cons_self same) (below _ after)
    exact ih next (step scene event.1 event.2 sound kept)
      (fun other member => allowed other (List.mem_cons_of_mem _ member))
      (fun left here right there same => apart (later left here) (later right there) same)
      (fun state member => below state (later state member))

/-! ## After the shutdown -/

/-- What has entered is about to store the task, or the task is stored and nothing can come
of what has entered but its entry. -/
inductive Stores (scene : NodeScene) (task : FetchTask) : Prop where
  | soon {hint : ForwardingHint} (next : scene.node.fetch.step = some (.storing task hint))
  | done (held : scene.volume.store.Holds task)
      (next : ∀ step ∈ scene.node.fetch.step, ∃ hint, step = .inserting task hint)

theorem Stores.advance {task : FetchTask} (stores : scene.Stores task)
    (medium : scene.volume.fault = none) (now : Instant) : (scene.advance now).Stores task := by
  have fetch : (scene.advance now).node.fetch = (scene.node.fetch.advance scene.volume now).1 := rfl
  have volume : (scene.advance now).volume = (scene.node.fetch.advance scene.volume now).2.1 := rfl
  cases stores with
  | soon next =>
    rw [FetchManager.advance_of_step next] at fetch volume
    simp only [FetchManager.perform, Volume.mergeTask, Volume.change, medium] at fetch volume
    refine .done ?_ ?_
    · rw [volume]
      exact MemoryStore.holds_mergeTask rfl task.spans_self
    · rw [fetch]
      rintro step ⟨⟩
      exact ⟨_, rfl⟩
  | done held next =>
    cases stands : scene.node.fetch.step with
    | none =>
      rw [FetchManager.advance_of_free stands] at fetch volume
      exact .done (volume ▸ held) (fetch ▸ next)
    | some step =>
      obtain ⟨hint, rfl⟩ := next step stands
      rw [FetchManager.advance_of_step stands] at fetch volume
      simp only [FetchManager.perform] at fetch volume
      split at fetch
      · rename_i stopped
        rw [if_pos stopped] at volume
        exact .done (volume ▸ held) (by rw [fetch]; rintro step ⟨⟩)
      · rename_i running
        rw [if_neg running] at volume
        exact .done (volume ▸ held) (by rw [fetch]; rintro step ⟨⟩)

/-- What is left of a node that was shut down, while what had entered takes its steps. -/
structure Remains (last left : NodeScene) : Prop where
  persistent : left.Persistent
  medium : left.volume.fault = none
  config : left.node.config = last.node.config
  state : left.volume.store.currentState = last.volume.store.currentState
  live : ∀ key, ∀ task ∈ last.node.fetch.worklist.liveTasks key,
    task ∈ left.node.fetch.worklist.liveTasks key
  entering : ∀ task ∈ last.node.fetch.adding, left.Stores task

variable {last left : NodeScene}

theorem remains_shutdown (sound : last.Sound config device first)
    (persistent : last.Persistent) : last.Remains last.shutdown where
  persistent := ⟨persistent.awaits.congr fun _ => rfl, persistent.backed.fewer fun _ _ => id⟩
  medium := sound.medium
  config := rfl
  state := rfl
  live := fun _ _ member => member
  entering := by
    intro task member
    unfold FetchManager.adding at member
    split at member
    · rename_i stands
      cases member
      exact .soon stands
    · rename_i hint stands
      cases member
      refine .done (persistent.backed.added task hint stands) ?_
      intro step next
      cases stands.symm.trans next
      exact ⟨hint, rfl⟩
    · cases member

theorem Remains.advance (remains : last.Remains left) (now : Instant) :
    last.Remains (left.advance now) := by
  have keeps : left.volume.KeepsLog (left.advance now).volume :=
    left.node.fetch.keepsLog_advance left.volume now
  have safe : ¬ left.volume.Loses left.node.fetch.step := fun loses => by
    obtain ⟨-, -, faulty, -⟩ := loses
    exact faulty remains.medium
  constructor
  case persistent =>
    exact ⟨FetchManager.awaits_advance remains.persistent.awaits,
      FetchManager.backed_advance remains.persistent.awaits remains.persistent.backed safe⟩
  case medium => exact keeps.fault.trans remains.medium
  case config => exact remains.config
  case state => exact keeps.state.trans remains.state
  case live =>
    intro key task member
    have listed := remains.live key task member
    show task ∈ (left.node.fetch.advance left.volume now).1.worklist.liveTasks key
    rcases left.node.fetch.worklist_advance left.volume now with kept | ⟨other, fetcher, -, added⟩
    · rwa [kept]
    · rw [added]
      exact Worklist.mem_liveTasks_insert.mpr (Or.inr listed)
  case entering =>
    exact fun task member => (remains.entering task member).advance remains.medium now

theorem Remains.drain (remains : last.Remains left) (clock : List Instant) :
    last.Remains (left.drain clock) := by
  induction clock generalizing left with
  | nil => exact remains
  | cons now rest ih => exact ih (remains.advance now)

theorem hasStored_of_holds {other : DeviceId} {seq : Seq} {task : FetchTask}
    (held : scene.volume.store.Holds task)
    (key : task.key = ⟨other, scene.node.config.actionBase other⟩)
    (inside : task.contains seq = true) : scene.HasStored other seq := by
  obtain ⟨row, stored, spanned⟩ := held
  rw [key] at stored
  exact ⟨row, stored, FetchTask.contains_of_spans spanned inside⟩

/-- The number of an unfinished entry lies in the range of the stored task, or is just about
to be stored with it again. -/
theorem Remains.of_live (remains : last.Remains left) {other : DeviceId} {seq : Seq}
    {task : FetchTask} (member : task ∈ last.node.fetch.worklist.liveTasks (last.keyOf other))
    (inside : task.contains seq = true) : left.HasStored other seq ∨ left.Withholds other seq := by
  have listed := remains.live _ task member
  have key : task.key = ⟨other, left.node.config.actionBase other⟩ := by
    rw [remains.config]
    exact Worklist.key_of_mem_liveTasks member
  by_cases removed : ∃ span, left.node.fetch.step = some (.respanning span) ∧ span.key = task.key
  · obtain ⟨span, next, same⟩ := removed
    have awaits := remains.persistent.awaits
    rw [next] at awaits
    have among : task ∈ left.node.fetch.worklist.liveTasks span.key := by
      rw [same, Worklist.key_of_mem_liveTasks member]
      exact listed
    have spanned := (Worklist.isHull_span awaits).spans among
    exact Or.inr (.respanning next (same.trans key) (FetchTask.contains_of_spans spanned inside))
  · have held : left.volume.store.Holds task := by
      refine remains.persistent.backed.entries _ task listed ?_
      intro span next same
      refine absurd ⟨span, next, ?_⟩ removed
      rw [← same, Worklist.key_of_mem_liveTasks member]
    exact Or.inl (hasStored_of_holds held key inside)

/-- The number of a task with which the dispatcher has entered is stored, or is about to be. -/
theorem Remains.of_entered (remains : last.Remains left) {other : DeviceId} {seq : Seq}
    {task : FetchTask} (member : task ∈ last.node.fetch.adding) (key : task.key = last.keyOf other)
    (inside : task.contains seq = true) : left.HasStored other seq ∨ left.Withholds other seq := by
  have key : task.key = ⟨other, left.node.config.actionBase other⟩ := by
    rw [remains.config]
    exact key
  cases remains.entering task member with
  | soon next => exact Or.inr (.storing next key inside)
  | done held _ => exact Or.inl (hasStored_of_holds held key inside)

/-- What a node keeps track of is in the log, or it is left in the store or in memory. -/
theorem Remains.of_tracks (remains : last.Remains left) {other : DeviceId} {seq : Seq}
    (tracks : last.Tracks other seq) :
    last.node.log.HasApplied other seq ∨ left.HasStored other seq ∨ last.Drops other seq ∨
      left.Withholds other seq := by
  have settled (remaining : left.HasStored other seq ∨ left.Withholds other seq) :
      last.node.log.HasApplied other seq ∨ left.HasStored other seq ∨ last.Drops other seq ∨
        left.Withholds other seq :=
    Or.inr (remaining.imp_right Or.inr)
  cases tracks with
  | applied inLog => exact Or.inl inLog
  | listed member inside => exact settled (remains.of_live member inside)
  | owed owes =>
    cases owes with
    | carried member key inside =>
      unfold carried at member
      split at member
      · rename_i stands
        cases member
        exact Or.inr (Or.inr (Or.inl (.waiting stands key inside)))
      · exact settled (remains.of_entered member key inside)
      · cases member
    | reported member device missing =>
      exact Or.inr (Or.inr (Or.inl (.reported member device missing)))

theorem not_drops_of_idle (idle : scene.dispatcher = .idle) (bare : scene.node.queue = [])
    {other : DeviceId} {seq : Seq} : ¬ scene.Drops other seq := by
  rintro (⟨member, -, -⟩ | ⟨stands, -, -⟩)
  · rw [idle, bare] at member
    cases member
  · cases idle.symm.trans stands

theorem not_withholds_of_free (free : scene.node.fetch.step = none) {other : DeviceId}
    {seq : Seq} : ¬ scene.Withholds other seq := by
  rintro (⟨next, -, -⟩ | ⟨next, -, -⟩) <;> cases free.symm.trans next

/-! ## Restarts -/

/-- A node starts on every sound store, and may be shut down between any two events, while what
has entered its manager takes some of its steps still or none.  If no two of its states share
a digest and no number reaches the highest one: each number of another device that is stored
then and was not at the start has its record in the log, or lies in the range of the stored
task for that device, or was in memory alone, where the dispatcher had it or what has entered
has it still.  So nothing is lost if the dispatcher has come to the end of all changes, and
what has entered has left; for what lies in the range of a stored task is fetched after the
next start. -/
theorem shutdown_keeps_all_but_memory (config : NodeConfig) (device : DeviceId)
    (store : MemoryStore) (start : Instant)
    (stored : ∀ task ∈ store.tasks, task.maxSeq.toNat + 1 < 2 ^ 64)
    {events : List (Instant × NodeEvent)} (requested : ∀ event ∈ events, event.2.IsLow) :
    ∃ first, join config device store start = .ok first ∧
      (Set.InjOn Snapshot.digest {state | state ∈ first.states events} →
        (∀ state ∈ first.states events, ∀ entry ∈ state.entries, entry.2.toNat + 1 < 2 ^ 64) →
        ∀ clock,
        let last := first.run events
        let left := last.shutdown.drain clock
        (∀ other, other ≠ device → ∀ seq, (store.deviceSeq other).getD 0 < seq →
          seq ≤ (left.volume.store.deviceSeq other).getD 0 →
            last.node.log.HasApplied other seq ∨ left.HasStored other seq ∨
              last.Drops other seq ∨ left.Withholds other seq) ∧
        (last.dispatcher = .idle → last.node.queue = [] → left.node.fetch.step = none →
          ∀ other, other ≠ device → ∀ seq, (store.deviceSeq other).getD 0 < seq →
            seq ≤ (left.volume.store.deviceSeq other).getD 0 →
              last.node.log.HasApplied other seq ∨ left.HasStored other seq) ∧
        ∀ later, ∃ again, join config device left.volume.store later = .ok again ∧
          ∀ other seq, left.HasStored other seq → again.IsFetching other seq) := by
  obtain ⟨first, joined, sound⟩ := sound_join config device stored start
  refine ⟨first, joined, fun apart below clock => ?_⟩
  intro last left
  have low : ∀ state ∈ first.states events, ∀ other, (state.seqOf other).toNat + 1 < 2 ^ 64 := by
    intro state member other
    rcases state.seqOf_cases other with entry | zero
    · exact below state member _ entry
    · rw [zero]
      decide
  have begun : first.Persistent := by
    obtain ⟨scene, started, persistent, -, -⟩ := exists_join config device store start
    cases started.symm.trans joined
    exact persistent
  have after : last.Sound config device store.currentState := sound.run requested apart low
  have persistent : last.Persistent :=
    sound.run_induction (fun _ now event sound kept => Persistent.react kept sound now event)
      begun requested apart low
  have remains : last.Remains left := (remains_shutdown after persistent).drain clock
  have all : ∀ other, other ≠ device → ∀ seq, (store.deviceSeq other).getD 0 < seq →
      seq ≤ (left.volume.store.deviceSeq other).getD 0 →
        last.node.log.HasApplied other seq ∨ left.HasStored other seq ∨
          last.Drops other seq ∨ left.Withholds other seq := by
    intro other foreign seq above upto
    have above : store.currentState.seqOf other < seq := by
      rw [MemoryStore.seqOf_currentState]
      exact above
    have upto : seq ≤ last.volume.store.currentState.seqOf other := by
      rw [← remains.state, MemoryStore.seqOf_currentState]
      exact upto
    exact remains.of_tracks (after.tracks other foreign seq above upto)
  refine ⟨all, fun idle bare free other foreign seq above upto => ?_, fun later => ?_⟩
  · rcases all other foreign seq above upto with inLog | kept | dropped | withheld
    · exact Or.inl inLog
    · exact Or.inr kept
    · exact absurd dropped (not_drops_of_idle idle bare)
    · exact absurd withheld (not_withholds_of_free free)
  · have same : left.node.config = config := remains.config.trans after.config_eq
    rw [← same]
    exact exists_join_fetching device later

/-- After the errand the node is shut down: the first record is in the log, and the second
one is asked for by the stored task and fetched after the next start. -/
theorem shutdown_keeps_all_but_memory_errand :
    let left := (newcomer.run errand).shutdown.drain []
    (newcomer.run errand).node.log.appliedFrom ⟨.ofTexts ["b"]⟩ = [(1, [7])] ∧
      left.HasStored ⟨.ofTexts ["b"]⟩ 2 ∧
      ∃ again, join .fast ⟨.ofTexts ["a"]⟩ left.volume.store 9 = .ok again ∧
        again.IsFetching ⟨.ofTexts ["b"]⟩ 2 := by
  intro left
  have joined : join .fast ⟨.ofTexts ["a"]⟩ .empty 0 = .ok newcomer := rfl
  have requested : ∀ event ∈ errand, event.2.IsLow := by simp [errand, NodeEvent.IsLow]
  have low : ∀ task ∈ MemoryStore.empty.tasks, task.maxSeq.toNat + 1 < 2 ^ 64 := by
    simp [MemoryStore.empty]
  obtain ⟨first, started, kept⟩ :=
    shutdown_keeps_all_but_memory .fast ⟨.ofTexts ["a"]⟩ .empty 0 low requested
  cases joined.symm.trans started
  have distinct : ((newcomer.states errand).eraseDups.map Snapshot.digest).Nodup := by
    decide +kernel
  have apart : Set.InjOn Snapshot.digest {state | state ∈ newcomer.states errand} :=
    fun _ here _ there => List.inj_on_of_nodup_map distinct (List.mem_eraseDups.mpr here)
      (List.mem_eraseDups.mpr there)
  have below : ∀ state ∈ newcomer.states errand, ∀ entry ∈ state.entries,
      entry.2.toNat + 1 < 2 ^ 64 := by decide +kernel
  have ends : (newcomer.run errand).dispatcher = .idle ∧
      (newcomer.run errand).node.queue = [] ∧
      ((newcomer.run errand).shutdown.drain []).node.fetch.step = none ∧
      (2 : Seq) ≤ (((newcomer.run errand).shutdown.drain []).volume.store.deviceSeq
        ⟨.ofTexts ["b"]⟩).getD 0 ∧
      (newcomer.run errand).node.log.appliedFrom ⟨.ofTexts ["b"]⟩ = [(1, [7])] := by
    decide +kernel
  obtain ⟨idle, bare, free, upto, log⟩ := ends
  obtain ⟨-, settled, restarts⟩ := kept apart below []
  have there : left.HasStored ⟨.ofTexts ["b"]⟩ 2 := by
    rcases settled idle bare free ⟨.ofTexts ["b"]⟩ (by decide +kernel) 2 (by decide +kernel) upto
      with ⟨content, inLog⟩ | there
    · rw [log] at inLog
      simp at inLog
    · exact there
  obtain ⟨again, joined, fetched⟩ := restarts 9
  exact ⟨log, there, again, joined, fetched _ _ there⟩

/-- The node hears of the two records, and that is all. -/
def rumour : List (Instant × NodeEvent) := errand.take 1

/-- Shut down before the dispatcher comes to it, the node has the numbers of two records that
are neither in the log nor asked for by a stored task; and when it starts again, its state has
them already, and there is nothing to fetch. -/
theorem shutdown_forgets_rumour :
    let left := (newcomer.run rumour).shutdown
    join .fast ⟨.ofTexts ["a"]⟩ .empty 0 = .ok newcomer ∧
      ((newcomer.states rumour).map Snapshot.digest).Nodup ∧
      left.volume.store.deviceSeq ⟨.ofTexts ["b"]⟩ = some 2 ∧
      left.node.log.appliedFrom ⟨.ofTexts ["b"]⟩ = [] ∧ left.volume.store.tasks = [] ∧
      ∃ again, join .fast ⟨.ofTexts ["a"]⟩ left.volume.store 9 = .ok again ∧
        again.volume.store.currentState.seqOf ⟨.ofTexts ["b"]⟩ = 2 ∧
        again.node.fetch.worklist.slots = [] := by
  have heard : (newcomer.run rumour).shutdown.volume.store.deviceSeq ⟨.ofTexts ["b"]⟩ = some 2 ∧
      (newcomer.run rumour).shutdown.node.log.appliedFrom ⟨.ofTexts ["b"]⟩ = [] ∧
      (newcomer.run rumour).shutdown.volume.store.tasks = [] := by decide +kernel
  have again : ((join .fast ⟨.ofTexts ["a"]⟩ (newcomer.run rumour).shutdown.volume.store 9).map
      fun scene => (scene.volume.store.currentState.seqOf ⟨.ofTexts ["b"]⟩,
        scene.node.fetch.worklist.slots)).toOption = some (2, []) := by decide +kernel
  obtain ⟨sequence, log, tasks⟩ := heard
  refine ⟨rfl, by decide +kernel, sequence, log, tasks, ?_⟩
  rcases started : join .fast ⟨.ofTexts ["a"]⟩ (newcomer.run rumour).shutdown.volume.store 9
    with _ | scene
  · rw [started] at again
    cases again
  · rw [started] at again
    obtain ⟨state, slots⟩ := Prod.mk.inj (Option.some.inj again)
    exact ⟨scene, rfl, state, slots⟩

end NodeScene

end DigestSync
