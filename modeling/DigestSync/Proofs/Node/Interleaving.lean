import DigestSync.Proofs.Node.Start

set_option autoImplicit false

/-! # No update is lost

The manager makes entries of the tasks that have entered, and the pipelines bring the
records of the entries to the log.  So every event keeps track of the numbers that the
state has gained.  Once the dispatcher has come to the end of all changes, their records
are in the log or to be fetched by unfinished entries.
-/

namespace DigestSync

open scoped SeqOrder

/-- A peer stays rooted when its log is kept. -/
theorem Volume.KeepsLog.rooted {core : SyncCore} {before after : Volume}
    (keeps : before.KeepsLog after) (rooted : Peer.Rooted ⟨core, before.store⟩) :
    Peer.Rooted ⟨core, after.store⟩ where
  root_eq := rooted.root_eq.trans (congrArg Snapshot.digest keeps.state.symm)
  kept := by
    have kept := rooted.kept
    rw [← keeps.digests, ← keeps.state] at kept
    exact kept
  running := rooted.running

namespace NodeScene

variable {scene : NodeScene} {config : NodeConfig} {device : DeviceId} {first : Snapshot}
  {now : Instant}

/-! ## The manager -/

theorem waiting_of_resume {dispatcher : Dispatcher} {step : Option PersistStep}
    {task : FetchTask} {rest : List DeltaRecord}
    (waits : dispatcher.resume step = .waiting task rest) : dispatcher = .waiting task rest := by
  unfold Dispatcher.resume at waits
  split at waits
  · cases waits
  · exact waits

theorem rest_resume (dispatcher : Dispatcher) (step : Option PersistStep) :
    (dispatcher.resume step).rest = dispatcher.rest := by
  cases step <;> cases dispatcher <;> rfl

theorem pending_advance (scene : NodeScene) (now : Instant) :
    (scene.advance now).pending = scene.pending := by
  unfold NodeScene.pending
  rw [← rest_resume scene.dispatcher (scene.node.fetch.advance scene.volume now).1.step]
  rfl

/-- A step of the manager leaves what the dispatcher carries or adds it. -/
theorem Sound.carried_advance (sound : scene.Sound config device first) {task : FetchTask}
    (member : task ∈ scene.carried) :
    task ∈ (scene.advance now).carried ∨
      task ∈ (scene.advance now).node.fetch.worklist.liveTasks task.key := by
  have after : (scene.advance now).dispatcher = scene.dispatcher.resume
      (scene.node.fetch.advance scene.volume now).1.step := rfl
  unfold NodeScene.carried at member
  split at member
  · rename_i other rest stands
    refine Or.inl ?_
    unfold NodeScene.carried
    rw [after, stands]
    cases (scene.node.fetch.advance scene.volume now).1.step <;> exact member
  · rename_i rest stands
    rcases FetchManager.adding_advance sound.fetch.running sound.medium member with
      still | added
    · refine Or.inl ?_
      obtain ⟨step, entered⟩ :=
        Option.isSome_iff_exists.mp (FetchManager.step_isSome_of_adding still)
      unfold NodeScene.carried
      rw [after, stands, entered]
      exact still
    · exact Or.inr added
  · cases member

theorem Sound.advance (sound : scene.Sound config device first) :
    (scene.advance now).Sound config device first := by
  have keeps := scene.node.fetch.keepsLog_advance scene.volume now
  refine { sound with
    rooted := keeps.rooted sound.rooted
    medium := keeps.fault.trans sound.medium
    fetch := sound.fetch.advance sound.medium now
    linked := FetchManager.linked_advance sound.linked scene.volume now
    waiting := fun task rest stands => sound.waiting task rest (waiting_of_resume stands)
    pending := by
      rw [pending_advance]
      exact sound.pending
    tracks := ?_ }
  intro other foreign seq above upto
  have same : (scene.advance now).volume.store.currentState = scene.volume.store.currentState :=
    keeps.state
  rw [same] at upto
  cases sound.tracks other foreign seq above upto with
  | applied inLog => exact .applied inLog
  | listed member inside =>
    exact .listed (FetchManager.mem_liveTasks_advance sound.fetch.running sound.medium member)
      inside
  | owed owes =>
    cases owes with
    | carried member key inside =>
      rcases sound.carried_advance member with still | added
      · exact .owed (.carried still key inside)
      · exact .listed (key ▸ added) inside
    | reported member device missing =>
      rw [← pending_advance scene now] at member
      exact .owed (.reported member device missing)

/-- An event that leaves the sync core, the volume and the dispatcher, and drops no record
from the log. -/
theorem Sound.serve (sound : scene.Sound config device first) {fetch : FetchManager}
    {log : ActionLog} {pipelines : List Pipeline}
    (grown : ∀ producer seq, scene.node.log.HasApplied producer seq → log.HasApplied producer seq)
    (honest : fetch.Honest log)
    (linked : Linked fetch.worklist
      (pipelines.map fun pipeline => (pipeline.id, pipeline.fetcher)))
    (backed : ∀ pipeline ∈ pipelines, pipeline.Honest log)
    (adding : ∀ task ∈ scene.node.fetch.adding, task ∈ fetch.adding)
    (listed : ∀ key, ∀ task ∈ scene.node.fetch.worklist.liveTasks key,
      (∀ seq, task.contains seq = true → log.HasApplied task.producer seq) ∨
        task ∈ fetch.worklist.liveTasks key) :
    Sound config device first
      ⟨{ scene.node with fetch, log }, scene.volume, pipelines, scene.dispatcher⟩ := by
  refine { sound with fetch := honest, linked, pipelines := backed, tracks := ?_ }
  intro other foreign seq above upto
  cases sound.tracks other foreign seq above upto with
  | applied inLog => exact .applied (grown _ _ inLog)
  | listed member inside =>
    have key := Worklist.key_of_mem_liveTasks member
    have producer : FetchTask.producer _ = other := congrArg TaskKey.producer key
    rcases listed _ _ member with brought | stays
    · exact .applied (producer ▸ brought seq inside)
    · exact .listed stays inside
  | owed owes =>
    cases owes with
    | carried member key inside =>
      refine .owed (.carried ?_ key inside)
      unfold NodeScene.carried at member ⊢
      split at member
      · rename_i stands
        simp only [stands]
        exact member
      · rename_i stands
        simp only [stands]
        exact adding _ member
      · cases member
    | reported member device missing => exact .owed (.reported member device missing)

theorem Sound.look (sound : scene.Sound config device first) :
    (scene.look now).Sound config device first := by
  simp only [NodeScene.look, Node.look]
  by_cases scheduling : scene.node.fetch.isScheduling = true
  · rw [if_pos scheduling]
    apply sound.serve (fun _ _ inLog => inLog) sound.fetch.schedule
    · rw [List.map_append, List.map_map]
      have linked := sound.linked.schedule sound.fetch.tidy scene.node.fetch.config now
      simpa [attempts, Function.comp_def, FetchManager.schedule] using linked
    · intro pipeline member
      rcases List.mem_append.mp member with old | new
      · exact sound.pipelines pipeline old
      · obtain ⟨attempt, started, rfl⟩ := List.mem_map.mp new
        exact ⟨sound.fetch.of_mem_schedule started, nofun, nofun⟩
    · exact fun task member => member
    · intro key task member
      refine Or.inr ?_
      have same := Worklist.liveTasks_schedule scene.node.fetch.worklist scene.node.fetch.config
        now key
      rw [← same] at member
      exact member
  · rw [if_neg scheduling]
    simpa using sound

/-! ## Pipelines -/

/-- A step of a pipeline hands what has arrived to the log. -/
theorem Sound.absorb (sound : scene.Sound config device first) {place : Nat}
    {pipeline : Pipeline} (there : scene.pipelines[place]? = some pipeline)
    {trace : List FetchAction} {turn : FetchTurn}
    (outcome : Outcome pipeline.fetcher.task trace turn)
    (backed : ∀ seq ∈ FetchAction.delivered trace,
      scene.node.log.HasApplied pipeline.fetcher.task.producer seq)
    (handed : ∀ task seq content, .deliver task seq content ∈ turn.actions →
      task = pipeline.fetcher.task) :
    (scene.absorb place pipeline.id turn).Sound config device first := by
  have member := List.mem_of_getElem? there
  have grown : ∀ producer seq, scene.node.log.HasApplied producer seq →
      (scene.absorb place pipeline.id turn).node.log.HasApplied producer seq :=
    fun producer seq inLog => (Node.hasApplied_ofFetch _ _).mpr (Or.inl inLog)
  have brought : ∀ seq ∈ FetchAction.delivered turn.actions,
      (scene.absorb place pipeline.id turn).node.log.HasApplied
        pipeline.fetcher.task.producer seq := by
    intro seq delivered
    obtain ⟨task, content, inside⟩ := FetchAction.mem_delivered delivered
    have whose := handed task seq content inside
    subst whose
    exact (Node.hasApplied_ofFetch _ _).mpr
      (Or.inr ⟨_, _, content, List.mem_map_of_mem inside, rfl⟩)
  apply sound.serve grown (sound.fetch.mono grown)
  · intro attempt inside
    obtain ⟨other, among, rfl⟩ := List.mem_map.mp inside
    rcases List.mem_or_eq_of_mem_set among with old | rfl
    · exact sound.linked _ (List.mem_map_of_mem old)
    · have former := sound.linked _ (List.mem_map_of_mem member)
      exact ⟨former.1, fun slot found same => outcome.same.trans (former.2 slot found same)⟩
  · intro other among
    rcases List.mem_or_eq_of_mem_set among with old | rfl
    · exact (sound.pipelines other old).mono grown
    · exact .step outcome (sound.pipelines pipeline member).fetcher.low
        (fun seq old => grown _ _ (backed seq old)) brought pipeline.id
  · exact fun task member => member
  · exact fun key task member => Or.inr member

theorem Sound.begin (sound : scene.Sound config device first) (place : Nat) :
    (scene.begin place).Sound config device first := by
  unfold NodeScene.begin
  split
  · rename_i id fetcher there
    have honest := (sound.pipelines _ (List.mem_of_getElem? there)).fetcher
    obtain ⟨trace, ledger, backed⟩ := honest.backed
    exact sound.absorb there (Fetcher.outcome_begin ledger honest.low _) backed
      fun _ _ _ => Fetcher.task_of_deliver_begin
  · exact sound

theorem Sound.resolve (sound : scene.Sound config device first) (place : Nat) (seq : Seq)
    (answer : Option Bytes) : (scene.resolve now place seq answer).Sound config device first := by
  unfold NodeScene.resolve
  split
  · rename_i id fetcher window there
    split
    · rename_i waits
      have honest := sound.pipelines _ (List.mem_of_getElem? there)
      obtain ⟨trace, ledger, backed⟩ := honest.fetcher.backed
      exact sound.absorb there
        (Fetcher.outcome_receive ledger honest.fetcher.low (honest.pending window rfl) waits now
          answer) backed fun _ _ _ => Fetcher.task_of_deliver_receive
    · exact sound
  · exact sound

/-- The pipelines that are left when one has gone. -/
theorem Sound.linked_eraseIdx (sound : scene.Sound config device first) (place : Nat) :
    Linked scene.node.fetch.worklist
      ((scene.pipelines.eraseIdx place).map fun pipeline => (pipeline.id, pipeline.fetcher)) := by
  intro attempt inside
  obtain ⟨other, among, rfl⟩ := List.mem_map.mp inside
  exact sound.linked _ (List.mem_map_of_mem (List.mem_of_mem_eraseIdx among))

theorem Sound.conclude (sound : scene.Sound config device first) (place : Nat) :
    (scene.conclude now place).Sound config device first := by
  have left := sound.linked_eraseIdx place
  have others : ∀ pipeline ∈ scene.pipelines.eraseIdx place, pipeline.Honest scene.node.log :=
    fun pipeline among => sound.pipelines pipeline (List.mem_of_mem_eraseIdx among)
  unfold NodeScene.conclude
  split
  · rename_i id fetcher there
    have member := List.mem_of_getElem? there
    have own := sound.task_of_mem member
    have honest := sound.pipelines _ member
    have brought : ∀ seq, fetcher.task.contains seq = true →
        scene.node.log.HasApplied fetcher.task.producer seq :=
      fun seq => honest.fetcher.applied_of_isComplete (honest.completed rfl)
    split
    · exact sound
    · rename_i free
      apply sound.serve (fun _ _ inLog => inLog) (sound.fetch.enterComplete own brought)
      · exact FetchManager.linked_enterComplete left
      · exact others
      -- Whoever ends a completed attempt has entered, so no task is on its way.
      · intro task adding
        exact absurd (FetchManager.step_isSome_of_adding adding) free
      · intro key task listed
        rcases FetchManager.mem_liveTasks_enterComplete own listed with rfl | stays
        · exact Or.inl brought
        · exact Or.inr stays
  · rename_i id fetcher there
    have member := List.mem_of_getElem? there
    have own := sound.task_of_mem member
    have honest := sound.pipelines _ member
    apply sound.serve (fun _ _ inLog => inLog)
      (sound.fetch.fail scene.node.locators.resolve own honest.fetcher)
    · exact FetchManager.linked_fail left _
    · exact others
    · unfold FetchManager.adding
      rw [FetchManager.step_fail]
      exact fun task adding => adding
    · intro key task listed
      refine Or.inr ?_
      rw [FetchManager.liveTasks_fail sound.fetch.tidy]
      exact listed
  · exact sound

/-! ## Runs -/

/-- Every event keeps a node sound, if the digests tell the states before and after it apart,
and no number reaches the highest one. -/
theorem Sound.react (sound : scene.Sound config device first) {event : NodeEvent}
    (allowed : event.IsLow)
    (apart : (scene.react now event).volume.store.currentState.digest =
        scene.volume.store.currentState.digest →
      (scene.react now event).volume.store.currentState = scene.volume.store.currentState)
    (below : ∀ other, ((scene.react now event).volume.store.currentState.seqOf other).toNat + 1 <
      2 ^ 64) : (scene.react now event).Sound config device first := by
  cases event with
  | sync input => exact sound.sync input apart below
  | dispatch => exact sound.dispatch
  | request producer low high priority => exact sound.request allowed
  | advance => exact sound.advance
  | look => exact sound.look
  | begin place => exact sound.begin place
  | resolve place seq answer => exact sound.resolve place seq answer
  | conclude place => exact sound.conclude place

theorem current_mem_states (scene : NodeScene) (events : List (Instant × NodeEvent)) :
    scene.volume.store.currentState ∈ scene.states events := by
  cases events with
  | nil => exact List.mem_singleton_self _
  | cons event rest => exact List.mem_cons_self

theorem Sound.run (sound : scene.Sound config device first)
    {events : List (Instant × NodeEvent)} (allowed : ∀ event ∈ events, event.2.IsLow)
    (apart : Set.InjOn Snapshot.digest {state | state ∈ scene.states events})
    (below : ∀ state ∈ scene.states events, ∀ other, (state.seqOf other).toNat + 1 < 2 ^ 64) :
    (scene.run events).Sound config device first := by
  induction events generalizing scene with
  | nil => exact sound
  | cons event rest ih =>
    have later : ∀ state ∈ (scene.react event.1 event.2).states rest,
        state ∈ scene.states (event :: rest) := fun state member => List.mem_cons_of_mem _ member
    have after := later _ (current_mem_states (scene.react event.1 event.2) rest)
    have kept : (scene.react event.1 event.2).Sound config device first :=
      sound.react (allowed event List.mem_cons_self)
        (fun same => apart after List.mem_cons_self same) (below _ after)
    exact ih kept (fun other member => allowed other (List.mem_cons_of_mem _ member))
      (fun left here right there same => apart (later left here) (later right there) same)
      (fun state member => below state (later state member))

/-- A dispatcher that has come to the end of all changes owes nothing. -/
theorem not_owes_of_idle (idle : scene.dispatcher = .idle) (bare : scene.node.queue = [])
    {other : DeviceId} {seq : Seq} : ¬scene.Owes other seq := by
  rintro (⟨member, -, -⟩ | ⟨member, -, -⟩)
  · unfold carried at member
    rw [idle] at member
    cases member
  · unfold NodeScene.pending at member
    rw [idle, bare] at member
    cases member

/-- A node starts on every sound store, and from then on loses no update.  Whatever happens
in whatever order, if no two of its states share a digest and no number reaches the highest
one: whenever the dispatcher is idle and no change is queued, each number of another device
that is stored now and was not at the start has its record in the log, or in the range of an
unfinished entry for that device. -/
theorem loses_no_update (config : NodeConfig) (device : DeviceId) (store : MemoryStore)
    (start : Instant) (stored : ∀ task ∈ store.tasks, task.maxSeq.toNat + 1 < 2 ^ 64)
    {events : List (Instant × NodeEvent)} (requested : ∀ event ∈ events, event.2.IsLow) :
    ∃ first, join config device store start = .ok first ∧
      (Set.InjOn Snapshot.digest {state | state ∈ first.states events} →
        (∀ state ∈ first.states events, ∀ entry ∈ state.entries, entry.2.toNat + 1 < 2 ^ 64) →
        let last := first.run events
        last.dispatcher = .idle → last.node.queue = [] →
          ∀ other, other ≠ device → ∀ seq, (store.deviceSeq other).getD 0 < seq →
            seq ≤ (last.volume.store.deviceSeq other).getD 0 →
              last.node.log.HasApplied other seq ∨
                ∃ slot ∈ last.node.fetch.worklist.slots, slot.isLive = true ∧
                  slot.task.key = ⟨other, config.actionBase other⟩ ∧
                  slot.task.contains seq = true) := by
  obtain ⟨first, joined, sound⟩ := sound_join config device stored start
  refine ⟨first, joined, ?_⟩
  intro apart below last idle bare other foreign seq above upto
  have after : last.Sound config device store.currentState := by
    apply sound.run requested apart
    intro state member other
    rcases state.seqOf_cases other with entry | zero
    · exact below state member _ entry
    · rw [zero]
      decide
  have above : store.currentState.seqOf other < seq := by
    rw [MemoryStore.seqOf_currentState]
    exact above
  have upto : seq ≤ last.volume.store.currentState.seqOf other := by
    rw [MemoryStore.seqOf_currentState]
    exact upto
  cases after.tracks other foreign seq above upto with
  | applied inLog => exact Or.inl inLog
  | listed member inside =>
    obtain ⟨slot, there, ⟨live, same⟩, rfl⟩ := Worklist.mem_liveTasks.mp member
    unfold keyOf at same
    rw [after.config_eq] at same
    exact Or.inr ⟨slot, there, live, same, inside⟩
  | owed owes => exact absurd owes (not_owes_of_idle idle bare)

/-- A node that has just started with a store that knows nothing. -/
def newcomer : NodeScene :=
  let (root, store) := MemoryStore.empty.rememberState
  ⟨.start .fast ⟨.ofTexts ["a"]⟩ root .empty (FetchManager.new NodeConfig.fast.fetch).start 0,
    .ofStore store, [], .idle⟩

/-- It hears of two records of another device, makes a task of them while it publishes a
number itself, and gets the first of the two. -/
def errand : List (Instant × NodeEvent) :=
  let news := (StateMessage.ofStates [.update ⟨.ofTexts ["b"]⟩ 2 none]).encode
  [(1, .sync (.event (.advertReply (some ⟨.empty, news, 0⟩)))), (1, .dispatch), (1, .dispatch),
    (1, .look), (2, .dispatch), (2, .advance), (3, .sync (.publish 1)), (3, .advance),
    (4, .look), (5, .dispatch), (5, .begin 0), (6, .resolve 0 1 (some [7]))]

/-- The first record is in the log, and the second one is still to be fetched. -/
theorem loses_no_update_errand :
    (newcomer.run errand).node.log.appliedFrom ⟨.ofTexts ["b"]⟩ = [(1, [7])] ∧
      ∃ slot ∈ (newcomer.run errand).node.fetch.worklist.slots, slot.isLive = true ∧
        slot.task.contains 2 = true := by
  have joined : join .fast ⟨.ofTexts ["a"]⟩ .empty 0 = .ok newcomer := rfl
  have requested : ∀ event ∈ errand, event.2.IsLow := by simp [errand, NodeEvent.IsLow]
  obtain ⟨first, started, kept⟩ := loses_no_update .fast ⟨.ofTexts ["a"]⟩ .empty 0 nofun requested
  cases joined.symm.trans started
  have distinct : ((newcomer.states errand).eraseDups.map Snapshot.digest).Nodup := by
    decide +kernel
  have apart : Set.InjOn Snapshot.digest {state | state ∈ newcomer.states errand} :=
    fun _ here _ there => List.inj_on_of_nodup_map distinct (List.mem_eraseDups.mpr here)
      (List.mem_eraseDups.mpr there)
  have below : ∀ state ∈ newcomer.states errand, ∀ entry ∈ state.entries,
      entry.2.toNat + 1 < 2 ^ 64 := by decide +kernel
  have ends : (newcomer.run errand).dispatcher = .idle ∧
      (newcomer.run errand).node.queue = [] ∧
      (2 : Seq) ≤ ((newcomer.run errand).volume.store.deviceSeq ⟨.ofTexts ["b"]⟩).getD 0 ∧
      (newcomer.run errand).node.log.appliedFrom ⟨.ofTexts ["b"]⟩ = [(1, [7])] := by
    decide +kernel
  obtain ⟨idle, bare, upto, log⟩ := ends
  refine ⟨log, ?_⟩
  rcases kept apart below idle bare ⟨.ofTexts ["b"]⟩ (by decide +kernel) 2 (by decide +kernel)
    upto with ⟨content, inLog⟩ | ⟨slot, member, live, -, inside⟩
  · rw [log] at inLog
    simp at inLog
  · exact ⟨slot, member, live, inside⟩

end NodeScene

end DigestSync
