import DigestSync.Proofs.Fetch.Moves
import DigestSync.Proofs.Node.Handover
import DigestSync.Proofs.Node.Interleaving

set_option autoImplicit false

/-! # Faithful nodes

A node is faithful if it knows no device at a place that is not its own, if all that it is
about to fetch has the names that the producers give their records, and if its attempts hand
over what they fetch.  It stays so, whatever happens to it, as long as what the group tells it
does not say otherwise.
-/

namespace DigestSync

variable {base : DeviceId → Name} {home : DeviceId → Name → Prop} {calls later : List SinkCall}
  {now : Instant} {volume : Volume}

/-! ## The manager -/

namespace FetchManager

variable {manager : FetchManager} {task : FetchTask} {hint : ForwardingHint} {id : FetcherId}
  {fetcher : Fetcher} {table : LocatorTable}

/-- The task that is on its way into the worklist, and how its requests are directed first. -/
def arriving (manager : FetchManager) : Option (FetchTask × ForwardingHint) :=
  match manager.step with
  | some (.storing task hint) => some (task, hint)
  | some (.inserting task hint) => some (task, hint)
  | _ => none

/-- The waiting entries have faithful fetchers, and so will what is on its way. -/
structure Faithful (base : DeviceId → Name) (home : DeviceId → Name → Prop)
    (calls : List SinkCall) (manager : FetchManager) : Prop where
  idle : ∀ slot ∈ manager.worklist.slots, ∀ fetcher, slot.state = .idle fetcher →
    fetcher.Faithful base home calls
  arriving : ∀ task hint, manager.arriving = some (task, hint) →
    task.IsNamed base ∧ hint.Leads home task.producer

namespace Faithful

theorem mono (faithful : manager.Faithful base home calls) (grown : calls ⊆ later) :
    manager.Faithful base home later :=
  { faithful with
    idle := fun slot member fetcher stands => (faithful.idle slot member fetcher stands).mono grown }

theorem new (config : FetchConfig) : (FetchManager.new config).Faithful base home calls :=
  ⟨nofun, nofun⟩

/-- A task enters with a hint to its producer. -/
theorem enter (faithful : manager.Faithful base home calls) (located : table.Located home)
    (named : task.IsNamed base) {after : FetchManager}
    (entered : manager.enterEnqueue table.resolve task = .entered after) :
    after.Faithful base home calls := by
  rw [eq_of_entered entered]
  refine ⟨faithful.idle, ?_⟩
  rintro other hint ⟨⟩
  exact ⟨named, located.leads task.producer⟩

theorem enterCancel (faithful : manager.Faithful base home calls) (key : TaskKey) :
    (manager.enterCancel key).Faithful base home calls :=
  ⟨fun slot member => faithful.idle slot (List.mem_filter.mp member).1, nofun⟩

theorem shutdown (faithful : manager.Faithful base home calls) :
    manager.shutdown.Faithful base home calls := ⟨faithful.idle, faithful.arriving⟩

/-- A step adds no entry but one for the task that is on its way. -/
theorem advance (faithful : manager.Faithful base home calls) (volume : Volume) (now : Instant) :
    (manager.advance volume now).1.Faithful base home calls := by
  have left : manager.leave.Faithful base home calls :=
    ⟨faithful.idle, fun task hint stands => by cases stands⟩
  unfold FetchManager.advance
  cases stands : manager.step with
  | none => exact faithful
  | some step =>
    cases step with
    | storing task hint =>
      have known := faithful.arriving task hint (by unfold FetchManager.arriving; rw [stands])
      simp only [perform]
      split
      · exact left
      · refine ⟨faithful.idle, ?_⟩
        rintro other way ⟨⟩
        exact known
    | inserting task hint =>
      obtain ⟨named, leads⟩ :=
        faithful.arriving task hint (by unfold FetchManager.arriving; rw [stands])
      simp only [perform]
      split
      · exact left
      · refine ⟨?_, fun task hint stands => by cases stands⟩
        intro slot member fetcher waiting
        rcases Worklist.mem_insert.mp member with rfl | old
        · cases waiting
          exact .start named leads _ now
        · exact faithful.idle slot old fetcher waiting
    | clearing key removed =>
      simp only [perform]
      split <;> exact left
    | dropping key rest =>
      cases rest with
      | none => exact left
      | some task => exact ⟨faithful.idle, fun task hint stands => by cases stands⟩
    | respanning rest =>
      simp only [perform]
      split <;> exact left

theorem schedule (faithful : manager.Faithful base home calls) (now : Instant) :
    (manager.schedule now).1.Faithful base home calls := by
  refine ⟨?_, faithful.arriving⟩
  intro slot member fetcher waiting
  obtain ⟨other, inside, rfl | ⟨taken, -, rfl⟩⟩ := Worklist.mem_schedule member
  · exact faithful.idle slot inside fetcher waiting
  · cases waiting

/-- The attempts to be started have faithful fetchers. -/
theorem of_mem_schedule (faithful : manager.Faithful base home calls)
    {attempt : FetcherId × Fetcher} (member : attempt ∈ (manager.schedule now).2) :
    attempt.2.Faithful base home calls := by
  obtain ⟨slot, inside, -, stands⟩ := Worklist.idle_of_mem_schedule member
  exact faithful.idle slot inside attempt.2 stands

theorem enterComplete (faithful : manager.Faithful base home calls) (now : Instant)
    (id : FetcherId) (key : TaskKey) :
    (manager.enterComplete now id key).Faithful base home calls := by
  unfold FetchManager.enterComplete
  split
  · refine ⟨?_, nofun⟩
    intro slot member fetcher waiting
    obtain ⟨other, inside, -, -, ⟨moved, -⟩ | rfl⟩ := Worklist.mem_release member
    · rw [moved] at waiting
      cases waiting
    · exact faithful.idle slot inside fetcher waiting
  · exact faithful

theorem fail (faithful : manager.Faithful base home calls) (located : table.Located home)
    (backed : fetcher.Faithful base home calls) (now : Instant) (id : FetcherId) :
    (manager.fail now table.resolve id fetcher).Faithful base home calls := by
  unfold FetchManager.fail
  split
  · refine ⟨?_, faithful.arriving⟩
    intro slot member other waiting
    obtain ⟨former, inside, -, -, ⟨moved, -⟩ | rfl⟩ := Worklist.mem_release member
    · rw [moved] at waiting
      cases waiting
      exact backed.failAttempt located now
    · exact faithful.idle slot inside other waiting
  · exact faithful

end Faithful

/-- A step of the manager changes stored tasks at most. -/
theorem located_advance (located : volume.store.Located home) (manager : FetchManager)
    (now : Instant) : (manager.advance volume now).2.1.store.Located home := by
  rcases manager.volume_advance volume now with same | ⟨task, merged⟩ | ⟨key, deleted⟩
  · rwa [same]
  · rw [merged]
    exact located.mergeTask task
  · rw [deleted]
    exact located.deleteTask key

/-- While no entry is refused and the medium is sound, adding a task succeeds and leaves a
faithful manager. -/
theorem Faithful.exists_enqueue (faithful : manager.Faithful base home calls)
    (running : manager.worklist.stopped = false) (sound : volume.fault = none)
    (known : volume.store.Located home) (located : table.Located home) (named : task.IsNamed base)
    (now : Instant) :
    ∃ added next left, manager.enqueue volume now table.resolve task = (.ok added, next, left) ∧
      next.Faithful base home calls ∧ next.worklist.stopped = false ∧ left.fault = none ∧
      left.store.Located home := by
  rcases enterEnqueue_cases running table.resolve task with ⟨hint, entered⟩ | ⟨answered, -⟩
  · have stored := manager.advance_storing sound now task hint
    have early := (faithful.enter located named entered).advance volume now
    have middle := located_advance known (manager.goOn (.storing task hint)) now
    rw [stored] at early middle
    have added := advance_inserting running
      { volume with store := (volume.store.mergeTask task).2 } now task hint
    have late := early.advance { volume with store := (volume.store.mergeTask task).2 } now
    rw [added] at late
    refine ⟨true, _, { volume with store := (volume.store.mergeTask task).2 }, ?_, late, running,
      sound, middle⟩
    simp only [FetchManager.enqueue, entered, FetchManager.settle, stored, added, Option.getD_some]
  · refine ⟨false, manager, volume, ?_, faithful, running, sound, known⟩
    simp only [FetchManager.enqueue, answered]

/-- So does adding several tasks. -/
theorem Faithful.exists_enqueueAll (faithful : manager.Faithful base home calls)
    (running : manager.worklist.stopped = false) (sound : volume.fault = none)
    (known : volume.store.Located home) (located : table.Located home) {tasks : List FetchTask}
    (named : ∀ task ∈ tasks, task.IsNamed base) (now : Instant) (count : Nat) :
    ∃ total next left,
      FetchManager.enqueueAll volume now table.resolve tasks count manager =
          (.ok total, next, left) ∧
        next.Faithful base home calls ∧ left.fault = none ∧ left.store.Located home := by
  induction tasks generalizing manager volume count with
  | nil => exact ⟨count, manager, volume, rfl, faithful, sound, known⟩
  | cons task rest ih =>
    obtain ⟨here, there⟩ := List.forall_mem_cons.mp named
    obtain ⟨added, next, left, outcome, faithful, running, sound, known⟩ :=
      faithful.exists_enqueue running sound known located here now
    obtain ⟨total, last, final, later, facts⟩ :=
      ih faithful running sound known there (if added then count + 1 else count)
    refine ⟨total, last, final, ?_, facts⟩
    simp only [FetchManager.enqueueAll, outcome, later]

end FetchManager

/-! ## The sync core of a node -/

namespace Node

variable {node : Node}

/-- Whatever the node is told, it takes over a turn of its sync core. -/
theorem exists_hear (located : volume.store.Located home) (fits : node.sync.device.name.Fits)
    (now : Instant) {input : PeerInput} (heard : ∀ data ∈ input.answer?, data.Located home) :
    ∃ turn, node.hear volume now input = node.ofSync turn ∧
      turn.Located home node.sync.config.group ∧ node.sync.Steady turn := by
  have silent : (SyncTurn.mk node.sync volume []).Located home node.sync.config.group :=
    SyncCore.located_of_silent located rfl rfl
  have still : node.ofSync ⟨node.sync, volume, []⟩ = ⟨node, volume, []⟩ := by
    unfold ofSync
    simp
  cases input with
  | event event =>
    exact ⟨_, rfl, SyncCore.located_handle located heard, SyncCore.steady_handle event⟩
  | publish seq =>
    show ∃ turn, (node.publish volume now seq).2 = node.ofSync turn ∧ _
    unfold publish
    split
    · exact ⟨_, still.symm, silent, rfl, rfl, rfl⟩
    · split
      · exact ⟨_, still.symm, silent, rfl, rfl, rfl⟩
      · have told : (node.sync.publish volume now seq).2.Located home node.sync.config.group :=
          SyncCore.located_publish located fits seq
        have steady : node.sync.Steady (node.sync.publish volume now seq).2 :=
          SyncCore.steady_publish seq
        split
        · rename_i failed
          rw [failed] at told steady
          exact ⟨_, rfl, told, steady⟩
        · rename_i noted
          rw [noted] at told steady
          exact ⟨_, rfl, told, steady⟩
  | noteChange =>
    exact ⟨_, rfl, SyncCore.located_noteChange located, SyncCore.steady_noteChange⟩

/-- What is reported is all that may queue up. -/
theorem mem_queue_ofSync (turn : SyncTurn) {record : DeltaRecord}
    (member : record ∈ (node.ofSync turn).node.queue.flatten) :
    record ∈ node.queue.flatten ∨ record ∈ turn.reported := by
  cases dispatching : node.dispatching with
  | true =>
    rw [flatten_queue_ofSync dispatching] at member
    exact List.mem_append.mp member
  | false =>
    unfold ofSync at member
    simp only [dispatching, Bool.false_eq_true, if_false, List.append_nil] at member
    exact Or.inl member

/-- The data that are sent after a turn are those that it tells. -/
theorem mem_told_of_sending (turn : SyncTurn) {data : Data}
    (member : .data data ∈ (node.ofSync turn).actions.filterMap NodeAction.sending?) :
    data ∈ turn.told := by
  unfold ofSync at member
  obtain ⟨action, inside, made⟩ := List.mem_filterMap.mp member
  obtain ⟨former, there, kept⟩ := List.mem_filterMap.mp inside
  cases former with
  | put other =>
    cases kept
    cases made
    exact List.mem_filterMap.mpr ⟨_, there, rfl⟩
  | ask saying interest =>
    cases kept
    cases made
  | await digest delay =>
    cases kept
    cases made
  | report delta =>
    dsimp only at kept
    split at kept
    · cases kept
      cases made
    · cases kept

end Node

/-! ## Nodes -/

namespace NodeScene

variable {scene : NodeScene} {config : NodeConfig} {device : DeviceId}

/-- What a faithful node of a device is. -/
structure Faithful (config : NodeConfig) (device : DeviceId) (home : DeviceId → Name → Prop)
    (calls : List SinkCall) (scene : NodeScene) : Prop where
  config_eq : scene.node.config = config
  device_eq : scene.node.sync.device = device
  sync_eq : scene.node.sync.config = config.sync
  store : scene.volume.store.Located home
  locators : scene.node.locators.Located home
  pending : ∀ record ∈ scene.pending, record.Located home
  waiting : ∀ task rest, scene.dispatcher = .waiting task rest → task.IsNamed config.actionBase
  fetch : scene.node.fetch.Faithful config.actionBase home calls
  pipelines : ∀ pipeline ∈ scene.pipelines, pipeline.Faithful config.actionBase home calls

namespace Faithful

theorem isNamed_taskOf (faithful : scene.Faithful config device home calls) (producer : DeviceId)
    (first last : Seq) (priority : Priority) :
    (scene.node.taskOf producer first last priority).IsNamed config.actionBase := by
  rw [← faithful.config_eq]
  rfl

/-! ### Steps of the parts -/

theorem sync (faithful : scene.Faithful config device home calls) (fits : device.name.Fits)
    {input : PeerInput} (heard : ∀ data ∈ input.answer?, data.Located home) :
    (scene.react now (.sync input)).Faithful config device home calls := by
  obtain ⟨turn, told, located, steady⟩ :=
    scene.node.exists_hear faithful.store (faithful.device_eq ▸ fits) now heard
  have after : scene.react now (.sync input) = scene.heard turn := by
    simp only [react, told]
    rfl
  rw [after]
  refine { faithful with
    device_eq := steady.device.trans faithful.device_eq
    sync_eq := steady.config.trans faithful.sync_eq
    store := located.store
    pending := ?_ }
  intro record member
  rcases List.mem_append.mp member with rest | queued
  · exact faithful.pending record (List.mem_append_left _ rest)
  · rcases Node.mem_queue_ofSync turn queued with old | new
    · exact faithful.pending record (List.mem_append_right _ old)
    · exact located.reported record new

/-- The same with another state of the manager. -/
theorem withFetch (faithful : scene.Faithful config device home calls) {fetch : FetchManager}
    (kept : fetch.Faithful config.actionBase home calls) :
    (scene.withFetch fetch).Faithful config device home calls :=
  { faithful with fetch := kept }

/-- A dispatcher that carries no task and has no more to sort than before. -/
theorem sorting (faithful : scene.Faithful config device home calls) {next : Dispatcher}
    (bare : ∀ task rest, next ≠ .waiting task rest)
    (fewer : ∀ record ∈ next.rest, record ∈ scene.dispatcher.rest) :
    Faithful config device home calls { scene with dispatcher := next } where
  __ := faithful
  waiting task rest stands := absurd stands (bare task rest)
  pending := by
    intro record member
    rcases List.mem_append.mp member with rest | queued
    · exact faithful.pending record (List.mem_append_left _ (fewer record rest))
    · exact faithful.pending record (List.mem_append_right _ queued)

theorem learnLocator (faithful : scene.Faithful config device home calls) {record : DeltaRecord}
    (located : record.Located home) :
    (scene.node.learnLocator record).locators.Located home := by
  unfold Node.learnLocator
  split
  · exact faithful.locators
  · rename_i locator told
    exact faithful.locators.insert (located.place locator told)

theorem sort (faithful : scene.Faithful config device home calls) {rest : List DeltaRecord}
    (stands : scene.dispatcher = .sorting rest) :
    (scene.sort rest).Faithful config device home calls := by
  have known : ∀ record ∈ rest, record.Located home := by
    intro record member
    refine faithful.pending record (List.mem_append_left _ ?_)
    rw [stands]
    exact member
  cases rest with
  | nil =>
    exact faithful.sorting (fun task rest stands => by cases stands)
      fun record member => absurd member List.not_mem_nil
  | cons record rest =>
    obtain ⟨here, there⟩ := List.forall_mem_cons.mp known
    have fewer : ∀ other ∈ rest, other ∈ scene.dispatcher.rest := by
      rw [stands]
      exact fun other member => List.mem_cons_of_mem _ member
    have bare : ∀ task more, Dispatcher.sorting rest ≠ .waiting task more := by
      rintro task more ⟨⟩
    simp only [NodeScene.sort]
    split
    · exact faithful.sorting bare fewer
    · have learned := faithful.learnLocator here
      obtain ⟨locators, same⟩ := scene.node.learnLocator_eq record
      rw [same] at learned ⊢
      have told : Faithful config device home calls
          { scene with node := { scene.node with locators } } :=
        { faithful with locators := learned }
      split
      · exact told.sorting bare fewer
      · have sorted : Faithful config device home calls
            { scene with node := { scene.node with locators }, dispatcher := .sorting rest } :=
          told.sorting bare fewer
        refine { sorted with waiting := ?_ }
        rintro task more ⟨⟩
        exact told.isNamed_taskOf _ _ _ _

theorem submit (faithful : scene.Faithful config device home calls) {task : FetchTask}
    {rest : List DeltaRecord} (stands : scene.dispatcher = .waiting task rest) :
    (scene.submit task rest).Faithful config device home calls := by
  have fewer : ∀ record ∈ rest, record ∈ scene.dispatcher.rest := by
    rw [stands]
    exact fun record member => member
  unfold NodeScene.submit
  split
  · exact faithful
  · split
    · exact faithful.sorting nofun fewer
    · rename_i entered
      exact (faithful.withFetch (faithful.fetch.enter faithful.locators
        (faithful.waiting task rest stands) entered)).sorting nofun fewer

theorem dispatch (faithful : scene.Faithful config device home calls) :
    scene.dispatch.Faithful config device home calls := by
  unfold NodeScene.dispatch
  split
  · rename_i stands
    split
    · exact faithful
    · rename_i delta queue queued
      refine { faithful with waiting := nofun, pending := ?_ }
      intro record member
      refine faithful.pending record (List.mem_append_right _ ?_)
      rw [queued, List.flatten_cons]
      exact member
  · rename_i stands
    exact faithful.sort stands
  · rename_i stands
    exact faithful.submit stands
  · exact faithful

theorem request (faithful : scene.Faithful config device home calls) (producer : DeviceId)
    (first last : Seq) (priority : Priority) :
    (scene.react now (.request producer first last priority)).Faithful config device home calls := by
  simp only [react]
  split
  · exact faithful
  · split
    · exact faithful
    · rename_i entered
      exact faithful.withFetch (faithful.fetch.enter faithful.locators
        (faithful.isNamed_taskOf producer first last priority) entered)

theorem advance (faithful : scene.Faithful config device home calls) :
    (scene.advance now).Faithful config device home calls where
  config_eq := faithful.config_eq
  device_eq := faithful.device_eq
  sync_eq := faithful.sync_eq
  store := FetchManager.located_advance faithful.store _ now
  locators := faithful.locators
  pending := by
    rw [pending_advance]
    exact faithful.pending
  waiting task rest stands := faithful.waiting task rest (waiting_of_resume stands)
  fetch := faithful.fetch.advance _ now
  pipelines := faithful.pipelines

theorem look (faithful : scene.Faithful config device home calls) :
    (scene.look now).Faithful config device home calls := by
  unfold NodeScene.look Node.look
  cases scheduling : scene.node.fetch.isScheduling with
  | false =>
    simp only [Bool.false_eq_true, if_false, List.map_nil, List.append_nil]
    exact faithful
  | true =>
    simp only [if_true]
    refine { faithful with fetch := faithful.fetch.schedule now, pipelines := ?_ }
    intro pipeline member
    rcases List.mem_append.mp member with old | new
    · exact faithful.pipelines pipeline old
    · obtain ⟨attempt, started, rfl⟩ := List.mem_map.mp new
      exact ⟨faithful.fetch.of_mem_schedule started, fun _ window stands => by cases stands⟩

theorem conclude (faithful : scene.Faithful config device home calls) (place : Nat) :
    (scene.conclude now place).Faithful config device home calls := by
  have others : ∀ pipeline ∈ scene.pipelines.eraseIdx place,
      pipeline.Faithful config.actionBase home calls :=
    fun pipeline member => faithful.pipelines pipeline (List.mem_of_mem_eraseIdx member)
  unfold NodeScene.conclude
  split
  · split
    · exact faithful
    · exact { faithful with fetch := faithful.fetch.enterComplete now _ _, pipelines := others }
  · rename_i there
    have backed := (faithful.pipelines _ (List.mem_of_getElem? there)).fetcher
    exact { faithful with
      fetch := faithful.fetch.fail faithful.locators backed now _
      pipelines := others }
  · exact faithful

/-! ### Steps of attempts -/

theorem mono (faithful : scene.Faithful config device home calls) (grown : calls ⊆ later) :
    scene.Faithful config device home later :=
  { faithful with
    fetch := faithful.fetch.mono grown
    pipelines := fun pipeline member => (faithful.pipelines pipeline member).mono grown }

/-- The requirements that a step of an attempt meets. -/
theorem outcome_of_strides (faithful : scene.Faithful config device home calls)
    {event : NodeEvent} {place : Nat} {id : FetcherId} {fetcher : Fetcher} {turn : FetchTurn}
    (strides : scene.Strides now event place id fetcher turn) :
    fetcher.Faithful config.actionBase home calls ∧ turn.Continues fetcher ∧
      (fetcher.task.maxSeq.toNat + 1 < 2 ^ 64 → ∀ trace,
        Ledger fetcher.task fetcher.progress trace → Outcome fetcher.task trace turn) := by
  cases strides with
  | begin there =>
    exact ⟨(faithful.pipelines _ (List.mem_of_getElem? there)).fetcher,
      fetcher.continues_begin _, fun low trace ledger => Fetcher.outcome_begin ledger low _⟩
  | resolve there waits =>
    have honest := faithful.pipelines _ (List.mem_of_getElem? there)
    exact ⟨honest.fetcher, fetcher.continues_receive _ _ _ _ _, fun low trace ledger =>
      Fetcher.outcome_receive ledger low (honest.pending low _ rfl) waits _ _⟩

theorem strides (faithful : scene.Faithful config device home calls)
    {event : NodeEvent} {place : Nat} {id : FetcherId} {fetcher : Fetcher} {turn : FetchTurn}
    (strides : scene.Strides now event place id fetcher turn) :
    (scene.react now event).Faithful config device home (calls ++ turn.sinkCalls) := by
  obtain ⟨backed, continues, outcome⟩ := faithful.outcome_of_strides strides
  rw [strides.react]
  refine { faithful.mono (List.subset_append_left calls turn.sinkCalls) with pipelines := ?_ }
  intro pipeline member
  rcases List.mem_or_eq_of_mem_set member with old | rfl
  · exact (faithful.pipelines pipeline old).mono (List.subset_append_left calls turn.sinkCalls)
  · exact continues.faithful backed outcome id

/-! ### Events and changes -/

/-- Every event leaves a faithful node, if the data that it brings to the sync core know no
device at a place that is not its own. -/
theorem react (faithful : scene.Faithful config device home calls) (fits : device.name.Fits)
    {event : NodeEvent}
    (heard : ∀ input, event = .sync input → ∀ data ∈ input.answer?, data.Located home) :
    (scene.react now event).Faithful config device home (calls ++ scene.sinkCalls now event) := by
  cases taken : scene.stride? now event with
  | some turn =>
    obtain ⟨place, id, fetcher, strides⟩ := exists_strides taken
    rw [sinkCalls_of_taken taken]
    exact faithful.strides strides
  | none =>
    rw [sinkCalls_of_still taken, List.append_nil]
    cases event with
    | sync input => exact faithful.sync fits (heard input rfl)
    | dispatch => exact faithful.dispatch
    | request producer first last priority => exact faithful.request producer first last priority
    | advance => exact faithful.advance
    | look => exact faithful.look
    | conclude place => exact faithful.conclude place
    | begin place =>
      rw [react_of_still taken (Or.inl ⟨place, rfl⟩)]
      exact faithful
    | resolve place seq answer =>
      rw [react_of_still taken (Or.inr ⟨place, seq, answer, rfl⟩)]
      exact faithful

/-- The calls on the sink stay in order. -/
theorem inOrder (faithful : scene.Faithful config device home calls) (event : NodeEvent)
    (inOrder : SinkCall.InOrder calls) :
    SinkCall.InOrder (calls ++ scene.sinkCalls now event) := by
  cases taken : scene.stride? now event with
  | none => rwa [sinkCalls_of_still taken, List.append_nil]
  | some turn =>
    obtain ⟨place, id, fetcher, strides⟩ := exists_strides taken
    obtain ⟨backed, continues, outcome⟩ := faithful.outcome_of_strides strides
    rw [sinkCalls_of_taken taken]
    exact continues.inOrder backed outcome inOrder

/-- All data that the network is to put for the node have a name of its group's, and know no
device at a place that is not its own. -/
theorem of_data_mem_sendings (faithful : scene.Faithful config device home calls)
    (fits : device.name.Fits) {event : NodeEvent}
    (heard : ∀ input, event = .sync input → ∀ data ∈ input.answer?, data.Located home)
    {data : Data} (member : .data data ∈ scene.sendings now event) :
    config.sync.group.isPrefixOf data.name = true ∧ data.Located home := by
  cases event with
  | sync input =>
    obtain ⟨turn, told, located, -⟩ :=
      scene.node.exists_hear faithful.store (faithful.device_eq ▸ fits) now (heard input rfl)
    unfold sendings at member
    dsimp only at member
    rw [told] at member
    rw [← faithful.sync_eq]
    exact located.told data (Node.mem_told_of_sending turn member)
  | dispatch | request | advance | look | begin | resolve | conclude =>
    obtain ⟨action, -, made⟩ := List.mem_filterMap.mp member
    cases action <;> cases made

/-- Whatever else happens leaves a faithful node, if its device stores no place that is not the
device's own. -/
theorem undergo (faithful : scene.Faithful config device home calls) {change : NodeChange}
    (allowed : ∀ call, change = .call call → call.Located home) :
    (scene.undergo change).Faithful config device home calls := by
  cases change with
  | cancel key =>
    unfold NodeScene.undergo
    dsimp only
    split
    · exact faithful
    · exact faithful.withFetch (faithful.fetch.enterCancel key)
  | abort place =>
    exact { faithful with
      pipelines := fun pipeline member =>
        faithful.pipelines pipeline (List.mem_of_mem_eraseIdx member) }
  | call call =>
    refine { faithful with store := ?_ }
    show (scene.volume.next call).store.Located home
    unfold Volume.next
    split
    · exact faithful.store
    · exact faithful.store.next (allowed call rfl)
  | medium fault => exact { faithful with }
  | stopSyncing => exact { faithful with }
  | stopFetching => exact { faithful with fetch := faithful.fetch.shutdown }
  | shutdown =>
    exact { faithful with
      fetch := faithful.fetch.shutdown
      pending := nofun
      waiting := nofun
      pipelines := nofun }

end Faithful

/-! ## The log -/

theorem log_hear (node : Node) (input : PeerInput) :
    (node.hear volume now input).node.log = node.log := by
  cases input with
  | event event => rfl
  | noteChange => rfl
  | publish seq =>
    show (node.publish volume now seq).2.node.log = node.log
    unfold Node.publish
    split
    · rfl
    · split
      · rfl
      · split <;> rfl

theorem log_absorb (place : Nat) (id : FetcherId) (turn : FetchTurn) :
    (scene.absorb place id turn).node.log = turn.sinkCalls.foldl ActionLog.record scene.node.log := by
  unfold absorb Node.ofFetch FetchTurn.sinkCalls
  dsimp only
  generalize scene.node.log = log
  induction turn.actions generalizing log with
  | nil => rfl
  | cons action rest ih =>
    rw [List.map_cons, List.foldl_cons, ih]
    cases action <;> rfl

theorem log_sort (records : List DeltaRecord) :
    (scene.sort records).node.log = scene.node.log := by
  cases records with
  | nil => rfl
  | cons record rest =>
    simp only [sort]
    split
    · rfl
    · obtain ⟨locators, same⟩ := scene.node.learnLocator_eq record
      rw [same]
      split <;> rfl

theorem log_dispatch : scene.dispatch.node.log = scene.node.log := by
  unfold dispatch
  split
  · split <;> rfl
  · exact log_sort _
  · unfold submit
    split
    · rfl
    · split <;> rfl
  · rfl

theorem log_conclude (place : Nat) : (scene.conclude now place).node.log = scene.node.log := by
  unfold conclude
  split
  · split <;> rfl
  · rfl
  · rfl

/-- The log takes note of the calls on the sink. -/
theorem log_react (event : NodeEvent) :
    (scene.react now event).node.log =
      (scene.sinkCalls now event).foldl ActionLog.record scene.node.log := by
  cases taken : scene.stride? now event with
  | some turn =>
    obtain ⟨place, id, fetcher, strides⟩ := exists_strides taken
    rw [sinkCalls_of_taken taken, strides.react, log_absorb]
  | none =>
    rw [sinkCalls_of_still taken, List.foldl_nil]
    cases event with
    | sync input => exact log_hear scene.node input
    | dispatch => exact log_dispatch
    | request producer first last priority =>
      simp only [react]
      split
      · rfl
      · split <;> rfl
    | advance => rfl
    | look =>
      show (scene.look now).node.log = scene.node.log
      unfold look Node.look
      cases scene.node.fetch.isScheduling <;> rfl
    | conclude place => exact log_conclude place
    | begin place => rw [react_of_still taken (Or.inl ⟨place, rfl⟩)]
    | resolve place seq answer => rw [react_of_still taken (Or.inr ⟨place, seq, answer, rfl⟩)]

theorem log_undergo (change : NodeChange) : (scene.undergo change).node.log = scene.node.log := by
  cases change with
  | cancel key =>
    unfold undergo
    dsimp only
    split <;> rfl
  | abort | call | medium | stopSyncing | stopFetching | shutdown => rfl

end NodeScene

/-! ## The start -/

namespace Node

variable {config : NodeConfig} {device : DeviceId} {store : MemoryStore}

/-- The configured locator is stored, and nothing else of the log changes. -/
theorem exists_storeLocator (located : store.Located home) (fits : device.name.Fits)
    (own : ∀ place ∈ config.locator, place.Fits ∧ home device place) :
    ∃ next, storeLocator config device (.ofStore store) = .ok (.ofStore next) ∧
      next.Located home ∧ next.tasks = store.tasks := by
  unfold storeLocator
  split
  · exact ⟨store, rfl, located, rfl⟩
  · rename_i place configured
    obtain ⟨room, here⟩ := own place configured
    exact ⟨store.updateLocator device place, rfl, located.updateLocator fits room here, rfl⟩

/-- What a node knows of places at the start is what is stored of them. -/
theorem exists_storedLocators (located : store.Located home) :
    ∃ table, storedLocators (.ofStore store) = .ok table ∧ table.Located home := by
  unfold storedLocators
  have current : (Volume.ofStore store).currentState = .ok store.currentState := rfl
  rw [current]
  dsimp only
  have none : LocatorTable.Located home SortedMap.empty := nofun
  generalize (SortedMap.empty : LocatorTable) = table at none
  induction store.currentState.entries generalizing table with
  | nil => exact ⟨table, rfl, none⟩
  | cons entry rest ih =>
    have asked : (Volume.ofStore store).locator entry.1 = .ok (store.locator entry.1) := rfl
    rw [List.foldlM_cons, asked]
    cases found : store.locator entry.1 with
    | none => exact ih table none
    | some place => exact ih (table.insert entry.1 place) (none.insert (located.place _ _ found))

end Node

namespace NodeScene

variable {config : NodeConfig} {device : DeviceId} {store : MemoryStore}

/-- A node starts on every sound medium, and it is faithful if what is stored is. -/
theorem exists_faithful_join (located : store.Located home) (fits : device.name.Fits)
    (own : ∀ place ∈ config.locator, place.Fits ∧ home device place)
    (named : ∀ task ∈ store.tasks, task.IsNamed config.actionBase) (now : Instant) :
    ∃ scene, join config device store now = .ok scene ∧
      scene.Faithful config device home [] ∧ scene.node.log = .empty := by
  obtain ⟨next, told, known, tasks⟩ := Node.exists_storeLocator located fits own
  obtain ⟨table, places, right⟩ := Node.exists_storedLocators known
  have listed : (Volume.ofStore next).listTasks = .ok store.tasks := congrArg Except.ok tasks
  obtain ⟨total, manager, volume, outcome, faithful, sound, kept⟩ :=
    (FetchManager.Faithful.new config.fetch).exists_enqueueAll
      (rfl : (FetchManager.new config.fetch).worklist.stopped = false)
      (rfl : (Volume.ofStore next).fault = none) known right named now 0
  have ready : Node.prepare config device (.ofStore store) now =
      (.ok (table, manager.start), volume) := by
    simp only [Node.prepare, told, places, FetchManager.restore, listed, outcome]
  have whole := Volume.eq_ofStore sound
  generalize volume.store = final at whole kept
  subst whole
  have joined : join config device store now = .ok
      ⟨Node.start config device final.rememberState.1 table manager.start now,
        .ofStore final.rememberState.2, [], .idle⟩ := by
    simp only [join, ready, Volume.rememberState_ofStore]
  refine ⟨_, joined, ?_, rfl⟩
  constructor
  case config_eq => rfl
  case device_eq => rfl
  case sync_eq => rfl
  case store => exact kept.rememberState
  case locators => exact right
  case pending => exact fun record member => absurd member List.not_mem_nil
  case waiting =>
    rintro task rest ⟨⟩
  case fetch => exact ⟨faithful.idle, faithful.arriving⟩
  case pipelines => exact fun pipeline member => absurd member List.not_mem_nil

end NodeScene

end DigestSync
