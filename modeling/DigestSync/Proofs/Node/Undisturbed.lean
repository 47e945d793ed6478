import DigestSync.Proofs.Node.Start

set_option autoImplicit false

/-! # With nothing in between

A call, the end of an attempt and the dispatcher with a change take many steps, between
which others may come.  When none comes, the steps lead to where the node gets by doing the
whole at once.
-/

namespace DigestSync

/-- Nobody has entered the manager of a node, no task is refused, and the medium is sound. -/
structure Node.Calm (node : Node) (volume : Volume) : Prop where
  free : node.fetch.step = none
  running : node.fetch.worklist.stopped = false
  medium : volume.fault = none

namespace NodeScene

variable {now : Instant}

theorem run_append (scene : NodeScene) (early late : List (Instant × NodeEvent)) :
    scene.run (early ++ late) = (scene.run early).run late := by
  induction early generalizing scene with
  | nil => rfl
  | cons event rest ih => exact ih _

/-- Steps of the dispatcher and of the manager lead from one scene to another. -/
def Leads (now : Instant) (scene next : NodeScene) : Prop :=
  ∃ events : List NodeEvent, (∀ event ∈ events, event = .dispatch ∨ event = .advance) ∧
    scene.run (events.map fun event => (now, event)) = next

namespace Leads

variable {first second third : NodeScene}

theorem refl (now : Instant) (scene : NodeScene) : scene.Leads now scene := ⟨[], nofun, rfl⟩

theorem trans (early : first.Leads now second) (late : second.Leads now third) :
    first.Leads now third := by
  obtain ⟨steps, early, rfl⟩ := early
  obtain ⟨others, late, rfl⟩ := late
  refine ⟨steps ++ others, ?_, ?_⟩
  · intro event member
    exact (List.mem_append.mp member).elim (early event) (late event)
  · rw [List.map_append, run_append]

theorem of_dispatch (same : first.dispatch = second) : first.Leads now second :=
  ⟨[.dispatch], by simp, same⟩

theorem of_advance (same : first.advance now = second) : first.Leads now second :=
  ⟨[.advance], by simp, same⟩

end Leads

/-! ## The manager -/

variable {node : Node} {volume : Volume} {pipelines : List Pipeline} {dispatcher : Dispatcher}

theorem resume_resume (dispatcher : Dispatcher) (early late : Option PersistStep)
    (ended : early = none → late = none) :
    (dispatcher.resume early).resume late = dispatcher.resume late := by
  cases early with
  | none =>
    rw [ended rfl]
    cases dispatcher <;> rfl
  | some step => rfl

/-- The steps of what has entered the manager lead to where it settles at once. -/
theorem leads_settle (node : Node) (volume : Volume) (pipelines : List Pipeline)
    (dispatcher : Dispatcher) (now : Instant) :
    let settled := node.fetch.settle volume now
    Leads now ⟨node, volume, pipelines, dispatcher⟩
      ⟨{ node with fetch := settled.1 }, settled.2.1, pipelines,
        dispatcher.resume settled.1.step⟩ := by
  intro settled
  have first : Leads now ⟨node, volume, pipelines, dispatcher⟩ _ := .of_advance rfl
  rcases outcome : node.fetch.advance volume now with ⟨fetch, between, answer⟩
  simp only [advance, outcome] at first
  cases answer with
  | some answer =>
    have settled_eq : settled = (fetch, between, some answer) := by
      simp only [settled, FetchManager.settle, outcome]
    rw [settled_eq]
    exact first
  | none =>
    have settled_eq : settled = fetch.advance between now := by
      simp only [settled, FetchManager.settle, outcome]
    have second : Leads now ⟨{ node with fetch }, between, pipelines,
        dispatcher.resume fetch.step⟩ _ := .of_advance rfl
    have ended : fetch.step = none → (fetch.advance between now).1.step = none := by
      intro free
      rw [FetchManager.advance_of_free free]
      exact free
    simp only [advance, resume_resume _ _ _ ended] at second
    rw [settled_eq]
    exact first.trans second

/-- A task that has entered gets to where adding it at once leads. -/
theorem leads_enter {task : FetchTask} {fetch : FetchManager}
    (entered : node.fetch.enterEnqueue node.locators.resolve task = .entered fetch)
    (volume : Volume) (pipelines : List Pipeline) (dispatcher : Dispatcher) (now : Instant) :
    let turn := (node.enqueue volume now task).2
    Leads now ⟨{ node with fetch }, volume, pipelines, dispatcher⟩
      ⟨turn.node, turn.volume, pipelines, dispatcher.resume turn.node.fetch.step⟩ := by
  have leads := leads_settle { node with fetch } volume pipelines dispatcher now
  simp only [Node.enqueue, FetchManager.enqueue, entered]
  exact leads

theorem resume_of_apart (apart : ∀ rest, dispatcher ≠ .entered rest) (step : Option PersistStep) :
    dispatcher.resume step = dispatcher := by
  cases dispatcher with
  | entered rest => exact absurd rfl (apart rest)
  | _ => cases step <;> rfl

/-- Adding a task leaves a calm node. -/
theorem calm_enqueue (calm : node.Calm volume) (now : Instant) (task : FetchTask) :
    ∃ added turn, node.enqueue volume now task = (.ok added, turn) ∧
      turn.node.Calm turn.volume ∧ turn.node.dispatching = node.dispatching := by
  rcases FetchManager.enterEnqueue_cases calm.running node.locators.resolve task with
    ⟨hint, entered⟩ | ⟨answered, -⟩
  · have stored := node.fetch.advance_storing calm.medium now task hint
    have added := FetchManager.advance_inserting calm.running
      { volume with store := (volume.store.mergeTask task).2 } now task hint
    simp only [Node.enqueue, FetchManager.enqueue, entered, FetchManager.settle, stored, added,
      Option.getD_some]
    exact ⟨true, _, rfl, ⟨rfl, calm.running, calm.medium⟩, rfl⟩
  · simp only [Node.enqueue, FetchManager.enqueue, answered]
    exact ⟨false, _, rfl, calm, rfl⟩

/-- Undisturbed, a call that asks for records gets to where the node gets by it at once. -/
theorem leads_request (calm : node.Calm volume) (running : node.stopped = false)
    (apart : ∀ rest, dispatcher ≠ .entered rest) (pipelines : List Pipeline) (now : Instant)
    (producer : DeviceId) (low high : Seq) (priority : Priority) :
    let turn := (node.request volume now producer low high priority).2
    Leads now (react ⟨node, volume, pipelines, dispatcher⟩ now (.request producer low high priority))
      ⟨turn.node, turn.volume, pipelines, dispatcher⟩ := by
  have free : node.fetch.step.isSome = false := by rw [calm.free]; rfl
  have asked : (node.request volume now producer low high priority).2 =
      (node.enqueue volume now (node.taskOf producer low high priority)).2 := by
    unfold Node.request
    rw [running]
    rcases node.enqueue volume now (node.taskOf producer low high priority) with
      ⟨fault | added, turn⟩ <;> rfl
  rw [asked]
  rcases FetchManager.enterEnqueue_cases calm.running node.locators.resolve
    (node.taskOf producer low high priority) with ⟨hint, entered⟩ | ⟨answered, -⟩
  · have leads := leads_enter entered volume pipelines dispatcher now
    simp only [resume_of_apart apart] at leads
    simp only [react, isTaken, free, entered]
    exact leads
  · simp only [react, isTaken, free, answered, Node.enqueue, FetchManager.enqueue]
    exact .refl now _

/-- Undisturbed, a pipeline that has completed its attempt gets to where the manager gets by
taking note of it at once. -/
theorem leads_conclude (calm : node.Calm volume) (apart : ∀ rest, dispatcher ≠ .entered rest)
    (now : Instant) {place : Nat} {id : FetcherId} {fetcher : Fetcher}
    (there : pipelines[place]? = some ⟨id, fetcher, .over .completed⟩) :
    let completed := node.fetch.complete volume now id fetcher
    Leads now (conclude ⟨node, volume, pipelines, dispatcher⟩ now place)
      ⟨{ node with fetch := completed.1 }, completed.2, pipelines.eraseIdx place, dispatcher⟩ := by
  have free : node.fetch.step.isSome = false := by rw [calm.free]; rfl
  have leads := leads_settle
    { node with fetch := node.fetch.enterComplete now id fetcher.task.key } volume
    (pipelines.eraseIdx place) dispatcher now
  simp only [resume_of_apart apart] at leads
  simp only [conclude, there, isTaken, free]
  exact leads

/-! ## The dispatcher -/

/-- The dispatcher adds the task that it carries. -/
theorem leads_submit (calm : node.Calm volume) (now : Instant) (pipelines : List Pipeline)
    (task : FetchTask) (rest : List DeltaRecord) :
    let turn := (node.enqueue volume now task).2
    Leads now ⟨node, volume, pipelines, .waiting task rest⟩
      ⟨turn.node, turn.volume, pipelines, .sorting rest⟩ := by
  have free : node.fetch.step.isSome = false := by rw [calm.free]; rfl
  rcases FetchManager.enterEnqueue_cases calm.running node.locators.resolve task with
    ⟨hint, entered⟩ | ⟨answered, -⟩
  · have enters : dispatch ⟨node, volume, pipelines, .waiting task rest⟩ =
        ⟨{ node with fetch := node.fetch.goOn (.storing task hint) }, volume, pipelines,
          .entered rest⟩ := by
      simp only [dispatch, submit, isTaken, free, entered]
      rfl
    have leads := leads_enter entered volume pipelines (.entered rest) now
    obtain ⟨added, turn, outcome, after, -⟩ := calm_enqueue calm now task
    rw [outcome] at leads ⊢
    simp only [after.free] at leads
    exact (Leads.of_dispatch enters).trans leads
  · simp only [Node.enqueue, FetchManager.enqueue, answered]
    apply Leads.of_dispatch
    simp only [dispatch, submit, isTaken, free, answered]
    rfl

/-- The dispatcher deals with a record. -/
theorem leads_record (calm : node.Calm volume) (now : Instant) (pipelines : List Pipeline)
    (record : DeltaRecord) (rest : List DeltaRecord) :
    let turn := node.dispatchRecord volume now record
    turn.node.Calm turn.volume ∧ turn.node.dispatching = node.dispatching ∧
      Leads now ⟨node, volume, pipelines, .sorting (record :: rest)⟩
        ⟨turn.node, turn.volume, pipelines, .sorting rest⟩ := by
  unfold Node.dispatchRecord
  by_cases own : record.device = node.device
  · rw [if_pos own]
    refine ⟨calm, rfl, .of_dispatch ?_⟩
    simp only [dispatch, sort, if_pos own]
  · rw [if_neg own]
    obtain ⟨locators, learnt⟩ := node.learnLocator_eq record
    have taught : Node.Calm { node with locators } volume := ⟨calm.free, calm.running, calm.medium⟩
    cases range : record.missingRange with
    | none =>
      have sorts : dispatch ⟨node, volume, pipelines, .sorting (record :: rest)⟩ =
          ⟨{ node with locators }, volume, pipelines, .sorting rest⟩ := by
        simp only [dispatch, sort, if_neg own, learnt, range]
      rw [learnt]
      exact ⟨taught, rfl, .of_dispatch sorts⟩
    | some ends =>
      have sorts : dispatch ⟨node, volume, pipelines, .sorting (record :: rest)⟩ =
          ⟨{ node with locators }, volume, pipelines,
            .waiting (node.taskOf record.device ends.1 ends.2 .normal) rest⟩ := by
        simp only [dispatch, sort, if_neg own, learnt, range]
        rfl
      obtain ⟨added, turn, outcome, calm, dispatching⟩ :=
        calm_enqueue taught now (node.taskOf record.device ends.1 ends.2 .normal)
      have leads := leads_submit taught now pipelines
        (node.taskOf record.device ends.1 ends.2 .normal) rest
      rw [outcome] at leads
      have dispatched : Node.enqueue (node.learnLocator record) volume now
          ((node.learnLocator record).taskOf record.device ends.1 ends.2 .normal) =
            (.ok added, turn) := by
        rw [learnt]
        exact outcome
      simp only [dispatched]
      exact ⟨calm, dispatching, (Leads.of_dispatch sorts).trans leads⟩

/-- The dispatcher deals with all records of a change. -/
theorem leads_records (calm : node.Calm volume) (dispatching : node.dispatching = true)
    (now : Instant) (pipelines : List Pipeline) (records : List DeltaRecord) :
    let turn := Node.dispatchRecords now records node volume
    Leads now ⟨node, volume, pipelines, .sorting records⟩
      ⟨turn.node, turn.volume, pipelines, .idle⟩ := by
  induction records generalizing node volume with
  | nil => exact .of_dispatch rfl
  | cons record rest ih =>
    obtain ⟨after, still, leads⟩ := leads_record calm now pipelines record rest
    unfold Node.dispatchRecords
    rw [if_pos dispatching]
    exact leads.trans (ih after (still.trans dispatching))

/-- Undisturbed, a dispatcher that waits for a change gets to where the node gets by
dispatching it at once. -/
theorem leads_dispatch (calm : node.Calm volume) (dispatching : node.dispatching = true)
    (now : Instant) (pipelines : List Pipeline) :
    let turn := node.dispatch volume now
    Leads now ⟨node, volume, pipelines, .idle⟩ ⟨turn.node, turn.volume, pipelines, .idle⟩ := by
  unfold Node.dispatch
  cases queued : node.queue with
  | nil => exact .refl now _
  | cons delta queue =>
    have takes : NodeScene.dispatch ⟨node, volume, pipelines, .idle⟩ =
        ⟨{ node with queue }, volume, pipelines, .sorting delta⟩ := by
      simp only [dispatch, queued]
    have taken : Node.Calm { node with queue } volume := ⟨calm.free, calm.running, calm.medium⟩
    exact (Leads.of_dispatch takes).trans (leads_records taken dispatching now pipelines delta)

end NodeScene

end DigestSync
