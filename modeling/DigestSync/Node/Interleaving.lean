import DigestSync.Node.Node
import DigestSync.Sync.History

set_option autoImplicit false

/-! # A node among its events

The parts of a node run side by side: its sync core, the dispatcher of reported changes,
the scheduler that looks at the worklist, and one pipeline for each attempt.  An event is
the least that happens at once.  The sync core deals with an input; it shares nothing with
the others but the queue.  The dispatcher takes a change from the queue, or turns to the
next record, or tries to enter the fetch manager with a task.  Someone asks for records.
What has entered the manager takes its next step.  The worklist is looked at.  A pipeline
starts its attempt, gets an answer, or ends, for which a completed one has to enter.

A run is any list of events.  An event that cannot happen at its point leaves all as it
was; whoever finds the manager taken has to wait, and enters by a later event.  Faults of
the store, cancelled keys and shutdowns are left out.  The worklist is looked at from before
the node joins its group; joining reads nothing that this changes, and so it comes first.
-/

namespace DigestSync

/-- Where a pipeline stands. -/
inductive PipelineStage where
  /-- Its attempt is to be started. -/
  | due
  /-- Requests are in flight. -/
  | going (window : Window)
  /-- The attempt has ended, and the manager is to be told. -/
  | over (ending : Attempt)
deriving DecidableEq, Repr

/-- Where a pipeline stands after a step of its attempt. -/
def PipelineStage.after (turn : FetchTurn) : PipelineStage :=
  match turn.ending with
  | none => .going turn.window
  | some ending => .over ending

/-- The pipeline of an attempt. -/
structure Pipeline where
  id : FetcherId
  fetcher : Fetcher
  stage : PipelineStage
deriving DecidableEq, Repr

/-- What the dispatcher is at. -/
inductive Dispatcher where
  /-- It waits for a change. -/
  | idle
  /-- These records of a change are yet to be dispatched. -/
  | sorting (rest : List DeltaRecord)
  /-- It wants to enter with a task, and then to go on. -/
  | waiting (task : FetchTask) (rest : List DeltaRecord)
  /-- It has entered with a task. -/
  | entered (rest : List DeltaRecord)
deriving DecidableEq, Repr

/-- The records of the change that is being dispatched which have not had their turn. -/
def Dispatcher.rest : Dispatcher → List DeltaRecord
  | .idle => []
  | .sorting rest => rest
  | .waiting _ rest => rest
  | .entered rest => rest

/-- The dispatcher after a step of the manager: if what it has entered with has left, it goes
on with the records. -/
def Dispatcher.resume (dispatcher : Dispatcher) (step : Option PersistStep) : Dispatcher :=
  match step, dispatcher with
  | none, .entered rest => .sorting rest
  | _, dispatcher => dispatcher

/-- What may happen to a node that is not shut down. -/
inductive NodeEvent where
  /-- The sync core is told of an input. -/
  | sync (input : PeerInput)
  /-- The dispatcher takes its next step. -/
  | dispatch
  /-- A call enters to fetch records of a producer. -/
  | request (producer : DeviceId) (first last : Seq) (priority : Priority)
  /-- What has entered takes its next step. -/
  | advance
  /-- The worklist is looked at for what is due. -/
  | look
  /-- The pipeline at a place starts its attempt. -/
  | begin (place : Nat)
  /-- A request of the pipeline at a place is answered, or its time is over. -/
  | resolve (place : Nat) (seq : Seq) (answer : Option Bytes)
  /-- The pipeline at a place tells the manager how its attempt has ended. -/
  | conclude (place : Nat)

/-- Whatever the event asks for lies below the highest number. -/
def NodeEvent.IsLow : NodeEvent → Prop
  | .request _ _ last _ => last.toNat + 1 < UInt64.size
  | _ => True

/-- Tell the sync core of a node of an input. -/
def Node.hear (node : Node) (volume : Volume) (now : Instant) : PeerInput → NodeTurn
  | .event event => node.tellSync volume now event
  | .publish seq => (node.publish volume now seq).2
  | .noteChange => node.ofSync (node.sync.noteChange volume now).2

/-- The sink was handed the record of a producer with a number. -/
def ActionLog.HasApplied (log : ActionLog) (producer : DeviceId) (seq : Seq) : Prop :=
  ∃ content, (seq, content) ∈ log.appliedFrom producer

/-- A node, its store, its pipelines in the order in which they were started, and its
dispatcher. -/
structure NodeScene where
  node : Node
  volume : Volume
  pipelines : List Pipeline
  dispatcher : Dispatcher

namespace NodeScene

/-- A node of a device that has joined its group, with a store on a sound medium. -/
def join (config : NodeConfig) (device : DeviceId) (store : MemoryStore) (now : Instant) :
    Except NodeFault NodeScene :=
  match Node.prepare config device (.ofStore store) now with
  | (.error fault, _) => .error fault
  | (.ok (locators, fetch), volume) =>
    match volume.rememberState with
    | .error fault => .error (.sync (.store fault))
    | .ok (root, volume) =>
      .ok ⟨Node.start config device root locators fetch now, volume, [], .idle⟩

/-- The manager has been entered. -/
def isTaken (scene : NodeScene) : Bool := scene.node.fetch.step.isSome

/-- The same with another state of the manager. -/
def withFetch (scene : NodeScene) (fetch : FetchManager) : NodeScene :=
  { scene with node := { scene.node with fetch } }

/-! ## The dispatcher -/

/-- Turn to the first of some records, or to the next change if there is none. -/
def sort (scene : NodeScene) : List DeltaRecord → NodeScene
  | [] => { scene with dispatcher := .idle }
  | record :: rest =>
    if record.device = scene.node.device then { scene with dispatcher := .sorting rest }
    else
      let node := scene.node.learnLocator record
      match record.missingRange with
      | none => { scene with node, dispatcher := .sorting rest }
      | some (first, last) =>
        { scene with
          node
          dispatcher := .waiting (node.taskOf record.device first last .normal) rest }

/-- Enter the manager with a task unless it is taken, and then go on with some records. -/
def submit (scene : NodeScene) (task : FetchTask) (rest : List DeltaRecord) : NodeScene :=
  if scene.isTaken then scene
  else
    match scene.node.fetch.enterEnqueue scene.node.locators.resolve task with
    | .answered _ => { scene with dispatcher := .sorting rest }
    | .entered fetch => { scene.withFetch fetch with dispatcher := .entered rest }

/-- Let the dispatcher take its next step.  When it has entered, it waits until it has
left. -/
def dispatch (scene : NodeScene) : NodeScene :=
  match scene.dispatcher with
  | .idle =>
    match scene.node.queue with
    | [] => scene
    | delta :: queue => ⟨{ scene.node with queue }, scene.volume, scene.pipelines, .sorting delta⟩
  | .sorting rest => scene.sort rest
  | .waiting task rest => scene.submit task rest
  | .entered _ => scene

/-! ## Pipelines -/

/-- Take over the outcome of a step of the pipeline at a place. -/
def absorb (scene : NodeScene) (place : Nat) (id : FetcherId) (turn : FetchTurn) : NodeScene :=
  let actions := turn.actions.map fun action => (Ticket.mk id turn.fetcher.attempts, action)
  { scene with
    node := (scene.node.ofFetch ⟨scene.node.fetch, scene.volume, actions, false⟩).node
    pipelines := scene.pipelines.set place ⟨id, turn.fetcher, .after turn⟩ }

/-- Start the attempt of the pipeline at a place. -/
def begin (scene : NodeScene) (place : Nat) : NodeScene :=
  match scene.pipelines[place]? with
  | some ⟨id, fetcher, .due⟩ =>
    scene.absorb place id (fetcher.begin scene.node.fetch.config)
  | _ => scene

/-- Hand an answer to the pipeline at a place, if it waits for it. -/
def resolve (scene : NodeScene) (now : Instant) (place : Nat) (seq : Seq)
    (answer : Option Bytes) : NodeScene :=
  match scene.pipelines[place]? with
  | some ⟨id, fetcher, .going window⟩ =>
    if seq ∈ window.inFlight then
      scene.absorb place id (fetcher.receive scene.node.fetch.config window now seq answer)
    else scene
  | _ => scene

/-- Let the pipeline at a place tell the manager of its end. -/
def conclude (scene : NodeScene) (now : Instant) (place : Nat) : NodeScene :=
  match scene.pipelines[place]? with
  | some ⟨id, fetcher, .over .completed⟩ =>
    if scene.isTaken then scene
    else
      { scene.withFetch (scene.node.fetch.enterComplete now id fetcher.task.key) with
        pipelines := scene.pipelines.eraseIdx place }
  | some ⟨id, fetcher, .over .failed⟩ =>
    { scene.withFetch (scene.node.fetch.fail now scene.node.locators.resolve id fetcher) with
      pipelines := scene.pipelines.eraseIdx place }
  | _ => scene

/-! ## Events -/

/-- Let what has entered take its next step. -/
def advance (scene : NodeScene) (now : Instant) : NodeScene :=
  let (fetch, volume, _) := scene.node.fetch.advance scene.volume now
  ⟨{ scene.node with fetch }, volume, scene.pipelines, scene.dispatcher.resume fetch.step⟩

/-- Look at the worklist, and set up the pipelines of the attempts that are to be
started. -/
def look (scene : NodeScene) (now : Instant) : NodeScene :=
  let (node, started) := scene.node.look now
  { scene with
    node
    pipelines := scene.pipelines ++ started.map fun attempt => ⟨attempt.1, attempt.2, .due⟩ }

/-- Let an event happen. -/
def react (scene : NodeScene) (now : Instant) : NodeEvent → NodeScene
  | .sync input =>
    let turn := scene.node.hear scene.volume now input
    { scene with node := turn.node, volume := turn.volume }
  | .dispatch => scene.dispatch
  | .request producer first last priority =>
    if scene.isTaken then scene
    else
      match scene.node.fetch.enterEnqueue scene.node.locators.resolve
          (scene.node.taskOf producer first last priority) with
      | .answered _ => scene
      | .entered fetch => scene.withFetch fetch
  | .advance => scene.advance now
  | .look => scene.look now
  | .begin place => scene.begin place
  | .resolve place seq answer => scene.resolve now place seq answer
  | .conclude place => scene.conclude now place

/-- Let events happen one after another. -/
def run (scene : NodeScene) : List (Instant × NodeEvent) → NodeScene
  | [] => scene
  | (now, event) :: rest => (scene.react now event).run rest

/-- The states that a node has between the events. -/
def states (scene : NodeScene) : List (Instant × NodeEvent) → List Snapshot
  | [] => [scene.volume.store.currentState]
  | (now, event) :: rest =>
    scene.volume.store.currentState :: (scene.react now event).states rest

end NodeScene

end DigestSync
