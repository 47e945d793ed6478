import DigestSync.Fetch.Fault
import DigestSync.Fetch.Worklist
import DigestSync.Store.Volume

set_option autoImplicit false

/-! # The fetch manager

A fetch manager takes tasks, keeps them in a worklist and in the store, and runs
their attempts.  The stored task of a key spans the unfinished entries with this
key, so that they can be taken up again after a restart.

A call that changes the stored tasks is made up of several steps, between which
others may come: the call first enters, which only one call at a time can do, and
then advances from step to step until it leaves.  Looking at the worklist for
what is due, and failed attempts, need no entry and may come at any time.
-/

namespace DigestSync

/-- The next step of the call that has entered. -/
inductive PersistStep where
  /-- Store a task that is to be added. -/
  | storing (task : FetchTask) (hint : ForwardingHint)
  /-- Add the task, which is stored, to the worklist. -/
  | inserting (task : FetchTask) (hint : ForwardingHint)
  /-- Remove the stored task of a key that was cancelled; tells whether it had
  entries. -/
  | clearing (key : TaskKey) (removed : Bool)
  /-- Remove the stored task of a finished entry's key; tells what of the key is
  left to do. -/
  | dropping (key : TaskKey) (left : Option FetchTask)
  /-- Store what is left to do. -/
  | respanning (left : FetchTask)
deriving DecidableEq, Repr

/-- An attempt that is under way. -/
structure Transfer where
  id : FetcherId
  fetcher : Fetcher
  window : Window
deriving DecidableEq, Repr

/-- One attempt among all those of all entries. -/
structure Ticket where
  id : FetcherId
  attempt : Nat
deriving DecidableEq, Repr

/-- What is to be fetched, and how far that has got. -/
structure FetchManager where
  config : FetchConfig
  worklist : Worklist
  /-- The next step of the call that has entered, if one has. -/
  step : Option PersistStep
  transfers : List Transfer
  /-- The worklist is looked at for what is due. -/
  started : Bool
  /-- When the worklist is looked at next if nothing happens before. -/
  wakeAt : Instant
deriving DecidableEq, Repr

/-- How a call begins: it is answered at once, or has entered. -/
inductive Entering where
  | answered (answer : Except FetchFault Bool)
  | entered (manager : FetchManager)

/-- The outcome of an event. -/
structure ManagerTurn where
  manager : FetchManager
  volume : Volume
  /-- What the attempts call for. -/
  actions : List (Ticket × FetchAction)
  /-- The worklist is to be looked at. -/
  wakes : Bool

namespace FetchManager

/-- The manager without a task, not yet started. -/
def new (config : FetchConfig) : FetchManager := ⟨config, .empty, none, [], false, 0⟩

/-- The worklist is looked at for what is due. -/
def isScheduling (manager : FetchManager) : Bool := manager.started && !manager.worklist.stopped

/-- Leave after the last step. -/
def leave (manager : FetchManager) : FetchManager := { manager with step := none }

/-- Take up the next step. -/
def goOn (manager : FetchManager) (step : PersistStep) : FetchManager :=
  { manager with step := some step }

/-! ## Entering -/

/-- Enter with a task to be added, unless its range is empty or covered. -/
def enterEnqueue (manager : FetchManager) (resolve : DeviceId → Name) (task : FetchTask) :
    Entering :=
  if task.isEmpty then .answered (.ok false)
  else if manager.worklist.stopped then .answered (.error .stopped)
  else if manager.worklist.covers task then .answered (.ok false)
  else .entered (manager.goOn (.storing task (.direct (resolve task.producer))))

/-- Enter with a key to be cancelled.  Its entries go at once, and their attempts
end. -/
def enterCancel (manager : FetchManager) (key : TaskKey) : FetchManager :=
  let gone := manager.worklist.slots.filter fun slot => slot.task.key = key
  { manager with
    worklist := manager.worklist.removeKey key
    transfers := manager.transfers.filter fun transfer => !gone.any fun slot => slot.id = transfer.id
    step := some (.clearing key (!gone.isEmpty)) }

/-- Enter with an entry whose attempt was completed, unless it has been
cancelled. -/
def enterComplete (manager : FetchManager) (now : Instant) (id : FetcherId) (key : TaskKey) :
    FetchManager :=
  if manager.worklist.isActive id then
    let worklist := manager.worklist.release id (.finished (now + manager.config.timedWait))
    { manager with worklist, step := some (.dropping key (worklist.liveSpan key)) }
  else manager

/-! ## Advancing -/

/-- Carry out a step.  A call that leaves with it is answered; the end of an
entry is not a call, and its answer means nothing. -/
def perform (manager : FetchManager) (volume : Volume) (now : Instant) :
    PersistStep → FetchManager × Volume × Option (Except FetchFault Bool)
  | .storing task hint =>
    match volume.mergeTask task with
    | .error fault => (manager.leave, volume, some (.error (.store fault)))
    | .ok (_, volume) => (manager.goOn (.inserting task hint), volume, none)
  | .inserting task hint =>
    if manager.worklist.stopped then (manager.leave, volume, some (.error .stopped))
    else
      let fetcher := Fetcher.start task hint manager.config.maxRetryPause now
      ({ manager.leave with worklist := manager.worklist.insert task fetcher }, volume,
        some (.ok true))
  | .clearing key removed =>
    match volume.deleteTask key with
    | .error fault => (manager.leave, volume, some (.error (.store fault)))
    | .ok (stored, volume) => (manager.leave, volume, some (.ok (removed || stored)))
  | .dropping key left =>
    let volume :=
      match volume.deleteTask key with
      | .error _ => volume
      | .ok (_, volume) => volume
    match left with
    | none => (manager.leave, volume, some (.ok true))
    | some left => (manager.goOn (.respanning left), volume, none)
  | .respanning left =>
    match volume.mergeTask left with
    | .error _ => (manager.leave, volume, some (.ok true))
    | .ok (_, volume) => (manager.leave, volume, some (.ok true))

/-- Carry out the next step of the call that has entered. -/
def advance (manager : FetchManager) (volume : Volume) (now : Instant) :
    FetchManager × Volume × Option (Except FetchFault Bool) :=
  match manager.step with
  | none => (manager, volume, none)
  | some step => manager.perform volume now step

/-- Let the call that has entered leave, with nothing coming in between.  No call
takes more than two steps. -/
def settle (manager : FetchManager) (volume : Volume) (now : Instant) :
    FetchManager × Volume × Option (Except FetchFault Bool) :=
  match manager.advance volume now with
  | (manager, volume, none) => manager.advance volume now
  | settled => settled

/-! ## Calls -/

/-- Add a task.  The answer is no if its range is empty or covered. -/
def enqueue (manager : FetchManager) (volume : Volume) (now : Instant)
    (resolve : DeviceId → Name) (task : FetchTask) :
    Except FetchFault Bool × FetchManager × Volume :=
  match manager.enterEnqueue resolve task with
  | .answered answer => (answer, manager, volume)
  | .entered manager =>
    let (manager, volume, answer) := manager.settle volume now
    (answer.getD (.ok false), manager, volume)

/-- Drop all entries with a key and its stored task.  The answer is yes if there
was any of them. -/
def cancel (manager : FetchManager) (volume : Volume) (now : Instant) (key : TaskKey) :
    Except FetchFault Bool × FetchManager × Volume :=
  let (manager, volume, answer) := (manager.enterCancel key).settle volume now
  (answer.getD (.ok false), manager, volume)

/-- Add several tasks up to the first fault, and count those that were added. -/
def enqueueAll (volume : Volume) (now : Instant) (resolve : DeviceId → Name) :
    List FetchTask → Nat → FetchManager → Except FetchFault Nat × FetchManager × Volume
  | [], count, manager => (.ok count, manager, volume)
  | task :: rest, count, manager =>
    match manager.enqueue volume now resolve task with
    | (.error fault, manager, volume) => (.error fault, manager, volume)
    | (.ok added, manager, volume) =>
      enqueueAll volume now resolve rest (if added then count + 1 else count) manager

/-- Add every stored task, and count those that were added. -/
def restore (manager : FetchManager) (volume : Volume) (now : Instant)
    (resolve : DeviceId → Name) : Except FetchFault Nat × FetchManager × Volume :=
  match volume.listTasks with
  | .error fault => (.error (.store fault), manager, volume)
  | .ok tasks => enqueueAll volume now resolve tasks 0 manager

/-- Look at the worklist for what is due from now on. -/
def start (manager : FetchManager) : FetchManager := { manager with started := true }

/-- Accept no further task, and end all attempts.  What is stored stays. -/
def shutdown (manager : FetchManager) : FetchManager :=
  { manager with worklist := manager.worklist.stop, transfers := [] }

/-! ## Attempts -/

/-- Look at the worklist.  The result tells which attempts are to be started. -/
def schedule (manager : FetchManager) (now : Instant) :
    FetchManager × List (FetcherId × Fetcher) :=
  let (worklist, started, wakeAt) := manager.worklist.schedule manager.config now
  ({ manager with worklist, wakeAt }, started)

/-- Take note that an entry's attempt was completed. -/
def complete (manager : FetchManager) (volume : Volume) (now : Instant) (id : FetcherId)
    (fetcher : Fetcher) : FetchManager × Volume :=
  let (manager, volume, _) :=
    (manager.enterComplete now id fetcher.task.key).settle volume now
  (manager, volume)

/-- Take note that an entry's attempt failed, unless it has been cancelled. -/
def fail (manager : FetchManager) (now : Instant) (resolve : DeviceId → Name) (id : FetcherId)
    (fetcher : Fetcher) : FetchManager :=
  if manager.worklist.isActive id then
    { manager with
      worklist := manager.worklist.release id (.idle (fetcher.failAttempt resolve now)) }
  else manager

/-- Take note of how far an attempt has got. -/
def conclude (manager : FetchManager) (volume : Volume) (now : Instant)
    (resolve : DeviceId → Name) (id : FetcherId) (turn : FetchTurn) : ManagerTurn :=
  let others := manager.transfers.filter fun transfer => transfer.id ≠ id
  let actions := turn.actions.map fun action => (⟨id, turn.fetcher.attempts⟩, action)
  match turn.ending with
  | none =>
    ⟨{ manager with transfers := ⟨id, turn.fetcher, turn.window⟩ :: others }, volume, actions,
      false⟩
  | some .completed =>
    let (manager, volume) :=
      { manager with transfers := others }.complete volume now id turn.fetcher
    ⟨manager, volume, actions, true⟩
  | some .failed =>
    ⟨{ manager with transfers := others }.fail now resolve id turn.fetcher, volume, actions,
      true⟩

/-- Start the attempt of an entry, unless it has been cancelled since. -/
def launch (manager : FetchManager) (volume : Volume) (now : Instant)
    (resolve : DeviceId → Name) (id : FetcherId) (fetcher : Fetcher) : ManagerTurn :=
  if manager.worklist.isActive id && !manager.worklist.stopped then
    manager.conclude volume now resolve id (fetcher.begin manager.config)
  else ⟨manager, volume, [], false⟩

/-- Hand the answer to a request to its attempt, unless that is over. -/
def receive (manager : FetchManager) (volume : Volume) (now : Instant)
    (resolve : DeviceId → Name) (ticket : Ticket) (seq : Seq) (answer : Option Bytes) :
    ManagerTurn :=
  let attempt? := manager.transfers.find? fun transfer =>
    transfer.id = ticket.id && transfer.fetcher.attempts = ticket.attempt
  match attempt? with
  | none => ⟨manager, volume, [], false⟩
  | some transfer =>
    manager.conclude volume now resolve ticket.id
      (transfer.fetcher.receive manager.config transfer.window now seq answer)

end FetchManager

end DigestSync
