import DigestSync.Fetch.Manager

set_option autoImplicit false

/-! # A manager among its events

The calls on a manager come from several threads, and its attempts end at any time.
An event is the least that happens at once: a call or the end of a completed attempt
enters, the one that has entered takes its next step, the worklist is looked at, an
attempt fails, or the medium of the store becomes faulty or sound.  A run is any list
of events.  An event that cannot happen at its point leaves all as it was; a call that
finds another one entered has to wait, and its entering is a later event.

Attempts of cancelled entries may still end, since ending them takes its time.
-/

namespace DigestSync

/-- What may happen to a manager that is not shut down. -/
inductive ManagerEvent where
  /-- A call enters to add a task. -/
  | enqueue (resolve : DeviceId → Name) (task : FetchTask)
  /-- A call enters to cancel a key. -/
  | cancel (key : TaskKey)
  /-- What has entered takes its next step. -/
  | advance
  /-- The worklist is looked at for what is due. -/
  | look
  /-- The end of a completed attempt enters, with the fetcher as it is by then. -/
  | complete (id : FetcherId) (fetcher : Fetcher)
  /-- An attempt fails, with the fetcher as it is by then. -/
  | fail (resolve : DeviceId → Name) (id : FetcherId) (fetcher : Fetcher)
  /-- The medium of the store becomes faulty or sound. -/
  | medium (fault : Option StoreFault)

namespace ManagerEvent

/-- The event does not make the medium of the store faulty. -/
def IsSound : ManagerEvent → Prop
  | .medium (some _) => False
  | _ => True

end ManagerEvent

/-- A manager, its store, and the attempts that were started and have not ended, those
of cancelled entries included. -/
structure ManagerScene where
  manager : FetchManager
  volume : Volume
  underWay : List (FetcherId × Fetcher)

namespace ManagerScene

/-- A new manager over a store on a sound medium. -/
def start (config : FetchConfig) (store : MemoryStore) : ManagerScene :=
  ⟨.new config, .ofStore store, []⟩

/-- A call has entered, or the end of an attempt. -/
def isTaken (scene : ManagerScene) : Bool := scene.manager.step.isSome

/-- An attempt with a number is under way for the fetcher's task. -/
def isUnderWay (scene : ManagerScene) (id : FetcherId) (fetcher : Fetcher) : Bool :=
  scene.underWay.any fun attempt => attempt.1 = id && attempt.2.task = fetcher.task

/-- The attempts other than those with a number. -/
def without (scene : ManagerScene) (id : FetcherId) : List (FetcherId × Fetcher) :=
  scene.underWay.filter fun attempt => attempt.1 ≠ id

/-- Let an event happen. -/
def react (scene : ManagerScene) (now : Instant) : ManagerEvent → ManagerScene
  | .enqueue resolve task =>
    if scene.isTaken then scene
    else
      match scene.manager.enterEnqueue resolve task with
      | .answered _ => scene
      | .entered manager => { scene with manager }
  | .cancel key =>
    if scene.isTaken then scene
    else { scene with manager := scene.manager.enterCancel key }
  | .advance =>
    let (manager, volume, _) := scene.manager.advance scene.volume now
    { scene with manager, volume }
  | .look =>
    if scene.manager.worklist.stopped then scene
    else
      let (manager, started) := scene.manager.schedule now
      { scene with manager, underWay := scene.underWay ++ started }
  | .complete id fetcher =>
    if scene.isTaken || !scene.isUnderWay id fetcher then scene
    else
      { scene with
        manager := scene.manager.enterComplete now id fetcher.task.key
        underWay := scene.without id }
  | .fail resolve id fetcher =>
    if scene.isUnderWay id fetcher then
      { scene with
        manager := scene.manager.fail now resolve id fetcher
        underWay := scene.without id }
    else scene
  | .medium fault => { scene with volume := { scene.volume with fault } }

/-- Let events happen one after another, each at its time. -/
def run (scene : ManagerScene) (events : List (Instant × ManagerEvent)) : ManagerScene :=
  events.foldl (fun scene event => scene.react event.1 event.2) scene

end ManagerScene

end DigestSync
