import DigestSync.Data.SortedMap
import DigestSync.Fetch.Interleaving

set_option autoImplicit false

/-! # The worklist in its parts

The entries of a worklist are kept in an arena, where each is found under its number.  The order
in which they get their turn is a queue of these numbers, and the attempts under way are counted
beside both.  So every operation has three things to keep in step: an entry is added to the arena
and to the queue, it is removed from both, and the count goes up and down with the states of the
entries.

A manager over such a worklist lets the same events happen as one over the list of its entries.
-/

namespace DigestSync

/-- The entries of a worklist by their numbers, their order, and the count of attempts. -/
structure Arena where
  /-- The numbers of the entries in their order. -/
  queue : List FetcherId
  /-- The entries, each under its number. -/
  slots : SortedMap FetcherId Slot
  /-- How many attempts are under way. -/
  active : Nat
  /-- The number that the next entry gets. -/
  nextId : FetcherId
  /-- No further entry is accepted. -/
  stopped : Bool

namespace Arena

/-- The arena without entries. -/
def empty : Arena := ⟨[], .empty, 0, 0, false⟩

/-- An entry covers the range of a task. -/
def covers (arena : Arena) (task : FetchTask) : Bool :=
  arena.slots.values.any fun slot => slot.covers task

/-- The least task that reaches as far as all unfinished entries with a key, which are met along
the queue. -/
def liveSpan (arena : Arena) (key : TaskKey) : Option FetchTask :=
  let met := arena.queue.filterMap arena.slots.find?
  Worklist.span ((met.filter fun slot => slot.isLive && slot.task.key = key).map (·.task))

/-- An attempt of the entry is under way. -/
def isActive (arena : Arena) (id : FetcherId) : Bool :=
  match arena.slots.find? id with
  | some slot => slot.isActive
  | none => false

/-! ## Entries -/

/-- Add an entry for a task. -/
def insert (arena : Arena) (task : FetchTask) (fetcher : Fetcher) : Arena :=
  let id := arena.nextId
  { arena with
    nextId := id + 1
    slots := arena.slots.insert id ⟨id, task, .idle fetcher⟩
    queue :=
      match task.priority with
      | .high => id :: arena.queue
      | .normal => arena.queue ++ [id] }

/-- Move an entry to another state. -/
def setState (arena : Arena) (id : FetcherId) (state : SlotState) : Arena :=
  match arena.slots.find? id with
  | some slot => { arena with slots := arena.slots.insert id { slot with state } }
  | none => arena

/-- One attempt less is under way. -/
def release (arena : Arena) : Arena := { arena with active := arena.active - 1 }

/-- Take entries off the queue. -/
def unqueue (arena : Arena) (ids : List FetcherId) : Arena :=
  { arena with queue := arena.queue.filter fun id => !ids.contains id }

/-- Take an entry out of the arena, and end its attempt if one is under way. -/
def discard (arena : Arena) (id : FetcherId) : Arena :=
  let rest := { arena with slots := arena.slots.erase id }
  if arena.isActive id then rest.release else rest

/-- The numbers of the entries that are wanted. -/
def idsWhere (arena : Arena) (wanted : Slot → Bool) : List FetcherId :=
  (arena.slots.entries.filter fun entry => wanted entry.2).map (·.1)

/-- The numbers of the entries with a key. -/
def idsOf (arena : Arena) (key : TaskKey) : List FetcherId :=
  arena.idsWhere fun slot => slot.task.key = key

/-- Remove all entries with a key. -/
def removeKey (arena : Arena) (key : TaskKey) : Arena :=
  let ids := arena.idsOf key
  (ids.foldl discard arena).unqueue ids

/-! ## Scheduling -/

/-- Forget the finished entries whose time has come. -/
def purge (arena : Arena) (now : Instant) : Arena :=
  let ids := arena.idsWhere fun slot => slot.isExpired now
  { arena with slots := ids.foldl SortedMap.erase arena.slots }.unqueue ids

/-- How far a look at the queue has got. -/
structure Pass where
  arena : Arena
  /-- The attempts that are to be started. -/
  started : List (FetcherId × Fetcher)
  /-- When to look again. -/
  wakeAt : Instant

/-- Come to an entry: start its attempt if it is due and there is room, or else take note of when
it needs attention. -/
def Pass.visit (config : FetchConfig) (now : Instant) (pass : Pass) (id : FetcherId) : Pass :=
  match (pass.arena.slots.find? id).map Slot.state with
  | some (.finished expiry) => { pass with wakeAt := min pass.wakeAt expiry }
  | some (.idle fetcher) =>
    if now < fetcher.nextRetry then { pass with wakeAt := min pass.wakeAt fetcher.nextRetry }
    else if pass.arena.active < config.maxParallel then
      { pass with
        arena := { pass.arena.setState id .active with active := pass.arena.active + 1 }
        started := pass.started ++ [(id, fetcher)] }
    else pass
  | some .active | none => pass

/-- Forget what is over and start what is due, along the queue. -/
def schedule (arena : Arena) (config : FetchConfig) (now : Instant) : Pass :=
  let arena := arena.purge now
  arena.queue.foldl (Pass.visit config now) ⟨arena, [], now + config.maxIdle⟩

end Arena

/-! ## A manager over an arena -/

/-- A manager that keeps its worklist in an arena, its store, and the attempts that were started
and have not ended, those of cancelled entries included. -/
structure ArenaScene where
  config : FetchConfig
  arena : Arena
  /-- The next step of the call that has entered, if one has. -/
  step : Option PersistStep
  volume : Volume
  underWay : List (FetcherId × Fetcher)

namespace ArenaScene

/-- A new manager over a store on a sound medium. -/
def start (config : FetchConfig) (store : MemoryStore) : ArenaScene :=
  ⟨config, .empty, none, .ofStore store, []⟩

/-- An attempt with a number is under way for the fetcher's task. -/
def isUnderWay (scene : ArenaScene) (id : FetcherId) (fetcher : Fetcher) : Bool :=
  scene.underWay.any fun attempt => attempt.1 = id && attempt.2.task = fetcher.task

/-- The attempt with a number has ended. -/
def conclude (scene : ArenaScene) (id : FetcherId) : ArenaScene :=
  { scene with underWay := scene.underWay.filter fun attempt => attempt.1 ≠ id }

/-- Leave after the last step. -/
def leave (scene : ArenaScene) : ArenaScene := { scene with step := none }

/-- Enter with a task to be added, unless its range is empty or covered. -/
def enterEnqueue (scene : ArenaScene) (resolve : DeviceId → Name) (task : FetchTask) :
    ArenaScene :=
  if task.isEmpty || scene.arena.stopped || scene.arena.covers task then scene
  else { scene with step := some (.storing task (.direct (resolve task.producer))) }

/-- Enter with a key to be cancelled.  Its entries go at once. -/
def enterCancel (scene : ArenaScene) (key : TaskKey) : ArenaScene :=
  { scene with
    arena := scene.arena.removeKey key
    step := some (.clearing key (!(scene.arena.idsOf key).isEmpty)) }

/-- Enter with an entry whose attempt was completed, unless it has been cancelled. -/
def enterComplete (scene : ArenaScene) (now : Instant) (id : FetcherId) (key : TaskKey) :
    ArenaScene :=
  if scene.arena.isActive id then
    let arena := (scene.arena.setState id (.finished (now + scene.config.timedWait))).release
    { scene with arena, step := some (.dropping key (arena.liveSpan key)) }
  else scene

/-- Take note that an entry's attempt failed, unless it has been cancelled. -/
def fail (scene : ArenaScene) (now : Instant) (resolve : DeviceId → Name) (id : FetcherId)
    (fetcher : Fetcher) : ArenaScene :=
  if scene.arena.isActive id then
    { scene with
      arena := (scene.arena.setState id (.idle (fetcher.failAttempt resolve now))).release }
  else scene

/-- Carry out a step of the call that has entered. -/
def perform (scene : ArenaScene) (now : Instant) : PersistStep → ArenaScene
  | .storing task hint =>
    match scene.volume.mergeTask task with
    | .error _ => scene.leave
    | .ok (_, volume) => { scene with volume, step := some (.inserting task hint) }
  | .inserting task hint =>
    if scene.arena.stopped then scene.leave
    else
      let fetcher := Fetcher.start task hint scene.config.maxRetryPause now
      { scene.leave with arena := scene.arena.insert task fetcher }
  | .clearing key _ =>
    match scene.volume.deleteTask key with
    | .error _ => scene.leave
    | .ok (_, volume) => { scene.leave with volume }
  | .dropping key left =>
    let volume :=
      match scene.volume.deleteTask key with
      | .error _ => scene.volume
      | .ok (_, volume) => volume
    { scene with volume, step := left.map .respanning }
  | .respanning left =>
    match scene.volume.mergeTask left with
    | .error _ => scene.leave
    | .ok (_, volume) => { scene.leave with volume }

/-- Let an event happen. -/
def react (scene : ArenaScene) (now : Instant) : ManagerEvent → ArenaScene
  | .enqueue resolve task => if scene.step.isSome then scene else scene.enterEnqueue resolve task
  | .cancel key => if scene.step.isSome then scene else scene.enterCancel key
  | .advance =>
    match scene.step with
    | none => scene
    | some step => scene.perform now step
  | .look =>
    if scene.arena.stopped then scene
    else
      let pass := scene.arena.schedule scene.config now
      { scene with arena := pass.arena, underWay := scene.underWay ++ pass.started }
  | .complete id fetcher =>
    if scene.step.isSome || !scene.isUnderWay id fetcher then scene
    else (scene.conclude id).enterComplete now id fetcher.task.key
  | .fail resolve id fetcher =>
    if scene.isUnderWay id fetcher then (scene.conclude id).fail now resolve id fetcher else scene
  | .medium fault => { scene with volume := { scene.volume with fault } }

/-- Let events happen one after another, each at its time. -/
def run (scene : ArenaScene) (events : List (Instant × ManagerEvent)) : ArenaScene :=
  events.foldl (fun scene event => scene.react event.1 event.2) scene

end ArenaScene

end DigestSync
