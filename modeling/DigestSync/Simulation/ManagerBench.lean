import DigestSync.Fetch.Manager
import DigestSync.Simulation.Agenda
import DigestSync.Simulation.Event
import DigestSync.Simulation.Script

set_option autoImplicit false

/-! # A fetch manager under a script

A fetch manager over a volume whose requests are answered by a script.  After
each call everything that is due happens before the clock moves on.
-/

namespace DigestSync

/-- What is to happen to a fetch manager. -/
inductive ManagerActivity where
  /-- Look at the worklist. -/
  | look
  /-- Look at the worklist if it is still to be looked at from this time on. -/
  | alarm (due : Instant)
  /-- Start the attempt of an entry. -/
  | launch (id : FetcherId) (fetcher : Fetcher)
  /-- Hand the answer to a request to its attempt. -/
  | answer (ticket : Ticket) (seq : Seq) (content : Option Bytes)

/-- A fetch manager, its surroundings and what has been seen, the latest first. -/
structure ManagerBench where
  now : Instant
  manager : FetchManager
  volume : Volume
  locators : LocatorTable
  script : Script
  agenda : Agenda ManagerActivity
  events : List (Instant × Event)

namespace ManagerBench

/-- A manager over a store, not yet started. -/
def start (config : FetchConfig) (store : MemoryStore) (locators : LocatorTable)
    (rules : List ScriptRule) : ManagerBench :=
  ⟨0, .new config, .ofStore store, locators, Script.start rules, .empty, []⟩

/-- Take note of an event. -/
def note (bench : ManagerBench) (event : Event) : ManagerBench :=
  { bench with events := (bench.now, event) :: bench.events }

/-- Plan an activity. -/
def plan (bench : ManagerBench) (due : Instant) (activity : ManagerActivity) : ManagerBench :=
  { bench with agenda := bench.agenda.insert due activity }

/-- Carry out what an attempt calls for. -/
def perform (bench : ManagerBench) : Ticket × FetchAction → ManagerBench
  | (ticket, .request seq interest) =>
    let ((delay, content), script) := bench.script.respond interest
    { bench.note (.asked interest) with script }.plan (bench.now + delay)
      (.answer ticket seq content)
  | (_, .deliver task seq content) => bench.note (.segment task seq content)
  | (_, .finish task) => bench.note (.finish task)

/-- Take over the outcome of an event. -/
def accept (bench : ManagerBench) (turn : ManagerTurn) : ManagerBench :=
  let bench :=
    turn.actions.foldl perform { bench with manager := turn.manager, volume := turn.volume }
  if turn.wakes then bench.plan bench.now .look else bench

/-- Look at the worklist if that is done at all.  The next look by itself comes when
the clock has moved, since nothing is left to be done before. -/
def look (bench : ManagerBench) : ManagerBench :=
  if bench.manager.isScheduling then
    let (manager, started) := bench.manager.schedule bench.now
    let bench := { bench with manager }.plan (max manager.wakeAt (bench.now + tick))
      (.alarm manager.wakeAt)
    started.foldl (fun bench (id, fetcher) => bench.plan bench.now (.launch id fetcher)) bench
  else bench

/-- Carry out an activity. -/
def fire (bench : ManagerBench) : ManagerActivity → ManagerBench
  | .look => bench.look
  | .alarm due => if bench.manager.wakeAt = due then bench.look else bench
  | .launch id fetcher =>
    bench.accept
      (bench.manager.launch bench.volume bench.now bench.locators.resolve id fetcher)
  | .answer ticket seq content =>
    bench.accept
      (bench.manager.receive bench.volume bench.now bench.locators.resolve ticket seq content)

/-- Let everything happen that is due no later than `limit`. -/
def runUntil (limit : Instant) : Nat → ManagerBench → ManagerBench
  | 0, bench => bench
  | fuel + 1, bench =>
    match bench.agenda.next? limit with
    | none => bench
    | some (due, activity, agenda) =>
      runUntil limit fuel ({ bench with agenda, now := max bench.now due }.fire activity)

/-- Let everything happen that is due. -/
def settle (bench : ManagerBench) : ManagerBench := runUntil bench.now stepLimit bench

/-- Let time go by. -/
def sleep (bench : ManagerBench) (span : Duration) : ManagerBench :=
  let limit := bench.now + span
  { runUntil limit stepLimit bench with now := limit }

/-! ## Calls -/

/-- Look at the worklist from now on; a second call changes nothing. -/
def begin (bench : ManagerBench) : ManagerBench :=
  if bench.manager.started then bench
  else { bench with manager := bench.manager.start }.plan bench.now .look

/-- Take over the outcome of a call, which may have added entries. -/
def adopt (bench : ManagerBench) (manager : FetchManager) (volume : Volume) : ManagerBench :=
  let changed := { bench with manager, volume }
  if bench.manager.worklist.nextId < manager.worklist.nextId then changed.plan bench.now .look
  else changed

/-- Add a task. -/
def enqueue (bench : ManagerBench) (task : FetchTask) :
    Except FetchFault Bool × ManagerBench :=
  let (answer, manager, volume) :=
    bench.manager.enqueue bench.volume bench.now bench.locators.resolve task
  (answer, bench.adopt manager volume)

/-- Add two tasks at the same time, and count those that were added. -/
def enqueuePair (bench : ManagerBench) (first second : FetchTask) :
    Except FetchFault Nat × ManagerBench :=
  let (early, bench) := bench.enqueue first
  let (late, bench) := bench.enqueue second
  match early, late with
  | .error fault, _ => (.error fault, bench)
  | _, .error fault => (.error fault, bench)
  | .ok early, .ok late => (.ok (early.toNat + late.toNat), bench)

/-- Drop what is to be fetched under a key.  A call that fails leaves the worklist
to itself until it is next looked at. -/
def cancel (bench : ManagerBench) (key : TaskKey) : Except FetchFault Bool × ManagerBench :=
  let (answer, manager, volume) := bench.manager.cancel bench.volume bench.now key
  let changed := { bench with manager, volume }
  match answer with
  | .error _ => (answer, changed)
  | .ok _ => (answer, changed.plan bench.now .look)

/-- Add every stored task. -/
def restore (bench : ManagerBench) : Except FetchFault Nat × ManagerBench :=
  let (answer, manager, volume) :=
    bench.manager.restore bench.volume bench.now bench.locators.resolve
  (answer, bench.adopt manager volume)

/-- Go on with a new manager over the same store. -/
def restart (bench : ManagerBench) : ManagerBench :=
  { bench with manager := .new bench.manager.config, agenda := .empty }

/-- Accept no further task, and end all attempts. -/
def shutdown (bench : ManagerBench) : ManagerBench :=
  { bench with manager := bench.manager.shutdown }

/-- Learn the place of a device. -/
def locate (bench : ManagerBench) (device : DeviceId) (place : Name) : ManagerBench :=
  { bench with locators := bench.locators.insert device place }

/-- Give the volume a fault, or make it sound. -/
def setFault (bench : ManagerBench) (fault : Option StoreFault) : ManagerBench :=
  { bench with volume := { bench.volume with fault } }

end ManagerBench

end DigestSync
