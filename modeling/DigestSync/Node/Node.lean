import DigestSync.Fetch.Manager
import DigestSync.Node.ActionLog
import DigestSync.Node.Config
import DigestSync.Node.Fault
import DigestSync.Sync.Core

set_option autoImplicit false

/-! # Nodes

A node is a device that takes part in a group with all it has: its sync core
learns how far the records of the others go, its fetch manager retrieves those
that are missing, and it serves its own.  The changes that the sync core reports
queue up and are dispatched one by one: each update of another device becomes a
task for the numbers that it adds.

Like the core and the manager, a node is a state machine that calls for actions.
-/

namespace DigestSync

/-- A device with all its parts. -/
structure Node where
  config : NodeConfig
  sync : SyncCore
  fetch : FetchManager
  /-- Where the others can be reached, as far as it is known. -/
  locators : LocatorTable
  log : ActionLog
  /-- The reported changes that are yet to be dispatched. -/
  queue : List (List DeltaRecord)
  /-- Reported changes are dispatched. -/
  dispatching : Bool
  /-- The node has been shut down. -/
  stopped : Bool

/-- What a node calls for. -/
inductive NodeAction where
  /-- What the sync core calls for, reports apart. -/
  | sync (action : SyncAction)
  /-- Express the interest in a record for an attempt. -/
  | request (ticket : Ticket) (seq : Seq) (interest : Interest)
  /-- A change was reported and is to be dispatched. -/
  | dispatch
  /-- The worklist is to be looked at. -/
  | look
deriving DecidableEq, Repr

/-- The outcome of an event. -/
structure NodeTurn where
  node : Node
  volume : Volume
  actions : List NodeAction

namespace NodeConfig

/-- The names that a device serves its records under. -/
def served (config : NodeConfig) (device : DeviceId) : List Name :=
  let base := config.actionBase device
  [base, broadcastName ++ base] ++
    match config.locator with
    | none => []
    | some locator => if locator.isEmpty then [] else [locator ++ base]

end NodeConfig

namespace Node

/-- The device of a node. -/
def device (node : Node) : DeviceId := node.sync.device

/-! ## Starting -/

/-- The locators stored for the devices of the current state. -/
def storedLocators (volume : Volume) : Except StoreFault LocatorTable :=
  match volume.currentState with
  | .error fault => .error fault
  | .ok state =>
    state.entries.foldlM (fun table entry =>
      match volume.locator entry.1 with
      | .error fault => .error fault
      | .ok none => .ok table
      | .ok (some locator) => .ok (table.insert entry.1 locator)) SortedMap.empty

/-- Store the configured locator of the device. -/
def storeLocator (config : NodeConfig) (device : DeviceId) (volume : Volume) :
    Except StoreFault Volume :=
  match config.locator with
  | none => .ok volume
  | some locator => Prod.snd <$> volume.updateLocator device locator

/-- What a node needs before it joins its group: the locators it knows of and a
manager that has taken up the stored tasks. -/
def prepare (config : NodeConfig) (device : DeviceId) (volume : Volume) (now : Instant) :
    Except NodeFault (LocatorTable × FetchManager) × Volume :=
  match storeLocator config device volume with
  | .error fault => (.error (.store fault), volume)
  | .ok volume =>
    match storedLocators volume with
    | .error fault => (.error (.store fault), volume)
    | .ok locators =>
      match (FetchManager.new config.fetch).restore volume now locators.resolve with
      | (.error fault, _, volume) => (.error (.fetch fault), volume)
      | (.ok _, manager, volume) => (.ok (locators, manager.start), volume)

/-- The node of a device that has joined its group. -/
def start (config : NodeConfig) (device : DeviceId) (root : Digest) (locators : LocatorTable)
    (fetch : FetchManager) (now : Instant) : Node :=
  ⟨config, SyncCore.start device config.sync root now, fetch, locators, .empty, [], true, false⟩

/-! ## Synchronising -/

/-- Take over the outcome of an event of the sync core. -/
def ofSync (node : Node) (turn : SyncTurn) : NodeTurn :=
  let reports := turn.actions.filterMap fun
    | .report delta => some delta
    | _ => none
  let queued := if node.dispatching then reports else []
  let actions := turn.actions.filterMap fun
    | .report _ => if node.dispatching then some NodeAction.dispatch else none
    | action => some (NodeAction.sync action)
  ⟨{ node with sync := turn.core, queue := node.queue ++ queued }, turn.volume, actions⟩

/-- Tell the sync core of an event. -/
def tellSync (node : Node) (volume : Volume) (now : Instant) (event : SyncEvent) : NodeTurn :=
  node.ofSync (node.sync.handle volume now event)

/-- Announce that the own records go up to a number. -/
def publish (node : Node) (volume : Volume) (now : Instant) (seq : Seq) :
    Except NodeFault Digest × NodeTurn :=
  if node.stopped then (.error .shutDown, ⟨node, volume, []⟩)
  else if !node.sync.running then (.error (.sync .stopped), ⟨node, volume, []⟩)
  else
    match node.sync.publish volume now seq with
    | (.error fault, turn) => (.error (.sync fault), node.ofSync turn)
    | (.ok root, turn) => (.ok root, node.ofSync turn)

/-! ## Fetching -/

/-- Take over the outcome of an event of the fetch manager: what has arrived goes
to the log. -/
def ofFetch (node : Node) (turn : ManagerTurn) : NodeTurn :=
  let log := turn.actions.foldl (fun log (_, action) =>
    match action with
    | .request _ _ => log
    | .deliver task seq content => log.apply task.producer seq content
    | .finish task => log.finish task.producer task.minSeq task.maxSeq) node.log
  let requests := turn.actions.filterMap fun
    | (ticket, .request seq interest) => some (NodeAction.request ticket seq interest)
    | _ => none
  ⟨{ node with fetch := turn.manager, log }, turn.volume,
    if turn.wakes then requests ++ [.look] else requests⟩

/-- Start the attempt of an entry. -/
def launch (node : Node) (volume : Volume) (now : Instant) (id : FetcherId) (fetcher : Fetcher) :
    NodeTurn :=
  node.ofFetch (node.fetch.launch volume now node.locators.resolve id fetcher)

/-- Hand the answer to a request to its attempt. -/
def receive (node : Node) (volume : Volume) (now : Instant) (ticket : Ticket) (seq : Seq)
    (answer : Option Bytes) : NodeTurn :=
  node.ofFetch (node.fetch.receive volume now node.locators.resolve ticket seq answer)

/-- Look at the worklist.  The result tells which attempts are to be started. -/
def look (node : Node) (now : Instant) : Node × List (FetcherId × Fetcher) :=
  if node.fetch.isScheduling then
    let (fetch, started) := node.fetch.schedule now
    ({ node with fetch }, started)
  else (node, [])

/-- The task of fetching records of a producer. -/
def taskOf (node : Node) (producer : DeviceId) (first last : Seq) (priority : Priority) :
    FetchTask :=
  ⟨producer, node.config.actionBase producer, first, last, priority⟩

/-- Add a task. -/
def enqueue (node : Node) (volume : Volume) (now : Instant) (task : FetchTask) :
    Except FetchFault Bool × NodeTurn :=
  let (answer, fetch, volume) := node.fetch.enqueue volume now node.locators.resolve task
  let actions :=
    match answer with
    | .ok true => [NodeAction.look]
    | _ => []
  (answer, ⟨{ node with fetch }, volume, actions⟩)

/-- Fetch records of a producer.  The answer is no if the range is empty or is
being fetched. -/
def request (node : Node) (volume : Volume) (now : Instant) (producer : DeviceId)
    (first last : Seq) (priority : Priority) : Except NodeFault Bool × NodeTurn :=
  if node.stopped then (.error .shutDown, ⟨node, volume, []⟩)
  else
    match node.enqueue volume now (node.taskOf producer first last priority) with
    | (.error fault, turn) => (.error (.fetch fault), turn)
    | (.ok added, turn) => (.ok added, turn)

/-- Drop what is to be fetched under a key.  A call that fails leaves the worklist
to itself until it is next looked at. -/
def cancel (node : Node) (volume : Volume) (now : Instant) (key : TaskKey) :
    Except FetchFault Bool × NodeTurn :=
  let (answer, fetch, volume) := node.fetch.cancel volume now key
  let actions :=
    match answer with
    | .error _ => []
    | .ok _ => [NodeAction.look]
  (answer, ⟨{ node with fetch }, volume, actions⟩)

/-! ## Dispatching -/

/-- Remember where a device can be reached if the record tells. -/
def learnLocator (node : Node) (record : DeltaRecord) : Node :=
  match record.locator with
  | none => node
  | some locator => { node with locators := node.locators.insert record.device locator }

/-- Turn a record of a reported change into a task, unless it is about the node
itself or adds no numbers.  Nothing is dispatched any more once the manager
accepts no task. -/
def dispatchRecord (node : Node) (volume : Volume) (now : Instant) (record : DeltaRecord) :
    NodeTurn :=
  if record.device = node.device then ⟨node, volume, []⟩
  else
    let node := node.learnLocator record
    match record.missingRange with
    | none => ⟨node, volume, []⟩
    | some (first, last) =>
      match node.enqueue volume now (node.taskOf record.device first last .normal) with
      | (.error .stopped, turn) =>
        { turn with node := { turn.node with dispatching := false, queue := [] } }
      | (_, turn) => turn

/-- Dispatch the records of a reported change in order. -/
def dispatchRecords (now : Instant) : List DeltaRecord → Node → Volume → NodeTurn
  | [], node, volume => ⟨node, volume, []⟩
  | record :: rest, node, volume =>
    if node.dispatching then
      let turn := node.dispatchRecord volume now record
      let later := dispatchRecords now rest turn.node turn.volume
      { later with actions := turn.actions ++ later.actions }
    else ⟨node, volume, []⟩

/-- Dispatch the change that was reported first. -/
def dispatch (node : Node) (volume : Volume) (now : Instant) : NodeTurn :=
  match node.queue with
  | [] => ⟨node, volume, []⟩
  | delta :: rest => dispatchRecords now delta { node with queue := rest } volume

/-! ## Serving -/

/-- The number of the record that a name asks for under a served name. -/
def askedFor (start name : Name) : Option Seq :=
  match name.drop? start with
  | none => none
  | some rest => if rest.size = 1 then rest.lastNumber? else none

/-- The answer to an interest under a served name. -/
def serve (node : Node) (start name : Name) : Option Data :=
  match askedFor start name with
  | none => none
  | some seq =>
    match node.log.lookup seq with
    | none => none
    | some record => some ⟨name, record, node.config.segmentFreshness⟩

/-! ## Ending -/

/-- Stop fetching alone. -/
def stopFetching (node : Node) : Node := { node with fetch := node.fetch.shutdown }

/-- Stop synchronising alone. -/
def stopSyncing (node : Node) : Node := { node with sync := node.sync.stop }

/-- Stop everything.  The stored tasks stay for the next start. -/
def shutdown (node : Node) : Node :=
  { node.stopSyncing.stopFetching with queue := [], dispatching := false, stopped := true }

/-- The node has applied every record that the other has made. -/
def isCaughtUpWith (node other : Node) : Bool :=
  other.log.ownSeq ≤ node.log.appliedThrough other.device

end Node

end DigestSync
