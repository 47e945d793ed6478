import DigestSync.Node.Node
import DigestSync.Simulation.Agenda
import DigestSync.Simulation.Event
import DigestSync.Sync.Convergence

set_option autoImplicit false

/-! # A simulated world

Devices on one network, with a clock.  Each face of the network is used by hand,
by a sync core or by a node; faces may be told to refuse calls.  What the devices
call for is put on an agenda, and whatever is due happens before the clock moves
on.  An observer sees the events that the faces log.
-/

namespace DigestSync

/-! ## Parts -/

/-- A call on the network. -/
inductive NetworkCall where
  | express
  | put
  /-- The registration with this number, counted from one. -/
  | register (number : Nat)
deriving DecidableEq, Repr

namespace NetworkCall

/-- The written form of a call. -/
def render : NetworkCall → String
  | .express => "express"
  | .put => "put"
  | .register number => "register" ++ toString number

/-- The call with a written form. -/
def ofText? (text : String) : Option NetworkCall :=
  if text = express.render then some .express
  else if text = put.render then some .put
  else
    match (text.drop 8).toString.toNat? with
    | none => none
    | some number =>
      if text = (register number).render then some (.register number) else none

/-- The fault of a call that is refused. -/
def refusal (call : NetworkCall) : SyncFault := .transport (call.render ++ " refused")

end NetworkCall

/-- A rule by which a face answers interests: those of the given kind, or all,
with the same content after a delay. -/
structure Responder where
  start : Name
  only : Option Bool
  content : Bytes
  delay : Duration
deriving DecidableEq, Repr

/-- The interest is of the kind that the rule answers. -/
def Responder.accepts (responder : Responder) (name : Name) : Bool :=
  match responder.only with
  | none => true
  | some isRecovery =>
    match SyncName.ofName responder.start name with
    | .ok (.advertise _) => !isRecovery
    | .ok (.recover _) => isRecovery
    | .error _ => false

/-- What receives the interests of a registration. -/
inductive Taker where
  /-- A queue that is read by hand. -/
  | inbox (number : Nat)
  | responder (responder : Responder)
  /-- The sync core at the face. -/
  | sync
  /-- The node at the face, which serves its records under the name. -/
  | records (start : Name)
deriving DecidableEq, Repr

/-- What waits for the answer to an interest. -/
inductive Asker where
  /-- An observer who knows the interest by a label. -/
  | observer (label : String)
  /-- The sync core at a face. -/
  | sync (face : Face) (saying : SyncName)
  /-- An attempt of the node at a face. -/
  | attempt (face : Face) (ticket : Ticket) (seq : Seq)
deriving DecidableEq, Repr

/-- What is to happen in a world. -/
inductive Activity where
  /-- A face receives an interest. -/
  | receive (face : Face) (taker : Taker) (interest : Interest)
  /-- An asker gets its answer. -/
  | answer (asker : Asker) (answer : Except SyncFault (Option Data))
  /-- The time of a waiting interest is over. -/
  | expire (id : Nat)
  /-- A face puts data on the network. -/
  | put (face : Face) (data : Data)
  /-- The sync core at a face advertises if it is time to. -/
  | advertise (face : Face)
  /-- The sync core at a face recovers a digest. -/
  | recover (face : Face) (digest : Digest)
  /-- The node at a face dispatches a reported change. -/
  | dispatch (face : Face)
  /-- The node at a face looks at its worklist. -/
  | look (face : Face)
  /-- It does so if that is still to be done from the given time on. -/
  | alarm (face : Face) (due : Instant)
  /-- The node at a face starts the attempt of an entry. -/
  | launch (face : Face) (id : FetcherId) (fetcher : Fetcher)

/-- Who uses a face. -/
inductive Occupant where
  /-- It is used by hand. -/
  | none
  | core (core : SyncCore)
  | node (node : Node)

/-- A face and who uses it. -/
structure Seat where
  /-- What the events of the face's sync core are labelled with. -/
  label : String
  /-- The face logs no events. -/
  silent : Bool
  /-- The calls that are refused. -/
  refused : List NetworkCall
  /-- How many registrations have been made. -/
  registrations : Nat
  /-- The volume that the occupant works on. -/
  volume : Nat
  occupant : Occupant

/-- Devices, their network and what has been seen, the latest first. -/
structure World where
  now : Instant
  network : Network Taker Asker
  seats : SortedMap Face Seat
  volumes : SortedMap Nat Volume
  /-- The queues that are read by hand, each with the latest interest first. -/
  inboxes : SortedMap Nat (List Interest)
  nextInbox : Nat
  agenda : Agenda Activity
  events : List (Instant × Event)

namespace World

/-- The world without a face. -/
def empty : World := ⟨0, .empty, .empty, .empty, .empty, 0, .empty, []⟩

/-- The most interests that an inbox holds; further ones are lost. -/
def inboxCapacity : Nat := 1024

/-! ## Faces and volumes -/

/-- Add a volume with a store. -/
def addVolume (world : World) (store : MemoryStore) : Nat × World :=
  let number := world.volumes.keys.length
  (number, { world with volumes := world.volumes.insert number (.ofStore store) })

/-- The volume with a number. -/
def volume (world : World) (number : Nat) : Volume := (world.volumes.find? number).getD default

/-- Change a volume. -/
def setVolume (world : World) (number : Nat) (volume : Volume) : World :=
  { world with volumes := world.volumes.insert number volume }

/-- Add a face. -/
def addFace (world : World) (label : String) (silent : Bool) (volume : Nat) : Face × World :=
  let (face, network) := world.network.attach
  let seat : Seat := ⟨label, silent, [], 0, volume, .none⟩
  (face, { world with network, seats := world.seats.insert face seat })

/-- Change a seat. -/
def modifySeat (world : World) (face : Face) (change : Seat → Seat) : World :=
  match world.seats.find? face with
  | none => world
  | some seat => { world with seats := world.seats.insert face (change seat) }

/-- Change who uses a face. -/
def setOccupant (world : World) (face : Face) (occupant : Occupant) : World :=
  world.modifySeat face fun seat => { seat with occupant }

/-- Choose the calls that a face refuses. -/
def setRefused (world : World) (face : Face) (refused : List NetworkCall) : World :=
  world.modifySeat face fun seat => { seat with refused }

/-- The face refuses the call. -/
def refuses (world : World) (face : Face) (call : NetworkCall) : Bool :=
  (world.seats.find? face).any fun seat => seat.refused.contains call

/-- The sync core at a face. -/
def core? (world : World) (face : Face) : Option SyncCore :=
  match world.seats.find? face with
  | some { occupant := .core core, .. } => some core
  | _ => none

/-- The node at a face. -/
def node? (world : World) (face : Face) : Option Node :=
  match world.seats.find? face with
  | some { occupant := .node node, .. } => some node
  | _ => none

/-- The volume that the occupant of a face works on. -/
def volumeAt (world : World) (face : Face) : Nat :=
  ((world.seats.find? face).map (·.volume)).getD 0

/-! ## Events and plans -/

/-- Take note of an event. -/
def note (world : World) (event : Event) : World :=
  { world with events := (world.now, event) :: world.events }

/-- Take note of an event at a face unless it is silent. -/
def noteAt (world : World) (face : Face) (event : Event) : World :=
  if (world.seats.find? face).any (·.silent) then world else world.note event

/-- Plan an activity after a delay. -/
def plan (world : World) (delay : Duration) (activity : Activity) : World :=
  { world with agenda := world.agenda.insert (world.now + delay) activity }

/-! ## Calls on the network -/

/-- Express an interest. -/
def express (world : World) (face : Face) (asker : Asker) (interest : Interest) : World :=
  let world := world.noteAt face (.interest face interest)
  if world.refuses face .express then
    world.plan 0 (.answer asker (.error NetworkCall.express.refusal))
  else
    let (reception, network) := world.network.express face interest.name asker world.now
    let world := { world with network }
    match reception with
    | .unreachable => world.plan interest.lifetime (.answer asker (.ok none))
    | .cached data => world.plan 0 (.answer asker (.ok (some data)))
    | .forwarded id targets =>
      targets.foldl
        (fun world target => world.plan 0 (.receive target.face target.taker interest))
        (world.plan interest.lifetime (.expire id))

/-- Put data on the network. -/
def put (world : World) (face : Face) (data : Data) : Except SyncFault Unit × World :=
  let world := world.noteAt face (.data face data)
  if world.refuses face .put then (.error NetworkCall.put.refusal, world)
  else
    let (answered, network) := world.network.put face data world.now
    (.ok (), answered.foldl
      (fun world waiting => world.plan 0 (.answer waiting.asker (.ok (some data))))
      { world with network })

/-- Register a beginning of names. -/
def register (world : World) (face : Face) (start : Name) (taker : Taker) :
    Except SyncFault Unit × World :=
  let world := world.noteAt face (.register face start)
  let number := ((world.seats.find? face).map (·.registrations)).getD 0 + 1
  let world := world.modifySeat face fun seat => { seat with registrations := number }
  let call := NetworkCall.register number
  if world.refuses face call then (.error call.refusal, world)
  else (.ok (), { world with network := world.network.register face start taker })

/-- Undo the registrations of a beginning of names. -/
def unregister (world : World) (face : Face) (start : Name) : Bool × World :=
  let (known, network) := world.network.unregister face start
  (known, { world with network }.noteAt face (.unregister face start known))

/-- Undo the registrations of several beginnings. -/
def unregisterAll (world : World) (face : Face) (starts : List Name) : World :=
  starts.foldl (fun world start => (world.unregister face start).2) world

/-! ## Carrying out -/

/-- Plan the next advertisement of a running core if its time has changed. -/
def planAdvert (world : World) (face : Face) (before after : SyncCore) : World :=
  if after.running && before.nextAdvert ≠ after.nextAdvert then
    world.plan (after.nextAdvert - world.now) (.advertise face)
  else world

/-- Carry out what a sync core calls for. -/
def performSync (world : World) (face : Face) (action : SyncAction) : World :=
  match action with
  | .ask saying interest => world.express face (.sync face saying) interest
  | .put data => (world.put face data).2
  | .await digest delay => world.plan delay (.recover face digest)
  | .report delta =>
    match world.seats.find? face with
    | none => world
    | some seat => world.note (.delta seat.label delta)

/-- Take over the outcome of an event of a sync core. -/
def adoptCore (world : World) (face : Face) (before : SyncCore) (turn : SyncTurn) : World :=
  let world := (world.setVolume (world.volumeAt face) turn.volume).setOccupant face
    (.core turn.core)
  turn.actions.foldl (fun world action => world.performSync face action)
    (world.planAdvert face before turn.core)

/-- Carry out what a node calls for. -/
def performNode (world : World) (face : Face) (action : NodeAction) : World :=
  match action with
  | .sync action => world.performSync face action
  | .request ticket seq interest => world.express face (.attempt face ticket seq) interest
  | .dispatch => world.plan 0 (.dispatch face)
  | .look => world.plan 0 (.look face)

/-- Take over the outcome of an event of a node. -/
def adoptNode (world : World) (face : Face) (before : Node) (turn : NodeTurn) : World :=
  let world := (world.setVolume (world.volumeAt face) turn.volume).setOccupant face
    (.node turn.node)
  turn.actions.foldl (fun world action => world.performNode face action)
    (world.planAdvert face before.sync turn.node.sync)

/-- Let the node at a face do something. -/
def withNode (world : World) (face : Face) (act : Node → Volume → NodeTurn) : World :=
  match world.node? face with
  | none => world
  | some node => world.adoptNode face node (act node (world.volume (world.volumeAt face)))

/-- Tell the sync core at a face, or that of the node there, of an event. -/
def tellSync (world : World) (face : Face) (event : SyncEvent) : World :=
  match world.core? face with
  | some core =>
    world.adoptCore face core (core.handle (world.volume (world.volumeAt face)) world.now event)
  | none => world.withNode face fun node volume => node.tellSync volume world.now event

/-- Let the node at a face look at its worklist.  The next look by itself comes when
the clock has moved, since nothing is left to be done before. -/
def look (world : World) (face : Face) : World :=
  match world.node? face with
  | none => world
  | some node =>
    if node.fetch.isScheduling then
      let (node, started) := node.look world.now
      let due := node.fetch.wakeAt
      let world := (world.setOccupant face (.node node)).plan (max (due - world.now) tick)
        (.alarm face due)
      started.foldl (fun world (id, fetcher) => world.plan 0 (.launch face id fetcher)) world
    else world

/-- Put an interest into an inbox, unless it is closed or full. -/
def deliver (world : World) (number : Nat) (interest : Interest) : World :=
  match world.inboxes.find? number with
  | none => world
  | some queue =>
    if queue.length < inboxCapacity then
      { world with inboxes := world.inboxes.insert number (interest :: queue) }
    else world

/-- Let a face receive an interest. -/
def receive (world : World) (face : Face) (taker : Taker) (interest : Interest) : World :=
  match taker with
  | .inbox number => world.deliver number interest
  | .responder responder =>
    if responder.accepts interest.name then
      world.plan responder.delay (.put face ⟨interest.name, responder.content, 0⟩)
    else world
  | .sync => world.tellSync face (.interest interest.name)
  | .records start =>
    match world.node? face with
    | none => world
    | some node =>
      if node.stopped then world
      else
        match node.serve start interest.name with
        | none => world
        | some data => (world.put face data).2

/-- Give an asker its answer. -/
def answer (world : World) (asker : Asker) (answer : Except SyncFault (Option Data)) : World :=
  match asker with
  | .observer label =>
    match answer with
    | .error cause => world.note (.failed label cause)
    | .ok none => world.note (.timeout label)
    | .ok (some data) => world.note (.reply label data)
  | .sync face (.advertise _) => world.tellSync face (.advertReply answer.toOption.join)
  | .sync face (.recover digest) => world.tellSync face (.recoverReply digest answer.toOption.join)
  | .attempt face ticket seq =>
    world.withNode face fun node volume =>
      node.receive volume world.now ticket seq (answer.toOption.join.map (·.content))

/-- The time of a waiting interest is over. -/
def expire (world : World) (id : Nat) : World :=
  match world.network.expire id with
  | (none, _) => world
  | (some waiting, network) => { world with network }.answer waiting.asker (.ok none)

/-- It is time for the sync core at a face to advertise. -/
def isAdvertDue (world : World) (face : Face) : Bool :=
  let isDue (core : SyncCore) : Bool := core.running && core.nextAdvert ≤ world.now
  match world.seats.find? face with
  | some { occupant := .core core, .. } => isDue core
  | some { occupant := .node node, .. } => isDue node.sync
  | _ => false

/-- Carry out an activity. -/
def fire (world : World) : Activity → World
  | .receive face taker interest => world.receive face taker interest
  | .answer asker answer => world.answer asker answer
  | .expire id => world.expire id
  | .put face data => (world.put face data).2
  | .advertise face =>
    if world.isAdvertDue face then world.tellSync face .advertDue else world
  | .recover face digest => world.tellSync face (.recoverDue digest)
  | .dispatch face => world.withNode face fun node volume => node.dispatch volume world.now
  | .look face => world.look face
  | .alarm face due =>
    if (world.node? face).any fun node => node.fetch.wakeAt = due then world.look face else world
  | .launch face id fetcher =>
    world.withNode face fun node volume => node.launch volume world.now id fetcher

/-- Let everything happen that is due no later than `limit`. -/
def runUntil (limit : Instant) : Nat → World → World
  | 0, world => world
  | fuel + 1, world =>
    match world.agenda.next? limit with
    | none => world
    | some (due, activity, agenda) =>
      runUntil limit fuel ({ world with agenda, now := max world.now due }.fire activity)

/-- Let everything happen that is due. -/
def settle (world : World) : World := runUntil world.now stepLimit world

/-- Let time go by. -/
def sleep (world : World) (span : Duration) : World :=
  let limit := world.now + span
  { runUntil limit stepLimit world with now := limit }

/-- Let time go by up to an instant, at which nothing has happened yet. -/
def approach (world : World) (instant : Instant) : World :=
  { runUntil (instant - 1) stepLimit world with now := instant }

/-! ## Faces used by hand -/

/-- Take a face off the network or bring it back. -/
def setOnline (world : World) (face : Face) (online : Bool) : World :=
  { world with network := world.network.setOnline face online }

/-- Register a beginning of names with a new inbox. -/
def openInbox (world : World) (face : Face) (start : Name) : Except SyncFault Nat × World :=
  let number := world.nextInbox
  match world.register face start (.inbox number) with
  | (.error fault, world) => (.error fault, world)
  | (.ok (), world) =>
    (.ok number,
      { world with nextInbox := number + 1, inboxes := world.inboxes.insert number [] })

/-- Take all interests out of an inbox, the oldest first. -/
def drainInbox (world : World) (number : Nat) : List Interest × World :=
  match world.inboxes.find? number with
  | none => ([], world)
  | some queue => (queue.reverse, { world with inboxes := world.inboxes.insert number [] })

/-- Close an inbox; what it is sent is lost. -/
def closeInbox (world : World) (number : Nat) : World :=
  { world with inboxes := world.inboxes.erase number }

/-- Every interest that reached the network, in order. -/
def interestLog (world : World) : List (Face × Name) := world.network.history.reverse

/-! ## Sync cores -/

/-- Start a sync core at a face: record the state, register the group's name and
advertise. -/
def startCore (world : World) (face : Face) (device : DeviceId) (config : SyncConfig) :
    Except SyncFault Digest × World :=
  let number := world.volumeAt face
  match (world.volume number).rememberState with
  | .error fault => (.error (.store fault), world)
  | .ok (root, volume) =>
    match (world.setVolume number volume).register face config.group .sync with
    | (.error fault, world) => (.error fault, world)
    | (.ok (), world) =>
      (.ok root, (world.setOccupant face
        (.core (SyncCore.start device config root world.now))).plan 0 (.advertise face))

/-- Let the sync core at a face publish or take note of a change, unless it has
stopped. -/
def callCore (world : World) (face : Face) (core : SyncCore)
    (call : SyncCore → Volume → Except SyncFault Digest × SyncTurn) :
    Except SyncFault Digest × World :=
  if core.running then
    let (answer, turn) := call core (world.volume (world.volumeAt face))
    (answer, world.adoptCore face core turn)
  else (.error .stopped, world)

/-- Raise the own number of the sync core at a face. -/
def publish (world : World) (face : Face) (core : SyncCore) (seq : Seq) :
    Except SyncFault Digest × World :=
  world.callCore face core fun core volume => core.publish volume world.now seq

/-- Let the sync core at a face take note of a change. -/
def noteChange (world : World) (face : Face) (core : SyncCore) :
    Except SyncFault Digest × World :=
  world.callCore face core fun core volume => core.noteChange volume world.now

/-- Stop the sync core at a face. -/
def stopCore (world : World) (face : Face) (core : SyncCore) : World :=
  if core.running then
    ((world.unregister face core.config.group).2).setOccupant face (.core core.stop)
  else world

/-- Let go of the sync core at a face, which then stops. -/
def releaseCore (world : World) (face : Face) : World :=
  match world.core? face with
  | none => world
  | some core => (world.stopCore face core).setOccupant face .none

/-! ## Nodes -/

/-- Register the names that a node serves, up to the first refusal; on a refusal
those before it are undone. -/
def registerServed (world : World) (face : Face) :
    List Name → List Name → Except SyncFault Unit × World
  | _, [] => (.ok (), world)
  | served, start :: rest =>
    match world.register face start (.records start) with
    | (.error fault, world) => (.error fault, world.unregisterAll face served)
    | (.ok (), world) => registerServed world face (served ++ [start]) rest

/-- Let a node whose parts are ready join its group. -/
def joinNode (world : World) (face : Face) (device : DeviceId) (config : NodeConfig)
    (locators : LocatorTable) (fetch : FetchManager) : Except NodeFault Digest × World :=
  let served := config.served device
  match world.registerServed face [] served with
  | (.error fault, world) => (.error (.sync fault), world)
  | (.ok (), world) =>
    let number := world.volumeAt face
    match (world.volume number).rememberState with
    | .error fault => (.error (.sync (.store fault)), world.unregisterAll face served)
    | .ok (root, volume) =>
      match (world.setVolume number volume).register face config.sync.group .sync with
      | (.error fault, world) => (.error (.sync fault), world.unregisterAll face served)
      | (.ok (), world) =>
        let node := Node.start config device root locators fetch world.now
        (.ok root,
          ((world.setOccupant face (.node node)).plan 0 (.advertise face)).plan 0 (.look face))

/-- Start a node at a face. -/
def startNode (world : World) (face : Face) (device : DeviceId) (config : NodeConfig) :
    Except NodeFault Digest × World :=
  let number := world.volumeAt face
  let (prepared, volume) := Node.prepare config device (world.volume number) world.now
  let world := world.setVolume number volume
  match prepared with
  | .error fault => (.error fault, world)
  | .ok (locators, fetch) => world.joinNode face device config locators fetch

/-- Call the node at a face. -/
def callNode {ε α : Type} (world : World) (face : Face) (node : Node)
    (call : Node → Volume → Except ε α × NodeTurn) : Except ε α × World :=
  let (answer, turn) := call node (world.volume (world.volumeAt face))
  (answer, world.adoptNode face node turn)

/-- Undo the registration of the group's name if the node still synchronises. -/
def leaveGroup (world : World) (face : Face) (node : Node) : World :=
  if node.sync.running then (world.unregister face node.config.sync.group).2 else world

/-- Stop the synchronising of the node at a face. -/
def stopNodeSync (world : World) (face : Face) (node : Node) : World :=
  (world.leaveGroup face node).setOccupant face (.node node.stopSyncing)

/-- Stop the node at a face unless it has been stopped. -/
def stopNode (world : World) (face : Face) (node : Node) : World :=
  if node.stopped then world
  else
    ((world.leaveGroup face node).unregisterAll face
      (node.config.served node.device)).setOccupant face (.node node.shutdown)

/-- Stop the fetching of the node at a face. -/
def stopNodeFetch (world : World) (face : Face) (node : Node) : World :=
  world.setOccupant face (.node node.stopFetching)

/-- Let go of the node at a face.  It leaves its group, but the names that it
served stay registered. -/
def releaseNode (world : World) (face : Face) : World :=
  match world.node? face with
  | none => world
  | some node => (world.leaveGroup face node).setOccupant face .none

/-! ## Groups of nodes -/

/-- All nodes hold the same state as the first. -/
def isConverged (world : World) (faces : List Face) : Except StoreFault Bool :=
  match faces.mapM fun face => (world.volume (world.volumeAt face)).currentState with
  | .error fault => .error fault
  | .ok [] => .ok true
  | .ok (first :: rest) =>
    .ok (rest.all fun state => (Convergence.compare first state).isConverged)

/-- All nodes have the same root and have applied all records of the other
devices. -/
def isInStep (world : World) (faces : List Face) : Bool :=
  let nodes := faces.filterMap world.node?
  nodes.all fun node => nodes.all fun peer =>
    node.sync.root = peer.sync.root &&
      (node.device = peer.device || node.isCaughtUpWith peer)

/-- The time between two looks at whether nodes are in step. -/
def pollInterval : Duration := Duration.ofMillis 50

/-- Let time go by until the nodes are in step or it is too late, and tell which.
Each look comes before anything else that happens at its time. -/
def awaitInStep (faces : List Face) (deadline : Instant) : Nat → World → Bool × World
  | 0, world => (false, world)
  | fuel + 1, world =>
    if world.isInStep faces then (true, world)
    else if deadline ≤ world.now then (false, world)
    else awaitInStep faces deadline fuel (world.approach (world.now + pollInterval))

end World

end DigestSync
