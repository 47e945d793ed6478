import DigestSync.Simulation.World

set_option autoImplicit false

/-! # Stages

A stage is a simulated world whose parts have names: the faces, the stores, the
sync cores and nodes, and the inboxes.  A name that is given again stands for the
new part from then on.
-/

namespace DigestSync

/-- Why a call on a stage failed. -/
inductive StageFault where
  /-- The part does not exist. -/
  | missing
  | store (cause : StoreFault)
  | sync (cause : SyncFault)
  | fetch (cause : FetchFault)
  | node (cause : NodeFault)
deriving DecidableEq, Repr

/-- A world and the names of its parts. -/
structure Stage where
  world : World
  faces : SortedMap String Face
  /-- The faces of the sync cores, with their stores; they stay when the core is
  gone. -/
  cores : SortedMap String Face
  nodes : SortedMap String Face
  inboxes : SortedMap String Nat

/-- A call on a stage; one that fails may have changed the stage. -/
abbrev Play := ExceptT StageFault (StateM Stage)

/-- How a device is set up before it starts. -/
structure Setup where
  id : String
  /-- The device of the same kind whose store it works on; one of its own if this
  is not given. -/
  storeOf : Option String
  /-- What its store is filled with. -/
  seqs : List (DeviceId × Seq)
  locators : List (DeviceId × Name)
  tasks : List FetchTask
  /-- The fault that the volume of a sync core then has. -/
  fault : Option StoreFault
  /-- The calls that its face refuses. -/
  refused : List NetworkCall

/-- Fill a store. -/
def Setup.fill (setup : Setup) (store : MemoryStore) : MemoryStore :=
  let store := setup.seqs.foldl
    (fun store (device, seq) => (store.updateDeviceSeq device seq).2) store
  let store := setup.locators.foldl
    (fun store (device, locator) => store.updateLocator device locator) store
  setup.tasks.foldl (fun store task => (store.saveTask task).2) store

/-- A device that has been started. -/
structure Started where
  face : Face
  device : DeviceId
  root : Digest

/-- What is seen of a sync core and its store. -/
structure CoreView where
  core : Option SyncCore
  state : Snapshot

/-- What is seen of a node and its store. -/
structure NodeView where
  node : Node
  store : MemoryStore

namespace Stage

/-- The stage without a part. -/
def empty : Stage := ⟨.empty, .empty, .empty, .empty, .empty⟩

/-! ## Access -/

/-- The part with a name. -/
def find {α : Type} (table : Stage → SortedMap String α) (id : String) : Play α := do
  match (table (← get)).find? id with
  | some value => return value
  | none => throw .missing

/-- Look at the world. -/
def observe {α : Type} (view : World → α) : Play α := return view (← get).world

/-- Change the world. -/
def act {α : Type} (action : World → α × World) : Play α :=
  modifyGet fun stage =>
    let (answer, world) := action stage.world
    (answer, { stage with world })

/-- Change the world by a call that may fail. -/
def call {ε α : Type} (fault : ε → StageFault) (action : World → Except ε α × World) : Play α := do
  match ← act action with
  | .ok answer => return answer
  | .error cause => throw (fault cause)

/-- Let everything happen that is due. -/
def settle (stage : Stage) : Stage := { stage with world := stage.world.settle }

/-- The events that have been seen, in order, which are then forgotten. -/
def takeEvents (stage : Stage) : List (Instant × Event) × Stage :=
  (stage.world.events.reverse, { stage with world := { stage.world with events := [] } })

/-- Let time go by. -/
def sleep (span : Duration) : Play Unit := act fun world => ((), world.sleep span)

/-! ## Faces -/

/-- Name a face. -/
def nameFace (id : String) (face : Face) : Play Unit :=
  modify fun stage => { stage with faces := stage.faces.insert id face }

/-- Add a face that is used by hand. -/
def addPeer (id : String) : Play Face := do
  let face ← act fun world => world.addFace id false 0
  nameFace id face
  return face

/-- Add a face for a device, over a store that is filled; `kind` tells the faces of
the devices that may share their stores with it. -/
def addDevice (kind : Stage → SortedMap String Face) (setup : Setup) (silent : Bool) :
    Play Face := do
  let number ← match setup.storeOf with
    | some other =>
      let face ← find kind other
      observe fun world => world.volumeAt face
    | none => act fun world => world.addVolume .empty
  act fun world =>
    let filled : Volume := { world.volume number with
      store := setup.fill (world.volume number).store }
    let (face, world) := (world.setVolume number filled).addFace setup.id silent number
    (face, world.setRefused face setup.refused)

/-- Take a face off the network or bring it back. -/
def setOnline (face : Face) (online : Bool) : Play Unit :=
  act fun world => ((), world.setOnline face online)

/-- Choose the calls that a face refuses. -/
def setRefused (id : String) (calls : List NetworkCall) : Play Unit := do
  let face ← find (·.faces) id
  act fun world => ((), world.setRefused face calls)

/-- Register a beginning of names with a new inbox. -/
def openInbox (id : String) (start : Name) (inbox : String) : Play Unit := do
  let face ← find (·.faces) id
  let number ← call .sync fun world => world.openInbox face start
  modify fun stage => { stage with inboxes := stage.inboxes.insert inbox number }

/-- Close an inbox, and tell whether there was one. -/
def closeInbox (inbox : String) : Play Bool := do
  match (← get).inboxes.find? inbox with
  | none => return false
  | some number =>
    modify fun stage =>
      { stage with world := stage.world.closeInbox number, inboxes := stage.inboxes.erase inbox }
    return true

/-- Take all interests out of an inbox, the oldest first. -/
def drainInbox (inbox : String) : Play (List Interest) := do
  let number ← find (·.inboxes) inbox
  act fun world => world.drainInbox number

/-- Undo the registrations of a beginning of names. -/
def unregister (id : String) (start : Name) : Play Bool := do
  let face ← find (·.faces) id
  act fun world => world.unregister face start

/-- Express an interest some times. -/
def express (id : String) (label : String) (interest : Interest) (count : Nat) : Play Unit := do
  let face ← find (·.faces) id
  act fun world =>
    ((), (List.replicate count interest).foldl
      (fun world interest => world.express face (.observer label) interest) world)

/-- Put data on the network. -/
def put (id : String) (data : Data) : Play Unit := do
  let face ← find (·.faces) id
  call .sync fun world => world.put face data

/-- Answer interests by a rule from now on. -/
def respond (id : String) (responder : Responder) : Play Unit := do
  let face ← find (·.faces) id
  call .sync fun world => world.register face responder.start (.responder responder)

/-! ## Stores of sync cores

A fault of the medium is seen by the sync cores only. -/

/-- Change the volume of a sync core. -/
def onVolume {α : Type} (id : String) (action : Volume → α × Volume) : Play α := do
  let face ← find (·.cores) id
  act fun world =>
    let number := world.volumeAt face
    let (answer, volume) := action (world.volume number)
    (answer, world.setVolume number volume)

/-- Call the store of a sync core directly. -/
def onStore {α : Type} (id : String) (action : MemoryStore → α × MemoryStore) : Play α :=
  onVolume id fun volume =>
    let (answer, store) := action volume.store
    (answer, { volume with store })

/-- Raise a device's number in a store, and return the one then stored. -/
def setSeq (id : String) (device : DeviceId) (seq : Seq) : Play Seq :=
  onStore id fun store => store.updateDeviceSeq device seq

/-- Store the locator of a device. -/
def setLocator (id : String) (device : DeviceId) (locator : Name) : Play Unit :=
  onStore id fun store => ((), store.updateLocator device locator)

/-- A store has recorded a state under the digest. -/
def isKnown (id : String) (digest : Digest) : Play Bool :=
  onStore id fun store => (store.isKnown digest, store)

/-- The locator of a device in a store. -/
def locator (id : String) (device : DeviceId) : Play (Option Name) :=
  onStore id fun store => (store.locator device, store)

/-- Give a volume a fault, or make it sound. -/
def setFault (id : String) (fault : Option StoreFault) : Play Unit :=
  onVolume id fun volume => ((), { volume with fault })

/-! ## Sync cores -/

/-- The sync core with a name and its face. -/
def findCore (id : String) : Play (Face × SyncCore) := do
  let face ← find (·.cores) id
  match ← observe fun world => world.core? face with
  | some core => return (face, core)
  | none => throw .missing

/-- Let go of a sync core, which then stops. -/
def dropCore (id : String) : Play Unit := do
  let face ← find (·.cores) id
  act fun world => ((), world.releaseCore face)

/-- Start a sync core.  It takes the place of one with the same name even if it
fails. -/
def startCore (device : DeviceId) (config : SyncConfig) (setup : Setup) : Play Started := do
  let face ← addDevice (·.cores) setup false
  nameFace setup.id face
  if (← get).cores.contains setup.id then dropCore setup.id
  modify fun stage => { stage with cores := stage.cores.insert setup.id face }
  setFault setup.id setup.fault
  let root ← call .sync fun world => world.startCore face device config
  return ⟨face, device, root⟩

/-- Raise the own number of a sync core. -/
def publish (id : String) (seq : Seq) : Play Digest := do
  let (face, core) ← findCore id
  call .sync fun world => world.publish face core seq

/-- Let a sync core take note of a change. -/
def noteChange (id : String) : Play Digest := do
  let (face, core) ← findCore id
  call .sync fun world => world.noteChange face core

/-- Stop a sync core. -/
def stopCore (id : String) : Play Unit := do
  let (face, core) ← findCore id
  act fun world => ((), world.stopCore face core)

/-- Look at a sync core and its store. -/
def viewCore (id : String) : Play CoreView := do
  let face ← find (·.cores) id
  observe fun world => ⟨world.core? face, (world.volume (world.volumeAt face)).store.currentState⟩

/-! ## Nodes -/

/-- The node with a name and its face. -/
def findNode (id : String) : Play (Face × Node) := do
  let face ← find (·.nodes) id
  match ← observe fun world => world.node? face with
  | some node => return (face, node)
  | none => throw .missing

/-- Let go of a node, and tell whether there was one. -/
def dropNode (id : String) : Play Bool := do
  match (← get).nodes.find? id with
  | none => return false
  | some face =>
    act fun world => ((), world.releaseNode face)
    modify fun stage => { stage with nodes := stage.nodes.erase id }
    return true

/-- Start a node at a face.  It takes the place of one with the same name. -/
def startNodeAt (face : Face) (id : String) (device : DeviceId) (config : NodeConfig) :
    Play Digest := do
  let root ← call .node fun world => world.startNode face device config
  let _ ← dropNode id
  modify fun stage => { stage with nodes := stage.nodes.insert id face }
  return root

/-- Start a node. -/
def startNode (device : DeviceId) (config : NodeConfig) (setup : Setup) : Play Started := do
  let face ← addDevice (·.nodes) setup false
  nameFace setup.id face
  return ⟨face, device, ← startNodeAt face setup.id device config⟩

/-- Start some nodes that are named by numbers; their faces log no events and have
no names. -/
def startNodes (count : Nat) (config : NodeConfig) : Play Unit :=
  (List.range count).forM fun index => do
    let id := toString index
    let face ← addDevice (·.nodes) ⟨id, none, [], [], [], none, []⟩ true
    let _ ← startNodeAt face id ⟨Name.ofTexts ["device-" ++ id]⟩ config

/-- Call a node. -/
def onNode {ε α : Type} (id : String) (fault : ε → StageFault)
    (action : Instant → Node → Volume → Except ε α × NodeTurn) : Play α := do
  let (face, node) ← findNode id
  call fault fun world => world.callNode face node (action world.now)

/-- Announce that a node's own records go up to a number. -/
def announce (id : String) (seq : Seq) : Play Digest :=
  onNode id .node fun now node volume => node.publish volume now seq

/-- Add a record to a node's log, and return its number. -/
def appendRecord (id : String) (record : Bytes) : Play Seq := do
  let (face, node) ← findNode id
  let log := node.log.append record
  act fun world => (log.ownSeq, world.setOccupant face (.node { node with log }))

/-- Add a record to a node's log and announce it. -/
def announceRecord (id : String) (record : Bytes) : Play Seq := do
  let seq ← appendRecord id record
  let _ ← announce id seq
  return seq

/-- Let a node fetch records. -/
def request (id : String) (producer : DeviceId) (first last : Seq) (priority : Priority) :
    Play Bool :=
  onNode id .node fun now node volume => node.request volume now producer first last priority

/-- Let a node drop what is to be fetched under a key. -/
def cancel (id : String) (key : TaskKey) : Play Bool :=
  onNode id .fetch fun now node volume => node.cancel volume now key

/-- Change a node together with the world around it. -/
def changeNode (id : String) (change : World → Face → Node → World) : Play Unit := do
  let (face, node) ← findNode id
  act fun world => ((), change world face node)

/-- Look at a node and its store. -/
def viewNode (id : String) : Play NodeView := do
  let (face, node) ← findNode id
  observe fun world => ⟨node, (world.volume (world.volumeAt face)).store⟩

/-- The record of a node's log with a number. -/
def lookup (id : String) (seq : Seq) : Play (Option Bytes) := do
  let (_, node) ← findNode id
  return node.log.lookup seq

/-- The name that a device's records have for a node. -/
def actionBase (id : String) (device : DeviceId) : Play Name := do
  let (_, node) ← findNode id
  return node.config.actionBase device

/-- A node has applied all records of another one. -/
def isCaughtUp (id other : String) : Play Bool := do
  let (_, node) ← findNode id
  let (_, peer) ← findNode other
  return node.isCaughtUpWith peer

/-- All nodes hold the same state. -/
def isConverged : Play Bool := do
  match (← get).world.isConverged (← get).nodes.values with
  | .ok answer => return answer
  | .error cause => throw (.store cause)

/-- Let time go by until all nodes are in step or the span is over, and tell
which. -/
def awaitInStep (span : Duration) : Play Bool := do
  let faces := (← get).nodes.values
  act fun world => World.awaitInStep faces (world.now + span) stepLimit world

end Stage

end DigestSync
