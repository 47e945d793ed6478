import DigestSync.Network.Broadcast
import DigestSync.Node.Ending
import DigestSync.Store.Recording

set_option autoImplicit false

/-! # Nodes on one network

Some nodes share a network, each with a face of its own.  What a node calls for is carried
out later and in any order.  Data that answer an interest, be they cached or just put, become
a letter to the face that expressed it.  A letter stays: a node may take it at any time, more
than once, or never, since the time of its interest may be over before.

What a node fetches goes to its sink.  What it serves comes from its source, which returns a
record or nothing whenever it is asked.  Besides, keys are cancelled, attempts are given up,
media are faulty, devices use their stores, and nodes stop.

A run is any list of events.  An event that cannot happen at its point leaves all as it was.
Interests may arrive anywhere, whether someone has expressed them or not, and others may
express interests as well; but only the nodes put data.
-/

namespace DigestSync

/-! ## What a node calls for -/

/-- A call on the sink of a node. -/
inductive SinkCall where
  /-- A record of a producer is handed over. -/
  | apply (producer : DeviceId) (seq : Seq) (content : Bytes)
  /-- All records of a producer in a range have been handed over. -/
  | complete (producer : DeviceId) (first last : Seq)
deriving DecidableEq, Repr

/-- What the network is to do for a node. -/
inductive Sending where
  | interest (name : Name)
  | data (data : Data)
deriving DecidableEq, Repr

namespace FetchAction

/-- The call on the sink that the action makes. -/
def sinkCall? : FetchAction → Option SinkCall
  | .request _ _ => none
  | .deliver task seq content => some (.apply task.producer seq content)
  | .finish task => some (.complete task.producer task.minSeq task.maxSeq)

/-- What the network is to do for the action. -/
def sending? : FetchAction → Option Sending
  | .request _ interest => some (.interest interest.name)
  | .deliver _ _ _ | .finish _ => none

end FetchAction

/-- What the network is to do for the action. -/
def SyncAction.sending? : SyncAction → Option Sending
  | .ask _ interest => some (.interest interest.name)
  | .put data => some (.data data)
  | .await _ _ | .report _ => none

/-- What the network is to do for the action. -/
def NodeAction.sending? : NodeAction → Option Sending
  | .sync action => action.sending?
  | .request _ _ interest => some (.interest interest.name)
  | .dispatch | .look => none

/-- Take note of a call on the sink. -/
def ActionLog.record (log : ActionLog) : SinkCall → ActionLog
  | .apply producer seq content => log.apply producer seq content
  | .complete producer first last => log.finish producer first last

/-- The content that arrives with the event. -/
def NodeEvent.content? : NodeEvent → Option Bytes
  | .sync input => input.answer?.map Data.content
  | .resolve _ _ answer => answer
  | .dispatch | .request _ _ _ _ | .advance | .look | .begin _ | .conclude _ => none

/-- What else may happen to a node. -/
inductive NodeChange where
  /-- A call enters to cancel a key. -/
  | cancel (key : TaskKey)
  /-- The pipeline at a place is given up. -/
  | abort (place : Nat)
  /-- The device uses its store. -/
  | call (call : StoreCall)
  /-- The medium of the store becomes faulty or sound. -/
  | medium (fault : Option StoreFault)
  /-- Synchronising alone ends. -/
  | stopSyncing
  /-- Fetching alone ends. -/
  | stopFetching
  /-- The node is shut down. -/
  | shutdown

/-- The volume after a call, which fails while there is a fault. -/
def Volume.next (volume : Volume) (call : StoreCall) : Volume :=
  match volume.fault with
  | some _ => volume
  | none => { volume with store := volume.store.next call }

namespace NodeScene

/-- The step of an attempt that the event is. -/
def stride? (scene : NodeScene) (now : Instant) : NodeEvent → Option FetchTurn
  | .begin place =>
    match scene.pipelines[place]? with
    | some ⟨_, fetcher, .due⟩ => some (fetcher.begin scene.node.fetch.config)
    | _ => none
  | .resolve place seq answer =>
    match scene.pipelines[place]? with
    | some ⟨_, fetcher, .going window⟩ =>
      if seq ∈ window.inFlight then
        some (fetcher.receive scene.node.fetch.config window now seq answer)
      else none
    | _ => none
  | .sync _ | .dispatch | .request _ _ _ _ | .advance | .look | .conclude _ => none

/-- What an attempt calls for with the event. -/
def strides (scene : NodeScene) (now : Instant) (event : NodeEvent) : List FetchAction :=
  ((scene.stride? now event).map FetchTurn.actions).getD []

/-- The calls on the sink that the event makes. -/
def sinkCalls (scene : NodeScene) (now : Instant) (event : NodeEvent) : List SinkCall :=
  (scene.strides now event).filterMap FetchAction.sinkCall?

/-- What the network is to do after the event. -/
def sendings (scene : NodeScene) (now : Instant) (event : NodeEvent) : List Sending :=
  match event with
  | .sync input =>
    (scene.node.hear scene.volume now input).actions.filterMap NodeAction.sending?
  | event => (scene.strides now event).filterMap FetchAction.sending?

/-- The node asks by the name for what arrives with the event. -/
def asksBy (scene : NodeScene) (name : Name) : NodeEvent → Bool
  | .sync (.event (.advertReply _)) =>
    match SyncName.ofName scene.node.sync.config.group name with
    | .ok (.advertise _) => true
    | _ => false
  | .sync (.event (.recoverReply digest _)) =>
    name = (SyncName.recover digest).toName scene.node.sync.config.group
  | .resolve place seq _ =>
    match scene.pipelines[place]? with
    | some pipeline => name = (pipeline.fetcher.interestOf scene.node.fetch.config seq).name
    | none => false
  | _ => false

/-- Let something else happen to the node. -/
def undergo (scene : NodeScene) : NodeChange → NodeScene
  | .cancel key =>
    if scene.isTaken then scene else scene.withFetch (scene.node.fetch.enterCancel key)
  | .abort place => { scene with pipelines := scene.pipelines.eraseIdx place }
  | .call call => { scene with volume := scene.volume.next call }
  | .medium fault => { scene with volume := { scene.volume with fault } }
  | .stopSyncing => { scene with node := scene.node.stopSyncing }
  | .stopFetching => { scene with node := scene.node.stopFetching }
  | .shutdown => scene.shutdown

end NodeScene

/-! ## Parties and sites -/

/-- A device that is to take part, with what its store holds before. -/
structure Party where
  device : DeviceId
  config : NodeConfig
  store : MemoryStore
  joined : Instant

/-- The names that the party serves its records under. -/
def Party.served (party : Party) : List Name := party.config.served party.device

/-- A party's node, and what has passed between it and its sink and source. -/
structure Site where
  party : Party
  scene : NodeScene
  /-- The calls on the sink, in their order. -/
  calls : List SinkCall
  /-- The records that the source has returned, each with its number. -/
  returned : List (Seq × Bytes)

/-- The party starts its node. -/
def Party.join (party : Party) : Except NodeFault Site :=
  match NodeScene.join party.config party.device party.store party.joined with
  | .error fault => .error fault
  | .ok scene => .ok ⟨party, scene, [], []⟩

namespace Site

/-- Let an event happen to the node. -/
def react (site : Site) (now : Instant) (event : NodeEvent) : Site :=
  { site with
    scene := site.scene.react now event
    calls := site.calls ++ site.scene.sinkCalls now event }

/-- The source returns a record. -/
def answer (site : Site) (seq : Seq) (record : Bytes) : Site :=
  { site with returned := site.returned ++ [(seq, record)] }

/-- The source has never changed a record that it had returned. -/
def IsSteadfast (site : Site) : Prop :=
  ∀ one ∈ site.returned, ∀ other ∈ site.returned, one.1 = other.1 → one.2 = other.2

instance (site : Site) : Decidable site.IsSteadfast :=
  inferInstanceAs (Decidable (∀ one ∈ _, ∀ other ∈ _, _ → _))

end Site

/-! ## The mesh -/

/-- Data that answer an interest of a face. -/
structure Letter where
  face : Face
  name : Name
  data : Data
deriving DecidableEq, Repr

/-- Nodes on a network.  The face of a node is the place of its site. -/
structure Mesh where
  network : Network Unit Unit
  /-- What the network is yet to do, each for a face. -/
  outbox : List (Face × Sending)
  /-- The letters that there have been. -/
  mail : List Letter
  sites : List Site

/-- Something happens on the network or to a node. -/
inductive MeshEvent where
  /-- An event happens to the node at a place. -/
  | node (place : Nat) (event : NodeEvent)
  /-- Something else happens to the node at a place. -/
  | change (place : Nat) (change : NodeChange)
  /-- An interest comes to the node at a place under a name that it serves; if it asks for a
  record, then this is what the source finds. -/
  | serve (place : Nat) (start name : Name) (found : Option Bytes)
  /-- The network does what is at an index of the outbox. -/
  | send (index : Nat)
  /-- Someone expresses an interest. -/
  | interest (face : Face) (name : Name)
  /-- A face goes off the network or comes back. -/
  | setOnline (face : Face) (online : Bool)
  /-- The time of a waiting interest is over. -/
  | expire (id : Nat)

namespace Mesh

/-- Some parties start their nodes. -/
def gather (parties : List Party) : Except NodeFault Mesh :=
  match parties.mapM Party.join with
  | .error fault => .error fault
  | .ok sites => .ok ⟨.empty, [], [], sites⟩

/-- Let a face express an interest.  A cache may answer it at once. -/
def express (mesh : Mesh) (now : Instant) (face : Face) (name : Name) : Mesh :=
  let (reception, network) := mesh.network.express face name () now
  match reception with
  | .cached data => { mesh with network, mail := mesh.mail ++ [⟨face, name, data⟩] }
  | .unreachable | .forwarded _ _ => { mesh with network }

/-- Let a face put data. -/
def put (mesh : Mesh) (now : Instant) (face : Face) (data : Data) : Mesh :=
  let (answered, network) := mesh.network.put face data now
  { mesh with
    network
    mail := mesh.mail ++ answered.map fun one => ⟨one.face, one.name, data⟩ }

/-- Let the network do something for a face. -/
def carry (mesh : Mesh) (now : Instant) (face : Face) : Sending → Mesh
  | .interest name => mesh.express now face name
  | .data data => mesh.put now face data

/-- There is a letter for what arrives with the event, if something does. -/
def brings (mesh : Mesh) (place : Nat) (scene : NodeScene) (event : NodeEvent) : Bool :=
  match event.content? with
  | none => true
  | some content => mesh.mail.any fun letter =>
      letter.face = place && letter.data.content = content && scene.asksBy letter.name event

/-- The same with another site at a place, and with more to do for its face. -/
def withSite (mesh : Mesh) (place : Nat) (site : Site) (sendings : List Sending) : Mesh :=
  { mesh with
    sites := mesh.sites.set place site
    outbox := mesh.outbox ++ sendings.map fun sending => (place, sending) }

/-- The node at a site serves what its source finds for an interest. -/
def serve (mesh : Mesh) (place : Nat) (site : Site) (start name : Name) (found : Option Bytes) :
    Mesh :=
  match Node.askedFor start name, found with
  | some seq, some record =>
    mesh.withSite place (site.answer seq record)
      [.data ⟨name, record, site.party.config.segmentFreshness⟩]
  | _, _ => mesh

/-- Let something happen. -/
def react (mesh : Mesh) (now : Instant) : MeshEvent → Mesh
  | .node place event =>
    match mesh.sites[place]? with
    | none => mesh
    | some site =>
      if mesh.brings place site.scene event then
        mesh.withSite place (site.react now event) (site.scene.sendings now event)
      else mesh
  | .change place change =>
    match mesh.sites[place]? with
    | none => mesh
    | some site => mesh.withSite place { site with scene := site.scene.undergo change } []
  | .serve place start name found =>
    match mesh.sites[place]? with
    | none => mesh
    | some site => if start ∈ site.party.served then mesh.serve place site start name found else mesh
  | .send index =>
    match mesh.outbox[index]? with
    | none => mesh
    | some (face, sending) =>
      { mesh with outbox := mesh.outbox.eraseIdx index }.carry now face sending
  | .interest face name => mesh.express now face name
  | .setOnline face online => { mesh with network := mesh.network.setOnline face online }
  | .expire id => { mesh with network := (mesh.network.expire id).2 }

/-- Let some things happen one after the other, each at its time. -/
def run (mesh : Mesh) (events : List (Instant × MeshEvent)) : Mesh :=
  events.foldl (fun mesh event => mesh.react event.1 event.2) mesh

end Mesh

end DigestSync
