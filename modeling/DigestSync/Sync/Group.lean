import DigestSync.Sync.History

set_option autoImplicit false

/-! # Groups

A group is any number of peers on one network.  What has been put on the network stays
there for good: any member may receive it as the answer to anything, at once or late,
once, more than once, or not at all.  No other data arrive.  Interests may arrive
anywhere and at any time, whether someone has expressed them or not.
-/

namespace DigestSync

/-- A device that takes part in a group from some time on. -/
structure Member where
  device : DeviceId
  config : SyncConfig
  joined : Instant

/-- Something happens to the member at a place of the roster. -/
structure GroupEvent where
  place : Nat
  now : Instant
  input : PeerInput

/-- The peers of a group, and all data that they have ever put on the network. -/
structure Group where
  peers : List Peer
  messages : List Data

namespace Group

/-- The group of some members, who know nothing. -/
def gather (roster : List Member) : Group where
  peers := roster.map fun member => Peer.spawn member.device member.config member.joined
  messages := []

/-- The input can arrive: if it brings an answer, then this has been put on the network. -/
def brings (group : Group) (input : PeerInput) : Bool :=
  match input.answer? with
  | none => true
  | some data => data ∈ group.messages

/-- Let something happen.  Nothing does if there is no such member, or if the answer that
it brings was never given. -/
def step (group : Group) (event : GroupEvent) : Group :=
  match group.peers[event.place]? with
  | none => group
  | some peer =>
    if group.brings event.input then
      let turn := peer.turn event.now event.input
      { peers := group.peers.set event.place (.ofTurn turn)
        messages := group.messages ++ turn.told }
    else group

/-- Let some things happen one after the other. -/
def run (group : Group) : List GroupEvent → Group
  | [] => group
  | event :: rest => (group.step event).run rest

/-! ## Numbers -/

/-- The number that the core of the device is given by the event. -/
def publishedBy (roster : List Member) (device : DeviceId) (event : GroupEvent) : Option Seq :=
  match event.input, roster[event.place]? with
  | .publish seq, some member => if member.device = device then some seq else none
  | _, _ => none

/-- The numbers that the core of the device was given, in their order. -/
def published (roster : List Member) (events : List GroupEvent) (device : DeviceId) : List Seq :=
  events.filterMap (publishedBy roster device)

/-- The largest number that the core of the device was given; zero if there is none. -/
def highest (roster : List Member) (events : List GroupEvent) (device : DeviceId) : Seq :=
  (published roster events device).foldr max 0

end Group

end DigestSync
