import DigestSync.Network.Broadcast

set_option autoImplicit false

/-! # Traffic on a network

Faces express interests and put data, go off the network and come back, in any order and at
any times.  Every interest is a call that returns once.  Data that is given to a call, by a put
or by the cache, is what it returns, unless its time is over before the data gets there: then
it gives up, even though it no longer waits.

A run is any list of events.  A call has the number of the event by which it expressed its
interest.  An event that cannot happen at its point changes nothing.
-/

namespace DigestSync

/-- What may happen on a network. -/
inductive NetworkEvent (τ : Type) where
  /-- Another face is attached. -/
  | attach
  /-- A face goes off the network or comes back. -/
  | setOnline (face : Face) (online : Bool)
  /-- A face registers a beginning of names. -/
  | register (face : Face) (start : Name) (taker : τ)
  /-- A face takes its registrations of a beginning back. -/
  | unregister (face : Face) (start : Name)
  /-- A face expresses an interest. -/
  | express (face : Face) (name : Name)
  /-- A face puts data on the network. -/
  | put (face : Face) (data : Data)
  /-- A call returns the data that it was given. -/
  | collect (call : Nat)
  /-- The time of a call is over. -/
  | giveUp (call : Nat)

/-- A network and the calls on it. -/
structure Traffic (τ : Type) where
  /-- A waiting interest's asker is its call. -/
  network : Network τ Nat
  /-- How many events there were. -/
  count : Nat
  /-- The calls that have not returned, each with the number of its waiting interest; one that
  expressed its interest while its face was offline has none. -/
  calls : List (Nat × Option Nat)
  /-- Which data was given to which call. -/
  given : List (Nat × Data)
  /-- What calls have returned. -/
  returned : List (Nat × Option Data)

namespace Traffic

variable {τ : Type}

/-- A network on which nothing has happened. -/
def start : Traffic τ := ⟨.empty, 0, [], [], []⟩

/-- An interest of the call waits. -/
def IsPending (traffic : Traffic τ) (call : Nat) : Prop :=
  ∃ one ∈ traffic.network.waiting, one.asker = call

/-- The call has not returned. -/
def IsOpen (traffic : Traffic τ) (call : Nat) : Prop := call ∈ traffic.calls.map (·.1)

instance (traffic : Traffic τ) (call : Nat) : Decidable (traffic.IsPending call) :=
  inferInstanceAs (Decidable (∃ one ∈ _, _))

instance (traffic : Traffic τ) (call : Nat) : Decidable (traffic.IsOpen call) :=
  inferInstanceAs (Decidable (_ ∈ _))

/-- A call returns. -/
def finish (traffic : Traffic τ) (call : Nat) (answer : Option Data) : Traffic τ :=
  { traffic with
    calls := traffic.calls.filter fun one => one.1 ≠ call
    returned := traffic.returned ++ [(call, answer)] }

/-- Express an interest; a cache answers at once. -/
def express (traffic : Traffic τ) (now : Instant) (face : Face) (name : Name) : Traffic τ :=
  let (reception, network) := traffic.network.express face name traffic.count now
  match reception with
  | .unreachable =>
    { traffic with network, calls := traffic.calls ++ [(traffic.count, none)] }
  | .cached data =>
    { traffic with
      network
      given := traffic.given ++ [(traffic.count, data)]
      returned := traffic.returned ++ [(traffic.count, some data)] }
  | .forwarded id _ =>
    { traffic with network, calls := traffic.calls ++ [(traffic.count, some id)] }

/-- Put data on the network. -/
def put (traffic : Traffic τ) (now : Instant) (face : Face) (data : Data) : Traffic τ :=
  let (answered, network) := traffic.network.put face data now
  { traffic with network, given := traffic.given ++ answered.map fun one => (one.asker, data) }

/-- Let a call that has not returned do so with the data that it was given. -/
def collect (traffic : Traffic τ) (call : Nat) : Traffic τ :=
  match traffic.given.find? fun one => one.1 = call with
  | some (_, data) => if traffic.IsOpen call then traffic.finish call (some data) else traffic
  | none => traffic

/-- Let a call that has not returned do so without data. -/
def giveUp (traffic : Traffic τ) (call : Nat) : Traffic τ :=
  match traffic.calls.find? fun one => one.1 = call with
  | some (_, some id) =>
    { traffic with network := (traffic.network.expire id).2 }.finish call none
  | some (_, none) => traffic.finish call none
  | none => traffic

/-- Let an event happen. -/
def react (traffic : Traffic τ) (now : Instant) (event : NetworkEvent τ) : Traffic τ :=
  let after :=
    match event with
    | .attach => { traffic with network := traffic.network.attach.2 }
    | .setOnline face online =>
      { traffic with network := traffic.network.setOnline face online }
    | .register face start taker =>
      { traffic with network := traffic.network.register face start taker }
    | .unregister face start =>
      { traffic with network := (traffic.network.unregister face start).2 }
    | .express face name => traffic.express now face name
    | .put face data => traffic.put now face data
    | .collect call => traffic.collect call
    | .giveUp call => traffic.giveUp call
  { after with count := traffic.count + 1 }

/-- Where a run gets from a network on which nothing has happened. -/
def run (events : List (Instant × NetworkEvent τ)) : Traffic τ :=
  events.foldl (fun traffic event => traffic.react event.1 event.2) start

/-- What the event with a number meets. -/
def before (events : List (Instant × NetworkEvent τ)) (index : Nat) : Traffic τ :=
  run (events.take index)

/-- With its event, a call of an online face expressed an interest. -/
structure Asked (events : List (Instant × NetworkEvent τ)) (call : Nat) (time : Instant)
    (face : Face) (name : Name) : Prop where
  event : events[call]? = some (time, .express face name)
  online : (before events call).network.isOnline face = true

/-- With an event, an online face put data on the network. -/
structure Put (events : List (Instant × NetworkEvent τ)) (index : Nat) (time : Instant)
    (face : Face) (data : Data) : Prop where
  event : events[index]? = some (time, .put face data)
  online : (before events index).network.isOnline face = true

end Traffic

end DigestSync
