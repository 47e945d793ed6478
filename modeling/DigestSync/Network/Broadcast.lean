import DigestSync.Network.Packet

set_option autoImplicit false

/-! # The broadcast network

Devices are attached to the network by faces.  An interest is forwarded to every
other face that registered a beginning of its name, and waits until data answers
it or its time is over.  Data answers all waiting interests of other faces that
it can, and is cached while it is fresh.  A face that is offline neither sends
nor receives.

What receives the interests of a registration and what waits for an answer is up
to the user of the network, hence the two type parameters.
-/

namespace DigestSync

/-- The point at which a device is attached. -/
abbrev Face := Nat

/-- A face takes the interests whose names begin with `start`. -/
structure Registration (τ : Type) where
  face : Face
  start : Name
  taker : τ
deriving DecidableEq, Repr

/-- An interest that waits for data. -/
structure Waiting (ρ : Type) where
  id : Nat
  face : Face
  name : Name
  asker : ρ
deriving DecidableEq, Repr

/-- The registration is the given face's for the given beginning. -/
def Registration.isFor {τ : Type} (registration : Registration τ) (face : Face)
    (start : Name) : Bool :=
  registration.face = face && registration.start = start

/-- The waiting interest is another face's, and the data answers it. -/
def Waiting.isMatch {ρ : Type} (waiting : Waiting ρ) (face : Face) (data : Data) : Bool :=
  waiting.face ≠ face && data.answers waiting.name

/-- Data kept for later interests. -/
structure CachedData where
  producer : Face
  data : Data
  expiry : Instant
deriving DecidableEq, Repr

/-- The state of the network. -/
structure Network (τ ρ : Type) where
  /-- The face that is handed out next. -/
  nextFace : Face
  /-- The number that the next waiting interest gets. -/
  nextWaiting : Nat
  registrations : List (Registration τ)
  waiting : List (Waiting ρ)
  cache : List CachedData
  offline : List Face
  /-- Every interest that reached the network, the latest first. -/
  history : List (Face × Name)

/-- What becomes of an interest when it is expressed. -/
inductive Reception (τ : Type) where
  /-- The face is offline, and nothing will answer. -/
  | unreachable
  /-- A cache answers at once. -/
  | cached (data : Data)
  /-- The interest waits, and was forwarded. -/
  | forwarded (id : Nat) (targets : List (Registration τ))

namespace Network

variable {τ ρ : Type}

/-- The network without a face. -/
def empty : Network τ ρ := ⟨0, 0, [], [], [], [], []⟩

instance : Inhabited (Network τ ρ) := ⟨empty⟩

/-- Attach another face. -/
def attach (network : Network τ ρ) : Face × Network τ ρ :=
  (network.nextFace, { network with nextFace := network.nextFace + 1 })

/-- The face takes part in the network. -/
def isOnline (network : Network τ ρ) (face : Face) : Bool := !network.offline.contains face

/-- Take a face off the network or bring it back. -/
def setOnline (network : Network τ ρ) (face : Face) (online : Bool) : Network τ ρ :=
  let others := network.offline.filter (· ≠ face)
  { network with offline := if online then others else face :: others }

/-- Register a beginning of names for a face. -/
def register (network : Network τ ρ) (face : Face) (start : Name) (taker : τ) : Network τ ρ :=
  { network with registrations := network.registrations ++ [⟨face, start, taker⟩] }

/-- Undo all registrations of a beginning by a face, and tell whether there were
any. -/
def unregister (network : Network τ ρ) (face : Face) (start : Name) : Bool × Network τ ρ :=
  (network.registrations.any fun registration => registration.isFor face start,
    { network with
      registrations := network.registrations.filter fun registration =>
        !registration.isFor face start })

/-- The registrations of other online faces that an interest is forwarded to. -/
def targets (network : Network τ ρ) (face : Face) (name : Name) : List (Registration τ) :=
  network.registrations.filter fun registration =>
    registration.face ≠ face && registration.start.isPrefixOf name &&
      network.isOnline registration.face

/-- The oldest cached data of another face that answers an interest. -/
def cached? (cache : List CachedData) (face : Face) (name : Name) : Option Data :=
  (cache.find? fun entry => entry.producer ≠ face && entry.data.answers name).map (·.data)

/-- Express an interest. -/
def express (network : Network τ ρ) (face : Face) (name : Name) (asker : ρ) (now : Instant) :
    Reception τ × Network τ ρ :=
  let noted := { network with history := (face, name) :: network.history }
  if network.isOnline face then
    let fresh := network.cache.filter fun entry => now < entry.expiry
    match cached? fresh face name with
    | some data => (.cached data, { noted with cache := fresh })
    | none =>
      (.forwarded network.nextWaiting (network.targets face name),
        { noted with
          cache := fresh
          nextWaiting := network.nextWaiting + 1
          waiting := network.waiting ++ [⟨network.nextWaiting, face, name, asker⟩] })
  else (.unreachable, noted)

/-- Put data on the network, and return the interests that it answers.  What it
matches of a face that is offline goes on waiting. -/
def put (network : Network τ ρ) (face : Face) (data : Data) (now : Instant) :
    List (Waiting ρ) × Network τ ρ :=
  if network.isOnline face then
    let cache :=
      if data.freshness = 0 then network.cache
      else network.cache ++ [⟨face, data, now + data.freshness⟩]
    let (matched, others) := network.waiting.partition fun one => one.isMatch face data
    let (answered, kept) := matched.partition fun one => network.isOnline one.face
    (answered, { network with cache, waiting := others ++ kept })
  else ([], network)

/-- Stop waiting, and return the interest if it still waited. -/
def expire (network : Network τ ρ) (id : Nat) : Option (Waiting ρ) × Network τ ρ :=
  (network.waiting.find? fun one => one.id = id,
    { network with waiting := network.waiting.eraseP fun one => one.id = id })

end Network

end DigestSync
