import DigestSync.Sync.Publishing

set_option autoImplicit false

/-! # A peer and what is under way for it

What a peer calls for takes its time.  An interest that it has expressed is answered some
day or is over, and the wait before a recovery passes; either comes back to the peer as an
event, which joins those that it was not told of yet.  Meanwhile interests of others arrive,
the device gives its orders, advertisements fall due and the device uses the log.

All of this takes place in any order.  Between any two things that a peer is told of, it
publishes what it waits for.
-/

namespace DigestSync

/-- What a peer has under way: an advertisement or the recovery of a digest. -/
inductive Undertaking where
  | advertisement
  | recovery (digest : Digest)
deriving DecidableEq, Repr

/-- What an interest of the peer belongs to. -/
def SyncName.undertaking : SyncName → Undertaking
  | .advertise _ => .advertisement
  | .recover digest => .recovery digest

/-- What an interest of the peer brings when it is answered or over. -/
def SyncName.outcome (answer : Option Data) : SyncName → SyncEvent
  | .advertise _ => .advertReply answer
  | .recover digest => .recoverReply digest answer

namespace SyncEvent

/-- The event is the outcome of an advertisement. -/
def isAdvertReply : SyncEvent → Bool
  | .advertReply _ => true
  | .interest _ | .advertDue | .recoverDue _ | .recoverReply _ _ => false

/-- The event is the outcome of a request for the recovery of the digest. -/
def isRecoverReply (digest : Digest) : SyncEvent → Bool
  | .recoverReply other _ => other = digest
  | .interest _ | .advertDue | .advertReply _ | .recoverDue _ => false

end SyncEvent

/-- What the interest that the action expresses says. -/
def SyncAction.saying? : SyncAction → Option SyncName
  | .ask saying _ => some saying
  | .put _ | .await _ _ | .report _ => none

/-- A peer with what is under way for it. -/
structure SyncLoop where
  peer : Peer
  /-- The interests that it has expressed and that are neither answered nor over. -/
  asked : List SyncName
  /-- The digests whose recovery is not due before some time has passed. -/
  waits : List Digest
  /-- What came back and was not told to it yet, first come first. -/
  events : List SyncEvent
  /-- What it has published that it waits for. -/
  phase : SyncPhase

/-- Something that happens to a peer or to what is under way for it. -/
inductive LoopStep where
  /-- An interest of someone arrives. -/
  | hear (now : Instant) (name : Name)
  /-- The device raises its own number. -/
  | publish (now : Instant) (seq : Seq)
  /-- The device says that the log has changed. -/
  | noteChange (now : Instant)
  /-- It is time to advertise. -/
  | advertise (now : Instant)
  /-- The peer is told of the first event. -/
  | handle (now : Instant)
  /-- The interest at the place is answered, or is over without an answer. -/
  | settle (place : Nat) (answer : Option Data)
  /-- The wait at the place is over. -/
  | elapse (place : Nat)
  /-- The device uses the log. -/
  | call (call : StoreCall)

namespace SyncLoop

/-- Nothing is under way for the peer of a device that takes up a log. -/
def start (store : MemoryStore) (device : DeviceId) (config : SyncConfig) (now : Instant) :
    SyncLoop :=
  ⟨.resume store device config now, [], [], [], .idle⟩

/-- The peer is told of an input: it publishes what it waits for then, and what it calls for
is under way. -/
def tell (loop : SyncLoop) (now : Instant) (input : PeerInput) : SyncLoop :=
  let turn := loop.peer.turn now input
  { peer := .ofTurn turn
    asked := loop.asked ++ turn.actions.filterMap SyncAction.saying?
    waits := loop.waits ++ turn.actions.filterMap SyncAction.awaited?
    events := loop.events
    phase := turn.core.phase }

/-- Let something happen, if it can. -/
def step (loop : SyncLoop) : LoopStep → SyncLoop
  | .hear now name => loop.tell now (.event (.interest name))
  | .publish now seq => loop.tell now (.publish seq)
  | .noteChange now => loop.tell now .noteChange
  | .advertise now => loop.tell now (.event .advertDue)
  | .handle now =>
    match loop.events with
    | [] => loop
    | event :: rest => { loop with events := rest }.tell now (.event event)
  | .settle place answer =>
    match loop.asked[place]? with
    | none => loop
    | some saying =>
      { loop with
        asked := loop.asked.eraseIdx place
        events := loop.events ++ [saying.outcome answer] }
  | .elapse place =>
    match loop.waits[place]? with
    | none => loop
    | some digest =>
      { loop with
        waits := loop.waits.eraseIdx place
        events := loop.events ++ [.recoverDue digest] }
  | .call call => { loop with peer := loop.peer.undergo (.call call) }

/-- Let some things happen one after the other. -/
def run (loop : SyncLoop) (steps : List LoopStep) : SyncLoop := steps.foldl step loop

/-! ## What is under way -/

/-- How many advertisements are neither answered nor over, or else were and the peer does
not know of it. -/
def advertsOut (loop : SyncLoop) : Nat :=
  loop.asked.countP (fun saying => saying.undertaking = .advertisement) +
    loop.events.countP SyncEvent.isAdvertReply

/-- How many of these there are for a digest: waits before its recovery, recoveries that
are due, requests that are neither answered nor over, and outcomes that the peer does not
know of. -/
def recoveriesOut (loop : SyncLoop) (digest : Digest) : Nat :=
  loop.waits.count digest + loop.events.count (.recoverDue digest) +
    loop.asked.count (.recover digest) + loop.events.countP (SyncEvent.isRecoverReply digest)

/-- Nothing is under way. -/
def IsQuiet (loop : SyncLoop) : Prop :=
  loop.asked = [] ∧ loop.waits = [] ∧ loop.events = []

end SyncLoop

end DigestSync
