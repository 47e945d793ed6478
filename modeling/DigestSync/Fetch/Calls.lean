import DigestSync.Fetch.Interleaving

set_option autoImplicit false

/-! # Calls on a manager from entering to answer

A call to add a task or to cancel a key begins when it enters, which it can do while
nothing else has.  It is answered at once, or takes its steps and leaves with its answer.
Between its steps other events happen.  Those that need no entry take place as they would
without the call, and all others have to wait until it has left.
-/

namespace DigestSync

/-- The event needs no entry: the worklist is looked at, an attempt fails, or the medium of
the store changes. -/
def ManagerEvent.isFree : ManagerEvent → Bool
  | .look | .fail _ _ _ | .medium _ => true
  | .enqueue _ _ | .cancel _ | .advance | .complete _ _ => false

/-- An attempt with a number ends, completed or failed. -/
def ManagerEvent.IsEndOf (id : FetcherId) : ManagerEvent → Prop
  | .complete other _ | .fail _ other _ => other = id
  | .enqueue _ _ | .cancel _ | .advance | .look | .medium _ => False

namespace ManagerScene

/-- Those of some events that need no entry. -/
def bystanders (events : List (Instant × ManagerEvent)) : List (Instant × ManagerEvent) :=
  events.filter fun event => event.2.isFree

/-- What has entered leaves with an answer by the last of some events. -/
inductive Leaves :
    ManagerScene → List (Instant × ManagerEvent) → Except FetchFault Bool → Prop where
  | last {scene : ManagerScene} {now : Instant} {answer : Except FetchFault Bool}
      (answered : (scene.manager.advance scene.volume now).2.2 = some answer) :
      Leaves scene [(now, .advance)] answer
  | step {scene : ManagerScene} {now : Instant} {answer : Except FetchFault Bool}
      {rest : List (Instant × ManagerEvent)}
      (unanswered : (scene.manager.advance scene.volume now).2.2 = none)
      (later : Leaves (scene.react now .advance) rest answer) :
      Leaves scene ((now, .advance) :: rest) answer
  | other {scene : ManagerScene} {now : Instant} {answer : Except FetchFault Bool}
      {event : ManagerEvent} {rest : List (Instant × ManagerEvent)} (foreign : event ≠ .advance)
      (later : Leaves (scene.react now event) rest answer) :
      Leaves scene ((now, event) :: rest) answer

/-- A call to add a task enters by the first of some events and is answered by the last. -/
inductive Enqueues (scene : ManagerScene) (resolve : DeviceId → Name) (task : FetchTask) :
    List (Instant × ManagerEvent) → Except FetchFault Bool → Prop where
  | atOnce {now : Instant} {answer : Except FetchFault Bool} (free : scene.isTaken = false)
      (answered : scene.manager.enterEnqueue resolve task = .answered answer) :
      Enqueues scene resolve task [(now, .enqueue resolve task)] answer
  | later {now : Instant} {answer : Except FetchFault Bool} {manager : FetchManager}
      {rest : List (Instant × ManagerEvent)} (free : scene.isTaken = false)
      (entered : scene.manager.enterEnqueue resolve task = .entered manager)
      (leaves : (scene.react now (.enqueue resolve task)).Leaves rest answer) :
      Enqueues scene resolve task ((now, .enqueue resolve task) :: rest) answer

/-- A call to cancel a key enters by the first of some events and is answered by the last. -/
inductive Cancels (scene : ManagerScene) (key : TaskKey) :
    List (Instant × ManagerEvent) → Except FetchFault Bool → Prop where
  | later {now : Instant} {answer : Except FetchFault Bool}
      {rest : List (Instant × ManagerEvent)} (free : scene.isTaken = false)
      (leaves : (scene.react now (.cancel key)).Leaves rest answer) :
      Cancels scene key ((now, .cancel key) :: rest) answer

/-- The same without the entries of a key. -/
def drop (scene : ManagerScene) (key : TaskKey) : ManagerScene :=
  { scene with
    manager := { scene.manager with worklist := scene.manager.worklist.removeKey key } }

/-- The end of an attempt with a number comes to nothing. -/
def Ignores (scene : ManagerScene) (id : FetcherId) : Prop :=
  ∀ now event, event.IsEndOf id →
    (scene.react now event).manager = scene.manager ∧
      (scene.react now event).volume = scene.volume

/-- Shut down.  The ends of attempts that are on their way may still come. -/
def shutdown (scene : ManagerScene) : ManagerScene :=
  { scene with manager := scene.manager.shutdown }

end ManagerScene

end DigestSync
