import DigestSync.Fetch.Config
import DigestSync.Fetch.Hint
import DigestSync.Fetch.Progress
import DigestSync.Fetch.RetryPause
import DigestSync.Network.Packet
import DigestSync.Task

set_option autoImplicit false

/-! # Fetchers

A fetcher retrieves the records of one task.  What has arrived, the forwarding
hint and the retry pause outlive a failed attempt; each attempt has a window of
its own, which keeps a bounded number of requests in flight.  An attempt is
completed when the last record has arrived.  It fails when a request is not
answered and no record has arrived for as long as a request waits; a request
that is not answered before then is made again.
-/

namespace DigestSync

/-- The state of a retrieval between and during attempts. -/
structure Fetcher where
  task : FetchTask
  progress : Progress
  hint : ForwardingHint
  pause : RetryPause
  /-- When the next attempt may start. -/
  nextRetry : Instant
  /-- How many attempts have been started. -/
  attempts : Nat
deriving DecidableEq, Repr, Inhabited

/-- The requests of one attempt. -/
structure Window where
  /-- Every record below this one has been requested or had arrived. -/
  nextRequest : Seq
  /-- The records whose requests wait for an answer. -/
  inFlight : List Seq
  /-- When the last record arrived. -/
  lastArrival : Option Instant
deriving DecidableEq, Repr, Inhabited

/-- How an attempt ends. -/
inductive Attempt where
  | completed
  | failed
deriving DecidableEq, Repr, Inhabited

/-- What a fetcher calls for. -/
inductive FetchAction where
  /-- Express the interest in a record. -/
  | request (seq : Seq) (interest : Interest)
  /-- Hand over a record of the task. -/
  | deliver (task : FetchTask) (seq : Seq) (content : Bytes)
  /-- All records of the task have been handed over. -/
  | finish (task : FetchTask)
deriving DecidableEq, Repr

/-- The outcome of a step of an attempt, which has ended or goes on. -/
structure FetchTurn where
  fetcher : Fetcher
  window : Window
  actions : List FetchAction
  ending : Option Attempt
deriving DecidableEq, Repr

namespace Window

/-- The window of an attempt that starts with a record. -/
def start (first : Seq) : Window := ⟨first, [], none⟩

/-- A record arrived less than a span ago. -/
def isActive (window : Window) (now : Instant) (span : Duration) : Bool :=
  match window.lastArrival with
  | none => false
  | some arrival => now - arrival < span

end Window

namespace Fetcher

/-- The fetcher of a new task. -/
def start (task : FetchTask) (hint : ForwardingHint) (maxPause : Duration) (now : Instant) :
    Fetcher :=
  ⟨task, Progress.start task.minSeq, hint, RetryPause.start maxPause, now, 0⟩

/-- All records have arrived. -/
def isComplete (fetcher : Fetcher) : Bool := fetcher.progress.isComplete fetcher.task.maxSeq

/-- Back off after a failed attempt, and try the other kind of hint next. -/
def failAttempt (fetcher : Fetcher) (resolve : DeviceId → Name) (now : Instant) : Fetcher :=
  let pause := fetcher.pause.fail
  { fetcher with
    hint := fetcher.hint.alternate resolve fetcher.task.producer
    pause := pause
    nextRetry := now + pause.current }

/-! ## Requests -/

/-- The interest in a record. -/
def interestOf (fetcher : Fetcher) (config : FetchConfig) (seq : Seq) : Interest :=
  ⟨fetcher.hint.segmentName fetcher.task.baseName seq, config.segmentTimeout⟩

/-- The request of a record. -/
def requestOf (fetcher : Fetcher) (config : FetchConfig) (seq : Seq) : FetchAction :=
  .request seq (fetcher.interestOf config seq)

/-- The record has arrived or its request waits for an answer. -/
def isTaken (fetcher : Fetcher) (window : Window) (seq : Seq) : Bool :=
  fetcher.progress.isReceived seq || window.inFlight.contains seq

/-- The first record of the task, from `seq` on, that is not taken. -/
def nextFree (fetcher : Fetcher) (window : Window) (seq : Seq) : Option Seq :=
  if seq < fetcher.task.maxSeq then
    if fetcher.isTaken window seq then fetcher.nextFree window (seq + 1) else some seq
  else if seq = fetcher.task.maxSeq && !fetcher.isTaken window seq then some seq
  else none
termination_by fetcher.task.maxSeq.toNat - seq.toNat
decreasing_by
  rename_i below _
  have less : seq.toNat < fetcher.task.maxSeq.toNat := UInt64.lt_iff_toNat_lt.mp below
  have bound : fetcher.task.maxSeq.toNat < 2 ^ 64 := fetcher.task.maxSeq.toNat_lt
  have step : (seq + 1).toNat = seq.toNat + 1 := by
    rw [UInt64.toNat_add, UInt64.toNat_one]
    exact Nat.mod_eq_of_lt (by omega)
  omega

/-- How many requests may be in flight; none counts as one. -/
def capacity (config : FetchConfig) : Nat := max config.width 1

/-- Request records until the window is full or none is left. -/
def fill (fetcher : Fetcher) (config : FetchConfig) (window : Window) :
    Window × List FetchAction :=
  if window.inFlight.length < capacity config then
    match fetcher.nextFree window window.nextRequest with
    | none => (window, [])
    | some seq =>
      let (filled, actions) :=
        fetcher.fill config
          { window with nextRequest := seq + 1, inFlight := window.inFlight ++ [seq] }
      (filled, fetcher.requestOf config seq :: actions)
  else (window, [])
termination_by capacity config - window.inFlight.length
decreasing_by
  simp only [List.length_append, List.length_singleton]
  omega

/-! ## Attempts -/

/-- Go on with an attempt, filling its window.  An attempt without a request in
flight would wait for ever, and fails. -/
def proceed (fetcher : Fetcher) (config : FetchConfig) (window : Window)
    (actions : List FetchAction) : FetchTurn :=
  let (window, requests) := fetcher.fill config window
  ⟨fetcher, window, actions ++ requests,
    if window.inFlight.isEmpty then some .failed else none⟩

/-- Start an attempt. -/
def begin (fetcher : Fetcher) (config : FetchConfig) : FetchTurn :=
  let fetcher := { fetcher with attempts := fetcher.attempts + 1 }
  let window := Window.start fetcher.progress.next
  if fetcher.isComplete then ⟨fetcher, window, [.finish fetcher.task], some .completed⟩
  else fetcher.proceed config window []

/-- Take note of a record's arrival. -/
def accept (fetcher : Fetcher) (seq : Seq) : Fetcher :=
  { fetcher with progress := fetcher.progress.mark seq, pause := fetcher.pause.reset }

/-- Go on with an attempt after the request of a record was answered, or its time
is over. -/
def receive (fetcher : Fetcher) (config : FetchConfig) (window : Window) (now : Instant)
    (seq : Seq) (answer : Option Bytes) : FetchTurn :=
  let window := { window with inFlight := window.inFlight.erase seq }
  match answer with
  | some content =>
    let delivery := FetchAction.deliver fetcher.task seq content
    let fetcher := fetcher.accept seq
    let window := { window with lastArrival := some now }
    if fetcher.isComplete then
      ⟨fetcher, window, [delivery, .finish fetcher.task], some .completed⟩
    else fetcher.proceed config window [delivery]
  | none =>
    if window.isActive now config.segmentTimeout then
      fetcher.proceed config { window with inFlight := window.inFlight ++ [seq] }
        [fetcher.requestOf config seq]
    else ⟨fetcher, window, [], some .failed⟩

end Fetcher

end DigestSync
