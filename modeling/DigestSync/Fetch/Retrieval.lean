import DigestSync.Fetch.Fetcher

set_option autoImplicit false

/-! # A fetcher over its attempts

A retrieval is a fetcher together with the attempt that is under way and with all that
was called for so far.  Attempts follow one another.  While one is under way, any
request in flight may be answered, or its time be over, in any order; between attempts
the fetcher may back off.  An event that cannot happen at its point leaves all as it
was.
-/

namespace DigestSync

namespace FetchAction

/-- The record that is requested. -/
def requested? : FetchAction → Option Seq
  | .request seq _ => some seq
  | _ => none

/-- The record that is handed over. -/
def delivered? : FetchAction → Option Seq
  | .deliver _ seq _ => some seq
  | _ => none

/-- All records are said to have been handed over. -/
def isFinish : FetchAction → Bool
  | .finish _ => true
  | _ => false

/-- The records requested, in their order. -/
def requested (actions : List FetchAction) : List Seq := actions.filterMap requested?

/-- The records requested, in the order of their first requests. -/
def firstRequests (actions : List FetchAction) : List Seq := (requested actions).eraseDups

/-- The records handed over, in their order. -/
def delivered (actions : List FetchAction) : List Seq := actions.filterMap delivered?

end FetchAction

/-- What may happen to a fetcher. -/
inductive RetrievalEvent where
  /-- An attempt is started. -/
  | begin (config : FetchConfig)
  /-- A request is answered, or its time is over. -/
  | resolve (now : Instant) (seq : Seq) (answer : Option Bytes)
  /-- The fetcher backs off after an attempt. -/
  | backOff (resolve : DeviceId → Name) (now : Instant)

/-- A fetcher, the attempt that is under way, and what was called for so far. -/
structure Retrieval where
  fetcher : Fetcher
  /-- The attempt that is under way, with the configuration it was started with. -/
  attempt : Option (FetchConfig × Window)
  /-- What all attempts but the last one have called for. -/
  past : List FetchAction
  /-- What the last attempt has called for. -/
  current : List FetchAction
  /-- How the last attempt ended, if it has. -/
  ending : Option Attempt

namespace Retrieval

/-- The retrieval of a fetcher before its first attempt. -/
def start (fetcher : Fetcher) : Retrieval := ⟨fetcher, none, [], [], none⟩

/-- What was called for so far. -/
def trace (retrieval : Retrieval) : List FetchAction := retrieval.past ++ retrieval.current

/-- Take over the outcome of a step of the attempt. -/
def absorb (retrieval : Retrieval) (config : FetchConfig) (turn : FetchTurn) : Retrieval :=
  { retrieval with
    fetcher := turn.fetcher
    attempt :=
      match turn.ending with
      | none => some (config, turn.window)
      | some _ => none
    current := retrieval.current ++ turn.actions
    ending := turn.ending }

/-- Let an event happen. -/
def react (retrieval : Retrieval) : RetrievalEvent → Retrieval
  | .begin config =>
    match retrieval.attempt with
    | some _ => retrieval
    | none =>
      { retrieval with past := retrieval.trace, current := [] }.absorb config
        (retrieval.fetcher.begin config)
  | .resolve now seq answer =>
    match retrieval.attempt with
    | none => retrieval
    | some (config, window) =>
      if seq ∈ window.inFlight then
        retrieval.absorb config (retrieval.fetcher.receive config window now seq answer)
      else retrieval
  | .backOff resolve now =>
    match retrieval.attempt with
    | some _ => retrieval
    | none => { retrieval with fetcher := retrieval.fetcher.failAttempt resolve now }

/-- Let events happen one after another. -/
def run (retrieval : Retrieval) (events : List RetrievalEvent) : Retrieval :=
  events.foldl react retrieval

end Retrieval

end DigestSync
