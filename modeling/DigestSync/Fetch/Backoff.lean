import DigestSync.Fetch.Retrieval
import Mathlib.Data.List.DropRight

set_option autoImplicit false

/-! # Setbacks of a retrieval

Two things bear on how long a fetcher pauses and on where it asks next: that it backs off after an
attempt, and that a record arrives.  How many setbacks there have been, and how many since the last
arrival, is read off the incidents of a history, not off the fetcher.
-/

namespace DigestSync

/-- What bears on pause and hint. -/
inductive Incident where
  /-- A record arrives. -/
  | arrival
  /-- The fetcher backs off, with what is then known of the places of producers. -/
  | setback (resolve : DeviceId → Name) (now : Instant)

namespace Incident

/-- The fetcher backs off. -/
def isSetback : Incident → Bool
  | .arrival => false
  | .setback _ _ => true

/-- What was known of the places of producers when the fetcher backed off. -/
def resolver? : Incident → Option (DeviceId → Name)
  | .arrival => none
  | .setback resolve _ => some resolve

/-- The setbacks so far. -/
def setbacks (incidents : List Incident) : Nat := incidents.countP isSetback

/-- The setbacks since the last arrival, or since the start. -/
def setbacksInRow (incidents : List Incident) : Nat := (incidents.rtakeWhile isSetback).length

/-- Where the producer was said to be at the last setback, or before there was one. -/
def lastPlace (first : Name) (producer : DeviceId) (incidents : List Incident) : Name :=
  match (incidents.filterMap resolver?).getLast? with
  | none => first
  | some resolve => resolve producer

end Incident

namespace Retrieval

/-- What an event is to pause and hint, if it can happen. -/
def incident? (retrieval : Retrieval) : RetrievalEvent → Option Incident
  | .begin _ => none
  | .resolve _ seq answer =>
    match retrieval.attempt, answer with
    | some (_, window), some _ => if seq ∈ window.inFlight then some .arrival else none
    | _, _ => none
  | .backOff resolve now =>
    match retrieval.attempt with
    | some _ => none
    | none => some (.setback resolve now)

/-- The incidents of a history. -/
def incidents (retrieval : Retrieval) : List RetrievalEvent → List Incident
  | [] => []
  | event :: rest =>
    (retrieval.incident? event).toList ++ (retrieval.react event).incidents rest

end Retrieval

end DigestSync
