import DigestSync.Fetch.Retrieval

set_option autoImplicit false

/-! # An attempt over a patient transport

A transport is patient if it does not say that the time of a request is over before it has waited
for as long as its interest says.  It may take longer, and so may the one to whom a record is handed
over: a request is resolved at the time at which the fetcher goes on.
-/

namespace DigestSync

/-- A request that is answered, or whose time is over. -/
structure Resolution where
  /-- When the fetcher goes on. -/
  now : Instant
  seq : Seq
  answer : Option Bytes
deriving DecidableEq, Repr

/-- What a resolution is to the retrieval. -/
def Resolution.event (resolution : Resolution) : RetrievalEvent :=
  .resolve resolution.now resolution.seq resolution.answer

/-- An attempt in time. -/
structure TimedAttempt where
  retrieval : Retrieval
  /-- When the fetcher last went on. -/
  clock : Instant
  /-- Until when the last request of each record waits. -/
  deadline : Seq → Instant

/-- Note until when a request waits. -/
def FetchAction.date (now : Instant) (deadline : Seq → Instant) : FetchAction → Seq → Instant
  | .request seq interest => fun other =>
    if other = seq then now + interest.lifetime else deadline other
  | .deliver _ _ _ | .finish _ => deadline

namespace TimedAttempt

/-- A fetcher starts an attempt. -/
def start (fetcher : Fetcher) (config : FetchConfig) (now : Instant) : TimedAttempt :=
  let retrieval := (Retrieval.start fetcher).react (.begin config)
  ⟨retrieval, now, retrieval.current.foldl (FetchAction.date now) fun _ => now⟩

/-- The records in flight. -/
def inFlight (attempt : TimedAttempt) : List Seq :=
  match attempt.retrieval.attempt with
  | none => []
  | some (_, window) => window.inFlight

/-- Resolve a request. -/
def react (attempt : TimedAttempt) (resolution : Resolution) : TimedAttempt :=
  let retrieval := attempt.retrieval.react resolution.event
  let actions := retrieval.current.drop attempt.retrieval.current.length
  ⟨retrieval, resolution.now, actions.foldl (FetchAction.date resolution.now) attempt.deadline⟩

/-- Resolve requests one after another. -/
def run (attempt : TimedAttempt) (resolutions : List Resolution) : TimedAttempt :=
  resolutions.foldl react attempt

/-- A patient transport may resolve the request. -/
def Admits (attempt : TimedAttempt) (resolution : Resolution) : Prop :=
  resolution.seq ∈ attempt.inFlight ∧ attempt.clock ≤ resolution.now ∧
    (resolution.answer = none → attempt.deadline resolution.seq ≤ resolution.now)

instance (attempt : TimedAttempt) (resolution : Resolution) :
    Decidable (attempt.Admits resolution) := inferInstanceAs (Decidable (_ ∧ _ ∧ _))

/-- A patient transport may resolve the requests one after another. -/
def Patient (attempt : TimedAttempt) : List Resolution → Prop
  | [] => True
  | resolution :: rest => attempt.Admits resolution ∧ (attempt.react resolution).Patient rest

instance decidablePatient (attempt : TimedAttempt) :
    (resolutions : List Resolution) → Decidable (attempt.Patient resolutions)
  | [] => .isTrue trivial
  | resolution :: rest =>
    have : Decidable ((attempt.react resolution).Patient rest) :=
      decidablePatient (attempt.react resolution) rest
    inferInstanceAs (Decidable (_ ∧ _))

end TimedAttempt

end DigestSync
