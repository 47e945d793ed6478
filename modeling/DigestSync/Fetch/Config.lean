import DigestSync.Time

set_option autoImplicit false

/-! # Configuration of fetching

How many transfers run at once, how many requests each keeps in flight, and the
times that govern requests, retries and clean-up.
-/

namespace DigestSync

/-- How records are fetched. -/
structure FetchConfig where
  /-- How many transfers may run at once. -/
  maxParallel : Nat
  /-- How many requests a transfer keeps in flight; none counts as one. -/
  width : Nat
  /-- How long a request waits for its record. -/
  segmentTimeout : Duration
  /-- The longest pause before a transfer is tried again. -/
  maxRetryPause : Duration
  /-- How long a finished transfer is remembered. -/
  timedWait : Duration
  /-- The longest time between two looks at the worklist. -/
  maxIdle : Duration
deriving DecidableEq, Repr, Inhabited

/-- The configuration that is used unless something else is asked for. -/
def FetchConfig.standard : FetchConfig where
  maxParallel := 3
  width := 6
  segmentTimeout := Duration.ofSeconds 30
  maxRetryPause := Duration.ofSeconds 300
  timedWait := Duration.ofSeconds 10
  maxIdle := Duration.ofSeconds 300

end DigestSync
