import DigestSync.Time

set_option autoImplicit false

/-! # Retry pauses

The pause before the next attempt starts at one second and doubles with every
failure up to a maximum, which itself counts as one second if it is less.  The
first record that arrives resets it.
-/

namespace DigestSync

/-- The pause after the last failure, and the longest one. -/
structure RetryPause where
  current : Duration
  max : Duration
deriving DecidableEq, Repr, Inhabited

namespace RetryPause

/-- The shortest pause. -/
def shortest : Duration := Duration.ofSeconds 1

/-- No failure so far. -/
def start (max : Duration) : RetryPause := ⟨0, max⟩

/-- Take note of a failure.  A double that no span can hold counts as the
longest pause. -/
def fail (pause : RetryPause) : RetryPause :=
  let doubled := if 2 * pause.current < Duration.limit then 2 * pause.current else pause.max
  { pause with current := Nat.max (Nat.min doubled pause.max) shortest }

/-- Forget all failures. -/
def reset (pause : RetryPause) : RetryPause := { pause with current := 0 }

end RetryPause

end DigestSync
