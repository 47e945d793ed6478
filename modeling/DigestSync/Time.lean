set_option autoImplicit false

/-! # Time

Spans of time are counted in nanoseconds, and instants from the start of a run.
-/

namespace DigestSync

/-- A span of time in nanoseconds. -/
abbrev Duration := Nat

/-- A point in time, as the span since the start. -/
abbrev Instant := Nat

namespace Duration

/-- A span of whole milliseconds. -/
def ofMillis (count : Nat) : Duration := count * 1000000

/-- A span of whole seconds. -/
def ofSeconds (count : Nat) : Duration := count * 1000000000

/-- The whole milliseconds of a span. -/
def toMillis (span : Duration) : Nat := span / 1000000

/-- The whole seconds of a span and the nanoseconds beyond them. -/
def toParts (span : Duration) : Nat × Nat := (span / 1000000000, span % 1000000000)

/-- No span reaches this many nanoseconds: the seconds are counted by 64 bits. -/
def limit : Duration := ofSeconds UInt64.size

end Duration

end DigestSync
