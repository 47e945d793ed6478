import DigestSync.Name.Basic
import DigestSync.Time

set_option autoImplicit false

/-! # Configuration of synchronisation

The name a group synchronises under, and the times that govern when a device
advertises, waits and answers.
-/

namespace DigestSync

/-- How a device takes part in synchronisation. -/
structure SyncConfig where
  /-- The name that the group has agreed on. -/
  group : Name
  /-- How long to wait between advertisements. -/
  syncInterval : Duration
  /-- How soon after a local change to advertise. -/
  localChangeDelay : Duration
  /-- How long to wait for a digest to become known before asking for it. -/
  recoverWait : Duration
  /-- By how many percent the wait may vary. -/
  recoverJitter : UInt8
  /-- How long an advertisement waits for an answer. -/
  advertLifetime : Duration
  /-- How long a request for recovery waits for an answer. -/
  recoveryLifetime : Duration
  /-- How long an answer may be served from a cache. -/
  replyFreshness : Duration
deriving DecidableEq, Repr, Inhabited

namespace SyncConfig

/-- The configuration that is used unless something else is asked for. -/
def standard : SyncConfig where
  group := Name.ofTexts ["ndn", "broadcast", "driftsync"]
  syncInterval := Duration.ofSeconds 4
  localChangeDelay := Duration.ofMillis 50
  recoverWait := Duration.ofMillis 50
  recoverJitter := 50
  advertLifetime := Duration.ofSeconds 4
  recoveryLifetime := Duration.ofSeconds 4
  replyFreshness := Duration.ofSeconds 4

/-- The longest time between two advertisements. -/
def maxSyncInterval : Duration := Duration.ofSeconds 30

/-- The time between two advertisements when nothing changes. -/
def effectiveInterval (config : SyncConfig) : Duration :=
  min config.syncInterval maxSyncInterval

end SyncConfig

end DigestSync
