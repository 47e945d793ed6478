import DigestSync.Fetch.Config
import DigestSync.Sync.Config

set_option autoImplicit false

/-! # Configuration of a node

A node synchronises, fetches the records of others and serves its own.
-/

namespace DigestSync

/-- How a node works. -/
structure NodeConfig where
  sync : SyncConfig
  fetch : FetchConfig
  /-- The component that follows a device's name in the names of its records. -/
  actionComponent : String
  /-- Where the node's data can be asked for. -/
  locator : Option Name
  /-- How long a served record may be kept in a cache. -/
  segmentFreshness : Duration
deriving DecidableEq, Repr, Inhabited

namespace NodeConfig

/-- The configuration that is used unless something else is asked for. -/
def standard : NodeConfig where
  sync := .standard
  fetch := .standard
  actionComponent := "actions"
  locator := none
  segmentFreshness := Duration.ofSeconds 10

/-- A configuration with short times. -/
def fast : NodeConfig :=
  { standard with
    sync := { SyncConfig.standard with syncInterval := Duration.ofSeconds 1 }
    fetch :=
      { FetchConfig.standard with
        segmentTimeout := Duration.ofSeconds 2
        maxRetryPause := Duration.ofSeconds 4
        timedWait := Duration.ofSeconds 1 } }

/-- The name that a device's records have in front of their number. -/
def actionBase (config : NodeConfig) (device : DeviceId) : Name :=
  device.name.push (Bytes.ofText config.actionComponent)

end NodeConfig

end DigestSync
