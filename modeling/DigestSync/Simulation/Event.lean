import DigestSync.Delta
import DigestSync.Network.Broadcast
import DigestSync.Sync.Fault
import DigestSync.Task

set_option autoImplicit false

/-! # Events of a simulated run

What an observer of a run sees: what goes over the network, what becomes of the
interests that were expressed by hand, and what is reported and handed over.
-/

namespace DigestSync

/-- Something that an observer sees. -/
inductive Event where
  /-- A face expresses an interest. -/
  | interest (face : Face) (interest : Interest)
  /-- A face puts data on the network. -/
  | data (face : Face) (data : Data)
  /-- A face registers a beginning of names. -/
  | register (face : Face) (start : Name)
  /-- A face undoes a registration, which may not have been there. -/
  | unregister (face : Face) (start : Name) (known : Bool)
  /-- An interest with a label was answered. -/
  | reply (label : String) (data : Data)
  /-- The time of an interest with a label is over. -/
  | timeout (label : String)
  /-- The network refused an interest with a label. -/
  | failed (label : String) (cause : SyncFault)
  /-- A sync core with a label reported a change. -/
  | delta (label : String) (records : List DeltaRecord)
  /-- An interest went to a script. -/
  | asked (interest : Interest)
  /-- A record of a task was handed over. -/
  | segment (task : FetchTask) (seq : Seq) (content : Bytes)
  /-- All records of a task were handed over. -/
  | finish (task : FetchTask)
deriving DecidableEq, Repr

/-- The step in which the clock of a simulated run moves. -/
def tick : Duration := Duration.ofMillis 1

/-- The most steps that a simulated run takes. -/
def stepLimit : Nat := 1000000000

end DigestSync
