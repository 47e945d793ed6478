import DigestSync.Store.Call
import DigestSync.Sync.Message

set_option autoImplicit false

/-! # Merging data into a store of either kind

What an answer brings is merged record by record, whether the log is kept in memory or in tables.
The first call that fails ends this.
-/

namespace DigestSync.AnyStore

/-- Merge an update into the store: the number of its device, and its locator if it has one. -/
def mergeRecord (store : AnyStore) (record : DeltaRecord) : Except StoreFault AnyStore := do
  let (_, store) ← store.take (.updateDeviceSeq record.device record.seq)
  match record.locator with
  | none => return store
  | some locator => Prod.snd <$> store.take (.updateLocator record.device locator)

/-- Merge the updates among some records into the store.  Deletions are never applied. -/
def mergeRecords (store : AnyStore) (records : List DeltaRecord) : Except StoreFault AnyStore :=
  (records.filter DeltaRecord.isUpdate).foldlM mergeRecord store

/-- Merge the message that some bytes hold; bytes that hold none are dropped. -/
def hear (store : AnyStore) (content : Bytes) : Except StoreFault AnyStore :=
  match StateMessage.decode content with
  | .error _ => .ok store
  | .ok message => store.mergeRecords message.states

end DigestSync.AnyStore
