import DigestSync.Cbor.Item
import DigestSync.Sync.Message

set_option autoImplicit false

/-! # Variants of messages

What other programs may send instead of the bytes of a message to tell the same: the fields
of the message and of its records in any order and among entries that are not known here,
and records without the fields that would be null.
-/

namespace DigestSync

namespace DeltaRecord

/-- The fields of a record, with the bytes of their values. -/
def fields (record : DeltaRecord) : List (String × Bytes) :=
  [("device", (Cbor.ofDevice record.device).encode),
   ("kind", (Cbor.Value.text (Cbor.kindText record.kind)).encode),
   ("seq", (Cbor.Value.unsigned record.seq).encode),
   ("old_seq", (Cbor.Value.option .unsigned record.oldSeq).encode),
   ("locator", (Cbor.Value.option Cbor.ofName record.locator).encode)]

/-- The names of the fields that are null. -/
def idle (record : DeltaRecord) : List String :=
  (if record.oldSeq = none then ["old_seq"] else []) ++
    if record.locator = none then ["locator"] else []

/-- The bytes are a variant of the record's form. -/
def IsVariant (depth : Nat) (record : DeltaRecord) (front : Bytes) : Prop :=
  Cbor.IsVariant depth record.idle record.fields front

end DeltaRecord

namespace StateMessage

/-- The fields of a message, with the bytes of their values; those of its records are given. -/
def fields (message : StateMessage) (records : List Bytes) : List (String × Bytes) :=
  [("version", (Cbor.Value.unsigned message.version.toUInt64).encode),
   ("states", Cbor.Value.countHead 4 records.length ++ records.flatten)]

/-- The bytes are a variant of the message's form, in which each record stands in some variant
of its own. -/
def IsVariant (depth : Nat) (message : StateMessage) (front : Bytes) : Prop :=
  ∃ records : List (DeltaRecord × Bytes), records.map Prod.fst = message.states ∧
    (∀ told ∈ records, told.1.IsVariant depth told.2) ∧
    Cbor.IsVariant depth [] (message.fields (records.map Prod.snd)) front

end StateMessage

end DigestSync
