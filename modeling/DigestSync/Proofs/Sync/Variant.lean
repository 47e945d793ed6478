import DigestSync.Proofs.Cbor.Item
import DigestSync.Proofs.Sync.Message
import DigestSync.Sync.Variant

set_option autoImplicit false

/-! # Variants of messages are read

What has been read of a record or of a message depends on the fields that were seen alone:
their order plays no part, nor does what stands among them, nor whether a field that is null
was seen at all.  So a receiver makes of each variant of a message what it makes of the
message itself.
-/

namespace DigestSync

/-! ## Records -/

namespace DeltaRecord

theorem mem_idle {record : DeltaRecord} {name : String} :
    name ∈ record.idle ↔
      name = "old_seq" ∧ record.oldSeq = none ∨ name = "locator" ∧ record.locator = none := by
  unfold idle
  rw [List.mem_append]
  split <;> split <;> simp [*]

end DeltaRecord

namespace Cbor

variable {bound depth limit : Nat}

namespace RecordFields

/-- What has been read of a record when the fields with these names were seen. -/
def ofSeen (record : DeltaRecord) (seen : List String) : RecordFields where
  device := if "device" ∈ seen then some record.device else .none
  kind := if "kind" ∈ seen then some record.kind else .none
  seq := if "seq" ∈ seen then some record.seq else .none
  oldSeq := if "old_seq" ∈ seen then some record.oldSeq else .none
  locator := if "locator" ∈ seen then some record.locator else .none

/-- A field of the record that was not seen before is read. -/
theorem reads_readField_known {record : DeltaRecord} (fits : record.Fits) :
    ∀ field ∈ record.fields, ∀ seen, field.1 ∉ seen →
      Reads (readField bound limit (Bytes.ofText field.1) (ofSeen record seen)) field.2
        (ofSeen record (field.1 :: seen)) := by
  intro field member seen fresh
  simp only [DeltaRecord.fields, List.mem_cons, List.not_mem_nil, or_false] at member
  rcases member with rfl | rfl | rfl | rfl | rfl
  · have next : ofSeen record ("device" :: seen) =
        { ofSeen record seen with device := some record.device } := by simp [ofSeen]
    rw [next]
    exact reads_readField_device fits.1 (if_neg fresh)
  · have next : ofSeen record ("kind" :: seen) =
        { ofSeen record seen with kind := some record.kind } := by simp [ofSeen]
    rw [next]
    exact reads_readField_kind record.kind (if_neg fresh)
  · have next : ofSeen record ("seq" :: seen) =
        { ofSeen record seen with seq := some record.seq } := by simp [ofSeen]
    rw [next]
    exact reads_readField_seq record.seq (if_neg fresh)
  · have next : ofSeen record ("old_seq" :: seen) =
        { ofSeen record seen with oldSeq := some record.oldSeq } := by simp [ofSeen]
    rw [next]
    exact reads_readField_oldSeq record.oldSeq (if_neg fresh)
  · have next : ofSeen record ("locator" :: seen) =
        { ofSeen record seen with locator := some record.locator } := by simp [ofSeen]
    rw [next]
    exact reads_readField_locator fits.2 (if_neg fresh)

/-- The value of an entry that is no field of the record is passed over. -/
theorem reads_readField_other {record : DeltaRecord} {key : String} {item : Bytes}
    (other : key ∉ record.fields.map Prod.fst) (whole : IsItem depth item)
    (shallow : depth ≤ limit) (seen : List String) :
    Reads (readField bound limit (Bytes.ofText key) (ofSeen record seen)) item
      (ofSeen record (key :: seen)) := by
  intro rest
  simp only [DeltaRecord.fields, List.map_cons, List.map_nil, List.mem_cons, List.not_mem_nil,
    or_false, not_or] at other
  have next : ofSeen record (key :: seen) = ofSeen record seen := by
    simp only [ofSeen, List.mem_cons, Ne.symm other.1, Ne.symm other.2.1, Ne.symm other.2.2.1,
      Ne.symm other.2.2.2.1, Ne.symm other.2.2.2.2, false_or]
  simp only [readField, isField_iff, other, if_false, whole.reads_skip shallow rest, next]

/-- No field is missed if those that were not seen are null. -/
theorem toRecord?_ofSeen {record : DeltaRecord} {seen : List String}
    (missed : ∀ field ∈ record.fields, field.1 ∉ seen → field.1 ∈ record.idle) :
    (ofSeen record seen).toRecord? = some record := by
  simp only [DeltaRecord.fields, List.forall_mem_cons, DeltaRecord.mem_idle, String.reduceEq,
    false_and, true_and, or_self, or_false, false_or, imp_false, not_not] at missed
  obtain ⟨device, kind, seq, oldSeq, locator, -⟩ := missed
  have older : (ofSeen record seen).oldSeq.getD .none = record.oldSeq := by
    unfold ofSeen
    dsimp only
    split
    · rfl
    · rename_i unseen
      exact (oldSeq unseen).symm
  have place : (ofSeen record seen).locator.getD .none = record.locator := by
    unfold ofSeen
    dsimp only
    split
    · rfl
    · rename_i unseen
      exact (locator unseen).symm
  unfold toRecord?
  rw [older, place]
  simp only [ofSeen, if_pos device, if_pos kind, if_pos seq]

end RecordFields

/-- A record is read from each of its variants. -/
theorem reads_readDeltaRecord_of_isVariant {record : DeltaRecord} (fits : record.Fits)
    {front : Bytes} (variant : record.IsVariant depth front) (shallow : depth ≤ limit) :
    Reads (readDeltaRecord bound limit) front record := by
  intro rest
  have identifiers : ∀ name ∈ ["device", "kind", "seq", "old_seq", "locator"],
      IsIdentifier name := by decide
  have distinct : ["device", "kind", "seq", "old_seq", "locator"].Nodup := by decide
  obtain ⟨seen, missed, read⟩ := variant.reads_readRecord bound identifiers distinct
    (RecordFields.reads_readField_known fits) fun key other item whole =>
      RecordFields.reads_readField_other other whole shallow
  have start : RecordFields.none = RecordFields.ofSeen record [] := rfl
  unfold readDeltaRecord
  rw [start, read rest]
  dsimp only
  rw [RecordFields.toRecord?_ofSeen missed]

end Cbor

namespace StateMessage

open Cbor

/-! ## Messages -/

variable {depth : Nat}

namespace Fields

/-- What has been read of a message when the fields with these names were seen. -/
def ofSeen (message : StateMessage) (seen : List String) : Fields where
  version := if "version" ∈ seen then some message.version else none
  states := if "states" ∈ seen then some message.states else none

end Fields

/-- A field of the message that was not seen before is read. -/
theorem reads_readField_known {bound : Nat} {message : StateMessage} {records : List Bytes}
    (states : Reads (readArray bound (readDeltaRecord bound (maxDepth - 3)))
      (Value.countHead 4 records.length ++ records.flatten) message.states) :
    ∀ field ∈ message.fields records, ∀ seen, field.1 ∉ seen →
      Reads (readField bound (Bytes.ofText field.1) (Fields.ofSeen message seen)) field.2
        (Fields.ofSeen message (field.1 :: seen)) := by
  intro field member seen fresh
  simp only [fields, List.mem_cons, List.not_mem_nil, or_false] at member
  rcases member with rfl | rfl
  · have next : Fields.ofSeen message ("version" :: seen) =
        { Fields.ofSeen message seen with version := some message.version } := by
      simp [Fields.ofSeen]
    rw [next]
    exact reads_readField_version bound message.version (if_neg fresh)
  · have next : Fields.ofSeen message ("states" :: seen) =
        { Fields.ofSeen message seen with states := some message.states } := by
      simp [Fields.ofSeen]
    rw [next]
    exact reads_readField_states (if_neg fresh) states

/-- The value of an entry that is no field of a message is passed over. -/
theorem reads_readField_other {bound : Nat} {message : StateMessage} {key : String} {item : Bytes}
    (other : key ∉ ["version", "states"]) (whole : IsItem depth item)
    (shallow : depth ≤ maxDepth - 1) (seen : List String) :
    Reads (readField bound (Bytes.ofText key) (Fields.ofSeen message seen)) item
      (Fields.ofSeen message (key :: seen)) := by
  intro rest
  simp only [List.mem_cons, List.not_mem_nil, or_false, not_or] at other
  have next : Fields.ofSeen message (key :: seen) = Fields.ofSeen message seen := by
    simp only [Fields.ofSeen, List.mem_cons, Ne.symm other.1, Ne.symm other.2, false_or]
  simp only [readField, isField_iff, other, if_false, whole.reads_skip shallow rest, next]

/-- A message is read from each of its variants. -/
theorem reads_read_of_isVariant {message : StateMessage} (fits : message.Fits) {front : Bytes}
    (variant : message.IsVariant depth front) (shallow : depth + 3 ≤ maxDepth) (bound : Nat) :
    Reads (read bound) front message := by
  intro rest
  obtain ⟨records, told, variants, whole⟩ := variant
  have counted : message.states.length = (records.map Prod.snd).length := by
    rw [← told, List.length_map, List.length_map]
  have each : List.Forall₂
      (fun record front => Reads (readDeltaRecord bound (maxDepth - 3)) front record)
      message.states (records.map Prod.snd) := by
    rw [← told, List.forall₂_map_left_iff, List.forall₂_map_right_iff, List.forall₂_same]
    intro pair member
    have record : pair.1 ∈ message.states := told ▸ List.mem_map_of_mem member
    exact reads_readDeltaRecord_of_isVariant (fits.2 _ record) (variants pair member)
      (Nat.le_sub_of_add_le shallow)
  have states : Reads (readArray bound (readDeltaRecord bound (maxDepth - 3)))
      (Value.countHead 4 (records.map Prod.snd).length ++ (records.map Prod.snd).flatten)
      message.states :=
    reads_readArray_of_forms (counted ▸ isHead_countHead 4 fits.1) each
  have identifiers : ∀ name ∈ ["version", "states"], IsIdentifier name := by decide
  have distinct : ["version", "states"].Nodup := by decide
  have inside : depth ≤ maxDepth - 1 := by omega
  obtain ⟨seen, missed, read⟩ := whole.reads_readRecord bound identifiers distinct
    (reads_readField_known states) fun key other item whole =>
      reads_readField_other other whole inside
  simp only [fields, List.forall_mem_cons, List.not_mem_nil, imp_false, not_not] at missed
  have start : (⟨none, none⟩ : Fields) = Fields.ofSeen message [] := rfl
  unfold StateMessage.read
  rw [start, read rest]
  simp only [Fields.ofSeen, if_pos missed.1, if_pos missed.2.1]

/-- The bytes of a message are a variant of it themselves. -/
theorem isVariant_encode (depth : Nat) (message : StateMessage) :
    message.IsVariant depth message.encode := by
  have two : 2 < UInt64.size := by decide
  have five : 5 < UInt64.size := by decide
  refine ⟨message.states.map fun record => (record, (ofRecord record).encode), ?_, ?_, ?_⟩
  · rw [List.map_map]
    exact List.map_id _
  · intro told member
    obtain ⟨record, -, rfl⟩ := List.mem_map.mp member
    exact isVariant_record record.idle
      [("device", ofDevice record.device), ("kind", .text (kindText record.kind)),
        ("seq", .unsigned record.seq), ("old_seq", .option .unsigned record.oldSeq),
        ("locator", .option ofName record.locator)] five
  · have records : (message.states.map fun record => (record, (ofRecord record).encode)).map
        Prod.snd = message.states.map fun record => (ofRecord record).encode := by
      rw [List.map_map]
      rfl
    have list : (Value.array (message.states.map ofRecord)).encode =
        Value.countHead 4 (message.states.map fun record => (ofRecord record).encode).length ++
          (message.states.map fun record => (ofRecord record).encode).flatten := by
      rw [Value.encode, List.length_map, List.length_map, encodeItems_map, List.flatMap_def]
    rw [records, fields, ← list]
    exact isVariant_record []
      [("version", .unsigned message.version.toUInt64),
        ("states", .array (message.states.map ofRecord))] two

/-- A receiver takes each variant of a message for the message itself, whatever follows it, if
it would take the message, unless what it does not know is nested too deeply.  Containers may
be nested 256 deep in all, and a record lies in three of them. -/
theorem decode_of_isVariant {message : StateMessage} (fits : message.Fits)
    (spoken : message.version = protocolVersion) (few : message.states.length ≤ maxStates)
    {front : Bytes} (variant : message.IsVariant depth front) (shallow : depth + 3 ≤ maxDepth)
    (rest : Bytes) : decode (front ++ rest) = .ok message := by
  rw [decode_of_read (reads_read_of_isVariant fits variant shallow _ rest),
    if_neg (not_not_intro spoken), if_neg (Nat.not_lt.mpr few)]

/-- Entries that are not known here: an array of null and a map under a key with a long head,
and a text. -/
def laterEntries : List Entry :=
  [⟨[0x78, 1], "x", [0x82] ++ [[0xF6], [0xA0]].flatten⟩, ⟨[0x61], "y", [0x62] ++ Bytes.ofText "é"⟩]

/-- The entries of a record from which what is null was left out, in another order and with
unknown ones among them. -/
def laterRecord : List Entry :=
  laterEntries ++
    [.ofField ("seq", (Value.unsigned 3).encode),
     .ofField ("kind", (Value.text "Update").encode),
     .ofField ("device", (ofDevice ⟨.ofTexts ["a"]⟩).encode)]

/-- The entries of a message with that record, with the same unknown ones among them. -/
def laterMessage : List Entry :=
  .ofField ("states", [0x81] ++ [[0xA5] ++ laterRecord.flatMap Entry.bytes].flatten) ::
    (laterEntries ++ [.ofField ("version", [0])])

theorem isExtra_laterEntries {names : List String} (unknown : ∀ name ∈ ["x", "y"], name ∉ names) :
    ∀ entry ∈ laterEntries, entry.IsExtra 200 names := by
  have blank : IsItem 199 [0xA0] :=
    @IsItem.map 198 [0xA0] [] (.short (by decide)) (fun _ none => absurd none List.not_mem_nil)
      fun _ none => absurd none List.not_mem_nil
  have items : ∀ item ∈ [[0xF6], [0xA0]], IsItem 199 item := by
    simp only [List.forall_mem_cons, List.not_mem_nil, IsEmpty.forall_iff, implies_true, and_true]
    exact ⟨.null, blank⟩
  simp only [laterEntries, List.forall_mem_cons, List.not_mem_nil, IsEmpty.forall_iff,
    implies_true, and_true]
  constructor
  · exact ⟨@IsHead.wide 3 1 24 [1] (by decide) rfl, by decide, unknown _ (by decide),
      .array (.short (by decide)) items⟩
  · exact ⟨.short (by decide), by decide, unknown _ (by decide), .text (.short (by decide))⟩

/-- The record is taken, whatever else a later program has written. -/
theorem decode_of_isVariant_later :
    let record : DeltaRecord := .update ⟨.ofTexts ["a"]⟩ 3 none
    decode ([0xB8, 4] ++ laterMessage.flatMap Entry.bytes ++ [0xFF]) = .ok (ofStates [record]) := by
  intro record
  have fits : (ofStates [record]).Fits := by
    refine ⟨by decide, ?_⟩
    intro other member
    rw [List.mem_singleton.mp member]
    refine ⟨by decide +kernel, ?_⟩
    intro locator named
    cases named
  have inner : record.IsVariant 200 ([0xA5] ++ laterRecord.flatMap Entry.bytes) :=
    .intro (List.take_sublist 3 _) (by decide +kernel) (isExtra_laterEntries (by decide))
      (by decide +kernel) (.short (by decide))
  have whole : (ofStates [record]).IsVariant 200
      ([0xB8, 4] ++ laterMessage.flatMap Entry.bytes) := by
    refine ⟨[(record, [0xA5] ++ laterRecord.flatMap Entry.bytes)], rfl, ?_, ?_⟩
    · intro told member
      rw [List.mem_singleton.mp member]
      exact inner
    · exact .intro (List.Sublist.refl _) (fun _ there missing => absurd there missing)
        (isExtra_laterEntries (by decide)) (by decide +kernel)
        (@IsHead.wide 5 4 24 [4] (by decide) rfl)
  exact decode_of_isVariant fits rfl (by decide) whole (by decide) _

end StateMessage

end DigestSync
