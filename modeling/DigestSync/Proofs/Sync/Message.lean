import DigestSync.Proofs.Cbor.Forms
import DigestSync.Sync.Message

set_option autoImplicit false

/-! # Messages read back

Whatever follows it, an encoded message is read back with all its records, and a receiver
takes it if it speaks the right version and carries no more records than are accepted.
However many records there are, a receiver takes none that was not sent.
-/

namespace DigestSync

namespace StateMessage

open Cbor

/-- The lengths in the message can be told in 64 bits. -/
def Fits (message : StateMessage) : Prop :=
  message.states.length < UInt64.size ∧ ∀ record ∈ message.states, record.Fits

theorem reads_readField_version (bound : Nat) (version : UInt8) {fields : Fields}
    (fresh : fields.version = none) :
    Reads (readField bound (Bytes.ofText "version") fields)
      (Value.unsigned version.toUInt64).encode { fields with version := some version } := by
  simp only [readField, isField_iff, String.reduceEq, if_true, fresh]
  exact reads_readOnce (reads_readUInt8 bound version)

/-- The records of a message are read from any bytes from which their list is read. -/
theorem reads_readField_states {bound : Nat} {states : List DeltaRecord} {front : Bytes}
    {fields : Fields} (fresh : fields.states = none)
    (reads : Reads (readArray bound (readDeltaRecord bound (maxDepth - 3))) front states) :
    Reads (readField bound (Bytes.ofText "states") fields) front
      { fields with states := some states } := by
  simp only [readField, isField_iff, String.reduceEq, if_true, if_false, fresh]
  exact reads_readOnce reads

/-- The fields of a message are read one after the other. -/
theorem takes_readField (bound : Nat) {message : StateMessage} (fits : message.Fits) :
    Takes (readField bound) ⟨none, none⟩
      [("version", .unsigned message.version.toUInt64),
        ("states", .array (message.states.map ofRecord))]
      ⟨some message.version, some message.states⟩ := by
  have states : Reads (readArray bound (readDeltaRecord bound (maxDepth - 3)))
      (Value.array (message.states.map ofRecord)).encode message.states :=
    reads_readArray fits.1 fun record member => reads_readDeltaRecord (fits.2 record member)
  exact .cons (by decide) (reads_readField_version bound message.version rfl) <|
    .cons (by decide) (reads_readField_states rfl states) (.nil _)

theorem reads_read (bound : Nat) {message : StateMessage} (fits : message.Fits) :
    Reads (read bound) message.encode message := by
  intro rest
  have few : 2 < UInt64.size := by decide
  have fields := (takes_readField bound fits).reads_readRecord bound few
  unfold read encode toValue
  rw [fields rest]

/-- What a receiver makes of a message that stands in front of some bytes. -/
theorem decode_of_read {bytes rest : Bytes} {message : StateMessage}
    (taken : read bytes.length bytes = .ok (message, rest)) :
    decode bytes =
      if message.version ≠ protocolVersion then .error (.unsupportedVersion message.version)
      else if maxStates < message.states.length then .error (.tooManyStates message.states.length)
      else .ok message := by
  unfold decode checkSize
  simp only [taken, ← Nat.not_le]
  by_cases few : message.states.length ≤ maxStates <;> simp [few]

/-- Whatever a message holds and whatever follows it, its bytes are read back as it, and it
is then refused for its version or for the number of its records if need be, or else taken
with all that it holds. -/
theorem decode_encode_append {message : StateMessage} (fits : message.Fits) (rest : Bytes) :
    decode (message.encode ++ rest) =
      if message.version ≠ protocolVersion then .error (.unsupportedVersion message.version)
      else if maxStates < message.states.length then .error (.tooManyStates message.states.length)
      else .ok message :=
  decode_of_read (reads_read _ fits rest)

/-- A message with a nameless device, empty components and the highest number, and one of
another version, both with more bytes behind them. -/
theorem decode_encode_append_extremes :
    let record : DeltaRecord :=
      ⟨⟨⟨[]⟩⟩, .delete, 0, some 0xFFFFFFFFFFFFFFFF, some ⟨[[], [0xFF, 0]]⟩⟩
    decode ((StateMessage.mk 0 [record, record]).encode ++ [0xFF, 0]) = .ok ⟨0, [record, record]⟩ ∧
      decode ((StateMessage.mk 255 [record]).encode ++ [0]) =
        .error (.unsupportedVersion 255) := by
  intro record
  have whole : record.Fits := by
    refine ⟨by decide, ?_⟩
    intro locator named
    cases named
    decide
  refine ⟨decode_encode_append ⟨by decide, ?_⟩ _, decode_encode_append ⟨by decide, ?_⟩ _⟩
  · intro member among
    simp only [List.mem_cons, List.not_mem_nil, or_false, or_self] at among
    exact among ▸ whole
  · intro member among
    exact List.mem_singleton.mp among ▸ whole

/-- What is told of records is taken by its receiver, or refused for their number. -/
theorem decode_encode_ofStates {records : List DeltaRecord}
    (fits : ∀ record ∈ records, record.Fits) (short : records.length < UInt64.size) :
    decode (ofStates records).encode =
      if records.length ≤ maxStates then .ok (ofStates records)
      else .error (.tooManyStates records.length) := by
  have whole : (ofStates records).Fits := ⟨short, fits⟩
  have taken := reads_read (ofStates records).encode.length whole []
  rw [List.append_nil] at taken
  have spoken : (ofStates records).version = protocolVersion := rfl
  rw [decode_of_read taken, if_neg (not_not_intro spoken)]
  by_cases few : records.length ≤ maxStates
  · rw [if_pos few]
    exact if_neg (Nat.not_lt.mpr few)
  · rw [if_neg few]
    exact if_pos (Nat.lt_of_not_le few)

theorem decode_ofStates {records : List DeltaRecord} (fits : ∀ record ∈ records, record.Fits)
    (few : records.length ≤ maxStates) : decode (ofStates records).encode = .ok (ofStates records) := by
  rw [decode_encode_ofStates fits (Nat.lt_of_le_of_lt few (by decide)), if_pos few]

/-- The count in front of the records is told in 64 bits, so that what is sent of too many
records starts like a message with the first ones of them. -/
theorem exists_encode_eq (records : List DeltaRecord) :
    ∃ tail, (ofStates records).encode =
      (ofStates (records.take (records.length % UInt64.size))).encode ++ tail := by
  have short : records.length % UInt64.size ≤ records.length := Nat.mod_le _ _
  have count : Value.countHead 4 (records.map ofRecord).length =
      Value.countHead 4 ((records.take (records.length % UInt64.size)).map ofRecord).length := by
    unfold Value.countHead
    rw [List.length_map, List.length_map, List.length_take, Nat.min_eq_left short]
    congr 1
    apply UInt64.toNat_inj.mp
    rw [UInt64.toNat_ofNat', UInt64.toNat_ofNat', Nat.mod_mod]
  have items : Value.encodeItems (records.map ofRecord) =
      Value.encodeItems ((records.take (records.length % UInt64.size)).map ofRecord) ++
        Value.encodeItems ((records.drop (records.length % UInt64.size)).map ofRecord) := by
    rw [encodeItems_map, encodeItems_map, encodeItems_map, ← List.flatMap_append,
      List.take_append_drop]
  refine ⟨Value.encodeItems ((records.drop (records.length % UInt64.size)).map ofRecord), ?_⟩
  simp only [encode, toValue, ofStates, Value.record, List.map_cons, List.map_nil, Value.encode,
    Value.encodeEntries, List.length_cons, List.length_nil, count, items, List.append_assoc,
    List.append_nil]

/-- A receiver takes no record that was not sent. -/
theorem subset_of_decode {records : List DeltaRecord} (fits : ∀ record ∈ records, record.Fits)
    {message : StateMessage} (read : decode (ofStates records).encode = .ok message) :
    message.states ⊆ records := by
  obtain ⟨tail, encoded⟩ := exists_encode_eq records
  have short : (records.take (records.length % UInt64.size)).length < UInt64.size := by
    rw [List.length_take]
    exact Nat.lt_of_le_of_lt (Nat.min_le_left _ _) (Nat.mod_lt _ (by decide))
  have whole : (ofStates (records.take (records.length % UInt64.size))).Fits :=
    ⟨short, fun record member => fits record (List.mem_of_mem_take member)⟩
  rw [encoded] at read
  unfold decode at read
  rw [reads_read _ whole tail] at read
  simp only [ofStates, ne_eq, not_true_eq_false, if_false] at read
  split at read
  · cases read
  · cases read
    exact List.take_subset _ _

end StateMessage

end DigestSync
