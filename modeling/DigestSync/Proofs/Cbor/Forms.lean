import DigestSync.Cbor.Forms
import DigestSync.Proofs.Cbor.Read

set_option autoImplicit false

/-! # Reading the domain's values back

Names, kinds of change and delta records are read back from their forms.  The one
condition is that 64 bits can tell the lengths that are written, as they can for all that
a memory holds.
-/

namespace DigestSync

/-- The lengths of the name and of its components can be told in 64 bits. -/
def Name.Fits (name : Name) : Prop :=
  name.components.length < UInt64.size ∧
    ∀ component ∈ name.components, component.length < UInt64.size

instance (name : Name) : Decidable name.Fits := inferInstanceAs (Decidable (_ ∧ _))

/-- The lengths of the names in the record can be told in 64 bits. -/
def DeltaRecord.Fits (record : DeltaRecord) : Prop :=
  record.device.name.Fits ∧ ∀ locator ∈ record.locator, locator.Fits

namespace Cbor

variable {bound depth : Nat}

/-! ## Names and kinds -/

theorem reads_readComponent {component : Bytes} (fits : component.length < UInt64.size) :
    Reads (readComponent bound) (Value.bytes component).encode component := by
  intro rest
  have head := (isHead_countHead 2 fits).reads_readUntagged_bytes
  unfold readComponent Value.encode
  rw [List.append_assoc]
  simp only [head _, reads_readByteString bound component rest]

theorem reads_readName {name : Name} (fits : name.Fits) :
    Reads (readName bound) (ofName name).encode name := by
  intro rest
  have components : Reads (readArray bound (readComponent bound)) (ofName name).encode
      name.components :=
    reads_readArray fits.1 fun component member => reads_readComponent (fits.2 component member)
  unfold readName
  simp only [components rest]

theorem reads_readDevice {device : DeviceId} (fits : device.name.Fits) :
    Reads (readDevice bound) (ofDevice device).encode device := by
  intro rest
  have name : Reads (readName bound) (ofDevice device).encode device.name := reads_readName fits
  unfold readDevice
  simp only [name rest]

theorem isFilled_ofName {name : Name} (fits : name.Fits) : IsFilled (ofName name).encode := by
  apply isFilled_array
  rw [List.length_map]
  exact fits.1

/-- Texts with the same UTF-8 form are the same. -/
theorem ofText_injective {left right : String} (same : Bytes.ofText left = Bytes.ofText right) :
    left = right := by
  have encoded : left.toList.utf8Encode = right.toList.utf8Encode := congrArg List.toByteArray same
  rw [String.utf8Encode_toList, String.utf8Encode_toList] at encoded
  exact String.toByteArray_inj.mp encoded

theorem isField_iff {key field : String} : isField (Bytes.ofText key) field = true ↔ key = field := by
  unfold isField
  rw [beq_iff_eq]
  exact ⟨ofText_injective, congrArg Bytes.ofText⟩

/-- The text of an alternative is read as what it stands for. -/
theorem reads_readNamed {α : Type} {alternatives : List (String × α)} {text : String} {value : α}
    (identifier : IsIdentifier text)
    (found : alternatives.find? (fun alternative => text = alternative.1) = some (text, value)) :
    Reads (readNamed alternatives) (Value.text text).encode value := by
  intro rest
  have named : (fun alternative : String × α => isField (Bytes.ofText text) alternative.1) =
      fun alternative => decide (text = alternative.1) := by
    funext alternative
    rw [Bool.eq_iff_iff, isField_iff, decide_eq_true_eq]
  unfold readNamed
  simp only [reads_readAlternative identifier rest, named, found]

theorem reads_readKind (kind : ChangeKind) :
    Reads readKind (Value.text (kindText kind)).encode kind := by
  apply reads_readNamed
  · cases kind <;> decide
  · cases kind <;> rfl

/-! ## Records -/

section

variable {fields : RecordFields}

theorem reads_readField_device {device : DeviceId} (fits : device.name.Fits)
    (fresh : fields.device = none) :
    Reads (RecordFields.readField bound depth (Bytes.ofText "device") fields)
      (ofDevice device).encode { fields with device := some device } := by
  simp only [RecordFields.readField, isField_iff, String.reduceEq, if_true, fresh]
  exact reads_readOnce (reads_readDevice fits)

theorem reads_readField_kind (kind : ChangeKind) (fresh : fields.kind = none) :
    Reads (RecordFields.readField bound depth (Bytes.ofText "kind") fields)
      (Value.text (kindText kind)).encode { fields with kind := some kind } := by
  simp only [RecordFields.readField, isField_iff, String.reduceEq, if_true, if_false, fresh]
  exact reads_readOnce (reads_readKind kind)

theorem reads_readField_seq (seq : Seq) (fresh : fields.seq = none) :
    Reads (RecordFields.readField bound depth (Bytes.ofText "seq") fields)
      (Value.unsigned seq).encode { fields with seq := some seq } := by
  simp only [RecordFields.readField, isField_iff, String.reduceEq, if_true, if_false, fresh]
  exact reads_readOnce (reads_readUnsigned bound seq)

theorem reads_readField_oldSeq (oldSeq : Option Seq) (fresh : fields.oldSeq = none) :
    Reads (RecordFields.readField bound depth (Bytes.ofText "old_seq") fields)
      (Value.option .unsigned oldSeq).encode { fields with oldSeq := some oldSeq } := by
  simp only [RecordFields.readField, isField_iff, String.reduceEq, if_true, if_false, fresh]
  exact reads_readOnce (reads_readOption (fun value _ => isFilled_unsigned value)
    fun value _ => reads_readUnsigned bound value)

theorem reads_readField_locator {locator : Option Name} (fits : ∀ name ∈ locator, name.Fits)
    (fresh : fields.locator = none) :
    Reads (RecordFields.readField bound depth (Bytes.ofText "locator") fields)
      (Value.option ofName locator).encode { fields with locator := some locator } := by
  simp only [RecordFields.readField, isField_iff, String.reduceEq, if_true, if_false, fresh]
  exact reads_readOnce (reads_readOption (fun name there => isFilled_ofName (fits name there))
    fun name there => reads_readName (fits name there))

end

/-- The fields of a record are read one after the other. -/
theorem takes_readField (bound depth : Nat) {record : DeltaRecord} (fits : record.Fits) :
    Takes (RecordFields.readField bound depth) .none
      [("device", ofDevice record.device), ("kind", .text (kindText record.kind)),
        ("seq", .unsigned record.seq), ("old_seq", .option .unsigned record.oldSeq),
        ("locator", .option ofName record.locator)]
      ⟨some record.device, some record.kind, some record.seq, some record.oldSeq,
        some record.locator⟩ :=
  .cons (by decide) (reads_readField_device fits.1 rfl) <|
    .cons (by decide) (reads_readField_kind record.kind rfl) <|
    .cons (by decide) (reads_readField_seq record.seq rfl) <|
    .cons (by decide) (reads_readField_oldSeq record.oldSeq rfl) <|
    .cons (by decide) (reads_readField_locator fits.2 rfl) (.nil _)

theorem reads_readDeltaRecord {record : DeltaRecord} (fits : record.Fits) :
    Reads (readDeltaRecord bound depth) (ofRecord record).encode record := by
  intro rest
  have few : 5 < UInt64.size := by decide
  have fields := (takes_readField bound depth fits).reads_readRecord bound few
  unfold readDeltaRecord ofRecord
  rw [fields rest]
  rfl

end Cbor

end DigestSync
