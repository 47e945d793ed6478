import DigestSync.Cbor.Read
import DigestSync.Proofs.Cbor.Head
import DigestSync.Proofs.Data.Utf8
import Mathlib.Data.List.Forall2

set_option autoImplicit false

/-! # Reading values back

Each kind of value is read back from its written form: numbers, strings, lists whose
items are read back, and records whose fields are read back one after the other.  None
of this depends on the bound of a reader, which matters for indefinite lengths alone.
-/

namespace DigestSync.Cbor

section

variable {α σ : Type} {bound : Nat}

/-! ## Numbers and strings -/

theorem reads_readUnsigned (bound : Nat) (value : UInt64) :
    Reads (readUnsigned bound) (Value.unsigned value).encode value := by
  intro rest
  have read := reads_readHead_unsigned value rest
  rw [Value.encode]
  unfold readUnsigned
  split
  · rename_i fault failed
    rw [read] at failed
    cases failed
  · rename_i other tail found
    rw [read] at found
    cases found
    rfl
  · rename_i number tail found
    rw [read] at found
    cases found
  · rename_i different tagless found
    rw [read] at found
    cases found
    exact (different value rest rfl).elim

theorem reads_readUInt8 (bound : Nat) (value : UInt8) :
    Reads (readUInt8 bound) (Value.unsigned value.toUInt64).encode value := by
  intro rest
  have small : value.toUInt64 < 256 := by
    apply UInt64.lt_iff_toNat_lt.mpr
    rw [UInt8.toNat_toUInt64]
    exact value.toNat_lt
  unfold readUInt8
  simp only [reads_readUnsigned bound value.toUInt64 rest, if_pos small, UInt8.toUInt8_toUInt64]

theorem reads_readByteString (bound : Nat) (content : Bytes) :
    Reads (readByteString bound (some content.length)) content content := by
  intro rest
  unfold readByteString readString addPiece
  simp [reads_readBytes content rest]

/-! ## Names of fields and alternatives -/

/-- The text can be read as the name of a field. -/
def IsIdentifier (key : String) : Prop :=
  (Bytes.ofText key).length ≤ blockSize ∧ Utf8.valid (Bytes.ofText key) = true

/-- The bytes of a text are always valid, so that its length is all there is to check. -/
theorem isIdentifier_iff {key : String} :
    (Bytes.ofText key).length ≤ blockSize ↔ IsIdentifier key :=
  ⟨fun short => ⟨short, Utf8.valid_ofText key⟩, And.left⟩

instance (key : String) : Decidable (IsIdentifier key) := decidable_of_iff _ isIdentifier_iff

variable {key : String}

theorem reads_identifierAfter (short : (Bytes.ofText key).length ≤ blockSize) :
    Reads (identifierAfter (.text (some (Bytes.ofText key).length))) (Bytes.ofText key)
      (Bytes.ofText key) := by
  intro rest
  unfold identifierAfter readShortText
  simp only [if_pos short, reads_readBytes (Bytes.ofText key) rest, Utf8.valid_ofText, if_true]

/-- A short text is read as the name of a field, in whichever way its length is written. -/
theorem reads_readIdentifier_of_isHead {front : Bytes}
    (written : IsHead 3 (Bytes.ofText key).length front)
    (short : (Bytes.ofText key).length ≤ blockSize) :
    Reads readIdentifier (front ++ Bytes.ofText key) (Bytes.ofText key) := by
  intro rest
  unfold readIdentifier
  rw [List.append_assoc]
  simp only [written.reads_readUntagged_text _, reads_identifierAfter short rest]

theorem IsIdentifier.isHead (identifier : IsIdentifier key) :
    IsHead 3 (Bytes.ofText key).length (Value.countHead 3 (Bytes.ofText key).length) :=
  isHead_countHead 3 (Nat.lt_of_le_of_lt identifier.1 (by decide))

theorem reads_readIdentifier (identifier : IsIdentifier key) :
    Reads readIdentifier (Value.text key).encode (Bytes.ofText key) := by
  unfold Value.encode Value.encodeText
  exact reads_readIdentifier_of_isHead identifier.isHead identifier.1

theorem reads_readAlternative (identifier : IsIdentifier key) :
    Reads readAlternative (Value.text key).encode (Bytes.ofText key) := by
  intro rest
  unfold readAlternative Value.encode Value.encodeText
  rw [List.append_assoc]
  simp only [identifier.isHead.reads_readUntagged_text _, reads_identifierAfter identifier.1 rest]

/-! ## Lists -/

theorem encodeItems_map (form : α → Value) (values : List α) :
    Value.encodeItems (values.map form) = values.flatMap fun value => (form value).encode := by
  induction values with
  | nil => rfl
  | cons value rest ih =>
    rw [List.map_cons, Value.encodeItems, ih, List.flatMap_cons]

/-- Items that are added one by one are collected in reverse. -/
theorem reads_foldCount_collect {step : List α → Reader (List α)} {values : List α}
    {forms : List Bytes}
    (adds : List.Forall₂ (fun value form => ∀ found, Reads (step found) form (value :: found))
      values forms)
    (found : List α) :
    Reads (foldCount step values.length found) forms.flatten (values.reverse ++ found) := by
  intro rest
  induction adds generalizing found with
  | nil => rfl
  | cons here _ ih =>
    rw [List.length_cons, List.flatten_cons, List.append_assoc]
    unfold foldCount
    simp only [here found _, ih, List.reverse_cons, List.append_assoc, List.singleton_append]

theorem reads_readItems {item : Reader α} {values : List α} {forms : List Bytes}
    (reads : List.Forall₂ (fun value form => Reads item form value) values forms) :
    Reads (readItems bound (some values.length) item) forms.flatten values := by
  intro rest
  unfold readItems foldItems
  simp only
  rw [reads_foldCount_collect _ [] rest]
  · simp only [List.append_nil, List.reverse_reverse]
  · refine reads.imp ?_
    intro value form read found tail
    simp only [read tail]

/-- A list is read from the forms of its items, if each item is read from its own. -/
theorem reads_readArray_of_forms {item : Reader α} {values : List α} {forms : List Bytes}
    {front : Bytes} (counted : IsHead 4 values.length front)
    (reads : List.Forall₂ (fun value form => Reads item form value) values forms) :
    Reads (readArray bound item) (front ++ forms.flatten) values := by
  intro rest
  unfold readArray
  rw [List.append_assoc]
  simp only [counted.reads_readUntagged_array _, reads_readItems reads rest]

/-- A list whose items are read back is read back. -/
theorem reads_readArray {item : Reader α} {form : α → Value} {values : List α}
    (fits : values.length < UInt64.size)
    (reads : ∀ value ∈ values, Reads item (form value).encode value) :
    Reads (readArray bound item) (Value.array (values.map form)).encode values := by
  have forms : List.Forall₂ (fun value bytes => Reads item bytes value) values
      (values.map fun value => (form value).encode) := by
    rw [List.forall₂_map_right_iff, List.forall₂_same]
    exact reads
  rw [Value.encode, List.length_map, encodeItems_map, List.flatMap_def]
  exact reads_readArray_of_forms (isHead_countHead 4 fits) forms

/-! ## Options -/

/-- The bytes start with the head of an item that is there. -/
def IsFilled (front : Bytes) : Prop :=
  ∀ rest, ∃ head tail, readHead (front ++ rest) = .ok (head, tail) ∧ ∀ code, head ≠ .simple code

theorem reads_readOption_null {item : Reader α} :
    Reads (readOption item) Value.null.encode none := by
  intro rest
  have head : readHead ([0xF6] ++ rest) = .ok (.simple 22, rest) := rfl
  unfold readOption Value.encode
  simp only [head]
  rfl

theorem reads_readOption_some {item : Reader α} {front : Bytes} {value : α}
    (filled : IsFilled front) (reads : Reads item front value) :
    Reads (readOption item) front (some value) := by
  intro rest
  obtain ⟨head, tail, read, present⟩ := filled rest
  unfold readOption
  rw [read]
  split
  · rename_i failed
    cases failed
  · rename_i code after found
    cases found
    exact absurd rfl (present code)
  · rw [reads rest]

theorem isFilled_unsigned (value : UInt64) : IsFilled (Value.unsigned value).encode := by
  intro rest
  unfold Value.encode
  refine ⟨_, _, reads_readHead_unsigned value rest, ?_⟩
  intro code simple
  cases simple

theorem isFilled_array {items : List Value} (fits : items.length < UInt64.size) :
    IsFilled (Value.array items).encode := by
  intro rest
  unfold Value.encode
  rw [List.append_assoc]
  refine ⟨_, _, (isHead_countHead 4 fits).reads_array _, ?_⟩
  intro code simple
  cases simple

/-- An optional value is read back if it is read back where it is there. -/
theorem reads_readOption {item : Reader α} {form : α → Value} {content : Option α}
    (filled : ∀ value ∈ content, IsFilled (form value).encode)
    (reads : ∀ value ∈ content, Reads item (form value).encode value) :
    Reads (readOption item) (Value.option form content).encode content := by
  cases content with
  | none => exact reads_readOption_null
  | some value => exact reads_readOption_some (filled value rfl) (reads value rfl)

/-! ## Records -/

theorem reads_readOnce {value : Reader α} {store : α → σ} {front : Bytes} {content : α}
    (reads : Reads value front content) :
    Reads (readOnce none value store) front (store content) := by
  intro rest
  unfold readOnce
  simp only [reads rest]

/-- Reading the values of some fields one after the other leads from a state to another. -/
inductive Takes (field : Bytes → σ → Reader σ) : σ → List (String × Value) → σ → Prop where
  | nil (state : σ) : Takes field state [] state
  | cons {state next final : σ} {key : String} {value : Value} {rest : List (String × Value)} :
      IsIdentifier key → Reads (field (Bytes.ofText key) state) value.encode next →
      Takes field next rest final → Takes field state ((key, value) :: rest) final

theorem Takes.foldCount_eq {field : Bytes → σ → Reader σ} {state final : σ}
    {fields : List (String × Value)} (takes : Takes field state fields final) (rest : Bytes) :
    foldCount
        (fun state rest =>
          match readIdentifier rest with
          | .error fault => .error fault
          | .ok (key, rest) => field key state rest)
        fields.length state
        (Value.encodeEntries (fields.map fun field => (.text field.1, field.2)) ++ rest) =
      .ok (final, rest) := by
  induction takes with
  | nil state => rfl
  | cons identifier reads _ ih =>
    rw [List.length_cons, List.map_cons, Value.encodeEntries, List.append_assoc, List.append_assoc]
    unfold foldCount
    simp only [reads_readIdentifier identifier _, reads _, ih]

/-- A record is read back if its fields are, one after the other. -/
theorem Takes.reads_readRecord {field : Bytes → σ → Reader σ} {start final : σ}
    {fields : List (String × Value)} (takes : Takes field start fields final) (bound : Nat)
    (fits : fields.length < UInt64.size) :
    Reads (readRecord bound field start) (Value.record fields).encode final := by
  intro rest
  have head := (isHead_countHead 5 fits).reads_readUntagged_map
  unfold readRecord Value.record Value.encode foldItems
  rw [List.length_map, List.append_assoc]
  simp only [head _]
  exact takes.foldCount_eq rest

end

end DigestSync.Cbor
