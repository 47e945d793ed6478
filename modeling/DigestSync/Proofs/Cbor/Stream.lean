import DigestSync.Cbor.Forms
import DigestSync.Proofs.Cbor.Head

set_option autoImplicit false

/-! # Reading as a stream

A reader takes its input from front to back and says what it says as soon as it can: what
it makes of some bytes goes for every longer input that starts with them, unless it ran out
of bytes.  This is so for every reader of items, however they are written, and so a whole
item cannot be mistaken for the beginning of a longer one.
-/

namespace DigestSync.Cbor

section

variable {α β σ : Type} {tail : Bytes}

/-- What is said of a longer input goes back to what was said of a shorter one: the input
was too short to tell, or the fault or value is the same and the tail is left unread. -/
def Extends (tail : Bytes) (short long : Except Fault (α × Bytes)) : Prop :=
  short = .error .truncated ∨ (∃ fault, short = .error fault ∧ long = .error fault) ∨
    ∃ value rest, short = .ok (value, rest) ∧ long = .ok (value, rest ++ tail)

theorem extends_truncated (long : Except Fault (α × Bytes)) :
    Extends tail (.error .truncated) long := Or.inl rfl

theorem extends_error (fault : Fault) : Extends (α := α) tail (.error fault) (.error fault) :=
  Or.inr (Or.inl ⟨fault, rfl, rfl⟩)

theorem extends_ok (value : α) (rest : Bytes) :
    Extends tail (.ok (value, rest)) (.ok (value, rest ++ tail)) :=
  Or.inr (Or.inr ⟨value, rest, rfl, rfl⟩)

/-- What the reader says of an input goes for every longer one. -/
def Streams (reader : Reader α) : Prop :=
  ∀ front tail, Extends tail (reader front) (reader (front ++ tail))

theorem streams_ok (value : α) : Streams fun input => .ok (value, input) :=
  fun _ _ => extends_ok _ _

theorem streams_error (fault : Fault) : Streams (α := α) fun _ => .error fault :=
  fun _ _ => extends_error fault

theorem streams_ite (condition : Prop) [Decidable condition] {yes no : Reader α}
    (here : Streams yes) (there : Streams no) :
    Streams fun input => if condition then yes input else no input := by
  intro front tail
  by_cases holds : condition
  · simp only [if_pos holds]
    exact here front tail
  · simp only [if_neg holds]
    exact there front tail

/-- A reader that starts with another one, and fails where that one fails, need only be
looked at where the other one has succeeded on both inputs. -/
theorem Streams.step {reader : Reader α} {whole : Reader β} (first : Streams reader)
    (failed : ∀ input fault, reader input = .error fault → whole input = .error fault)
    (later : ∀ front tail value rest, reader front = .ok (value, rest) →
      reader (front ++ tail) = .ok (value, rest ++ tail) →
      Extends tail (whole front) (whole (front ++ tail))) : Streams whole := by
  intro front tail
  rcases first front tail with short | ⟨fault, here, there⟩ | ⟨value, rest, here, there⟩
  · rw [failed _ _ short]
    exact extends_truncated _
  · rw [failed _ _ here, failed _ _ there]
    exact extends_error fault
  · exact later front tail value rest here there

/-- Two readers one after the other. -/
theorem Streams.andThen {reader : Reader α} {whole : Reader β} {next : α → Reader β}
    (first : Streams reader) (later : ∀ value, Streams (next value))
    (composed : ∀ input, whole input =
      match reader input with
      | .error fault => .error fault
      | .ok (value, rest) => next value rest) : Streams whole := by
  refine first.step (fun input fault failed => by rw [composed, failed]) ?_
  intro front tail value rest here there
  rw [composed, composed, here, there]
  exact later value rest tail

/-- What is read from the whole of some bytes cannot be told from less of them. -/
theorem Streams.eq_truncated {reader : Reader α} (streams : Streams reader) {front whole : Bytes}
    {value : α} (reads : Reads reader whole value) (cut : front <+: whole)
    (shorter : front ≠ whole) : reader front = .error .truncated := by
  obtain ⟨tail, rfl⟩ := cut
  have read : reader (front ++ tail) = .ok (value, []) := by
    rw [← reads [], List.append_nil]
  rcases streams front tail with short | ⟨fault, -, there⟩ | ⟨other, rest, -, there⟩
  · exact short
  · rw [read] at there
    cases there
  · -- Nothing is left over, so that nothing was cut off.
    rw [read, Except.ok.injEq, Prod.mk.injEq] at there
    have none : tail = [] := (List.append_eq_nil_iff.mp there.2.symm).2
    rw [none, List.append_nil] at shorter
    exact absurd rfl shorter

/-! ## Heads -/

theorem streams_readBytes (count : Nat) : Streams (readBytes count) := by
  intro front tail
  unfold readBytes
  by_cases enough : count ≤ front.length
  · simp only [List.take_append_of_le_length enough, List.drop_append_of_le_length enough,
      List.length_take_of_le enough, if_true]
    exact extends_ok _ _
  · have short : (front.take count).length ≠ count := by
      rw [List.length_take]
      omega
    simp only [if_neg short]
    exact extends_truncated _

theorem streams_readNumber (count : Nat) : Streams (readNumber count) :=
  (streams_readBytes count).andThen (fun digits => streams_ok digits.toNatBE) fun input => by
    unfold readNumber
    cases readBytes count input <;> rfl

theorem streams_wide (count : Nat) :
    Streams fun input =>
      match readNumber count input with
      | .error fault => .error fault
      | .ok (value, rest) => .ok (some (UInt64.ofNat value), rest) :=
  (streams_readNumber count).andThen (fun value => streams_ok (some (UInt64.ofNat value)))
    fun input => by cases readNumber count input <;> rfl

theorem streams_readArgument (low : UInt8) : Streams (readArgument low) :=
  streams_ite _ (streams_ok _) <| streams_ite _ (streams_wide 1) <|
    streams_ite _ (streams_wide 2) <| streams_ite _ (streams_wide 4) <|
    streams_ite _ (streams_wide 8) <| streams_ite _ (streams_ok none) (streams_error .illFormed)

theorem streams_headAfter (first : UInt8) :
    Streams fun input =>
      match readArgument (first % 32) input with
      | .error fault => .error fault
      | .ok (argument, rest) =>
        match headOf (first / 32) (first % 32) argument with
        | none => .error .illFormed
        | some head => .ok (head, rest) := by
  refine (streams_readArgument (first % 32)).step (fun input fault failed => by rw [failed]) ?_
  intro front tail argument rest here there
  rw [here, there]
  dsimp only
  cases headOf (first / 32) (first % 32) argument with
  | none => exact extends_error _
  | some head => exact extends_ok _ _

theorem streams_readHead : Streams readHead := by
  intro front tail
  cases front with
  | nil => exact extends_truncated _
  | cons first input => exact streams_headAfter first input tail

theorem readUntagged_eq (input : Bytes) :
    readUntagged input =
      match readHead input with
      | .error fault => .error fault
      | .ok (.tag _, rest) => readUntagged rest
      | .ok (head, rest) => .ok (head, rest) := by
  rw [readUntagged]
  split <;> simp_all

theorem streams_readUntagged : Streams readUntagged := by
  intro front tail
  induction size : front.length using Nat.strongRecOn generalizing front with
  | _ size ih =>
    rw [readUntagged_eq, readUntagged_eq]
    rcases streams_readHead front tail with short | ⟨fault, here, there⟩ | ⟨head, rest, here, there⟩
    · rw [short]
      exact extends_truncated _
    · rw [here, there]
      exact extends_error fault
    · rw [here, there]
      cases head with
      | tag number => exact ih rest.length (size ▸ length_of_readHead here) rest rfl
      | _ => exact extends_ok _ _

/-! ## Loops -/

theorem streams_foldCount {step : σ → Reader σ} (each : ∀ state, Streams (step state))
    (count : Nat) (state : σ) : Streams (foldCount step count state) := by
  induction count generalizing state with
  | zero => exact streams_ok state
  | succ count ih =>
    exact (each state).andThen ih fun input => by
      cases read : step state input <;> simp only [foldCount, read]

theorem streams_foldUntilStop {step : σ → Reader σ} (each : ∀ state, Streams (step state))
    (bound : Nat) (state : σ) : Streams (foldUntilStop step bound state) := by
  induction bound generalizing state with
  | zero => exact streams_error .truncated
  | succ bound ih =>
    refine streams_readHead.step (fun input fault failed => by rw [foldUntilStop, failed]) ?_
    intro front tail head rest here there
    have going : Streams fun input =>
        match step state input with
        | .error fault => .error fault
        | .ok (next, rest) => foldUntilStop step bound next rest :=
      (each state).andThen ih fun input => by cases step state input <;> rfl
    rw [foldUntilStop, foldUntilStop, here, there]
    cases head with
    | stop => exact extends_ok _ _
    | _ => exact going front tail

theorem streams_foldItems {step : σ → Reader σ} (each : ∀ state, Streams (step state))
    (bound : Nat) (count : Option Nat) (state : σ) :
    Streams (foldItems bound count step state) := by
  cases count with
  | none => exact streams_foldUntilStop each (bound + 1) state
  | some number => exact streams_foldCount each number state

theorem streams_readItems {item : Reader α} (bound : Nat) (count : Option Nat)
    (each : Streams item) : Streams (readItems bound count item) := by
  have step (found : List α) : Streams fun rest =>
      match item rest with
      | .error fault => .error fault
      | .ok (next, rest) => .ok (next :: found, rest) :=
    each.andThen (fun next => streams_ok (next :: found)) fun input => by cases item input <;> rfl
  refine (streams_foldItems step bound count []).andThen
    (fun found => streams_ok found.reverse) fun input => ?_
  unfold readItems
  dsimp only
  cases foldItems bound count _ [] input <;> rfl

/-! ## Strings -/

/-- What follows the head of a piece: the piece, or pieces that it consists of. -/
theorem streams_pieceAfter {piece : Nat → σ → Reader σ} {deeper : Reader σ}
    {onwards : σ → Reader σ} (each : ∀ size state, Streams (piece size state))
    (inside : Streams deeper) (later : ∀ state, Streams (onwards state))
    (length? : Option (Option Nat)) (state : σ) :
    Streams fun input =>
      match length? with
      | none => .error .illFormed
      | some none => deeper input
      | some (some size) =>
        match piece size state input with
        | .error fault => .error fault
        | .ok (next, rest) => onwards next rest := by
  cases length? with
  | none => exact streams_error .illFormed
  | some length =>
    cases length with
    | none => exact inside
    | some size => exact (each size state).andThen later fun input => by dsimp only

theorem streams_readPieces {length? : Head → Option (Option Nat)} {piece : Nat → σ → Reader σ}
    (each : ∀ size state, Streams (piece size state)) (bound underWay : Nat) (state : σ) :
    Streams (readPieces length? piece bound underWay state) := by
  induction bound generalizing underWay state with
  | zero => exact streams_error .truncated
  | succ bound ih =>
    refine streams_readHead.step (fun input fault failed => by rw [readPieces, failed]) ?_
    intro front tail head rest here there
    rw [readPieces, readPieces, here, there]
    cases head with
    | stop =>
      dsimp only
      split
      · exact extends_ok _ _
      · exact ih (underWay - 1) state rest tail
    | _ => exact streams_pieceAfter each (ih (underWay + 1) state) (ih underWay) _ state rest tail

theorem streams_readString {length? : Head → Option (Option Nat)} {piece : Nat → σ → Reader σ}
    (each : ∀ size state, Streams (piece size state)) (bound : Nat) (length : Option Nat)
    (state : σ) : Streams (readString bound length? piece length state) := by
  cases length with
  | none => exact streams_readPieces each (bound + 1) 1 state
  | some size => exact each size state

theorem streams_addPiece (size : Nat) (found : Bytes) : Streams (addPiece size found) :=
  (streams_readBytes size).andThen (fun piece => streams_ok (piece.reverseAux found))
    fun input => by
      unfold addPiece
      cases readBytes size input <;> rfl

theorem streams_readByteString (bound : Nat) (length : Option Nat) :
    Streams (readByteString bound length) :=
  (streams_readString streams_addPiece bound length []).andThen
    (fun found => streams_ok found.reverse) fun input => by
      unfold readByteString
      cases readString bound bytesLength? addPiece length [] input <;> rfl

theorem streams_readBlocks (room : σ → Nat) (step : σ → Bytes → Except Fault σ) (size : Nat)
    (state : σ) : Streams (readBlocks room step size state) := by
  induction size using Nat.strongRecOn generalizing state with
  | _ size ih =>
    by_cases empty : size = 0
    · intro front tail
      rw [readBlocks, readBlocks, if_pos empty, if_pos empty]
      exact extends_ok _ _
    · refine (streams_readBytes (min size (max 1 (room state)))).step
        (fun input fault failed => by rw [readBlocks, if_neg empty, failed]) ?_
      intro front tail block rest here there
      rw [readBlocks, readBlocks, if_neg empty, if_neg empty, here, there]
      dsimp only
      cases step state block with
      | error fault => exact extends_error fault
      | ok next => exact ih _ (by omega) next rest tail

theorem streams_checkTextPiece (size : Nat) (state : Unit) :
    Streams (checkTextPiece size state) :=
  (streams_readBlocks (fun carried => blockSize - carried.length) checkBlock size []).andThen
    (fun left => streams_ite (left.isEmpty = true) (streams_ok ()) (streams_error .illFormed))
    fun input => by
      unfold checkTextPiece
      cases readBlocks _ checkBlock size [] input <;> rfl

theorem streams_skipText (bound : Nat) (length : Option Nat) : Streams (skipText bound length) :=
  streams_readString streams_checkTextPiece bound length ()

theorem streams_readShortText (size : Nat) : Streams (readShortText size) :=
  (streams_readBytes size).andThen
    (fun content => streams_ite (Utf8.valid content = true) (streams_ok content)
      (streams_error .illFormed)) fun input => by
      unfold readShortText
      cases readBytes size input <;> rfl

/-! ## Integers -/

theorem streams_digitsAfter (bound : Nat) (length : Option Nat) :
    Streams fun input =>
      match readString bound bytesLength?
        (fun size digits => readBlocks (fun _ => 16) takeDigits size digits) length [] input with
      | .error fault => .error fault
      | .ok (digits, rest) => .ok (Bytes.toNatBE digits, rest) :=
  (streams_readString (streams_readBlocks (fun _ => 16) takeDigits) bound length []).andThen
    (fun digits => streams_ok digits.toNatBE) fun input => by
      cases readString bound bytesLength? _ length [] input <;> rfl

theorem streams_readLongNumber (bound : Nat) : Streams (readLongNumber bound) := by
  refine streams_readHead.step (fun input fault failed => by rw [readLongNumber, failed]) ?_
  intro front tail head rest here there
  rw [readLongNumber, readLongNumber, here, there]
  cases head with
  | bytes length => exact streams_digitsAfter bound length rest tail
  | _ => exact extends_error _

theorem readUnsigned_eq (bound : Nat) (input : Bytes) :
    readUnsigned bound input =
      match readHead input with
      | .error fault => .error fault
      | .ok (.unsigned value, rest) => .ok (value, rest)
      | .ok (.tag number, rest) =>
        if number = 2 then
          match readLongNumber bound rest with
          | .error fault => .error fault
          | .ok (value, rest) =>
            if value < UInt64.size then .ok (UInt64.ofNat value, rest) else .error .unexpected
        else if number = 3 then
          match readLongNumber bound rest with
          | .error fault => .error fault
          | .ok _ => .error .unexpected
        else readUnsigned bound rest
      | .ok _ => .error .unexpected := by
  rw [readUnsigned]
  split
  · simp_all
  · simp_all
  · rename_i number rest read
    cases digits : readLongNumber bound rest <;> simp only [read, digits]
  · simp_all

theorem streams_readUnsigned (bound : Nat) : Streams (readUnsigned bound) := by
  have positive : Streams fun input =>
      match readLongNumber bound input with
      | .error fault => .error fault
      | .ok (value, rest) =>
        if value < UInt64.size then .ok (UInt64.ofNat value, rest) else .error .unexpected :=
    (streams_readLongNumber bound).andThen
      (fun value => streams_ite (value < UInt64.size) (streams_ok (UInt64.ofNat value))
        (streams_error .unexpected)) fun input => by cases readLongNumber bound input <;> rfl
  have negative : Streams (α := UInt64) fun input =>
      match readLongNumber bound input with
      | .error fault => .error fault
      | .ok _ => .error .unexpected :=
    (streams_readLongNumber bound).andThen (fun _ => streams_error .unexpected) fun input => by
      cases readLongNumber bound input <;> rfl
  intro front tail
  induction size : front.length using Nat.strongRecOn generalizing front with
  | _ size ih =>
    rw [readUnsigned_eq, readUnsigned_eq]
    rcases streams_readHead front tail with short | ⟨fault, here, there⟩ | ⟨head, rest, here, there⟩
    · rw [short]
      exact extends_truncated _
    · rw [here, there]
      exact extends_error fault
    · rw [here, there]
      cases head with
      | unsigned value => exact extends_ok _ _
      | tag number =>
        dsimp only
        split
        · exact positive rest tail
        · split
          · exact negative rest tail
          · exact ih rest.length (size ▸ length_of_readHead here) rest rfl
      | _ => exact extends_error _

theorem streams_readUInt8 (bound : Nat) : Streams (readUInt8 bound) :=
  (streams_readUnsigned bound).andThen
    (fun value => streams_ite (value < 256) (streams_ok value.toUInt8)
      (streams_error .unexpected)) fun input => by
      unfold readUInt8
      cases readUnsigned bound input <;> rfl

/-! ## Containers -/

/-- An empty byte string counts as an empty list. -/
theorem streams_emptyAfter (bound : Nat) (length : Option Nat) :
    Streams (α := List α) fun input =>
      match readByteString bound length input with
      | .error fault => .error fault
      | .ok (content, rest) => if content.isEmpty then .ok ([], rest) else .error .unexpected :=
  (streams_readByteString bound length).andThen
    (fun content => streams_ite (content.isEmpty = true) (streams_ok [])
      (streams_error .unexpected)) fun input => by
      cases readByteString bound length input <;> rfl

theorem streams_readArray {item : Reader α} (bound : Nat) (each : Streams item) :
    Streams (readArray bound item) := by
  refine streams_readUntagged.step (fun input fault failed => by rw [readArray, failed]) ?_
  intro front tail head rest here there
  rw [readArray, readArray, here, there]
  cases head with
  | array count => exact streams_readItems bound count each rest tail
  | bytes length => exact streams_emptyAfter bound length rest tail
  | _ => exact extends_error _

theorem streams_readOption {item : Reader α} (each : Streams item) :
    Streams (readOption item) := by
  have present : Streams fun input =>
      match item input with
      | .error fault => .error fault
      | .ok (content, rest) => .ok (some content, rest) :=
    each.andThen (fun content => streams_ok (some content)) fun input => by
      cases item input <;> rfl
  refine streams_readHead.step (fun input fault failed => by rw [readOption, failed]) ?_
  intro front tail head rest here there
  rw [readOption, readOption, here, there]
  cases head with
  | simple value =>
    dsimp only
    split
    · exact extends_ok _ _
    · exact present front tail
  | _ => exact present front tail

theorem streams_identifierAfter (head : Head) : Streams (identifierAfter head) := by
  unfold identifierAfter
  intro front tail
  dsimp only
  split
  · split
    · exact streams_readShortText _ front tail
    · exact extends_error _
  · split
    · exact streams_readBytes _ front tail
    · exact extends_error _
  · exact extends_error _

theorem streams_readIdentifier : Streams readIdentifier :=
  streams_readUntagged.andThen streams_identifierAfter fun input => by
    unfold readIdentifier
    cases readUntagged input <;> rfl

theorem streams_readAlternative : Streams readAlternative := by
  refine streams_readUntagged.step (fun input fault failed => by rw [readAlternative, failed]) ?_
  intro front tail head rest here there
  rw [readAlternative, readAlternative, here, there]
  cases head with
  | map count =>
    rcases count with _ | _ | _ | count
    · exact extends_error _
    · exact extends_error _
    · exact streams_readIdentifier rest tail
    · exact extends_error _
  | text length => exact streams_identifierAfter _ rest tail
  | _ => exact extends_error _

theorem streams_readRecord {field : Bytes → σ → Reader σ} (bound : Nat)
    (each : ∀ key state, Streams (field key state)) (start : σ) :
    Streams (readRecord bound field start) := by
  refine streams_readUntagged.step (fun input fault failed => by rw [readRecord, failed]) ?_
  intro front tail head rest here there
  rw [readRecord, readRecord, here, there]
  cases head with
  | map count =>
    refine streams_foldItems (fun state => ?_) bound count start rest tail
    exact streams_readIdentifier.andThen (each · state) fun input => by
      cases readIdentifier input <;> rfl
  | _ => exact extends_error _

theorem streams_readOnce {value : Reader α} {present : Option α} {store : α → σ}
    (reads : Streams value) : Streams (readOnce present value store) := by
  cases present with
  | some _ => exact streams_error .unexpected
  | none =>
    exact reads.andThen (fun content => streams_ok (store content)) fun input => by
      unfold readOnce
      cases value input <;> rfl

/-! ## Passing over an item -/

theorem streams_skipLongNumber (negative : Bool) (size : Nat) :
    Streams (skipLongNumber negative size) :=
  (streams_readBytes size).andThen
    (fun digits => streams_ite (negative = true ∧ 1 <<< 127 ≤ Bytes.toNatBE digits)
      (streams_error .unexpected) (streams_ok ())) fun input => by
      unfold skipLongNumber
      cases readBytes size input <;> rfl

theorem streams_pass {content : Reader Bytes} (reads : Streams content) :
    Streams fun input =>
      match content input with
      | .error fault => .error fault
      | .ok (_, rest) => .ok ((), rest) :=
  reads.andThen (fun _ => streams_ok ()) fun input => by cases content input <;> rfl

theorem streams_twice {item : Reader Unit} (each : Streams item) :
    Streams fun input =>
      match item input with
      | .error fault => .error fault
      | .ok (_, rest) => item rest :=
  each.andThen (fun _ => each) fun input => by cases item input <;> rfl

theorem streams_skipWith (bound : Nat) {inner : Option (Reader Unit)}
    (inside : ∀ item ∈ inner, Streams item) : Streams (skipWith bound inner) := by
  refine streams_readHead.step (fun input fault failed => by rw [skipWith, failed]) ?_
  intro front tail head rest here there
  rw [skipWith, skipWith, here, there]
  cases head with
  | unsigned value => exact extends_ok _ _
  | negative value => exact extends_ok _ _
  | float => exact extends_ok _ _
  | bytes length => exact streams_pass (streams_readByteString bound length) rest tail
  | text length =>
    cases length with
    | none => exact streams_skipText bound none rest tail
    | some size =>
      dsimp only
      split
      · exact streams_pass (streams_readShortText size) rest tail
      · exact streams_skipText bound (some size) rest tail
  | array count =>
    cases inner with
    | none => exact extends_error _
    | some item => exact streams_foldItems (fun _ => inside item rfl) bound count () rest tail
  | map count =>
    cases inner with
    | none => exact extends_error _
    | some item =>
      exact streams_foldItems (fun _ => streams_twice (inside item rfl)) bound count () rest tail
  | tag number =>
    dsimp only
    rcases streams_readHead rest tail with short | ⟨fault, here, there⟩ |
      ⟨head, content, here, there⟩
    · rw [short]
      exact extends_truncated _
    · rw [here, there]
      exact extends_error fault
    · rw [here, there]
      dsimp only
      cases longNumberSize? number head with
      | some size => exact streams_skipLongNumber _ size content tail
      | none =>
        cases inner with
        | none => exact extends_error _
        | some item => exact inside item rfl rest tail
  | simple value =>
    dsimp only
    split
    · exact extends_ok _ _
    · exact extends_error _
  | stop => exact extends_error _

theorem streams_skip (bound depth : Nat) : Streams (skip bound depth) := by
  induction depth with
  | zero => exact streams_skipWith bound fun item member => nomatch member
  | succ depth ih =>
    apply streams_skipWith bound
    intro item member
    cases member
    exact ih

/-! ## The domain's values -/

variable {bound depth : Nat}

theorem streams_readComponent : Streams (readComponent bound) := by
  refine streams_readUntagged.step (fun input fault failed => by rw [readComponent, failed]) ?_
  intro front tail head rest here there
  rw [readComponent, readComponent, here, there]
  cases head with
  | bytes length => exact streams_readByteString bound length rest tail
  | array count => exact streams_readItems bound count (streams_readUInt8 bound) rest tail
  | _ => exact extends_error _

theorem streams_readName : Streams (readName bound) :=
  (streams_readArray bound streams_readComponent).andThen
    (fun components => streams_ok (Name.mk components)) fun input => by
      unfold readName
      cases readArray bound (readComponent bound) input <;> rfl

theorem streams_readDevice : Streams (readDevice bound) :=
  streams_readName.andThen (fun name => streams_ok (DeviceId.mk name)) fun input => by
    unfold readDevice
    cases readName bound input <;> rfl

theorem streams_readNamed (alternatives : List (String × α)) :
    Streams (readNamed alternatives) := by
  refine streams_readAlternative.step (fun input fault failed => by rw [readNamed, failed]) ?_
  intro front tail key rest here there
  rw [readNamed, readNamed, here, there]
  dsimp only
  cases alternatives.find? fun alternative => isField key alternative.1 with
  | none => exact extends_error _
  | some alternative => exact extends_ok _ _

theorem streams_readField (key : Bytes) (fields : RecordFields) :
    Streams (RecordFields.readField bound depth key fields) := by
  unfold RecordFields.readField
  split
  · exact streams_readOnce streams_readDevice
  · split
    · exact streams_readOnce (streams_readNamed _)
    · split
      · exact streams_readOnce (streams_readUnsigned bound)
      · split
        · exact streams_readOnce (streams_readOption (streams_readUnsigned bound))
        · split
          · exact streams_readOnce (streams_readOption streams_readName)
          · exact (streams_skip bound depth).andThen (fun _ => streams_ok fields) fun input => by
              cases skip bound depth input <;> rfl

theorem streams_readDeltaRecord : Streams (readDeltaRecord bound depth) := by
  refine (streams_readRecord bound streams_readField .none).step
    (fun input fault failed => by rw [readDeltaRecord, failed]) ?_
  intro front tail fields rest here there
  rw [readDeltaRecord, readDeltaRecord, here, there]
  dsimp only
  cases fields.toRecord? with
  | none => exact extends_error _
  | some record => exact extends_ok _ _

end

end DigestSync.Cbor
