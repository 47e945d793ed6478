import DigestSync.Cbor.Head
import DigestSync.Data.Utf8

set_option autoImplicit false

/-! # Reading typed items

Readers for the kinds of item that messages are made of, and the one that passes
over any item.  Tags before an expected item are ignored.  Containers and
strings may have a definite length or go on until a stop mark.

A container of indefinite length holds at most one item for each byte of the
input; the readers take that number as a `bound`, so that every loop is a
recursion on it.
-/

namespace DigestSync.Cbor

/-! ## Loops -/

/-- Carry a state through `count` items. -/
def foldCount {σ : Type} (step : σ → Reader σ) : Nat → σ → Reader σ
  | 0, state, input => .ok (state, input)
  | count + 1, state, input =>
    match step state input with
    | .error fault => .error fault
    | .ok (next, rest) => foldCount step count next rest

/-- Carry a state through items until a stop mark. -/
def foldUntilStop {σ : Type} (step : σ → Reader σ) : Nat → σ → Reader σ
  | 0, _, _ => .error .truncated
  | bound + 1, state, input =>
    match readHead input with
    | .error fault => .error fault
    | .ok (.stop, rest) => .ok (state, rest)
    | .ok _ =>
      match step state input with
      | .error fault => .error fault
      | .ok (next, rest) => foldUntilStop step bound next rest

/-- Carry a state through the items of a container. -/
def foldItems {σ : Type} (bound : Nat) (count : Option Nat) (step : σ → Reader σ)
    (state : σ) : Reader σ :=
  match count with
  | some number => foldCount step number state
  | none => foldUntilStop step (bound + 1) state

/-- Read the items of a container as a list. -/
def readItems {α : Type} (bound : Nat) (count : Option Nat) (item : Reader α) :
    Reader (List α) := fun input =>
  let step (found : List α) : Reader (List α) := fun rest =>
    match item rest with
    | .error fault => .error fault
    | .ok (next, rest) => .ok (next :: found, rest)
  match foldItems bound count step [] input with
  | .error fault => .error fault
  | .ok (found, rest) => .ok (found.reverse, rest)

/-! ## Strings in pieces -/

/-- The pieces of a string of indefinite length, each of which `piece` reads;
pieces may again be of indefinite length, `underWay` of them being unfinished. -/
def readPieces {σ : Type} (length? : Head → Option (Option Nat)) (piece : Nat → σ → Reader σ) :
    Nat → Nat → σ → Reader σ
  | 0, _, _, _ => .error .truncated
  | bound + 1, underWay, state, input =>
    match readHead input with
    | .error fault => .error fault
    | .ok (.stop, rest) =>
      if underWay ≤ 1 then .ok (state, rest)
      else readPieces length? piece bound (underWay - 1) state rest
    | .ok (head, rest) =>
      match length? head with
      | none => .error .illFormed
      | some none => readPieces length? piece bound (underWay + 1) state rest
      | some (some size) =>
        match piece size state rest with
        | .error fault => .error fault
        | .ok (next, rest) => readPieces length? piece bound underWay next rest

/-- Read a string's content, given the length in its head. -/
def readString {σ : Type} (bound : Nat) (length? : Head → Option (Option Nat))
    (piece : Nat → σ → Reader σ) (length : Option Nat) (state : σ) : Reader σ :=
  match length with
  | some size => piece size state
  | none => readPieces length? piece (bound + 1) 1 state

/-- The length in the head of a byte string. -/
def bytesLength? : Head → Option (Option Nat)
  | .bytes length => some length
  | _ => none

/-- The length in the head of a text. -/
def textLength? : Head → Option (Option Nat)
  | .text length => some length
  | _ => none

/-- Add one piece to the content of a byte string, which is in reverse order. -/
def addPiece (size : Nat) (found : Bytes) : Reader Bytes := fun input =>
  match readBytes size input with
  | .error fault => .error fault
  | .ok (piece, rest) => .ok (piece.reverseAux found, rest)

/-- Read the content of a byte string, given the length in its head. -/
def readByteString (bound : Nat) (length : Option Nat) : Reader Bytes := fun input =>
  match readString bound bytesLength? addPiece length [] input with
  | .error fault => .error fault
  | .ok (found, rest) => .ok (found.reverse, rest)

/-- The number of bytes that a string is read by at most. -/
def blockSize : Nat := 4096

/-- Read `size` bytes block by block; `room` is the size of the next block. -/
def readBlocks {σ : Type} (room : σ → Nat) (step : σ → Bytes → Except Fault σ) (size : Nat)
    (state : σ) (input : Bytes) : Except Fault (σ × Bytes) :=
  if size = 0 then .ok (state, input)
  else
    match readBytes (min size (max 1 (room state))) input with
    | .error fault => .error fault
    | .ok (block, rest) =>
      match step state block with
      | .error fault => .error fault
      | .ok next => readBlocks room step (size - min size (max 1 (room state))) next rest
termination_by size
decreasing_by omega

/-- Check a further block of a text.  A character may be cut by the end of a
block, so up to three bytes are carried over to the next one. -/
def checkBlock (carried block : Bytes) : Except Fault Bytes :=
  let left := Utf8.undecoded (carried ++ block)
  if left.length ≤ 3 then .ok left else .error .illFormed

/-- Pass over one piece of a text, which has to be whole characters. -/
def checkTextPiece (size : Nat) (_ : Unit) : Reader Unit := fun input =>
  match readBlocks (fun carried => blockSize - carried.length) checkBlock size [] input with
  | .error fault => .error fault
  | .ok (left, rest) => if left.isEmpty then .ok ((), rest) else .error .illFormed

/-- Pass over the content of a text, given the length in its head. -/
def skipText (bound : Nat) (length : Option Nat) : Reader Unit :=
  readString bound textLength? checkTextPiece length ()

/-- Read a short text, which is checked as a whole. -/
def readShortText (size : Nat) : Reader Bytes := fun input =>
  match readBytes size input with
  | .error fault => .error fault
  | .ok (content, rest) => if Utf8.valid content then .ok (content, rest) else .error .illFormed

/-! ## Integers -/

/-- Take the digits of a long integer, leading zeros left out; sixteen digits
are the most that one may have. -/
def takeDigits (digits block : Bytes) : Except Fault Bytes :=
  let found := if digits.isEmpty then block.dropWhile (· = 0) else digits ++ block
  if found.length ≤ 16 then .ok found else .error .unexpected

/-- Read the number in a byte string that follows a tag for long integers. -/
def readLongNumber (bound : Nat) : Reader Nat := fun input =>
  match readHead input with
  | .error fault => .error fault
  | .ok (.bytes length, rest) =>
    let piece (size : Nat) (digits : Bytes) : Reader Bytes :=
      readBlocks (fun _ => 16) takeDigits size digits
    match readString bound bytesLength? piece length [] rest with
    | .error fault => .error fault
    | .ok (digits, rest) => .ok (Bytes.toNatBE digits, rest)
  | .ok _ => .error .unexpected

/-- Read an unsigned integer of at most 64 bits in any of its forms. -/
def readUnsigned (bound : Nat) (input : Bytes) : Except Fault (UInt64 × Bytes) :=
  match _read : readHead input with
  | .error fault => .error fault
  | .ok (.unsigned value, rest) => .ok (value, rest)
  | .ok (.tag number, rest) =>
    if number = 2 then
      match readLongNumber bound rest with
      | .error fault => .error fault
      | .ok (value, rest) =>
        if value < UInt64.size then .ok (UInt64.ofNat value, rest) else .error .unexpected
    else if number = 3 then
      match readLongNumber bound rest with
      | .error fault => .error fault
      | .ok _ => .error .unexpected
    else readUnsigned bound rest
  | .ok _ => .error .unexpected
termination_by input.length
decreasing_by exact length_of_readHead _read

/-- Read an unsigned integer of at most eight bits. -/
def readUInt8 (bound : Nat) : Reader UInt8 := fun input =>
  match readUnsigned bound input with
  | .error fault => .error fault
  | .ok (value, rest) => if value < 256 then .ok (value.toUInt8, rest) else .error .unexpected

/-! ## Containers -/

/-- Read an array as a list.  An empty byte string counts as an empty array. -/
def readArray {α : Type} (bound : Nat) (item : Reader α) : Reader (List α) := fun input =>
  match readUntagged input with
  | .error fault => .error fault
  | .ok (.array count, rest) => readItems bound count item rest
  | .ok (.bytes length, rest) =>
    match readByteString bound length rest with
    | .error fault => .error fault
    | .ok (content, rest) => if content.isEmpty then .ok ([], rest) else .error .unexpected
  | .ok _ => .error .unexpected

/-- Read an item that may be absent: null or undefined, without a tag. -/
def readOption {α : Type} (item : Reader α) : Reader (Option α) := fun input =>
  match readHead input with
  | .error fault => .error fault
  | .ok (.simple value, rest) =>
    if value = 22 ∨ value = 23 then .ok (none, rest)
    else
      match item input with
      | .error fault => .error fault
      | .ok (content, rest) => .ok (some content, rest)
  | .ok _ =>
    match item input with
    | .error fault => .error fault
    | .ok (content, rest) => .ok (some content, rest)

/-- The rest of an identifier after its head: a definite text or byte string of
at most one block. -/
def identifierAfter (head : Head) : Reader Bytes := fun rest =>
  match head with
  | .text (some size) =>
    if size ≤ blockSize then readShortText size rest else .error .unexpected
  | .bytes (some size) =>
    if size ≤ blockSize then readBytes size rest else .error .unexpected
  | _ => .error .unexpected

/-- Read the name of a field. -/
def readIdentifier : Reader Bytes := fun input =>
  match readUntagged input with
  | .error fault => .error fault
  | .ok (head, rest) => identifierAfter head rest

/-- Read the name of an alternative: a text, or the key that follows the head of
a map with one entry. -/
def readAlternative : Reader Bytes := fun input =>
  match readUntagged input with
  | .error fault => .error fault
  | .ok (.map (some 1), rest) => readIdentifier rest
  | .ok (.text length, rest) => identifierAfter (.text length) rest
  | .ok _ => .error .unexpected

/-- Read a map by its field names; `field` reads the value of a named field. -/
def readRecord {σ : Type} (bound : Nat) (field : Bytes → σ → Reader σ) (start : σ) :
    Reader σ := fun input =>
  match readUntagged input with
  | .error fault => .error fault
  | .ok (.map count, rest) =>
    let step (state : σ) : Reader σ := fun rest =>
      match readIdentifier rest with
      | .error fault => .error fault
      | .ok (key, rest) => field key state rest
    foldItems bound count step start rest
  | .ok _ => .error .unexpected

/-- Store the value of a field that may occur only once. -/
def readOnce {α σ : Type} (present : Option α) (value : Reader α) (store : α → σ) :
    Reader σ := fun input =>
  match present with
  | some _ => .error .unexpected
  | none =>
    match value input with
    | .error fault => .error fault
    | .ok (content, rest) => .ok (store content, rest)

/-! ## Passing over an item -/

/-- The size of a long integer whose tag and head are given; an item behind such
a tag that is no short byte string is like one behind any other tag. -/
def longNumberSize? (tag : UInt64) (head : Head) : Option Nat :=
  match head with
  | .bytes (some size) => if (tag = 2 ∨ tag = 3) ∧ size ≤ 16 then some size else none
  | _ => none

/-- Pass over the digits of a long integer; a negative one has at most 127 bits. -/
def skipLongNumber (negative : Bool) (size : Nat) : Reader Unit := fun input =>
  match readBytes size input with
  | .error fault => .error fault
  | .ok (digits, rest) =>
    if negative ∧ 1 <<< 127 ≤ Bytes.toNatBE digits then .error .unexpected else .ok ((), rest)

/-- Pass over one item.  `inner` passes over the items inside a container or
behind a tag, and is absent when no deeper nesting is allowed. -/
def skipWith (bound : Nat) (inner : Option (Reader Unit)) : Reader Unit := fun input =>
  match readHead input with
  | .error fault => .error fault
  | .ok (.unsigned _, rest) => .ok ((), rest)
  | .ok (.negative _, rest) => .ok ((), rest)
  | .ok (.float, rest) => .ok ((), rest)
  | .ok (.bytes length, rest) =>
    match readByteString bound length rest with
    | .error fault => .error fault
    | .ok (_, rest) => .ok ((), rest)
  | .ok (.text (some size), rest) =>
    if size ≤ blockSize then
      match readShortText size rest with
      | .error fault => .error fault
      | .ok (_, rest) => .ok ((), rest)
    else skipText bound (some size) rest
  | .ok (.text none, rest) => skipText bound none rest
  | .ok (.array count, rest) =>
    match inner with
    | none => .error .tooDeep
    | some item => foldItems bound count (fun _ => item) () rest
  | .ok (.map count, rest) =>
    match inner with
    | none => .error .tooDeep
    | some item =>
      let entry (_ : Unit) : Reader Unit := fun rest =>
        match item rest with
        | .error fault => .error fault
        | .ok (_, rest) => item rest
      foldItems bound count entry () rest
  | .ok (.tag number, rest) =>
    match readHead rest with
    | .error fault => .error fault
    | .ok (head, content) =>
      match longNumberSize? number head with
      | some size => skipLongNumber (number = 3) size content
      | none =>
        match inner with
        | none => .error .tooDeep
        | some item => item rest
  | .ok (.simple value, rest) =>
    if 20 ≤ value ∧ value ≤ 23 then .ok ((), rest) else .error .unexpected
  | .ok (.stop, _) => .error .unexpected

/-- Pass over one item in which at most `depth` containers are nested. -/
def skip (bound : Nat) : Nat → Reader Unit
  | 0 => skipWith bound none
  | depth + 1 => skipWith bound (some (skip bound depth))

/-- How many containers may be nested in a message. -/
def maxDepth : Nat := 256

end DigestSync.Cbor
