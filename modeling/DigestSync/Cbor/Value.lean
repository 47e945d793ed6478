import DigestSync.Cbor.Head

set_option autoImplicit false

/-! # CBOR values

The values from which messages are built, and their encoding: shortest heads,
definite lengths, map entries in the order given.
-/

namespace DigestSync.Cbor

/-- A value. -/
inductive Value where
  | unsigned (value : UInt64)
  | bytes (content : Bytes)
  | text (content : String)
  | bool (content : Bool)
  | null
  | array (items : List Value)
  | map (entries : List (Value × Value))
deriving Inhabited

namespace Value

/-- The head of a container or string with `count` parts. -/
def countHead (major : UInt8) (count : Nat) : Bytes := writeHead major (UInt64.ofNat count)

/-- The encoding of a text. -/
def encodeText (content : String) : Bytes :=
  countHead 3 (Bytes.ofText content).length ++ Bytes.ofText content

mutual

/-- The encoding of a value. -/
def encode : Value → Bytes
  | .unsigned value => writeHead 0 value
  | .bytes content => countHead 2 content.length ++ content
  | .text content => encodeText content
  | .bool content => [if content then 0xF5 else 0xF4]
  | .null => [0xF6]
  | .array items => countHead 4 items.length ++ encodeItems items
  | .map entries => countHead 5 entries.length ++ encodeEntries entries

/-- The encodings of several values, one after the other. -/
def encodeItems : List Value → Bytes
  | [] => []
  | item :: rest => encode item ++ encodeItems rest

/-- The encodings of several entries, each key before its value. -/
def encodeEntries : List (Value × Value) → Bytes
  | [] => []
  | (key, value) :: rest => encode key ++ (encode value ++ encodeEntries rest)

end

/-- A map whose keys are texts. -/
def record (fields : List (String × Value)) : Value :=
  .map (fields.map fun field => (.text field.1, field.2))

/-- An optional value; its absence is written as null. -/
def option {α : Type} (form : α → Value) : Option α → Value
  | none => .null
  | some content => form content

end Value

end DigestSync.Cbor
