import DigestSync.Cbor.Forms

set_option autoImplicit false

/-! # State messages

A message answers a sync interest with the records that its sender knows of.  It
is encoded as a CBOR map with a version and the list of records.  A receiver
takes version zero only, and a bounded number of records; a sender checks
neither.
-/

namespace DigestSync

/-- The version that is spoken. -/
def protocolVersion : UInt8 := 0

/-- The highest number of records that a receiver accepts. -/
def maxStates : Nat := 10000

/-- Records sent from one device to others. -/
structure StateMessage where
  version : UInt8
  states : List DeltaRecord
deriving DecidableEq, Repr, Inhabited

/-- Why a message was refused. -/
inductive MessageFault where
  /-- The bytes do not encode a message. -/
  | undecodable (fault : Cbor.Fault)
  /-- The message speaks another version. -/
  | unsupportedVersion (version : UInt8)
  /-- The message carries more records than are accepted. -/
  | tooManyStates (count : Nat)
deriving DecidableEq, Repr, Inhabited

/-- The wording of a refusal. -/
def MessageFault.message : MessageFault → String
  | .undecodable _ => "not a state message"
  | .unsupportedVersion version => "unsupported version " ++ toString version.toNat
  | .tooManyStates count => "too many states: " ++ toString count

namespace StateMessage

/-- A message of the spoken version. -/
def ofStates (states : List DeltaRecord) : StateMessage := ⟨protocolVersion, states⟩

/-- The CBOR form of a message. -/
def toValue (message : StateMessage) : Cbor.Value :=
  .record
    [("version", .unsigned message.version.toUInt64),
     ("states", .array (message.states.map Cbor.ofRecord))]

/-- The bytes of a message. -/
def encode (message : StateMessage) : Bytes := message.toValue.encode

/-- The fields of a message that have been read. -/
structure Fields where
  version : Option UInt8
  states : Option (List DeltaRecord)

/-- Read the value of a field, passing over that of an unknown one. -/
def readField (bound : Nat) (key : Bytes) (fields : Fields) : Cbor.Reader Fields :=
  if Cbor.isField key "version" then
    Cbor.readOnce fields.version (Cbor.readUInt8 bound) fun value =>
      { fields with version := some value }
  else if Cbor.isField key "states" then
    let record := Cbor.readDeltaRecord bound (Cbor.maxDepth - 3)
    Cbor.readOnce fields.states (Cbor.readArray bound record) fun value =>
      { fields with states := some value }
  else fun input =>
    match Cbor.skip bound (Cbor.maxDepth - 1) input with
    | .error fault => .error fault
    | .ok (_, rest) => .ok (fields, rest)

/-- Read a message of any version and size. -/
def read (bound : Nat) : Cbor.Reader StateMessage := fun input =>
  match Cbor.readRecord bound (readField bound) ⟨none, none⟩ input with
  | .error fault => .error fault
  | .ok (⟨some version, some states⟩, rest) => .ok (⟨version, states⟩, rest)
  | .ok _ => .error .unexpected

/-- The number of records is accepted. -/
def checkSize (message : StateMessage) : Except MessageFault Unit :=
  if message.states.length ≤ maxStates then .ok ()
  else .error (.tooManyStates message.states.length)

/-- The message at the front of some bytes; what follows it is ignored. -/
def decode (bytes : Bytes) : Except MessageFault StateMessage :=
  match read bytes.length bytes with
  | .error fault => .error (.undecodable fault)
  | .ok (message, _) =>
    if message.version ≠ protocolVersion then .error (.unsupportedVersion message.version)
    else
      match message.checkSize with
      | .error fault => .error fault
      | .ok _ => .ok message

end StateMessage

end DigestSync
