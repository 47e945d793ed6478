import DigestSync.Sync.Fault

set_option autoImplicit false

/-! # Sync names

Under the name that a group has agreed on, a device advertises its state by a
further component with the state's digest, and asks for the recovery of a state
it does not know by a marker component followed by that digest.
-/

namespace DigestSync

/-- What a sync interest says. -/
inductive SyncName where
  /-- The sender's state has this digest. -/
  | advertise (digest : Digest)
  /-- The sender asks for the state with this digest. -/
  | recover (digest : Digest)
deriving DecidableEq, Repr

namespace SyncName

/-- The component that marks a recovery. -/
def recoverMarker : Bytes := Bytes.ofText "RECOVER"

/-- The digest that an interest is about. -/
def digest : SyncName → Digest
  | .advertise digest => digest
  | .recover digest => digest

/-- The name of a sync interest under the group's name. -/
def toName (group : Name) : SyncName → Name
  | .advertise digest => group.push digest.bytes
  | .recover digest => (group.push recoverMarker).push digest.bytes

/-- What a name says under the group's name. -/
def ofName (group name : Name) : Except SyncFault SyncName :=
  let digestOf (component : Bytes) (form : Digest → SyncName) : Except SyncFault SyncName :=
    match Digest.ofBytes component with
    | .error cause => .error (.unexpectedName name (some cause))
    | .ok digest => .ok (form digest)
  match name.drop? group with
  | none => .error (.unexpectedName name none)
  | some ⟨[component]⟩ => digestOf component .advertise
  | some ⟨[marker, component]⟩ =>
    if marker = recoverMarker then digestOf component .recover
    else .error (.unexpectedName name none)
  | some _ => .error (.unexpectedName name none)

end SyncName

end DigestSync
