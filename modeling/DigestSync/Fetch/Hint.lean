import DigestSync.Data.SortedMap
import DigestSync.Name.Text

set_option autoImplicit false

/-! # Forwarding hints

A record is asked for either by broadcast or at a place where its producer is
said to be.  The name of the request is the hint's name, the base name of the
records, and the record's number.  After a failed attempt the other kind of hint
is tried.
-/

namespace DigestSync

/-- Where each device's data can be asked for. -/
abbrev LocatorTable := SortedMap DeviceId Name

/-- The place of a producer; the empty name if none is known. -/
def LocatorTable.resolve (table : LocatorTable) (producer : DeviceId) : Name :=
  (table.find? producer).getD Name.empty

/-- The name under which requests reach everyone. -/
def broadcastName : Name := Name.ofTexts ["ndn", "broadcast"]

/-- How requests are directed. -/
inductive ForwardingHint where
  | broadcast
  | direct (place : Name)
deriving DecidableEq, Repr, Inhabited

namespace ForwardingHint

/-- The name that requests start with. -/
def start : ForwardingHint → Name
  | .broadcast => broadcastName
  | .direct place => place

/-- The hint to try next: a broadcast is followed by the producer's place, which
`resolve` tells, and a place by a broadcast. -/
def alternate (hint : ForwardingHint) (resolve : DeviceId → Name) (producer : DeviceId) :
    ForwardingHint :=
  match hint with
  | .broadcast => .direct (resolve producer)
  | .direct _ => .broadcast

/-- The name by which a record is asked for. -/
def segmentName (hint : ForwardingHint) (base : Name) (seq : UInt64) : Name :=
  (hint.start ++ base).pushNumber seq

/-- The written form of a hint. -/
def render : ForwardingHint → String
  | .broadcast => "Broadcast"
  | .direct place => "Direct(" ++ place.render ++ ")"

end ForwardingHint

end DigestSync
