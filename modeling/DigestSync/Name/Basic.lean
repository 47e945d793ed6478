import DigestSync.Data.Bytes

set_option autoImplicit false

/-! # Hierarchical names

A name is a sequence of components, each an arbitrary byte sequence; the empty
name and empty components are allowed.  Names are ordered component by
component and a component byte by byte, a proper beginning being the smaller.
A device is identified by a name.
-/

namespace DigestSync

/-- A hierarchical name. -/
structure Name where
  components : List Bytes
deriving DecidableEq, Repr, Inhabited

namespace Name

instance : Ord Name := ⟨fun left right => compare left.components right.components⟩

theorem compare_def (left right : Name) :
    compare left right = compare left.components right.components := rfl

instance : Std.TransOrd Name where
  eq_swap := Std.OrientedOrd.eq_swap (α := List (List UInt8))
  isLE_trans := Std.TransOrd.isLE_trans (α := List (List UInt8))

instance : Std.LawfulEqOrd Name where
  eq_of_compare {left right} same := by
    cases left; cases right
    exact congrArg Name.mk (Std.LawfulEqOrd.eq_of_compare (α := List (List UInt8)) same)

/-- The name without components. -/
def empty : Name := ⟨[]⟩

/-- The name with the given texts as components. -/
def ofTexts (texts : List String) : Name := ⟨texts.map Bytes.ofText⟩

/-- The name extended by one component. -/
def push (name : Name) (component : Bytes) : Name := ⟨name.components ++ [component]⟩

/-- The name extended by the eight bytes of a number. -/
def pushNumber (name : Name) (number : UInt64) : Name := name.push (Bytes.ofUInt64 number)

/-- The name extended by the components of another one. -/
def append (left right : Name) : Name := ⟨left.components ++ right.components⟩

instance : Append Name := ⟨append⟩

/-- The number of components. -/
def size (name : Name) : Nat := name.components.length

/-- The name has no component. -/
def isEmpty (name : Name) : Bool := name.components.isEmpty

/-- The component at a position. -/
def get? (name : Name) (index : Nat) : Option Bytes := name.components[index]?

/-- The last component. -/
def last? (name : Name) : Option Bytes := name.components.getLast?

/-- The first `count` components, or all of them if there are fewer. -/
def take (name : Name) (count : Nat) : Name := ⟨name.components.take count⟩

/-- The other name begins with all components of this one. -/
def isPrefixOf (start name : Name) : Bool := start.components.isPrefixOf name.components

/-- What follows the given start in a name that begins with it. -/
def drop? (name start : Name) : Option Name :=
  if start.isPrefixOf name then some ⟨name.components.drop start.size⟩ else none

/-- The number that the component at a position spells with its eight bytes. -/
def numberAt? (name : Name) (index : Nat) : Option UInt64 :=
  (name.get? index).bind Bytes.toUInt64?

/-- The number that the last component spells with its eight bytes. -/
def lastNumber? (name : Name) : Option UInt64 := name.last?.bind Bytes.toUInt64?

end Name

/-- The identity of a device. -/
structure DeviceId where
  name : Name
deriving DecidableEq, Repr, Inhabited

namespace DeviceId

instance : Ord DeviceId := ⟨fun left right => compare left.name right.name⟩

theorem compare_def (left right : DeviceId) :
    compare left right = compare left.name right.name := rfl

instance : Std.TransOrd DeviceId where
  eq_swap := Std.OrientedOrd.eq_swap (α := Name)
  isLE_trans := Std.TransOrd.isLE_trans (α := Name)

instance : Std.LawfulEqOrd DeviceId where
  eq_of_compare {left right} same := by
    cases left; cases right
    exact congrArg DeviceId.mk (Std.LawfulEqOrd.eq_of_compare (α := Name) same)

end DeviceId

end DigestSync
