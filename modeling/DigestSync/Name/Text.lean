import DigestSync.Malformed
import DigestSync.Name.Basic

set_option autoImplicit false

/-! # The written form of names

A name is written with a slash before each component, and the empty name as a
single slash.  Letters, digits and the six marks `-`, `.`, `_`, `~`, `+`, `=`
stand for themselves; every other byte is written as a percent sign and two
upper-case hexadecimal digits.

Reading skips empty parts, so a name with empty components is read back without
them.  An escape may use digits of either case, and its first digit may be a
plus sign, which counts as zero.
-/

namespace DigestSync

namespace Name

/-- A byte that is written as the character with its code. -/
def isPlain (byte : UInt8) : Bool :=
  (48 ≤ byte && byte ≤ 57) || (65 ≤ byte && byte ≤ 90) || (97 ≤ byte && byte ≤ 122) ||
    byte == 45 || byte == 46 || byte == 95 || byte == 126 || byte == 43 || byte == 61

/-- The written form of a byte. -/
def escapeByte (byte : UInt8) : List Char :=
  if isPlain byte then [Char.ofNat byte.toNat]
  else ['%', Hex.upperDigit (byte.toNat / 16), Hex.upperDigit (byte.toNat % 16)]

/-- The written form of a component with the slash before it. -/
def escapeComponent (component : Bytes) : List Char :=
  '/' :: component.flatMap escapeByte

/-- The characters of a name's written form. -/
def renderChars (name : Name) : List Char :=
  match name.components with
  | [] => ['/']
  | components => components.flatMap escapeComponent

/-- The written form of a name. -/
def render (name : Name) : String := String.ofList name.renderChars

/-- The byte that the two characters after a percent sign stand for. -/
def escapeValue? (high low : Char) : Option UInt8 :=
  match Hex.digitValue? low.toNat with
  | none => none
  | some lower =>
    if high = '+' then some (UInt8.ofNat lower)
    else (Hex.digitValue? high.toNat).map fun upper => UInt8.ofNat (16 * upper + lower)

/-- The bytes of one part of a written name, unless an escape in it is bad. -/
def unescape? : List Char → Option Bytes
  | [] => some []
  | '%' :: high :: low :: rest =>
    match escapeValue? high low with
    | none => none
    | some byte => (unescape? rest).map (byte :: ·)
  | char :: rest =>
    if char = '%' then none
    else (unescape? rest).map (String.utf8EncodeChar char ++ ·)

/-- Put a character before the first of some parts, a slash starting a new one. -/
def addChar (char : Char) (parts : List (List Char)) : List (List Char) :=
  if char = '/' then [] :: parts
  else
    match parts with
    | [] => [[char]]
    | first :: others => (char :: first) :: others

/-- The parts of a text between its slashes, empty ones included. -/
def splitSlashes (chars : List Char) : List (List Char) := chars.foldr addChar [[]]

/-- Read parts as components; the first bad one is reported. -/
def readParts : List (List Char) → Except Malformed (List Bytes)
  | [] => .ok []
  | part :: rest =>
    match unescape? part with
    | none => .error (.name (String.ofList part))
    | some component =>
      match readParts rest with
      | .error fault => .error fault
      | .ok components => .ok (component :: components)

/-- The name that a text stands for.  A text that is not empty has to begin with
a slash. -/
def parse (text : String) : Except Malformed Name :=
  let chars := text.toList
  if chars ≠ [] ∧ chars.head? ≠ some '/' then .error (.name text)
  else
    match readParts ((splitSlashes chars).filter fun part => !part.isEmpty) with
    | .error fault => .error fault
    | .ok components => .ok ⟨components⟩

end Name

namespace DeviceId

/-- The written form of a device is that of its name. -/
def render (device : DeviceId) : String := device.name.render

/-- The device that a text stands for; no device has the empty name. -/
def parse (text : String) : Except Malformed DeviceId :=
  match Name.parse text with
  | .error fault => .error fault
  | .ok name =>
    if name.isEmpty then .error (.name "device identity cannot be empty") else .ok ⟨name⟩

end DeviceId

end DigestSync
