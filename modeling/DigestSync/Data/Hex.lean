import DigestSync.Data.Bytes

set_option autoImplicit false

/-! # Hexadecimal text

Two digits for each byte, written in lower case and read in either case.  The
reader works on the UTF-8 bytes of its text: an odd number of them is refused
before any digit is looked at, and otherwise the first byte that is no digit is
reported with its position.
-/

namespace DigestSync.Hex

/-- Why a text is not the hexadecimal form of any bytes. -/
inductive Fault where
  /-- The text has an odd number of bytes. -/
  | oddLength
  /-- The byte at `position` is no hexadecimal digit. -/
  | badDigit (byte : UInt8) (position : Nat)
deriving DecidableEq, Repr, Inhabited

/-- The digit of a value below sixteen, with letters in lower case. -/
def lowerDigit (value : Nat) : Char :=
  if value < 10 then Char.ofNat (48 + value) else Char.ofNat (87 + value)

/-- The digit of a value below sixteen, with letters in upper case. -/
def upperDigit (value : Nat) : Char :=
  if value < 10 then Char.ofNat (48 + value) else Char.ofNat (55 + value)

/-- The value of a hexadecimal digit, given by its code and in either case. -/
def digitValue? (code : Nat) : Option Nat :=
  if 48 ≤ code ∧ code ≤ 57 then some (code - 48)
  else if 65 ≤ code ∧ code ≤ 70 then some (code - 55)
  else if 97 ≤ code ∧ code ≤ 102 then some (code - 87)
  else none

/-- The two lower-case digits of a byte. -/
def encodeByte (byte : UInt8) : List Char :=
  [lowerDigit (byte.toNat / 16), lowerDigit (byte.toNat % 16)]

/-- The lower-case hexadecimal text of bytes. -/
def encode (bytes : Bytes) : String := String.ofList (bytes.flatMap encodeByte)

/-- Read pairs of digits, the first of which stands at `position`. -/
def decodePairs : Nat → Bytes → Except Fault Bytes
  | _, [] => .ok []
  | _, [_] => .error .oddLength
  | position, high :: low :: rest =>
    match digitValue? high.toNat, digitValue? low.toNat with
    | none, _ => .error (.badDigit high position)
    | some _, none => .error (.badDigit low (position + 1))
    | some upper, some lower =>
      match decodePairs (position + 2) rest with
      | .error fault => .error fault
      | .ok bytes => .ok (UInt8.ofNat (16 * upper + lower) :: bytes)

/-- The bytes that a hexadecimal text stands for. -/
def decode (text : String) : Except Fault Bytes :=
  let digits := Bytes.ofText text
  if digits.length % 2 = 1 then .error .oddLength else decodePairs 0 digits

/-- A lone character between quotes, as messages show it: the usual short
escapes for tab, line feed, carriage return, NUL, quote and backslash, a numeric escape
for the other characters of the first 256 that have no visible form of their
own, and the character itself otherwise. -/
def quoteByte (byte : UInt8) : List Char :=
  let code := byte.toNat
  let shown :=
    if code = 0 then ['\\', '0']
    else if code = 9 then ['\\', 't']
    else if code = 10 then ['\\', 'n']
    else if code = 13 then ['\\', 'r']
    else if code = 39 then ['\\', '\'']
    else if code = 92 then ['\\', '\\']
    else if code < 32 ∨ (127 ≤ code ∧ code < 161) ∨ code = 173 then
      ['\\', 'u', '\x7b'] ++ (Nat.toDigits 16 code) ++ ['\x7d']
    else [Char.ofNat code]
  ['\''] ++ shown ++ ['\'']

/-- The wording of a fault. -/
def Fault.message : Fault → String
  | .oddLength => "Odd number of digits"
  | .badDigit byte position =>
    "Invalid character " ++ String.ofList (quoteByte byte) ++ " at position " ++
      toString position

end DigestSync.Hex
