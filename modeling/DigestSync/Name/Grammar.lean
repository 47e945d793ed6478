import DigestSync.Data.Utf8
import DigestSync.Name.Text

set_option autoImplicit false

/-! # The grammar of written names

Between the slashes of a written name stand its parts.  A part is read from left to right: a percent
sign begins an escape, which takes the two characters after it and stands for one byte, and every
other character stands for the bytes of its UTF-8 form.  An escape is two hexadecimal digits of
either case, or a plus sign and one such digit.

The same reading on the UTF-8 bytes of a part takes two bytes after a percent sign, which have to
end where a character does.
-/

namespace DigestSync

namespace Name

/-- The character is the hexadecimal digit of a value, in lower or in upper case. -/
def IsHexDigit (char : Char) (value : Nat) : Prop :=
  "0123456789abcdef".toList[value]? = some char ∨ "0123456789ABCDEF".toList[value]? = some char

/-- The two characters after a percent sign stand for a byte. -/
inductive IsEscape : Char → Char → UInt8 → Prop where
  | digits {high low : Char} {upper lower : Nat} (first : IsHexDigit high upper)
      (second : IsHexDigit low lower) : IsEscape high low (UInt8.ofNat (16 * upper + lower))
  | plus {low : Char} {lower : Nat} (second : IsHexDigit low lower) :
      IsEscape '+' low (UInt8.ofNat lower)

/-- A part of a written name stands for some bytes. -/
inductive IsPart : List Char → Bytes → Prop where
  | nil : IsPart [] []
  | escape {high low : Char} {byte : UInt8} {rest : List Char} {bytes : Bytes}
      (head : IsEscape high low byte) (tail : IsPart rest bytes) :
      IsPart ('%' :: high :: low :: rest) (byte :: bytes)
  | char {char : Char} {rest : List Char} {bytes : Bytes} (other : char ≠ '%')
      (tail : IsPart rest bytes) : IsPart (char :: rest) (String.utf8EncodeChar char ++ bytes)

/-- Every percent sign of the part begins an escape. -/
def IsWellFormed (part : List Char) : Prop := ∃ bytes, IsPart part bytes

/-- The first of some parts that is not well formed. -/
inductive IsFirstFault : List (List Char) → List Char → Prop where
  | here {part : List Char} {rest : List (List Char)} (bad : ¬ IsWellFormed part) :
      IsFirstFault (part :: rest) part
  | later {part fault : List Char} {rest : List (List Char)} (good : IsWellFormed part)
      (tail : IsFirstFault rest fault) : IsFirstFault (part :: rest) fault

/-- The text is empty or begins with a slash. -/
def IsRooted (text : String) : Prop := text.toList = [] ∨ text.toList.head? = some '/'

/-- The parts of a text between its slashes, empty ones included. -/
def partsOf (text : String) : List (List Char) := text.toList.splitOn '/'

/-! ## The bytes of a part -/

/-- The bytes go on within a character. -/
def startsInside : Bytes → Bool
  | [] => false
  | byte :: _ => Utf8.continues byte

/-- The bytes that the UTF-8 form of a part stands for, unless an escape in it is bad. -/
def scan? : Bytes → Option Bytes
  | [] => some []
  | byte :: rest =>
    if byte = 37 then
      match rest with
      | high :: low :: tail =>
        if startsInside tail then none
        else
          match escapeValue? (Char.ofNat high.toNat) (Char.ofNat low.toNat) with
          | none => none
          | some value => (scan? tail).map (value :: ·)
      | _ => none
    else (scan? rest).map (byte :: ·)

end Name

end DigestSync
