import DigestSync.Data.Bytes

set_option autoImplicit false

/-! # Well-formed UTF-8

Which byte sequences are the UTF-8 form of some text.  A character takes one to
four bytes; the second byte is restricted after the leads E0, ED, F0 and F4, so
that overlong forms, surrogates and values above the last code point are no
characters.
-/

namespace DigestSync.Utf8

/-- The byte lies between two bounds, both included. -/
def within (low high byte : UInt8) : Bool := low ≤ byte && byte ≤ high

/-- Any continuation byte. -/
def continues (byte : UInt8) : Bool := within 0x80 0xBF byte

/-- The second bytes that may follow the lead of a three-byte character. -/
def secondOfThree (lead byte : UInt8) : Bool :=
  if lead = 0xE0 then within 0xA0 0xBF byte
  else if lead = 0xED then within 0x80 0x9F byte
  else within 0xE1 0xEF lead && continues byte

/-- The second bytes that may follow the lead of a four-byte character. -/
def secondOfFour (lead byte : UInt8) : Bool :=
  if lead = 0xF0 then within 0x90 0xBF byte
  else if lead = 0xF4 then within 0x80 0x8F byte
  else within 0xF1 0xF3 lead && continues byte

/-- What is left after the longest run of whole characters at the front. -/
def undecoded : Bytes → Bytes
  | [] => []
  | a :: rest =>
    if a < 0x80 then undecoded rest
    else
      match rest with
      | b :: c :: d :: tail =>
        if within 0xC2 0xDF a && continues b then undecoded (c :: d :: tail)
        else if secondOfThree a b && continues c then undecoded (d :: tail)
        else if secondOfFour a b && continues c && continues d then undecoded tail
        else a :: rest
      | [b, c] =>
        if within 0xC2 0xDF a && continues b then undecoded [c]
        else if secondOfThree a b && continues c then []
        else a :: rest
      | [b] => if within 0xC2 0xDF a && continues b then [] else a :: rest
      | [] => a :: rest
termination_by bytes => bytes.length

/-- The bytes are the UTF-8 form of some text. -/
def valid (bytes : Bytes) : Bool := (undecoded bytes).isEmpty

end DigestSync.Utf8
