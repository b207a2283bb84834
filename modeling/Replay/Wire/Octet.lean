import Replay.Text.Utf8

/-!
# Octets on the wire

Which octets tokens and field values consist of, and how they become text.
-/

namespace Replay.Wire

/-- The octet of an ASCII digit. -/
def isDigitOctet (octet : UInt8) : Bool :=
  0x30 ≤ octet && octet ≤ 0x39

/-- The octet of an ASCII capital. -/
def isCapitalOctet (octet : UInt8) : Bool :=
  0x41 ≤ octet && octet ≤ 0x5A

/-- The octet of an ASCII letter. -/
def isLetterOctet (octet : UInt8) : Bool :=
  isCapitalOctet octet || (0x61 ≤ octet && octet ≤ 0x7A)

/-- The marks that tokens may hold besides letters and digits: all of ASCII's but
quotes, brackets, comma, slash, colon, semicolon, equals, question mark, at sign
and backslash. -/
def tokenMarks : Bytes :=
  [0x21, 0x23, 0x24, 0x25, 0x26, 0x27, 0x2A, 0x2B, 0x2D, 0x2E, 0x5E, 0x5F, 0x60, 0x7C, 0x7E]

/-- An octet of a token. -/
def isTokenOctet (octet : UInt8) : Bool :=
  isLetterOctet octet || isDigitOctet octet || tokenMarks.contains octet

/-- An octet of a field value: anything but controls, of which only tab is allowed. -/
def isValueOctet (octet : UInt8) : Bool :=
  octet == 0x09 || (0x20 ≤ octet && octet != 0x7F)

/-- An octet that reads as text in a field value: visible ASCII, space or tab. -/
def isVisibleOctet (octet : UInt8) : Bool :=
  octet == 0x09 || (0x20 ≤ octet && octet ≤ 0x7E)

/-- A space or a tab. -/
def isGapOctet (octet : UInt8) : Bool :=
  octet == 0x20 || octet == 0x09

/-- An octet with a capital made small. -/
def smallOctet (octet : UInt8) : UInt8 :=
  if isCapitalOctet octet then octet + 0x20 else octet

/-- The text of ASCII octets. -/
def asciiText (octets : Bytes) : String :=
  String.ofList (octets.map fun octet => Char.ofNat octet.toNat)

/-- The text of a field value, if all of it reads as text. -/
def visibleText? (value : Bytes) : Option String :=
  if value.all isVisibleOctet then some (asciiText value) else none

/-- The octets from the first to the last that is neither space nor tab. -/
def trimGaps (octets : Bytes) : Bytes :=
  ((octets.dropWhile isGapOctet).reverse.dropWhile isGapOctet).reverse

end Replay.Wire
