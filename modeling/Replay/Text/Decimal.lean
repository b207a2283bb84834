import Replay.Text.Blank

/-!
# Unsigned decimal numbers

Reading a bounded number from text and writing one. A number is an optional
single plus sign and at least one ASCII digit; leading zeros do not count, and
the value is compared with the bound exactly, however long the text is.
-/

namespace Replay.Decimal

open Replay.Text

/-- The value of an ASCII digit. -/
def digitValue (digit : Char) : Nat :=
  digit.toNat - '0'.toNat

/-- The number that ASCII digits denote, the most significant first. -/
def value (digits : List Char) : Nat :=
  digits.foldl (fun total digit => total * 10 + digitValue digit) 0

/-- The characters after one optional plus sign. -/
def unsigned : List Char → List Char
  | '+' :: rest => rest
  | text => text

/-- The number that the text denotes, if it is one and lies below `bound`. -/
def readBelow? (bound : Nat) (text : List Char) : Option Nat :=
  let digits := unsigned text
  if !digits.isEmpty && digits.all Char.isDigit && value digits < bound then
    some (value digits)
  else none

/-- The number that a text denotes between white space, if it lies below `bound`. -/
def readTrimmedBelow? (bound : Nat) (text : String) : Option Nat :=
  readBelow? bound (trim text.toList)

/-- The decimal digits of a number, without leading zeros. -/
def write (number : Nat) : String :=
  toString number

end Replay.Decimal
