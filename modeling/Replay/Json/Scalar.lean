import Replay.Json.Numeral
import Replay.Json.Text

/-!
# Scalars

The values of a document that hold no other values. The first octet decides
which kind of scalar follows, if any.
-/

namespace Replay.Json

/-- A value without parts. -/
inductive Scalar where
  | null
  | boolean (value : Bool)
  | number (value : Number)
  | text (value : String)

/-- The rest of a literal word, which stands for a fixed value. -/
def literal (ending : Ending) (letters : Bytes) (value : Scalar) (rest : Bytes) :
    Except Fault (Taken (rest.length + 1) Scalar) :=
  match taken : word ending letters rest with
  | .error fault => .error fault
  | .ok left => .ok ⟨value, left, Nat.lt_succ_of_le (length_word_le taken)⟩

/-- The scalar behind its first octet; none if no scalar starts with it. -/
def scalar? (ending : Ending) (first : UInt8) (rest : Bytes) :
    Option (Except Fault (Taken (rest.length + 1) Scalar)) :=
  if first = 0x6E then some (literal ending [0x75, 0x6C, 0x6C] .null rest)
  else if first = 0x74 then some (literal ending [0x72, 0x75, 0x65] (.boolean true) rest)
  else if first = 0x66 then some (literal ending [0x61, 0x6C, 0x73, 0x65] (.boolean false) rest)
  else if first = 0x2D then
    some ((number ending true rest).map fun taken =>
      (taken.map Scalar.number).weaken (Nat.le_succ _))
  else if isDigit first then
    some ((number ending false (first :: rest)).map fun taken => taken.map Scalar.number)
  else if first = 0x22 then
    some ((text ending rest).map fun taken => (taken.map Scalar.text).weaken (Nat.le_succ _))
  else none

end Replay.Json
