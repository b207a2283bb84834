import Replay.Json.Feed
import Replay.Json.Member
import Replay.Json.Scalar

/-!
# Parts of a document that arrives

Words, texts, numbers, scalars, items and members as they are drawn from a feed,
each octet by octet with at most one octet looked at beforehand. They follow the
grammar that the readers of octets at hand follow, and share with these what an
escape, a numeral or a list of octets means.
-/

namespace Replay.Json.Draw

variable {α : Type}

/-- The letters of a word; the first octet that differs is consumed. -/
def word : (letters : Bytes) → Draw Unit
  | [] => pure ()
  | letter :: letters => do
    let octet ← next .endInValue
    if octet = letter then word letters else refuse .wordExpected

/-! ## Texts -/

/-- Four hexadecimal digits. -/
def hexUnit : Draw Nat := do
  let first ← next .endInString
  let second ← next .endInString
  let third ← next .endInString
  let fourth ← next .endInString
  match hexUnit? first second third fourth with
  | some unit => pure unit
  | none => refuse .escapeInvalid

/-- One letter that must follow a leading surrogate; a wrong one is consumed. -/
def pairLetter (letter : UInt8) : Draw Unit := do
  let octet ← next .endInString
  if octet = letter then pure () else refuse .surrogateUnfinished

/-- The second half of a surrogate pair, as an escape of its own. -/
def trailingUnit : Draw Nat := do
  pairLetter 0x5C
  pairLetter 0x75
  let unit ← hexUnit
  if isTrailingUnit unit then pure unit else refuse .surrogateAlone

/-- A long escape behind its letter. -/
def longEscape : Draw Bytes := do
  let unit ← hexUnit
  if isTrailingUnit unit then refuse .surrogateAlone
  else if isLeadingUnit unit then
    let trailing ← trailingUnit
    return codeOctets (pairCode unit trailing)
  else return codeOctets unit

/-- An escape behind its backslash. -/
def escape : Draw Bytes := do
  let letter ← next .endInString
  match shortEscape? letter with
  | some octet => pure [octet]
  | none => if letter = 0x75 then longEscape else refuse .escapeInvalid

/-- What the next octet brings to a text; none if it is the closing quote. -/
def textPart : Draw (Option Bytes) := do
  let octet ← next .endInString
  if octet = 0x22 then pure none
  else if octet = 0x5C then
    let octets ← escape
    return some octets
  else if octet < 0x20 then refuse .controlCharacter
  else return some [octet]

theorem consumes_textPart : Consumes textPart := by
  intro feed drawn part _
  obtain ⟨first, taken, rest, _, _, left⟩ := bind_eq_ok part
  rw [← left]
  exact Nat.lt_of_le_of_lt rest.fits (size_of_next taken)

/-- The octets up to the closing quote, with the escapes replaced. -/
def octetsToQuote : Draw Bytes := do
  let parts ← collect (fun _ => textPart) (fun _ => consumes_textPart) []
  return parts.flatten

/-- A text behind its opening quote. -/
def text : Draw String := do
  let octets ← octetsToQuote
  match Utf8.decode octets with
  | .ok text => pure text
  | .error valid => refuseBefore (octets.length - valid) .codePointInvalid

/-! ## Numbers -/

/-- The digits before the point: a zero alone, or digits that do not start with one. -/
def wholeDigits : Draw Bytes := do
  let first ← next .endInValue
  if !isDigit first then refuse .numberInvalid
  else if first = 0x30 then
    let following ← peek
    if following.any isDigit then refuse .numberInvalid else pure [first]
  else
    let digits ← span isDigit
    return first :: digits

/-- The digits after the point, none if there is no point. -/
def fractionDigits : Draw Bytes := do
  match ← peek with
  | none => pure []
  | some point =>
    if point = 0x2E then
      consume
      let first ← ahead .endInValue
      if isDigit first then span isDigit else refuse .numberInvalid
    else pure []

/-- The sign in front of the digits of an exponent. -/
def exponentSign : Draw Bool := do
  match ← peek with
  | none => pure false
  | some sign =>
    if sign = 0x2B then
      consume
      return false
    else if sign = 0x2D then
      consume
      return true
    else pure false

/-- The digits of an exponent behind those with a `value`, which are `taken`, the last
one first. If the number is `vast` should the exponent exceed 31 bits, it is refused
with the digit that shows it. -/
def exponentDigitsFrom (vast : Bool) {bound : Nat} (value : Nat) (taken : Bytes) (feed : Feed)
    (fits : feed.size ≤ bound) : Except Error (Drawn bound Bytes) :=
  have looked := Nat.le_trans (Nat.le_of_eq feed.size_look) fits
  match _ahead : feed.look.ahead with
  | none => .ok ⟨taken.reverse, feed.look, looked⟩
  | some octet =>
    if isDigit octet then
      if value * 10 + digitValue octet < 0x80000000 then
        exponentDigitsFrom vast (value * 10 + digitValue octet) (octet :: taken) feed.look.drop
          (Nat.le_trans (Nat.le_of_lt (Feed.size_drop_lt _ahead)) fits)
      else if vast then .error ⟨.numberOutOfRange, some feed.look.place⟩
      else
        .ok ⟨(feed.span isDigit taken).1, (feed.span isDigit taken).2,
          Nat.le_trans (feed.size_span_le isDigit taken) fits⟩
    else .ok ⟨taken.reverse, feed.look, looked⟩
termination_by feed.size
decreasing_by exact Feed.size_drop_lt _ahead

/-- The digits of an exponent. -/
def exponentDigits (vast : Bool) : Draw Bytes := do
  let first ← next .endInValue
  if isDigit first then
    ⟨fun feed => exponentDigitsFrom vast (digitValue first) [first] feed feed.size_le⟩
  else refuse .numberInvalid

/-- The exponent of a numeral, if there is one; a numeral without digits other than
zero has no exponent that is too large. -/
def exponentPart (vast : Bool) : Draw (Option Exponent) := do
  match ← peek with
  | none => pure none
  | some mark =>
    if mark = 0x65 || mark = 0x45 then
      consume
      let negative ← exponentSign
      let digits ← exponentDigits (vast && !negative)
      return some ⟨negative, digits⟩
    else pure none

/-- A number behind its sign. The end of a number is known only from the octet after
it, so a source that fails there fails the number. -/
def number (negative : Bool) : Draw Number := do
  let whole ← wholeDigits
  let fraction ← fractionDigits
  let significand := (Numeral.mk negative whole fraction none).significand.1
  let exponent ← exponentPart (significand ≠ 0)
  let _ ← look
  match (Numeral.mk negative whole fraction exponent).number with
  | .ok number => pure number
  | .error _ => refuse .numberOutOfRange

/-! ## Scalars and what holds them -/

/-- A literal word, which stands for a fixed value, the octet ahead its first letter. -/
def literal (letters : Bytes) (value : Scalar) : Draw Scalar := do
  consume
  word letters
  return value

/-- The scalar that starts with the octet ahead; none if no scalar starts with it. -/
def scalar? (first : UInt8) : Option (Draw Scalar) :=
  if first = 0x6E then some (literal [0x75, 0x6C, 0x6C] .null)
  else if first = 0x74 then some (literal [0x72, 0x75, 0x65] (.boolean true))
  else if first = 0x66 then some (literal [0x61, 0x6C, 0x73, 0x65] (.boolean false))
  else if first = 0x2D then
    some do
      consume
      let value ← number true
      return .number value
  else if isDigit first then
    some do
      let value ← number false
      return .number value
  else if first = 0x22 then
    some do
      consume
      let value ← text
      return .text value
  else none

/-- The start of an item: the octet ahead if it is the first item, else behind a comma
and space. -/
def separator (bracket : Bracket) (isFirst : Bool) (octet : UInt8) : Draw Unit :=
  if isFirst then pure ()
  else if octet = 0x2C then do
    consume
    let following ← gap .endInValue
    if following = bracket.close then refuse .trailingComma else pure ()
  else refuse bracket.separatorExpected

/-- The next item, none if the closing bracket comes next. -/
def nextItem (bracket : Bracket) (isFirst : Bool) (item : Draw α) : Draw (Option α) := do
  let octet ← gap bracket.ended
  if octet = bracket.close then
    consume
    return none
  else
    separator bracket isFirst octet
    let value ← item
    return some value

theorem consumes_nextItem (bracket : Bracket) (item : Draw α) :
    Consumes (nextItem bracket false item) := by
  intro feed drawn taken given
  obtain ⟨start, found, rest, went, value, left⟩ := bind_eq_ok taken
  have ahead := ahead_of_gap found
  refine Nat.lt_of_lt_of_le ?_ start.fits
  rw [← left]
  split at went
  · obtain ⟨_, _, last, ended, sameValue, _⟩ := bind_eq_ok went
    cases ended
    rw [← value, ← sameValue] at given
    cases given
  · obtain ⟨separated, parted, last, _, _, sameFeed⟩ := bind_eq_ok went
    rw [← sameFeed]
    refine Nat.lt_of_le_of_lt last.fits ?_
    by_cases comma : start.value = 0x2C
    · simp only [separator, comma, Bool.false_eq_true, if_false, if_true] at parted
      obtain ⟨_, consumed, behind, _, _, sameRest⟩ := bind_eq_ok parted
      rw [← sameRest]
      exact Nat.lt_of_le_of_lt behind.fits (size_of_consume ahead consumed)
    · simp only [separator, comma, Bool.false_eq_true, if_false] at parted
      cases parted

/-- The items up to the closing bracket. -/
def items (bracket : Bracket) (item : List α → Draw α) : Draw (List α) := do
  match ← nextItem bracket true (item []) with
  | none => pure []
  | some first =>
    collect (fun taken => nextItem bracket false (item taken))
      (fun taken => consumes_nextItem bracket (item taken)) [first]

/-- The colon between a key and its value. -/
def colon : Draw Unit := do
  let octet ← gap .endInObject
  if octet = 0x3A then consume else refuse .colonExpected

/-- The trailing part of a document: nothing but space. -/
def atEnd : Draw Unit := do
  let octet ← outerGap
  if octet.isSome then refuse .trailingCharacters else pure ()

/-- A member of an object, whose value `read` takes. -/
def member (read : Draw α) : Draw (String × α) := do
  let quote ← ahead .endInObject
  if quote = 0x22 then
    consume
    let key ← text
    colon
    let value ← read
    return (key, value)
  else refuse .keyNotText

end Replay.Json.Draw
