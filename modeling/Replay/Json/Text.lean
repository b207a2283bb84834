import Replay.Json.Source

/-!
# Texts of a document

A text behind its opening quote: the octets up to the closing quote with the
escapes replaced by the UTF-8 form of what they stand for, and then, since the
octets came from outside, their decoding.
-/

namespace Replay.Json

/-- The value of a hexadecimal digit. -/
def hexValue? (octet : UInt8) : Option Nat :=
  if 0x30 ≤ octet && octet ≤ 0x39 then some (octet.toNat - 0x30)
  else if 0x41 ≤ octet && octet ≤ 0x46 then some (octet.toNat - 0x41 + 10)
  else if 0x61 ≤ octet && octet ≤ 0x66 then some (octet.toNat - 0x61 + 10)
  else none

/-- The number that four hexadecimal digits denote. -/
def hexUnit? (first second third fourth : UInt8) : Option Nat := do
  let first ← hexValue? first
  let second ← hexValue? second
  let third ← hexValue? third
  let fourth ← hexValue? fourth
  return ((first * 16 + second) * 16 + third) * 16 + fourth

/-- The octet that a short escape stands for. -/
def shortEscape? (letter : UInt8) : Option UInt8 :=
  if letter = 0x22 then some 0x22
  else if letter = 0x5C then some 0x5C
  else if letter = 0x2F then some 0x2F
  else if letter = 0x62 then some 0x08
  else if letter = 0x66 then some 0x0C
  else if letter = 0x6E then some 0x0A
  else if letter = 0x72 then some 0x0D
  else if letter = 0x74 then some 0x09
  else none

/-- Whether a 16-bit unit is the first of a surrogate pair. -/
def isLeadingUnit (unit : Nat) : Bool :=
  0xD800 ≤ unit && unit ≤ 0xDBFF

/-- Whether a 16-bit unit is the second of a surrogate pair. -/
def isTrailingUnit (unit : Nat) : Bool :=
  0xDC00 ≤ unit && unit ≤ 0xDFFF

/-- The code point of a surrogate pair. -/
def pairCode (leading trailing : Nat) : Nat :=
  (leading - 0xD800) * 0x400 + (trailing - 0xDC00) + 0x10000

/-- The octets of a code point. -/
def codeOctets (code : Nat) : Bytes :=
  String.utf8EncodeChar (Char.ofNat code)

/-- Four hexadecimal digits. -/
def hexUnit (ending : Ending) : Reader Nat
  | first :: second :: third :: fourth :: rest =>
    match hexUnit? first second third fourth with
    | some unit => .ok ⟨unit, rest, by simp; omega⟩
    | none => .error ⟨.escapeInvalid, .consumed, rest.length⟩
  | _ => .error (ending.fault .endInString)

/-- One letter that must follow a leading surrogate; a wrong one is consumed. -/
def pairLetter (ending : Ending) (letter : UInt8) : Reader Unit
  | [] => .error (ending.fault .endInString)
  | octet :: rest =>
    if octet = letter then .ok ⟨(), rest, by simp⟩
    else .error ⟨.surrogateUnfinished, .consumed, rest.length⟩

/-- The second half of a surrogate pair, as an escape of its own. -/
def trailingUnit (ending : Ending) : Reader Nat := fun input =>
  match pairLetter ending 0x5C input with
  | .error fault => .error fault
  | .ok backslash =>
    match pairLetter ending 0x75 backslash.rest with
    | .error fault => .error fault
    | .ok letter =>
      match hexUnit ending letter.rest with
      | .error fault => .error fault
      | .ok unit =>
        if isTrailingUnit unit.value then
          .ok ⟨unit.value, unit.rest, by
            have := backslash.shorter
            have := letter.shorter
            have := unit.shorter
            omega⟩
        else .error ⟨.surrogateAlone, .consumed, unit.rest.length⟩

/-- A long escape behind its letter. -/
def longEscape (ending : Ending) : Reader Bytes := fun input =>
  match hexUnit ending input with
  | .error fault => .error fault
  | .ok unit =>
    if isTrailingUnit unit.value then .error ⟨.surrogateAlone, .consumed, unit.rest.length⟩
    else if isLeadingUnit unit.value then
      match trailingUnit ending unit.rest with
      | .error fault => .error fault
      | .ok trailing =>
        .ok ⟨codeOctets (pairCode unit.value trailing.value), trailing.rest,
          Nat.lt_trans trailing.shorter unit.shorter⟩
    else .ok ⟨codeOctets unit.value, unit.rest, unit.shorter⟩

/-- An escape behind its backslash. -/
def escape (ending : Ending) : Reader Bytes
  | [] => .error (ending.fault .endInString)
  | letter :: rest =>
    match shortEscape? letter with
    | some octet => .ok ⟨[octet], rest, by simp⟩
    | none =>
      if letter = 0x75 then
        match longEscape ending rest with
        | .error fault => .error fault
        | .ok taken => .ok (taken.weaken (Nat.le_succ _))
      else .error ⟨.escapeInvalid, .consumed, rest.length⟩

/-- The octets up to the closing quote, behind those already `decoded`, the last
one first. -/
def octetsToQuote (ending : Ending) {bound : Nat} (decoded input : Bytes)
    (fits : input.length ≤ bound) : Except Fault (Taken bound Bytes) :=
  match input, fits with
  | [], _ => .error (ending.fault .endInString)
  | octet :: rest, fits =>
    have fewer : rest.length < bound := Nat.lt_of_succ_le fits
    if octet = 0x22 then .ok ⟨decoded.reverse, rest, fewer⟩
    else if octet = 0x5C then
      match escape ending rest with
      | .error fault => .error fault
      | .ok taken =>
        have := taken.shorter
        octetsToQuote ending (taken.value.reverse ++ decoded) taken.rest (by omega)
    else if octet < 0x20 then .error ⟨.controlCharacter, .consumed, rest.length⟩
    else octetsToQuote ending (octet :: decoded) rest (Nat.le_of_lt fewer)
termination_by input.length
decreasing_by all_goals simp_all; try omega

/-- A text behind its opening quote. -/
def text (ending : Ending) (input : Bytes) :
    Except Fault (Taken input.length String) :=
  match octetsToQuote ending [] input (Nat.le_refl _) with
  | .error fault => .error fault
  | .ok taken =>
    match Utf8.decode taken.value with
    | .ok text => .ok ⟨text, taken.rest, taken.shorter⟩
    | .error valid =>
      .error ⟨.codePointInvalid, .behind (taken.value.length - valid), taken.rest.length⟩

end Replay.Json
