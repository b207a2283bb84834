import Replay.Json.Source

/-!
# Numbers of a document

A numeral as it is written, and the number it stands for. Digits are collected
into a significand of 64 bits; digits that no longer fit are dropped and only
move the exponent. A numeral without point, exponent and dropped digits is an
integer, all others are binary64 values, computed in one fixed order of
operations, and refused where they exceed the largest finite value.
-/

namespace Replay.Json

/-- The exponent of a numeral. -/
structure Exponent where
  negative : Bool
  digits : Bytes
deriving DecidableEq

/-- A number as it is written. -/
structure Numeral where
  negative : Bool
  whole : Bytes
  fraction : Bytes
  exponent : Option Exponent
deriving DecidableEq

/-- A number as it is meant. -/
inductive Number where
  | natural (value : Nat)
  /-- The negative of a positive value of at most 2^63. -/
  | negative (value : Nat)
  | floating (value : Float)

/-- Whether an octet is an ASCII digit. -/
def isDigit (octet : UInt8) : Bool :=
  0x30 ≤ octet && octet ≤ 0x39

/-- The value of an ASCII digit. -/
def digitValue (octet : UInt8) : Nat :=
  octet.toNat - 0x30

theorem length_dropDigits_le (input : Bytes) :
    (input.dropWhile isDigit).length ≤ input.length :=
  (List.dropWhile_suffix isDigit).length_le

/-- The digits before the point: a zero alone, or digits that do not start with one. -/
def wholeDigits (ending : Ending) : Reader Bytes
  | [] => .error (ending.fault .endInValue)
  | first :: rest =>
    if !isDigit first then .error ⟨.numberInvalid, .consumed, rest.length⟩
    else if first = 0x30 then
      match rest with
      | [] => .ok ⟨[first], [], by simp⟩
      | next :: rest =>
        if isDigit next then .error ⟨.numberInvalid, .onNext, rest.length + 1⟩
        else .ok ⟨[first], next :: rest, by simp⟩
    else
      .ok ⟨first :: rest.takeWhile isDigit, rest.dropWhile isDigit,
        Nat.lt_succ_of_le (length_dropDigits_le rest)⟩

/-- The digits after the point, none if there is no point. -/
def fractionDigits (ending : Ending) (input : Bytes) :
    Except Fault (Taken (input.length + 1) Bytes) :=
  match input with
  | [] => .ok ⟨[], [], by simp⟩
  | point :: rest =>
    if point = 0x2E then
      match rest with
      | [] => .error (ending.fault .endInValue)
      | first :: rest =>
        if isDigit first then
          .ok ⟨first :: rest.takeWhile isDigit, rest.dropWhile isDigit,
            by have := length_dropDigits_le rest; simp; omega⟩
        else .error ⟨.numberInvalid, .onNext, rest.length + 1⟩
    else .ok ⟨[], point :: rest, by simp⟩

/-- The sign in front of the digits of an exponent. -/
def exponentSign (input : Bytes) : Bool × Bytes :=
  match input with
  | [] => (false, [])
  | sign :: rest =>
    if sign = 0x2B then (false, rest) else if sign = 0x2D then (true, rest) else (false, input)

theorem length_exponentSign_le (input : Bytes) :
    (exponentSign input).2.length ≤ input.length := by
  unfold exponentSign
  split
  · simp
  · repeat' split
    all_goals simp

/-- The exponent, if there is one. -/
def exponentPart (ending : Ending) (input : Bytes) :
    Except Fault (Taken (input.length + 1) (Option Exponent)) :=
  match input with
  | [] => .ok ⟨none, [], by simp⟩
  | mark :: rest =>
    if mark = 0x65 || mark = 0x45 then
      have signed := length_exponentSign_le rest
      match exponentSign rest, signed with
      | (_, []), _ => .error (ending.fault .endInValue)
      | (negative, first :: digits), signed =>
        if isDigit first then
          .ok ⟨some ⟨negative, first :: digits.takeWhile isDigit⟩, digits.dropWhile isDigit,
            by have := length_dropDigits_le digits; simp at signed; simp; omega⟩
        else .error ⟨.numberInvalid, .consumed, digits.length⟩
    else .ok ⟨none, mark :: rest, by simp⟩

/-- A numeral behind its sign. -/
def numeral (ending : Ending) (negative : Bool) : Reader Numeral := fun input =>
  match wholeDigits ending input with
  | .error fault => .error fault
  | .ok whole =>
    match fractionDigits ending whole.rest with
    | .error fault => .error fault
    | .ok fraction =>
      match exponentPart ending fraction.rest with
      | .error fault => .error fault
      | .ok exponent =>
        .ok ⟨⟨negative, whole.value, fraction.value, exponent.value⟩, exponent.rest, by
          have := whole.shorter
          have := fraction.shorter
          have := exponent.shorter
          omega⟩

/-- Append digits to a significand as long as the result has 64 bits; the count
is that of the digits appended. -/
def absorb (significand count : Nat) : Bytes → Nat × Nat
  | [] => (significand, count)
  | digit :: rest =>
    let extended := significand * 10 + digitValue digit
    if extended < UInt64.size then absorb extended (count + 1) rest else (significand, count)

/-- The digits of a numeral as a significand and a power of ten, exponent aside,
and whether a digit before the point was dropped. -/
def Numeral.significand (written : Numeral) : Nat × Int × Bool :=
  let (significand, used) := absorb 0 0 written.whole
  let dropped := written.whole.length - used
  let (significand, usedAfterPoint) := absorb significand 0 written.fraction
  (significand, (dropped : Int) - usedAfterPoint, dropped != 0)

/-- The value of the digits of an exponent, or the number of digits left when the
value exceeded 31 bits. -/
def exponentValue (value : Nat) : Bytes → Except Nat Nat
  | [] => .ok value
  | digit :: rest =>
    let extended := value * 10 + digitValue digit
    if extended < 0x80000000 then exponentValue extended rest else .error rest.length

/-- Ten to a power of at most 308, correctly rounded. -/
def powerOfTen (power : Nat) : Float :=
  Float.ofScientific 1 false power

/-- Multiply by a power of ten, in steps of 308 towards zero; none if the result
is infinite. -/
def scaleByTen (value : Float) (power : Int) : Option Float :=
  if power.natAbs ≤ 308 then
    if 0 ≤ power then
      let product := value * powerOfTen power.toNat
      if product.isInf then none else some product
    else some (value / powerOfTen power.natAbs)
  else if value == 0 then some value
  else if 0 ≤ power then none
  else scaleByTen (value / powerOfTen 308) (power + 308)
termination_by power.natAbs
decreasing_by omega

/-- Give a binary64 value its sign. -/
def withSign (negative : Bool) (value : Float) : Float :=
  if negative then -value else value

/-- The number that an integer significand stands for. -/
def integerNumber (negative : Bool) (significand : Nat) : Number :=
  if !negative then .natural significand
  else if 0 < significand && significand ≤ 0x8000000000000000 then .negative significand
  else .floating (-(Float.ofNat significand))

/-- The number that a numeral stands for. A numeral out of range is an error
that counts the digits of the exponent not yet consumed when that was certain,
or counts none if all of the numeral had to be read. -/
def Numeral.number (written : Numeral) : Except (Option Nat) Number :=
  let (significand, power, dropped) := written.significand
  let floating := fun (power : Int) =>
    match scaleByTen (Float.ofNat significand) power with
    | some value => Except.ok (.floating (withSign written.negative value))
    | none => Except.error none
  match written.exponent with
  | none =>
    if written.fraction.isEmpty && !dropped then
      .ok (integerNumber written.negative significand)
    else floating power
  | some exponent =>
    match exponentValue 0 exponent.digits with
    | .ok value => floating (if exponent.negative then power - value else power + value)
    | .error left =>
      if significand ≠ 0 && !exponent.negative then .error (some left)
      else .ok (.floating (withSign written.negative 0))

/-- A number behind its sign. The end of a number is known only from the octet
after it, so a source that fails there fails the number. -/
def number (ending : Ending) (negative : Bool) : Reader Number := fun input =>
  match numeral ending negative input with
  | .error fault => .error fault
  | .ok taken =>
    match taken.value.number with
    | .error (some left) => .error ⟨.numberOutOfRange, .consumed, taken.rest.length + left⟩
    | .error none =>
      if taken.rest.isEmpty && ending.failure?.isSome then .error (ending.fault .endInValue)
      else .error ⟨.numberOutOfRange, .beforeNext, taken.rest.length⟩
    | .ok number =>
      if taken.rest.isEmpty && ending.failure?.isSome then .error (ending.fault .endInValue)
      else .ok ⟨number, taken.rest, taken.shorter⟩

end Replay.Json
