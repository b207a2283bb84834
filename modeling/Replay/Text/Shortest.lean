/-!
# Shortest text of a binary64 value

The fewest significant decimal digits that still identify a finite binary64
value among its neighbours, and their layout. Digits are chosen in exact integer
arithmetic: a decimal identifies the value when it lies among the reals that
round to it, the ends of that interval included exactly when the significand is
even. Of two shortest decimals the nearer is taken, of two equally near ones the
even one.
-/

namespace Replay.Shortest

/-- A positive value `significand * 2 ^ exponent` of binary64. Below a power of
two the gap to the next smaller value is half the gap to the next larger one. -/
structure Binary where
  significand : Nat
  exponent : Int
  gapBelowIsHalf : Bool

/-- The magnitude of the value with the given bits, which are those of a finite
value. -/
def Binary.ofBits (bits : UInt64) : Binary :=
  let biased : Nat := bits.toNat / Nat.pow 2 52 % Nat.pow 2 11
  let fraction : Nat := bits.toNat % Nat.pow 2 52
  if biased = 0 then ⟨fraction, -1074, false⟩
  else ⟨Nat.pow 2 52 + fraction, (biased : Int) - 1075, fraction == 0 && biased > 1⟩

/-- The number `digits * 10 ^ exponent`. -/
structure Decimal where
  digits : Nat
  exponent : Int
deriving DecidableEq, Repr

/-- Numerator and denominator of `count * 2 ^ (binary exponent - 2) / 10 ^ power`. -/
def quarters (value : Binary) (count : Nat) (power : Int) : Nat × Nat :=
  let shift := value.exponent - 2
  (count * Nat.pow 2 shift.toNat * Nat.pow 10 (-power).toNat,
    Nat.pow 2 (-shift).toNat * Nat.pow 10 power.toNat)

/-- Compare `digits` with a count of quarter units, both at the given power of ten. -/
def compareQuarters (value : Binary) (digits count : Nat) (power : Int) : Ordering :=
  let (numerator, denominator) := quarters value count power
  compare (digits * denominator) numerator

/-- Whether the decimal lies among the reals that round to the value. -/
def identifies (value : Binary) (decimal : Decimal) : Bool :=
  let low := 4 * value.significand - (if value.gapBelowIsHalf then 1 else 2)
  let high := 4 * value.significand + 2
  let closed := value.significand % 2 == 0
  let toLow := compareQuarters value decimal.digits low decimal.exponent
  let toHigh := compareQuarters value decimal.digits high decimal.exponent
  (toLow == .gt || (closed && toLow == .eq)) && (toHigh == .lt || (closed && toHigh == .eq))

/-- The power of ten just above the value. -/
def scale (value : Binary) : Int :=
  let (numerator, denominator) := quarters value (4 * value.significand) (-400)
  ((Nat.toDigits 10 (numerator / denominator)).length : Int) - 400

/-- The decimal with the given number of digits that identifies the value and is
nearest to it, if there is one. -/
def withDigits? (value : Binary) (count : Nat) : Option Decimal :=
  let power := scale value - count
  let (numerator, denominator) := quarters value (4 * value.significand) power
  let below : Decimal := ⟨numerator / denominator, power⟩
  let above : Decimal := ⟨numerator / denominator + 1, power⟩
  let nearer := match compare (2 * numerator) ((below.digits + above.digits) * denominator) with
    | .lt => below
    | .gt => above
    | .eq => if below.digits % 2 == 0 then below else above
  match identifies value below, identifies value above with
  | true, true => some nearer
  | true, false => some below
  | false, true => some above
  | false, false => none

/-- The exact decimal of a value. -/
def exact (value : Binary) : Decimal :=
  match value.exponent with
  | .ofNat power => ⟨value.significand * Nat.pow 2 power, 0⟩
  | .negSucc power => ⟨value.significand * Nat.pow 5 (power + 1), .negSucc power⟩

/-- Move trailing zeros of the digits into the exponent, at most `steps` of them. -/
def stripZeros : (steps : Nat) → Decimal → Decimal
  | 0, decimal => decimal
  | steps + 1, decimal =>
    if decimal.digits ≠ 0 && decimal.digits % 10 = 0 then
      stripZeros steps ⟨decimal.digits / 10, decimal.exponent + 1⟩
    else decimal

/-- The shortest decimal that identifies a positive value. Seventeen digits
always suffice. -/
def shortest (value : Binary) : Decimal :=
  stripZeros 20 (((List.range 17).findSome? fun count => withDigits? value (count + 1)).getD
    (exact value))

/-- Positional notation from 10^-5 up to 10^16, with at least one digit on each
side of the point; otherwise one digit before the point, no point without a
fraction, and a signed exponent. -/
def layout (decimal : Decimal) : String :=
  let digits := Nat.toDigits 10 decimal.digits
  let point := (digits.length : Int) + decimal.exponent
  let zeros := fun (count : Int) => List.replicate count.toNat '0'
  String.ofList <|
    if -5 < point && point ≤ 16 then
      if point ≤ 0 then '0' :: '.' :: (zeros (-point) ++ digits)
      else if decimal.exponent ≥ 0 then digits ++ zeros decimal.exponent ++ ['.', '0']
      else digits.take point.toNat ++ '.' :: digits.drop point.toNat
    else
      let power := point - 1
      let sign := if power < 0 then '-' else '+'
      let fraction := if digits.length = 1 then [] else '.' :: digits.drop 1
      digits.take 1 ++ fraction ++ 'e' :: sign :: Nat.toDigits 10 power.natAbs

/-- The shortest text of a finite value. -/
def render (value : Float) : String :=
  let bits := value.toBits
  let sign := if bits.toNat / Nat.pow 2 63 = 1 then "-" else ""
  let magnitude := Binary.ofBits bits
  if magnitude.significand = 0 then sign ++ "0.0"
  else sign ++ layout (shortest magnitude)

end Replay.Shortest
