import SlotDispatch.Number.Binary64
/-!
The shortest decimal of a number has the fewest digits among the decimals that round to the number,
and it is the nearest one among those. Of two nearest decimals it is the greater one.
-/

namespace SlotDispatch

/-- A decimal is its coefficient times ten to its exponent. -/
structure Decimal where
  coefficient : Nat
  exponent : Int
deriving DecidableEq, Repr

namespace Decimal

/-- This decimal has the same value, and its coefficient does not end in a zero. -/
def normalize (decimal : Decimal) : Decimal :=
  let rec strip : Nat → Nat → Int → Decimal
    | 0, coefficient, exponent => ⟨coefficient, exponent⟩
    | places + 1, coefficient, exponent =>
        if coefficient % 10 = 0 then strip places (coefficient / 10) (exponent + 1)
        else ⟨coefficient, exponent⟩
  strip (toString decimal.coefficient).length decimal.coefficient decimal.exponent

/-- This text writes a decimal in full, without an exponent and without places that say nothing. -/
def text (decimal : Decimal) : String :=
  let digits := toString decimal.coefficient
  if 0 ≤ decimal.exponent then
    digits ++ String.ofList (List.replicate decimal.exponent.toNat '0')
  else
    let places := (-decimal.exponent).toNat
    let padded := String.ofList (List.replicate (places + 1 - digits.length) '0') ++ digits
    let whole := padded.length - places
    String.ofList (padded.toList.take whole) ++ "." ++ String.ofList (padded.toList.drop whole)

end Decimal

/-- An interval holds the decimals that round to one number: its ends, the value of the number, and
whether the ends belong to it. All three are given as natural multiples of a common unit. -/
structure RoundingInterval where
  low : Nat
  value : Nat
  high : Nat
  closed : Bool
  /-- The unit is `1 / denominator`. -/
  denominator : Nat

namespace RoundingInterval

/-- The ends of the interval are the middles between the number and its two neighbours. A number
whose fraction is zero has a lower neighbour at half the distance. -/
def ofNumber (number : Binary64) : RoundingInterval :=
  let significand := number.significand
  let scale := number.exponent.toNat
  let isPowerOfTwo := significand = Binary64.fractionSize && 1 < number.exponentField
  { low := (if isPowerOfTwo then 4 * significand - 1 else 4 * significand - 2) <<< scale
    value := (4 * significand) <<< scale
    high := (4 * significand + 2) <<< scale
    closed := significand % 2 = 0
    denominator := 4 <<< (-number.exponent).toNat }

/-- This test tells whether a decimal lies in the interval. -/
def contains (interval : RoundingInterval) (decimal : Decimal) : Bool :=
  let numerator := decimal.coefficient * Nat.pow 10 decimal.exponent.toNat * interval.denominator
  let scale := Nat.pow 10 (-decimal.exponent).toNat
  let low := interval.low * scale
  let high := interval.high * scale
  if interval.closed then low ≤ numerator && numerator ≤ high
  else low < numerator && numerator < high

/-- On the grid of multiples of ten to the exponent, this is the point in the interval that is
nearest to the value. -/
def nearest? (interval : RoundingInterval) (exponent : Int) : Option Decimal :=
  let unit := interval.denominator * Nat.pow 10 exponent.toNat
  let value := interval.value * Nat.pow 10 (-exponent).toNat
  let below : Decimal := ⟨value / unit, exponent⟩
  let above : Decimal := ⟨value / unit + 1, exponent⟩
  match interval.contains below, interval.contains above with
  | true, true => some (if 2 * (value % unit) < unit then below else above)
  | true, false => some below
  | false, true => some above
  | false, false => none

/-- This is the number of digits in front of the point of the value, when the value has some, and
otherwise the negative number of zeros behind the point. -/
def leadingPlace (interval : RoundingInterval) : Int :=
  let digits (value : Nat) : Int := (toString value).length
  let estimate := digits interval.value - digits interval.denominator
  let reaches (place : Int) : Bool :=
    interval.denominator * Nat.pow 10 place.toNat ≤
      interval.value * Nat.pow 10 (-place).toNat
  if reaches estimate then estimate + 1 else estimate

end RoundingInterval

/-- Seventeen digits always tell a number apart, so the search over the digit counts ends there. -/
def Binary64.shortestDecimal (number : Binary64) : Decimal :=
  let interval := RoundingInterval.ofNumber number
  let place := interval.leadingPlace
  match (List.range 17).findSome? fun count => interval.nearest? (place - (count + 1 : Nat)) with
  | some decimal => decimal.normalize
  | none => ⟨0, 0⟩

/-- Integral numbers below this bound are written with one place after the point. -/
def Binary64.integralTextBound : Nat := 10000000000000000

/-- A number is written with one place when it is integral and small, and with its shortest decimal
otherwise. -/
def Binary64.text (number : Binary64) : String :=
  if number.isNaN then "nan"
  else
    let sign := if number.isNegative then "-" else ""
    if number.isInfinite then sign ++ "inf"
    else if number.isIntegral && number.truncate.natAbs < integralTextBound then
      sign ++ toString number.truncate.natAbs ++ ".0"
    else sign ++ number.shortestDecimal.text

end SlotDispatch
