/-!
Numbers of the binary64 format, held as their 64 bits. A finite number has the exact value of its
significand times a power of two, and a quotient of natural numbers rounds to the nearest number,
where a tie goes to the even significand.
-/

namespace SlotDispatch

/-- A binary64 number is its word of sign, exponent field, and fraction field. -/
structure Binary64 where
  bits : UInt64
deriving DecidableEq, Repr

namespace Binary64

/-- The fraction field has 52 bits. -/
def fractionSize : Nat := 0x10000000000000

/-- This word is the positive infinity, and the magnitudes above it are not numbers. -/
def infinityMagnitude : Nat := 2047 * fractionSize

/-- The sign bit has this weight. -/
def signWeight : Nat := 0x8000000000000000

/-- This is the word without its sign bit. -/
def magnitude (number : Binary64) : Nat :=
  number.bits.toNat % signWeight

/-- The sign bit tells negative numbers, with the negative zero among them. -/
def isNegative (number : Binary64) : Bool :=
  signWeight ≤ number.bits.toNat

/-- This number has the given sign bit and the given magnitude word. -/
def ofMagnitude (negative : Bool) (magnitude : Nat) : Binary64 :=
  ⟨UInt64.ofNat (if negative then signWeight + magnitude else magnitude)⟩

/-- The zero of positive sign. -/
def zero : Binary64 := ⟨0⟩

/-- This is the number one. -/
def one : Binary64 := ⟨0x3FF0000000000000⟩

/-- The infinity of the given sign. -/
def infinity (negative : Bool) : Binary64 :=
  ofMagnitude negative infinityMagnitude

/-- A quiet datum that is not a number has the first bit of its fraction set. -/
def quietBit : Nat := 0x8000000000000

/-- An invalid operation on numbers answers the quiet datum of negative sign. -/
def invalid : Binary64 :=
  ofMagnitude true (infinityMagnitude + quietBit)

/-- This test tells the data that are not numbers. -/
def isNaN (number : Binary64) : Bool :=
  infinityMagnitude < number.magnitude

/-- This test tells the two infinities. -/
def isInfinite (number : Binary64) : Bool :=
  number.magnitude = infinityMagnitude

/-- This test tells the numbers with an exact value. -/
def isFinite (number : Binary64) : Bool :=
  number.magnitude < infinityMagnitude

/-- This test tells the two zeros. -/
def isZero (number : Binary64) : Bool :=
  number.magnitude = 0

/-- A signaling datum is not a number and does not have the quiet bit. -/
def isSignaling (number : Binary64) : Bool :=
  number.isNaN && number.magnitude < infinityMagnitude + quietBit

/-- This is the datum with its quiet bit set. -/
def quiet (number : Binary64) : Binary64 :=
  ⟨number.bits ||| UInt64.ofNat quietBit⟩

/-- This is the exponent field of the word. -/
def exponentField (number : Binary64) : Nat :=
  number.magnitude / fractionSize

/-- A normal number has a hidden leading bit in front of its fraction. -/
def significand (number : Binary64) : Nat :=
  let fraction := number.magnitude % fractionSize
  if number.exponentField = 0 then fraction else fractionSize + fraction

/-- The value of a finite number is its significand times two to this power. -/
def exponent (number : Binary64) : Int :=
  (max number.exponentField 1 : Nat) - 1075

/-- The magnitudes of two numbers are ordered as their words, and a sign reverses the order. -/
def orderKey (number : Binary64) : Int :=
  if number.isNegative then -number.magnitude else number.magnitude

/-- Two numbers compare by value, and a datum that is not a number is unordered. -/
def compare? (left right : Binary64) : Option Ordering :=
  if left.isNaN || right.isNaN then none else some (compare left.orderKey right.orderKey)

/-- Two numbers are equal when they compare as equal. -/
def equals (left right : Binary64) : Bool :=
  left.compare? right = some .eq

/-- This is the quotient rounded to the nearest integer, where a tie goes to the even one. -/
def roundQuotient (numerator denominator : Nat) : Nat :=
  let quotient := numerator / denominator
  let rest := numerator % denominator
  if 2 * rest > denominator || (2 * rest = denominator && quotient % 2 = 1) then quotient + 1
  else quotient

/-- This is the quotient of the numbers `numerator` and `denominator * 2 ^ exponent`, as a pair of
natural numbers. -/
def scaledQuotient (numerator denominator : Nat) (exponent : Int) : Nat × Nat :=
  (numerator <<< (-exponent).toNat, denominator <<< exponent.toNat)

/-- The significand of a normal number has 53 bits, which fixes the exponent of a quotient. -/
def exponentOfQuotient (numerator denominator : Nat) : Int :=
  let estimate : Int := (numerator.log2 : Int) - denominator.log2 - 52
  let scaled := scaledQuotient numerator denominator estimate
  let fitted := if scaled.1 < scaled.2 * fractionSize then estimate - 1 else estimate
  max fitted (-1074)

/-- This is the nearest number to a quotient, and infinity when the quotient is out of range. -/
def ofQuotient (negative : Bool) (numerator denominator : Nat) : Binary64 :=
  if numerator = 0 then
    ofMagnitude negative 0
  else
    let exponent := exponentOfQuotient numerator denominator
    let scaled := scaledQuotient numerator denominator exponent
    let significand := roundQuotient scaled.1 scaled.2
    ofMagnitude negative
      (min ((exponent + 1074).toNat * fractionSize + significand) infinityMagnitude)

/-- This is the nearest number to `significand * 2 ^ exponent`. -/
def ofScaled (negative : Bool) (significand : Nat) (exponent : Int) : Binary64 :=
  ofQuotient negative (significand <<< exponent.toNat) (1 <<< (-exponent).toNat)

/-- This is the nearest number to an integer. -/
def ofInt (value : Int) : Binary64 :=
  ofQuotient (value < 0) value.natAbs 1

/-- This is the value of a finite number without its places after the point. -/
def truncate (number : Binary64) : Int :=
  let whole := number.significand <<< number.exponent.toNat >>> (-number.exponent).toNat
  if number.isNegative then -whole else whole

/-- A finite number is integral when it has no places after the point. -/
def isIntegral (number : Binary64) : Bool :=
  number.isFinite && number.significand % (1 <<< (-number.exponent).toNat) = 0

/-- This test tells the odd integers. -/
def isOdd (number : Binary64) : Bool :=
  number.isIntegral && number.truncate % 2 = 1

/-- This operation exchanges the sign. -/
def negate (number : Binary64) : Binary64 :=
  ofMagnitude (!number.isNegative) number.magnitude

/-- This operation drops the sign. -/
def absolute (number : Binary64) : Binary64 :=
  ofMagnitude false number.magnitude

/-- This is the number for the hardware. -/
def toFloat (number : Binary64) : Float :=
  Float.ofBits number.bits

/-- A result that is not a number is the first such operand, or the invalid datum. -/
def ofResult (left right : Binary64) (result : Float) : Binary64 :=
  if result.isNaN then
    if left.isNaN then left.quiet else if right.isNaN then right.quiet else invalid
  else ⟨result.toBits⟩

/-- This is the rounded sum. -/
def add (left right : Binary64) : Binary64 :=
  ofResult left right (left.toFloat + right.toFloat)

/-- This is the rounded difference. -/
def subtract (left right : Binary64) : Binary64 :=
  ofResult left right (left.toFloat - right.toFloat)

/-- This is the rounded product. -/
def multiply (left right : Binary64) : Binary64 :=
  ofResult left right (left.toFloat * right.toFloat)

/-- This is the rounded quotient. -/
def divide (left right : Binary64) : Binary64 :=
  ofResult left right (left.toFloat / right.toFloat)

/-- A power with the exponent zero or with the base one is one, whatever the other operand is,
unless that operand is signaling. A base that is not a number loses its sign under an odd
exponent. -/
def power (left right : Binary64) : Binary64 :=
  if left.isNaN then
    if right.isZero && !left.isSignaling then one
    else if right.isOdd then left.quiet.absolute
    else left.quiet
  else if right.isNaN then
    if left = one && !right.isSignaling then one else right.quiet
  else ofResult left right (left.toFloat.pow right.toFloat)

/-- This is the greatest integral number that is at most the number. -/
def floor (number : Binary64) : Binary64 :=
  ofResult number number number.toFloat.floor

/-- This is the greatest integral number that is at most the rounded quotient. -/
def floorDivide (left right : Binary64) : Binary64 :=
  (left.divide right).floor

/-- This is the exact remainder of the quotient that is rounded toward zero, with the sign of the
left number. -/
def truncatedRemainder (left right : Binary64) : Binary64 :=
  if left.isNaN then left.quiet
  else if right.isNaN then right.quiet
  else if left.isInfinite || right.isZero then invalid
  else if right.isInfinite then left
  else
    let common := min left.exponent right.exponent
    let scale (number : Binary64) : Nat :=
      number.significand <<< (number.exponent - common).toNat
    ofScaled left.isNegative (scale left % scale right) common

/-- The remainder of a division has the sign of the divisor. -/
def remainder (left right : Binary64) : Binary64 :=
  let rest := left.truncatedRemainder right
  let isBelow (number : Binary64) : Bool := number.compare? zero = some .lt
  if !rest.equals zero && isBelow rest ≠ isBelow right then rest.add right else rest

end Binary64

end SlotDispatch
