import SlotDispatch.Number.Register
/-!
Integers of 64 bits with a sign. An operation computes with whole integers and then asks whether the
result fits; a quotient rounds down, and a remainder has the sign of the divisor. Divisions and powers
modulo a number compute in registers, and shifts move the bits of a word.
-/

namespace SlotDispatch.Word

/-- An integer fits when it lies between `-2 ^ 63` and `2 ^ 63 - 1`. -/
def Fits (value : Int) : Prop :=
  -0x8000000000000000 ≤ value ∧ value < 0x8000000000000000

instance (value : Int) : Decidable (Fits value) :=
  inferInstanceAs (Decidable (_ ∧ _))

/-- This is the word of an integer that fits. -/
def ofInt? (value : Int) : Option Int64 :=
  if Fits value then some (Int64.ofInt value) else none

theorem fits_toInt (word : Int64) : Fits word.toInt :=
  ⟨Int64.le_toInt word, Int64.toInt_lt word⟩

@[simp] theorem ofInt?_toInt (word : Int64) : ofInt? word.toInt = some word := by
  simp [ofInt?, fits_toInt]

theorem ofInt?_eq_none_iff {value : Int} : ofInt? value = none ↔ ¬Fits value := by
  simp [ofInt?]

/-- This is the word that steps in registers compute, when they compute one. -/
def ofSteps? : Except Fault Int → Option Int64
  | .ok exact => some (Int64.ofInt exact)
  | .error _ => none

/-- This is the quotient rounded down, for a divisor other than zero. -/
def floorDivide? (dividend divisor : Int64) : Option Int64 :=
  ofSteps? (Register.floorQuotient dividend.toInt divisor.toInt)

/-- This is the remainder of the quotient that is rounded down, for a divisor other than zero. Its steps
never break off. -/
def floorRemainder (dividend divisor : Int64) : Int64 :=
  (ofSteps? (Register.floorRemainder dividend.toInt divisor.toInt)).getD 0

/-- A count of places has 32 bits without a sign. -/
def placeCount? (places : Int64) : Option UInt32 :=
  if 0 ≤ places.toInt ∧ places.toInt < 0x100000000 then some (UInt32.ofNat places.toInt.toNat)
  else none

/-- A word moves by fewer places than it has bits, and the bits that leave it at the top are lost. -/
def moveLeft? (word : Int64) (count : UInt32) : Option Int64 :=
  if count < 64 then some (word <<< Int64.ofNat count.toNat) else none

/-- A left shift has lost nothing when the right shift gives the word back. Zero is not moved at
all. -/
def shiftLeft? (word places : Int64) : Option Int64 :=
  if word = 0 then some 0
  else ((placeCount? places).bind (moveLeft? word)).filter fun moved => moved >>> places = word

/-- A right shift keeps the sign, and 64 places leave nothing else. -/
def shiftRight (word places : Int64) : Int64 :=
  if 64 ≤ places.toInt then
    if word.toInt < 0 then -1 else 0
  else word >>> places

/-- This is the power of a base, for an exponent of at least zero. Beyond the exponent 63 only the
bases -1, 0, and 1 have a power that fits. -/
def power? (base exponent : Int64) : Option Int64 :=
  if base = 0 then some (if exponent = 0 then 1 else 0)
  else if base = 1 then some 1
  else if base = -1 then some (if exponent.toInt % 2 = 0 then 1 else -1)
  else if 64 ≤ exponent.toInt then none
  else ofInt? (base.toInt.pow exponent.toInt.toNat)

/-- This is the power modulo a number, for an exponent of at least zero and a modulus other than
zero. Its sign is the sign of the modulus, and its steps never break off. -/
def powerModulo (base exponent modulus : Int64) : Int64 :=
  (ofSteps? (Register.powerModulo base.toInt exponent.toInt.toNat modulus.toInt)).getD 0

end SlotDispatch.Word
