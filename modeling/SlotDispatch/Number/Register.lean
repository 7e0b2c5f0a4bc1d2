/-!
Computations in registers. A step puts its exact result into a register of 64 or of 128 bits with a
sign. A result that does not fit is reported, or it breaks the computation off. The quotient and the
remainder of a division, and the power modulo a number, are computed in such steps.
-/

namespace SlotDispatch

/-- A register has 64 or 128 bits with a sign. -/
inductive Register where
  | single | double
deriving DecidableEq, Repr

/-- A step with a result that does not fit reports it, or it breaks the computation off. -/
inductive Fault where
  | reported | broken
deriving DecidableEq, Repr

namespace Register

/-- The integers in a register lie below this bound. -/
def bound : Register → Int
  | .single => 0x8000000000000000
  | .double => 0x80000000000000000000000000000000

/-- An integer fits a register when it lies between the bound and its negative, without the bound. -/
def Fits (register : Register) (value : Int) : Prop :=
  -register.bound ≤ value ∧ value < register.bound

instance (register : Register) (value : Int) : Decidable (register.Fits value) :=
  inferInstanceAs (Decidable (_ ∧ _))

/-- A step keeps an exact result that fits its register. -/
def keep (register : Register) (fault : Fault) (exact : Int) : Except Fault Int :=
  if register.Fits exact then .ok exact else .error fault

/-! ### Division -/

/-- A quotient is rounded to zero, and there is none for a divisor that is zero. -/
def quotient (fault : Fault) (dividend divisor : Int) : Except Fault Int :=
  if divisor = 0 then .error fault else single.keep fault (dividend.tdiv divisor)

/-- A rest has the sign of the dividend, also when the quotient does not fit. -/
def rest (dividend divisor : Int) : Except Fault Int :=
  if divisor = 0 then .error .broken else single.keep .broken (dividend.tmod divisor)

/-- The rest of a division breaks off when the quotient does not fit. -/
def strictRest (dividend divisor : Int) : Except Fault Int := do
  let _ ← quotient .broken dividend divisor
  rest dividend divisor

/-- A remainder is the rest, or the sum of the rest and the divisor when their signs differ. -/
def floorRemainder (dividend divisor : Int) : Except Fault Int := do
  let rest ← rest dividend divisor
  if rest ≠ 0 ∧ decide (rest < 0) ≠ decide (divisor < 0) then
    single.keep .broken (rest + divisor)
  else return rest

/-- A quotient that is rounded down is the one that is rounded to zero, or the number below it when
the signs differ and there is a rest. -/
def floorQuotient (dividend divisor : Int) : Except Fault Int := do
  let quotient ← quotient .reported dividend divisor
  let rest ← strictRest dividend divisor
  if rest ≠ 0 ∧ decide (dividend < 0) ≠ decide (divisor < 0) then
    single.keep .reported (quotient - 1)
  else return quotient

/-! ### Power -/

/-- A product modulo a size is the product in a wide register and then its residue. -/
def timesModulo (size left right : Int) : Except Fault Int := do
  let product ← double.keep .broken (left * right)
  double.keep .broken (product % size)

/-- A power is multiplied to the result for every bit of the exponent that is set, and it is squared
from bit to bit. -/
def powerLoop (size : Int) : Nat → Int → Nat → Int → Except Fault Int
  | 0, _, _, result => return result
  | bits + 1, base, exponent, result =>
      if exponent = 0 then return result
      else do
        let product ← if exponent % 2 = 1 then timesModulo size result base else pure result
        let square ← timesModulo size base base
        powerLoop size bits square (exponent / 2) product

/-- A power modulo a number is a residue in a wide register, and a narrow register takes it with the
sign of the modulus. An exponent of a word that is not negative has 63 bits. -/
def powerModulo (base : Int) (exponent : Nat) (modulus : Int) : Except Fault Int := do
  let size ← double.keep .broken modulus.natAbs
  let residue ← double.keep .broken (base % size)
  let power ← powerLoop size 63 residue exponent 1
  let narrow ← single.keep .broken (power.tmod size)
  floorRemainder narrow modulus

end Register

end SlotDispatch
