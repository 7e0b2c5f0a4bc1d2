import Mathlib.Data.Int.ModEq
import Mathlib.Tactic.Ring
import SlotDispatch.Proofs.Number.Division
/-!
Powers of words. The main statements say when a power of a word fits a word, that a power modulo a number
is the one rest that is congruent to the power, and that the steps in registers compute it and break off
nowhere.
-/

namespace SlotDispatch

/-! ### Plain powers -/

namespace Word

/-- A number other than -1, 0, and 1 has no power beyond the exponent 63 that fits. -/
theorem not_fits_pow {base : Int} (isLarge : 2 ≤ base.natAbs) {exponent : Nat}
    (isBeyond : 64 ≤ exponent) : ¬Fits (base ^ exponent) := by
  have isPower : 2 ^ 64 ≤ (base ^ exponent).natAbs := by
    calc 2 ^ 64 ≤ 2 ^ exponent := Nat.pow_le_pow_right (by decide) isBeyond
      _ ≤ base.natAbs ^ exponent := Nat.pow_le_pow_left isLarge exponent
      _ = (base ^ exponent).natAbs := (Int.natAbs_pow base exponent).symm
  unfold Fits
  omega

/-- The power of -1 depends on the parity of the exponent. -/
theorem neg_one_pow_eq (exponent : Nat) :
    (-1 : Int) ^ exponent = if (exponent : Int) % 2 = 0 then 1 else -1 := by
  rcases Nat.even_or_odd exponent with isEven | isOdd
  · have isEvenHere := Nat.even_iff.1 isEven
    rw [isEven.neg_one_pow, if_pos (by omega)]
  · have isOddHere := Nat.odd_iff.1 isOdd
    rw [isOdd.neg_one_pow, if_neg (by omega)]

/-- The power of a word is the exact power if that fits a word. -/
theorem power?_eq (base exponent : Int64) (isExponent : 0 ≤ exponent.toInt) :
    power? base exponent = ofInt? (base.toInt ^ exponent.toInt.toNat) := by
  have isNumber : (exponent.toInt.toNat : Int) = exponent.toInt := Int.toNat_of_nonneg isExponent
  unfold power?
  split
  · next isZero =>
      subst isZero
      by_cases isNone : exponent = 0
      · subst isNone
        rfl
      · have hasExponent : exponent.toInt.toNat ≠ 0 := by
          intro isNothing
          refine isNone (Int64.toInt_inj.1 ?_)
          rw [← isNumber, isNothing]
          rfl
        have isPower : (Int64.toInt 0) ^ exponent.toInt.toNat = 0 := zero_pow hasExponent
        rw [if_neg isNone, isPower]
        rfl
  · next hasBase =>
      split
      · next isOne =>
          have isPower : (Int64.toInt 1) ^ exponent.toInt.toNat = 1 := one_pow _
          rw [isOne, isPower]
          rfl
      · next isOther =>
          split
          · next isMinus =>
              have isPower := neg_one_pow_eq exponent.toInt.toNat
              rw [isNumber] at isPower
              rw [isMinus, show Int64.toInt (-1) = -1 from rfl, isPower]
              split <;> rfl
          · next isNoUnit =>
              split
              · next isBeyond =>
                  have isLarge : 2 ≤ base.toInt.natAbs := by
                    have notZero : base.toInt ≠ 0 := fun same => hasBase (Int64.toInt_inj.1 same)
                    have notOne : base.toInt ≠ 1 := fun same => isOther (Int64.toInt_inj.1 same)
                    have notMinus : base.toInt ≠ -1 := fun same =>
                      isNoUnit (Int64.toInt_inj.1 same)
                    omega
                  exact (ofInt?_eq_none_iff.2 (not_fits_pow isLarge (by omega))).symm
              · rfl

/-! ### Powers modulo a number -/

/-- A number is a power modulo another number when it is congruent to the power and a rest for the
modulus. -/
structure IsModularPower (base : Int) (exponent : Nat) (modulus rest : Int) : Prop where
  congruent : rest ≡ base ^ exponent [ZMOD modulus]
  isRest : IsRest rest modulus

variable {base modulus : Int} {exponent : Nat}

/-- There is one power modulo a number. -/
theorem IsModularPower.unique {rest other : Int} (isPower : IsModularPower base exponent modulus rest)
    (isOther : IsModularPower base exponent modulus other) : rest = other := by
  obtain ⟨count, isCount⟩ := (isPower.congruent.trans isOther.congruent.symm).dvd
  have divides : Divides rest modulus 0 rest := .of_isRest isPower.isRest (by omega)
  have dividesOther : Divides rest modulus (-count) other :=
    .of_isRest isOther.isRest (by rw [Int.mul_neg]; omega)
  exact (divides.unique dividesOther).2

/-- A residue that is congruent to a power has the rest that is the power modulo the number. -/
theorem isModularPower_fmod (isNonzero : modulus ≠ 0) {power : Int}
    (congruent : power ≡ base ^ exponent [ZMOD modulus]) :
    IsModularPower base exponent modulus (power.fmod modulus) where
  congruent := by
    refine Int.ModEq.trans ?_ congruent
    rw [Int.fmod_def]
    exact Int.modEq_iff_dvd.2 ⟨power.fdiv modulus, by omega⟩
  isRest := isRest_fmod isNonzero

/-- A power is the power of the square to half of the exponent, times the base for an odd exponent. -/
theorem pow_eq_square_pow (base : Int) (exponent : Nat) :
    base ^ exponent = (if exponent % 2 = 1 then base else 1) * (base * base) ^ (exponent / 2) := by
  conv_lhs => rw [← Nat.mod_add_div exponent 2, pow_add, pow_mul, pow_two]
  rcases Nat.mod_two_eq_zero_or_one exponent with isEven | isOdd
  · rw [isEven, pow_zero, if_neg Nat.zero_ne_one]
  · rw [isOdd, pow_one, if_pos rfl]

theorem modEq_natAbs {left right : Int} :
    left ≡ right [ZMOD (modulus.natAbs : Int)] ↔ left ≡ right [ZMOD modulus] := by
  rw [Int.modEq_iff_dvd, Int.modEq_iff_dvd, Int.natAbs_dvd]

end Word

/-! ### Steps in registers -/

namespace Register

variable {size base left right result : Int}

/-- The product of two numbers that are not greater than a size fits a wide register. -/
theorem timesModulo_eq (isPositive : 0 < size) (isSize : size ≤ single.bound) (isLeft : 0 ≤ left)
    (isLeftSmall : left ≤ single.bound) (isRight : 0 ≤ right) (isRightSmall : right ≤ single.bound) :
    timesModulo size left right = .ok (left * right % size) := by
  have isProduct : 0 ≤ left * right := Int.mul_nonneg isLeft isRight
  have isSmall : left * right ≤ single.bound * single.bound :=
    Int.mul_le_mul isLeftSmall isRightSmall isRight (by decide)
  have isLess : single.bound * single.bound < double.bound := by decide
  have isResidue : 0 ≤ left * right % size := Int.emod_nonneg _ (by omega)
  have isResidueSmall : left * right % size < size := Int.emod_lt_of_pos _ isPositive
  have isWide : single.bound < double.bound := by decide
  have isBelow : -double.bound ≤ 0 := by decide
  rw [timesModulo, keep_of_fits ⟨by omega, by omega⟩]
  exact keep_of_fits ⟨by omega, by omega⟩

/-- With a step for every bit of the exponent the steps of a power never break off, and they multiply
the power to the result. -/
theorem powerLoop_ok {bits exponent : Nat} (isPositive : 0 < size) (isSize : size ≤ single.bound)
    (isShort : exponent < 2 ^ bits) (isBase : 0 ≤ base) (isBaseSmall : base ≤ single.bound)
    (isResult : 0 ≤ result) (isResultSmall : result ≤ single.bound) :
    ∃ power, powerLoop size bits base exponent result = .ok power ∧ 0 ≤ power ∧
      power ≡ result * base ^ exponent [ZMOD size] := by
  have isBelow : ∀ number : Int, 0 ≤ number % size ∧ number % size ≤ single.bound := by
    intro number
    have isLess := Int.emod_lt_of_pos number isPositive
    exact ⟨Int.emod_nonneg _ (by omega), by omega⟩
  induction bits generalizing base exponent result with
  | zero =>
      obtain rfl : exponent = 0 := by omega
      refine ⟨result, rfl, isResult, ?_⟩
      rw [pow_zero, mul_one]
  | succ bits inductionHypothesis =>
      rw [powerLoop]
      split
      · next isZero =>
          refine ⟨result, rfl, isResult, ?_⟩
          rw [isZero, pow_zero, mul_one]
      · have isShorter : exponent / 2 < 2 ^ bits := by omega
        obtain ⟨isSquare, isSquareSmall⟩ := isBelow (base * base)
        have square := timesModulo_eq isPositive isSize isBase isBaseSmall isBase isBaseSmall
        rw [Word.pow_eq_square_pow base exponent, ← mul_assoc]
        by_cases isOdd : exponent % 2 = 1
        · obtain ⟨isProduct, isProductSmall⟩ := isBelow (result * base)
          obtain ⟨power, isPower, isNatural, congruent⟩ := inductionHypothesis isShorter isSquare
            isSquareSmall isProduct isProductSmall
          refine ⟨power, ?_, isNatural, congruent.trans ?_⟩
          · rw [if_pos isOdd, timesModulo_eq isPositive isSize isResult isResultSmall isBase
              isBaseSmall, square]
            exact isPower
          · rw [if_pos isOdd]
            exact (Int.mod_modEq _ _).mul ((Int.mod_modEq _ _).pow _)
        · obtain ⟨power, isPower, isNatural, congruent⟩ := inductionHypothesis isShorter isSquare
            isSquareSmall isResult isResultSmall
          refine ⟨power, ?_, isNatural, congruent.trans ?_⟩
          · rw [if_neg isOdd, square]
            exact isPower
          · rw [if_neg isOdd, mul_one]
            exact Int.ModEq.rfl.mul ((Int.mod_modEq _ _).pow _)

/-- The steps of a power modulo a number never break off, and they give this power. -/
theorem powerModulo_ok {modulus : Int} {exponent : Nat} (isWord : single.Fits modulus)
    (isNonzero : modulus ≠ 0) (isShort : exponent < 2 ^ 63) :
    ∃ power, powerModulo base exponent modulus = .ok power ∧
      Word.IsModularPower base exponent modulus power := by
  obtain ⟨size, isSize⟩ : ∃ size : Int, size = modulus.natAbs := ⟨_, rfl⟩
  have isSingle : single.bound = 0x8000000000000000 := rfl
  have isDouble : double.bound = 0x80000000000000000000000000000000 := rfl
  have isPositive : 0 < size := by omega
  have isSmall : size ≤ single.bound := by
    obtain ⟨isLow, isHigh⟩ := isWord
    omega
  have isResidue : 0 ≤ base % size := Int.emod_nonneg _ (by omega)
  have isResidueSmall : base % size < size := Int.emod_lt_of_pos _ isPositive
  obtain ⟨power, isPower, isNatural, congruent⟩ := powerLoop_ok isPositive isSmall isShort isResidue
    (by omega) Int.one_nonneg (by decide)
  have isRest : power.tmod size = power % size := Int.tmod_eq_emod_of_nonneg isNatural
  have isRestNatural : 0 ≤ power % size := Int.emod_nonneg _ (by omega)
  have isRestSmall : power % size < size := Int.emod_lt_of_pos _ isPositive
  refine ⟨(power % size).fmod modulus, ?_, Word.isModularPower_fmod isNonzero ?_⟩
  · rw [powerModulo, ← isSize, keep_of_fits ⟨by omega, by omega⟩, ok_bind,
      keep_of_fits ⟨by omega, by omega⟩, ok_bind, isPower, ok_bind, isRest,
      keep_of_fits ⟨by omega, by omega⟩, ok_bind]
    exact floorRemainder_eq isWord isNonzero
  · rw [← Word.modEq_natAbs, ← isSize]
    rw [one_mul] at congruent
    exact (Int.mod_modEq _ _).trans (congruent.trans ((Int.mod_modEq _ _).pow _))

end Register

/-! ### Words -/

namespace Word

/-- The power of words modulo a word is what its steps compute, for an exponent of at least zero. -/
theorem powerModulo_ok {base exponent modulus : Int64} (isExponent : 0 ≤ exponent.toInt)
    (isNonzero : modulus.toInt ≠ 0) :
    Register.powerModulo base.toInt exponent.toInt.toNat modulus.toInt =
        .ok (powerModulo base exponent modulus).toInt ∧
      IsModularPower base.toInt exponent.toInt.toNat modulus.toInt
        (powerModulo base exponent modulus).toInt := by
  have isShort : exponent.toInt.toNat < 2 ^ 63 := by
    have isWord := Int64.toInt_lt exponent
    omega
  obtain ⟨power, isPower, isModular⟩ := Register.powerModulo_ok (fits_toInt modulus) isNonzero isShort
  obtain ⟨isLow, isHigh⟩ := fits_of_isRest isModular.isRest (fits_toInt modulus)
  have isWord : (powerModulo base exponent modulus).toInt = power := by
    rw [powerModulo, isPower]
    exact Int64.toInt_ofInt_of_le isLow isHigh
  rw [isWord]
  exact ⟨isPower, isModular⟩

end Word

end SlotDispatch
