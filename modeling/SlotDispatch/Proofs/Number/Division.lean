import Mathlib.Data.Rat.Floor
import SlotDispatch.Number.Word
/-!
Division of words. The main statements say that the quotient of two words is the exact quotient rounded
down, that the remainder is what the quotient leaves, and that the steps in registers compute both and
break off nowhere.
-/

namespace SlotDispatch

namespace Word

/-! ### Quotients and remainders -/

/-- A number is a rest for a divisor when it is zero or has the sign of the divisor, and when it is
smaller than the divisor. -/
@[mk_iff]
structure IsRest (rest divisor : Int) : Prop where
  sign : rest = 0 ∨ rest.sign = divisor.sign
  size : |rest| < |divisor|

/-- A division has the exact quotient rounded down and what this quotient leaves of the dividend. -/
structure Divides (dividend divisor quotient rest : Int) : Prop where
  quotient_eq : quotient = ⌊(dividend : ℚ) / divisor⌋
  rest_eq : rest = dividend - divisor * quotient
  isRest : IsRest rest divisor

variable {dividend divisor quotient rest : Int}

theorem isRest_of_pos (isPositive : 0 < divisor) :
    IsRest rest divisor ↔ 0 ≤ rest ∧ rest < divisor := by
  rw [isRest_iff, Int.sign_eq_one_of_pos isPositive, Int.sign_eq_one_iff_pos, abs_lt,
    abs_of_pos isPositive]
  omega

theorem isRest_of_neg (isNegative : divisor < 0) :
    IsRest rest divisor ↔ divisor < rest ∧ rest ≤ 0 := by
  rw [isRest_iff, Int.sign_eq_neg_one_of_neg isNegative, Int.sign_eq_neg_one_iff_neg, abs_lt,
    abs_of_neg isNegative]
  omega

/-- The exact quotient lies less than one above a quotient that leaves a rest. -/
theorem Divides.of_isRest (isRest : IsRest rest divisor)
    (isSum : divisor * quotient + rest = dividend) : Divides dividend divisor quotient rest where
  quotient_eq := by
    have isSum : (divisor : ℚ) * quotient + rest = dividend := by exact_mod_cast isSum
    symm
    rw [Int.floor_eq_iff, ← isSum]
    have isNonzero : divisor ≠ 0 := by
      rintro rfl
      exact absurd isRest.size (by simp)
    rcases Int.lt_or_gt_of_ne isNonzero with isNegative | isPositive
    · obtain ⟨isAbove, isBelow⟩ := (isRest_of_neg isNegative).1 isRest
      have isAbove : (divisor : ℚ) < rest := by exact_mod_cast isAbove
      have isBelow : (rest : ℚ) ≤ 0 := by exact_mod_cast isBelow
      have isNegative : (divisor : ℚ) < 0 := by exact_mod_cast isNegative
      rw [le_div_iff_of_neg isNegative, div_lt_iff_of_neg isNegative]
      constructor <;> linarith
    · obtain ⟨isAbove, isBelow⟩ := (isRest_of_pos isPositive).1 isRest
      have isAbove : (0 : ℚ) ≤ rest := by exact_mod_cast isAbove
      have isBelow : (rest : ℚ) < divisor := by exact_mod_cast isBelow
      have isPositive : (0 : ℚ) < divisor := by exact_mod_cast isPositive
      rw [le_div_iff₀ isPositive, div_lt_iff₀ isPositive]
      constructor <;> linarith
  rest_eq := by omega
  isRest := isRest

/-- A division has one quotient and one rest. -/
theorem Divides.unique {otherQuotient otherRest : Int}
    (divides : Divides dividend divisor quotient rest)
    (other : Divides dividend divisor otherQuotient otherRest) :
    quotient = otherQuotient ∧ rest = otherRest := by
  have sameQuotient : quotient = otherQuotient := divides.quotient_eq.trans other.quotient_eq.symm
  refine ⟨sameQuotient, ?_⟩
  rw [divides.rest_eq, other.rest_eq, sameQuotient]

theorem isRest_fmod (isNonzero : divisor ≠ 0) : IsRest (dividend.fmod divisor) divisor := by
  rcases Int.lt_or_gt_of_ne isNonzero with isNegative | isPositive
  · have isRest := (Int.fdiv_fmod_unique' isNegative).1 ⟨rfl, (rfl : dividend.fmod divisor = _)⟩
    exact (isRest_of_neg isNegative).2 ⟨isRest.2.1, isRest.2.2⟩
  · exact (isRest_of_pos isPositive).2
      ⟨Int.fmod_nonneg_of_pos dividend isPositive, Int.fmod_lt_of_pos dividend isPositive⟩

theorem divides_fdiv (isNonzero : divisor ≠ 0) :
    Divides dividend divisor (dividend.fdiv divisor) (dividend.fmod divisor) :=
  .of_isRest (isRest_fmod isNonzero) (Int.mul_fdiv_add_fmod dividend divisor)

/-! ### The quotient that is rounded to zero -/

/-- The quotient that is rounded to zero and its rest have to be corrected when the rest and the
divisor have different signs. -/
theorem divides_corrected (isNonzero : divisor ≠ 0) :
    let rest := dividend.tmod divisor
    if rest ≠ 0 ∧ decide (rest < 0) ≠ decide (divisor < 0) then
      Divides dividend divisor (dividend.tdiv divisor - 1) (rest + divisor)
    else Divides dividend divisor (dividend.tdiv divisor) rest := by
  intro rest
  have isSum : divisor * dividend.tdiv divisor + rest = dividend :=
    Int.mul_tdiv_add_tmod dividend divisor
  have isSmall : rest.natAbs < divisor.natAbs := by
    rw [Int.natAbs_tmod]
    exact Nat.mod_lt _ (Int.natAbs_pos.2 isNonzero)
  split
  · rename_i isOther
    refine .of_isRest ?_ (by rw [Int.mul_sub]; omega)
    rcases Int.lt_or_gt_of_ne isNonzero with isNegative | isPositive
    · rw [isRest_of_neg isNegative]
      simp only [isNegative, decide_true, ne_eq, decide_eq_true_eq] at isOther
      omega
    · rw [isRest_of_pos isPositive]
      simp only [not_lt_of_gt isPositive, decide_false, ne_eq, decide_eq_false_iff_not] at isOther
      omega
  · rename_i isSame
    refine .of_isRest ?_ isSum
    rcases Int.lt_or_gt_of_ne isNonzero with isNegative | isPositive
    · rw [isRest_of_neg isNegative]
      simp only [isNegative, decide_true, ne_eq, decide_eq_true_eq] at isSame
      omega
    · rw [isRest_of_pos isPositive]
      simp only [not_lt_of_gt isPositive, decide_false, ne_eq, decide_eq_false_iff_not] at isSame
      omega

/-! ### Quotients and remainders that fit -/

theorem fits_of_isRest (isRest : IsRest rest divisor) (isWord : Fits divisor) : Fits rest := by
  obtain ⟨isLow, isHigh⟩ := isWord
  have isSmall := isRest.size
  rw [Int.abs_eq_natAbs, Int.abs_eq_natAbs] at isSmall
  constructor <;> omega

/-- A divisor other than 1 and -1 halves the dividend at least. -/
theorem natAbs_tdiv_le (isZeroOrMore : divisor.natAbs ≠ 1) :
    (dividend.tdiv divisor).natAbs ≤ dividend.natAbs / 2 := by
  rw [Int.natAbs_tdiv]
  change dividend.natAbs / divisor.natAbs ≤ dividend.natAbs / 2
  rcases Nat.eq_zero_or_pos divisor.natAbs with isZero | isPositive
  · rw [isZero, Nat.div_zero]
    exact Nat.zero_le _
  · exact Nat.div_le_div_left (by omega) (by decide)

/-- A quotient of words that is rounded to zero is a word, but for the least word and -1. -/
theorem fits_tdiv_iff (isWord : Fits dividend) :
    Fits (dividend.tdiv divisor) ↔ ¬(dividend = -0x8000000000000000 ∧ divisor = -1) := by
  obtain ⟨isLow, isHigh⟩ := isWord
  unfold Fits
  by_cases isUnit : divisor.natAbs = 1
  · rcases Int.natAbs_eq_iff.1 isUnit with rfl | rfl
    · rw [Nat.cast_one, Int.tdiv_one]
      omega
    · rw [Nat.cast_one, Int.tdiv_neg, Int.tdiv_one]
      omega
  · have isHalf := @natAbs_tdiv_le dividend _ isUnit
    omega

/-- A quotient of words that is rounded down is a word, but for the least word and -1. A divisor that
leaves a rest halves the dividend. -/
theorem fits_fdiv_iff (isWord : Fits dividend) (isNonzero : divisor ≠ 0) :
    Fits (dividend.fdiv divisor) ↔ ¬(dividend = -0x8000000000000000 ∧ divisor = -1) := by
  have corrected := @divides_corrected dividend _ isNonzero
  dsimp only at corrected
  split at corrected
  · rename_i isOther
    obtain ⟨isQuotient, _⟩ := (divides_fdiv isNonzero).unique corrected
    have isNoUnit : divisor.natAbs ≠ 1 := by
      intro isUnit
      rcases Int.natAbs_eq_iff.1 isUnit with rfl | rfl <;> simp at isOther
    have isHalf := @natAbs_tdiv_le dividend _ isNoUnit
    obtain ⟨isLow, isHigh⟩ := isWord
    rw [isQuotient, Fits]
    omega
  · obtain ⟨isQuotient, _⟩ := (divides_fdiv isNonzero).unique corrected
    rw [isQuotient]
    exact fits_tdiv_iff isWord

end Word

/-! ### Steps in registers -/

namespace Register

variable {register : Register} {fault : Fault} {dividend divisor : Int}

theorem ok_bind {First Last : Type} (value : First) (next : First → Except Fault Last) :
    (Except.ok value >>= next) = next value :=
  rfl

theorem fits_single {exact : Int} : single.Fits exact ↔ Word.Fits exact :=
  Iff.rfl

theorem keep_of_fits {exact : Int} (fits : register.Fits exact) :
    register.keep fault exact = .ok exact :=
  if_pos fits

theorem rest_eq (isWord : single.Fits divisor) (isNonzero : divisor ≠ 0) :
    rest dividend divisor = .ok (dividend.tmod divisor) := by
  have isSmall := Int.natAbs_tmod dividend divisor
  have isLess : dividend.natAbs % divisor.natAbs < divisor.natAbs :=
    Nat.mod_lt _ (Int.natAbs_pos.2 isNonzero)
  obtain ⟨isLow, isHigh⟩ := isWord
  rw [rest, if_neg isNonzero, keep_of_fits]
  constructor <;> omega

/-- A rest that is not zero has the sign of the dividend. -/
theorem sign_rest (hasRest : dividend.tmod divisor ≠ 0) :
    decide (dividend.tmod divisor < 0) = decide (dividend < 0) := by
  rcases lt_or_ge dividend 0 with isNegative | isPositive
  · have isLess := Int.tmod_nonneg divisor (Int.neg_nonneg.2 (Int.le_of_lt isNegative))
    rw [Int.neg_tmod] at isLess
    simp only [isNegative, decide_true, decide_eq_true_eq]
    omega
  · have isMore := Int.tmod_nonneg divisor isPositive
    simp only [not_lt_of_ge isPositive, not_lt_of_ge isMore, decide_false]

/-- The steps of a remainder never break off. -/
theorem floorRemainder_eq (isWord : single.Fits divisor) (isNonzero : divisor ≠ 0) :
    floorRemainder dividend divisor = .ok (dividend.fmod divisor) := by
  have corrected := @Word.divides_corrected dividend _ isNonzero
  dsimp only at corrected
  rw [floorRemainder, rest_eq isWord isNonzero, ok_bind]
  split at corrected
  · rename_i isOther
    obtain ⟨_, isRest⟩ := (Word.divides_fdiv isNonzero).unique corrected
    have fits : single.Fits (dividend.tmod divisor + divisor) :=
      Word.fits_of_isRest corrected.isRest isWord
    rw [if_pos isOther, isRest, keep_of_fits fits]
  · rename_i isSame
    obtain ⟨_, isRest⟩ := (Word.divides_fdiv isNonzero).unique corrected
    rw [if_neg isSame, isRest]
    rfl

/-- The steps of a quotient never break off, and they report a quotient that does not fit. -/
theorem floorQuotient_eq (isDividend : single.Fits dividend) (isDivisor : single.Fits divisor)
    (isNonzero : divisor ≠ 0) :
    floorQuotient dividend divisor = single.keep .reported (dividend.fdiv divisor) := by
  by_cases fits : single.Fits (dividend.tdiv divisor)
  · have isQuotient : ∀ fault, quotient fault dividend divisor = .ok (dividend.tdiv divisor) :=
      fun fault => by rw [quotient, if_neg isNonzero, keep_of_fits fits]
    have corrected := @Word.divides_corrected dividend _ isNonzero
    dsimp only at corrected
    rw [floorQuotient, isQuotient, strictRest, isQuotient, rest_eq isDivisor isNonzero, ok_bind,
      ok_bind, ok_bind]
    have sameSigns : dividend.tmod divisor ≠ 0 ∧ decide (dividend < 0) ≠ decide (divisor < 0) ↔
        dividend.tmod divisor ≠ 0 ∧ decide (dividend.tmod divisor < 0) ≠ decide (divisor < 0) :=
      and_congr_right fun hasRest => by rw [sign_rest hasRest]
    rw [if_congr sameSigns rfl rfl]
    split at corrected
    · rename_i isOther
      obtain ⟨isFloor, _⟩ := (Word.divides_fdiv isNonzero).unique corrected
      rw [if_pos isOther, isFloor]
    · rename_i isSame
      obtain ⟨isFloor, _⟩ := (Word.divides_fdiv isNonzero).unique corrected
      rw [if_neg isSame, isFloor, keep_of_fits fits]
      rfl
  · have isTooLarge : ¬single.Fits (dividend.fdiv divisor) := by
      rwa [fits_single, Word.fits_fdiv_iff isDividend isNonzero,
        ← Word.fits_tdiv_iff isDividend]
    rw [floorQuotient, quotient, if_neg isNonzero, keep, if_neg fits, keep, if_neg isTooLarge]
    rfl

end Register

/-! ### Words -/

namespace Word

variable {dividend divisor : Int64}

theorem toInt_ne_zero {word : Int64} (isNonzero : word ≠ 0) : word.toInt ≠ 0 :=
  fun isZero => isNonzero (Int64.toInt_inj.1 isZero)

theorem ofSteps?_keep (fault : Fault) (exact : Int) :
    ofSteps? (Register.single.keep fault exact) = ofInt? exact := by
  by_cases fits : Fits exact
  · rw [Register.keep_of_fits (Register.fits_single.2 fits), ofInt?, if_pos fits]
    rfl
  · rw [Register.keep, if_neg (mt Register.fits_single.1 fits), ofInt?, if_neg fits]
    rfl

theorem floorDivide?_eq (isNonzero : divisor.toInt ≠ 0) :
    floorDivide? dividend divisor = ofInt? (dividend.toInt.fdiv divisor.toInt) := by
  rw [floorDivide?, Register.floorQuotient_eq (fits_toInt dividend) (fits_toInt divisor) isNonzero,
    ofSteps?_keep]

theorem toInt_floorRemainder (isNonzero : divisor.toInt ≠ 0) :
    (floorRemainder dividend divisor).toInt = dividend.toInt.fmod divisor.toInt := by
  obtain ⟨isLow, isHigh⟩ := fits_of_isRest (@isRest_fmod dividend.toInt _ isNonzero)
    (fits_toInt divisor)
  rw [floorRemainder, Register.floorRemainder_eq (fits_toInt divisor) isNonzero]
  exact Int64.toInt_ofInt_of_le isLow isHigh

end Word

end SlotDispatch
