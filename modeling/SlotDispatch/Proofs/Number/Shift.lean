import Mathlib.Data.Rat.Floor
import SlotDispatch.Number.Word
/-!
Shifts of words. The main statements say that a left shift gives the exact product with a power of two
when the product fits a word and nothing otherwise, and that a right shift gives the exact quotient
rounded down.
-/

namespace SlotDispatch.Word

variable {word places : Int64}

/-! ### Fewer places than bits -/

section Short

variable (isCount : 0 ≤ places.toInt) (isShort : places.toInt < 64)

include isCount isShort

theorem toNat_smod_places : (places.toBitVec.smod 64).toNat = places.toInt.toNat := by
  have isPlaces : (places.toBitVec.smod 64).toInt = places.toInt := by
    rw [BitVec.toInt_smod]
    exact Int.fmod_eq_of_lt isCount isShort
  have isNatural : (places.toBitVec.smod 64).toInt = (places.toBitVec.smod 64).toNat := by
    refine BitVec.toInt_eq_toNat_of_msb ?_
    rw [BitVec.msb_eq_toInt, isPlaces]
    exact decide_eq_false (Int.not_lt.2 isCount)
  omega

/-- The bits that leave a word at the top are lost. -/
theorem toInt_moved :
    (word <<< places).toInt = (word.toInt * 2 ^ places.toInt.toNat).bmod (2 ^ 64) := by
  rw [← Int64.toInt_toBitVec, Int64.toBitVec_shiftLeft, BitVec.shiftLeft_eq',
    toNat_smod_places isCount isShort, BitVec.toInt_shiftLeft, Nat.shiftLeft_eq, Nat.cast_mul,
    ← Int.bmod_mul_bmod, ← BitVec.toInt_eq_toNat_bmod, Int64.toInt_toBitVec, Nat.cast_pow]
  rfl

theorem toInt_moved_of_fits (fits : Fits (word.toInt * 2 ^ places.toInt.toNat)) :
    (word <<< places).toInt = word.toInt * 2 ^ places.toInt.toNat := by
  obtain ⟨isLow, isHigh⟩ := fits
  rw [toInt_moved isCount isShort, Int.bmod_eq_of_le (by omega) (by omega)]

/-- The bits that leave a word at the bottom are rounded down. -/
theorem toInt_movedBack :
    (word >>> places).toInt = word.toInt / 2 ^ places.toInt.toNat := by
  rw [← Int64.toInt_toBitVec, Int64.toBitVec_shiftRight, BitVec.toInt_sshiftRight',
    toNat_smod_places isCount isShort, Int64.toInt_toBitVec, Int.shiftRight_eq_div_pow, Nat.cast_pow]
  rfl

/-- The right shift gives a word back exactly when the left shift has lost no bit that counts. The moved
word is a multiple of the factor, so its quotient has no rest. -/
theorem movedBack_eq_iff :
    (word <<< places) >>> places = word ↔ Fits (word.toInt * 2 ^ places.toInt.toNat) := by
  have isFactor : (0 : Int) < 2 ^ places.toInt.toNat := Int.pow_pos (by decide)
  rw [← Int64.toInt_inj, toInt_movedBack isCount isShort]
  constructor
  · intro isSame
    have isMultiple : (2 : Int) ^ places.toInt.toNat ∣ (word <<< places).toInt := by
      have isDivisor : (2 : Int) ^ places.toInt.toNat ∣ ((2 ^ 64 : Nat) : Int) := by
        rw [Nat.cast_pow]
        exact pow_dvd_pow 2 (by omega)
      have isCongruent := isDivisor.trans
        (@Int.dvd_self_sub_bmod (word.toInt * 2 ^ places.toInt.toNat) (2 ^ 64))
      rw [toInt_moved isCount isShort]
      exact (Int.dvd_iff_dvd_of_dvd_sub isCongruent).1 (Int.dvd_mul_left _ _)
    have isProduct : word.toInt * 2 ^ places.toInt.toNat = (word <<< places).toInt := by
      rw [← isSame, Int.ediv_mul_cancel isMultiple]
    rw [isProduct]
    exact fits_toInt _
  · intro fits
    rw [toInt_moved_of_fits isCount isShort fits, Int.mul_ediv_cancel _ (Int.ne_of_gt isFactor)]

end Short

/-! ### Any number of places -/

/-- No word but zero survives 64 places. -/
theorem not_fits_shift (isNonzero : word ≠ 0) {count : Nat} (isLong : 64 ≤ count) :
    ¬Fits (word.toInt * 2 ^ count) := by
  have hasBits : 1 ≤ word.toInt.natAbs :=
    Int.natAbs_pos.2 fun isZero => isNonzero (Int64.toInt_inj.1 isZero)
  have isLarge : 2 ^ 64 ≤ (word.toInt * 2 ^ count).natAbs := by
    calc 2 ^ 64 ≤ 2 ^ count := Nat.pow_le_pow_right (by decide) isLong
      _ ≤ word.toInt.natAbs * 2 ^ count := Nat.le_mul_of_pos_left _ hasBits
      _ = (word.toInt * 2 ^ count).natAbs := by rw [Int.natAbs_mul, Int.natAbs_pow]; rfl
  unfold Fits
  omega

/-- Only the sign of a word survives a quotient by 64 places. -/
theorem ediv_two_pow_of_long {count : Nat} (isLong : 64 ≤ count) :
    word.toInt / 2 ^ count = (if word.toInt < 0 then (-1 : Int64) else 0).toInt := by
  obtain ⟨isLow, isHigh⟩ := fits_toInt word
  have isLarge : (2 : Int) ^ 64 ≤ 2 ^ count := by
    exact_mod_cast Nat.pow_le_pow_right (by decide) isLong
  have isFactor : (0 : Int) < 2 ^ count := by omega
  split
  · have isUnique : word.toInt / 2 ^ count = -1 ∧ word.toInt % 2 ^ count = word.toInt + 2 ^ count :=
      (Int.ediv_emod_unique isFactor).2 ⟨by omega, by omega, by omega⟩
    exact isUnique.1
  · exact Int.ediv_eq_zero_of_lt (by omega) (by omega)

/-- The counts that the bits of a word move by are the counts below 64. -/
theorem placeCount?_bind_moveLeft? (isCount : 0 ≤ places.toInt) :
    (placeCount? places).bind (moveLeft? word) =
      if places.toInt < 64 then some (word <<< places) else none := by
  unfold placeCount?
  split
  · next isKnown =>
      have isPlaces : (UInt32.ofNat places.toInt.toNat).toNat = places.toInt.toNat :=
        UInt32.toNat_ofNat_of_lt' (by rw [UInt32.size]; omega)
      have isSame : Int64.ofNat places.toInt.toNat = places := by
        rw [← Int64.ofInt_eq_ofNat, Int.toNat_of_nonneg isCount, Int64.ofInt_toInt]
      have isBelow : UInt32.ofNat places.toInt.toNat < 64 ↔ places.toInt < 64 := by
        rw [UInt32.lt_iff_toNat_lt, isPlaces, show UInt32.toNat 64 = 64 from rfl]
        omega
      rw [Option.bind_some, moveLeft?, isPlaces, isSame]
      exact if_congr isBelow rfl rfl
  · next isBeyond =>
      rw [if_neg (by omega)]
      rfl

/-- A left shift gives the product with a power of two if that fits a word. -/
theorem shiftLeft?_eq (isCount : 0 ≤ places.toInt) :
    shiftLeft? word places = ofInt? (word.toInt * 2 ^ places.toInt.toNat) := by
  unfold shiftLeft?
  split
  · next isZero =>
      rw [isZero, show Int64.toInt 0 = 0 from rfl, Int.zero_mul]
      rfl
  · next isNonzero =>
      rw [placeCount?_bind_moveLeft? isCount]
      split
      · next isShort =>
          have isFit := @movedBack_eq_iff word _ isCount isShort
          by_cases fits : Fits (word.toInt * 2 ^ places.toInt.toNat)
          · have isExact := toInt_moved_of_fits isCount isShort fits
            rw [← isExact, ofInt?_toInt, Option.filter_some, if_pos (decide_eq_true (isFit.2 fits))]
          · rw [ofInt?_eq_none_iff.2 fits, Option.filter_some,
              if_neg (by simpa using mt isFit.1 fits)]
      · next isLong =>
          rw [ofInt?_eq_none_iff.2 (not_fits_shift isNonzero (by omega))]
          rfl

/-- A right shift gives the quotient by a power of two, rounded down. -/
theorem toInt_shiftRight (isCount : 0 ≤ places.toInt) :
    (shiftRight word places).toInt = ⌊(word.toInt : ℚ) / 2 ^ places.toInt.toNat⌋ := by
  have isFloor : ⌊(word.toInt : ℚ) / 2 ^ places.toInt.toNat⌋ =
      word.toInt / 2 ^ places.toInt.toNat := by
    have isQuotient := Rat.floor_intCast_div_natCast word.toInt (2 ^ places.toInt.toNat)
    push_cast at isQuotient
    exact isQuotient
  rw [isFloor, shiftRight]
  split
  · next isLong =>
      exact (ediv_two_pow_of_long (by omega)).symm
  · next isShort => exact toInt_movedBack isCount (Int.not_le.1 isShort)

end SlotDispatch.Word
