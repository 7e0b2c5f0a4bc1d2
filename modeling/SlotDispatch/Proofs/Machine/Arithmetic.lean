import SlotDispatch.Proofs.Machine.Sequence
import SlotDispatch.Proofs.Number.Power
import SlotDispatch.Proofs.Number.Shift
/-!
Arithmetic of the machine. The main statements say that integers and truth values divide as their exact
numbers do, that their powers are the exact powers, also modulo a number, and that their shifts are the
exact products and quotients with powers of two.
-/

namespace SlotDispatch

open SlotDispatch.Action SlotDispatch.Machine

variable {Host : Type}

/-! ### Operands with one slot -/

/-- A value offers an operation when its type is builtin and has the operation in the slot of a kind. -/
structure Value.Offers (value : Value) (kind : SlotKind) (operation : Builtin) : Prop where
  isListed : ∃ builtinType, builtinTypes[value.typeId]? = some builtinType
  target_eq : builtinTarget kind ((Registry.initial 0).linearizationOf value.typeId) =
    .builtin operation

namespace Plan

variable {kind : SlotKind} {operation : Builtin} {left right : SlotEntry}

/-- Entries with one operation make a plan of one step. -/
theorem ternary_of_shared {third? : Option SlotEntry} (leftTarget : left.target kind = .builtin operation)
    (rightTarget : right.target kind = .builtin operation)
    (thirdTarget : ∀ third ∈ third?, third.target kind = .builtin operation) :
    ternary kind left right third? = [⟨.left, .builtin operation⟩] := by
  have isSame : (SlotTarget.builtin operation).isSame (.builtin operation) = true :=
    decide_eq_true rfl
  have isFirst : binary kind left right = [⟨.left, .builtin operation⟩] := by
    rw [binary, leftTarget, rightTarget, isSame]
    split <;> rfl
  cases third? with
  | none => exact isFirst
  | some third =>
      rw [ternary, isFirst, thirdTarget third rfl, leftTarget, isSame]
      rfl

end Plan

namespace Operator

variable {world : World Host} {perform : Perform Host} {kind : SlotKind} {left right third : Value}
  {operation : Builtin} {outcome : Except Error Value} {heap : Heap}

/-- A plan of one step has the outcome of its operation, unless this declines. -/
theorem runPlan_bind_of_shared {next : Option Value → Action (World Host) Value}
    (isNext : ∀ result, next (some result) = pure result)
    (ends : (Invocation.builtinTernary perform operation left right third).EndsFrom world outcome heap)
    (isAnswer : outcome ≠ .ok .notImplemented) :
    (runPlan perform left right third [⟨.left, .builtin operation⟩] >>= next).EndsFrom world outcome
      heap := by
  intro start turns
  have endsHere : (Invocation.ternary perform (.builtin operation) .left left right third).Ends start
      outcome heap := ends start turns
  cases outcome with
  | error error => exact endsHere.bind_error.bind_error
  | ok result =>
      have isResult : result.isNotImplemented = false := by
        cases result with
        | notImplemented => exact absurd rfl isAnswer
        | _ => rfl
      have stops : (runPlan perform left right third [⟨.left, .builtin operation⟩]).Ends start
          (.ok (some result)) heap := by
        refine endsHere.bind fun later turnsLater => ?_
        rw [isResult, if_neg Bool.false_ne_true, ← turnsLater.heap_eq]
        exact .pure turnsLater.steady _
      refine stops.bind fun later turnsLater => ?_
      rw [isNext, ← turnsLater.heap_eq]
      exact .pure turnsLater.steady result

/-- Two operands that offer one operation have its outcome. -/
theorem binary_of_offers (isBinary : kind.isBinary = true)
    (isSlow : integerResult? kind left right = none) (leftOffers : left.Offers kind operation)
    (rightOffers : right.Offers kind operation)
    (ends : (Invocation.builtinTernary perform operation left right .none).EndsFrom world outcome heap)
    (isAnswer : outcome ≠ .ok .notImplemented) :
    (binary perform kind left right).EndsFrom world outcome heap := by
  obtain ⟨_, leftListed⟩ := leftOffers.isListed
  obtain ⟨_, rightListed⟩ := rightOffers.isListed
  rw [binary_eq_evaluate isBinary isSlow, evaluate]
  refine EndsFrom.entryOf_bind leftListed fun leftEntry leftTargets => ?_
  refine EndsFrom.entryOf_bind rightListed fun rightEntry rightTargets => ?_
  have isPlan : Plan.binary kind leftEntry rightEntry = [⟨.left, .builtin operation⟩] :=
    Plan.ternary_of_shared ((leftTargets kind).trans leftOffers.target_eq)
      ((rightTargets kind).trans rightOffers.target_eq) (by simp : ∀ third ∈ none, _)
  rw [isPlan]
  exact runPlan_bind_of_shared (fun _ => rfl) ends isAnswer

/-- Three operands that offer one operation have its outcome, also when the third operand is `None`. -/
theorem ternary_of_offers (isTernary : kind.isTernary = true) (leftOffers : left.Offers kind operation)
    (rightOffers : right.Offers kind operation)
    (thirdOffers : third.isNone = false → third.Offers kind operation)
    (ends : (Invocation.builtinTernary perform operation left right third).EndsFrom world outcome heap)
    (isAnswer : outcome ≠ .ok .notImplemented) :
    (ternary perform kind left right third).EndsFrom world outcome heap := by
  obtain ⟨_, leftListed⟩ := leftOffers.isListed
  obtain ⟨_, rightListed⟩ := rightOffers.isListed
  rw [ternary, isTernary, Bool.not_true, if_neg Bool.false_ne_true]
  refine EndsFrom.entryOf_bind leftListed fun leftEntry leftTargets => ?_
  refine EndsFrom.entryOf_bind rightListed fun rightEntry rightTargets => ?_
  have isPlan : ∀ thirdEntry? : Option SlotEntry,
      (∀ entry ∈ thirdEntry?, entry.target kind = .builtin operation) →
      Plan.ternary kind leftEntry rightEntry thirdEntry? = [⟨.left, .builtin operation⟩] := fun _ =>
    Plan.ternary_of_shared ((leftTargets kind).trans leftOffers.target_eq)
      ((rightTargets kind).trans rightOffers.target_eq)
  cases isNone : third.isNone with
  | true =>
      simp only [if_true, pure_bind, isPlan none (by simp)]
      exact runPlan_bind_of_shared (fun _ => rfl) ends isAnswer
  | false =>
      obtain ⟨⟨_, thirdListed⟩, isThird⟩ := thirdOffers isNone
      rw [if_neg Bool.false_ne_true, map_eq_pure_bind, Action.bind_assoc]
      refine EndsFrom.entryOf_bind thirdListed fun thirdEntry thirdTargets => ?_
      have isOffered := isPlan (some thirdEntry) (by simpa using (thirdTargets kind).trans isThird)
      simp only [pure_bind, isOffered]
      exact runPlan_bind_of_shared (fun _ => rfl) ends isAnswer

end Operator

/-! ### Integers -/

/-- A value of the type of integers or of truth values counts as its number. -/
structure Value.Counts (value : Value) (number : Int64) : Prop where
  integer?_eq : value.integer? = some number
  typeId_eq : value.typeId = .int ∨ value.typeId = .bool

namespace Value.Counts

theorem int (number : Int64) : (Value.int number).Counts number :=
  ⟨rfl, .inl rfl⟩

theorem bool (flag : Bool) : (Value.bool flag).Counts (if flag then 1 else 0) :=
  ⟨rfl, .inr rfl⟩

variable {value left right : Value} {number leftNumber rightNumber : Int64}

/-- A value that counts offers every operation that integers and truth values share. -/
theorem offers (counts : value.Counts number) {kind : SlotKind} {operation : Builtin}
    (isInteger : builtinTarget kind ((Registry.initial 0).linearizationOf .int) = .builtin operation)
    (isTruth : builtinTarget kind ((Registry.initial 0).linearizationOf .bool) = .builtin operation) :
    value.Offers kind operation := by
  rcases counts.typeId_eq with isType | isType
  · exact ⟨⟨_, by rw [isType]; rfl⟩, by rw [isType]; exact isInteger⟩
  · exact ⟨⟨_, by rw [isType]; rfl⟩, by rw [isType]; exact isTruth⟩

theorem isNone_eq (counts : value.Counts number) : value.isNone = false := by
  cases value with
  | none => exact absurd counts.integer?_eq (by simp [Value.integer?])
  | _ => rfl

theorem withIntegers_eq (leftCounts : left.Counts leftNumber) (rightCounts : right.Counts rightNumber)
    (operation : Int64 → Int64 → Except Error Value) :
    Builtin.Integer.withIntegers left right operation = operation leftNumber rightNumber := by
  rw [Builtin.Integer.withIntegers, leftCounts.integer?_eq, rightCounts.integer?_eq]

end Value.Counts

/-! ### Division -/

namespace Builtin.Integer

variable {dividend divisor : Int64}

theorem checked_ne_notImplemented (operation : String) (result? : Option Int64) :
    checked operation result? ≠ .ok .notImplemented := by
  cases result? <;> simp [checked]

theorem floorDivide_ne_notImplemented : floorDivide dividend divisor ≠ .ok .notImplemented := by
  unfold floorDivide
  split
  · simp
  · exact checked_ne_notImplemented _ _

theorem remainder_ne_notImplemented : remainder dividend divisor ≠ .ok .notImplemented := by
  unfold remainder
  split <;> simp

/-- The three divisions of words have the exact quotient rounded down and the rest that it leaves, but for
the quotient of the least word and -1. -/
theorem divides_of_ne (isNonzero : divisor ≠ 0) :
    ∃ (quotient : Int) (rest : Int64), Word.Divides dividend.toInt divisor.toInt quotient rest.toInt ∧
      Register.floorRemainder dividend.toInt divisor.toInt = .ok rest.toInt ∧
      remainder dividend divisor = .ok (.int rest) ∧
      if dividend.toInt = -0x8000000000000000 ∧ divisor.toInt = -1 then
        rest = 0 ∧ Register.floorQuotient dividend.toInt divisor.toInt = .error .reported ∧
        floorDivide dividend divisor = .error (.integerOverflow "//") ∧
        quotientAndRemainder dividend divisor = .error (.integerOverflow "divmod()")
      else ∃ word : Int64, word.toInt = quotient ∧
        Register.floorQuotient dividend.toInt divisor.toInt = .ok quotient ∧
        floorDivide dividend divisor = .ok (.int word) ∧
        quotientAndRemainder dividend divisor = .ok (word, rest) := by
  have isNumber := Word.toInt_ne_zero isNonzero
  have isRest := @Word.toInt_floorRemainder dividend divisor isNumber
  have fits := @Word.fits_fdiv_iff dividend.toInt divisor.toInt (Word.fits_toInt dividend) isNumber
  refine ⟨dividend.toInt.fdiv divisor.toInt, Word.floorRemainder dividend divisor, ?_, ?_,
    if_neg isNonzero, ?_⟩
  · rw [isRest]
    exact Word.divides_fdiv isNumber
  · rw [isRest]
    exact Register.floorRemainder_eq (Word.fits_toInt divisor) isNumber
  rw [Register.floorQuotient_eq (Word.fits_toInt dividend) (Word.fits_toInt divisor) isNumber,
    floorDivide, if_neg isNonzero, quotientAndRemainder, if_neg isNonzero,
    Word.floorDivide?_eq isNumber]
  split
  · next isLeast =>
      have isTooLarge : ¬Word.Fits (dividend.toInt.fdiv divisor.toInt) := by
        rw [fits]
        exact not_not_intro isLeast
      rw [Word.ofInt?_eq_none_iff.2 isTooLarge]
      refine ⟨?_, if_neg isTooLarge, rfl, rfl⟩
      rw [← Int64.toInt_inj, isRest, isLeast.1, isLeast.2]
      rfl
  · next isOther =>
      have isWord : Word.Fits (dividend.toInt.fdiv divisor.toInt) := fits.2 isOther
      rw [Word.ofInt?, if_pos isWord]
      exact ⟨_, Int64.toInt_ofInt_of_le isWord.1 isWord.2, if_pos isWord, rfl, rfl⟩

end Builtin.Integer

namespace Operator

variable {world : World Host} {kind : SlotKind} {left right : Value} {leftNumber rightNumber : Int64}

/-- Only sums, differences, and products are computed at once. -/
theorem integerResult?_of_not_mem (isOther : kind ∉ [SlotKind.add, .subtract, .multiply]) :
    integerResult? kind left right = none := by
  unfold integerResult?
  split
  · cases kind <;> first | rfl | exact absurd (by decide) isOther
  · rfl

/-- An operation on integers has the outcome of its numbers. -/
theorem binary_of_integers {operation : Builtin} {run : Int64 → Int64 → Except Error Value}
    (perform : Perform Host) (kind : SlotKind) (isBinary : kind.isBinary = true)
    (isOther : kind ∉ [SlotKind.add, .subtract, .multiply])
    (isInteger : builtinTarget kind ((Registry.initial 0).linearizationOf .int) = .builtin operation)
    (isTruth : builtinTarget kind ((Registry.initial 0).linearizationOf .bool) = .builtin operation)
    (isImplementation : operation.implementation perform = .integers run)
    (leftCounts : left.Counts leftNumber) (rightCounts : right.Counts rightNumber)
    (isAnswer : run leftNumber rightNumber ≠ .ok .notImplemented) :
    (binary perform kind left right).EndsFrom world (run leftNumber rightNumber) world.heap := by
  refine binary_of_offers isBinary (integerResult?_of_not_mem isOther)
    (leftCounts.offers isInteger isTruth) (rightCounts.offers isInteger isTruth) ?_ isAnswer
  rw [Invocation.builtinTernary, isImplementation, ← leftCounts.withIntegers_eq rightCounts run]
  exact .noted (.ofExcept _)

end Operator

namespace SequenceKind

variable {world : World Host} {left right : Value} {dividend divisor : Int64}

/-- The quotient and the remainder of a division are a tuple. -/
theorem makes_divmod (perform : Perform Host) (steady : world.Steady) (leftCounts : left.Counts dividend)
    (rightCounts : right.Counts divisor) :
    tuple.Makes (Operator.binary perform .divmod left right) world
      ((Builtin.Integer.quotientAndRemainder dividend divisor).map
        fun both => [.int both.1, .int both.2]) := by
  have makes : ∀ next, world.Turns world.heap next →
      tuple.Makes (Builtin.Integer.divmod left right) next
        ((Builtin.Integer.quotientAndRemainder dividend divisor).map
          fun both => [.int both.1, .int both.2]) := by
    intro next turns
    rw [Builtin.Integer.divmod, leftCounts.integer?_eq, rightCounts.integer?_eq]
    change tuple.Makes (Action.ofExcept (Builtin.Integer.quotientAndRemainder dividend divisor) >>=
      fun both => Action.tuple [.int both.1, .int both.2]) next _
    cases Builtin.Integer.quotientAndRemainder dividend divisor with
    | error error => exact .fail turns.steady error
    | ok both => exact makes_tuple turns.steady [.int both.1, .int both.2]
  refine EndsFrom.ends (Operator.binary_of_offers rfl (Operator.integerResult?_of_not_mem (by decide))
    (leftCounts.offers rfl rfl) (rightCounts.offers rfl rfl) (.noted (Makes.endsFrom makes)) ?_) steady
  cases Builtin.Integer.quotientAndRemainder dividend divisor with
  | error error => simp [Except.map, made]
  | ok both => exact fun same => Value.noConfusion (Except.ok.inj same)

end SequenceKind

/-- In every reachable world the integers and the truth values are divided with the exact quotient rounded
down and the rest that it leaves. A divisor that is zero and a quotient that is no word are errors, and no
step of a division breaks off. -/
theorem World.divides_integers {forged : Nat → Prop} {world : World Host}
    (reachable : World.Reachable forged world) (program : Program Host) (depth : Nat)
    {left right : Value} {dividend divisor : Int64} (leftCounts : left.Counts dividend)
    (rightCounts : right.Counts divisor) :
    (divisor = 0 →
      (perform program (depth + 1) (.binary .floorDivide left right)).Ends world
        (.error .divisionOrModuloByZero) world.heap ∧
      (perform program (depth + 1) (.binary .remainder left right)).Ends world
        (.error .moduloByZero) world.heap ∧
      (perform program (depth + 1) (.binary .divmod left right)).Ends world
        (.error .divisionOrModuloByZero) world.heap) ∧
    (divisor ≠ 0 → ∃ (quotient : Int) (rest : Int64),
      Word.Divides dividend.toInt divisor.toInt quotient rest.toInt ∧
      Register.floorRemainder dividend.toInt divisor.toInt = .ok rest.toInt ∧
      (perform program (depth + 1) (.binary .remainder left right)).Ends world
        (.ok (.int rest)) world.heap ∧
      if dividend.toInt = -0x8000000000000000 ∧ divisor.toInt = -1 then
        rest = 0 ∧
        Register.floorQuotient dividend.toInt divisor.toInt = .error .reported ∧
        (perform program (depth + 1) (.binary .floorDivide left right)).Ends world
          (.error (.integerOverflow "//")) world.heap ∧
        (perform program (depth + 1) (.binary .divmod left right)).Ends world
          (.error (.integerOverflow "divmod()")) world.heap
      else ∃ word : Int64, word.toInt = quotient ∧
        Register.floorQuotient dividend.toInt divisor.toInt = .ok quotient ∧
        (perform program (depth + 1) (.binary .floorDivide left right)).Ends world
          (.ok (.int word)) world.heap ∧
        SequenceKind.tuple.Makes (perform program (depth + 1) (.binary .divmod left right)) world
          (.ok [.int word, .int rest])) := by
  have steady : world.Steady := reachable.forgeAll.alike
  have dividesFloor : (perform program (depth + 1) (.binary .floorDivide left right)).Ends world
      (Builtin.Integer.floorDivide dividend divisor) world.heap :=
    (Operator.binary_of_integers _ .floorDivide rfl (by decide) rfl rfl rfl leftCounts rightCounts
      Builtin.Integer.floorDivide_ne_notImplemented).ends steady
  have leavesRest : (perform program (depth + 1) (.binary .remainder left right)).Ends world
      (Builtin.Integer.remainder dividend divisor) world.heap :=
    (Operator.binary_of_integers _ .remainder rfl (by decide) rfl rfl rfl leftCounts rightCounts
      Builtin.Integer.remainder_ne_notImplemented).ends steady
  have makesBoth := SequenceKind.makes_divmod (Machine.perform program depth) steady leftCounts
    rightCounts
  constructor
  · rintro rfl
    exact ⟨dividesFloor, leavesRest, makesBoth⟩
  · intro isNonzero
    obtain ⟨quotient, rest, divides, isRest, isRemainder, isQuotient⟩ :=
      @Builtin.Integer.divides_of_ne dividend divisor isNonzero
    rw [isRemainder] at leavesRest
    refine ⟨quotient, rest, divides, isRest, leavesRest, ?_⟩
    split at isQuotient
    · next isLeast =>
        obtain ⟨isZero, isReported, isFloor, areBoth⟩ := isQuotient
        rw [isFloor] at dividesFloor
        rw [areBoth] at makesBoth
        rw [if_pos isLeast]
        exact ⟨isZero, isReported, dividesFloor, makesBoth⟩
    · next isOther =>
        obtain ⟨word, isWord, isSteps, isFloor, areBoth⟩ := isQuotient
        rw [isFloor] at dividesFloor
        rw [areBoth] at makesBoth
        rw [if_neg isOther]
        exact ⟨word, isWord, isSteps, dividesFloor, makesBoth⟩

/-- After a change of types, the quotient of the least word and -1 is no word, -7 divided by 2 is rounded
down, and the truth value of a falsehood is zero. -/
theorem World.divides_integers_least :
    ∃ (program : Program Unit) (world : World Unit), World.Reachable (fun _ => True) world ∧
      (world.registry.definition? .int).map TypeDefinition.generation = some 1 ∧
      (perform program 1 (.binary .floorDivide (.int (-0x8000000000000000)) (.int (-1)))).Ends world
        (.error (.integerOverflow "//")) world.heap ∧
      (perform program 1 (.binary .remainder (.int (-0x8000000000000000)) (.int (-1)))).Ends world
        (.ok (.int 0)) world.heap ∧
      SequenceKind.tuple.Makes (perform program 1 (.binary .divmod (.int (-7)) (.int 2))) world
        (.ok [.int (-4), .int 1]) ∧
      (perform program 1 (.binary .floorDivide (.bool true) (.bool false))).Ends world
        (.error .divisionOrModuloByZero) world.heap := by
  let program : Program Unit := fun _ _ => do
    let _ ← Body.request (.createType "Meter" [.int] ⟨[("__floordiv__", .none)]⟩)
    Body.request (.invalidate .int)
    return .none
  have isMade :
      ((perform program 2 (.apply "make" 0 []) (.initial .default ())).map fun answer =>
        (answer.2.registry.definition? .int).map TypeDefinition.generation) = some (some 1) := by
    decide +kernel
  obtain ⟨⟨outcome, world⟩, isOutcome, isGeneration⟩ := Option.map_eq_some_iff.1 isMade
  have reachable := World.Reachable.of_outcome isOutcome
  obtain ⟨_, isLeast⟩ := World.divides_integers reachable program 0
    (.int (-0x8000000000000000)) (.int (-1))
  obtain ⟨_, rest, _, _, leavesRest, isLeast⟩ := isLeast (by decide)
  rw [if_pos (by decide)] at isLeast
  obtain ⟨rfl, _, overflows, _⟩ := isLeast
  obtain ⟨_, isSeven⟩ := World.divides_integers reachable program 0 (.int (-7)) (.int 2)
  obtain ⟨quotient, rest, divides, _, _, isSeven⟩ := isSeven (by decide)
  rw [if_neg (by decide)] at isSeven
  obtain ⟨word, isWord, _, _, makes⟩ := isSeven
  have isExact : Word.Divides (-7) 2 (-4) 1 :=
    .of_isRest ((Word.isRest_of_pos (by decide)).2 (by decide)) (by decide)
  obtain ⟨isQuotient, isRest⟩ := divides.unique isExact
  obtain rfl : word = -4 := Int64.toInt_inj.1 (isWord.trans isQuotient)
  obtain rfl : rest = 1 := Int64.toInt_inj.1 isRest
  obtain ⟨isZero, _⟩ := World.divides_integers reachable program 0 (.bool true) (.bool false)
  exact ⟨program, world, reachable, isGeneration, overflows, leavesRest, makes, (isZero rfl).1⟩

/-! ### Power -/

namespace Builtin.Integer

variable {base exponent modulus : Int64}

theorem plainPower_ne_notImplemented : plainPower base exponent ≠ .ok .notImplemented := by
  unfold plainPower
  split
  · split <;> simp
  · exact checked_ne_notImplemented _ _

theorem modularPower_ne_notImplemented : modularPower base exponent modulus ≠ .ok .notImplemented := by
  unfold modularPower
  split
  · simp
  · split <;> simp

/-- A plain power is the exact power if that is a word, for an exponent of at least zero. -/
theorem plainPower_of_nonneg (isExponent : 0 ≤ exponent.toInt) :
    if Word.Fits (base.toInt ^ exponent.toInt.toNat) then
      ∃ power : Int64, power.toInt = base.toInt ^ exponent.toInt.toNat ∧
        plainPower base exponent = .ok (.int power)
    else plainPower base exponent = .error (.integerOverflow "**") := by
  rw [plainPower, if_neg (Int.not_lt.2 isExponent), Word.power?_eq base exponent isExponent, Word.ofInt?]
  split
  · next isWord => exact ⟨_, Int64.toInt_ofInt_of_le isWord.1 isWord.2, rfl⟩
  · rfl

/-- A power modulo a word is the only one, and its steps compute it, for an exponent of at least zero. -/
theorem modularPower_of_nonneg (isNonzero : modulus ≠ 0) (isExponent : 0 ≤ exponent.toInt) :
    ∃ power : Int64,
      (∀ rest, Word.IsModularPower base.toInt exponent.toInt.toNat modulus.toInt rest ↔
        rest = power.toInt) ∧
      Register.powerModulo base.toInt exponent.toInt.toNat modulus.toInt = .ok power.toInt ∧
      modularPower base exponent modulus = .ok (.int power) := by
  obtain ⟨isSteps, isPower⟩ := @Word.powerModulo_ok base exponent modulus isExponent
    (Word.toInt_ne_zero isNonzero)
  refine ⟨Word.powerModulo base exponent modulus, fun rest => ⟨(·.unique isPower), ?_⟩, isSteps, ?_⟩
  · intro isRest
    rw [isRest]
    exact isPower
  · rw [modularPower, if_neg isNonzero, if_neg (Int.not_lt.2 isExponent)]

end Builtin.Integer

namespace Operator

variable {world : World Host} {base exponent third : Value} {baseNumber exponentNumber : Int64}

/-- A power of integers has the outcome of its numbers, without a third operand and with an integer as
the third operand. -/
theorem ternary_power (perform : Perform Host) (baseCounts : base.Counts baseNumber)
    (exponentCounts : exponent.Counts exponentNumber)
    (thirdCounts : third.isNone = false → ∃ number, third.Counts number)
    (isAnswer : Builtin.Integer.power base exponent third ≠ .ok .notImplemented) :
    (ternary perform .power base exponent third).EndsFrom world
      (Builtin.Integer.power base exponent third) world.heap := by
  refine @ternary_of_offers _ _ _ _ _ _ _ .intPower _ _ rfl (baseCounts.offers rfl rfl)
    (exponentCounts.offers rfl rfl) ?_ ?_ isAnswer
  · intro isSome
    obtain ⟨number, counts⟩ := thirdCounts isSome
    exact counts.offers rfl rfl
  · exact .noted (.ofExcept _)

theorem ternary_power_none (perform : Perform Host) (baseCounts : base.Counts baseNumber)
    (exponentCounts : exponent.Counts exponentNumber) :
    (ternary perform .power base exponent .none).EndsFrom world
      (Builtin.Integer.plainPower baseNumber exponentNumber) world.heap := by
  have isPlain : Builtin.Integer.power base exponent .none =
      Builtin.Integer.plainPower baseNumber exponentNumber :=
    baseCounts.withIntegers_eq exponentCounts _
  rw [← isPlain]
  refine ternary_power perform baseCounts exponentCounts (fun isSome => absurd isSome (by decide)) ?_
  rw [isPlain]
  exact Builtin.Integer.plainPower_ne_notImplemented

theorem ternary_power_integer (perform : Perform Host) {modulusNumber : Int64}
    (baseCounts : base.Counts baseNumber) (exponentCounts : exponent.Counts exponentNumber)
    (modulusCounts : third.Counts modulusNumber) :
    (ternary perform .power base exponent third).EndsFrom world
      (Builtin.Integer.modularPower baseNumber exponentNumber modulusNumber) world.heap := by
  have isModular : Builtin.Integer.power base exponent third =
      Builtin.Integer.modularPower baseNumber exponentNumber modulusNumber := by
    rw [Builtin.Integer.power, baseCounts.withIntegers_eq exponentCounts, modulusCounts.isNone_eq,
      modulusCounts.integer?_eq]
    rfl
  rw [← isModular]
  refine ternary_power perform baseCounts exponentCounts (fun _ => ⟨_, modulusCounts⟩) ?_
  rw [isModular]
  exact Builtin.Integer.modularPower_ne_notImplemented

end Operator

/-- In every reachable world a power of integers and of truth values is the exact power, or an error if
that is no word. A power modulo a number is the one rest that is congruent to the exact power, no step of
it breaks off, and a modulus that is zero or an exponent below zero is an error. -/
theorem World.raises_integers {forged : Nat → Prop} {world : World Host}
    (reachable : World.Reachable forged world) (program : Program Host) (depth : Nat)
    {left right : Value} {base exponent : Int64} (baseCounts : left.Counts base)
    (exponentCounts : right.Counts exponent) :
    (0 ≤ exponent.toInt → ∃ outcome : Except Error Value,
      (perform program (depth + 1) (.binary .power left right)).Ends world outcome world.heap ∧
      (perform program (depth + 1) (.ternary .power left right .none)).Ends world outcome world.heap ∧
      if Word.Fits (base.toInt ^ exponent.toInt.toNat) then
        ∃ power : Int64, power.toInt = base.toInt ^ exponent.toInt.toNat ∧ outcome = .ok (.int power)
      else outcome = .error (.integerOverflow "**")) ∧
    ∀ {third : Value} {modulus : Int64}, third.Counts modulus →
      (modulus = 0 → (perform program (depth + 1) (.ternary .power left right third)).Ends world
        (.error .zeroModulus) world.heap) ∧
      (modulus ≠ 0 → exponent.toInt < 0 →
        (perform program (depth + 1) (.ternary .power left right third)).Ends world
          (.error .negativeModularExponent) world.heap) ∧
      (modulus ≠ 0 → 0 ≤ exponent.toInt → ∃ power : Int64,
        (∀ rest, Word.IsModularPower base.toInt exponent.toInt.toNat modulus.toInt rest ↔
          rest = power.toInt) ∧
        Register.powerModulo base.toInt exponent.toInt.toNat modulus.toInt = .ok power.toInt ∧
        (perform program (depth + 1) (.ternary .power left right third)).Ends world
          (.ok (.int power)) world.heap) := by
  have steady : world.Steady := reachable.forgeAll.alike
  constructor
  · intro isExponent
    have ends := (Operator.ternary_power_none (perform program depth) baseCounts exponentCounts).ends
      steady
    refine ⟨_, ends, ends, ?_⟩
    have isPower := @Builtin.Integer.plainPower_of_nonneg base exponent isExponent
    split at isPower
    · next fits =>
        rw [if_pos fits]
        exact isPower
    · next isTooLarge =>
        rw [if_neg isTooLarge]
        exact isPower
  · intro third modulus modulusCounts
    have ends := (Operator.ternary_power_integer (perform program depth) baseCounts exponentCounts
      modulusCounts).ends steady
    refine ⟨?_, ?_, ?_⟩
    · rintro rfl
      exact ends
    · intro isNonzero isNegative
      rw [Builtin.Integer.modularPower, if_neg isNonzero, if_pos isNegative] at ends
      exact ends
    · intro isNonzero isExponent
      obtain ⟨power, isUnique, isSteps, isPower⟩ :=
        @Builtin.Integer.modularPower_of_nonneg base exponent modulus isNonzero isExponent
      rw [isPower] at ends
      exact ⟨power, isUnique, isSteps, ends⟩

/-- After a change of types, a power of 2 is no word where the power of -2 is the least one, a power has
the sign of a modulus at the end of the words, and a modulus that is a falsehood is zero. -/
theorem World.raises_integers_least :
    ∃ (program : Program Unit) (world : World Unit), World.Reachable (fun _ => True) world ∧
      (world.registry.definition? .int).map TypeDefinition.generation = some 1 ∧
      (perform program 1 (.binary .power (.int 2) (.int 63))).Ends world
        (.error (.integerOverflow "**")) world.heap ∧
      (perform program 1 (.binary .power (.int (-2)) (.int 63))).Ends world
        (.ok (.int (-0x8000000000000000))) world.heap ∧
      (perform program 1 (.ternary .power (.int 3) (.int 41) (.int (-0x8000000000000000)))).Ends world
        (.ok (.int (-0x5D5E30984A0479D))) world.heap ∧
      (perform program 1 (.ternary .power (.int 3) (.bool true) (.bool false))).Ends world
        (.error .zeroModulus) world.heap ∧
      (perform program 1 (.ternary .power (.int 3) (.int (-1)) (.bool true))).Ends world
        (.error .negativeModularExponent) world.heap := by
  let program : Program Unit := fun _ _ => do
    let _ ← Body.request (.createType "Meter" [.int] ⟨[("__pow__", .none)]⟩)
    Body.request (.invalidate .int)
    return .none
  have isMade :
      ((perform program 2 (.apply "make" 0 []) (.initial .default ())).map fun answer =>
        (answer.2.registry.definition? .int).map TypeDefinition.generation) = some (some 1) := by
    decide +kernel
  obtain ⟨⟨outcome, world⟩, isOutcome, isGeneration⟩ := Option.map_eq_some_iff.1 isMade
  have reachable := World.Reachable.of_outcome isOutcome
  obtain ⟨isPower, _⟩ := World.raises_integers reachable program 0 (.int 2) (.int 63)
  obtain ⟨_, overflows, _, isOutcome⟩ := isPower (by decide)
  rw [if_neg (by decide)] at isOutcome
  subst isOutcome
  obtain ⟨isPower, _⟩ := World.raises_integers reachable program 0 (.int (-2)) (.int 63)
  obtain ⟨_, isLeast, _, isOutcome⟩ := isPower (by decide)
  rw [if_pos (by decide)] at isOutcome
  obtain ⟨power, isWord, rfl⟩ := isOutcome
  obtain rfl : power = -0x8000000000000000 := Int64.toInt_inj.1 isWord
  obtain ⟨_, isModular⟩ := World.raises_integers reachable program 0 (.int 3) (.int 41)
  obtain ⟨_, _, isModular⟩ := isModular (.int (-0x8000000000000000))
  obtain ⟨power, isUnique, _, hasSign⟩ := isModular (by decide) (by decide)
  have isRest := (isUnique (-0x5D5E30984A0479D)).1
    ⟨by decide, (Word.isRest_of_neg (by decide)).2 (by decide)⟩
  obtain rfl : power = -0x5D5E30984A0479D := Int64.toInt_inj.1 isRest.symm
  obtain ⟨_, isZero⟩ := World.raises_integers reachable program 0 (.int 3) (.bool true)
  obtain ⟨_, isNegative⟩ := World.raises_integers reachable program 0 (.int 3) (.int (-1))
  exact ⟨program, world, reachable, isGeneration, overflows, isLeast, hasSign,
    (isZero (.bool false)).1 rfl, (isNegative (.bool true)).2.1 (by decide) (by decide)⟩

/-! ### Shift -/

namespace Builtin.Integer

variable {word places : Int64}

theorem shiftLeft_ne_notImplemented : shiftLeft word places ≠ .ok .notImplemented := by
  unfold shiftLeft
  split
  · simp
  · exact checked_ne_notImplemented _ _

theorem shiftRight_ne_notImplemented : shiftRight word places ≠ .ok .notImplemented := by
  unfold shiftRight
  split <;> simp

/-- A left shift is the exact product if that is a word, for a count of at least zero. -/
theorem shiftLeft_of_nonneg (isCount : 0 ≤ places.toInt) :
    shiftLeft word places = checked "<<" (Word.ofInt? (word.toInt * 2 ^ places.toInt.toNat)) := by
  rw [shiftLeft, if_neg (Int.not_lt.2 isCount), Word.shiftLeft?_eq isCount]

end Builtin.Integer

/-- In every reachable world a left shift of integers and of truth values is the exact product with a
power of two, or an error if that is no word. A right shift is the exact quotient rounded down, and a
count below zero is an error for both. -/
theorem World.shifts_integers {forged : Nat → Prop} {world : World Host}
    (reachable : World.Reachable forged world) (program : Program Host) (depth : Nat)
    {left right : Value} {word places : Int64} (wordCounts : left.Counts word)
    (placesCount : right.Counts places) :
    (places.toInt < 0 →
      (perform program (depth + 1) (.binary .lshift left right)).Ends world
        (.error .negativeShift) world.heap ∧
      (perform program (depth + 1) (.binary .rshift left right)).Ends world
        (.error .negativeShift) world.heap) ∧
    (0 ≤ places.toInt →
      (Word.Fits (word.toInt * 2 ^ places.toInt.toNat) →
        ∃ product : Int64, product.toInt = word.toInt * 2 ^ places.toInt.toNat ∧
          (perform program (depth + 1) (.binary .lshift left right)).Ends world
            (.ok (.int product)) world.heap) ∧
      (¬Word.Fits (word.toInt * 2 ^ places.toInt.toNat) →
        (perform program (depth + 1) (.binary .lshift left right)).Ends world
          (.error (.integerOverflow "<<")) world.heap) ∧
      (word = 0 → (perform program (depth + 1) (.binary .lshift left right)).Ends world
        (.ok (.int 0)) world.heap) ∧
      ∃ quotient : Int64, quotient.toInt = ⌊(word.toInt : ℚ) / 2 ^ places.toInt.toNat⌋ ∧
        (perform program (depth + 1) (.binary .rshift left right)).Ends world
          (.ok (.int quotient)) world.heap) := by
  have steady : world.Steady := reachable.forgeAll.alike
  have movesLeft : (perform program (depth + 1) (.binary .lshift left right)).Ends world
      (Builtin.Integer.shiftLeft word places) world.heap :=
    (Operator.binary_of_integers _ .lshift rfl (by decide) rfl rfl rfl wordCounts placesCount
      Builtin.Integer.shiftLeft_ne_notImplemented).ends steady
  have movesRight : (perform program (depth + 1) (.binary .rshift left right)).Ends world
      (Builtin.Integer.shiftRight word places) world.heap :=
    (Operator.binary_of_integers _ .rshift rfl (by decide) rfl rfl rfl wordCounts placesCount
      Builtin.Integer.shiftRight_ne_notImplemented).ends steady
  constructor
  · intro isNegative
    rw [Builtin.Integer.shiftLeft, if_pos isNegative] at movesLeft
    rw [Builtin.Integer.shiftRight, if_pos isNegative] at movesRight
    exact ⟨movesLeft, movesRight⟩
  · intro isCount
    rw [Builtin.Integer.shiftLeft_of_nonneg isCount] at movesLeft
    rw [Builtin.Integer.shiftRight, if_neg (Int.not_lt.2 isCount)] at movesRight
    refine ⟨fun isWord => ?_, fun isTooLarge => ?_, ?_, _, Word.toInt_shiftRight isCount, movesRight⟩
    · rw [Word.ofInt?, if_pos isWord] at movesLeft
      exact ⟨_, Int64.toInt_ofInt_of_le isWord.1 isWord.2, movesLeft⟩
    · rw [Word.ofInt?_eq_none_iff.2 isTooLarge] at movesLeft
      exact movesLeft
    · rintro rfl
      rw [show Int64.toInt 0 = 0 from rfl, Int.zero_mul] at movesLeft
      exact movesLeft

/-- After a change of types, the least word is a shift of -1 by 63 places and no shift of 1. A truth is
lost beyond counts of 32 bits and a falsehood is not, the sign of -5 survives 64 places, half of -5 is
rounded down to -3, and a count of -1 is an error for zero too. -/
theorem World.shifts_integers_least :
    ∃ (program : Program Unit) (world : World Unit), World.Reachable (fun _ => True) world ∧
      (world.registry.definition? .int).map TypeDefinition.generation = some 1 ∧
      (perform program 1 (.binary .lshift (.int (-1)) (.int 63))).Ends world
        (.ok (.int (-0x8000000000000000))) world.heap ∧
      (perform program 1 (.binary .lshift (.int 1) (.int 63))).Ends world
        (.error (.integerOverflow "<<")) world.heap ∧
      (perform program 1 (.binary .lshift (.bool true) (.int 0x100000000))).Ends world
        (.error (.integerOverflow "<<")) world.heap ∧
      (perform program 1 (.binary .lshift (.bool false) (.int 0x100000000))).Ends world
        (.ok (.int 0)) world.heap ∧
      (perform program 1 (.binary .rshift (.int (-5)) (.int 64))).Ends world
        (.ok (.int (-1))) world.heap ∧
      (perform program 1 (.binary .rshift (.int (-5)) (.bool true))).Ends world
        (.ok (.int (-3))) world.heap ∧
      (perform program 1 (.binary .lshift (.int 0) (.int (-1)))).Ends world
        (.error .negativeShift) world.heap := by
  let program : Program Unit := fun _ _ => do
    let _ ← Body.request (.createType "Meter" [.int] ⟨[("__lshift__", .none)]⟩)
    Body.request (.invalidate .int)
    return .none
  have isMade :
      ((perform program 2 (.apply "make" 0 []) (.initial .default ())).map fun answer =>
        (answer.2.registry.definition? .int).map TypeDefinition.generation) = some (some 1) := by
    decide +kernel
  obtain ⟨⟨outcome, world⟩, isOutcome, isGeneration⟩ := Option.map_eq_some_iff.1 isMade
  have reachable := World.Reachable.of_outcome isOutcome
  obtain ⟨_, isLeast⟩ := World.shifts_integers reachable program 0 (.int (-1)) (.int 63)
  obtain ⟨least, isWord, isLeast⟩ := (isLeast (by decide)).1 (by decide)
  obtain rfl : least = -0x8000000000000000 := Int64.toInt_inj.1 isWord
  obtain ⟨_, isGreatest⟩ := World.shifts_integers reachable program 0 (.int 1) (.int 63)
  have overflows := (isGreatest (by decide)).2.1 (by decide)
  obtain ⟨_, isTruth⟩ := World.shifts_integers reachable program 0 (.bool true) (.int 0x100000000)
  have isLost := (isTruth (by decide)).2.1 (Word.not_fits_shift (by decide) (by decide))
  obtain ⟨_, isFalsehood⟩ :=
    World.shifts_integers reachable program 0 (.bool false) (.int 0x100000000)
  have isZero := (isFalsehood (by decide)).2.2.1 rfl
  obtain ⟨_, isSign⟩ := World.shifts_integers reachable program 0 (.int (-5)) (.int 64)
  obtain ⟨_, _, _, sign, isWord, isSign⟩ := isSign (by decide)
  obtain rfl : sign = -1 := Int64.toInt_inj.1 (isWord.trans (by decide +kernel))
  obtain ⟨_, isHalf⟩ := World.shifts_integers reachable program 0 (.int (-5)) (.bool true)
  obtain ⟨_, _, _, half, isWord, isHalf⟩ := isHalf (by decide)
  obtain rfl : half = -3 := Int64.toInt_inj.1 (isWord.trans (by decide +kernel))
  obtain ⟨isNegative, _⟩ := World.shifts_integers reachable program 0 (.int 0) (.int (-1))
  exact ⟨program, world, reachable, isGeneration, isLeast, overflows, isLost, isZero, isSign, isHalf,
    (isNegative (by decide)).1⟩

end SlotDispatch
