import SlotDispatch.Dispatch.Operator
import SlotDispatch.Proofs.Machine.Invocation
/-!
Operators under a judgement. An operator runs its plan with a bridge, which says what follows when an
override has declined from the left. The main statements say that operators are related when their
bridges are.
-/

namespace SlotDispatch.Operator

open SlotDispatch.Action

variable {Host Moment : Type} [Preorder Moment] {judgement : Judgement Host Moment}
  {moment : Moment} {first second : Perform Host}

theorem related_unsupported (operation : String) (operands : List Value) :
    judgement.Respects moment (unsupported operation operands) := by
  refine Judgement.Relates.bind (related_reading fun left right resembles => ?_)
    fun _ => .fail (by grind)
  exact List.map_congr_left fun operand _ => (resembles.registry.nameOf operand.typeId).symm

theorem shapes_of_arity_one {kind : SlotKind} (isUnary : kind.arity = 1) :
    kind.shapes ⊆ [.unary, .inquiry, .length] := by
  revert isUnary
  cases kind <;> decide

theorem shapes_of_isBinary {kind : SlotKind} (isBinary : kind.isBinary = true) :
    kind.shapes ⊆ [.binary, .ternary] := by
  revert isBinary
  cases kind <;> decide

theorem isTernary_iff (kind : SlotKind) : kind.isTernary = true ↔ kind = .power := by
  rw [SlotKind.isTernary, decide_eq_true_eq]

/-! ### Operators with a bridge -/

section Bridge

variable (bridge : Invocation.Bridge Host) (perform : Perform Host)

/-- The steps of a plan are run with a bridge. -/
def runPlanBy (left right third : Value) : Plan → Action (World Host) (Option Value)
  | [] => return none
  | step :: rest => do
      let result ←
        Invocation.ternaryBy bridge perform step.target step.side left right third
      if result.isNotImplemented then runPlanBy left right third rest else return some result

/-- This is the type of a third operand that counts. -/
def thirdType? (third : Value) : Option TypeId :=
  if third.isNone then none else some third.typeId

/-- An operator on three operands is run with a bridge. -/
def ternaryBy (kind : SlotKind) (left right third : Value) : Action (World Host) Value :=
  if !kind.isTernary then fail (.notTernary kind.name)
  else
    withEntries left.typeId right.typeId (thirdType? third) fun leftEntry rightEntry thirdEntry? => do
      let plan := Plan.ternary kind leftEntry rightEntry thirdEntry?
      match ← runPlanBy bridge perform left right third plan with
      | some result => return result
      | none => unsupported kind.symbol (left :: Invocation.operandArguments right third)

/-- An operator on two operands is run with a bridge. -/
def binaryBy (kind : SlotKind) (left right : Value) : Action (World Host) Value :=
  if kind.isTernary then ternaryBy bridge perform kind left right .none
  else if !kind.isBinaryNumber then fail (.notBinary kind.name)
  else
    match integerResult? kind left right with
    | some result => return result
    | none =>
        withEntries left.typeId right.typeId none fun leftEntry rightEntry thirdEntry? => do
          let plan := Plan.ternary kind leftEntry rightEntry thirdEntry?
          match ← runPlanBy bridge perform left right .none plan with
          | some result => return result
          | none => fallback perform kind left right leftEntry rightEntry

/-- An augmented assignment falls back to an operator that is run with a bridge. -/
def inPlaceBy (kind : SlotKind) (left right : Value) : Action (World Host) Value :=
  match kind.inPlaceSymbol? with
  | none => fail (.notInPlace kind.name)
  | some symbol => do
      let result ← inPlaceResult perform kind left right
      if !result.isNotImplemented then return result
      else
        match ← attempt (binaryBy bridge perform kind left right) with
        | .ok result => return result
        | .error error =>
            match error.kind with
            | .unsupportedOperandTypes operation _ =>
                if operation = kind.symbol then unsupported symbol [left, right]
                else fail error
            | _ => fail error

end Bridge

section Equal

variable (perform : Perform Host)

/-- The machine tries the shared reflected method. -/
theorem runPlan_eq_runPlanBy (left right third : Value) (plan : Plan) :
    runPlan perform left right third plan =
      runPlanBy (Invocation.sharedReflected perform) perform left right third plan := by
  induction plan with
  | nil => rfl
  | cons step rest inductionHypothesis =>
      simp only [runPlan, runPlanBy, inductionHypothesis, Invocation.ternary_eq_ternaryBy]

theorem ternary_eq_ternaryBy (kind : SlotKind) (left right third : Value) :
    ternary perform kind left right third =
      ternaryBy (Invocation.sharedReflected perform) perform kind left right third := by
  cases isNone : third.isNone with
  | false =>
      simp only [ternary, ternaryBy, thirdType?, isNone, Bool.false_eq_true, if_false,
        map_eq_pure_bind, bind_assoc, pure_bind, runPlan_eq_runPlanBy]
      rfl
  | true =>
      simp only [ternary, ternaryBy, thirdType?, isNone, if_true, pure_bind, runPlan_eq_runPlanBy]
      rfl

theorem binary_eq_binaryBy (kind : SlotKind) (left right : Value) :
    binary perform kind left right =
      binaryBy (Invocation.sharedReflected perform) perform kind left right := by
  simp only [binaryBy, ← runPlan_eq_runPlanBy, ← ternary_eq_ternaryBy]
  rfl

theorem inPlace_eq_inPlaceBy (kind : SlotKind) (left right : Value) :
    inPlace perform kind left right =
      inPlaceBy (Invocation.sharedReflected perform) perform kind left right := by
  simp only [inPlaceBy, ← binary_eq_binaryBy]
  rfl

end Equal

/-! ### Attempts -/

/-- Two attempts are the same but for their targets, which are shown for the comparison slot. -/
structure Attempt.Shows (shows : SlotTarget → SlotTarget → Prop) (attempt other : Attempt) :
    Prop where
  operator : other.operator = attempt.operator
  left : other.left = attempt.left
  right : other.right = attempt.right
  target : shows attempt.target other.target

theorem attempts_shows (operator : Comparison) (left right : Value)
    {leftEntry rightEntry otherLeft otherRight : SlotEntry}
    (leftShows : SlotEntry.Shows (judgement.Shows moment) leftEntry otherLeft)
    (rightShows : SlotEntry.Shows (judgement.Shows moment) rightEntry otherRight) :
    List.Forall₂ (Attempt.Shows (judgement.Shows moment .richCompare))
      (attempts operator left right leftEntry rightEntry)
      (attempts operator left right otherLeft otherRight) := by
  have forward : Attempt.Shows (judgement.Shows moment .richCompare)
      ⟨leftEntry.target .richCompare, operator, left, right⟩
      ⟨otherLeft.target .richCompare, operator, left, right⟩ :=
    ⟨rfl, rfl, rfl, leftShows.target .richCompare⟩
  have reverse : Attempt.Shows (judgement.Shows moment .richCompare)
      ⟨rightEntry.target .richCompare, operator.reflected, right, left⟩
      ⟨otherRight.target .richCompare, operator.reflected, right, left⟩ :=
    ⟨rfl, rfl, rfl, rightShows.target .richCompare⟩
  have keepsEmpty : ∀ attempt other, Attempt.Shows (judgement.Shows moment .richCompare) attempt
      other → ((!attempt.target.isAbsent) = true ↔ (!other.target.isAbsent) = true) :=
    fun attempt other shows => by rw [(judgement.resembles shows.target).isAbsent]
  unfold attempts
  dsimp only
  rw [leftShows.typeId, rightShows.typeId, SlotEntry.isSubtypeOf, SlotEntry.isSubtypeOf,
    rightShows.linearization]
  split
  · exact List.rel_filter keepsEmpty (.cons reverse (.cons forward .nil))
  · exact List.rel_filter keepsEmpty (.cons forward (.cons reverse .nil))

section Performs

variable (performs : judgement.Performs first second)

include performs

/-! ### One operand -/

theorem related_unary (kind : SlotKind) (operand : Value) :
    judgement.Relates moment (unary first kind operand) (unary second kind operand) := by
  unfold unary
  split
  · exact .fail (by grind)
  · rename_i isUnary
    exact related_unlessAbsent operand kind (fun _ _ => related_failFor (by grind) operand)
      fun _ _ _ _ resembles suits => Invocation.related_unary performs resembles suits
        (shapes_of_arity_one (by simpa using isUnary)) operand

/-! ### Two operands -/

theorem related_repeatSequence {target other : SlotTarget}
    (shows : judgement.Shows moment .sqRepeat target other) (sequence count : Value) :
    judgement.Relates moment (repeatSequence first target sequence count)
      (repeatSequence second other sequence count) := by
  refine (related_hasSlot count .index).bind fun hasIndex => ?_
  split
  · exact (Protocol.related_index performs count).bind fun size =>
      Invocation.related_size performs (judgement.resembles shows) (judgement.suits shows)
        (by decide) sequence size
  · exact related_failFor (by grind) count

theorem related_fallback (kind : SlotKind) (left right : Value)
    {leftEntry rightEntry otherLeft otherRight : SlotEntry}
    (leftShows : SlotEntry.Shows (judgement.Shows moment) leftEntry otherLeft)
    (rightShows : SlotEntry.Shows (judgement.Shows moment) rightEntry otherRight) :
    judgement.Relates moment (fallback first kind left right leftEntry rightEntry)
      (fallback second kind left right otherLeft otherRight) := by
  have concat := leftShows.target .sqConcat
  have leftRepeat := leftShows.target .sqRepeat
  have rightRepeat := rightShows.target .sqRepeat
  unfold fallback
  split
  · dsimp only
    rw [(judgement.resembles concat).isAbsent]
    split
    · exact related_unsupported _ _
    · exact Invocation.related_ternary performs (judgement.resembles concat)
        (judgement.suits concat) .left left right .none (by decide)
        (Invocation.bridges_of_not_isBinary performs concat rfl)
  · dsimp only
    rw [(judgement.resembles leftRepeat).isAbsent, (judgement.resembles rightRepeat).isAbsent]
    split
    · exact related_repeatSequence performs leftRepeat left right
    · split
      · exact related_repeatSequence performs rightRepeat right left
      · exact related_unsupported _ _
  · exact related_unsupported _ _

theorem related_inPlaceResult (kind : SlotKind) (left right : Value) :
    judgement.Relates moment (inPlaceResult first kind left right)
      (inPlaceResult second kind left right) := by
  unfold inPlaceResult
  split
  · exact .pure _
  · refine (related_lookup left.typeId _).bind fun method? => ?_
    dsimp only
    split
    · exact .pure _
    · exact Invocation.related_callSpecial performs _ left [right]

section Bridges

variable {bridge next : Invocation.Bridge Host}
  (bridges : ∀ {moment : Moment} {kind target other}, judgement.Shows moment kind target other →
    Invocation.Bridges judgement moment bridge next target other)

include bridges

theorem related_runPlanBy {kind : SlotKind} (left right third : Value)
    (isTernary : kind.shapes ⊆ if third.isNone then [.binary, .ternary] else [.ternary])
    {plan other : Plan}
    (steps : List.Forall₂ (PlanStep.Shows (judgement.Shows moment kind)) plan other) :
    judgement.Relates moment (runPlanBy bridge first left right third plan)
      (runPlanBy next second left right third other) := by
  induction steps with
  | nil => exact .pure _
  | @cons step otherStep rest otherRest shows _ inductionHypothesis =>
      rw [runPlanBy, runPlanBy, shows.side]
      refine (Invocation.related_ternaryBy performs (judgement.resembles shows.target)
        (judgement.suits shows.target) step.side left right third isTernary
        (bridges shows.target)).bind fun result => ?_
      split
      · exact inductionHypothesis
      · exact .pure _

theorem related_ternaryBy (kind : SlotKind) (left right third : Value) :
    judgement.Relates moment (ternaryBy bridge first kind left right third)
      (ternaryBy next second kind left right third) := by
  unfold ternaryBy
  split
  · exact .fail (by grind)
  · rename_i isTernary
    obtain rfl : kind = .power := (isTernary_iff kind).1 (by simpa using isTernary)
    refine judgement.withEntries _ _ _
      fun later _ leftEntry rightEntry thirdEntry? _ _ _ _ _ steps => ?_
    refine (related_runPlanBy performs bridges left right third ?_ (steps .power)).bind
      fun result? => ?_
    · split <;> decide
    · split
      · exact .pure _
      · exact related_unsupported _ _

theorem related_binaryBy (kind : SlotKind) (left right : Value) :
    judgement.Relates moment (binaryBy bridge first kind left right)
      (binaryBy next second kind left right) := by
  unfold binaryBy
  split
  · exact related_ternaryBy performs bridges kind left right .none
  · split
    · exact .fail (by grind)
    · rename_i isBinaryNumber
      split
      · exact .pure _
      · refine judgement.withEntries _ _ _
          fun later _ leftEntry rightEntry thirdEntry? _ _ _ leftShows rightShows steps => ?_
        have isBinary : kind.isBinary = true := by
          simp only [Bool.not_eq_true, Bool.not_eq_false'] at isBinaryNumber
          rw [SlotKind.isBinary, isBinaryNumber, Bool.true_or]
        refine (related_runPlanBy performs bridges left right .none (shapes_of_isBinary isBinary)
          (steps kind)).bind fun result? => ?_
        split
        · exact .pure _
        · exact related_fallback performs kind left right leftShows rightShows

theorem related_inPlaceBy (kind : SlotKind) (left right : Value) :
    judgement.Relates moment (inPlaceBy bridge first kind left right)
      (inPlaceBy next second kind left right) := by
  unfold inPlaceBy
  split
  · exact .fail (by grind)
  · refine (related_inPlaceResult performs kind left right).bind fun result => ?_
    split
    · exact .pure _
    · refine judgement.rescue (related_binaryBy performs bridges kind left right)
        (fun result => .pure result) fun error => ?_
      dsimp only
      split
      · split
        · exact .inr (related_unsupported _ _)
        · exact .inl ⟨rfl, rfl⟩
      · exact .inl ⟨rfl, rfl⟩

end Bridges

/-! ### Comparison -/

theorem related_runAttempts {attempts others : List Attempt}
    (matched : List.Forall₂ (Attempt.Shows (judgement.Shows moment .richCompare)) attempts
      others) :
    judgement.Relates moment (runAttempts first attempts) (runAttempts second others) := by
  induction matched with
  | nil => exact .pure _
  | @cons attempt other rest otherRest shows _ inductionHypothesis =>
      rw [runAttempts, runAttempts, shows.operator, shows.left, shows.right]
      refine (Invocation.related_compare performs (judgement.resembles shows.target)
        (judgement.suits shows.target) (by decide) _ _ _).bind fun result => ?_
      split
      · exact inductionHypothesis
      · exact .pure _

theorem related_compare (operator : Comparison) (left right : Value) :
    judgement.Relates moment (compare first operator left right)
      (compare second operator left right) := by
  refine related_entries left.typeId right.typeId
    fun later _ leftEntry rightEntry _ _ leftShows rightShows => ?_
  refine (related_runAttempts performs
    (attempts_shows operator left right leftShows rightShows)).bind fun result? => ?_
  split
  · exact .pure _
  · split
    · exact .pure _
    · exact .pure _
    · exact (related_typeName left).bind fun _ => related_failFor (by grind) right

theorem related_compareTruth (operator : Comparison) (left right : Value) :
    judgement.Relates moment (compareTruth first operator left right)
      (compareTruth second operator left right) := by
  unfold compareTruth
  split
  · exact .pure _
  · exact .pure _
  · exact (related_compare performs _ left right).bind fun result =>
      Protocol.related_truth performs result

end Performs

end SlotDispatch.Operator
