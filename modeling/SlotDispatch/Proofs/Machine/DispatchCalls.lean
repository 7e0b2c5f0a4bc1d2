import SlotDispatch.Proofs.Machine.Blocking
import SlotDispatch.Proofs.Machine.MethodCall
import SlotDispatch.Proofs.Machine.Reflected
/-!
The method calls of a dispatch. The main statement says which special methods an operator calls, with
which operands in which order, and that it makes at most one call for each side, as long as the methods
that it calls keep the types.
-/

namespace SlotDispatch

open SlotDispatch.Action SlotDispatch.Machine
open SlotDispatch.Invocation (operandArguments)

variable {Host : Type} {forged : Nat → Prop}

/-! ### Calls for the operands -/

/-- A dispatch calls the forward method of the left slot on the left operand. It calls the reflected
method of the right slot on the right operand, unless both types are the same or there is a third
operand. It calls the forward method of the third slot on the left operand when there is a third
operand. The third operand is an argument exactly when it is not `None`. A product also asks an operand
for its index. -/
inductive MethodCall.IsFor (registry : Registry) (kind : SlotKind) (left right third : Value) :
    MethodCall Host → Prop
  | left {entry : SlotEntry} {method : Value} (start : World Host)
      (forLeft : registry.HasEntry left.typeId entry)
      (isForward : (entry.target kind).forward = .method method) :
      IsFor registry kind left right third
        ⟨some .left, method, left, operandArguments right third, start⟩
  | right {entry : SlotEntry} {method : Value} (start : World Host)
      (forRight : registry.HasEntry right.typeId entry)
      (isReflected : (entry.target kind).reflected = .method method)
      (otherType : left.typeId ≠ right.typeId) (noThird : third.isNone = true) :
      IsFor registry kind left right third ⟨some .right, method, right, [left], start⟩
  | third {entry : SlotEntry} {method : Value} (start : World Host)
      (forThird : registry.HasEntry third.typeId entry)
      (isForward : (entry.target kind).forward = .method method) (isThird : third.isNone = false) :
      IsFor registry kind left right third ⟨some .third, method, left, [right, third], start⟩
  | index {operand : Value} {entry : SlotEntry} {method : Value} (start : World Host)
      (isProduct : kind = .multiply) (isOperand : operand ∈ [left, right])
      (forOperand : registry.HasEntry operand.typeId entry)
      (isIndex : (entry.target .index).forward = .method method) :
      IsFor registry kind left right third ⟨none, method, operand, [], start⟩

/-- Calls are for some sides when they are made for the operands and their sides are in this order. -/
structure MethodCall.AreFor (registry : Registry) (kind : SlotKind) (left right third : Value)
    (sides : List (Option Side)) (calls : List (MethodCall Host)) : Prop where
  isFor : ∀ call ∈ calls, call.IsFor registry kind left right third
  inOrder : (calls.map MethodCall.side?).Sublist sides

namespace MethodCall.AreFor

variable {registry : Registry} {kind : SlotKind} {left right third : Value}
  {sides more : List (Option Side)} {calls later : List (MethodCall Host)}

theorem nil : AreFor registry kind left right third sides ([] : List (MethodCall Host)) :=
  ⟨by simp, List.nil_sublist sides⟩

theorem single {call : MethodCall Host} (isFor : call.IsFor registry kind left right third)
    (isSide : call.side? ∈ sides) : AreFor registry kind left right third sides [call] :=
  ⟨by simpa using isFor, List.singleton_sublist.2 isSide⟩

theorem mono (areFor : AreFor registry kind left right third sides calls)
    (inside : sides.Sublist more) : AreFor registry kind left right third more calls :=
  ⟨areFor.isFor, areFor.inOrder.trans inside⟩

theorem append (first : AreFor registry kind left right third sides calls)
    (second : AreFor registry kind left right third more later) :
    AreFor registry kind left right third (sides ++ more) (calls ++ later) where
  isFor := List.forall_mem_append.2 ⟨first.isFor, second.isFor⟩
  inOrder := by
    rw [List.map_append]
    exact first.inOrder.append second.inOrder

end MethodCall.AreFor

/-- What follows calls for some sides makes its calls for further sides. -/
theorem Action.MakesOnly.bind_areFor {Result Next : Type} {machine : Perform Host} {registry : Registry}
    {kind : SlotKind} {left right third : Value} {sides more : List (Option Side)}
    {first : Perform Host → Action (World Host) Result}
    {second : Perform Host → Result → Action (World Host) Next}
    (makes : MakesOnly machine registry (MethodCall.AreFor registry kind left right third sides) first)
    (keepsSound : (first machine).KeepsSound)
    (makesLater : ∀ result, MakesOnly machine registry
      (MethodCall.AreFor registry kind left right third more) fun machine => second machine result) :
    MakesOnly machine registry (MethodCall.AreFor registry kind left right third (sides ++ more))
      fun machine => first machine >>= second machine :=
  makes.bind keepsSound makesLater (fun _ areFor => areFor.mono (List.sublist_append_left sides more))
    fun _ _ areFor areForLater => areFor.append areForLater

/-! ### Calls of one side -/

/-- A step from the right is received by the right operand, and every other step by the left one. -/
def Side.receiver (side : Side) (left right : Value) : Value :=
  match side with
  | .right => right
  | .left | .third => left

/-- The arguments of a step are the other operands. -/
def Side.arguments (side : Side) (left right third : Value) : List Value :=
  match side with
  | .right => operandArguments left third
  | .left | .third => operandArguments right third

namespace Invocation

variable {machine : Perform Host} {registry : Registry} {allows : List (MethodCall Host) → Prop}
  {kind : SlotKind} (isOfOperator : kind.isOfOperator = true) {target : SlotTarget}
  (fits : target.Fits kind) (isAllowed : allows [])

include isOfOperator fits isAllowed

theorem makesOnly_sideCall (side : Side) (left right third : Value)
    (isAllowedCall : ∀ method, target.forSide side = .method method → ∀ start,
      allows [⟨some side, method, side.receiver left right, side.arguments left right third, start⟩]) :
    MakesOnly machine registry allows fun machine =>
      sideCall machine target side left right third := by
  have operates : ∀ {dunder? operation}, target.reachBy dunder? = .builtin operation →
      MakesOnly machine registry allows fun machine =>
        builtinTernary machine operation left right third := fun reaches => by
    have isKind := fits.kind_of_reachBy reaches
    exact .quiet (fun other => builtinTernary_eq (isKind ▸ isOfOperator) other machine left right third)
      (keepsTypes_builtinTernary (isKind ▸ isOfOperator) machine left right third) isAllowed
  unfold sideCall
  cases side with
  | right =>
      dsimp only
      cases reaches : target.reflected with
      | method method => exact .called _ method right _ (isAllowedCall method reaches)
      | builtin operation => exact operates reaches
      | blocked | absent => exact .pure _ isAllowed
  | left | third =>
      dsimp only
      cases reaches : target.forward with
      | method method => exact .called _ method left _ (isAllowedCall method reaches)
      | builtin operation => exact operates reaches
      | blocked | absent => exact .pure _ isAllowed

theorem makesOnly_unary (operand : Value)
    (isAllowedCall : ∀ method, target.forward = .method method → ∀ start,
      allows [⟨none, method, operand, [], start⟩]) :
    MakesOnly machine registry allows fun machine => unary machine target operand := by
  unfold unary
  cases reaches : target.forward with
  | method method => exact .called _ method operand [] (isAllowedCall method reaches)
  | builtin operation =>
      have isKind := fits.kind_of_reachBy reaches
      exact .quiet (fun other => builtinUnary_eq (isKind ▸ isOfOperator) other machine operand)
        (keepsTypes_builtinUnary (isKind ▸ isOfOperator) machine operand) isAllowed
  | blocked | absent => exact .pure _ isAllowed

end Invocation

/-! ### Calls of a plan -/

/-- A step makes a call for its side, and the step of a shared slot may also make one for the right
side. -/
def PlanStep.sides (isShared : Bool) (step : PlanStep) : List (Option Side) :=
  if step.side = .left ∧ isShared = true then [some .left, some .right] else [some step.side]

theorem PlanStep.sides_eq (isShared : Bool) (step : PlanStep) :
    step.sides isShared =
      [some step.side] ++ if step.side = .left ∧ isShared = true then [some .right] else [] := by
  rw [sides]
  split
  · rename_i isLeft
    rw [isLeft.1]
    rfl
  · rfl

/-- These are the sides of the steps of a plan. -/
def Plan.sides (isShared : Bool) (plan : Plan) : List (Option Side) :=
  plan.flatMap (PlanStep.sides isShared)

theorem Plan.none_notMem_sides (isShared : Bool) (plan : Plan) : none ∉ plan.sides isShared := by
  intro isSide
  obtain ⟨step, _, isSide⟩ := List.mem_flatMap.1 isSide
  rw [PlanStep.sides] at isSide
  split at isSide <;> simp at isSide

namespace Operator

/-- Two operands share a slot when the slot of the right operand makes no step of its own, and only a
dispatch without a third operand goes on to its reflected method. -/
def isShared (kind : SlotKind) (third : Value) (leftEntry rightEntry : SlotEntry) : Bool :=
  third.isNone && (rightEntry.target kind).isSame (leftEntry.target kind)

section Plan

variable {kind : SlotKind} {left right third : Value} {world start : World Host}
  {leftEntry rightEntry : SlotEntry} {plan : Plan}
  (prepares : Prepares forged kind left right third world start leftEntry rightEntry plan)

include prepares

theorem Prepares.fits {step : PlanStep} (isStep : step ∈ plan) : step.target.Fits kind := by
  obtain ⟨thirdSlots?, _, forThird, inOrder⟩ := prepares.inOrder
  obtain ⟨_, _, leftIsEntry⟩ := prepares.forLeft
  obtain ⟨_, _, rightIsEntry⟩ := prepares.forRight
  obtain ⟨side, target⟩ := step
  cases side with
  | left =>
      obtain ⟨rfl, _⟩ := (inOrder.left_iff target).1 isStep
      exact leftIsEntry.fits kind
  | right =>
      obtain ⟨rfl, _⟩ := (inOrder.right_iff target).1 isStep
      exact rightIsEntry.fits kind
  | third =>
      obtain ⟨isThird, _⟩ := (inOrder.third_iff target).1 isStep
      obtain ⟨thirdSlots, isSlots, rfl⟩ := Option.map_eq_some_iff.1 isThird
      obtain ⟨_, _, thirdIsEntry⟩ := forThird thirdSlots isSlots
      exact thirdIsEntry.fits kind

/-- The method of a step is called for the operands. -/
theorem Prepares.isFor {step : PlanStep} (isStep : step ∈ plan) {method : Value}
    (isMethod : step.target.forSide step.side = .method method)
    (isAsked : step.side = .right → third.isNone = true) (now : World Host) :
    MethodCall.IsFor world.registry kind left right third ⟨some step.side, method,
      step.side.receiver left right, step.side.arguments left right third, now⟩ := by
  obtain ⟨thirdSlots?, isThirdSlots, forThird, inOrder⟩ := prepares.inOrder
  obtain ⟨side, target⟩ := step
  cases side with
  | left =>
      obtain ⟨rfl, _⟩ := (inOrder.left_iff target).1 isStep
      exact .left now prepares.forLeft isMethod
  | right =>
      obtain ⟨rfl, _, otherType, _⟩ := (inOrder.right_iff target).1 isStep
      have noThird := isAsked rfl
      have isArgument : Side.arguments .right left right third = [left] := by
        simp [Side.arguments, operandArguments, noThird]
      rw [isArgument]
      exact .right now prepares.forRight isMethod otherType noThird
  | third =>
      obtain ⟨isThird, _⟩ := (inOrder.third_iff target).1 isStep
      obtain ⟨thirdSlots, isSlots, rfl⟩ := Option.map_eq_some_iff.1 isThird
      have hasThird : third.isNone = false := by
        rw [← isThirdSlots, isSlots]
        rfl
      have areArguments : Side.arguments .third left right third = [right, third] := by
        simp [Side.arguments, operandArguments, hasThird]
      rw [areArguments]
      exact .third now (forThird thirdSlots isSlots) isMethod hasThird

/-- A plan has a step for each side at most, and operands that share their slot have one step. -/
theorem Prepares.nodup_sides : (plan.sides (isShared kind third leftEntry rightEntry)).Nodup := by
  obtain ⟨thirdSlots?, isThirdSlots, _, inOrder⟩ := prepares.inOrder
  cases isShared : isShared kind third leftEntry rightEntry with
  | false =>
      have oneSide : PlanStep.sides false = fun step => [some step.side] := by
        funext step
        simp [PlanStep.sides]
      have areSides : plan.sides false = (plan.map PlanStep.side).map some := by
        rw [Plan.sides, oneSide, ← List.map_eq_flatMap, List.map_map]
        rfl
      rw [areSides]
      exact inOrder.oneStepPerSide.map (Option.some_injective _)
  | true =>
      rw [Operator.isShared, Bool.and_eq_true] at isShared
      obtain ⟨noThird, isSame⟩ := isShared
      rw [noThird, Option.isNone_iff_eq_none] at isThirdSlots
      subst isThirdSlots
      have isThere : (leftEntry.target kind).isAbsent = false := by
        cases isTarget : leftEntry.target kind with
        | absent =>
            rw [isTarget, SlotTarget.isSame_comm] at isSame
            cases isSame
        | builtin | override => rfl
      rw [inOrder.eq_left isThere isSame]
      simp [Plan.sides, PlanStep.sides]

variable {machine : Perform Host} (isBinary : kind.isBinary = true)

include isBinary

/-- Operands that share their slot may go on to its reflected method. The slot that is read then is that
of the entry, so the operands shared it from the start. -/
theorem makesOnly_sharedReflected (noThird : third.isNone = true) {definition : Override}
    {inherited : SlotTarget} (isOverride : leftEntry.target kind = .override definition inherited) :
    MakesOnly machine world.registry
      (MethodCall.AreFor world.registry kind left right third
        (if isShared kind third leftEntry rightEntry = true then [some .right] else []))
      fun machine => Invocation.sharedReflected machine definition left right := by
  obtain ⟨_, _, leftIsEntry⟩ := prepares.forLeft
  have isKind : definition.kind = kind := (isOverride ▸ leftIsEntry.fits kind).1
  by_cases sameType : left.typeId = right.typeId
  · simp only [Invocation.sharedReflected, sameType, decide_true, Bool.true_or, if_true]
    exact .pure _ .nil
  have isBinary : definition.kind.isBinary = true := isKind ▸ isBinary
  simp only [sharedReflected_eq sameType isBinary, isKind]
  refine .targetOf_bind prepares.alike.coherent.wellFormed prepares.forRight .nil fun target _ => ?_
  cases isMethod : sharedMethod? definition target with
  | none => exact .pure _ fun _ => .nil
  | some method =>
      refine .called (some .right) method right [left] fun now isTarget => ?_
      have isSame : (rightEntry.target kind).isSame (leftEntry.target kind) = true := by
        rw [← isTarget, isOverride]
        exact isSame_of_sharedMethod? inherited isMethod
      have isReflected := reflected_of_sharedMethod? inherited isMethod
      rw [← isOverride, ← prepares.target_eq isSame] at isReflected
      have isShared : isShared kind third leftEntry rightEntry = true := by
        rw [isShared, noThird, isSame]
        rfl
      rw [isShared, if_pos rfl]
      exact .single (.right now prepares.forRight isReflected sameType noThird) (by simp)

/-- A step makes its calls. An override may go on to the method that the operands share. -/
theorem makesOnly_ternary (sounds : (UniformRules.keepsSound Host).RelatesAll machine machine)
    {step : PlanStep} (isStep : step ∈ plan) :
    MakesOnly machine world.registry
      (MethodCall.AreFor world.registry kind left right third
        (step.sides (isShared kind third leftEntry rightEntry)))
      fun machine => Invocation.ternary machine step.target step.side left right third := by
  have isOfOperator : kind.isOfOperator = true := by simp [SlotKind.isOfOperator, isBinary]
  have called : (∀ method, step.target.forSide step.side = .method method → step.side = .right →
        third.isNone = true) →
      MakesOnly machine world.registry
        (MethodCall.AreFor world.registry kind left right third [some step.side])
        fun machine => Invocation.sideCall machine step.target step.side left right third :=
    fun isAsked => Invocation.makesOnly_sideCall isOfOperator (prepares.fits isStep) .nil step.side left
      right third fun method isMethod now =>
        .single (prepares.isFor isStep isMethod (isAsked method isMethod) now) (by simp)
  have sides := PlanStep.sides_eq (isShared kind third leftEntry rightEntry) step
  obtain ⟨side, target⟩ := step
  dsimp only at called sides ⊢
  rw [sides]
  cases target with
  | absent | builtin =>
      refine (called fun method isMethod _ => ?_).mono fun _ areFor =>
        areFor.mono (List.sublist_append_left _ _)
      cases side <;> cases isMethod
  | override definition inherited =>
      simp only [Invocation.ternary]
      by_cases isUnanswered : (side = .right && !third.isNone) = true
      · simp only [if_pos isUnanswered]
        exact .pure _ .nil
      simp only [if_neg isUnanswered]
      have isAsked : side = .right → third.isNone = true := fun isRight => by
        simpa [isRight] using isUnanswered
      refine (called fun _ _ => isAsked).bind_areFor (UniformRules.sideCall sounds _ _ _ _ _)
        fun result => ?_
      by_cases goesOn : (result.isNotImplemented && side = .left && third.isNone) = true
      · simp only [if_pos goesOn]
        simp only [Bool.and_eq_true, decide_eq_true_eq] at goesOn
        obtain ⟨⟨_, rfl⟩, noThird⟩ := goesOn
        obtain ⟨_, _, _, inOrder⟩ := prepares.inOrder
        have isOverride := ((inOrder.left_iff _).1 isStep).1.symm
        refine (makesOnly_sharedReflected prepares isBinary noThird isOverride).mono fun _ areFor => ?_
        simpa using areFor
      · simp only [if_neg goesOn]
        exact .pure _ .nil

/-- A plan makes the calls of its steps. -/
theorem makesOnly_runPlan (sounds : (UniformRules.keepsSound Host).RelatesAll machine machine)
    (steps : Plan) (inside : steps ⊆ plan) :
    MakesOnly machine world.registry
      (MethodCall.AreFor world.registry kind left right third
        (steps.sides (isShared kind third leftEntry rightEntry)))
      fun machine => runPlan machine left right third steps := by
  induction steps with
  | nil => exact .pure _ .nil
  | cons step rest inductionHypothesis =>
      obtain ⟨isStep, areLater⟩ := List.cons_subset.1 inside
      refine (makesOnly_ternary prepares isBinary sounds isStep).bind_areFor
        (UniformRules.ternary sounds _ _ _ _ _) fun result => ?_
      by_cases declines : result.isNotImplemented = true
      · simp only [if_pos declines]
        exact inductionHypothesis areLater
      · simp only [if_neg declines]
        exact .pure _ .nil

/-! ### Calls after the plan -/

omit isBinary

/-- Sequences are concatenated by operations alone. -/
theorem makesOnly_concat {allows : List (MethodCall Host) → Prop} (isAllowed : allows []) :
    MakesOnly machine world.registry allows fun machine =>
      Invocation.binary machine (leftEntry.target .sqConcat) .left left right := by
  obtain ⟨_, found, leftIsEntry⟩ := prepares.forLeft
  have fits := leftIsEntry.fits .sqConcat
  rw [leftIsEntry.target_of_dunders_eq_nil prepares.alike.coherent found rfl] at fits ⊢
  generalize ((_ : List Builtin).find? _) = operation? at fits ⊢
  cases operation? with
  | none => exact .pure _ isAllowed
  | some operation =>
      exact Invocation.makesOnly_sideCall rfl fits isAllowed .left left right .none
        fun _ isMethod => nomatch isMethod

omit prepares

theorem makesOnly_index (sounds : (UniformRules.keepsSound Host).RelatesAll machine machine)
    {registry : Registry} (wellFormed : registry.WellFormed) (isProduct : kind = .multiply)
    {operand : Value} (isOperand : operand ∈ [left, right]) {entry : SlotEntry}
    (forOperand : registry.HasEntry operand.typeId entry) :
    MakesOnly machine registry (MethodCall.AreFor registry kind left right third [none]) fun machine =>
      Protocol.index machine operand := by
  have asks : ∀ finish : Value → Action (World Host) Int64,
      (∀ result, (finish result).KeepsTypes) →
      MakesOnly machine registry (MethodCall.AreFor registry kind left right third [none])
        fun machine => targetOf operand .index >>= fun target =>
          if target.isAbsent then failFor Error.notInteger operand
          else Invocation.unary machine target operand >>= finish := by
    intro finish keepsTypes
    refine .targetOf_bind wellFormed forOperand .nil fun target fits => ?_
    by_cases isAbsent : target.isAbsent = true
    · simp only [if_pos isAbsent]
      exact .quiet (fun _ => rfl) (.failFor _ operand) fun _ => .nil
    simp only [if_neg isAbsent]
    have keepsSound : (UniformRules.keepsSound Host).judgement.Relates .now
        (Invocation.unary machine target operand) (Invocation.unary machine target operand) :=
      Invocation.related_unary (UniformRules.performs sounds) (.refl target) (.inl trivial)
        (show SlotKind.index.shapes ⊆ _ by decide) operand
    have called : MakesOnly machine registry
        (fun calls => target = entry.target .index →
          MethodCall.AreFor registry kind left right third [none] calls)
        fun machine => Invocation.unary machine target operand := by
      refine Invocation.makesOnly_unary rfl fits (fun _ => .nil) operand
        fun method isMethod now isTarget => ?_
      exact .single (.index now isProduct isOperand forOperand (isTarget ▸ isMethod)) (by simp)
    refine called.bind keepsSound (fun result => .quiet (fun _ => rfl) (keepsTypes result) rfl)
      (fun _ areFor => areFor) fun calls later areFor (isNil : [] = later) => ?_
    rwa [← isNil, List.append_nil]
  cases operand with
  | int number => exact .pure number .nil
  | _ =>
      refine asks _ fun result => ?_
      cases result.integer? with
      | some number => exact .pure number
      | none => exact .failFor _ result

/-- A repetition asks its count for an index. -/
theorem makesOnly_repeatSequence (sounds : (UniformRules.keepsSound Host).RelatesAll machine machine)
    {registry : Registry} (wellFormed : registry.WellFormed) (isProduct : kind = .multiply)
    {target : SlotTarget} (fits : target.Fits .sqRepeat) (sequence : Value) {count : Value}
    (isOperand : count ∈ [left, right]) {entry : SlotEntry}
    (forCount : registry.HasEntry count.typeId entry) :
    MakesOnly machine registry (MethodCall.AreFor registry kind left right third [none]) fun machine =>
      repeatSequence machine target sequence count := by
  show MakesOnly machine registry
    (MethodCall.AreFor registry kind left right third ([] ++ ([none] ++ []))) fun machine => repeatSequence machine target sequence count
  have soundSlot : (hasSlot count .index : Action (World Host) Bool).KeepsSound :=
    ((KeepsSound.entryOf count.typeId).bind fun _ => .pure _).bind fun _ => .pure _
  have soundIndex : (UniformRules.keepsSound Host).judgement.Relates .now
      (Protocol.index machine count) (Protocol.index machine count) :=
    Protocol.related_index (UniformRules.performs sounds) count
  refine MakesOnly.bind_areFor (.quiet (fun _ => rfl) (.hasSlot count .index) .nil) soundSlot
    fun hasIndex => ?_
  cases hasIndex with
  | false => exact .quiet (fun _ => rfl) (.failFor _ count) .nil
  | true =>
      refine (makesOnly_index sounds wellFormed isProduct isOperand forCount).bind_areFor soundIndex
        fun size => ?_
      exact .quiet (fun other => Invocation.size_eq rfl fits other machine sequence size)
        (Invocation.keepsTypes_size rfl fits machine sequence size) .nil

theorem makesOnly_unsupported {registry : Registry} {allows : List (MethodCall Host) → Prop}
    (operation : String) (operands : List Value) (isAllowed : allows []) :
    MakesOnly machine registry allows fun _ => unsupported operation operands :=
  .quiet (fun _ => rfl) ((KeepsTypes.current_bind fun _ => .pure _).bind fun _ => .fail _) isAllowed

/-- After the plan no special method is called but for the index of a count. -/
theorem makesOnly_fallback (sounds : (UniformRules.keepsSound Host).RelatesAll machine machine)
    (prepares : Prepares forged kind left right third world start leftEntry rightEntry plan) :
    MakesOnly machine world.registry
      (MethodCall.AreFor world.registry kind left right third [none])
      fun machine => fallback machine kind left right leftEntry rightEntry := by
  have wellFormed := prepares.alike.coherent.wellFormed
  obtain ⟨_, _, leftIsEntry⟩ := prepares.forLeft
  obtain ⟨_, _, rightIsEntry⟩ := prepares.forRight
  by_cases isSum : kind = .add
  · subst isSum
    simp only [fallback, SlotKind.sequenceFallback?]
    split
    · exact makesOnly_unsupported _ _ .nil
    · exact makesOnly_concat prepares .nil
  by_cases isProduct : kind = .multiply
  · simp only [fallback, isProduct, SlotKind.sequenceFallback?]
    split
    · exact isProduct ▸ makesOnly_repeatSequence sounds wellFormed rfl (leftIsEntry.fits .sqRepeat) left
        (by simp) prepares.forRight
    · split
      · exact isProduct ▸ makesOnly_repeatSequence sounds wellFormed rfl (rightIsEntry.fits .sqRepeat)
          right (by simp) prepares.forLeft
      · exact makesOnly_unsupported _ _ .nil
  · have noSequence : kind.sequenceFallback? = none := by
      cases kind <;> first | rfl | contradiction
    simp only [fallback, noSequence]
    exact makesOnly_unsupported _ _ .nil

end Plan

/-! ### Calls of an operator -/

/-- An operator makes some calls in order and asks the machine for nothing else. When these calls keep
the types, they are made for the operands, and no two of them are for one side. -/
structure CallsMethods (machine : Perform Host) (registry : Registry) (kind : SlotKind)
    (left right third : Value) (dispatch : Perform Host → Action (World Host) Value)
    (world : World Host) (calls : List (MethodCall Host)) : Prop where
  makes : Makes machine dispatch world calls
  onlyCalls : ∀ other : Perform Host,
    (∀ call ∈ calls, call.run other call.start = call.run machine call.start) →
      dispatch other world = dispatch machine world
  isFor : (∀ call ∈ calls, call.KeepsTypes machine) →
    ∀ call ∈ calls, call.IsFor registry kind left right third
  oncePerSide : (∀ call ∈ calls, call.KeepsTypes machine) → (calls.map MethodCall.side?).Nodup

section Dispatch

variable {machine : Perform Host} {kind : SlotKind} {left right third : Value}
  {world start : World Host}

theorem CallsMethods.of_quiet {registry : Registry}
    {dispatch : Perform Host → Action (World Host) Value} (makes : Makes machine dispatch world []) :
    CallsMethods machine registry kind left right third dispatch world [] :=
  ⟨makes, fun _ => makes.outcome_eq, by simp, by simp⟩

/-- An operator first reads the entries of its operands. -/
theorem CallsMethods.read (alike : World.Alike forged 0 world start) (id : TypeId)
    {second : Perform Host → SlotEntry → Action (World Host) Value}
    (later : ∀ entry next, world.registry.HasEntry id entry → World.Alike forged 0 world next →
      ∃ calls, CallsMethods machine world.registry kind left right third
        (fun machine => second machine entry) next calls) :
    ∃ calls, CallsMethods machine world.registry kind left right third
      (fun machine => entryOf id >>= second machine) start calls := by
  have isQuiet : Makes machine (fun _ => entryOf id) start [] := .quiet (fun _ => rfl) (.entryOf id)
  rcases entryOf_cases alike id with ⟨_, isOutcome⟩ | ⟨entry, next, isOutcome, hasEntry, nextAlike⟩
  · exact ⟨[], .of_quiet (.stopped isQuiet (by simp [isOutcome]))⟩
  · obtain ⟨calls, callsMethods⟩ := later entry next hasEntry nextAlike
    have makes := Makes.continued isQuiet isOutcome callsMethods.makes
    exact ⟨calls, makes, fun _ => makes.outcome_eq, callsMethods.isFor, callsMethods.oncePerSide⟩

variable (sounds : (UniformRules.keepsSound Host).RelatesAll machine machine) (sound : world.Sound)

include sounds sound

/-- A plan over current entries makes its calls, and then the operator goes on. Only the index of a count
has no side, and it is asked for behind the plan. -/
theorem callsMethods_plan (isBinary : kind.isBinary = true) {leftEntry rightEntry : SlotEntry}
    {plan : Plan}
    (prepares : Prepares forged kind left right third world start leftEntry rightEntry plan)
    {continuation : Perform Host → Action (World Host) Value}
    (goesOn : MakesOnly machine world.registry
      (MethodCall.AreFor world.registry kind left right third [none]) continuation) :
    ∃ calls, CallsMethods machine world.registry kind left right third
      (fun machine => do
        match ← runPlan machine left right third plan with
        | some result => return result
        | none => continuation machine) start calls := by
  have makes : MakesOnly machine world.registry
      (MethodCall.AreFor world.registry kind left right third
        (plan.sides (isShared kind third leftEntry rightEntry) ++ [none]))
      (fun machine => do
        match ← runPlan machine left right third plan with
        | some result => return result
        | none => continuation machine) := by
    refine (makesOnly_runPlan prepares isBinary sounds plan (List.Subset.refl plan)).bind_areFor
      (UniformRules.runPlan sounds _ _ _ _) fun result? => ?_
    cases result? with
    | some result => exact .pure result .nil
    | none => exact goesOn
  obtain ⟨calls, isMade, areFor⟩ := makes start
    (sound.refreshed prepares.alike.refreshes prepares.alike.configuration.symm)
  have areFor := areFor (.of_definitions prepares.alike.refreshes.definitions)
  refine ⟨calls, isMade, fun _ => isMade.outcome_eq, fun keeps => (areFor keeps).isFor, fun keeps => ?_⟩
  have nodup := prepares.nodup_sides.append (List.nodup_singleton none)
    (List.disjoint_singleton.2 (Plan.none_notMem_sides _ plan))
  exact nodup.sublist (areFor keeps).inOrder

theorem callsMethods_ternary (alike : World.Alike forged 0 world world)
    (isTernary : kind.isTernary = true) (left right third : Value) :
    ∃ calls, CallsMethods machine world.registry kind left right third
      (fun machine => ternary machine kind left right third) world calls := by
  have isBinary : kind.isBinary = true := by simp [SlotKind.isBinary, isTernary]
  simp only [ternary, isTernary, Bool.not_true, Bool.false_eq_true, if_false]
  refine CallsMethods.read alike left.typeId fun leftEntry afterLeft forLeft alikeLeft => ?_
  refine CallsMethods.read alikeLeft right.typeId fun rightEntry afterRight forRight alikeRight => ?_
  cases isNone : third.isNone with
  | true =>
      have prepares : Prepares forged kind left right third world afterRight leftEntry rightEntry
          (Plan.ternary kind leftEntry rightEntry none) :=
        prepares_ternary alikeRight forLeft forRight isNone.symm (by simp)
      exact callsMethods_plan sounds sound isBinary prepares (makesOnly_unsupported _ _ .nil)
  | false =>
      simp only [Bool.false_eq_true, if_false, map_eq_pure_bind, bind_assoc]
      refine CallsMethods.read alikeRight third.typeId
        fun thirdSlots afterThird forThird alikeThird => ?_
      have prepares : Prepares forged kind left right third world afterThird leftEntry rightEntry
          (Plan.ternary kind leftEntry rightEntry (some thirdSlots)) :=
        prepares_ternary alikeThird forLeft forRight isNone.symm (by simpa using forThird)
      exact callsMethods_plan sounds sound isBinary prepares (makesOnly_unsupported _ _ .nil)

theorem callsMethods_binary (alike : World.Alike forged 0 world world) (isBinary : kind.isBinary = true)
    (left right : Value) :
    ∃ calls, CallsMethods machine world.registry kind left right .none
      (fun machine => binary machine kind left right) world calls := by
  simp only [binary]
  by_cases isTernary : kind.isTernary = true
  · simp only [if_pos isTernary]
    exact callsMethods_ternary sounds sound alike isTernary left right .none
  have isNumber : kind.isBinaryNumber = true := by
    rw [SlotKind.isBinary, Bool.or_eq_true] at isBinary
    exact isBinary.resolve_right isTernary
  simp only [if_neg isTernary, isNumber, Bool.not_true, Bool.false_eq_true, if_false]
  cases integerResult? kind left right with
  | some result => exact ⟨[], .of_quiet (.quiet (fun _ => rfl) (.pure result))⟩
  | none =>
      refine CallsMethods.read alike left.typeId fun leftEntry afterLeft forLeft alikeLeft => ?_
      refine CallsMethods.read alikeLeft right.typeId fun rightEntry afterRight forRight alikeRight => ?_
      have prepares : Prepares forged kind left right .none world afterRight leftEntry rightEntry
          (Plan.ternary kind leftEntry rightEntry none) :=
        prepares_ternary alikeRight forLeft forRight rfl (by simp)
      exact callsMethods_plan sounds sound isBinary prepares (makesOnly_fallback sounds prepares)

end Dispatch

end Operator

/-- In a reachable world, an operator on two operands and a power of three operands call the special
methods of their operands, for any program and any depth. When these calls keep the types, at most one
is made for each side. -/
theorem World.perform_calls {world : World Host} (reachable : World.Reachable forged world)
    (program : Program Host) (depth : Nat) (left right : Value) :
    (∀ kind : SlotKind, kind.isBinary = true → ∃ calls,
      Operator.CallsMethods (perform program depth) world.registry kind left right .none
        (fun machine => answer program machine (.binary kind left right)) world calls) ∧
    ∀ third, ∃ calls,
      Operator.CallsMethods (perform program depth) world.registry .power left right third
        (fun machine => answer program machine (.ternary .power left right third)) world calls :=
  have sounds := keepsSound_perform program depth
  ⟨fun _ isBinary => Operator.callsMethods_binary sounds reachable.sound reachable.alike isBinary left
      right,
    fun third => Operator.callsMethods_ternary sounds reachable.sound reachable.alike rfl left right
      third⟩

/-- Two classes have power methods that decline. A power of three operands calls the forward methods of
the first and of the third operand, and no reflected method. -/
theorem World.perform_calls_power :
    ∃ (program : Program Unit) (world : World Unit), World.Reachable (fun _ => True) world ∧
      ∃ left right third : Value, left.typeId = 13 ∧ right.typeId = 13 ∧ third.typeId = 14 ∧
        (∃ outcome next, perform program 4 (.ternary .power left right third) world =
            some (outcome, next) ∧ next.journal.length = 2 ∧
          next.journal.notes (.function "base" 1) = true ∧
          next.journal.notes (.function "other" 2) = true) ∧
        ∃ calls, Operator.CallsMethods (perform program 3) world.registry .power left right third
          (fun machine => answer program machine (.ternary .power left right third)) world calls := by
  let program : Program Unit := fun code _ =>
    match code with
    | 0 => do
        let base ← Body.request (.allocate .function (.function "base" 1) false)
        let other ← Body.request (.allocate .function (.function "other" 2) false)
        let reflected ← Body.request (.allocate .function (.function "reflected" 3) false)
        let _ ← Body.request (.createType "Base" [] ⟨[("__pow__", base), ("__rpow__", reflected)]⟩)
        let _ ← Body.request (.createType "Other" [] ⟨[("__pow__", other)]⟩)
        return .none
    | _ => return .notImplemented
  let left : Value := .object ⟨.allocated 3, 13⟩ .plain
  let right : Value := .object ⟨.allocated 4, 13⟩ .plain
  let third : Value := .object ⟨.allocated 5, 14⟩ .plain
  have isMade :
      ((perform program 2 (.apply "make" 0 []) (.initial .default ())).any fun made =>
        let world : World Unit := { made.2 with journal := [], host := () }
        (perform program 4 (.ternary .power left right third) world).any fun answer =>
          answer.2.journal.length = 2 && (answer.2.journal.notes (.function "base" 1) &&
            answer.2.journal.notes (.function "other" 2))) = true := by
    decide +kernel
  obtain ⟨⟨made, world⟩, isOutcome, isTrue⟩ := (Option.any_eq_true _ _).1 isMade
  have reachable := (World.Reachable.of_outcome isOutcome).resumed [] ()
  obtain ⟨⟨outcome, next⟩, isAnswer, isTrue⟩ := (Option.any_eq_true _ _).1 isTrue
  obtain ⟨areTwo, notes⟩ := Bool.and_eq_true_iff.1 isTrue
  obtain ⟨isBase, isOther⟩ := Bool.and_eq_true_iff.1 notes
  exact ⟨program, _, reachable, left, right, third, rfl, rfl, rfl,
    ⟨outcome, next, isAnswer, of_decide_eq_true areTwo, isBase, isOther⟩,
    (World.perform_calls reachable program 3 left right).2 third⟩

end SlotDispatch
