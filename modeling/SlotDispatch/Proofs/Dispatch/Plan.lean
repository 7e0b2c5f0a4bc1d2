import Mathlib.Data.List.Basic
import SlotDispatch.Dispatch.Plan
import SlotDispatch.Proofs.Slot.Target
/-!
The order of a plan. The main statement says which slots of the operand types a plan tries, which of
them comes first, and that it tries no slot twice.
-/

namespace SlotDispatch

/-! ### Identity of targets -/

namespace SlotTarget

theorem isSame_comm (left right : SlotTarget) : left.isSame right = right.isSame left := by
  cases left <;> cases right <;> simp [isSame, Override.isSame, eq_comm]

end SlotTarget

namespace Plan

variable {kind : SlotKind} {left right : SlotEntry} {third? : Option SlotEntry}

/-! ### The steps of a plan -/

/-- A plan tries the slots of its operands in order when it has one step for each operand whose slot is
present and not yet listed, the step for the right operand comes first only for a proper subtype with
a reflected implementation of its own or a builtin slot in play, the step for the third operand comes
last, and no two steps have the same slot. -/
structure InOrder (plan : Plan) (sameType isSubtype : Prop) (left right : SlotTarget)
    (third? : Option SlotTarget) : Prop where
  left_iff : ∀ target, ⟨.left, target⟩ ∈ plan ↔ target = left ∧ left.isAbsent = false
  right_iff : ∀ target, ⟨.right, target⟩ ∈ plan ↔
    target = right ∧ right.isAbsent = false ∧ ¬ sameType ∧ right.isSame left = false
  third_iff : ∀ target, ⟨.third, target⟩ ∈ plan ↔ third? = some target ∧
    target.isAbsent = false ∧ target.isSame left = false ∧ target.isSame right = false
  rightFirst_iff : ⟨.left, left⟩ ∈ plan → ⟨.right, right⟩ ∈ plan →
    ([⟨.right, right⟩, ⟨.left, left⟩].Sublist plan ↔ (isSubtype ∧ ¬ sameType) ∧
      (¬ (left.isOverride = true ∧ right.isOverride = true) ∨
        right.overloadsReflected left = true))
  third_last : ∀ target, ⟨.third, target⟩ ∈ plan → plan.getLast? = some ⟨.third, target⟩
  oneStepPerSide : (plan.map PlanStep.side).Nodup
  oneStepPerSlot : plan.Pairwise fun first second => first.target.isSame second.target = false

theorem stepOf_cases (side : Side) (target : SlotTarget) :
    (target.isAbsent = true ∧ stepOf side target = []) ∨
      (target.isAbsent = false ∧ stepOf side target = [⟨side, target⟩]) := by
  cases isAbsent : target.isAbsent with
  | true => exact .inl ⟨rfl, if_pos isAbsent⟩
  | false => exact .inr ⟨rfl, if_neg (Bool.eq_false_iff.1 isAbsent)⟩

/-- The slot of the right operand makes a step unless it is that of the left operand. -/
def rightStep (kind : SlotKind) (left right : SlotEntry) : Plan :=
  if left.typeId = right.typeId ∨ (right.target kind).isSame (left.target kind) = true then []
  else stepOf .right (right.target kind)

/-- The slot of the third operand makes a step unless it is that of another operand. -/
def thirdStep (kind : SlotKind) (left right : SlotEntry) (third? : Option SlotEntry) : Plan :=
  third?.elim [] fun third =>
    if (third.target kind).isSame (left.target kind) = true ∨
      (third.target kind).isSame (right.target kind) = true then []
    else stepOf .third (third.target kind)

/-- A plan has the step for the third operand behind those for the first two, whose order depends on
the subtype test and on the reflected implementations. -/
theorem ternary_eq (kind : SlotKind) (left right : SlotEntry) (third? : Option SlotEntry) :
    ternary kind left right third? =
      (if right.isSubtypeOf left.typeId = true ∧
          reflectedFirst (left.target kind) (right.target kind) = true then
        rightStep kind left right ++ stepOf .left (left.target kind)
      else stepOf .left (left.target kind) ++ rightStep kind left right) ++
        thirdStep kind left right third? := by
  have firstTwo : binary kind left right =
      if right.isSubtypeOf left.typeId = true ∧
          reflectedFirst (left.target kind) (right.target kind) = true then
        rightStep kind left right ++ stepOf .left (left.target kind)
      else stepOf .left (left.target kind) ++ rightStep kind left right := by
    by_cases sameType : left.typeId = right.typeId
    · simp [binary, rightStep, sameType]
    · by_cases same : (right.target kind).isSame (left.target kind) = true
      · simp [binary, rightStep, sameType, same]
      · simp [binary, rightStep, sameType, same]
  cases third? with
  | none => simp [ternary, thirdStep, firstTwo]
  | some third =>
      rw [← firstTwo]
      simp only [ternary, thirdStep, Option.elim_some, Bool.or_eq_true]
      split <;> simp

theorem rightStep_cases (kind : SlotKind) (left right : SlotEntry) :
    (rightStep kind left right = [] ∧ ¬ ((right.target kind).isAbsent = false ∧
        left.typeId ≠ right.typeId ∧ (right.target kind).isSame (left.target kind) = false)) ∨
      (rightStep kind left right = [⟨.right, right.target kind⟩] ∧
        (right.target kind).isAbsent = false ∧ left.typeId ≠ right.typeId ∧
        (right.target kind).isSame (left.target kind) = false) := by
  rw [rightStep]
  split
  · rename_i isListed
    refine .inl ⟨rfl, fun ⟨_, otherType, isOther⟩ => ?_⟩
    rcases isListed with sameType | same
    · exact otherType sameType
    · rw [same] at isOther
      cases isOther
  · rename_i isNew
    obtain ⟨otherType, isOther⟩ := not_or.1 isNew
    rcases stepOf_cases .right (right.target kind) with ⟨isAbsent, noStep⟩ | ⟨isThere, oneStep⟩
    · exact .inl ⟨noStep, fun ⟨isThere, _⟩ => by simp [isAbsent] at isThere⟩
    · exact .inr ⟨oneStep, isThere, otherType, Bool.eq_false_iff.2 isOther⟩

theorem thirdStep_cases (kind : SlotKind) (left right : SlotEntry) (third? : Option SlotEntry) :
    (thirdStep kind left right third? = [] ∧ ∀ third, third? = some third →
        ¬ ((third.target kind).isAbsent = false ∧
          (third.target kind).isSame (left.target kind) = false ∧
          (third.target kind).isSame (right.target kind) = false)) ∨
      ∃ third, third? = some third ∧
        thirdStep kind left right third? = [⟨.third, third.target kind⟩] ∧
        (third.target kind).isAbsent = false ∧
        (third.target kind).isSame (left.target kind) = false ∧
        (third.target kind).isSame (right.target kind) = false := by
  cases third? with
  | none => exact .inl ⟨rfl, by simp⟩
  | some third =>
      simp only [thirdStep, Option.elim_some, Option.some.injEq, forall_eq', exists_eq_left']
      split
      · rename_i isListed
        refine .inl ⟨rfl, fun ⟨_, notLeft, notRight⟩ => ?_⟩
        simp [notLeft, notRight] at isListed
      · rename_i isNew
        obtain ⟨notLeft, notRight⟩ := not_or.1 isNew
        rcases stepOf_cases .third (third.target kind) with ⟨isAbsent, noStep⟩ | ⟨isThere, oneStep⟩
        · exact .inl ⟨noStep, fun ⟨isThere, _⟩ => by simp [isAbsent] at isThere⟩
        · exact .inr ⟨oneStep, isThere, Bool.eq_false_iff.2 notLeft, Bool.eq_false_iff.2 notRight⟩

theorem reflectedFirst_iff (left right : SlotTarget) :
    reflectedFirst left right = true ↔ ¬ (left.isOverride = true ∧ right.isOverride = true) ∨
      right.overloadsReflected left = true := by
  rw [reflectedFirst]
  split
  · rename_i bothOverrides
    rw [Bool.and_eq_true] at bothOverrides
    simp [bothOverrides]
  · rename_i notBoth
    rw [Bool.and_eq_true] at notBoth
    simp [notBoth]

/-! ### The order of the steps -/

theorem mem_ternary_iff (step : PlanStep) :
    step ∈ ternary kind left right third? ↔ step ∈ stepOf .left (left.target kind) ∨
      step ∈ rightStep kind left right ∨ step ∈ thirdStep kind left right third? := by
  rw [ternary_eq]
  split <;> simp only [List.mem_append, or_assoc, or_left_comm]

theorem left_mem_ternary_iff (target : SlotTarget) :
    ⟨.left, target⟩ ∈ ternary kind left right third? ↔
      target = left.target kind ∧ (left.target kind).isAbsent = false := by
  rw [mem_ternary_iff]
  have notRight : ⟨.left, target⟩ ∉ rightStep kind left right := by
    rcases rightStep_cases kind left right with ⟨noStep, _⟩ | ⟨oneStep, _⟩
    · simp [noStep]
    · simp [oneStep]
  have notThird : ⟨.left, target⟩ ∉ thirdStep kind left right third? := by
    rcases thirdStep_cases kind left right third? with ⟨noStep, _⟩ | ⟨_, _, oneStep, _⟩
    · simp [noStep]
    · simp [oneStep]
  rcases stepOf_cases .left (left.target kind) with ⟨isAbsent, noStep⟩ | ⟨isThere, oneStep⟩
  · simp [notRight, notThird, noStep, isAbsent]
  · simp [notRight, notThird, oneStep, isThere]

theorem right_mem_ternary_iff (target : SlotTarget) :
    ⟨.right, target⟩ ∈ ternary kind left right third? ↔
      target = right.target kind ∧ (right.target kind).isAbsent = false ∧
        ¬ left.typeId = right.typeId ∧ (right.target kind).isSame (left.target kind) = false := by
  rw [mem_ternary_iff]
  have notLeft : ⟨.right, target⟩ ∉ stepOf .left (left.target kind) := by
    rcases stepOf_cases .left (left.target kind) with ⟨_, noStep⟩ | ⟨_, oneStep⟩
    · simp [noStep]
    · simp [oneStep]
  have notThird : ⟨.right, target⟩ ∉ thirdStep kind left right third? := by
    rcases thirdStep_cases kind left right third? with ⟨noStep, _⟩ | ⟨_, _, oneStep, _⟩
    · simp [noStep]
    · simp [oneStep]
  rcases rightStep_cases kind left right with ⟨noStep, isListed⟩ | ⟨oneStep, isNew⟩
  · simp only [notLeft, notThird, noStep, List.not_mem_nil, or_false, false_iff]
    exact fun ⟨_, isNew⟩ => isListed isNew
  · simp [notLeft, notThird, oneStep, isNew]

theorem third_mem_ternary_iff (target : SlotTarget) :
    ⟨.third, target⟩ ∈ ternary kind left right third? ↔
      third?.map (fun third => third.target kind) = some target ∧ target.isAbsent = false ∧
        target.isSame (left.target kind) = false ∧ target.isSame (right.target kind) = false := by
  rw [mem_ternary_iff]
  have notLeft : ⟨.third, target⟩ ∉ stepOf .left (left.target kind) := by
    rcases stepOf_cases .left (left.target kind) with ⟨_, noStep⟩ | ⟨_, oneStep⟩
    · simp [noStep]
    · simp [oneStep]
  have notRight : ⟨.third, target⟩ ∉ rightStep kind left right := by
    rcases rightStep_cases kind left right with ⟨noStep, _⟩ | ⟨oneStep, _⟩
    · simp [noStep]
    · simp [oneStep]
  rcases thirdStep_cases kind left right third? with
    ⟨noStep, isListed⟩ | ⟨third, rfl, oneStep, isNew⟩
  · simp only [notLeft, notRight, noStep, List.not_mem_nil, or_false, false_iff]
    rintro ⟨isThird, isNew⟩
    obtain ⟨third, isSome, rfl⟩ := Option.map_eq_some_iff.1 isThird
    exact isListed third isSome isNew
  · simp only [notLeft, notRight, oneStep, List.mem_singleton, false_or, Option.map_some,
      Option.some.injEq, PlanStep.mk.injEq, true_and]
    constructor
    · rintro rfl
      exact ⟨rfl, isNew⟩
    · rintro ⟨rfl, _⟩
      rfl

/-- A plan has at most one step for each side. -/
theorem nodup_sides (kind : SlotKind) (left right : SlotEntry) (third? : Option SlotEntry) :
    ((ternary kind left right third?).map PlanStep.side).Nodup := by
  rw [ternary_eq]
  rcases stepOf_cases .left (left.target kind) with ⟨_, leftSteps⟩ | ⟨_, leftSteps⟩ <;>
    rcases rightStep_cases kind left right with ⟨rightSteps, _⟩ | ⟨rightSteps, _⟩ <;>
    rcases thirdStep_cases kind left right third? with ⟨thirdSteps, _⟩ | ⟨_, _, thirdSteps, _⟩ <;>
    rw [leftSteps, rightSteps, thirdSteps] <;> split <;> simp

/-- A plan tries the slots of its operands in order. Two steps of a plan have different sides, and the
sides tell the slots. -/
theorem inOrder_ternary (kind : SlotKind) (left right : SlotEntry) (third? : Option SlotEntry) :
    (ternary kind left right third?).InOrder (left.typeId = right.typeId)
      (right.isSubtypeOf left.typeId = true) (left.target kind) (right.target kind)
      (third?.map fun third => third.target kind) where
  left_iff := left_mem_ternary_iff
  right_iff := right_mem_ternary_iff
  third_iff := third_mem_ternary_iff
  rightFirst_iff := by
    intro hasLeft hasRight
    obtain ⟨_, isThere⟩ := (left_mem_ternary_iff _).1 hasLeft
    obtain ⟨_, isNew⟩ := (right_mem_ternary_iff _).1 hasRight
    have leftSteps := ((stepOf_cases .left (left.target kind)).resolve_left (by simp [isThere])).2
    have rightSteps := ((rightStep_cases kind left right).resolve_left fun noStep => noStep.2 isNew).1
    have sides : (thirdStep kind left right third?).map PlanStep.side = [] ∨
        (thirdStep kind left right third?).map PlanStep.side = [.third] := by
      rcases thirdStep_cases kind left right third? with ⟨noStep, _⟩ | ⟨_, _, oneStep, _⟩
      · simp [noStep]
      · simp [oneStep]
    rw [ternary_eq, leftSteps, rightSteps, ← reflectedFirst_iff]
    split
    · rename_i rightFirst
      simp [rightFirst, isNew.2.1]
    · rename_i leftFirst
      simp only [isNew.2.1, not_false_eq_true, and_true, leftFirst, iff_false]
      intro isSublist
      have sideSublist := isSublist.map PlanStep.side
      rcases sides with noThird | oneThird
      · simp only [List.map_append, List.map_cons, List.map_nil, noThird] at sideSublist
        exact absurd sideSublist (by decide)
      · simp only [List.map_append, List.map_cons, List.map_nil, oneThird] at sideSublist
        exact absurd sideSublist (by decide)
  third_last := by
    intro target hasThird
    rcases thirdStep_cases kind left right third? with
      ⟨noStep, isListed⟩ | ⟨third, rfl, oneStep, _⟩
    · obtain ⟨isThird, isNew⟩ := (third_mem_ternary_iff _).1 hasThird
      obtain ⟨third, isSome, rfl⟩ := Option.map_eq_some_iff.1 isThird
      exact absurd isNew (isListed third isSome)
    · obtain ⟨isThird, _⟩ := (third_mem_ternary_iff _).1 hasThird
      obtain rfl := Option.some.inj isThird
      rw [ternary_eq, oneStep, List.getLast?_append, List.getLast?_singleton, Option.some_or]
  oneStepPerSide := nodup_sides kind left right third?
  oneStepPerSlot := by
    have otherSides := List.pairwise_map.1 (nodup_sides kind left right third?)
    refine otherSides.imp_of_mem ?_
    rintro ⟨firstSide, first⟩ ⟨secondSide, second⟩ isFirst isSecond otherSide
    cases firstSide with
    | left =>
        obtain ⟨rfl, _⟩ := (left_mem_ternary_iff _).1 isFirst
        cases secondSide with
        | left => exact absurd rfl otherSide
        | right =>
            obtain ⟨rfl, _, _, isNew⟩ := (right_mem_ternary_iff _).1 isSecond
            exact (SlotTarget.isSame_comm _ _).trans isNew
        | third =>
            obtain ⟨_, _, isNew, _⟩ := (third_mem_ternary_iff _).1 isSecond
            exact (SlotTarget.isSame_comm _ _).trans isNew
    | right =>
        obtain ⟨rfl, _, _, isNew⟩ := (right_mem_ternary_iff _).1 isFirst
        cases secondSide with
        | left =>
            obtain ⟨rfl, _⟩ := (left_mem_ternary_iff _).1 isSecond
            exact isNew
        | right => exact absurd rfl otherSide
        | third =>
            obtain ⟨_, _, _, isNew⟩ := (third_mem_ternary_iff _).1 isSecond
            exact (SlotTarget.isSame_comm _ _).trans isNew
    | third =>
        obtain ⟨_, _, notLeft, notRight⟩ := (third_mem_ternary_iff _).1 isFirst
        cases secondSide with
        | left =>
            obtain ⟨rfl, _⟩ := (left_mem_ternary_iff _).1 isSecond
            exact notLeft
        | right =>
            obtain ⟨rfl, _⟩ := (right_mem_ternary_iff _).1 isSecond
            exact notRight
        | third => exact absurd rfl otherSide

/-- A plan of two operands that share their slot has one step. -/
theorem InOrder.eq_left {plan : Plan} {sameType isSubtype : Prop} {leftTarget rightTarget : SlotTarget}
    (inOrder : plan.InOrder sameType isSubtype leftTarget rightTarget none)
    (isThere : leftTarget.isAbsent = false) (same : rightTarget.isSame leftTarget = true) :
    plan = [⟨.left, leftTarget⟩] := by
  have onlyLeft : ∀ step ∈ plan, step = ⟨.left, leftTarget⟩ := by
    rintro ⟨side, target⟩ isStep
    cases side with
    | left => rw [((inOrder.left_iff target).1 isStep).1]
    | right =>
        obtain ⟨_, _, _, isNew⟩ := (inOrder.right_iff target).1 isStep
        rw [same] at isNew
        cases isNew
    | third =>
        obtain ⟨isThird, _⟩ := (inOrder.third_iff target).1 isStep
        cases isThird
  have hasLeft := (inOrder.left_iff leftTarget).2 ⟨rfl, isThere⟩
  have oneStep := inOrder.oneStepPerSide
  match plan with
  | [] => cases hasLeft
  | [step] => rw [onlyLeft step (List.mem_singleton_self step)]
  | first :: second :: rest =>
      have firstIs := onlyLeft first (by simp)
      have secondIs := onlyLeft second (by simp)
      simp [firstIs, secondIs] at oneStep

/-! ### The targets of the steps -/

/-- Every step of a plan has the slot of one of the operands. -/
theorem target_of_mem_ternary {step : PlanStep} (isStep : step ∈ ternary kind left right third?) :
    ∃ entry ∈ left :: right :: third?.toList, step.target = entry.target kind := by
  obtain ⟨side, target⟩ := step
  cases side with
  | left => exact ⟨left, by simp, ((left_mem_ternary_iff target).1 isStep).1⟩
  | right => exact ⟨right, by simp, ((right_mem_ternary_iff target).1 isStep).1⟩
  | third =>
      obtain ⟨third, isThird, rfl⟩ :=
        Option.map_eq_some_iff.1 ((third_mem_ternary_iff target).1 isStep).1
      exact ⟨third, by simp [isThird], rfl⟩

end Plan

/-! ### Entries that are ahead -/

/-- The target of the step is some generations ahead. -/
def PlanStep.advance (ahead : TypeId → Nat) (step : PlanStep) : PlanStep :=
  ⟨step.side, step.target.advance ahead⟩

/-- Another entry is ahead of an entry of the same type when all its targets are. -/
structure SlotEntry.IsAhead (ahead : TypeId → Nat) (entry other : SlotEntry) : Prop where
  typeId : other.typeId = entry.typeId
  linearization : other.linearization = entry.linearization
  target : ∀ kind, other.target kind = (entry.target kind).advance ahead

theorem SlotEntry.IsAhead.isSubtypeOf {ahead : TypeId → Nat} {entry other : SlotEntry}
    (isAhead : entry.IsAhead ahead other) (id : TypeId) :
    other.isSubtypeOf id = entry.isSubtypeOf id := by
  rw [SlotEntry.isSubtypeOf, isAhead.linearization, SlotEntry.isSubtypeOf]

namespace Plan

variable {ahead : TypeId → Nat} {left right otherLeft otherRight : SlotEntry}
  {third? : Option SlotEntry}

theorem stepOf_advance (ahead : TypeId → Nat) (side : Side) (target : SlotTarget) :
    stepOf side (target.advance ahead) = (stepOf side target).map (PlanStep.advance ahead) := by
  rcases stepOf_cases side target with ⟨isAbsent, noStep⟩ | ⟨isThere, oneStep⟩
  · rw [noStep, stepOf, SlotTarget.isAbsent_advance, if_pos isAbsent]
    rfl
  · rw [oneStep, stepOf, SlotTarget.isAbsent_advance, if_neg (Bool.eq_false_iff.1 isThere)]
    rfl

theorem reflectedFirst_advance (ahead : TypeId → Nat) (left right : SlotTarget) :
    reflectedFirst (left.advance ahead) (right.advance ahead) = reflectedFirst left right := by
  simp only [reflectedFirst, SlotTarget.isOverride_advance, SlotTarget.overloadsReflected,
    (SlotTarget.resembles_advance ahead left).reflected,
    (SlotTarget.resembles_advance ahead right).reflected]

section Ahead

variable (leftAhead : left.IsAhead ahead otherLeft) (rightAhead : right.IsAhead ahead otherRight)

include leftAhead rightAhead

/-- The plan of entries that are equally far ahead has the same steps, as far ahead. -/
theorem binary_advance (kind : SlotKind) :
    binary kind otherLeft otherRight = (binary kind left right).map (PlanStep.advance ahead) := by
  simp only [binary, leftAhead.typeId, leftAhead.target, rightAhead.typeId, rightAhead.target,
    SlotTarget.isSame_advance, rightAhead.isSubtypeOf, reflectedFirst_advance,
    stepOf_advance]
  split_ifs
  · rfl
  · rfl
  · rw [List.map_append]
  · rw [List.map_append]

theorem ternary_advance (kind : SlotKind) {otherThird? : Option SlotEntry}
    (thirdAhead : Option.Rel (SlotEntry.IsAhead ahead) third? otherThird?) :
    ternary kind otherLeft otherRight otherThird? =
      (ternary kind left right third?).map (PlanStep.advance ahead) := by
  cases thirdAhead with
  | none => exact binary_advance leftAhead rightAhead kind
  | some thirdAhead =>
      simp only [ternary, binary_advance leftAhead rightAhead kind, leftAhead.target,
        rightAhead.target, thirdAhead.target, SlotTarget.isSame_advance, stepOf_advance]
      split_ifs
      · rfl
      · rw [List.map_append]

end Ahead

end Plan

end SlotDispatch
