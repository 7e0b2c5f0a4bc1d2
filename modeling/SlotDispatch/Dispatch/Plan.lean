import SlotDispatch.Slot.Target
/-!
Plans of dispatch. A plan lists the slots that an operator tries, and it depends only on the slot
entries of the operand types.
-/

namespace SlotDispatch

/-- The side of a step decides which operand receives the call: the left operand with its forward
method, the right operand with its reflected method, or the left operand again with the forward
method of the third operand. -/
inductive Side where
  | left | right | third
deriving DecidableEq, Repr

/-- A step tries one slot for one side. -/
structure PlanStep where
  side : Side
  target : SlotTarget

/-- A plan is tried from its first step to its last. -/
abbrev Plan := List PlanStep

namespace Plan

/-- The slot of a proper subtype goes first, unless both slots are overrides and the subtype kept
the reflected implementation. -/
def reflectedFirst (left right : SlotTarget) : Bool :=
  if left.isOverride && right.isOverride then right.overloadsReflected left else true

/-- An empty slot makes no step. -/
def stepOf (side : Side) (target : SlotTarget) : Plan :=
  if target.isAbsent then [] else [⟨side, target⟩]

/-- Two operands of one type try one slot. Operands of two types try both slots, unless the slots
are the same. -/
def binary (kind : SlotKind) (left right : SlotEntry) : Plan :=
  let leftTarget := left.target kind
  let rightTarget := right.target kind
  if left.typeId = right.typeId then stepOf .left leftTarget
  else if rightTarget.isSame leftTarget then stepOf .left leftTarget
  else if right.isSubtypeOf left.typeId && reflectedFirst leftTarget rightTarget then
    stepOf .right rightTarget ++ stepOf .left leftTarget
  else stepOf .left leftTarget ++ stepOf .right rightTarget

/-- A third operand adds its slot at the end, unless the slot is one of the first two. -/
def ternary (kind : SlotKind) (left right : SlotEntry) (third? : Option SlotEntry) : Plan :=
  let first := binary kind left right
  match third? with
  | none => first
  | some third =>
      let target := third.target kind
      if target.isSame (left.target kind) || target.isSame (right.target kind) then first
      else first ++ stepOf .third target

end Plan

end SlotDispatch
