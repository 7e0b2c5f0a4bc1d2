import SlotDispatch.Slot.Target
/-!
Targets that differ in generations only, and targets that hold operations of one kind only. The main
statements say that the former reach the same implementations, and that the latter reach operations
of their kind.
-/

namespace SlotDispatch

/-! ### Targets that resemble each other -/

/-- The override is some generations ahead. -/
def Override.advance (ahead : TypeId → Nat) (definition : Override) : Override :=
  { definition with generation := definition.generation + ahead definition.owner }

/-- All overrides of the target are some generations ahead. -/
def SlotTarget.advance (ahead : TypeId → Nat) : SlotTarget → SlotTarget
  | .absent => .absent
  | .builtin operation => .builtin operation
  | .override definition inherited => .override (definition.advance ahead) (inherited.advance ahead)

/-- Two overrides are the same in two worlds exactly when they are the same some generations ahead. -/
theorem Override.isSame_advance (ahead : TypeId → Nat) (left right : Override) :
    (left.advance ahead).isSame (right.advance ahead) = left.isSame right := by
  by_cases sameOwner : left.owner = right.owner
  · simp [isSame, advance, sameOwner]
  · simp [isSame, advance, sameOwner]

namespace SlotTarget

/-- Two targets resemble each other when they differ in the generations of their overrides only. -/
inductive Resembles : SlotTarget → SlotTarget → Prop
  | absent : Resembles .absent .absent
  | builtin (operation : Builtin) : Resembles (.builtin operation) (.builtin operation)
  | override {definition other : Override} {inherited otherInherited : SlotTarget}
      (sameOwner : other.owner = definition.owner) (sameKind : other.kind = definition.kind)
      (sameMethods : other.methods = definition.methods)
      (behind : Resembles inherited otherInherited) :
      Resembles (.override definition inherited) (.override other otherInherited)

theorem Resembles.refl (target : SlotTarget) : Resembles target target := by
  induction target with
  | absent => exact .absent
  | builtin operation => exact .builtin operation
  | override definition inherited inductionHypothesis =>
      exact .override rfl rfl rfl inductionHypothesis

@[simp] theorem isAbsent_advance (ahead : TypeId → Nat) (target : SlotTarget) :
    (target.advance ahead).isAbsent = target.isAbsent := by
  cases target <;> rfl

@[simp] theorem isOverride_advance (ahead : TypeId → Nat) (target : SlotTarget) :
    (target.advance ahead).isOverride = target.isOverride := by
  cases target <;> rfl

@[simp] theorem isSame_advance (ahead : TypeId → Nat) (left right : SlotTarget) :
    (left.advance ahead).isSame (right.advance ahead) = left.isSame right := by
  cases left <;> cases right <;> first | rfl | exact Override.isSame_advance ahead _ _

theorem resembles_advance (ahead : TypeId → Nat) (target : SlotTarget) :
    Resembles target (target.advance ahead) := by
  induction target with
  | absent => exact .absent
  | builtin operation => exact .builtin operation
  | override definition inherited inductionHypothesis =>
      exact .override rfl rfl rfl inductionHypothesis

namespace Resembles

variable {left right : SlotTarget} (resembles : Resembles left right)

include resembles

theorem reach (dunder : String) : right.reach dunder = left.reach dunder := by
  induction resembles with
  | absent => rfl
  | builtin => rfl
  | override _ _ sameMethods _ inductionHypothesis =>
      simp only [SlotTarget.reach, Override.binding, sameMethods, inductionHypothesis]

theorem reachBy (dunder? : SlotKind → Option String) :
    right.reachBy dunder? = left.reachBy dunder? := by
  have reaches := resembles.reach
  cases resembles with
  | absent => rfl
  | builtin => rfl
  | override _ sameKind _ _ => simp only [SlotTarget.reachBy, sameKind, reaches]

theorem forward : right.forward = left.forward :=
  resembles.reachBy SlotKind.forwardDunder?

theorem reflected : right.reflected = left.reflected :=
  resembles.reachBy SlotKind.reflectedDunder?

theorem isAbsent : right.isAbsent = left.isAbsent := by
  cases resembles <;> rfl

end Resembles

/-! ### Targets of one kind -/

/-- A target fits a kind when all its overrides are of the kind and its operation fills a slot of the
kind. -/
def Fits (kind : SlotKind) : SlotTarget → Prop
  | .absent => True
  | .builtin operation => operation.kind = kind
  | .override definition inherited => definition.kind = kind ∧ inherited.Fits kind

/-- This is the operation at the end of the delegation. -/
def operation? : SlotTarget → Option Builtin
  | .absent => none
  | .builtin operation => some operation
  | .override _ inherited => inherited.operation?

theorem Fits.kind_of_operation? {kind : SlotKind} {target : SlotTarget} (fits : target.Fits kind)
    {operation : Builtin} (isOperation : target.operation? = some operation) :
    operation.kind = kind := by
  induction target with
  | absent => cases isOperation
  | builtin other =>
      obtain rfl := Option.some.inj isOperation
      exact fits
  | override definition inherited inductionHypothesis =>
      exact inductionHypothesis fits.2 isOperation

theorem Fits.kind_of_reach {kind : SlotKind} {target : SlotTarget} (fits : target.Fits kind)
    {dunder : String} {operation : Builtin} (reaches : target.reach dunder = .builtin operation) :
    operation.kind = kind := by
  induction target with
  | absent => cases reaches
  | builtin other =>
      obtain rfl := Reached.builtin.inj reaches
      exact fits
  | override definition inherited inductionHypothesis =>
      rw [SlotTarget.reach] at reaches
      cases isBound : definition.binding dunder with
      | method value =>
          rw [isBound] at reaches
          cases reaches
      | blocked =>
          rw [isBound] at reaches
          cases reaches
      | inherited =>
          rw [isBound] at reaches
          exact inductionHypothesis fits.2 reaches

theorem Fits.kind_of_reachBy {kind : SlotKind} {target : SlotTarget} (fits : target.Fits kind)
    {dunder? : SlotKind → Option String} {operation : Builtin}
    (reaches : target.reachBy dunder? = .builtin operation) : operation.kind = kind := by
  cases target with
  | absent => cases reaches
  | builtin other =>
      obtain rfl := Reached.builtin.inj reaches
      exact fits
  | override definition inherited =>
      rw [SlotTarget.reachBy] at reaches
      cases isDunder : dunder? definition.kind with
      | none =>
          rw [isDunder] at reaches
          cases reaches
      | some dunder =>
          rw [isDunder] at reaches
          exact fits.kind_of_reach reaches

end SlotTarget

end SlotDispatch
