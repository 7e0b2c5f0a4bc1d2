/-!
The six comparison operators, their special methods, and their meaning on an ordering.
-/

namespace SlotDispatch

/-- A comparison operator asks for an order or for equality. -/
inductive Comparison where
  | lt | le | eq | ne | gt | ge
deriving DecidableEq, Repr

namespace Comparison

/-- These are all operators in catalog order. -/
def all : List Comparison := [.lt, .le, .eq, .ne, .gt, .ge]

/-- This operator compares the exchanged operands. -/
def reflected : Comparison → Comparison
  | .lt => .gt
  | .le => .ge
  | .eq => .eq
  | .ne => .ne
  | .gt => .lt
  | .ge => .le

/-- This is the special method of the operator. -/
def dunder : Comparison → String
  | .lt => "__lt__"
  | .le => "__le__"
  | .eq => "__eq__"
  | .ne => "__ne__"
  | .gt => "__gt__"
  | .ge => "__ge__"

/-- This is the text of the operator. -/
def symbol : Comparison → String
  | .lt => "<"
  | .le => "<="
  | .eq => "=="
  | .ne => "!="
  | .gt => ">"
  | .ge => ">="

/-- An operator holds of two operands when their ordering matches it. -/
def holds : Comparison → Ordering → Bool
  | .lt, ordering => ordering.isLT
  | .le, ordering => ordering.isLE
  | .eq, ordering => ordering.isEq
  | .ne, ordering => ordering.isNe
  | .gt, ordering => ordering.isGT
  | .ge, ordering => ordering.isGE

theorem holds_reflected (operator : Comparison) (ordering : Ordering) :
    operator.reflected.holds ordering = operator.holds ordering.swap := by
  cases operator <;> cases ordering <;> rfl

end Comparison

end SlotDispatch
