import SlotDispatch.Machine.World
import SlotDispatch.Number.ShortestDecimal
import SlotDispatch.Slot.Comparison
/-!
The operations of `float`. An operation with two operands declines unless both operands are numbers,
and integers among them are converted.
-/

namespace SlotDispatch.Builtin.Floating

variable {Host : Type}

/-- This is the number of the receiver of a special method. -/
def receiver (dunder : String) (value : Value) : Action (World Host) Binary64 :=
  match value.ownNumber? with
  | some number => return number
  | none => Action.failFor (Error.wrongReceiver dunder "float") value

/-- An operation on two numbers declines all other operands. -/
def withNumbers (left right : Value) (operation : Binary64 → Binary64 → Except Error Value) :
    Except Error Value :=
  match left.number?, right.number? with
  | some leftNumber, some rightNumber => operation leftNumber rightNumber
  | _, _ => .ok .notImplemented

/-! ### One operand -/

def negative (value : Value) : Action (World Host) Value := do
  return .float (← receiver "__neg__" value).negate

def positive (value : Value) : Action (World Host) Value := do
  return .float (← receiver "__pos__" value)

def absolute (value : Value) : Action (World Host) Value := do
  return .float (← receiver "__abs__" value).absolute

/-- A finite number is converted to an integer by dropping its places after the point. -/
def toInteger (number : Binary64) : Except Error Value :=
  if number.isNaN then .error .floatNaNToInteger
  else if number.isInfinite then .error .floatInfinityToInteger
  else
    match Word.ofInt? number.truncate with
    | some whole => .ok (.int whole)
    | none => .error .floatTooLarge

def int (value : Value) : Action (World Host) Value := do
  Action.ofExcept (toInteger (← receiver "__int__" value))

def float (value : Value) : Action (World Host) Value := do
  return .float (← receiver "__float__" value)

def truth (value : Value) : Bool :=
  value.ownNumber?.any fun number => !number.isZero

/-- A number that equals an integer of 64 bits has the hash of that integer, and every other number
has its bits as hash. -/
def hashOf (number : Binary64) : Int64 :=
  if number.isIntegral then
    (Word.ofInt? number.truncate).getD number.bits.toInt64
  else number.bits.toInt64

def hash (value : Value) : Action (World Host) Value := do
  return .int (hashOf (← receiver "__hash__" value))

def repr (value : Value) : Action (World Host) Value := do
  let number ← receiver "__repr__" value
  Action.text number.text

/-! ### Two operands -/

def add (left right : Binary64) : Except Error Value :=
  .ok (.float (left.add right))

def subtract (left right : Binary64) : Except Error Value :=
  .ok (.float (left.subtract right))

def multiply (left right : Binary64) : Except Error Value :=
  .ok (.float (left.multiply right))

def trueDivide (left right : Binary64) : Except Error Value :=
  if right.isZero then .error .floatDivisionByZero else .ok (.float (left.divide right))

def floorDivide (left right : Binary64) : Except Error Value :=
  if right.isZero then .error .floatFloorDivisionByZero
  else .ok (.float (left.floorDivide right))

def remainder (left right : Binary64) : Except Error Value :=
  if right.isZero then .error .floatModulo else .ok (.float (left.remainder right))

def divmod (left right : Value) : Action (World Host) Value :=
  match left.number?, right.number? with
  | some leftNumber, some rightNumber =>
      if rightNumber.isZero then Action.fail .floatDivmod
      else Action.tuple
        [.float (leftNumber.floorDivide rightNumber), .float (leftNumber.remainder rightNumber)]
  | _, _ => return .notImplemented

/-- A modulus is an error before the operands are looked at. -/
def power (base exponent modulus : Value) : Except Error Value :=
  if !modulus.isNone then .error .floatModulus
  else
    withNumbers base exponent fun baseNumber exponentNumber =>
      if baseNumber.isZero && exponentNumber.compare? .zero = some .lt then
        .error .zeroToNegativePower
      else .ok (.float (baseNumber.power exponentNumber))

/-- Only inequality holds of numbers that are unordered. -/
def compare (operator : Comparison) (left right : Binary64) : Except Error Value :=
  match left.compare? right with
  | some ordering => .ok (.bool (operator.holds ordering))
  | none => .ok (.bool (operator = .ne))

end SlotDispatch.Builtin.Floating
