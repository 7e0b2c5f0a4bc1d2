import SlotDispatch.Machine.World
import SlotDispatch.Slot.Comparison
/-!
The operations of `int` and of `bool`. An operation with two operands declines unless both operands
are integers, and it fails when its result does not fit a word.
-/

namespace SlotDispatch.Builtin.Integer

variable {Host : Type}

/-- This is the integer of the receiver of a special method. -/
def receiver (dunder : String) (value : Value) : Action (World Host) Int64 :=
  match value.integer? with
  | some number => return number
  | none => Action.failFor (Error.wrongReceiver dunder "int") value

/-- A result that does not fit is an overflow of the operation. -/
def checked (operation : String) : Option Int64 → Except Error Value
  | some number => .ok (.int number)
  | none => .error (.integerOverflow operation)

/-- An operation on two integers declines all other operands. -/
def withIntegers (left right : Value) (operation : Int64 → Int64 → Except Error Value) :
    Except Error Value :=
  match left.integer?, right.integer? with
  | some leftNumber, some rightNumber => operation leftNumber rightNumber
  | _, _ => .ok .notImplemented

/-! ### One operand -/

def negative (value : Value) : Action (World Host) Value := do
  let number ← receiver "__neg__" value
  Action.ofExcept (checked "-" (Word.ofInt? (-number.toInt)))

def positive (value : Value) : Action (World Host) Value := do
  return .int (← receiver "__pos__" value)

def absolute (value : Value) : Action (World Host) Value := do
  let number ← receiver "__abs__" value
  Action.ofExcept (checked "abs()" (Word.ofInt? number.toInt.natAbs))

def invert (value : Value) : Action (World Host) Value := do
  return .int (~~~(← receiver "__invert__" value))

/-- The index of an integer is always exactly an integer. -/
def index (value : Value) : Action (World Host) Value := do
  return .int (← receiver "__index__" value)

def float (value : Value) : Action (World Host) Value := do
  return .float (Binary64.ofInt (← receiver "__float__" value).toInt)

def truth (value : Value) : Bool :=
  value.integer?.any fun number => number ≠ 0

def hash (value : Value) : Action (World Host) Value := do
  return .int (← receiver "__hash__" value)

def repr (value : Value) : Action (World Host) Value := do
  let number ← receiver "__repr__" value
  Action.text (toString number.toInt)

/-! ### Two operands -/

def add (left right : Int64) : Except Error Value :=
  checked "+" (Word.ofInt? (left.toInt + right.toInt))

def subtract (left right : Int64) : Except Error Value :=
  checked "-" (Word.ofInt? (left.toInt - right.toInt))

def multiply (left right : Int64) : Except Error Value :=
  checked "*" (Word.ofInt? (left.toInt * right.toInt))

def remainder (left right : Int64) : Except Error Value :=
  if right = 0 then .error .moduloByZero
  else .ok (.int (Word.floorRemainder left right))

def floorDivide (left right : Int64) : Except Error Value :=
  if right = 0 then .error .divisionOrModuloByZero
  else checked "//" (Word.floorDivide? left right)

/-- These are the quotient and the remainder of a division. -/
def quotientAndRemainder (left right : Int64) : Except Error (Int64 × Int64) :=
  if right = 0 then .error .divisionOrModuloByZero
  else
    match Word.floorDivide? left right with
    | none => .error (.integerOverflow "divmod()")
    | some quotient => .ok (quotient, Word.floorRemainder left right)

def divmod (left right : Value) : Action (World Host) Value :=
  match left.integer?, right.integer? with
  | some leftNumber, some rightNumber => do
      let (quotient, rest) ← Action.ofExcept (quotientAndRemainder leftNumber rightNumber)
      Action.tuple [.int quotient, .int rest]
  | _, _ => return .notImplemented

def trueDivide (left right : Int64) : Except Error Value :=
  if right = 0 then .error .divisionByZero
  else .ok (.float ((Binary64.ofInt left.toInt).divide (Binary64.ofInt right.toInt)))

def shiftLeft (left right : Int64) : Except Error Value :=
  if right.toInt < 0 then .error .negativeShift
  else checked "<<" (Word.shiftLeft? left right)

def shiftRight (left right : Int64) : Except Error Value :=
  if right.toInt < 0 then .error .negativeShift
  else .ok (.int (Word.shiftRight left right))

def bitAnd (left right : Int64) : Except Error Value :=
  .ok (.int (left &&& right))

def bitXor (left right : Int64) : Except Error Value :=
  .ok (.int (left ^^^ right))

def bitOr (left right : Int64) : Except Error Value :=
  .ok (.int (left ||| right))

def compare (operator : Comparison) (left right : Int64) : Except Error Value :=
  .ok (.bool (operator.holds (Ord.compare left.toInt right.toInt)))

/-! ### Power -/

/-- A negative exponent makes a number with places after the point. -/
def plainPower (base exponent : Int64) : Except Error Value :=
  if exponent.toInt < 0 then
    if base = 0 then .error .zeroToNegativePower
    else .ok (.float ((Binary64.ofInt base.toInt).power (Binary64.ofInt exponent.toInt)))
  else checked "**" (Word.power? base exponent)

def modularPower (base exponent modulus : Int64) : Except Error Value :=
  if modulus = 0 then .error .zeroModulus
  else if exponent.toInt < 0 then .error .negativeModularExponent
  else .ok (.int (Word.powerModulo base exponent modulus))

/-- A third operand other than `None` is the modulus of the power. -/
def power (base exponent modulus : Value) : Except Error Value :=
  withIntegers base exponent fun baseNumber exponentNumber =>
    if modulus.isNone then plainPower baseNumber exponentNumber
    else
      match modulus.integer? with
      | none => .ok .notImplemented
      | some modulusNumber => modularPower baseNumber exponentNumber modulusNumber

/-! ### Truth values -/

/-- Two truth values have a truth value as their result, and all other operands compute as
integers. -/
def withTruths (left right : Value) (onTruths : Bool → Bool → Bool)
    (onIntegers : Int64 → Int64 → Except Error Value) : Except Error Value :=
  match left, right with
  | .bool leftFlag, .bool rightFlag => .ok (.bool (onTruths leftFlag rightFlag))
  | _, _ => withIntegers left right onIntegers

def truthAnd (left right : Value) : Except Error Value :=
  withTruths left right and bitAnd

def truthXor (left right : Value) : Except Error Value :=
  withTruths left right xor bitXor

def truthOr (left right : Value) : Except Error Value :=
  withTruths left right or bitOr

def truthRepr (value : Value) : Action (World Host) Value :=
  match value with
  | .bool true => Action.text "True"
  | .bool false => Action.text "False"
  | _ => repr value

end SlotDispatch.Builtin.Integer
