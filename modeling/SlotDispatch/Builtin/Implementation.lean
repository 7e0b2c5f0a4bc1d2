import SlotDispatch.Builtin.Callable
import SlotDispatch.Builtin.Floating
import SlotDispatch.Builtin.Integer
import SlotDispatch.Builtin.Object
import SlotDispatch.Builtin.Text
import SlotDispatch.Builtin.Tuple
import SlotDispatch.Builtin.Type
/-!
The implementations of the builtin operations, each in its shape.
-/

namespace SlotDispatch

/-- An implementation is a function of one of the shapes. -/
inductive Implementation (Host : Type) where
  | inquiry (run : Value → Bool)
  | length (run : Value → Nat)
  | simpleDescrGet (run : Value → Option Value → Action (World Host) Value)
  | unary (run : Value → Action (World Host) Value)
  | binary (run : Value → Value → Action (World Host) Value)
  | ternary (run : Value → Value → Value → Action (World Host) Value)
  | size (run : Value → Int64 → Action (World Host) Value)
  | compare (run : Comparison → Value → Value → Action (World Host) Value)
  | getAttr (run : Value → String → Action (World Host) Value)
  | setAttr (run : Value → String → Option Value → Action (World Host) Unit)
  | descrGet (run : Value → Option Value → TypeId → Action (World Host) Value)
  | store (run : Value → Value → Option Value → Action (World Host) Unit)
  | call (run : Value → List Value → Action (World Host) Value)

namespace Implementation

variable {Host : Type}

/-- This is the shape of the implementation. -/
def shape : Implementation Host → Shape
  | .inquiry _ => .inquiry
  | .length _ => .length
  | .simpleDescrGet _ => .simpleDescrGet
  | .unary _ => .unary
  | .binary _ => .binary
  | .ternary _ => .ternary
  | .size _ => .size
  | .compare _ => .compare
  | .getAttr _ => .getAttr
  | .setAttr _ => .setAttr
  | .descrGet _ => .descrGet
  | .store _ => .store
  | .call _ => .call

/-- An operation on integers is a binary implementation. -/
def integers (operation : Int64 → Int64 → Except Error Value) : Implementation Host :=
  .binary fun left right =>
    Action.ofExcept (Builtin.Integer.withIntegers left right operation)

/-- An operation on numbers is a binary implementation. -/
def numbers (operation : Binary64 → Binary64 → Except Error Value) : Implementation Host :=
  .binary fun left right =>
    Action.ofExcept (Builtin.Floating.withNumbers left right operation)

/-- An operation on two values without a machine is a binary implementation. -/
def values (operation : Value → Value → Except Error Value) : Implementation Host :=
  .binary fun left right => Action.ofExcept (operation left right)

end Implementation

namespace Builtin

variable {Host : Type}

/-- This is the implementation of an operation. It makes its requests of the perform function. -/
def implementation (perform : Perform Host) : Builtin → Implementation Host
  | .objectGetAttr => .getAttr (Object.getAttribute perform)
  | .objectSetAttr => .setAttr (Object.setAttribute perform)
  | .objectHash => .unary Object.hash
  | .objectRichCompare => .compare (Object.compare perform)
  | .objectRepr => .unary Object.repr
  | .typeGetAttr => .getAttr (Type.getAttribute perform)
  | .typeSetAttr => .setAttr Type.setAttribute
  | .typeCall => .call (Type.call perform)
  | .typeRepr => .unary Type.repr
  | .noneBool => .inquiry Object.noneTruth
  | .noneRepr => .unary Object.noneRepr
  | .notImplementedRepr => .unary Object.notImplementedRepr
  | .intNegative => .unary Integer.negative
  | .intPositive => .unary Integer.positive
  | .intAbsolute => .unary Integer.absolute
  | .intInvert => .unary Integer.invert
  | .intIndex => .unary Integer.index
  | .intInt => .unary Integer.index
  | .intFloat => .unary Integer.float
  | .intBool => .inquiry Integer.truth
  | .intAdd => .integers Integer.add
  | .intSubtract => .integers Integer.subtract
  | .intMultiply => .integers Integer.multiply
  | .intRemainder => .integers Integer.remainder
  | .intDivmod => .binary Integer.divmod
  | .intLshift => .integers Integer.shiftLeft
  | .intRshift => .integers Integer.shiftRight
  | .intAnd => .integers Integer.bitAnd
  | .intXor => .integers Integer.bitXor
  | .intOr => .integers Integer.bitOr
  | .intFloorDivide => .integers Integer.floorDivide
  | .intTrueDivide => .integers Integer.trueDivide
  | .intPower => .ternary fun base exponent modulus =>
      Action.ofExcept (Integer.power base exponent modulus)
  | .intRichCompare => .compare fun operator left right =>
      Action.ofExcept (Integer.withIntegers left right (Integer.compare operator))
  | .intHash => .unary Integer.hash
  | .intRepr => .unary Integer.repr
  | .boolAnd => .values Integer.truthAnd
  | .boolXor => .values Integer.truthXor
  | .boolOr => .values Integer.truthOr
  | .boolRepr => .unary Integer.truthRepr
  | .floatNegative => .unary Floating.negative
  | .floatPositive => .unary Floating.positive
  | .floatAbsolute => .unary Floating.absolute
  | .floatInt => .unary Floating.int
  | .floatFloat => .unary Floating.float
  | .floatBool => .inquiry Floating.truth
  | .floatAdd => .numbers Floating.add
  | .floatSubtract => .numbers Floating.subtract
  | .floatMultiply => .numbers Floating.multiply
  | .floatRemainder => .numbers Floating.remainder
  | .floatDivmod => .binary Floating.divmod
  | .floatFloorDivide => .numbers Floating.floorDivide
  | .floatTrueDivide => .numbers Floating.trueDivide
  | .floatPower => .ternary fun base exponent modulus =>
      Action.ofExcept (Floating.power base exponent modulus)
  | .floatRichCompare => .compare fun operator left right =>
      Action.ofExcept (Floating.withNumbers left right (Floating.compare operator))
  | .floatHash => .unary Floating.hash
  | .floatRepr => .unary Floating.repr
  | .strConcat => .binary Text.concat
  | .strRepeat => .size Text.repetition
  | .strLen => .length Text.length
  | .strItem => .size Text.item
  | .strSubscript => .binary (Text.subscript perform)
  | .strRichCompare => .compare fun operator left right =>
      Action.ofExcept (Text.compare operator left right)
  | .strHash => .unary Text.hash
  | .strIter => .unary Text.iter
  | .strRepr => .unary Text.repr
  | .tupleConcat => .binary Tuple.concat
  | .tupleRepeat => .size Tuple.repetition
  | .tupleLen => .unary Tuple.length
  | .tupleItem => .size Tuple.item
  | .tupleRichCompare => .compare (Tuple.compare perform)
  | .tupleHash => .unary (Tuple.hash perform)
  | .tupleIter => .unary Tuple.iter
  | .tupleRepr => .unary (Tuple.repr perform)
  | .functionDescrGet => .simpleDescrGet bindFunction
  | .functionCall => .call (callFunction perform)
  | .functionRepr => .unary displayFunction
  | .methodCall => .call (callMethod perform)
  | .methodRepr => .unary (displayMethod perform)
  | .propertyDescrGet => .descrGet fun property instance? _ =>
      getProperty perform property instance?
  | .propertyDescrSet => .store (setProperty perform)
  | .iteratorIter => .unary pure
  | .iteratorNext => .unary stepIterator

/-- Every operation is implemented in the shape of the catalog. -/
theorem shape_implementation (perform : Perform Host) (operation : Builtin) :
    (operation.implementation perform).shape = operation.shape := by
  cases operation <;> rfl

end Builtin

end SlotDispatch
