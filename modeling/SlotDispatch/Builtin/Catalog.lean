import SlotDispatch.Slot.Kind
/-!
The catalog of builtin operations. Every operation of a builtin type has a name, the slot kind that
it fills, and the shape in which it is called.
-/

namespace SlotDispatch

/-- A shape is the form in which an operation takes its operands and gives its result. -/
inductive Shape where
  | inquiry | length | simpleDescrGet
  | unary | binary | ternary | size | compare | getAttr | setAttr | descrGet | store | call
deriving DecidableEq, Repr

namespace Shape

/-- This is the name of the shape in reports and error texts. -/
def name : Shape → String
  | .inquiry => "inquiry"
  | .length => "lenfunc"
  | .simpleDescrGet => "descrgetfunc(simple)"
  | .unary => "unaryfunc"
  | .binary => "binaryfunc"
  | .ternary => "ternaryfunc"
  | .size => "ssizeargfunc"
  | .compare => "richcmpfunc"
  | .getAttr => "getattrofunc"
  | .setAttr => "setattrofunc"
  | .descrGet => "descrgetfunc"
  | .store => "objobjargproc"
  | .call => "ternaryfunc(call)"

/-- Three shapes need no machine and cannot fail. -/
def convention : Shape → Convention
  | .inquiry | .length | .simpleDescrGet => .simple
  | _ => .full

/-- A shape fits a kind when it takes and gives what the slots of the kind take and give. -/
def takes : Shape → SlotKind → Bool
  | .inquiry, kind => kind = .bool
  | .length, kind => kind = .sqLength || kind = .mpLength
  | .simpleDescrGet, kind | .descrGet, kind => kind = .descrGet
  | .unary, kind =>
      (kind.isUnaryNumber && kind ≠ .bool) ||
        [.sqLength, .mpLength, .hash, .iter, .iterNext, .repr].contains kind
  | .binary, kind => kind.isBinaryNumber || kind = .sqConcat || kind = .mpSubscript
  | .ternary, kind => kind.isTernary
  | .size, kind => kind = .sqRepeat || kind = .sqItem
  | .compare, kind => kind = .richCompare
  | .getAttr, kind => kind = .getAttr
  | .setAttr, kind => kind = .setAttr
  | .store, kind => [.sqAssItem, .mpAssSubscript, .descrSet].contains kind
  | .call, kind => kind = .call

/-- A shape fits a kind that accepts its convention and takes its form. -/
def fits (shape : Shape) (kind : SlotKind) : Bool :=
  kind.supports shape.convention && shape.takes kind

end Shape

/-- A builtin operation belongs to a builtin type and fills one slot of it. -/
inductive Builtin where
  | objectGetAttr | objectSetAttr | objectHash | objectRichCompare | objectRepr
  | typeGetAttr | typeSetAttr | typeCall | typeRepr
  | noneBool | noneRepr
  | notImplementedRepr
  | intNegative | intPositive | intAbsolute | intInvert | intIndex | intInt | intFloat | intBool
  | intAdd | intSubtract | intMultiply | intRemainder | intDivmod | intLshift | intRshift
  | intAnd | intXor | intOr | intFloorDivide | intTrueDivide | intPower | intRichCompare
  | intHash | intRepr
  | boolAnd | boolXor | boolOr | boolRepr
  | floatNegative | floatPositive | floatAbsolute | floatInt | floatFloat | floatBool | floatAdd
  | floatSubtract | floatMultiply | floatRemainder | floatDivmod | floatFloorDivide
  | floatTrueDivide | floatPower | floatRichCompare | floatHash | floatRepr
  | strConcat | strRepeat | strLen | strItem | strSubscript | strRichCompare | strHash | strIter
  | strRepr
  | tupleConcat | tupleRepeat | tupleLen | tupleItem | tupleRichCompare | tupleHash | tupleIter
  | tupleRepr
  | functionDescrGet | functionCall | functionRepr
  | methodCall | methodRepr
  | propertyDescrGet | propertyDescrSet
  | iteratorIter | iteratorNext
deriving DecidableEq, Repr

namespace Builtin

/-- These are all operations in catalog order. -/
def all : List Builtin :=
  [.objectGetAttr, .objectSetAttr, .objectHash, .objectRichCompare, .objectRepr,
    .typeGetAttr, .typeSetAttr, .typeCall, .typeRepr,
    .noneBool, .noneRepr,
    .notImplementedRepr,
    .intNegative, .intPositive, .intAbsolute, .intInvert, .intIndex, .intInt, .intFloat, .intBool,
    .intAdd, .intSubtract, .intMultiply, .intRemainder, .intDivmod, .intLshift, .intRshift,
    .intAnd, .intXor, .intOr, .intFloorDivide, .intTrueDivide, .intPower, .intRichCompare,
    .intHash, .intRepr,
    .boolAnd, .boolXor, .boolOr, .boolRepr,
    .floatNegative, .floatPositive, .floatAbsolute, .floatInt, .floatFloat, .floatBool, .floatAdd,
    .floatSubtract, .floatMultiply, .floatRemainder, .floatDivmod, .floatFloorDivide,
    .floatTrueDivide, .floatPower, .floatRichCompare, .floatHash, .floatRepr,
    .strConcat, .strRepeat, .strLen, .strItem, .strSubscript, .strRichCompare, .strHash, .strIter,
    .strRepr,
    .tupleConcat, .tupleRepeat, .tupleLen, .tupleItem, .tupleRichCompare, .tupleHash, .tupleIter,
    .tupleRepr,
    .functionDescrGet, .functionCall, .functionRepr,
    .methodCall, .methodRepr,
    .propertyDescrGet, .propertyDescrSet,
    .iteratorIter, .iteratorNext]

/-- This is the name of the operation. -/
def name : Builtin → String
  | .objectGetAttr => "object.__getattribute__"
  | .objectSetAttr => "object.__setattr__"
  | .objectHash => "object.__hash__"
  | .objectRichCompare => "object.__eq__"
  | .objectRepr => "object.__repr__"
  | .typeGetAttr => "type.__getattribute__"
  | .typeSetAttr => "type.__setattr__"
  | .typeCall => "type.__call__"
  | .typeRepr => "type.__repr__"
  | .noneBool => "NoneType.__bool__"
  | .noneRepr => "NoneType.__repr__"
  | .notImplementedRepr => "NotImplementedType.__repr__"
  | .intNegative => "int.__neg__"
  | .intPositive => "int.__pos__"
  | .intAbsolute => "int.__abs__"
  | .intInvert => "int.__invert__"
  | .intIndex => "int.__index__"
  | .intInt => "int.__int__"
  | .intFloat => "int.__float__"
  | .intBool => "int.__bool__"
  | .intAdd => "int.__add__"
  | .intSubtract => "int.__sub__"
  | .intMultiply => "int.__mul__"
  | .intRemainder => "int.__mod__"
  | .intDivmod => "int.__divmod__"
  | .intLshift => "int.__lshift__"
  | .intRshift => "int.__rshift__"
  | .intAnd => "int.__and__"
  | .intXor => "int.__xor__"
  | .intOr => "int.__or__"
  | .intFloorDivide => "int.__floordiv__"
  | .intTrueDivide => "int.__truediv__"
  | .intPower => "int.__pow__"
  | .intRichCompare => "int.__eq__"
  | .intHash => "int.__hash__"
  | .intRepr => "int.__repr__"
  | .boolAnd => "bool.__and__"
  | .boolXor => "bool.__xor__"
  | .boolOr => "bool.__or__"
  | .boolRepr => "bool.__repr__"
  | .floatNegative => "float.__neg__"
  | .floatPositive => "float.__pos__"
  | .floatAbsolute => "float.__abs__"
  | .floatInt => "float.__int__"
  | .floatFloat => "float.__float__"
  | .floatBool => "float.__bool__"
  | .floatAdd => "float.__add__"
  | .floatSubtract => "float.__sub__"
  | .floatMultiply => "float.__mul__"
  | .floatRemainder => "float.__mod__"
  | .floatDivmod => "float.__divmod__"
  | .floatFloorDivide => "float.__floordiv__"
  | .floatTrueDivide => "float.__truediv__"
  | .floatPower => "float.__pow__"
  | .floatRichCompare => "float.__eq__"
  | .floatHash => "float.__hash__"
  | .floatRepr => "float.__repr__"
  | .strConcat => "str.__add__"
  | .strRepeat => "str.__mul__"
  | .strLen => "str.__len__"
  | .strItem => "str.__getitem__(int)"
  | .strSubscript => "str.__getitem__"
  | .strRichCompare => "str.__eq__"
  | .strHash => "str.__hash__"
  | .strIter => "str.__iter__"
  | .strRepr => "str.__repr__"
  | .tupleConcat => "tuple.__add__"
  | .tupleRepeat => "tuple.__mul__"
  | .tupleLen => "tuple.__len__"
  | .tupleItem => "tuple.__getitem__"
  | .tupleRichCompare => "tuple.__eq__"
  | .tupleHash => "tuple.__hash__"
  | .tupleIter => "tuple.__iter__"
  | .tupleRepr => "tuple.__repr__"
  | .functionDescrGet => "function.__get__"
  | .functionCall => "function.__call__"
  | .functionRepr => "function.__repr__"
  | .methodCall => "method.__call__"
  | .methodRepr => "method.__repr__"
  | .propertyDescrGet => "property.__get__"
  | .propertyDescrSet => "property.__set__"
  | .iteratorIter => "iterator.__iter__"
  | .iteratorNext => "iterator.__next__"

/-- This is the kind of slot that the operation fills. -/
def kind : Builtin → SlotKind
  | .objectGetAttr => .getAttr
  | .objectSetAttr => .setAttr
  | .objectHash => .hash
  | .objectRichCompare => .richCompare
  | .objectRepr => .repr
  | .typeGetAttr => .getAttr
  | .typeSetAttr => .setAttr
  | .typeCall => .call
  | .typeRepr => .repr
  | .noneBool => .bool
  | .noneRepr => .repr
  | .notImplementedRepr => .repr
  | .intNegative => .negative
  | .intPositive => .positive
  | .intAbsolute => .absolute
  | .intInvert => .invert
  | .intIndex => .index
  | .intInt => .int
  | .intFloat => .float
  | .intBool => .bool
  | .intAdd => .add
  | .intSubtract => .subtract
  | .intMultiply => .multiply
  | .intRemainder => .remainder
  | .intDivmod => .divmod
  | .intLshift => .lshift
  | .intRshift => .rshift
  | .intAnd => .and
  | .intXor => .xor
  | .intOr => .or
  | .intFloorDivide => .floorDivide
  | .intTrueDivide => .trueDivide
  | .intPower => .power
  | .intRichCompare => .richCompare
  | .intHash => .hash
  | .intRepr => .repr
  | .boolAnd => .and
  | .boolXor => .xor
  | .boolOr => .or
  | .boolRepr => .repr
  | .floatNegative => .negative
  | .floatPositive => .positive
  | .floatAbsolute => .absolute
  | .floatInt => .int
  | .floatFloat => .float
  | .floatBool => .bool
  | .floatAdd => .add
  | .floatSubtract => .subtract
  | .floatMultiply => .multiply
  | .floatRemainder => .remainder
  | .floatDivmod => .divmod
  | .floatFloorDivide => .floorDivide
  | .floatTrueDivide => .trueDivide
  | .floatPower => .power
  | .floatRichCompare => .richCompare
  | .floatHash => .hash
  | .floatRepr => .repr
  | .strConcat => .sqConcat
  | .strRepeat => .sqRepeat
  | .strLen => .sqLength
  | .strItem => .sqItem
  | .strSubscript => .mpSubscript
  | .strRichCompare => .richCompare
  | .strHash => .hash
  | .strIter => .iter
  | .strRepr => .repr
  | .tupleConcat => .sqConcat
  | .tupleRepeat => .sqRepeat
  | .tupleLen => .sqLength
  | .tupleItem => .sqItem
  | .tupleRichCompare => .richCompare
  | .tupleHash => .hash
  | .tupleIter => .iter
  | .tupleRepr => .repr
  | .functionDescrGet => .descrGet
  | .functionCall => .call
  | .functionRepr => .repr
  | .methodCall => .call
  | .methodRepr => .repr
  | .propertyDescrGet => .descrGet
  | .propertyDescrSet => .descrSet
  | .iteratorIter => .iter
  | .iteratorNext => .iterNext

/-- This is the shape in which the operation is called. -/
def shape : Builtin → Shape
  | .noneBool | .intBool | .floatBool => .inquiry
  | .strLen => .length
  | .functionDescrGet => .simpleDescrGet
  | .intAdd | .intSubtract | .intMultiply | .intRemainder | .intDivmod | .intLshift
  | .intRshift | .intAnd | .intXor | .intOr | .intFloorDivide | .intTrueDivide | .boolAnd
  | .boolXor | .boolOr | .floatAdd | .floatSubtract | .floatMultiply | .floatRemainder
  | .floatDivmod | .floatFloorDivide | .floatTrueDivide | .strConcat | .strSubscript
  | .tupleConcat => .binary
  | .intPower | .floatPower => .ternary
  | .strRepeat | .strItem | .tupleRepeat | .tupleItem => .size
  | .objectRichCompare | .intRichCompare | .floatRichCompare | .strRichCompare
  | .tupleRichCompare => .compare
  | .objectGetAttr | .typeGetAttr => .getAttr
  | .objectSetAttr | .typeSetAttr => .setAttr
  | .propertyDescrGet => .descrGet
  | .propertyDescrSet => .store
  | .typeCall | .functionCall | .methodCall => .call
  | _ => .unary

/-- This is the operation of the given name. -/
def ofName? (text : String) : Option Builtin :=
  all.find? fun operation => operation.name = text

end Builtin

end SlotDispatch
