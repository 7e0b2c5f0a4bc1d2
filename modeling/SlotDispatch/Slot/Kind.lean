/-!
The catalog of slots. A slot kind is one operation that a type can implement, and special method
names of a class fill the slots of that class.
-/

namespace SlotDispatch

/-- A slot kind names one operation of a type: a number, sequence, mapping, or object operation. -/
inductive SlotKind where
  | negative | positive | absolute | invert | index | int | float | bool
  | add | subtract | multiply | remainder | divmod | lshift | rshift | and | xor | or
  | floorDivide | trueDivide | matrixMultiply
  | power
  | sqLength | sqConcat | sqRepeat | sqItem | sqAssItem
  | mpLength | mpSubscript | mpAssSubscript
  | getAttr | setAttr | descrGet | descrSet | hash | richCompare | iter | iterNext | call | repr
deriving DecidableEq, Repr

namespace SlotKind

/-- These are all kinds in catalog order. -/
def all : List SlotKind :=
  [.negative, .positive, .absolute, .invert, .index, .int, .float, .bool,
    .add, .subtract, .multiply, .remainder, .divmod, .lshift, .rshift, .and, .xor, .or,
    .floorDivide, .trueDivide, .matrixMultiply,
    .power,
    .sqLength, .sqConcat, .sqRepeat, .sqItem, .sqAssItem,
    .mpLength, .mpSubscript, .mpAssSubscript,
    .getAttr, .setAttr, .descrGet, .descrSet, .hash, .richCompare, .iter, .iterNext, .call, .repr]

theorem mem_all (kind : SlotKind) : kind ∈ all := by
  cases kind <;> decide

/-- This is the place of the kind in the catalog. -/
def position (kind : SlotKind) : Nat :=
  all.idxOf kind

/-- This is the name of the kind in reports and error texts. -/
def name : SlotKind → String
  | .negative => "Negative"
  | .positive => "Positive"
  | .absolute => "Absolute"
  | .invert => "Invert"
  | .index => "Index"
  | .int => "Int"
  | .float => "Float"
  | .bool => "Bool"
  | .add => "Add"
  | .subtract => "Subtract"
  | .multiply => "Multiply"
  | .remainder => "Remainder"
  | .divmod => "Divmod"
  | .lshift => "Lshift"
  | .rshift => "Rshift"
  | .and => "And"
  | .xor => "Xor"
  | .or => "Or"
  | .floorDivide => "FloorDivide"
  | .trueDivide => "TrueDivide"
  | .matrixMultiply => "MatrixMultiply"
  | .power => "Power"
  | .sqLength => "SqLength"
  | .sqConcat => "SqConcat"
  | .sqRepeat => "SqRepeat"
  | .sqItem => "SqItem"
  | .sqAssItem => "SqAssItem"
  | .mpLength => "MpLength"
  | .mpSubscript => "MpSubscript"
  | .mpAssSubscript => "MpAssSubscript"
  | .getAttr => "GetAttr"
  | .setAttr => "SetAttr"
  | .descrGet => "DescrGet"
  | .descrSet => "DescrSet"
  | .hash => "Hash"
  | .richCompare => "RichCompare"
  | .iter => "Iter"
  | .iterNext => "IterNext"
  | .call => "Call"
  | .repr => "Repr"

/-- This is the kind of the given name. -/
def ofName? (text : String) : Option SlotKind :=
  all.find? fun kind => kind.name = text

/-- The kinds with one operand that compute with numbers. -/
def isUnaryNumber : SlotKind → Bool
  | .negative | .positive | .absolute | .invert | .index | .int | .float | .bool => true
  | _ => false

/-- The kinds with two operands that have a reflected form, apart from power. -/
def isBinaryNumber : SlotKind → Bool
  | .add | .subtract | .multiply | .remainder | .divmod | .lshift | .rshift | .and | .xor | .or
  | .floorDivide | .trueDivide | .matrixMultiply => true
  | _ => false

/-- Power alone takes a third operand. -/
def isTernary (kind : SlotKind) : Bool :=
  kind = .power

/-- The kinds that dispatch on two operands. -/
def isBinary (kind : SlotKind) : Bool :=
  kind.isBinaryNumber || kind.isTernary

/-- The kinds of number operations. -/
def isNumber (kind : SlotKind) : Bool :=
  kind.isBinary || kind.isUnaryNumber

/-- This is the number of operands of the kind. -/
def arity : SlotKind → Nat
  | .negative | .positive | .absolute | .invert | .index | .int | .float | .bool => 1
  | .sqLength | .mpLength | .hash | .iter | .iterNext | .repr => 1
  | .add | .subtract | .multiply | .remainder | .divmod | .lshift | .rshift | .and | .xor | .or
  | .floorDivide | .trueDivide | .matrixMultiply => 2
  | .sqConcat | .sqRepeat | .sqItem | .mpSubscript | .getAttr | .call => 2
  | .power | .sqAssItem | .mpAssSubscript | .setAttr | .descrGet | .descrSet | .richCompare => 3

/-- A complex kind accepts implementations of both conventions. -/
def isComplex : SlotKind → Bool
  | .sqLength | .mpLength | .descrGet => true
  | _ => false

/-- This is the operator text of the kind in error texts. -/
def symbol : SlotKind → String
  | .negative => "unary -"
  | .positive => "unary +"
  | .absolute => "abs()"
  | .invert => "unary ~"
  | .index => "index"
  | .int => "int()"
  | .float => "float()"
  | .bool => "bool()"
  | .add => "+"
  | .subtract => "-"
  | .multiply => "*"
  | .remainder => "%"
  | .divmod => "divmod()"
  | .lshift => "<<"
  | .rshift => ">>"
  | .and => "&"
  | .xor => "^"
  | .or => "|"
  | .floorDivide => "//"
  | .trueDivide => "/"
  | .matrixMultiply => "@"
  | .power => "** or pow()"
  | .sqLength | .mpLength => "len()"
  | .sqConcat => "+"
  | .sqRepeat => "*"
  | .sqItem | .mpSubscript => "[]"
  | .sqAssItem | .mpAssSubscript => "[]="
  | .getAttr => "getattr()"
  | .setAttr => "setattr()"
  | .descrGet => "__get__"
  | .descrSet => "__set__"
  | .hash => "hash()"
  | .richCompare => "comparison"
  | .iter => "iter()"
  | .iterNext => "next()"
  | .call => "call"
  | .repr => "repr()"

/-- This is the operator text of the augmented assignment, for the kinds that have one. -/
def inPlaceSymbol? : SlotKind → Option String
  | .add => "+="
  | .subtract => "-="
  | .multiply => "*="
  | .remainder => "%="
  | .lshift => "<<="
  | .rshift => ">>="
  | .and => "&="
  | .xor => "^="
  | .or => "|="
  | .floorDivide => "//="
  | .trueDivide => "/="
  | .matrixMultiply => "@="
  | .power => "**="
  | _ => none

/-- This is the special method of the augmented assignment, for the kinds that have one. -/
def inPlaceDunder? : SlotKind → Option String
  | .add => "__iadd__"
  | .subtract => "__isub__"
  | .multiply => "__imul__"
  | .remainder => "__imod__"
  | .lshift => "__ilshift__"
  | .rshift => "__irshift__"
  | .and => "__iand__"
  | .xor => "__ixor__"
  | .or => "__ior__"
  | .floorDivide => "__ifloordiv__"
  | .trueDivide => "__itruediv__"
  | .matrixMultiply => "__imatmul__"
  | .power => "__ipow__"
  | _ => none

/-- These are the special methods that fill the slot: forward before reflected, and assignment
before deletion. -/
def dunders : SlotKind → List String
  | .negative => ["__neg__"]
  | .positive => ["__pos__"]
  | .absolute => ["__abs__"]
  | .invert => ["__invert__"]
  | .index => ["__index__"]
  | .int => ["__int__"]
  | .float => ["__float__"]
  | .bool => ["__bool__"]
  | .add => ["__add__", "__radd__"]
  | .subtract => ["__sub__", "__rsub__"]
  | .multiply => ["__mul__", "__rmul__"]
  | .remainder => ["__mod__", "__rmod__"]
  | .divmod => ["__divmod__", "__rdivmod__"]
  | .lshift => ["__lshift__", "__rlshift__"]
  | .rshift => ["__rshift__", "__rrshift__"]
  | .and => ["__and__", "__rand__"]
  | .xor => ["__xor__", "__rxor__"]
  | .or => ["__or__", "__ror__"]
  | .floorDivide => ["__floordiv__", "__rfloordiv__"]
  | .trueDivide => ["__truediv__", "__rtruediv__"]
  | .matrixMultiply => ["__matmul__", "__rmatmul__"]
  | .power => ["__pow__", "__rpow__"]
  | .sqLength | .mpLength => ["__len__"]
  | .sqConcat | .sqRepeat | .sqItem | .sqAssItem => []
  | .mpSubscript => ["__getitem__"]
  | .mpAssSubscript => ["__setitem__", "__delitem__"]
  | .getAttr => ["__getattribute__", "__getattr__"]
  | .setAttr => ["__setattr__", "__delattr__"]
  | .descrGet => ["__get__"]
  | .descrSet => ["__set__", "__delete__"]
  | .hash => ["__hash__"]
  | .richCompare => ["__lt__", "__le__", "__eq__", "__ne__", "__gt__", "__ge__"]
  | .iter => ["__iter__"]
  | .iterNext => ["__next__"]
  | .call => ["__call__"]
  | .repr => ["__repr__"]

/-- The forward method is the first special method of the kind. -/
def forwardDunder? (kind : SlotKind) : Option String :=
  kind.dunders.head?

/-- The reflected method is the second special method of a kind that dispatches on two operands. -/
def reflectedDunder? (kind : SlotKind) : Option String :=
  if kind.isBinary then kind.dunders[1]? else none

/-- This is the sequence operation that a number operation falls back to. -/
def sequenceFallback? : SlotKind → Option SlotKind
  | .add => some .sqConcat
  | .multiply => some .sqRepeat
  | _ => none

/-- These are the kinds that the special method fills. -/
def ofDunder (dunder : String) : List SlotKind :=
  all.filter fun kind => kind.dunders.contains dunder

/-- A name is a slot dunder when it fills some slot. -/
def isSlotDunder (text : String) : Bool :=
  all.any fun kind => kind.dunders.contains text

end SlotKind

/-- A simple implementation needs no machine and cannot fail, and a full one can do both. -/
inductive Convention where
  | simple | full
deriving DecidableEq, Repr

/-- A truth test exists in simple form only, and apart from it only complex kinds accept the simple
form. -/
def SlotKind.supports (kind : SlotKind) : Convention → Bool
  | .full => kind ≠ .bool
  | .simple => kind.isComplex || kind = .bool

end SlotDispatch
