/-!
Errors of the machine. An error has a kind and a message, and this module holds the wording of every
error that the machine itself reports.
-/

namespace SlotDispatch

/-- The kind of an error tells its cause, and user code can raise errors of every kind. -/
inductive ErrorKind where
  /-- No slot takes the single operand. -/
  | unsupportedOperand (operation typeName : String)
  /-- No slot of the operands gave a result. -/
  | unsupportedOperandTypes (operation : String) (typeNames : List String)
  | attributeMissing (typeName name : String)
  | typeError
  | valueError
  | zeroDivision
  | overflow
  | memoryError
  | indexError
  | stopIteration
  | linearizationConflict
  /-- User code raised an exception class of this name. -/
  | raised (exceptionName : String)
deriving DecidableEq, Repr

namespace ErrorKind

/-- This is the name of the exception class of the kind. -/
def exceptionName : ErrorKind → String
  | .unsupportedOperand _ _ | .unsupportedOperandTypes _ _ | .typeError
  | .linearizationConflict => "TypeError"
  | .attributeMissing _ _ => "AttributeError"
  | .valueError => "ValueError"
  | .zeroDivision => "ZeroDivisionError"
  | .overflow => "OverflowError"
  | .memoryError => "MemoryError"
  | .indexError => "IndexError"
  | .stopIteration => "StopIteration"
  | .raised name => name

/-- A missing attribute is the one kind that an attribute hook handles. -/
def isAttributeMissing : ErrorKind → Bool
  | .attributeMissing _ _ => true
  | _ => false

end ErrorKind

/-- An error has a kind and a message. -/
structure Error where
  kind : ErrorKind
  message : String
deriving DecidableEq, Repr

namespace Error

/-- An uncaught error is shown as its exception class and its message. -/
def text (error : Error) : String :=
  error.kind.exceptionName ++ ": " ++ error.message

/-- This is an error of wrong types. -/
def typeError (message : String) : Error := ⟨.typeError, message⟩

/-! ### Types -/

def unknownType (id : Nat) : Error :=
  typeError s!"unknown type id {id}"

def immutableType (typeName name : String) : Error :=
  typeError s!"cannot set '{name}' attribute of immutable type '{typeName}'"

def duplicateBase (typeName : String) : Error :=
  typeError s!"duplicate base class {typeName}"

def finalBase (typeName : String) : Error :=
  typeError s!"type '{typeName}' is not an acceptable base type"

def tooManyTypes : Error := ⟨.overflow, "too many types"⟩

def inheritanceCycle : Error :=
  typeError "a __bases__ item causes an inheritance cycle"

def emptyBases (typeName : String) : Error :=
  typeError s!"can only assign non-empty tuple to {typeName}.__bases__, not ()"

def linearizationConflict (typeNames : List String) : Error :=
  ⟨.linearizationConflict,
    "Cannot create a consistent method resolution order (MRO) for bases "
      ++ String.intercalate ", " typeNames⟩

def linearizationTooLong (length limit : Nat) : Error :=
  ⟨.linearizationConflict, s!"MRO of length {length} exceeds the limit of {limit}"⟩

def typeAttributeMissing (typeName name : String) : Error :=
  ⟨.attributeMissing typeName name,
    s!"type object '{typeName}' has no attribute '{name}'"⟩

/-! ### Operators -/

def notUnary (kindName : String) : Error :=
  typeError s!"slot {kindName} is not a unary operation"

def notBinary (kindName : String) : Error :=
  typeError s!"slot {kindName} is not a binary operation"

def notTernary (kindName : String) : Error :=
  typeError s!"slot {kindName} is not a ternary operation"

def notInPlace (kindName : String) : Error :=
  typeError s!"slot {kindName} has no in-place form"

def badOperand (operation typeName : String) : Error :=
  ⟨.unsupportedOperand operation typeName, s!"bad operand type for {operation}: '{typeName}'"⟩

/-- Two type names are joined by a word, and another number of names by commas. -/
def unsupportedOperands (operation : String) (typeNames : List String) : Error :=
  let listed := match typeNames.map fun typeName => s!"'{typeName}'" with
    | [left, right] => s!"{left} and {right}"
    | quotedNames => String.intercalate ", " quotedNames
  ⟨.unsupportedOperandTypes operation typeNames,
    s!"unsupported operand type(s) for {operation}: {listed}"⟩

def unsupportedComparison (operation left right : String) : Error :=
  ⟨.unsupportedOperandTypes operation [left, right],
    s!"'{operation}' not supported between instances of '{left}' and '{right}'"⟩

def unknownSite (site : Nat) : Error :=
  typeError s!"unknown call site {site}"

def cannotRepeat (typeName : String) : Error :=
  typeError s!"can't multiply sequence by non-int of type '{typeName}'"

/-- A builtin operation met a slot that calls it in another form. -/
def shapeMismatch (operation shape kindName : String) : Error :=
  typeError s!"builtin '{operation}' ({shape}) cannot be invoked as slot {kindName}"

/-! ### Protocols -/

def notCallable (typeName : String) : Error :=
  ⟨.unsupportedOperand "call" typeName, s!"'{typeName}' object is not callable"⟩

def noLength (typeName : String) : Error :=
  ⟨.unsupportedOperand "len()" typeName, s!"object of type '{typeName}' has no len()"⟩

def negativeLength : Error :=
  ⟨.valueError, "__len__() should return >= 0"⟩

def notInteger (typeName : String) : Error :=
  typeError s!"'{typeName}' object cannot be interpreted as an integer"

def truthNotBool (typeName : String) : Error :=
  typeError s!"__bool__ should return bool, returned {typeName}"

def hashNotInteger : Error :=
  typeError "__hash__ method should return an integer"

def notSubscriptable (typeName : String) : Error :=
  ⟨.unsupportedOperand "[]" typeName, s!"'{typeName}' object is not subscriptable"⟩

def noItemAssignment (typeName : String) : Error :=
  ⟨.unsupportedOperand "[]=" typeName, s!"'{typeName}' object does not support item assignment"⟩

def noItemDeletion (typeName : String) : Error :=
  ⟨.unsupportedOperand "[]=" typeName, s!"'{typeName}' object doesn't support item deletion"⟩

def indexNotInteger (sequenceName keyName : String) : Error :=
  typeError s!"{sequenceName} indices must be integers, not '{keyName}'"

def unhashable (typeName : String) : Error :=
  ⟨.unsupportedOperand "hash()" typeName, s!"unhashable type: '{typeName}'"⟩

def indexResultNotInteger (typeName : String) : Error :=
  typeError s!"__index__ returned non-int (type {typeName})"

def integerArgument (typeName : String) : Error :=
  typeError
    s!"int() argument must be a string, a bytes-like object or a real number, not '{typeName}'"

def integerResultNotInteger (typeName : String) : Error :=
  typeError s!"__int__ returned non-int (type {typeName})"

def floatArgument (typeName : String) : Error :=
  typeError s!"must be real number, not {typeName}"

def floatResultNotFloat (typeName resultName : String) : Error :=
  typeError s!"{typeName}.__float__ returned non-float (type {resultName})"

def reprNotText (typeName : String) : Error :=
  typeError s!"__repr__ returned non-string (type {typeName})"

def notIterable (typeName : String) : Error :=
  ⟨.unsupportedOperand "iter()" typeName, s!"'{typeName}' object is not iterable"⟩

def iterResultNotIterator (typeName : String) : Error :=
  typeError s!"iter() returned non-iterator of type '{typeName}'"

def notIterator (typeName : String) : Error :=
  typeError s!"'{typeName}' object is not an iterator"

def stopIteration : Error := ⟨.stopIteration, ""⟩

def attributeMissing (typeName name : String) : Error :=
  ⟨.attributeMissing typeName name,
    s!"'{typeName}' object has no attribute '{name}'"⟩

def noAttributes (typeName name : String) : Error :=
  typeError s!"'{typeName}' object has no attributes (assign to .{name})"

def readOnlyAttribute (typeName name : String) : Error :=
  typeError s!"'{typeName}' object attribute '{name}' is read-only"

def initResultNotNone (typeName : String) : Error :=
  typeError s!"__init__() should return None, not '{typeName}'"

def takesNoArguments (typeName : String) : Error :=
  typeError s!"{typeName}() takes no arguments"

def notInstantiable (typeName : String) : Error :=
  typeError s!"cannot create '{typeName}' instances"

def wrongArity (name : String) (expected given : Nat) : Error :=
  let plural := if expected = 1 then "" else "s"
  typeError s!"{name}() takes exactly {expected} argument{plural} ({given} given)"

/-! ### Builtin types -/

/-- An operation of a builtin type met an object without the data of that type. -/
def wrongReceiver (operation expected received : String) : Error :=
  typeError s!"descriptor '{operation}' requires a '{expected}' object but received '{received}'"

def wrongDescriptor (expected received : String) : Error :=
  typeError s!"descriptor requires a '{expected}' object but received '{received}'"

def notText (what received : String) : Error :=
  typeError s!"{what} must be str, not '{received}'"

def notFunction (typeName : String) : Error :=
  typeError s!"'{typeName}' object is not a function"

def notBoundMethod (typeName : String) : Error :=
  typeError s!"'{typeName}' object is not a bound method"

def propertyWithout (typeName part : String) : Error :=
  ⟨.attributeMissing typeName part, s!"property of '{typeName}' object has no {part}"⟩

def cannotConcatenate (expected received : String) : Error :=
  typeError s!"can only concatenate {expected} (not \"{received}\") to {expected}"

def indexOutOfRange (what : String) : Error :=
  ⟨.indexError, s!"{what} index out of range"⟩

def repeatTooLong (what : String) : Error :=
  ⟨.overflow, s!"repeated {what} is too long"⟩

def outOfMemory (bytes : Nat) (what : String) : Error :=
  ⟨.memoryError, s!"cannot allocate {bytes} bytes for repeated {what}"⟩

def integerOverflow (operation : String) : Error :=
  ⟨.overflow, s!"integer overflow in {operation}"⟩

def moduloByZero : Error := ⟨.zeroDivision, "integer modulo by zero"⟩

def divisionOrModuloByZero : Error := ⟨.zeroDivision, "integer division or modulo by zero"⟩

def divisionByZero : Error := ⟨.zeroDivision, "division by zero"⟩

def floatDivisionByZero : Error := ⟨.zeroDivision, "float division by zero"⟩

def floatFloorDivisionByZero : Error := ⟨.zeroDivision, "float floor division by zero"⟩

def floatModulo : Error := ⟨.zeroDivision, "float modulo"⟩

def floatDivmod : Error := ⟨.zeroDivision, "float divmod()"⟩

def zeroToNegativePower : Error :=
  ⟨.zeroDivision, "0.0 cannot be raised to a negative power"⟩

def negativeShift : Error := ⟨.valueError, "negative shift count"⟩

def zeroModulus : Error := ⟨.valueError, "pow() 3rd argument cannot be 0"⟩

def negativeModularExponent : Error :=
  ⟨.valueError, "pow() 2nd argument cannot be negative when 3rd argument specified"⟩

def floatModulus : Error :=
  typeError "pow() 3rd argument not allowed unless all arguments are integers"

def floatNaNToInteger : Error := ⟨.valueError, "cannot convert float NaN to integer"⟩

def floatInfinityToInteger : Error := ⟨.overflow, "cannot convert float infinity to integer"⟩

def floatTooLarge : Error := ⟨.overflow, "int too large to convert"⟩

def invalidIntegerLiteral (literal : String) : Error :=
  ⟨.valueError, s!"invalid literal for int() with base 10: '{literal}'"⟩

def invalidFloatLiteral (literal : String) : Error :=
  ⟨.valueError, s!"could not convert string to float: '{literal}'"⟩

end Error

end SlotDispatch
