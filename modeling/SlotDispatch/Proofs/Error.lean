import Mathlib.Data.List.Basic
import SlotDispatch.Builtin.Catalog
import SlotDispatch.Error
/-!
The error that reports a builtin operation in a wrong shape, told apart from all others. The wording
of an error can hold names that a class chose freely, so the error is told by its kind and by the
first and last character of its message.
-/

namespace SlotDispatch.Error

/-- A mismatch reports that some builtin operation met a slot of some kind in a wrong shape. -/
def IsMismatch (error : Error) : Prop :=
  ∃ (operation : Builtin) (kind : SlotKind),
    error = .shapeMismatch operation.name operation.shape.name kind.name

/-- An ordinary error is an error of the machine that reports another cause than a wrong shape. -/
@[grind intro]
inductive IsOrdinary : Error → Prop
  | unknownType (id : Nat) : IsOrdinary (unknownType id)
  | immutableType (typeName name : String) : IsOrdinary (immutableType typeName name)
  | duplicateBase (typeName : String) : IsOrdinary (duplicateBase typeName)
  | finalBase (typeName : String) : IsOrdinary (finalBase typeName)
  | tooManyTypes : IsOrdinary tooManyTypes
  | inheritanceCycle : IsOrdinary inheritanceCycle
  | emptyBases (typeName : String) : IsOrdinary (emptyBases typeName)
  | linearizationConflict (typeNames : List String) : IsOrdinary (linearizationConflict typeNames)
  | linearizationTooLong (length limit : Nat) : IsOrdinary (linearizationTooLong length limit)
  | typeAttributeMissing (typeName name : String) : IsOrdinary (typeAttributeMissing typeName name)
  | notUnary (kindName : String) : IsOrdinary (notUnary kindName)
  | notBinary (kindName : String) : IsOrdinary (notBinary kindName)
  | notTernary (kindName : String) : IsOrdinary (notTernary kindName)
  | notInPlace (kindName : String) : IsOrdinary (notInPlace kindName)
  | badOperand (operation typeName : String) : IsOrdinary (badOperand operation typeName)
  | unsupportedOperands (operation : String) (typeNames : List String) :
      IsOrdinary (unsupportedOperands operation typeNames)
  | unsupportedComparison (operation left right : String) :
      IsOrdinary (unsupportedComparison operation left right)
  | unknownSite (site : Nat) : IsOrdinary (unknownSite site)
  | cannotRepeat (typeName : String) : IsOrdinary (cannotRepeat typeName)
  | notCallable (typeName : String) : IsOrdinary (notCallable typeName)
  | noLength (typeName : String) : IsOrdinary (noLength typeName)
  | negativeLength : IsOrdinary negativeLength
  | notInteger (typeName : String) : IsOrdinary (notInteger typeName)
  | truthNotBool (typeName : String) : IsOrdinary (truthNotBool typeName)
  | hashNotInteger : IsOrdinary hashNotInteger
  | notSubscriptable (typeName : String) : IsOrdinary (notSubscriptable typeName)
  | noItemAssignment (typeName : String) : IsOrdinary (noItemAssignment typeName)
  | noItemDeletion (typeName : String) : IsOrdinary (noItemDeletion typeName)
  | indexNotInteger (sequenceName keyName : String) :
      IsOrdinary (indexNotInteger sequenceName keyName)
  | unhashable (typeName : String) : IsOrdinary (unhashable typeName)
  | indexResultNotInteger (typeName : String) : IsOrdinary (indexResultNotInteger typeName)
  | integerArgument (typeName : String) : IsOrdinary (integerArgument typeName)
  | integerResultNotInteger (typeName : String) : IsOrdinary (integerResultNotInteger typeName)
  | floatArgument (typeName : String) : IsOrdinary (floatArgument typeName)
  | floatResultNotFloat (typeName resultName : String) :
      IsOrdinary (floatResultNotFloat typeName resultName)
  | reprNotText (typeName : String) : IsOrdinary (reprNotText typeName)
  | notIterable (typeName : String) : IsOrdinary (notIterable typeName)
  | iterResultNotIterator (typeName : String) : IsOrdinary (iterResultNotIterator typeName)
  | notIterator (typeName : String) : IsOrdinary (notIterator typeName)
  | stopIteration : IsOrdinary stopIteration
  | attributeMissing (typeName name : String) : IsOrdinary (attributeMissing typeName name)
  | noAttributes (typeName name : String) : IsOrdinary (noAttributes typeName name)
  | readOnlyAttribute (typeName name : String) : IsOrdinary (readOnlyAttribute typeName name)
  | initResultNotNone (typeName : String) : IsOrdinary (initResultNotNone typeName)
  | takesNoArguments (typeName : String) : IsOrdinary (takesNoArguments typeName)
  | notInstantiable (typeName : String) : IsOrdinary (notInstantiable typeName)
  | wrongArity (name : String) (expected given : Nat) : IsOrdinary (wrongArity name expected given)
  | wrongReceiver (operation expected received : String) :
      IsOrdinary (wrongReceiver operation expected received)
  | wrongDescriptor (expected received : String) : IsOrdinary (wrongDescriptor expected received)
  | notText (what received : String) : IsOrdinary (notText what received)
  | notFunction (typeName : String) : IsOrdinary (notFunction typeName)
  | notBoundMethod (typeName : String) : IsOrdinary (notBoundMethod typeName)
  | propertyWithout (typeName part : String) : IsOrdinary (propertyWithout typeName part)
  | cannotConcatenate (expected received : String) :
      IsOrdinary (cannotConcatenate expected received)
  | indexOutOfRange (what : String) : IsOrdinary (indexOutOfRange what)
  | repeatTooLong (what : String) : IsOrdinary (repeatTooLong what)
  | outOfMemory (bytes : Nat) (what : String) : IsOrdinary (outOfMemory bytes what)
  | integerOverflow (operation : String) : IsOrdinary (integerOverflow operation)
  | moduloByZero : IsOrdinary moduloByZero
  | divisionOrModuloByZero : IsOrdinary divisionOrModuloByZero
  | divisionByZero : IsOrdinary divisionByZero
  | floatDivisionByZero : IsOrdinary floatDivisionByZero
  | floatFloorDivisionByZero : IsOrdinary floatFloorDivisionByZero
  | floatModulo : IsOrdinary floatModulo
  | floatDivmod : IsOrdinary floatDivmod
  | zeroToNegativePower : IsOrdinary zeroToNegativePower
  | negativeShift : IsOrdinary negativeShift
  | zeroModulus : IsOrdinary zeroModulus
  | negativeModularExponent : IsOrdinary negativeModularExponent
  | floatModulus : IsOrdinary floatModulus
  | floatNaNToInteger : IsOrdinary floatNaNToInteger
  | floatInfinityToInteger : IsOrdinary floatInfinityToInteger
  | floatTooLarge : IsOrdinary floatTooLarge
  | invalidIntegerLiteral (literal : String) : IsOrdinary (invalidIntegerLiteral literal)
  | invalidFloatLiteral (literal : String) : IsOrdinary (invalidFloatLiteral literal)

/-! ### Mismatches -/

@[simp] theorem toString_text (text : String) : toString text = text := rfl

theorem getLast?_kindName (kind : SlotKind) :
    kind.name.toList.getLast? ∉ [some '\'', some ')', some 's'] ∧ kind.name.toList ≠ [] := by
  cases kind <;> decide

theorem IsMismatch.kind {error : Error} (isMismatch : error.IsMismatch) : error.kind = .typeError := by
  obtain ⟨_, _, rfl⟩ := isMismatch
  rfl

theorem IsMismatch.head? {error : Error} (isMismatch : error.IsMismatch) :
    error.message.toList.head? = some 'b' := by
  obtain ⟨_, _, rfl⟩ := isMismatch
  simp [shapeMismatch, typeError]

/-- The message of a mismatch ends with the name of a slot kind. -/
theorem IsMismatch.getLast? {error : Error} (isMismatch : error.IsMismatch) :
    error.message.toList.getLast? ∉ [some '\'', some ')', some 's'] := by
  obtain ⟨operation, kind, rfl⟩ := isMismatch
  obtain ⟨isLetter, isName⟩ := getLast?_kindName kind
  have isEnd : (shapeMismatch operation.name operation.shape.name
      kind.name).message.toList.getLast? = kind.name.toList.getLast? := by
    simp only [shapeMismatch, typeError, toString_text, String.toList_append,
      List.getLast?_append]
    cases isLast : kind.name.toList.getLast? with
    | none => exact absurd (List.getLast?_eq_none_iff.1 isLast) isName
    | some last => simp
  rwa [isEnd]

/-- A mismatch is none of the ordinary errors, whatever names these quote. -/
theorem IsMismatch.not_isOrdinary {error : Error} (isMismatch : error.IsMismatch) :
    ¬ error.IsOrdinary := by
  intro isOrdinary
  have isTypeError := isMismatch.kind
  have startsWithB := isMismatch.head?
  have endsWithName := isMismatch.getLast?
  cases isOrdinary
  all_goals first
    | exact ErrorKind.noConfusion isTypeError
    | revert startsWithB endsWithName
      simp [typeError, toString_text, List.getLast?_append, List.getLast?_cons, unknownType,
        immutableType, duplicateBase, finalBase, inheritanceCycle, emptyBases, notUnary, notBinary,
        notTernary, notInPlace, unknownSite, cannotRepeat, notInteger, truthNotBool, hashNotInteger,
        indexNotInteger, indexResultNotInteger, integerArgument, integerResultNotInteger,
        floatArgument, floatResultNotFloat, reprNotText, iterResultNotIterator, notIterator,
        noAttributes, readOnlyAttribute, initResultNotNone, takesNoArguments, notInstantiable,
        wrongArity, wrongReceiver, wrongDescriptor, notText, notFunction, notBoundMethod,
        cannotConcatenate, floatModulus]

/-! ### Outcomes -/

/-- An outcome is ordinary when it is a result or an ordinary error. -/
def OrdinaryIn {Result : Type} : Except Error Result → Prop
  | .ok _ => True
  | .error error => error.IsOrdinary

variable {Result Next : Type}

@[simp, grind .] theorem ordinaryIn_ok (result : Result) : OrdinaryIn (.ok result) := trivial

@[simp, grind =] theorem ordinaryIn_error (error : Error) :
    OrdinaryIn (.error error : Except Error Result) ↔ error.IsOrdinary := Iff.rfl

end SlotDispatch.Error
