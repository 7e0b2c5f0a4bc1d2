import SlotDispatch.Dispatch.Invocation
/-!
Conversions of values: hash, truth, index, integer, number, and text form.
-/

namespace SlotDispatch.Protocol

variable {Host : Type} (perform : Perform Host)

def hash (value : Value) : Action (World Host) Int64 := do
  let target ← Action.targetOf value .hash
  if target.isAbsent then Action.failFor Error.unhashable value
  else Invocation.hash perform target value

/-- A length is taken from the sequence slot before the mapping slot. -/
def lengthOrder : List SlotKind := [.sqLength, .mpLength]

/-- This is the first slot of an entry, in some order, that is not empty. -/
def firstTarget (entry : SlotEntry) (order : List SlotKind) : SlotTarget :=
  ((order.map entry.target).find? fun target => !target.isAbsent).getD .absent

/-- The truth slot decides the truth of a value, or else its length, and a value with neither is
true. -/
def truth (value : Value) : Action (World Host) Bool :=
  match value with
  | .bool flag => return flag
  | .none => return false
  | .int number => return number ≠ 0
  | _ => do
      let entry ← Action.entryOf value.typeId
      let target := entry.target .bool
      let lengthTarget := firstTarget entry lengthOrder
      if !target.isAbsent then Invocation.inquiry perform target value
      else if !lengthTarget.isAbsent then
        return (← Invocation.length perform lengthTarget value) ≠ 0
      else return true

/-- An index has to be an integer. -/
def index (value : Value) : Action (World Host) Int64 :=
  match value with
  | .int number => return number
  | _ => do
      let target ← Action.targetOf value .index
      if target.isAbsent then Action.failFor Error.notInteger value
      else
        let result ← Invocation.unary perform target value
        match result.integer? with
        | some number => return number
        | none => Action.failFor Error.indexResultNotInteger result

/-- A value without an integer slot is converted by its index slot. -/
def integer (value : Value) : Action (World Host) Int64 :=
  match value with
  | .int number => return number
  | _ => do
      let target ← Action.targetOf value .int
      if target.isAbsent then
        if ← Action.hasSlot value .index then index perform value
        else Action.failFor Error.integerArgument value
      else
        let result ← Invocation.unary perform target value
        match result.integer? with
        | some number => return number
        | none => Action.failFor Error.integerResultNotInteger result

/-- A value without a float slot is converted by its index slot. -/
def float (value : Value) : Action (World Host) Binary64 :=
  match value with
  | .float number => return number
  | _ => do
      let target ← Action.targetOf value .float
      if target.isAbsent then
        if ← Action.hasSlot value .index then
          return Binary64.ofInt (← index perform value).toInt
        else Action.failFor Error.floatArgument value
      else
        let result ← Invocation.unary perform target value
        match result.ownNumber? with
        | some number => return number
        | none => do
            let typeName ← Action.typeName value
            Action.failFor (Error.floatResultNotFloat typeName) result

/-- A text form has to be a text. -/
def repr (value : Value) : Action (World Host) String := do
  let target ← Action.targetOf value .repr
  let result ← Invocation.unary perform target value
  match result.text? with
  | some content => return content
  | none => Action.failFor Error.reprNotText result

end SlotDispatch.Protocol
