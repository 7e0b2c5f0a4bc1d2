import SlotDispatch.Dispatch.Invocation
/-!
Attributes, descriptors, and calls of values.
-/

namespace SlotDispatch.Protocol

variable {Host : Type} (perform : Perform Host)

/-- A call of a function runs it, a call of a bound method passes the receiver on, and a call of any
other value goes through its call slot. -/
def call : Value → List Value → Action (World Host) Value
  | .object _ (.function name code), arguments => perform.apply name code arguments
  | .object _ (.boundMethod function receiver), arguments => call function (receiver :: arguments)
  | callee, arguments => do
      let target ← Action.targetOf callee .call
      Invocation.call perform target callee arguments
termination_by structural callee => callee

/-- An instance of a type is made by a call of its type object. -/
def newInstance (id : TypeId) (arguments : List Value) : Action (World Host) Value := do
  call perform (← Action.typeObject id) arguments

def getAttribute (value : Value) (name : String) : Action (World Host) Value := do
  let target ← Action.targetOf value .getAttr
  Invocation.getAttribute perform value name target

def setAttribute (value : Value) (name : String) (content? : Option Value) :
    Action (World Host) Unit := do
  let target ← Action.targetOf value .setAttr
  Invocation.setAttribute perform target value name content?

def descriptorGet (descriptor : Value) (instance? : Option Value) (owner : TypeId) :
    Action (World Host) Value := do
  let target ← Action.targetOf descriptor .descrGet
  Invocation.descriptorGet perform target descriptor instance? owner

/-- A store through a value without the fitting descriptor method is a missing attribute. -/
def descriptorSet (descriptor receiver : Value) (content? : Option Value) :
    Action (World Host) Unit := do
  let target ← Action.targetOf descriptor .descrSet
  if ← Invocation.store perform target descriptor receiver content? then return ()
  else
    let dunder := if content?.isSome then "__set__" else "__delete__"
    Action.failFor (Error.attributeMissing · dunder) descriptor

end SlotDispatch.Protocol
