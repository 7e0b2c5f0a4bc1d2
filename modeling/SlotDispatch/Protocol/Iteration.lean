import SlotDispatch.Dispatch.Invocation
/-!
Iterators and the collection of items.
-/

namespace SlotDispatch.Protocol

variable {Host : Type} (perform : Perform Host)

/-- The result of an iteration slot has to be an iterator. -/
def iter (value : Value) : Action (World Host) Value := do
  let target ← Action.targetOf value .iter
  if target.isAbsent then Action.failFor Error.notIterable value
  else
    let iterator ← Invocation.unary perform target value
    if ← Action.hasSlot iterator .iterNext then return iterator
    else Action.failFor Error.iterResultNotIterator iterator

/-- A step of an iterator gives an item, or nothing at the end. -/
def next (iterator : Value) : Action (World Host) (Option Value) := do
  let target ← Action.targetOf iterator .iterNext
  if target.isAbsent then Action.failFor Error.notIterator iterator
  else
    match ← Action.attempt (Invocation.unary perform target iterator) with
    | .ok item => return some item
    | .error error =>
        if error.kind = .stopIteration then return none else Action.fail error

/-- An iterator is drained step by step. -/
def drain (iterator : Value) : Action (World Host) (List Value) := do
  match ← next perform iterator with
  | none => return []
  | some item => return item :: (← perform.drain iterator)

/-- A tuple has its items at hand, and every other value is iterated. -/
def collect (value : Value) : Action (World Host) (List Value) :=
  match value.items?.filter fun _ => value.typeId = .tuple with
  | some items => return items
  | none => do drain perform (← iter perform value)

end SlotDispatch.Protocol
