import SlotDispatch.Protocol.Conversion
/-!
Lengths and items of containers.
-/

namespace SlotDispatch.Protocol

variable {Host : Type} (perform : Perform Host)

def length (value : Value) : Action (World Host) Nat := do
  let entry ← Action.entryOf value.typeId
  let target := firstTarget entry lengthOrder
  if target.isAbsent then Action.failFor Error.noLength value
  else Invocation.length perform target value

/-- A key of any type with an index slot selects an item of a sequence. -/
def sequenceIndex (value key : Value) : Action (World Host) Int64 := do
  if ← Action.hasSlot key .index then index perform key
  else
    let typeName ← Action.typeName value
    Action.failFor (Error.indexNotInteger typeName) key

/-- The mapping slot takes any key, and the sequence slot takes an index. -/
def getItem (value key : Value) : Action (World Host) Value := do
  let entry ← Action.entryOf value.typeId
  let mapping := entry.target .mpSubscript
  let sequence := entry.target .sqItem
  if !mapping.isAbsent then Invocation.binary perform mapping .left value key
  else if !sequence.isAbsent then
    Invocation.size perform value (← sequenceIndex perform value key) sequence
  else Action.failFor Error.notSubscriptable value

/-- A store that the mapping slot does not handle goes to the sequence slot. -/
def storeItem (value key : Value) (content? : Option Value) : Action (World Host) Bool := do
  let entry ← Action.entryOf value.typeId
  let mapping := entry.target .mpAssSubscript
  let sequence := entry.target .sqAssItem
  let handled ← Invocation.store perform mapping value key content?
  if handled || sequence.isAbsent then return handled
  else
    let place ← sequenceIndex perform value key
    Invocation.store perform sequence value (.int place) content?

def setItem (value key content : Value) : Action (World Host) Unit := do
  if ← storeItem perform value key (some content) then return ()
  else Action.failFor Error.noItemAssignment value

def deleteItem (value key : Value) : Action (World Host) Unit := do
  if ← storeItem perform value key none then return ()
  else Action.failFor Error.noItemDeletion value

end SlotDispatch.Protocol
