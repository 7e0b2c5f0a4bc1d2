import SlotDispatch.Machine.Request
/-!
The operations of `function`, `method`, `property`, and `iterator`, which bind, call, and step.
-/

namespace SlotDispatch.Builtin

variable {Host : Type}

/-! ### Functions and bound methods -/

/-- A function binds the instance it is taken from, and it stays itself when it is taken from a
class. -/
def bindFunction (function : Value) (instance? : Option Value) : Action (World Host) Value :=
  match instance? with
  | none | some .none => return function
  | some receiver => Action.allocate .method (.boundMethod function receiver) false

def callFunction (perform : Perform Host) (callee : Value) (arguments : List Value) :
    Action (World Host) Value :=
  match callee with
  | .object _ (.function name code) => perform.apply name code arguments
  | _ => Action.failFor Error.notFunction callee

/-- A value without the data of its type is shown by the name of its type. -/
def displayPlain (value : Value) : Action (World Host) Value := do
  let typeName ← Action.typeName value
  Action.text s!"<{typeName} object>"

def displayFunction (value : Value) : Action (World Host) Value :=
  match value with
  | .object _ (.function name _) => Action.text s!"<function {name}>"
  | _ => displayPlain value

/-- A bound method calls its function with its receiver in front of the arguments. -/
def callMethod (perform : Perform Host) (callee : Value) (arguments : List Value) :
    Action (World Host) Value :=
  match callee with
  | .object _ (.boundMethod function receiver) => perform.call function (receiver :: arguments)
  | _ => Action.failFor Error.notBoundMethod callee

def displayMethod (perform : Perform Host) (value : Value) : Action (World Host) Value :=
  match value with
  | .object _ (.boundMethod function receiver) => do
      let name := match function with
        | .object _ (.function name _) => name
        | _ => "?"
      let shown ← perform.repr receiver
      Action.text s!"<bound method {name} of {shown}>"
  | _ => displayPlain value

/-! ### Properties -/

/-- These are the getter and the setter of a property. -/
def accessors (property : Value) : Action (World Host) (Option Value × Option Value) :=
  match property with
  | .object _ (.property getter setter) => return (getter, setter)
  | _ => Action.failFor (Error.wrongDescriptor "property") property

/-- A property calls its getter on an instance, and it stays itself when taken from a class. -/
def getProperty (perform : Perform Host) (property : Value) (instance? : Option Value) :
    Action (World Host) Value := do
  let (getter?, _) ← accessors property
  match instance?, getter? with
  | none, _ => return property
  | some receiver, some getter => perform.call getter [receiver]
  | some receiver, none => Action.failFor (Error.propertyWithout · "getter") receiver

/-- A property calls its setter, and it never deletes. -/
def setProperty (perform : Perform Host) (property receiver : Value) (content? : Option Value) :
    Action (World Host) Unit := do
  let (_, setter?) ← accessors property
  match content?, setter? with
  | none, _ => Action.failFor (Error.propertyWithout · "deleter") receiver
  | some content, some setter => do
      let _ ← perform.call setter [receiver, content]
  | some _, none => Action.failFor (Error.propertyWithout · "setter") receiver

/-! ### Iterators -/

/-- An iterator gives the first of its remaining items, and it fails when none remains. -/
def stepIterator (iterator : Value) : Action (World Host) Value :=
  match iterator with
  | .object _ (.iterator _) => do
      let world ← Action.current
      match world.heap.remainingOf iterator with
      | item :: rest => do
          Action.changeHeap fun heap => heap.setRemaining iterator rest
          return item
      | [] => Action.fail .stopIteration
  | _ => Action.failFor Error.notIterator iterator

end SlotDispatch.Builtin
