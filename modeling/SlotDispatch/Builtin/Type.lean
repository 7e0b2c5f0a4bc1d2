import SlotDispatch.Machine.Request
import SlotDispatch.Number.Literal
import SlotDispatch.Sequence
/-!
The operations of `type`: attributes of classes, and calls of classes, which convert values or make
instances.
-/

namespace SlotDispatch.Builtin.Type

variable {Host : Type}

/-- This is the type that the receiver stands for. -/
def receiver (value : Value) : Action (World Host) TypeId :=
  match value.typeObject? with
  | some id => return id
  | none => Action.failFor (Error.wrongDescriptor "type") value

/-- Three attributes of a class describe the class itself, and all others are looked up along its
linearization and bound without an instance. -/
def getAttribute (perform : Perform Host) (value : Value) (name : String) :
    Action (World Host) Value := do
  let id ← receiver value
  let definition ← Action.definition id
  if name = "__name__" then Action.text definition.name
  else if name = "__mro__" then
    Action.tuple (← definition.linearization.mapM Action.typeObject)
  else if name = "__bases__" then
    Action.tuple (← definition.bases.mapM Action.typeObject)
  else
    match ← Action.lookup id name with
    | some content => perform.descriptorGet content none id
    | none => Action.fail (.typeAttributeMissing definition.name name)

/-- A store into a class changes the type. -/
def setAttribute (value : Value) (name : String) (content? : Option Value) :
    Action (World Host) Unit := do
  let id ← receiver value
  match content? with
  | some content => Action.onRegistry (TypeChange.assign id name content)
  | none => Action.onRegistry (TypeChange.delete id name)

/-- A text is read as an integer literal, and every other value is converted. -/
def toInteger (perform : Perform Host) (value : Value) : Action (World Host) Int64 :=
  match value.text? with
  | some content =>
      match (Literal.integer? content).bind Word.ofInt? with
      | some number => return number
      | none => Action.fail (.invalidIntegerLiteral content)
  | none => perform.integer value

/-- A text is read as a number literal, and every other value is converted. -/
def toFloat (perform : Perform Host) (value : Value) : Action (World Host) Binary64 :=
  match value.text? with
  | some content =>
      match Literal.number? content with
      | some number => return number
      | none => Action.fail (.invalidFloatLiteral content)
  | none => perform.float value

/-- A wrong number of arguments is an error. -/
def rejectArguments (name : String) (arguments : List Value) (expected : Nat) :
    Action (World Host) Value := do
  Action.ofExcept (Sequence.checkArity name arguments expected)
  return .none

/-- A class that takes at most one argument has a value for none, and converts one. -/
def convert (name : String) (arguments : List Value) (empty : Action (World Host) Value)
    (one : Value → Action (World Host) Value) : Action (World Host) Value :=
  match arguments with
  | [] => empty
  | [value] => one value
  | _ => rejectArguments name arguments 1

/-- A text converts to itself, and every other value to its text form. -/
def toText (perform : Perform Host) (value : Value) : Action (World Host) Value :=
  match value.text? with
  | some _ => return value
  | none => do Action.text (← perform.repr value)

/-- Instances of a class that extends a number type hold the number of the first argument. -/
def instanceData (perform : Perform Host) (linearization : List TypeId)
    (arguments : List Value) : Action (World Host) (Data Value) :=
  if linearization.contains .int then do
    return .int (← arguments.head?.elim (pure 0) (toInteger perform))
  else if linearization.contains .float then do
    return .float (← arguments.head?.elim (pure .zero) (toFloat perform))
  else return .plain

/-- Plain data hold no number. -/
def isPlain (data : Data Value) : Bool :=
  match data with
  | .plain => true
  | _ => false

/-- A class makes an instance with an empty dictionary and initializes it. -/
def instantiate (perform : Perform Host) (id : TypeId) (arguments : List Value) :
    Action (World Host) Value := do
  let definition ← Action.definition id
  if !definition.isHeap then
    Action.fail (.notInstantiable definition.name)
  else
    let data ← instanceData perform definition.linearization arguments
    let made ← Action.allocate id data true
    let initializer? ← Action.lookup id "__init__"
    match initializer?.filter (!·.isNone) with
    | some initializer => do
        let result ← perform.callSpecial initializer made arguments
        if result.isNone then return made
        else Action.failFor Error.initResultNotNone result
    | none =>
        if !arguments.isEmpty && isPlain data then
          Action.fail (.takesNoArguments definition.name)
        else return made

/-- A property is made of a getter and a setter, where `None` stands for neither. -/
def makeProperty (arguments : List Value) : Action (World Host) Value :=
  if 2 < arguments.length then rejectArguments "property" arguments 2
  else
    let accessor (place : Nat) : Option Value := arguments[place]?.filter (!·.isNone)
    Action.allocate .property (.property (accessor 0) (accessor 1)) false

/-- A call of a builtin class makes or converts a value, and a call of any other class makes an
instance. -/
def call (perform : Perform Host) (value : Value) (arguments : List Value) :
    Action (World Host) Value := do
  let id ← receiver value
  if id = .type then
    match arguments with
    | [argument] => Action.typeObject argument.typeId
    | _ => rejectArguments "type" arguments 1
  else if id = .object then
    if arguments.isEmpty then Action.allocate .object .plain false
    else rejectArguments "object" arguments 0
  else if id = .int then
    convert "int" arguments (return .int 0) fun argument => do
      return .int (← toInteger perform argument)
  else if id = .float then
    convert "float" arguments (return .float .zero) fun argument => do
      return .float (← toFloat perform argument)
  else if id = .bool then
    convert "bool" arguments (return .bool false) fun argument => do
      return .bool (← perform.truth argument)
  else if id = .str then
    convert "str" arguments (Action.text "") (toText perform)
  else if id = .tuple then
    convert "tuple" arguments (Action.tuple []) fun argument => do
      Action.tuple (← perform.collect argument)
  else if id = .property then makeProperty arguments
  else instantiate perform id arguments

def repr (value : Value) : Action (World Host) Value := do
  let id ← receiver value
  let name ← Action.reading fun world => world.registry.nameOf id
  Action.text s!"<class '{name}'>"

end SlotDispatch.Builtin.Type
