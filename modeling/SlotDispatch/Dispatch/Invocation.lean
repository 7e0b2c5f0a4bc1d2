import SlotDispatch.Builtin.Implementation
/-!
The invocation of targets. A target is invoked in one of several forms; each form calls the special
method that the target reaches, or the builtin operation at the end of the delegation, and says what
it means that neither is there.
-/

namespace SlotDispatch.Invocation

variable {Host : Type} (perform : Perform Host)

/-- A special method that is a function takes its receiver as the first argument, and every other
value is bound to the receiver before it is called. -/
def callSpecial (method receiver : Value) (arguments : List Value) : Action (World Host) Value :=
  match method with
  | .object _ (.function name code) => perform.apply name code (receiver :: arguments)
  | _ => do
      let bound ← perform.descriptorGet method (some receiver) receiver.typeId
      perform.call bound arguments

/-- An operation cannot be invoked in a form that is not its shape. -/
def mismatch {Result : Type} (operation : Builtin) (kind : SlotKind) :
    Action (World Host) Result :=
  Action.fail (.shapeMismatch operation.name operation.shape.name kind.name)

/-! ### Operators -/

/-- An operation without further operands gives a value, a truth value, or a length. -/
def builtinUnary (operation : Builtin) (operand : Value) : Action (World Host) Value :=
  match operation.implementation perform with
  | .unary run => Action.noted (.builtin operation) [operand] id (run operand)
  | .inquiry run =>
      Action.noted (.builtin operation) [operand] id (return .bool (run operand))
  | .length run =>
      Action.noted (.builtin operation) [operand] id (return .int (Int64.ofNat (run operand)))
  | _ => mismatch operation operation.kind

/-- A target without further operands calls its forward method. -/
def unary (target : SlotTarget) (operand : Value) : Action (World Host) Value :=
  match target.forward with
  | .method method => callSpecial perform method operand []
  | .builtin operation => builtinUnary perform operation operand
  | .blocked | .absent => return .notImplemented

/-- An operation on two operands takes no third operand but `None`. -/
def builtinTernary (operation : Builtin) (left right third : Value) :
    Action (World Host) Value :=
  match operation.implementation perform with
  | .ternary run =>
      Action.noted (.builtin operation) [left, right, third] id (run left right third)
  | .binary run =>
      if third.isNone then Action.noted (.builtin operation) [left, right] id (run left right)
      else mismatch operation operation.kind
  | _ => mismatch operation operation.kind

/-- Operands of two types that share one override are tried once from the left. When that declines,
the reflected method of the override is tried from the right, if the override still is the slot of
the right operand. -/
def sharedReflected (definition : Override) (left right : Value) : Action (World Host) Value :=
  if left.typeId = right.typeId || !definition.kind.isBinary then return .notImplemented
  else do
    let target ← Action.targetOf right definition.kind
    let isShared := match target with
      | .override other _ => other.isSame definition
      | _ => false
    match definition.kind.reflectedDunder?.map definition.binding, isShared with
    | some (.method method), true => callSpecial perform method right [left]
    | _, _ => return .notImplemented

/-- The third operand is an argument only when it is not `None`. -/
def operandArguments (other third : Value) : List Value :=
  if third.isNone then [other] else [other, third]

/-- A step from the left or for the third operand calls the forward method on the left operand, and
a step from the right calls the reflected method on the right operand. -/
def sideCall (target : SlotTarget) (side : Side) (left right third : Value) :
    Action (World Host) Value :=
  let reached := match side with
    | .right => target.reflected
    | .left | .third => target.forward
  match reached with
  | .method method =>
      match side with
      | .right => callSpecial perform method right (operandArguments left third)
      | .left | .third => callSpecial perform method left (operandArguments right third)
  | .builtin operation => builtinTernary perform operation left right third
  | .blocked | .absent => return .notImplemented

/-- A target is invoked for one side of two or three operands. An override has no reflected method
of three operands. -/
def ternary (target : SlotTarget) (side : Side) (left right third : Value) :
    Action (World Host) Value :=
  match target with
  | .override definition _ =>
      if side = .right && !third.isNone then return .notImplemented
      else do
        let result ← sideCall perform target side left right third
        if result.isNotImplemented && side = .left && third.isNone then
          sharedReflected perform definition left right
        else return result
  | _ => sideCall perform target side left right third

/-- A target is invoked for one side of two operands. -/
def binary (target : SlotTarget) (side : Side) (left right : Value) :
    Action (World Host) Value :=
  ternary perform target side left right .none

/-- A comparison asks the slot of the left operand alone. -/
def compare (target : SlotTarget) (operator : Comparison) (left right : Value) :
    Action (World Host) Value :=
  match target.reach operator.dunder with
  | .method method => callSpecial perform method left [right]
  | .builtin operation =>
      match operation.implementation perform with
      | .compare run =>
          Action.noted (.builtin operation) [left, right] id (run operator left right)
      | _ => mismatch operation .richCompare
  | .blocked | .absent => return .notImplemented

/-! ### Results of a fixed type -/

/-- A length is an integer that is not negative. -/
def lengthOf (result : Value) : Action (World Host) Nat :=
  match result.integer? with
  | none => Action.failFor Error.notInteger result
  | some number =>
      if number.toInt < 0 then Action.fail .negativeLength else return number.toInt.toNat

def length (target : SlotTarget) (operand : Value) : Action (World Host) Nat :=
  match target.reach "__len__" with
  | .method method => do lengthOf (← callSpecial perform method operand [])
  | .builtin operation =>
      match operation.implementation perform with
      | .length run =>
          Action.noted (.builtin operation) [operand] (fun size => .int (Int64.ofNat size))
            (return run operand)
      | .unary run => do
          lengthOf (← Action.noted (.builtin operation) [operand] id (run operand))
      | _ => mismatch operation operation.kind
  | .blocked | .absent => Action.failFor Error.noLength operand

/-- A truth test has to give a truth value. -/
def inquiry (target : SlotTarget) (operand : Value) : Action (World Host) Bool := do
  let result ← unary perform target operand
  match result with
  | .bool flag => return flag
  | _ => Action.failFor Error.truthNotBool result

/-- A hash has to be an integer, and the hash -1 is replaced. -/
def hash (target : SlotTarget) (operand : Value) : Action (World Host) Int64 := do
  let result ← unary perform target operand
  match result.integer? with
  | some number => return Hash.reserve number
  | none => Action.fail .hashNotInteger

/-! ### Sequences and stores -/

/-- Only builtin operations take a size, so overrides are passed by. -/
def size (operand : Value) (count : Int64) : SlotTarget → Action (World Host) Value
  | .absent => return .notImplemented
  | .builtin operation =>
      match operation.implementation perform with
      | .size run =>
          Action.noted (.builtin operation) [operand, .int count] id (run operand count)
      | _ => mismatch operation operation.kind
  | .override _ inherited => size operand count inherited

/-- A kind that stores has one special method for a store and one for a deletion. -/
def storeDunder? (isDeletion : Bool) (kind : SlotKind) : Option String :=
  kind.dunders[if isDeletion then 1 else 0]?

/-- A store without content is a deletion. The result tells whether the target handled it. -/
def store (target : SlotTarget) (receiver key : Value) (content? : Option Value) :
    Action (World Host) Bool :=
  match target.reachBy (storeDunder? content?.isNone) with
  | .method method => do
      let _ ← callSpecial perform method receiver (key :: content?.toList)
      return true
  | .builtin operation =>
      match operation.implementation perform with
      | .store run => do
          Action.noted (.builtin operation) (receiver :: key :: content?.toList)
            (fun _ => .none) (run receiver key content?)
          return true
      | _ => mismatch operation operation.kind
  | .blocked | .absent => return false

/-! ### Attributes, descriptors, and calls -/

/-- An attribute comes from the getter of the target. An override whose getter misses it asks its
attribute hook. -/
def getAttribute (value : Value) (name : String) : SlotTarget → Action (World Host) Value
  | .absent => Action.failFor (Error.attributeMissing · name) value
  | .builtin operation =>
      match operation.implementation perform with
      | .getAttr run => do
          Action.noted (.builtin operation) [value] id (run value name)
      | _ => mismatch operation .getAttr
  | .override definition inherited => do
      let outcome ← Action.attempt <|
        match definition.binding "__getattribute__" with
        | .method method => do
            callSpecial perform method value [← Action.text name]
        | .blocked | .inherited => getAttribute value name inherited
      match outcome, definition.binding "__getattr__" with
      | .error error, .method hook =>
          if error.kind.isAttributeMissing then do
            callSpecial perform hook value [← Action.text name]
          else Action.fail error
      | _, _ => Action.ofExcept outcome

/-- A store of an attribute without content is a deletion. -/
def setAttribute (target : SlotTarget) (value : Value) (name : String)
    (content? : Option Value) : Action (World Host) Unit :=
  match target.reach (if content?.isSome then "__setattr__" else "__delattr__") with
  | .method method => do
      let text ← Action.text name
      let _ ← callSpecial perform method value (text :: content?.toList)
  | .builtin operation =>
      match operation.implementation perform with
      | .setAttr run =>
          Action.noted (.builtin operation) (value :: content?.toList) (fun _ => .none)
            (run value name content?)
      | _ => mismatch operation .setAttr
  | .blocked => Action.failFor (Error.readOnlyAttribute · name) value
  | .absent => Action.failFor (Error.noAttributes · name) value

/-- A descriptor without a getter is its own result. -/
def descriptorGet (target : SlotTarget) (descriptor : Value) (instance? : Option Value)
    (owner : TypeId) : Action (World Host) Value :=
  match target.reach "__get__" with
  | .method method => do
      let ownerObject ← Action.typeObject owner
      callSpecial perform method descriptor [instance?.getD .none, ownerObject]
  | .builtin operation =>
      match operation.implementation perform with
      | .simpleDescrGet run =>
          Action.noted (.builtin operation) (descriptor :: instance?.toList) id
            (run descriptor instance?)
      | .descrGet run =>
          Action.noted (.builtin operation) (descriptor :: instance?.toList) id
            (run descriptor instance? owner)
      | _ => mismatch operation .descrGet
  | .blocked | .absent => return descriptor

def call (target : SlotTarget) (callee : Value) (arguments : List Value) :
    Action (World Host) Value :=
  match target.reach "__call__" with
  | .method method => callSpecial perform method callee arguments
  | .builtin operation =>
      match operation.implementation perform with
      | .call run =>
          Action.noted (.builtin operation) (callee :: arguments) id (run callee arguments)
      | _ => mismatch operation .call
  | .blocked | .absent => Action.failFor Error.notCallable callee

end SlotDispatch.Invocation
