import SlotDispatch.Dispatch.Operator
import SlotDispatch.Machine.Body
import SlotDispatch.Protocol.Attribute
import SlotDispatch.Protocol.Container
import SlotDispatch.Protocol.Iteration
/-!
The machine answers requests. Each request is answered by one operation of the library, and the
operation hands the requests that it makes in turn to a machine of smaller depth. The main
statements say that a machine of no depth answers nothing, and how a deeper one answers.
-/

namespace SlotDispatch

variable {Host : Type}

namespace Machine

/-- A new type is registered under the next type id. -/
def createType (name : String) (bases : List TypeId) (attributes : Namespace) :
    Action (World Host) TypeId :=
  Action.onRegistry (TypeChange.create name bases attributes)

/-- A new call site takes the next place among the call sites. -/
def newSite (kind : SlotKind) : Action (World Host) Nat := do
  let world ← Action.current
  Action.change fun world => { world with sites := world.sites ++ [.new kind] }
  return world.sites.length

/-- A call site that exists is given a plan to remember. -/
def recordPlan (site : Nat) (key : CacheKey) (plan : Plan) (capacity : Nat) :
    Action (World Host) Unit := do
  let world ← Action.current
  if site < world.sites.length then Operator.recordAt site key plan capacity
  else Action.fail (.unknownSite site)

/-- A function of the host runs the body that the program gives it. -/
def apply (program : Program Host) (perform : Perform Host) (name : String) (code : Nat)
    (arguments : List Value) : Action (World Host) Value :=
  Action.noted (.function name code) arguments id ((program code arguments).run perform)

/-- One request is answered by one operation, which hands its own requests to a perform function. -/
def answer (program : Program Host) (perform : Perform Host) : Perform Host
  | .apply name code arguments => apply program perform name code arguments
  | .call callee arguments => Protocol.call perform callee arguments
  | .callSpecial method receiver arguments =>
      Invocation.callSpecial perform method receiver arguments
  | .unary kind operand => Operator.unary perform kind operand
  | .binary kind left right => Operator.binary perform kind left right
  | .ternary kind left right third => Operator.ternary perform kind left right third
  | .inPlace kind left right => Operator.inPlace perform kind left right
  | .compare operator left right => Operator.compare perform operator left right
  | .compareTruth operator left right => Operator.compareTruth perform operator left right
  | .newSite kind => newSite kind
  | .cached site left right => Operator.cached perform site left right
  | .recordPlan site key plan capacity => recordPlan site key plan capacity
  | .length value => Protocol.length perform value
  | .getItem value key => Protocol.getItem perform value key
  | .setItem value key item => Protocol.setItem perform value key item
  | .deleteItem value key => Protocol.deleteItem perform value key
  | .hash value => Protocol.hash perform value
  | .truth value => Protocol.truth perform value
  | .index value => Protocol.index perform value
  | .integer value => Protocol.integer perform value
  | .float value => Protocol.float perform value
  | .repr value => Protocol.repr perform value
  | .iter value => Protocol.iter perform value
  | .next iterator => Protocol.next perform iterator
  | .collect value => Protocol.collect perform value
  | .drain iterator => Protocol.drain perform iterator
  | .getAttribute value name => Protocol.getAttribute perform value name
  | .setAttribute value name content => Protocol.setAttribute perform value name (some content)
  | .deleteAttribute value name => Protocol.setAttribute perform value name none
  | .descriptorGet descriptor instance? owner =>
      Protocol.descriptorGet perform descriptor instance? owner
  | .descriptorSet descriptor receiver content? =>
      Protocol.descriptorSet perform descriptor receiver content?
  | .hasSlot value kind => Action.hasSlot value kind
  | .target id kind => do return (← Action.entryOf id).target kind
  | .invokeUnary target operand => Invocation.unary perform target operand
  | .invokeTernary target side left right third =>
      Invocation.ternary perform target side left right third
  | .invokeCompare target operator left right =>
      Invocation.compare perform target operator left right
  | .invokeLength target operand => Invocation.length perform target operand
  | .invokeInquiry target operand => Invocation.inquiry perform target operand
  | .invokeHash target operand => Invocation.hash perform target operand
  | .invokeSize target operand size => Invocation.size perform operand size target
  | .invokeStore target receiver key content? =>
      Invocation.store perform target receiver key content?
  | .invokeGetAttribute target value name => Invocation.getAttribute perform value name target
  | .invokeSetAttribute target value name content? =>
      Invocation.setAttribute perform target value name content?
  | .invokeDescriptorGet target descriptor instance? owner =>
      Invocation.descriptorGet perform target descriptor instance? owner
  | .invokeCall target callee arguments => Invocation.call perform target callee arguments
  | .createType name bases attributes => createType name bases attributes
  | .setTypeAttribute id name content =>
      Action.onRegistry (TypeChange.assign id name content)
  | .deleteTypeAttribute id name => Action.onRegistry (TypeChange.delete id name)
  | .setBases id bases => Action.onRegistry (TypeChange.rebase id bases)
  | .invalidate id => Action.onRegistry (TypeChange.invalidate id)
  | .newInstance id arguments => Protocol.newInstance perform id arguments
  | .typeObject id => Action.typeObject id
  | .nameOf id => Action.reading fun world => world.registry.nameOf id
  | .isSubtype sub base => Action.reading fun world => world.registry.isSubtype sub base
  | .lookup id name => Action.lookup id name
  | .ownAttribute id name => do return (← Action.definition id).attributes.get? name
  | .allocate typeId data hasDictionary => Action.allocate typeId data hasDictionary
  | .position iterator => Action.reading fun world => world.heap.position iterator

/-- A machine answers requests that are nested at most as deep as its depth. -/
def perform (program : Program Host) : Nat → Perform Host
  | 0 => fun _ => Action.exhausted
  | depth + 1 => answer program (perform program depth)

@[simp] theorem perform_succ (program : Program Host) (depth : Nat) :
    perform program (depth + 1) = answer program (perform program depth) := rfl

end Machine

end SlotDispatch
