import SlotDispatch.Machine.World
import SlotDispatch.Slot.Comparison
/-!
Requests are the operations that a machine offers, and each request has a type of replies. Code of
the host is a tree of requests, and builtin operations make requests of the machine that runs them.
-/

namespace SlotDispatch

/-- A request asks the machine for one operation. There are requests for calls, operators, containers,
conversions, iteration, attributes and descriptors, slots, types, and objects. -/
inductive Request where
  | apply (name : String) (code : Nat) (arguments : List Value)
  | call (callee : Value) (arguments : List Value)
  | callSpecial (method receiver : Value) (arguments : List Value)
  | unary (kind : SlotKind) (operand : Value)
  | binary (kind : SlotKind) (left right : Value)
  | ternary (kind : SlotKind) (left right third : Value)
  | inPlace (kind : SlotKind) (left right : Value)
  | compare (operator : Comparison) (left right : Value)
  | compareTruth (operator : Comparison) (left right : Value)
  | newSite (kind : SlotKind)
  | cached (site : Nat) (left right : Value)
  | recordPlan (site : Nat) (key : CacheKey) (plan : Plan) (capacity : Nat)
  | length (value : Value)
  | getItem (value key : Value)
  | setItem (value key item : Value)
  | deleteItem (value key : Value)
  | hash (value : Value)
  | truth (value : Value)
  | index (value : Value)
  | integer (value : Value)
  | float (value : Value)
  | repr (value : Value)
  | iter (value : Value)
  | next (iterator : Value)
  | collect (value : Value)
  | drain (iterator : Value)
  | getAttribute (value : Value) (name : String)
  | setAttribute (value : Value) (name : String) (content : Value)
  | deleteAttribute (value : Value) (name : String)
  | descriptorGet (descriptor : Value) (instance? : Option Value) (owner : TypeId)
  | descriptorSet (descriptor receiver : Value) (content? : Option Value)
  | hasSlot (value : Value) (kind : SlotKind)
  | target (id : TypeId) (kind : SlotKind)
  | invokeUnary (target : SlotTarget) (operand : Value)
  | invokeTernary (target : SlotTarget) (side : Side) (left right third : Value)
  | invokeCompare (target : SlotTarget) (operator : Comparison) (left right : Value)
  | invokeLength (target : SlotTarget) (operand : Value)
  | invokeInquiry (target : SlotTarget) (operand : Value)
  | invokeHash (target : SlotTarget) (operand : Value)
  | invokeSize (target : SlotTarget) (operand : Value) (size : Int64)
  | invokeStore (target : SlotTarget) (receiver key : Value) (content? : Option Value)
  | invokeGetAttribute (target : SlotTarget) (value : Value) (name : String)
  | invokeSetAttribute (target : SlotTarget) (value : Value) (name : String)
      (content? : Option Value)
  | invokeDescriptorGet (target : SlotTarget) (descriptor : Value)
      (instance? : Option Value) (owner : TypeId)
  | invokeCall (target : SlotTarget) (callee : Value) (arguments : List Value)
  | createType (name : String) (bases : List TypeId) (attributes : Namespace)
  | setTypeAttribute (id : TypeId) (name : String) (content : Value)
  | deleteTypeAttribute (id : TypeId) (name : String)
  | setBases (id : TypeId) (bases : List TypeId)
  | invalidate (id : TypeId)
  | newInstance (id : TypeId) (arguments : List Value)
  | typeObject (id : TypeId)
  | nameOf (id : TypeId)
  | isSubtype (sub base : TypeId)
  | lookup (id : TypeId) (name : String)
  | ownAttribute (id : TypeId) (name : String)
  | allocate (typeId : TypeId) (data : Data Value) (hasDictionary : Bool)
  | position (iterator : Value)

/-- This is the type of the replies to a request. -/
def Request.Reply : Request → Type
  | .compareTruth _ _ _ | .truth _ | .hasSlot _ _ | .invokeInquiry _ _ | .invokeStore _ _ _ _
  | .isSubtype _ _ => Bool
  | .newSite _ | .length _ | .invokeLength _ _ | .position _ => Nat
  | .hash _ | .index _ | .integer _ | .invokeHash _ _ => Int64
  | .float _ => Binary64
  | .repr _ | .nameOf _ => String
  | .next _ | .lookup _ _ | .ownAttribute _ _ => Option Value
  | .collect _ | .drain _ => List Value
  | .setItem _ _ _ | .deleteItem _ _ | .setAttribute _ _ _ | .deleteAttribute _ _
  | .descriptorSet _ _ _ | .invokeSetAttribute _ _ _ _ | .setTypeAttribute _ _ _
  | .deleteTypeAttribute _ _ | .setBases _ _ | .invalidate _ | .recordPlan _ _ _ _ => Unit
  | .createType _ _ _ => TypeId
  | .target _ _ => SlotTarget
  | _ => Value

/-- A perform function answers requests. Builtin operations and slots receive one and use it for
every request that may run code of the host. -/
abbrev Perform (Host : Type) : Type :=
  (request : Request) → Action (World Host) request.Reply

namespace Perform

variable {Host : Type} (perform : Perform Host)

/-- This request runs a function of the host. -/
def apply (name : String) (code : Nat) (arguments : List Value) : Action (World Host) Value :=
  perform (.apply name code arguments)

/-- This request calls a value. -/
def call (callee : Value) (arguments : List Value) : Action (World Host) Value :=
  perform (.call callee arguments)

/-- This request compares two values. -/
def compare (operator : Comparison) (left right : Value) : Action (World Host) Value :=
  perform (.compare operator left right)

/-- This request compares two values and takes the truth of the result. -/
def compareTruth (operator : Comparison) (left right : Value) : Action (World Host) Bool :=
  perform (.compareTruth operator left right)

/-- This request takes the hash of a value. -/
def hash (value : Value) : Action (World Host) Int64 :=
  perform (.hash value)

/-- This request takes the truth of a value. -/
def truth (value : Value) : Action (World Host) Bool :=
  perform (.truth value)

/-- This request converts a value to an index. -/
def index (value : Value) : Action (World Host) Int64 :=
  perform (.index value)

/-- This request converts a value to an integer. -/
def integer (value : Value) : Action (World Host) Int64 :=
  perform (.integer value)

/-- This request converts a value to a binary64 number. -/
def float (value : Value) : Action (World Host) Binary64 :=
  perform (.float value)

/-- This request takes the text form of a value. -/
def repr (value : Value) : Action (World Host) String :=
  perform (.repr value)

/-- This request collects the items of a value. -/
def collect (value : Value) : Action (World Host) (List Value) :=
  perform (.collect value)

/-- This request collects the items that an iterator still has. -/
def drain (iterator : Value) : Action (World Host) (List Value) :=
  perform (.drain iterator)

/-- This request binds a descriptor. -/
def descriptorGet (descriptor : Value) (instance? : Option Value) (owner : TypeId) :
    Action (World Host) Value :=
  perform (.descriptorGet descriptor instance? owner)

/-- This request stores through a descriptor. -/
def descriptorSet (descriptor receiver : Value) (content? : Option Value) :
    Action (World Host) Unit :=
  perform (.descriptorSet descriptor receiver content?)

/-- This request calls a special method on its receiver. -/
def callSpecial (method receiver : Value) (arguments : List Value) : Action (World Host) Value :=
  perform (.callSpecial method receiver arguments)

/-- This request asks the comparison slot of the left operand. -/
def invokeCompare (target : SlotTarget) (operator : Comparison) (left right : Value) :
    Action (World Host) Value :=
  perform (.invokeCompare target operator left right)

end Perform

end SlotDispatch
