import SlotDispatch.Number.Binary64
import SlotDispatch.Number.Word
/-!
Values of the machine. Numbers and the three single values stand for themselves, and every other
value is an object with an identity, a type, and data.
-/

namespace SlotDispatch

/-- A type is known by its place in the registry, and the registry has places for ids of 16 bits. -/
abbrev TypeId := Nat

namespace TypeId

def object : TypeId := 0
def type : TypeId := 1
def noneType : TypeId := 2
def notImplementedType : TypeId := 3
def int : TypeId := 4
def bool : TypeId := 5
def float : TypeId := 6
def str : TypeId := 7
def tuple : TypeId := 8
def function : TypeId := 9
def method : TypeId := 10
def property : TypeId := 11
def iterator : TypeId := 12

end TypeId

/-- Each type has one type object, and every other object has a place of its own. -/
inductive Reference where
  | typeObject (id : TypeId)
  | allocated (place : Nat)
deriving DecidableEq, Repr

/-- A header gives the identity and the type of an object. -/
structure Header where
  reference : Reference
  typeId : TypeId
deriving DecidableEq, Repr

/-- These are the data of an object, over the values that it holds. -/
inductive Data (Element : Type) where
  | text (content : String)
  | int (number : Int64)
  | float (number : Binary64)
  | tuple (items : List Element)
  | function (name : String) (code : Nat)
  | boundMethod (function receiver : Element)
  | property (getter setter : Option Element)
  | typeObject (id : TypeId)
  | plain
  | iterator (items : List Element)

/-- A value is a number, one of the single values, or an object. -/
inductive Value where
  | int (number : Int64)
  | float (number : Binary64)
  | bool (flag : Bool)
  | none
  | notImplemented
  | object (header : Header) (data : Data Value)

instance : Inhabited Value := ⟨.none⟩

namespace Value

/-- This is the type of the value. -/
def typeId : Value → TypeId
  | .int _ => .int
  | .float _ => .float
  | .bool _ => .bool
  | .none => .noneType
  | .notImplemented => .notImplementedType
  | .object header _ => header.typeId

/-- This test tells the single value `None`. -/
def isNone : Value → Bool
  | .none => true
  | _ => false

/-- This test tells the value with which a slot declines. -/
def isNotImplemented : Value → Bool
  | .notImplemented => true
  | _ => false

/-- Two values are identical when they are the same number, the same single value, or objects of
one identity. -/
def isSame : Value → Value → Bool
  | .int left, .int right => left = right
  | .float left, .float right => left = right
  | .bool left, .bool right => left = right
  | .none, .none => true
  | .notImplemented, .notImplemented => true
  | .object left _, .object right _ => left.reference = right.reference
  | _, _ => false

mutual

/-- Two values are alike when they are identical, equal numbers, or objects with alike data, where
only texts, tuples, and type objects have alike data. -/
def alike : Value → Value → Bool
  | .int left, .int right => left = right
  | .float left, .float right => left.equals right
  | .bool left, .bool right => left = right
  | .none, .none => true
  | .notImplemented, .notImplemented => true
  | .object left (.text leftContent), .object right rightData =>
      left.reference = right.reference ||
        match rightData with
        | .text rightContent => leftContent = rightContent
        | _ => false
  | .object left (.tuple leftItems), .object right rightData =>
      left.reference = right.reference ||
        match rightData with
        | .tuple rightItems => alikeItems leftItems rightItems
        | _ => false
  | .object left (.typeObject leftId), .object right rightData =>
      left.reference = right.reference ||
        match rightData with
        | .typeObject rightId => leftId = rightId
        | _ => false
  | .object left _, .object right _ => left.reference = right.reference
  | _, _ => false
termination_by structural value => value

/-- Two lists of values are alike when they have one length and alike items. -/
def alikeItems : List Value → List Value → Bool
  | [], [] => true
  | left :: lefts, right :: rights => alike left right && alikeItems lefts rights
  | _, _ => false
termination_by structural values => values

end

/-- This is the integer that an integer slot accepts: an integer, a truth value, or an object with
integer data. -/
def integer? : Value → Option Int64
  | .int number => some number
  | .bool flag => some (if flag then 1 else 0)
  | .object _ (.int number) => some number
  | _ => Option.none

/-- This is the number of a float or of an object with float data. -/
def ownNumber? : Value → Option Binary64
  | .float number => some number
  | .object _ (.float number) => some number
  | _ => Option.none

/-- This is the number that a float slot accepts, where integers are converted. -/
def number? (value : Value) : Option Binary64 :=
  value.ownNumber?.or (value.integer?.map fun number => Binary64.ofInt number.toInt)

/-- This is the text of an object with text data. -/
def text? : Value → Option String
  | .object _ (.text content) => some content
  | _ => Option.none

/-- These are the items of an object with tuple data. -/
def items? : Value → Option (List Value)
  | .object _ (.tuple items) => some items
  | _ => Option.none

/-- This is the type that a type object stands for. -/
def typeObject? : Value → Option TypeId
  | .object _ (.typeObject id) => some id
  | _ => Option.none

/-- This is the place of an allocated object. -/
def place? : Value → Option Nat
  | .object ⟨.allocated place, _⟩ _ => some place
  | _ => Option.none

/-- This is the one type object of a type. -/
def ofType (id : TypeId) : Value :=
  .object ⟨.typeObject id, .type⟩ (.typeObject id)

end Value

end SlotDispatch
