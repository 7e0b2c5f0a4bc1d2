import SlotDispatch.Hash
import SlotDispatch.Machine.Request
import SlotDispatch.Sequence
/-!
The operations of `tuple`. Comparison, hash, and text form of a tuple ask its items for theirs.
-/

namespace SlotDispatch.Builtin.Tuple

variable {Host : Type}

/-- These are the items of the receiver of a special method. -/
def receiver (dunder : String) (value : Value) : Action (World Host) (List Value) :=
  match value.items? with
  | some items => return items
  | none => Action.failFor (Error.wrongReceiver dunder "tuple") value

/-- The right operand of a concatenation has to be a tuple, too. -/
def concat (left right : Value) : Action (World Host) Value := do
  let items ← receiver "__add__" left
  match right.items? with
  | some appended => Action.tuple (items ++ appended)
  | none => Action.failFor (Error.cannotConcatenate "tuple") right

/-- A repetition by a negative number is empty, and so is a repetition of the empty tuple. -/
def repetition (value : Value) (count : Int64) : Action (World Host) Value := do
  let items ← receiver "__mul__" value
  if count.toInt ≤ 0 || items.isEmpty then Action.tuple []
  else
    let world ← Action.current
    let length ← Action.ofExcept (Sequence.repeatLength world.configuration.maxSequenceBytes
      items.length count.toInt.toNat Sequence.itemSize "tuple")
    Action.ofExcept (Sequence.reserve world.configuration.hasMemory
      (length * Sequence.itemSize) "tuple")
    Action.tuple (List.replicate count.toInt.toNat items).flatten

def length (value : Value) : Action (World Host) Value := do
  return .int (Int64.ofNat (← receiver "__len__" value).length)

def item (value : Value) (index : Int64) : Action (World Host) Value := do
  let items ← receiver "__getitem__" value
  match (Sequence.normalizeIndex index.toInt items.length).bind (items[·]?) with
  | some item => return item
  | none => Action.fail (.indexOutOfRange "tuple")

/-- The first items that are not equal decide a comparison, and the lengths decide it when one tuple
is used up. -/
def compareItems (perform : Perform Host) (operator : Comparison) :
    List Value → List Value → Action (World Host) Value
  | left :: lefts, right :: rights => do
      if ← perform.compareTruth .eq left right then
        compareItems perform operator lefts rights
      else
        match operator with
        | .eq => return .bool false
        | .ne => return .bool true
        | _ => perform.compare operator left right
  | lefts, rights => return .bool (operator.holds (Ord.compare lefts.length rights.length))

def compare (perform : Perform Host) (operator : Comparison) (left right : Value) :
    Action (World Host) Value :=
  match left.items?, right.items? with
  | some lefts, some rights => compareItems perform operator lefts rights
  | _, _ => return .notImplemented

def hash (perform : Perform Host) (value : Value) : Action (World Host) Value := do
  let items ← receiver "__hash__" value
  return .int (Hash.tuple (← items.mapM perform.hash))

def iter (value : Value) : Action (World Host) Value := do
  Action.iterator (← receiver "__iter__" value)

/-- One item is followed by a comma, and several items are separated by commas. -/
def display : List String → String
  | [item] => "(" ++ item ++ ",)"
  | items => "(" ++ String.intercalate ", " items ++ ")"

def repr (perform : Perform Host) (value : Value) : Action (World Host) Value := do
  let items ← receiver "__repr__" value
  Action.text (display (← items.mapM perform.repr))

end SlotDispatch.Builtin.Tuple
