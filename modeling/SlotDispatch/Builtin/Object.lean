import SlotDispatch.Machine.Request
/-!
The operations of `object`, which every type inherits: generic attribute access, identity, and a
plain text form, together with the operations of the two single values.
-/

namespace SlotDispatch.Builtin.Object

variable {Host : Type}

/-- An attribute comes from a data descriptor of the type, or else from the dictionary of the
object, or else from the type. -/
def getAttribute (perform : Perform Host) (value : Value) (name : String) :
    Action (World Host) Value := do
  let owner := value.typeId
  let classAttribute? ← Action.lookup owner name
  let isData ← match classAttribute? with
    | some descriptor => Action.hasSlot descriptor .descrSet
    | none => pure false
  match isData, classAttribute? with
  | true, some descriptor => perform.descriptorGet descriptor (some value) owner
  | _, _ => do
      let dictionary? ← Action.reading fun world => world.heap.dictionary? value
      match dictionary?.bind (Table.get? · name), classAttribute? with
      | some content, _ => return content
      | none, some descriptor => perform.descriptorGet descriptor (some value) owner
      | none, none => Action.failFor (Error.attributeMissing · name) value

/-- A store goes to a data descriptor of the type, or else into the dictionary of the object. A
store without content is a deletion. -/
def setAttribute (perform : Perform Host) (value : Value) (name : String)
    (content? : Option Value) : Action (World Host) Unit := do
  let classAttribute? ← Action.lookup value.typeId name
  let isData ← match classAttribute? with
    | some descriptor => Action.hasSlot descriptor .descrSet
    | none => pure false
  match isData, classAttribute? with
  | true, some descriptor => perform.descriptorSet descriptor value content?
  | _, _ => do
      let dictionary? ← Action.reading fun world => world.heap.dictionary? value
      match dictionary?, content? with
      | some dictionary, some content =>
          Action.changeHeap fun heap => heap.setDictionary value (dictionary.insert name content)
      | some dictionary, none =>
          if dictionary.contains name then
            Action.changeHeap fun heap => heap.setDictionary value (dictionary.erase name)
          else Action.failFor (Error.attributeMissing · name) value
      | none, _ => Action.failFor (Error.attributeMissing · name) value

/-- The hash of an object is its place, and the other values have fixed hashes. -/
def hash (value : Value) : Action (World Host) Value :=
  return .int (match value with
    | .int number => number
    | .float number => number.bits.toInt64
    | .bool flag => if flag then 1 else 0
    | .none => 0x5f3759df
    | .notImplemented => 0x2545f491
    | .object ⟨.typeObject id, _⟩ _ => Int64.ofNat id
    | .object ⟨.allocated place, _⟩ _ => Int64.ofNat place)

/-- Equality is identity and declines otherwise, inequality negates the equality of the type of the
left operand, and there is no order. -/
def compare (perform : Perform Host) (operator : Comparison) (left right : Value) :
    Action (World Host) Value :=
  match operator with
  | .eq => return if left.isSame right then .bool true else .notImplemented
  | .ne => do
      let target ← Action.targetOf left .richCompare
      let equal ← perform.invokeCompare target .eq left right
      if equal.isNotImplemented then return equal
      else return .bool (!(← perform.truth equal))
  | _ => return .notImplemented

def repr (value : Value) : Action (World Host) Value := do
  let typeName ← Action.typeName value
  Action.text s!"<{typeName} object>"

/-- The value `None` is false. -/
def noneTruth (_ : Value) : Bool := false

def noneRepr (_ : Value) : Action (World Host) Value :=
  Action.text "None"

def notImplementedRepr (_ : Value) : Action (World Host) Value :=
  Action.text "NotImplemented"

end SlotDispatch.Builtin.Object
