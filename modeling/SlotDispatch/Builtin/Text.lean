import SlotDispatch.Hash
import SlotDispatch.Machine.Request
import SlotDispatch.Sequence
import SlotDispatch.Text.Quoted
/-!
The operations of `str`. The items of a text are its characters, its order is the order of the
characters by code point, and its size counts the bytes of its encoding in UTF-8.
-/

namespace SlotDispatch.Builtin.Text

variable {Host : Type}

/-- This is the text of the receiver of a special method. -/
def receiver (dunder : String) (value : Value) : Action (World Host) String :=
  match value.text? with
  | some content => return content
  | none =>
      let what := s!"descriptor '{dunder}' argument"
      Action.failFor (Error.notText what) value

/-- The right operand of a concatenation has to be a text, too. -/
def concat (left right : Value) : Action (World Host) Value := do
  let content ← receiver "__add__" left
  match right.text? with
  | some appended => Action.text (content ++ appended)
  | none => Action.failFor (Error.cannotConcatenate "str") right

/-- A text is repeated by halves, so that a long repetition takes few steps. -/
def repeated (content : String) (count : Nat) : String :=
  if count = 0 then ""
  else
    let half := repeated content (count / 2)
    if count % 2 = 0 then half ++ half else half ++ half ++ content
termination_by count
decreasing_by omega

theorem toList_repeated (content : String) (count : Nat) :
    (repeated content count).toList = (List.replicate count content.toList).flatten := by
  fun_induction repeated with
  | case1 => rfl
  | case2 count _ half isEven inductionHypothesis =>
      have parts : count / 2 + count / 2 = count := by omega
      rw [String.toList_append, inductionHypothesis, ← List.flatten_append,
        List.replicate_append_replicate, parts]
  | case3 count _ half isOdd inductionHypothesis =>
      have parts : count / 2 + count / 2 + 1 = count := by omega
      rw [String.toList_append, String.toList_append, inductionHypothesis, ← List.flatten_append,
        List.replicate_append_replicate, ← List.flatten_concat, ← List.replicate_succ', parts]

/-- A repetition by a negative number is empty. -/
def repetition (value : Value) (count : Int64) : Action (World Host) Value := do
  let content ← receiver "__mul__" value
  if count.toInt ≤ 0 then Action.text ""
  else
    let world ← Action.current
    let length ← Action.ofExcept (Sequence.repeatLength world.configuration.maxSequenceBytes
      content.utf8ByteSize count.toInt.toNat 1 "string")
    Action.ofExcept (Sequence.reserve world.configuration.hasMemory length "string")
    Action.text (repeated content count.toInt.toNat)

def length (value : Value) : Nat :=
  (value.text?.map String.length).getD 0

def item (value : Value) (index : Int64) : Action (World Host) Value := do
  let content ← receiver "__getitem__" value
  let characters := content.toList
  match (Sequence.normalizeIndex index.toInt characters.length).bind (characters[·]?) with
  | some character => Action.text (String.singleton character)
  | none => Action.fail (.indexOutOfRange "string")

/-- A key of any type with an index slot selects a character. -/
def subscript (perform : Perform Host) (value key : Value) : Action (World Host) Value := do
  if ← Action.hasSlot key .index then
    item value (← perform.index key)
  else Action.failFor (Error.indexNotInteger "string") key

/-- Characters are ordered by code point, and a text comes before its continuations. -/
def order (left right : String) : Ordering :=
  Ord.compare (left.toList.map Char.toNat) (right.toList.map Char.toNat)

def compare (operator : Comparison) (left right : Value) : Except Error Value :=
  match left.text?, right.text? with
  | some leftContent, some rightContent =>
      .ok (.bool (operator.holds (order leftContent rightContent)))
  | _, _ => .ok .notImplemented

def hash (value : Value) : Action (World Host) Value := do
  return .int (Hash.text (← receiver "__hash__" value))

/-- These are text objects of some characters, in order. -/
def characters : List Char → Action (World Host) (List Value)
  | [] => return []
  | character :: rest => do
      let item ← Action.text (String.singleton character)
      return item :: (← characters rest)

def iter (value : Value) : Action (World Host) Value := do
  let content ← receiver "__iter__" value
  Action.iterator (← characters content.toList)

def repr (value : Value) : Action (World Host) Value := do
  let content ← receiver "__repr__" value
  Action.text (String.ofList (Text.quoted content.toList))

end SlotDispatch.Builtin.Text
