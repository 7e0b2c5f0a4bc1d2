import Mathlib.Data.List.Forall2
import SlotDispatch.Type.Registry
/-!
Data of builtin values. A datum is what a value says that is made of single values, numbers, texts, and
tuples, apart from the identities of its objects. Two values of one identity denote one datum.
-/

namespace SlotDispatch

/-- A datum is a single value, a number, a text, or a tuple of data. -/
inductive Datum where
  | none
  | notImplemented
  | bool (flag : Bool)
  | int (number : Int64)
  | text (content : String)
  | tuple (items : List Datum)

namespace Datum

/-- This is the type of the values that denote a datum. -/
def typeId : Datum → TypeId
  | .none => .noneType
  | .notImplemented => .notImplementedType
  | .bool _ => .bool
  | .int _ => .int
  | .text _ => .str
  | .tuple _ => .tuple

/-- This is the name of the type of a datum. -/
def typeName : Datum → String
  | .none => "NoneType"
  | .notImplemented => "NotImplementedType"
  | .bool _ => "bool"
  | .int _ => "int"
  | .text _ => "str"
  | .tuple _ => "tuple"

theorem exists_isListed (datum : Datum) :
    ∃ builtinType, builtinTypes[datum.typeId]? = some builtinType ∧
      builtinType.name = datum.typeName := by
  cases datum <;> exact ⟨_, rfl, rfl⟩

/-- This is the number of a truth value or of an integer. -/
def number? : Datum → Option Int64
  | .bool flag => some (if flag then 1 else 0)
  | .int number => some number
  | _ => Option.none

/-- This is the content of a text. -/
def text? : Datum → Option String
  | .text content => some content
  | _ => Option.none

/-- These are the items of a tuple. -/
def items? : Datum → Option (List Datum)
  | .tuple items => some items
  | _ => Option.none

theorem eq_tuple_of_items? {datum : Datum} {items : List Datum} (isTuple : datum.items? = some items) :
    datum = .tuple items := by
  cases datum with
  | tuple => rw [Option.some.inj isTuple]
  | _ => cases isTuple

mutual

/-- In a counted datum the truth values are the numbers 1 and 0. -/
def counted : Datum → Datum
  | .bool flag => .int (if flag then 1 else 0)
  | .tuple items => .tuple (countedItems items)
  | datum => datum
termination_by structural datum => datum

/-- These are the counted items of a tuple. -/
def countedItems : List Datum → List Datum
  | [] => []
  | item :: rest => item.counted :: countedItems rest
termination_by structural items => items

end

mutual

/-- A datum that is no tuple has one level, and a tuple has one level more than its items. -/
def depth : Datum → Nat
  | .tuple items => depthOfItems items + 1
  | _ => 1
termination_by structural datum => datum

/-- This is the greatest number of levels of some data. -/
def depthOfItems : List Datum → Nat
  | [] => 0
  | item :: rest => max item.depth (depthOfItems rest)
termination_by structural items => items

end

theorem countedItems_eq_map (items : List Datum) : countedItems items = items.map counted := by
  induction items with
  | nil => rfl
  | cons item rest inductionHypothesis =>
      rw [countedItems, inductionHypothesis, List.map_cons]

@[simp] theorem counted_text (content : String) : (text content).counted = .text content := rfl

@[simp] theorem counted_tuple (items : List Datum) :
    (Datum.tuple items).counted = .tuple (items.map counted) := by
  rw [counted, countedItems_eq_map]

theorem counted_of_number? {datum : Datum} {number : Int64} (isNumber : datum.number? = some number) :
    datum.counted = .int number := by
  cases datum with
  | bool | int => exact congrArg int (Option.some.inj isNumber)
  | _ => cases isNumber

theorem depth_pos (datum : Datum) : 0 < datum.depth := by
  cases datum <;> simp [depth]

/-! ### Equality -/

/-- Two data are equal when they are the same, where truth values count as numbers. -/
def Equal (left right : Datum) : Prop :=
  left.counted = right.counted

theorem equal_equivalence : Equivalence Equal where
  refl _ := rfl
  symm isEqual := Eq.symm isEqual
  trans first second := Eq.trans first second

theorem equal_tuple_iff {lefts rights : List Datum} :
    (Datum.tuple lefts).Equal (.tuple rights) ↔ lefts.map counted = rights.map counted := by
  rw [Equal, counted_tuple, counted_tuple, tuple.injEq]

/-- The objects in the first places may have any contents. -/
def contentsOfPlaces (contents : List Datum) : Reference → Datum
  | .allocated place => contents[place]?.getD .none
  | .typeObject _ => .none

end Datum

/-! ### Values that denote data -/

/-- A value denotes a datum when it is built as the datum is, where every object has the contents that
belong to its identity. -/
inductive Value.Denotes (contents : Reference → Datum) : Value → Datum → Prop
  | none : Denotes contents .none .none
  | notImplemented : Denotes contents .notImplemented .notImplemented
  | bool (flag : Bool) : Denotes contents (.bool flag) (.bool flag)
  | int (number : Int64) : Denotes contents (.int number) (.int number)
  | text {reference : Reference} {content : String} (isContents : contents reference = .text content) :
      Denotes contents (.object ⟨reference, .str⟩ (.text content)) (.text content)
  | tuple {reference : Reference} {values : List Value} {items : List Datum}
      (isContents : contents reference = .tuple items)
      (denote : List.Forall₂ (Denotes contents) values items) :
      Denotes contents (.object ⟨reference, .tuple⟩ (.tuple values)) (.tuple items)

namespace Value.Denotes

variable {contents : Reference → Datum} {value other : Value} {datum otherDatum : Datum}

theorem typeId_eq (denotes : value.Denotes contents datum) : value.typeId = datum.typeId := by
  cases denotes <;> rfl

theorem integer?_eq (denotes : value.Denotes contents datum) : value.integer? = datum.number? := by
  cases denotes <;> rfl

theorem text?_eq (denotes : value.Denotes contents datum) : value.text? = datum.text? := by
  cases denotes <;> rfl

theorem items?_eq_none (denotes : value.Denotes contents datum) (isNone : datum.items? = .none) :
    value.items? = .none := by
  cases denotes with
  | tuple => cases isNone
  | _ => rfl

/-- Identical values denote the same datum. -/
theorem eq_of_isSame (denotes : value.Denotes contents datum)
    (otherDenotes : other.Denotes contents otherDatum) (isSame : value.isSame other = true) :
    datum = otherDatum := by
  cases denotes <;> cases otherDenotes <;> simp_all [Value.isSame]

/-- A value that denotes a datum has a builtin type with the name of the datum. -/
theorem exists_isListed (denotes : value.Denotes contents datum) :
    ∃ builtinType, builtinTypes[value.typeId]? = some builtinType ∧
      builtinType.name = datum.typeName := by
  rw [denotes.typeId_eq]
  exact datum.exists_isListed

end Value.Denotes

end SlotDispatch
