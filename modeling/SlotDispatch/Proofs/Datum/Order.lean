import Mathlib.Data.List.Infix
import SlotDispatch.Error
import SlotDispatch.Proofs.Datum.Denotation
import SlotDispatch.Proofs.Text.Encoding
import SlotDispatch.Slot.Comparison
/-!
The order of data. Numbers are ordered by their size, texts by their bytes, and tuples by their first
items that are not equal or else by their lengths. The main statement says that every comparison of two
data has exactly one outcome.
-/

namespace SlotDispatch.Datum

/-- Two data have an order when they are both numbers, both texts, or both tuples. -/
def HasOrder (left right : Datum) : Prop :=
  (left.number?.isSome ∧ right.number?.isSome) ∨ (left.text?.isSome ∧ right.text?.isSome) ∨
    (left.items?.isSome ∧ right.items?.isSome)

/-- Two lists differ first in two items that are not equal and stand at one place, when all items before
that place are equal. -/
def DifferFirst (lefts rights : List Datum) (left right : Datum) : Prop :=
  ∃ place, lefts[place]? = some left ∧ rights[place]? = some right ∧ ¬left.Equal right ∧
    (lefts.take place).map counted = (rights.take place).map counted

/-- One of two lists begins with the other one, up to equal items. -/
def AgreeAsPrefix (lefts rights : List Datum) : Prop :=
  lefts.map counted <+: rights.map counted ∨ rights.map counted <+: lefts.map counted

/-- This is the outcome of an operator that asks for the order of two data. Data without an order are
reported by the names of their types. -/
inductive Orders (operator : Comparison) : Datum → Datum → Except Error Value → Prop
  | numbers {left right : Datum} {leftNumber rightNumber : Int64}
      (isLeft : left.number? = some leftNumber) (isRight : right.number? = some rightNumber) :
      Orders operator left right
        (.ok (.bool (operator.holds (Ord.compare leftNumber.toInt rightNumber.toInt))))
  | texts (left right : String) :
      Orders operator (.text left) (.text right)
        (.ok (.bool (operator.holds (Ord.compare (Text.bytes left) (Text.bytes right)))))
  | items {lefts rights : List Datum} {left right : Datum} {outcome : Except Error Value}
      (differ : DifferFirst lefts rights left right) (orders : Orders operator left right outcome) :
      Orders operator (.tuple lefts) (.tuple rights) outcome
  | lengths {lefts rights : List Datum} (agree : AgreeAsPrefix lefts rights) :
      Orders operator (.tuple lefts) (.tuple rights)
        (.ok (.bool (operator.holds (Ord.compare lefts.length rights.length))))
  | unordered {left right : Datum} (hasNoOrder : ¬left.HasOrder right) :
      Orders operator left right
        (.error (.unsupportedComparison operator.symbol left.typeName right.typeName))

/-- This is the outcome of a comparison of two data. Equality and inequality are decided for all data,
and every other operator asks for the order. -/
inductive Compares (operator : Comparison) (left right : Datum) : Except Error Value → Prop
  | equal (isEquality : operator = .eq) {flag : Bool} (isEqual : flag = true ↔ left.Equal right) :
      Compares operator left right (.ok (.bool flag))
  | unequal (isInequality : operator = .ne) {flag : Bool}
      (isUnequal : flag = true ↔ ¬left.Equal right) : Compares operator left right (.ok (.bool flag))
  | ordered (isOther : operator ≠ .eq ∧ operator ≠ .ne) {outcome : Except Error Value}
      (orders : Orders operator left right outcome) : Compares operator left right outcome

/-! ### First differences -/

section DifferFirst

variable {lefts rights : List Datum} {left right otherLeft otherRight : Datum}

theorem differFirst_head (isUnequal : ¬left.Equal right) :
    DifferFirst (left :: lefts) (right :: rights) left right :=
  ⟨0, rfl, rfl, isUnequal, rfl⟩

theorem DifferFirst.cons (isEqual : otherLeft.Equal otherRight)
    (differ : DifferFirst lefts rights left right) :
    DifferFirst (otherLeft :: lefts) (otherRight :: rights) left right := by
  obtain ⟨place, isLeft, isRight, isUnequal, areEqual⟩ := differ
  refine ⟨place + 1, isLeft, isRight, isUnequal, ?_⟩
  rw [List.take_succ_cons, List.take_succ_cons, List.map_cons, List.map_cons, areEqual, isEqual]

/-- The items before a first difference are equal. -/
theorem equal_of_take {place earlier : Nat} (isEarlier : earlier < place)
    (areEqual : (lefts.take place).map counted = (rights.take place).map counted)
    (isLeft : lefts[earlier]? = some left) (isRight : rights[earlier]? = some right) :
    left.Equal right := by
  have isSame := congrArg (·[earlier]?) areEqual
  simp only [List.getElem?_map, List.getElem?_take, if_pos isEarlier, isLeft, isRight,
    Option.map_some, Option.some.injEq] at isSame
  exact isSame

theorem DifferFirst.unique (differ : DifferFirst lefts rights left right)
    (otherDiffer : DifferFirst lefts rights otherLeft otherRight) :
    left = otherLeft ∧ right = otherRight := by
  obtain ⟨place, isLeft, isRight, isUnequal, areEqual⟩ := differ
  obtain ⟨other, otherIsLeft, otherIsRight, otherIsUnequal, otherAreEqual⟩ := otherDiffer
  rcases Nat.lt_trichotomy place other with isBefore | rfl | isAfter
  · exact absurd (equal_of_take isBefore otherAreEqual isLeft isRight) isUnequal
  · rw [isLeft] at otherIsLeft
    rw [isRight] at otherIsRight
    exact ⟨Option.some.inj otherIsLeft, Option.some.inj otherIsRight⟩
  · exact absurd (equal_of_take isAfter areEqual otherIsLeft otherIsRight) otherIsUnequal

theorem getElem?_of_prefix {items others : List Datum} (isPrefix : items <+: others) {place : Nat}
    {item : Datum} (isItem : items[place]? = some item) : others[place]? = some item := by
  obtain ⟨isInside, rfl⟩ := List.getElem?_eq_some_iff.1 isItem
  exact List.prefix_iff_getElem?.1 isPrefix place isInside

/-- Lists that differ first somewhere do not agree as prefixes. -/
theorem DifferFirst.not_agreeAsPrefix (differ : DifferFirst lefts rights left right) :
    ¬AgreeAsPrefix lefts rights := by
  obtain ⟨place, isLeft, isRight, isUnequal, -⟩ := differ
  have leftAt : (lefts.map counted)[place]? = some left.counted := by
    rw [List.getElem?_map, isLeft, Option.map_some]
  have rightAt : (rights.map counted)[place]? = some right.counted := by
    rw [List.getElem?_map, isRight, Option.map_some]
  rintro (isPrefix | isPrefix)
  · have isSame := getElem?_of_prefix isPrefix leftAt
    exact isUnequal (Option.some.inj (isSame.symm.trans rightAt))
  · have isSame := getElem?_of_prefix isPrefix rightAt
    exact isUnequal (Option.some.inj (leftAt.symm.trans isSame))

end DifferFirst

/-! ### One outcome -/

theorem hasOrder_of_numbers {left right : Datum} {leftNumber rightNumber : Int64}
    (isLeft : left.number? = some leftNumber) (isRight : right.number? = some rightNumber) :
    left.HasOrder right :=
  .inl (by simp [isLeft, isRight])

theorem hasOrder_tuple (lefts rights : List Datum) : (tuple lefts).HasOrder (tuple rights) :=
  .inr (.inr ⟨rfl, rfl⟩)

/-- An order of two data has one outcome at most. -/
theorem Orders.unique {operator : Comparison} {left right : Datum} {outcome other : Except Error Value}
    (orders : Orders operator left right outcome) (otherOrders : Orders operator left right other) :
    outcome = other := by
  induction orders with
  | numbers isLeft isRight =>
      cases otherOrders with
      | numbers otherIsLeft otherIsRight =>
          rw [isLeft] at otherIsLeft
          rw [isRight] at otherIsRight
          rw [Option.some.inj otherIsLeft, Option.some.inj otherIsRight]
      | texts => cases isLeft
      | items | lengths => cases isLeft
      | unordered hasNoOrder => exact absurd (hasOrder_of_numbers isLeft isRight) hasNoOrder
  | texts left right =>
      cases otherOrders with
      | numbers otherIsLeft => cases otherIsLeft
      | texts => rfl
      | unordered hasNoOrder => exact absurd (.inr (.inl ⟨rfl, rfl⟩)) hasNoOrder
  | items differ _ inductionHypothesis =>
      cases otherOrders with
      | numbers otherIsLeft => cases otherIsLeft
      | items otherDiffer otherOrders =>
          obtain ⟨rfl, rfl⟩ := differ.unique otherDiffer
          exact inductionHypothesis otherOrders
      | lengths agree => exact absurd agree differ.not_agreeAsPrefix
      | unordered hasNoOrder => exact absurd (hasOrder_tuple _ _) hasNoOrder
  | lengths agree =>
      cases otherOrders with
      | numbers otherIsLeft => cases otherIsLeft
      | items differ => exact absurd agree differ.not_agreeAsPrefix
      | lengths => rfl
      | unordered hasNoOrder => exact absurd (hasOrder_tuple _ _) hasNoOrder
  | unordered hasNoOrder =>
      cases otherOrders with
      | numbers isLeft isRight => exact absurd (hasOrder_of_numbers isLeft isRight) hasNoOrder
      | texts => exact absurd (.inr (.inl ⟨rfl, rfl⟩)) hasNoOrder
      | items | lengths => exact absurd (hasOrder_tuple _ _) hasNoOrder
      | unordered => rfl

/-- A comparison of two data has one outcome at most. -/
theorem Compares.unique {operator : Comparison} {left right : Datum}
    {outcome other : Except Error Value} (compares : Compares operator left right outcome)
    (otherCompares : Compares operator left right other) : outcome = other := by
  cases compares with
  | equal isEquality isEqual =>
      cases otherCompares with
      | equal _ otherIsEqual => rw [Bool.eq_iff_iff.2 (isEqual.trans otherIsEqual.symm)]
      | unequal isInequality => cases isEquality.symm.trans isInequality
      | ordered isOther => exact absurd isEquality isOther.1
  | unequal isInequality isUnequal =>
      cases otherCompares with
      | equal isEquality => cases isEquality.symm.trans isInequality
      | unequal _ otherIsUnequal => rw [Bool.eq_iff_iff.2 (isUnequal.trans otherIsUnequal.symm)]
      | ordered isOther => exact absurd isInequality isOther.2
  | ordered isOther orders =>
      cases otherCompares with
      | equal isEquality => exact absurd isEquality isOther.1
      | unequal isInequality => exact absurd isInequality isOther.2
      | ordered _ otherOrders => exact orders.unique otherOrders

/-! ### Comparisons by an ordering -/

section Ordering

variable {operator : Comparison} {left right : Datum}

/-- Data that have one ordering for all operators are compared by it. -/
theorem compares_of_ordering {ordering : Ordering} (isEqual : ordering = .eq ↔ left.Equal right)
    (orders : ∀ operator, Orders operator left right (.ok (.bool (operator.holds ordering)))) :
    Compares operator left right (.ok (.bool (operator.holds ordering))) := by
  cases operator with
  | eq => exact .equal rfl (Ordering.isEq_iff_eq_eq.trans isEqual)
  | ne => exact .unequal rfl (Ordering.isNe_iff_ne_eq.trans (not_congr isEqual))
  | lt | le | gt | ge => exact .ordered (by decide) (orders _)

theorem compares_numbers {leftNumber rightNumber : Int64} (isLeft : left.number? = some leftNumber)
    (isRight : right.number? = some rightNumber) :
    Compares operator left right
      (.ok (.bool (operator.holds (Ord.compare leftNumber.toInt rightNumber.toInt)))) := by
  refine compares_of_ordering ?_ fun operator => .numbers isLeft isRight
  rw [Equal, counted_of_number? isLeft, counted_of_number? isRight, int.injEq, ← Int64.toInt_inj]
  exact Std.compare_eq_iff_eq

theorem order_eq_iff {left right : String} : Builtin.Text.order left right = .eq ↔ left = right := by
  rw [Builtin.Text.order, Std.compare_eq_iff_eq, ← String.toList_inj]
  exact (List.map_injective_iff.2 fun _ _ => Char.toNat_inj.1).eq_iff

theorem compares_texts (left right : String) :
    Compares operator (.text left) (.text right)
      (.ok (.bool (operator.holds (Builtin.Text.order left right)))) := by
  refine compares_of_ordering ?_ fun operator => ?_
  · rw [order_eq_iff, Equal, counted_text, counted_text, text.injEq]
  · rw [Text.order_eq_compare_bytes]
    exact .texts left right

/-- Tuples that agree as prefixes are equal when they have the same length. -/
theorem compares_lengths {lefts rights : List Datum} (agree : AgreeAsPrefix lefts rights) :
    Compares operator (.tuple lefts) (.tuple rights)
      (.ok (.bool (operator.holds (Ord.compare lefts.length rights.length)))) := by
  refine compares_of_ordering ?_ fun operator => .lengths agree
  rw [Std.compare_eq_iff_eq, equal_tuple_iff]
  constructor
  · intro isSame
    have isSame : (lefts.map counted).length = (rights.map counted).length := by
      rw [List.length_map, List.length_map, isSame]
    rcases agree with isPrefix | isPrefix
    · exact isPrefix.eq_of_length isSame
    · exact (isPrefix.eq_of_length isSame.symm).symm
  · intro isSame
    simpa using congrArg List.length isSame

end Ordering

/-! ### Tuples -/

section Tuple

variable {operator : Comparison} {lefts rights : List Datum} {left right : Datum}
  {outcome : Except Error Value}

theorem AgreeAsPrefix.cons (isEqual : left.Equal right) (agree : AgreeAsPrefix lefts rights) :
    AgreeAsPrefix (left :: lefts) (right :: rights) := by
  rw [AgreeAsPrefix, List.map_cons, List.map_cons, isEqual]
  exact agree.imp (List.prefix_cons_inj _).2 (List.prefix_cons_inj _).2

/-- Equal items in front do not change an order of tuples. -/
theorem Orders.cons (isEqual : left.Equal right)
    (orders : Orders operator (.tuple lefts) (.tuple rights) outcome) :
    Orders operator (.tuple (left :: lefts)) (.tuple (right :: rights)) outcome := by
  cases orders with
  | numbers isLeft => cases isLeft
  | items differ orders => exact .items (differ.cons isEqual) orders
  | lengths agree =>
      have isSame : Ord.compare lefts.length rights.length =
          Ord.compare (left :: lefts).length (right :: rights).length := by
        simp only [List.length_cons, Nat.compare_eq_ite_lt, Nat.succ_lt_succ_iff]
      rw [isSame]
      exact .lengths (agree.cons isEqual)
  | unordered hasNoOrder => exact absurd (hasOrder_tuple _ _) hasNoOrder

theorem equal_tuple_cons_iff (isEqual : left.Equal right) :
    (tuple (left :: lefts)).Equal (tuple (right :: rights)) ↔ (tuple lefts).Equal (tuple rights) := by
  rw [equal_tuple_iff, equal_tuple_iff, List.map_cons, List.map_cons, isEqual, List.cons_inj_right]

/-- Equal items in front do not change a comparison of tuples. -/
theorem Compares.cons (isEqual : left.Equal right)
    (compares : Compares operator (.tuple lefts) (.tuple rights) outcome) :
    Compares operator (.tuple (left :: lefts)) (.tuple (right :: rights)) outcome := by
  cases compares with
  | equal isEquality isFlag =>
      exact .equal isEquality (isFlag.trans (equal_tuple_cons_iff isEqual).symm)
  | unequal isInequality isFlag =>
      exact .unequal isInequality (isFlag.trans (not_congr (equal_tuple_cons_iff isEqual)).symm)
  | ordered isOther orders => exact .ordered isOther (orders.cons isEqual)

theorem not_equal_tuple_cons (lefts rights : List Datum) (isUnequal : ¬left.Equal right) :
    ¬(tuple (left :: lefts)).Equal (tuple (right :: rights)) := by
  rw [equal_tuple_iff, List.map_cons, List.map_cons]
  exact fun areEqual => isUnequal (List.cons.inj areEqual).1

/-- The first items decide an order of tuples when they are not equal. -/
theorem Compares.head (isUnequal : ¬left.Equal right) (isOther : operator ≠ .eq ∧ operator ≠ .ne)
    (compares : Compares operator left right outcome) :
    Compares operator (.tuple (left :: lefts)) (.tuple (right :: rights)) outcome := by
  cases compares with
  | equal isEquality => exact absurd isEquality isOther.1
  | unequal isInequality => exact absurd isInequality isOther.2
  | ordered _ orders => exact .ordered isOther (.items (differFirst_head isUnequal) orders)

end Tuple

end SlotDispatch.Datum
