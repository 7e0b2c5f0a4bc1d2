import SlotDispatch.Builtin.Text
import SlotDispatch.Builtin.Tuple
/-!
Kinds of sequences. A kind of sequence says how a value holds a list of items, and the indexes and the
repetitions of a list are stated for all kinds at once.
-/

namespace SlotDispatch

/-! ### Indexes -/

namespace Sequence

variable {index : Int} {length place : Nat}

/-- An index from the start and an index from the end select the same place. -/
theorem normalizeIndex_eq_some (isWord : length < 0x8000000000000000) (isPlace : place < length)
    (isIndex : index = place ∨ index = place - length) :
    normalizeIndex index length = some place := by
  have normalizes : (if index < 0 then index + length else index) = place := by
    rcases isIndex with rfl | rfl
    · exact if_neg (by omega)
    · rw [if_pos (by omega)]
      omega
  rw [normalizeIndex, normalizes]
  exact if_pos ⟨isWord, by omega, by omega⟩

/-- No other index selects a place. -/
theorem normalizeIndex_eq_none (isOutside : index < -length ∨ length ≤ index) :
    normalizeIndex index length = none := by
  rw [normalizeIndex]
  refine if_neg fun ⟨_, isLower, isUpper⟩ => ?_
  split at isLower <;> split at isUpper <;> omega

/-- This is the item that an index selects. -/
def itemAt? {Item : Type} (items : List Item) (index : Int) : Option Item :=
  (normalizeIndex index items.length).bind (items[·]?)

theorem itemAt?_eq_some {Item : Type} {items : List Item} {item : Item}
    (isWord : items.length < 0x8000000000000000) (isItem : items[place]? = some item)
    (isIndex : index = place ∨ index = place - items.length) :
    itemAt? items index = some item := by
  have isPlace : place < items.length := (List.getElem?_eq_some_iff.1 isItem).1
  rw [itemAt?, normalizeIndex_eq_some isWord isPlace isIndex]
  exact isItem

theorem itemAt?_eq_none {Item : Type} {items : List Item}
    (isOutside : index < -items.length ∨ items.length ≤ index) : itemAt? items index = none := by
  rw [itemAt?, normalizeIndex_eq_none isOutside]
  rfl

/-- A length that does not fit a word comes with a size that does not fit one, either. -/
theorem repeatLength_eq {limit length count elementSize : Nat} (isPositive : 0 < elementSize)
    (what : String) :
    repeatLength limit length count elementSize what =
      if 0x7fffffffffffffff < length * elementSize * count then .error (.repeatTooLong what)
      else if limit < length * elementSize * count then
        .error (.outOfMemory (length * elementSize * count) what)
      else .ok (length * count) := by
  have sameBytes : length * count * elementSize = length * elementSize * count :=
    Nat.mul_right_comm length count elementSize
  have isLarger : length * count ≤ length * count * elementSize :=
    Nat.le_mul_of_pos_right _ isPositive
  have isTooLong : (0x10000000000000000 ≤ length * count ∨
      0x8000000000000000 ≤ length * count * elementSize) ↔
      0x7fffffffffffffff < length * count * elementSize := by omega
  rw [repeatLength, ← sameBytes]
  simp only [isTooLong]

/-- A machine has room for some bytes when it has the memory that a repetition within both limits
reserves for them. -/
def HasRoom (configuration : Configuration) (bytes : Nat) : Prop :=
  0 < bytes → bytes ≤ 0x7fffffffffffffff → bytes ≤ configuration.maxSequenceBytes →
    configuration.hasMemory bytes = true

/-- A repetition of a length that is small enough reserves its memory when there is room. -/
theorem HasRoom.reserve_eq {configuration : Configuration} {length count elementSize total : Nat}
    {what : String} (hasRoom : HasRoom configuration (length * elementSize * count))
    (isPositive : 0 < elementSize)
    (isOk : repeatLength configuration.maxSequenceBytes length count elementSize what = .ok total) :
    reserve configuration.hasMemory (total * elementSize) what = .ok () := by
  rw [repeatLength_eq isPositive] at isOk
  split at isOk
  · exact absurd isOk nofun
  · next isShort =>
      split at isOk
      · exact absurd isOk nofun
      · next isSmall =>
          obtain rfl := Except.ok.inj isOk
          have sameBytes : length * count * elementSize = length * elementSize * count :=
            Nat.mul_right_comm length count elementSize
          rw [sameBytes]
          refine if_pos ((Nat.eq_zero_or_pos _).imp_right fun isSome => ?_)
          exact hasRoom isSome (Nat.not_lt.1 isShort) (Nat.not_lt.1 isSmall)

end Sequence

/-! ### Kinds of sequences -/

/-- A kind of sequence is a type of values that hold lists of items. It says which data hold the items,
how many bytes they take, and which values stand for an item. -/
structure SequenceKind (Item : Type) where
  typeId : TypeId
  noun : String
  data : List Item → Data Value
  size : List Item → Nat
  IsItem : Item → Value → Prop

namespace SequenceKind

/-- The items of a text are its characters, which are encoded in UTF-8. A text of one character stands
for the character. -/
def text : SequenceKind Char where
  typeId := .str
  noun := "string"
  data characters := .text (String.ofList characters)
  size characters := (String.ofList characters).utf8ByteSize
  IsItem character value :=
    ∃ reference, value = .object ⟨reference, .str⟩ (.text (String.singleton character))

/-- The items of a tuple are values, of 16 bytes each. -/
def tuple : SequenceKind Value where
  typeId := .tuple
  noun := "tuple"
  data := .tuple
  size items := items.length * 16
  IsItem item value := value = item

/-- A character takes one byte at least. -/
theorem length_le_size_text (characters : List Char) :
    characters.length ≤ text.size characters := by
  induction characters with
  | nil => exact Nat.zero_le _
  | cons character rest inductionHypothesis =>
      have isPositive := character.utf8Size_pos
      change rest.length ≤ (String.ofList rest).utf8ByteSize at inductionHypothesis
      change rest.length + 1 ≤ (String.ofList (character :: rest)).utf8ByteSize
      rw [String.ofList_cons, String.utf8ByteSize_append, String.utf8ByteSize_singleton]
      omega

theorem length_le_size_tuple (items : List Value) : items.length ≤ tuple.size items :=
  Nat.le_mul_of_pos_right _ (by decide)

variable {Item : Type} (kind : SequenceKind Item) (items : List Item)

/-- This is the sequence of some items with an identity. -/
def object (reference : Reference) : Value :=
  .object ⟨reference, kind.typeId⟩ (kind.data items)

/-- The items of a sequence fit in the memory that a word with a sign can count. -/
def Fits : Prop :=
  kind.size items < 0x8000000000000000

/-- A repetition by a count that is not positive is empty, and so is a repetition of no items. Every
other repetition has a size that fits a word with a sign and the limit. -/
def repetition (limit : Nat) (count : Int) : Except Error (List Item) :=
  let bytes := kind.size items * count.toNat
  if count ≤ 0 ∨ items = [] then .ok []
  else if 0x7fffffffffffffff < bytes then .error (.repeatTooLong kind.noun)
  else if limit < bytes then .error (.outOfMemory bytes kind.noun)
  else .ok (List.replicate count.toNat items).flatten

variable {items} {limit : Nat} {count : Int}

theorem repetition_of_empty (isEmpty : count ≤ 0 ∨ items = []) :
    kind.repetition items limit count = .ok [] :=
  if_pos isEmpty

/-- A repetition by a positive count is the repetition of a length that is small enough. -/
theorem repetition_of_pos (isMore : 0 < count) {length elementSize : Nat}
    (isSize : kind.size items = length * elementSize) (isPositive : 0 < elementSize)
    (isEmpty : items = [] → length = 0) :
    kind.repetition items limit count =
      (Sequence.repeatLength limit length count.toNat elementSize kind.noun).map fun _ =>
        (List.replicate count.toNat items).flatten := by
  rw [Sequence.repeatLength_eq isPositive, repetition, isSize]
  by_cases hasNone : items = []
  · rw [if_pos (.inr hasNone), hasNone, isEmpty hasNone, List.flatten_replicate_nil]
    simp [Except.map]
  · rw [if_neg (not_or.2 ⟨Int.not_le.2 isMore, hasNone⟩)]
    split
    · rfl
    · split <;> rfl

end SequenceKind

end SlotDispatch
