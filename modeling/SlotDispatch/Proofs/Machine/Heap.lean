import SlotDispatch.Builtin.Callable
/-!
Heaps in the course of a computation. The main statement says that no change which the machine makes to
a heap takes a place or a dictionary back or gives items back to an iterator.
-/

namespace SlotDispatch

/-- An object that has a place is identical to the values of this place. -/
theorem Value.isSame_iff_of_place? {value other : Value} {place : Nat}
    (isPlace : value.place? = some place) :
    value.isSame other = true ↔ other.place? = some place := by
  obtain ⟨⟨reference, typeId⟩, data, rfl⟩ : ∃ header data, value = .object header data := by
    cases value with
    | object header data => exact ⟨header, data, rfl⟩
    | _ => cases isPlace
  cases reference with
  | typeObject id => cases isPlace
  | allocated taken =>
      obtain rfl := Option.some.inj isPlace
      cases other with
      | object header data =>
          obtain ⟨_ | otherPlace, otherId⟩ := header <;>
            simp [Value.isSame, Value.place?, eq_comm]
      | _ => simp [Value.isSame, Value.place?]

namespace Heap

/-- These are the items that remain in a place. -/
def itemsAt (heap : Heap) (place : Nat) : List Value :=
  (heap.remaining.get? place).getD []

/-- A heap has a value when the place of the value, if there is one, has been taken. -/
def Has (heap : Heap) (value : Value) : Prop :=
  ∀ place, value.place? = some place → place < heap.nextPlace

/-- A heap precedes another one when no place and no dictionary was taken back since, and every place
has lost at most the first of its items. -/
structure Precedes (before after : Heap) : Prop where
  nextPlace : before.nextPlace ≤ after.nextPlace
  dictionaries : ∀ place, (before.dictionaries.get? place).isSome = true →
    (after.dictionaries.get? place).isSome = true
  items : ∀ place < before.nextPlace, ∃ count,
    after.itemsAt place = (before.itemsAt place).drop count

/-- This is the content of an attribute in the dictionary of an object. -/
def attribute? (heap : Heap) (value : Value) (name : String) : Option Value :=
  (heap.dictionary? value).bind (Table.get? · name)

/-- An object with a dictionary gets some content for an attribute, or loses the attribute. -/
def withAttribute (heap : Heap) (value : Value) (name : String) (content? : Option Value) : Heap :=
  match heap.dictionary? value with
  | none => heap
  | some dictionary =>
      heap.setDictionary value (content?.elim (dictionary.erase name) (dictionary.insert name))

/-- An iterator gives up the first of its remaining items. -/
def advance (heap : Heap) (iterator : Value) : Heap :=
  match heap.remainingOf iterator with
  | [] => heap
  | _ :: rest => heap.setRemaining iterator rest

variable {heap before middle after : Heap} {value iterator : Value}

theorem remainingOf_of_place? {place : Nat} (isPlace : iterator.place? = some place) :
    heap.remainingOf iterator = heap.itemsAt place := by
  rw [remainingOf, isPlace]
  rfl

theorem remainingOf_of_place?_eq_none (isNone : iterator.place? = none) :
    heap.remainingOf iterator = [] := by
  rw [remainingOf, isNone]
  rfl

theorem remainingOf_advance (heap : Heap) (iterator : Value) :
    (heap.advance iterator).remainingOf iterator = (heap.remainingOf iterator).tail := by
  unfold advance
  split
  · rename_i isEmpty
    rw [isEmpty]
    rfl
  · rename_i item rest isRemaining
    cases isPlace : iterator.place? with
    | none =>
        rw [remainingOf_of_place?_eq_none isPlace] at isRemaining
        cases isRemaining
    | some place =>
        rw [isRemaining, setRemaining, isPlace, remainingOf, isPlace, Option.bind_some,
          Table.get?_insert_self]
        rfl

/-! ### Dictionaries -/

theorem dictionary?_of_place? {place : Nat} (isPlace : value.place? = some place) :
    heap.dictionary? value = heap.dictionaries.get? place := by
  rw [dictionary?, isPlace]
  rfl

theorem exists_place?_of_isSome_dictionary? (has : (heap.dictionary? value).isSome = true) :
    ∃ place, value.place? = some place := by
  obtain ⟨dictionary, isDictionary⟩ := Option.isSome_iff_exists.1 has
  obtain ⟨place, isPlace, _⟩ := Option.bind_eq_some_iff.1 isDictionary
  exact ⟨place, isPlace⟩

/-- A new dictionary of an object is the dictionary of all values that are identical to the object. -/
theorem dictionary?_setDictionary {place : Nat} (isPlace : value.place? = some place)
    (dictionary : Namespace) (other : Value) :
    (heap.setDictionary value dictionary).dictionary? other =
      if value.isSame other then some dictionary else heap.dictionary? other := by
  rw [setDictionary, isPlace]
  dsimp only
  by_cases isSame : value.isSame other = true
  · rw [if_pos isSame, dictionary?_of_place? ((Value.isSame_iff_of_place? isPlace).1 isSame),
      Table.get?_insert_self]
  · rw [if_neg isSame]
    cases isOtherPlace : other.place? with
    | none =>
        rw [dictionary?, dictionary?, isOtherPlace]
        rfl
    | some otherPlace =>
        have isApart : otherPlace ≠ place := by
          rintro rfl
          exact isSame ((Value.isSame_iff_of_place? isPlace).2 isOtherPlace)
        rw [dictionary?_of_place? isOtherPlace, dictionary?_of_place? isOtherPlace,
          Table.get?_insert, if_neg isApart]

section WithAttribute

variable {name : String} {content? : Option Value} (has : (heap.dictionary? value).isSome = true)

include has

theorem dictionary?_withAttribute (name : String) (content? : Option Value) (other : Value) :
    ∃ dictionary, heap.dictionary? value = some dictionary ∧
      (heap.withAttribute value name content?).dictionary? other =
        if value.isSame other then
          some (content?.elim (dictionary.erase name) (dictionary.insert name))
        else heap.dictionary? other := by
  obtain ⟨place, isPlace⟩ := exists_place?_of_isSome_dictionary? has
  obtain ⟨dictionary, isDictionary⟩ := Option.isSome_iff_exists.1 has
  refine ⟨dictionary, isDictionary, ?_⟩
  rw [withAttribute, isDictionary]
  exact dictionary?_setDictionary isPlace _ other

/-- Identical objects have one dictionary. -/
theorem dictionary?_of_isSame {other : Value} (isSame : value.isSame other = true) :
    heap.dictionary? other = heap.dictionary? value := by
  obtain ⟨place, isPlace⟩ := exists_place?_of_isSome_dictionary? has
  rw [dictionary?_of_place? isPlace,
    dictionary?_of_place? ((Value.isSame_iff_of_place? isPlace).1 isSame)]

/-- Only the one attribute of the one object gets other content. -/
theorem attribute?_withAttribute (other : Value) (otherName : String) :
    (heap.withAttribute value name content?).attribute? other otherName =
      if value.isSame other ∧ otherName = name then content? else heap.attribute? other otherName := by
  obtain ⟨dictionary, isDictionary, isAfter⟩ := dictionary?_withAttribute has name content? other
  rw [attribute?, isAfter]
  by_cases isSame : value.isSame other = true
  · rw [attribute?, dictionary?_of_isSame has isSame, isDictionary]
    simp only [isSame, if_true, true_and, Option.bind_some]
    cases content? with
    | none => rw [Option.elim, Table.get?_erase]
    | some content => rw [Option.elim, Table.get?_insert]
  · simp only [isSame, false_and, if_false, Bool.false_eq_true]
    rfl

/-- Whatever has a dictionary keeps one. -/
theorem isSome_dictionary?_withAttribute {other : Value}
    (otherHas : (heap.dictionary? other).isSome = true) :
    ((heap.withAttribute value name content?).dictionary? other).isSome = true := by
  obtain ⟨dictionary, _, isAfter⟩ := dictionary?_withAttribute has name content? other
  rw [isAfter]
  split
  · rfl
  · exact otherHas

end WithAttribute

/-- Only dictionaries change with an attribute. -/
theorem withAttribute_eq (heap : Heap) (value : Value) (name : String) (content? : Option Value) :
    heap.withAttribute value name content? =
      { heap with dictionaries := (heap.withAttribute value name content?).dictionaries } := by
  unfold withAttribute setDictionary
  split
  · rfl
  · split <;> rfl

/-- A new object with a dictionary has no attributes. -/
theorem dictionary?_allocate (heap : Heap) (typeId : TypeId) (data : Data Value) :
    (heap.allocate typeId data true).2.dictionary? (heap.allocate typeId data true).1 =
      some .empty :=
  Table.get?_insert_self _ _ _

/-! ### Earlier and later heaps -/

namespace Precedes

theorem refl (heap : Heap) : heap.Precedes heap :=
  ⟨Nat.le_refl _, fun _ has => has, fun _ _ => ⟨0, rfl⟩⟩

theorem trans (first : before.Precedes middle) (second : middle.Precedes after) :
    before.Precedes after where
  nextPlace := Nat.le_trans first.nextPlace second.nextPlace
  dictionaries := fun place has => second.dictionaries place (first.dictionaries place has)
  items := by
    intro place isTaken
    obtain ⟨count, isMiddle⟩ := first.items place isTaken
    obtain ⟨later, isAfter⟩ := second.items place (Nat.lt_of_lt_of_le isTaken first.nextPlace)
    exact ⟨count + later, by rw [isAfter, isMiddle, List.drop_drop]⟩

theorem has (precedes : before.Precedes after) (has : before.Has value) : after.Has value :=
  fun place isPlace => Nat.lt_of_lt_of_le (has place isPlace) precedes.nextPlace

/-- What remains of an iterator is what remained of it, without some of the first items. -/
theorem remainingOf (precedes : before.Precedes after) (has : before.Has iterator) :
    ∃ count, after.remainingOf iterator = (before.remainingOf iterator).drop count := by
  cases isPlace : iterator.place? with
  | none =>
      rw [remainingOf_of_place?_eq_none isPlace, remainingOf_of_place?_eq_none isPlace]
      exact ⟨0, rfl⟩
  | some place =>
      rw [remainingOf_of_place? isPlace, remainingOf_of_place? isPlace]
      exact precedes.items place (has place isPlace)

/-- An object that has a dictionary keeps one. -/
theorem isSome_dictionary? (precedes : before.Precedes after)
    (has : (before.dictionary? value).isSome = true) : (after.dictionary? value).isSome = true := by
  obtain ⟨place, isPlace⟩ := exists_place?_of_isSome_dictionary? has
  rw [dictionary?_of_place? isPlace] at has ⊢
  exact precedes.dictionaries place has

theorem setDictionary (heap : Heap) (value : Value) (dictionary : Namespace) :
    heap.Precedes (heap.setDictionary value dictionary) := by
  unfold Heap.setDictionary
  split
  · exact .refl heap
  · refine ⟨Nat.le_refl _, fun place has => ?_, fun _ _ => ⟨0, rfl⟩⟩
    rw [Table.get?_insert]
    split
    · rfl
    · exact has

/-- A new object takes a place of its own. -/
theorem allocate (heap : Heap) (typeId : TypeId) (data : Data Value) (hasDictionary : Bool) :
    heap.Precedes (heap.allocate typeId data hasDictionary).2 where
  nextPlace := Nat.le_succ _
  dictionaries := by
    intro place has
    cases hasDictionary with
    | false => exact has
    | true =>
        show ((heap.dictionaries.insert heap.nextPlace .empty).get? place).isSome = true
        rw [Table.get?_insert]
        split
        · rfl
        · exact has
  items := by
    intro place isTaken
    have isOther : place ≠ heap.nextPlace := Nat.ne_of_lt isTaken
    refine ⟨0, ?_⟩
    cases data with
    | iterator items => rw [itemsAt, Heap.allocate, Table.get?_insert, if_neg isOther]; rfl
    | _ => rfl

/-- A step of an iterator takes an item from its place alone. -/
theorem advance (heap : Heap) (iterator : Value) : heap.Precedes (heap.advance iterator) := by
  unfold Heap.advance
  split
  · exact .refl heap
  · rename_i item rest isRemaining
    unfold Heap.setRemaining
    split
    · exact .refl heap
    · rename_i taken isPlace
      refine ⟨Nat.le_refl _, fun _ has => has, fun place _ => ?_⟩
      rw [itemsAt, Table.get?_insert]
      split
      · rename_i isSame
        rw [remainingOf_of_place? isPlace] at isRemaining
        rw [isSame, isRemaining]
        exact ⟨1, rfl⟩
      · exact ⟨0, rfl⟩

end Precedes

end Heap

/-! ### Changes of the heap -/

namespace Action

variable {Host : Type}

/-- An object is made in the heap as it is then. -/
theorem allocate_eq (typeId : TypeId) (data : Data Value) (hasDictionary : Bool) :
    (allocate typeId data hasDictionary : Action (World Host) Value) = do
      let world ← current
      changeHeap fun heap => (heap.allocate typeId data hasDictionary).2
      return (world.heap.allocate typeId data hasDictionary).1 :=
  rfl

/-- An iterator that has items left gives the first of them and goes on to the others. -/
theorem stepIterator_eq (header : Header) (items : List Value) :
    (Builtin.stepIterator (.object header (.iterator items)) : Action (World Host) Value) = do
      let world ← current
      match world.heap.remainingOf (.object header (.iterator items)) with
      | [] => fail .stopIteration
      | item :: _ =>
          changeHeap fun heap => heap.advance (.object header (.iterator items))
          return item := by
  funext world
  simp only [Builtin.stepIterator, bind_apply, current]
  cases isRemaining : world.heap.remainingOf (.object header (.iterator items)) with
  | nil => rfl
  | cons item rest =>
      simp only [changeHeap, change, bind_apply, Heap.advance, isRemaining]

end Action

end SlotDispatch
