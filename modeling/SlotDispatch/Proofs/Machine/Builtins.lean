import SlotDispatch.Builtin.Implementation
import SlotDispatch.Proofs.Machine.Judgement
/-!
Builtin operations under a judgement. The main statement says that the implementations of an operation
are related when the machines that run its requests are.
-/

namespace SlotDispatch

open SlotDispatch.Action

variable {Host Moment : Type} [Preorder Moment] {judgement : Judgement Host Moment} {moment : Moment}

/-! ### Outcomes of computations -/

namespace Sequence

theorem ordinaryIn_repeatLength (limit length count elementSize : Nat) (what : String) :
    Error.OrdinaryIn (repeatLength limit length count elementSize what) := by
  unfold repeatLength
  dsimp only
  split_ifs <;> grind

theorem ordinaryIn_reserve (hasMemory : Nat → Bool) (bytes : Nat) (what : String) :
    Error.OrdinaryIn (reserve hasMemory bytes what) := by
  unfold reserve
  split <;> grind

theorem ordinaryIn_checkArity {Element : Type} (name : String) (arguments : List Element)
    (expected : Nat) : Error.OrdinaryIn (checkArity name arguments expected) := by
  unfold checkArity
  split <;> grind

end Sequence

namespace Builtin

/-! ### Operations on integers and truth values -/

namespace Integer

@[simp, grind .] theorem ordinaryIn_checked (operation : String) (result? : Option Int64) :
    Error.OrdinaryIn (checked operation result?) := by
  cases result? with
  | none => exact Error.IsOrdinary.integerOverflow operation
  | some result => trivial

theorem ordinaryIn_withIntegers (left right : Value) {operation : Int64 → Int64 → Except Error Value}
    (ordinary : ∀ leftNumber rightNumber, Error.OrdinaryIn (operation leftNumber rightNumber)) :
    Error.OrdinaryIn (withIntegers left right operation) := by
  unfold withIntegers
  split
  · exact ordinary _ _
  · trivial

theorem ordinaryIn_remainder (left right : Int64) : Error.OrdinaryIn (remainder left right) := by
  unfold remainder
  split <;> grind

theorem ordinaryIn_floorDivide (left right : Int64) :
    Error.OrdinaryIn (floorDivide left right) := by
  unfold floorDivide
  split <;> grind

theorem ordinaryIn_quotientAndRemainder (left right : Int64) :
    Error.OrdinaryIn (quotientAndRemainder left right) := by
  unfold quotientAndRemainder
  split
  · grind
  · split <;> grind

theorem ordinaryIn_trueDivide (left right : Int64) : Error.OrdinaryIn (trueDivide left right) := by
  unfold trueDivide
  split <;> grind

theorem ordinaryIn_shiftLeft (left right : Int64) : Error.OrdinaryIn (shiftLeft left right) := by
  unfold shiftLeft
  split <;> grind

theorem ordinaryIn_shiftRight (left right : Int64) : Error.OrdinaryIn (shiftRight left right) := by
  unfold shiftRight
  split <;> grind

theorem ordinaryIn_power (base exponent modulus : Value) :
    Error.OrdinaryIn (power base exponent modulus) := by
  refine ordinaryIn_withIntegers base exponent fun baseNumber exponentNumber => ?_
  split
  · unfold plainPower
    split_ifs <;> grind
  · split
    · grind
    · unfold modularPower
      split_ifs <;> grind

theorem ordinaryIn_withTruths (left right : Value) (onTruths : Bool → Bool → Bool)
    {onIntegers : Int64 → Int64 → Except Error Value}
    (ordinary : ∀ leftNumber rightNumber, Error.OrdinaryIn (onIntegers leftNumber rightNumber)) :
    Error.OrdinaryIn (withTruths left right onTruths onIntegers) := by
  unfold withTruths
  split
  · trivial
  · exact ordinaryIn_withIntegers left right ordinary

theorem related_receiver (dunder : String) (value : Value) :
    judgement.Respects moment (receiver dunder value) := by
  rw [receiver]
  split
  · exact .pure _
  · exact related_failFor (by grind) value

theorem related_negative (value : Value) : judgement.Respects moment (negative value) :=
  (related_receiver _ value).bind fun _ => .ofExcept (by simp)

theorem related_positive (value : Value) : judgement.Respects moment (positive value) :=
  (related_receiver _ value).bind fun _ => .pure _

theorem related_absolute (value : Value) : judgement.Respects moment (absolute value) :=
  (related_receiver _ value).bind fun _ => .ofExcept (by simp)

theorem related_invert (value : Value) : judgement.Respects moment (invert value) :=
  (related_receiver _ value).bind fun _ => .pure _

theorem related_index (value : Value) : judgement.Respects moment (index value) :=
  (related_receiver _ value).bind fun _ => .pure _

theorem related_float (value : Value) : judgement.Respects moment (float value) :=
  (related_receiver _ value).bind fun _ => .pure _

theorem related_hash (value : Value) : judgement.Respects moment (hash value) :=
  (related_receiver _ value).bind fun _ => .pure _

theorem related_repr (value : Value) : judgement.Respects moment (repr value) :=
  (related_receiver _ value).bind fun _ => related_text _

theorem related_divmod (left right : Value) : judgement.Respects moment (divmod left right) := by
  rw [divmod]
  split
  · exact Judgement.Relates.bind (.ofExcept (ordinaryIn_quotientAndRemainder _ _)) fun _ =>
      related_tuple _
  · exact .pure _

theorem related_truthRepr (value : Value) : judgement.Respects moment (truthRepr value) := by
  unfold truthRepr
  split
  · exact related_text _
  · exact related_text _
  · exact related_repr value

end Integer

/-! ### Operations on numbers -/

namespace Floating

theorem ordinaryIn_withNumbers (left right : Value)
    {operation : Binary64 → Binary64 → Except Error Value}
    (ordinary : ∀ leftNumber rightNumber, Error.OrdinaryIn (operation leftNumber rightNumber)) :
    Error.OrdinaryIn (withNumbers left right operation) := by
  unfold withNumbers
  split
  · exact ordinary _ _
  · trivial

theorem ordinaryIn_toInteger (number : Binary64) : Error.OrdinaryIn (toInteger number) := by
  unfold toInteger
  split_ifs
  · grind
  · grind
  · split <;> grind

theorem ordinaryIn_trueDivide (left right : Binary64) : Error.OrdinaryIn (trueDivide left right) := by
  unfold trueDivide
  split <;> grind

theorem ordinaryIn_floorDivide (left right : Binary64) :
    Error.OrdinaryIn (floorDivide left right) := by
  unfold floorDivide
  split <;> grind

theorem ordinaryIn_remainder (left right : Binary64) : Error.OrdinaryIn (remainder left right) := by
  unfold remainder
  split <;> grind

theorem ordinaryIn_power (base exponent modulus : Value) :
    Error.OrdinaryIn (power base exponent modulus) := by
  unfold power
  split
  · grind
  · refine ordinaryIn_withNumbers base exponent fun baseNumber exponentNumber => ?_
    split <;> grind

theorem ordinaryIn_compare (operator : Comparison) (left right : Binary64) :
    Error.OrdinaryIn (compare operator left right) := by
  unfold compare
  split <;> simp

theorem related_receiver (dunder : String) (value : Value) :
    judgement.Respects moment (receiver dunder value) := by
  rw [receiver]
  split
  · exact .pure _
  · exact related_failFor (by grind) value

theorem related_negative (value : Value) : judgement.Respects moment (negative value) :=
  (related_receiver _ value).bind fun _ => .pure _

theorem related_positive (value : Value) : judgement.Respects moment (positive value) :=
  (related_receiver _ value).bind fun _ => .pure _

theorem related_absolute (value : Value) : judgement.Respects moment (absolute value) :=
  (related_receiver _ value).bind fun _ => .pure _

theorem related_int (value : Value) : judgement.Respects moment (int value) :=
  (related_receiver _ value).bind fun number => .ofExcept (ordinaryIn_toInteger number)

theorem related_float (value : Value) : judgement.Respects moment (float value) :=
  (related_receiver _ value).bind fun _ => .pure _

theorem related_hash (value : Value) : judgement.Respects moment (hash value) :=
  (related_receiver _ value).bind fun _ => .pure _

theorem related_repr (value : Value) : judgement.Respects moment (repr value) :=
  (related_receiver _ value).bind fun _ => related_text _

theorem related_divmod (left right : Value) : judgement.Respects moment (divmod left right) := by
  rw [divmod]
  split
  · split
    · exact .fail (by grind)
    · exact related_tuple _
  · exact .pure _

end Floating

/-! ### Operations on texts -/

namespace Text

theorem related_receiver (dunder : String) (value : Value) :
    judgement.Respects moment (receiver dunder value) := by
  rw [receiver]
  split
  · exact .pure _
  · exact related_failFor (by grind) value

theorem related_concat (left right : Value) : judgement.Respects moment (concat left right) := by
  refine (related_receiver _ left).bind fun content => ?_
  split
  · exact related_text _
  · exact related_failFor (by grind) right

theorem related_repetition (value : Value) (count : Int64) :
    judgement.Respects moment (repetition value count) := by
  refine (related_receiver _ value).bind fun content => ?_
  split
  · exact related_text _
  · refine judgement.consult fun left right resembles => ?_
    rw [resembles.configuration]
    exact Judgement.Relates.bind (.ofExcept (Sequence.ordinaryIn_repeatLength _ _ _ _ _)) fun _ =>
      Judgement.Relates.bind (.ofExcept (Sequence.ordinaryIn_reserve _ _ _)) fun _ => related_text _

theorem related_item (value : Value) (index : Int64) :
    judgement.Respects moment (item value index) := by
  refine (related_receiver _ value).bind fun content => ?_
  dsimp only
  split
  · exact related_text _
  · exact .fail (by grind)

theorem ordinaryIn_compare (operator : Comparison) (left right : Value) :
    Error.OrdinaryIn (compare operator left right) := by
  unfold compare
  split <;> simp

theorem related_hash (value : Value) : judgement.Respects moment (hash value) :=
  (related_receiver _ value).bind fun _ => .pure _

theorem related_characters (content : List Char) :
    judgement.Respects moment (characters content) := by
  induction content with
  | nil => exact .pure _
  | cons character rest inductionHypothesis =>
      exact (related_text _).bind fun _ => inductionHypothesis.bind fun _ => .pure _

theorem related_iter (value : Value) : judgement.Respects moment (iter value) :=
  (related_receiver _ value).bind fun _ => (related_characters _).bind fun items =>
    related_iterator items

theorem related_repr (value : Value) : judgement.Respects moment (repr value) :=
  (related_receiver _ value).bind fun _ => related_text _

end Text

section Perform

variable {first second : Perform Host} (performs : judgement.Performs first second)

include performs

theorem Text.related_subscript (value key : Value) :
    judgement.Relates moment (Text.subscript first value key)
      (Text.subscript second value key) := by
  refine (related_hasSlot key .index).bind fun hasIndex => ?_
  split
  · exact (performs.ask (.index key) trivial).bind fun place => Text.related_item value place
  · exact related_failFor (by grind) key

/-! ### Operations on tuples -/

namespace Tuple

omit performs in
theorem related_receiver (dunder : String) (value : Value) :
    judgement.Respects moment (receiver dunder value) := by
  rw [receiver]
  split
  · exact .pure _
  · exact related_failFor (by grind) value

omit performs in
theorem related_concat (left right : Value) : judgement.Respects moment (concat left right) := by
  refine (related_receiver _ left).bind fun items => ?_
  split
  · exact related_tuple _
  · exact related_failFor (by grind) right

omit performs in
theorem related_repetition (value : Value) (count : Int64) :
    judgement.Respects moment (repetition value count) := by
  refine (related_receiver _ value).bind fun items => ?_
  split
  · exact related_tuple _
  · refine judgement.consult fun left right resembles => ?_
    rw [resembles.configuration]
    exact Judgement.Relates.bind (.ofExcept (Sequence.ordinaryIn_repeatLength _ _ _ _ _)) fun _ =>
      Judgement.Relates.bind (.ofExcept (Sequence.ordinaryIn_reserve _ _ _)) fun _ => related_tuple _

omit performs in
theorem related_length (value : Value) : judgement.Respects moment (length value) :=
  (related_receiver _ value).bind fun _ => .pure _

omit performs in
theorem related_item (value : Value) (index : Int64) :
    judgement.Respects moment (item value index) := by
  refine (related_receiver _ value).bind fun items => ?_
  split
  · exact .pure _
  · exact .fail (by grind)

theorem related_compareItems (operator : Comparison) (lefts rights : List Value) :
    judgement.Relates moment (compareItems first operator lefts rights)
      (compareItems second operator lefts rights) := by
  induction lefts generalizing rights with
  | nil =>
      unfold compareItems
      exact .pure _
  | cons left lefts inductionHypothesis =>
      cases rights with
      | nil =>
          unfold compareItems
          exact .pure _
      | cons right rights =>
          refine (performs.ask (.compareTruth .eq left right) trivial).bind fun isEqual => ?_
          split
          · exact inductionHypothesis rights
          · split
            · exact .pure _
            · exact .pure _
            · exact performs.ask (.compare operator left right) trivial

theorem related_compare (operator : Comparison) (left right : Value) :
    judgement.Relates moment (compare first operator left right)
      (compare second operator left right) := by
  unfold compare
  split
  · exact related_compareItems performs operator _ _
  · exact .pure _

theorem related_hash (value : Value) : judgement.Relates moment (hash first value)
      (hash second value) :=
  (related_receiver _ value).bind fun items =>
    (Judgement.Relates.mapM (fun item => performs.ask (.hash item) trivial) items).bind fun _ => .pure _

omit performs in
theorem related_iter (value : Value) : judgement.Respects moment (iter value) :=
  (related_receiver _ value).bind fun items => related_iterator items

theorem related_repr (value : Value) : judgement.Relates moment (repr first value)
      (repr second value) :=
  (related_receiver _ value).bind fun items =>
    (Judgement.Relates.mapM (fun item => performs.ask (.repr item) trivial) items).bind fun _ => related_text _

end Tuple

/-! ### Operations of objects -/

namespace Object

omit performs in
theorem related_dictionary? (value : Value) :
    judgement.Respects moment (reading fun world => world.heap.dictionary? value) :=
  related_reading fun left right resembles => by rw [resembles.heap]

theorem related_getAttribute (value : Value) (name : String) :
    judgement.Relates moment (getAttribute first value name)
      (getAttribute second value name) := by
  refine (related_lookup value.typeId name).bind fun classAttribute? => ?_
  cases classAttribute? with
  | none =>
      refine Judgement.Relates.bind (.pure false) fun isData => ?_
      dsimp only
      split
      · contradiction
      · refine (related_dictionary? value).bind fun dictionary? => ?_
        split
        · exact .pure _
        · contradiction
        · exact related_failFor (by grind) value
  | some descriptor =>
      refine (related_hasSlot descriptor .descrSet).bind fun isData => ?_
      dsimp only
      split
      · exact performs.ask (.descriptorGet _ _ _) trivial
      · refine (related_dictionary? value).bind fun dictionary? => ?_
        split
        · exact .pure _
        · exact performs.ask (.descriptorGet _ _ _) trivial
        · contradiction

omit performs in
theorem related_store (value : Value) (name : String) (content? : Option Value) :
    judgement.Respects moment (do
      let dictionary? ← reading fun world => world.heap.dictionary? value
      match dictionary?, content? with
      | some dictionary, some content =>
          changeHeap fun heap => heap.setDictionary value (dictionary.insert name content)
      | some dictionary, none =>
          if dictionary.contains name then
            changeHeap fun heap => heap.setDictionary value (dictionary.erase name)
          else failFor (Error.attributeMissing · name) value
      | none, _ => failFor (Error.attributeMissing · name) value) := by
  refine (related_dictionary? value).bind fun dictionary? => ?_
  split
  · exact judgement.changeHeap _ fun heap => .setDictionary heap value _
  · split
    · exact judgement.changeHeap _ fun heap => .setDictionary heap value _
    · exact related_failFor (by grind) value
  · exact related_failFor (by grind) value

theorem related_setAttribute (value : Value) (name : String) (content? : Option Value) :
    judgement.Relates moment (setAttribute first value name content?)
      (setAttribute second value name content?) := by
  refine (related_lookup value.typeId name).bind fun classAttribute? => ?_
  cases classAttribute? with
  | none =>
      refine Judgement.Relates.bind (.pure false) fun isData => ?_
      dsimp only
      split
      · contradiction
      · exact related_store value name content?
  | some descriptor =>
      refine (related_hasSlot descriptor .descrSet).bind fun isData => ?_
      dsimp only
      split
      · exact performs.ask (.descriptorSet _ _ _) trivial
      · exact related_store value name content?

theorem related_compare (operator : Comparison) (left right : Value) :
    judgement.Relates moment (compare first operator left right)
      (compare second operator left right) := by
  unfold compare
  split
  · exact .pure _
  · refine related_targetOf_bind left .richCompare fun later _ target other shows => ?_
    refine (performs.invokeCompare shows .eq left right).bind fun equal => ?_
    split
    · exact .pure _
    · exact (performs.ask (.truth equal) trivial).bind fun _ => .pure _
  · exact .pure _

omit performs in
theorem related_repr (value : Value) : judgement.Respects moment (repr value) :=
  (related_typeName value).bind fun _ => related_text _

end Object

end Perform

end Builtin

end SlotDispatch

/-! ### Operations of types -/

namespace SlotDispatch.Builtin.Type

open SlotDispatch.Action

variable {Host Moment : Type} [Preorder Moment] {judgement : Judgement Host Moment} {moment : Moment}
  {first second : Perform Host} (performs : judgement.Performs first second)

include performs

omit performs in
theorem related_receiver (value : Value) : judgement.Respects moment (receiver value) := by
  rw [receiver]
  split
  · exact .pure _
  · exact related_failFor (by grind) value

theorem related_getAttribute (value : Value) (name : String) :
    judgement.Relates moment (getAttribute first value name)
      (getAttribute second value name) := by
  refine (related_receiver value).bind fun id => ?_
  refine related_definition_bind id fun definition generation => ?_
  split
  · exact related_text _
  · split
    · exact (Judgement.Relates.mapM related_typeObject definition.linearization).bind fun items =>
        related_tuple items
    · split
      · exact (Judgement.Relates.mapM related_typeObject definition.bases).bind fun items =>
          related_tuple items
      · refine (related_lookup id name).bind fun content? => ?_
        split
        · exact performs.ask (.descriptorGet _ _ _) trivial
        · exact .fail (by grind)

omit performs in
theorem related_setAttribute (value : Value) (name : String) (content? : Option Value) :
    judgement.Respects moment (setAttribute value name content?) := by
  refine (related_receiver value).bind fun id => ?_
  cases content? with
  | none => exact judgement.delete id name
  | some content => exact judgement.assign id name content

theorem related_toInteger (value : Value) :
    judgement.Relates moment (toInteger first value)
      (toInteger second value) := by
  unfold toInteger
  split
  · split
    · exact .pure _
    · exact .fail (by grind)
  · exact performs.ask (.integer value) trivial

theorem related_toFloat (value : Value) : judgement.Relates moment (toFloat first value)
      (toFloat second value) := by
  unfold toFloat
  split
  · split
    · exact .pure _
    · exact .fail (by grind)
  · exact performs.ask (.float value) trivial

omit performs in
theorem related_rejectArguments (name : String) (arguments : List Value) (expected : Nat) :
    judgement.Respects moment (rejectArguments name arguments expected) :=
  Judgement.Relates.bind (.ofExcept (Sequence.ordinaryIn_checkArity name arguments expected)) fun _ =>
    .pure _

omit performs in
theorem related_convert (name : String) (arguments : List Value) {empty : Action (World Host) Value}
    {one other : Value → Action (World Host) Value} (whenEmpty : judgement.Respects moment empty)
    (whenOne : ∀ value, judgement.Relates moment (one value) (other value)) :
    judgement.Relates moment (convert name arguments empty one)
      (convert name arguments empty other) := by
  unfold convert
  split
  · exact whenEmpty
  · exact whenOne _
  · exact related_rejectArguments name arguments 1

theorem related_toText (value : Value) : judgement.Relates moment (toText first value)
      (toText second value) := by
  unfold toText
  split
  · exact .pure _
  · exact (performs.ask (.repr value) trivial).bind fun _ => related_text _

theorem related_instanceData (linearization : List TypeId) (arguments : List Value) :
    judgement.Relates moment (instanceData first linearization arguments)
      (instanceData second linearization arguments) := by
  unfold instanceData
  split
  · cases arguments with
    | nil => exact Judgement.Relates.bind (.pure _) fun _ => .pure _
    | cons value _ => exact (related_toInteger performs value).bind fun _ => .pure _
  · split
    · cases arguments with
      | nil => exact Judgement.Relates.bind (.pure _) fun _ => .pure _
      | cons value _ => exact (related_toFloat performs value).bind fun _ => .pure _
    · exact .pure _

theorem related_instantiate (id : TypeId) (arguments : List Value) :
    judgement.Relates moment (instantiate first id arguments)
      (instantiate second id arguments) := by
  refine related_definition_bind id fun definition generation => ?_
  rw [show (definition.inGeneration generation).isHeap = definition.isHeap from rfl]
  split
  · exact .fail (by grind)
  · refine (related_instanceData performs _ _).bind fun data => ?_
    refine (related_allocate _ _ _).bind fun made => ?_
    refine (related_lookup _ _).bind fun initializer? => ?_
    split
    · refine (performs.ask (.callSpecial _ _ _) trivial).bind fun result => ?_
      split
      · exact .pure _
      · exact related_failFor (by grind) result
    · split
      · exact .fail (by grind)
      · exact .pure _

omit performs in
theorem related_makeProperty (arguments : List Value) :
    judgement.Respects moment (makeProperty arguments) := by
  rw [makeProperty]
  split
  · exact related_rejectArguments _ _ _
  · exact related_allocate _ _ _

theorem related_call (value : Value) (arguments : List Value) :
    judgement.Relates moment (call first value arguments)
      (call second value arguments) := by
  refine (related_receiver value).bind fun id => ?_
  split
  · split
    · exact related_typeObject _
    · exact related_rejectArguments _ _ _
  split
  · split
    · exact related_allocate _ _ _
    · exact related_rejectArguments _ _ _
  split
  · exact related_convert _ _ (.pure _) fun argument =>
      (related_toInteger performs argument).bind fun _ => .pure _
  split
  · exact related_convert _ _ (.pure _) fun argument =>
      (related_toFloat performs argument).bind fun _ => .pure _
  split
  · exact related_convert _ _ (.pure _) fun argument =>
      (performs.ask (.truth argument) trivial).bind fun _ => .pure _
  split
  · exact related_convert _ _ (related_text _) (related_toText performs)
  split
  · exact related_convert _ _ (related_tuple _) fun argument =>
      (performs.ask (.collect argument) trivial).bind fun items => related_tuple items
  split
  · exact related_makeProperty arguments
  · exact related_instantiate performs id arguments

omit performs in
theorem related_repr (value : Value) : judgement.Respects moment (repr value) := by
  exact (related_receiver value).bind fun id => (related_nameOf id).bind fun _ => related_text _

end SlotDispatch.Builtin.Type

namespace SlotDispatch.Builtin

open SlotDispatch.Action

variable {Host Moment : Type} [Preorder Moment] {judgement : Judgement Host Moment} {moment : Moment}
  {first second : Perform Host} (performs : judgement.Performs first second)

include performs

/-! ### Operations of functions, methods, properties, and iterators -/

omit performs in
theorem related_bindFunction (function : Value) (instance? : Option Value) :
    judgement.Respects moment (bindFunction function instance?) := by
  unfold bindFunction
  split
  · exact .pure _
  · exact .pure _
  · exact related_allocate _ _ _

theorem related_callFunction (callee : Value) (arguments : List Value) :
    judgement.Relates moment (callFunction first callee arguments)
      (callFunction second callee arguments) := by
  unfold callFunction
  split
  · exact performs.ask (.apply _ _ _) trivial
  · exact related_failFor (by grind) callee

omit performs in
theorem related_displayPlain (value : Value) : judgement.Respects moment (displayPlain value) :=
  (related_typeName value).bind fun _ => related_text _

omit performs in
theorem related_displayFunction (value : Value) :
    judgement.Respects moment (displayFunction value) := by
  unfold displayFunction
  split
  · exact related_text _
  · exact related_displayPlain value

theorem related_callMethod (callee : Value) (arguments : List Value) :
    judgement.Relates moment (callMethod first callee arguments)
      (callMethod second callee arguments) := by
  unfold callMethod
  split
  · exact performs.ask (.call _ _) trivial
  · exact related_failFor (by grind) callee

theorem related_displayMethod (value : Value) :
    judgement.Relates moment (displayMethod first value)
      (displayMethod second value) := by
  unfold displayMethod
  split
  · exact (performs.ask (.repr _) trivial).bind fun _ => related_text _
  · exact related_displayPlain value

omit performs in
theorem related_accessors (property : Value) :
    judgement.Respects moment (accessors property) := by
  unfold accessors
  split
  · exact .pure _
  · exact related_failFor (by grind) property

theorem related_getProperty (property : Value) (instance? : Option Value) :
    judgement.Relates moment (getProperty first property instance?)
      (getProperty second property instance?) := by
  refine (related_accessors property).bind fun found => ?_
  obtain ⟨getter?, setter?⟩ := found
  dsimp only
  split
  · exact .pure _
  · exact performs.ask (.call _ _) trivial
  · exact related_failFor (by grind) _

theorem related_setProperty (property receiver : Value) (content? : Option Value) :
    judgement.Relates moment (setProperty first property receiver content?)
      (setProperty second property receiver content?) := by
  refine (related_accessors property).bind fun found => ?_
  obtain ⟨getter?, setter?⟩ := found
  dsimp only
  split
  · exact related_failFor (by grind) _
  · exact (performs.ask (.call _ _) trivial).bind fun _ => .pure _
  · exact related_failFor (by grind) _

omit performs in
theorem related_stepIterator (iterator : Value) :
    judgement.Respects moment (stepIterator iterator) := by
  cases iterator with
  | object header data =>
      cases data with
      | iterator items =>
          rw [stepIterator_eq]
          refine judgement.consult fun left right resembles => ?_
          rw [resembles.heap]
          split
          · exact Judgement.Relates.fail (by grind)
          · exact Judgement.Relates.bind (judgement.changeHeap _ fun heap => .advance heap _)
              fun _ => .pure _
      | _ => exact related_failFor (by grind) _
  | _ => exact related_failFor (by grind) _

end SlotDispatch.Builtin

/-! ### All operations -/

namespace SlotDispatch

open SlotDispatch.Action

variable {Host Moment : Type} [Preorder Moment]

/-- Two implementations of one shape are related when every run of them is, at every moment. -/
inductive Judgement.Implements (judgement : Judgement Host Moment) :
    Implementation Host → Implementation Host → Prop
  | inquiry (run : Value → Bool) : Implements judgement (.inquiry run) (.inquiry run)
  | length (run : Value → Nat) : Implements judgement (.length run) (.length run)
  | simpleDescrGet {run other : Value → Option Value → Action (World Host) Value}
      (related : ∀ moment descriptor instance?,
        judgement.Relates moment (run descriptor instance?) (other descriptor instance?)) :
      Implements judgement (.simpleDescrGet run) (.simpleDescrGet other)
  | unary {run other : Value → Action (World Host) Value}
      (related : ∀ moment operand, judgement.Relates moment (run operand) (other operand)) :
      Implements judgement (.unary run) (.unary other)
  | binary {run other : Value → Value → Action (World Host) Value}
      (related : ∀ moment left right, judgement.Relates moment (run left right) (other left right)) :
      Implements judgement (.binary run) (.binary other)
  | ternary {run other : Value → Value → Value → Action (World Host) Value}
      (related : ∀ moment left right third,
        judgement.Relates moment (run left right third) (other left right third)) :
      Implements judgement (.ternary run) (.ternary other)
  | size {run other : Value → Int64 → Action (World Host) Value}
      (related : ∀ moment operand count,
        judgement.Relates moment (run operand count) (other operand count)) :
      Implements judgement (.size run) (.size other)
  | compare {run other : Comparison → Value → Value → Action (World Host) Value}
      (related : ∀ moment operator left right,
        judgement.Relates moment (run operator left right) (other operator left right)) :
      Implements judgement (.compare run) (.compare other)
  | getAttr {run other : Value → String → Action (World Host) Value}
      (related : ∀ moment value name, judgement.Relates moment (run value name) (other value name)) :
      Implements judgement (.getAttr run) (.getAttr other)
  | setAttr {run other : Value → String → Option Value → Action (World Host) Unit}
      (related : ∀ moment value name content?,
        judgement.Relates moment (run value name content?) (other value name content?)) :
      Implements judgement (.setAttr run) (.setAttr other)
  | descrGet {run other : Value → Option Value → TypeId → Action (World Host) Value}
      (related : ∀ moment descriptor instance? owner, judgement.Relates moment
        (run descriptor instance? owner) (other descriptor instance? owner)) :
      Implements judgement (.descrGet run) (.descrGet other)
  | store {run other : Value → Value → Option Value → Action (World Host) Unit}
      (related : ∀ moment receiver key content?,
        judgement.Relates moment (run receiver key content?) (other receiver key content?)) :
      Implements judgement (.store run) (.store other)
  | call {run other : Value → List Value → Action (World Host) Value}
      (related : ∀ moment callee arguments,
        judgement.Relates moment (run callee arguments) (other callee arguments)) :
      Implements judgement (.call run) (.call other)

variable {judgement : Judgement Host Moment} {first second : Perform Host}

/-- The implementations of every builtin operation are related when the machines that run its requests
are. -/
theorem Builtin.implements (performs : judgement.Performs first second) (operation : Builtin) :
    judgement.Implements (operation.implementation first) (operation.implementation second) := by
  cases operation with
  | noneBool | intBool | floatBool => exact .inquiry _
  | strLen => exact .length _
  | objectHash => exact .unary fun _ _ => .pure _
  | iteratorIter => exact .unary fun _ operand => .pure operand
  | intAdd | intSubtract | intMultiply =>
      exact .binary fun _ left right => .ofExcept <| Integer.ordinaryIn_withIntegers left right
        fun _ _ => Integer.ordinaryIn_checked _ _
  | intRemainder =>
      exact .binary fun _ left right => .ofExcept <|
        Integer.ordinaryIn_withIntegers left right Integer.ordinaryIn_remainder
  | intLshift =>
      exact .binary fun _ left right => .ofExcept <|
        Integer.ordinaryIn_withIntegers left right Integer.ordinaryIn_shiftLeft
  | intRshift =>
      exact .binary fun _ left right => .ofExcept <|
        Integer.ordinaryIn_withIntegers left right Integer.ordinaryIn_shiftRight
  | intFloorDivide =>
      exact .binary fun _ left right => .ofExcept <|
        Integer.ordinaryIn_withIntegers left right Integer.ordinaryIn_floorDivide
  | intTrueDivide =>
      exact .binary fun _ left right => .ofExcept <|
        Integer.ordinaryIn_withIntegers left right Integer.ordinaryIn_trueDivide
  | intAnd | intXor | intOr =>
      exact .binary fun _ left right => .ofExcept <|
        Integer.ordinaryIn_withIntegers left right fun _ _ => trivial
  | boolAnd | boolXor | boolOr =>
      exact .binary fun _ left right => .ofExcept <|
        Integer.ordinaryIn_withTruths left right _ fun _ _ => trivial
  | floatAdd | floatSubtract | floatMultiply =>
      exact .binary fun _ left right => .ofExcept <|
        Floating.ordinaryIn_withNumbers left right fun _ _ => trivial
  | floatRemainder =>
      exact .binary fun _ left right => .ofExcept <|
        Floating.ordinaryIn_withNumbers left right Floating.ordinaryIn_remainder
  | floatFloorDivide =>
      exact .binary fun _ left right => .ofExcept <|
        Floating.ordinaryIn_withNumbers left right Floating.ordinaryIn_floorDivide
  | floatTrueDivide =>
      exact .binary fun _ left right => .ofExcept <|
        Floating.ordinaryIn_withNumbers left right Floating.ordinaryIn_trueDivide
  | intPower =>
      exact .ternary fun _ base exponent modulus => .ofExcept <|
        Integer.ordinaryIn_power base exponent modulus
  | floatPower =>
      exact .ternary fun _ base exponent modulus => .ofExcept <|
        Floating.ordinaryIn_power base exponent modulus
  | intRichCompare =>
      exact .compare fun _ _ left right => .ofExcept <|
        Integer.ordinaryIn_withIntegers left right fun _ _ => trivial
  | floatRichCompare =>
      exact .compare fun _ operator left right => .ofExcept <|
        Floating.ordinaryIn_withNumbers left right (Floating.ordinaryIn_compare operator)
  | strRichCompare =>
      exact .compare fun _ operator left right => .ofExcept (Text.ordinaryIn_compare operator left right)
  | objectGetAttr => exact .getAttr fun _ => Object.related_getAttribute performs
  | objectSetAttr => exact .setAttr fun _ => Object.related_setAttribute performs
  | objectRichCompare => exact .compare fun _ => Object.related_compare performs
  | objectRepr => exact .unary fun _ => Object.related_repr
  | noneRepr | notImplementedRepr => exact .unary fun _ _ => related_text _
  | typeGetAttr => exact .getAttr fun _ => Type.related_getAttribute performs
  | typeSetAttr => exact .setAttr fun _ => Type.related_setAttribute
  | typeCall => exact .call fun _ => Type.related_call performs
  | typeRepr => exact .unary fun _ => Type.related_repr
  | intNegative => exact .unary fun _ => Integer.related_negative
  | intPositive => exact .unary fun _ => Integer.related_positive
  | intAbsolute => exact .unary fun _ => Integer.related_absolute
  | intInvert => exact .unary fun _ => Integer.related_invert
  | intIndex | intInt => exact .unary fun _ => Integer.related_index
  | intFloat => exact .unary fun _ => Integer.related_float
  | intDivmod => exact .binary fun _ => Integer.related_divmod
  | intHash => exact .unary fun _ => Integer.related_hash
  | intRepr => exact .unary fun _ => Integer.related_repr
  | boolRepr => exact .unary fun _ => Integer.related_truthRepr
  | floatNegative => exact .unary fun _ => Floating.related_negative
  | floatPositive => exact .unary fun _ => Floating.related_positive
  | floatAbsolute => exact .unary fun _ => Floating.related_absolute
  | floatInt => exact .unary fun _ => Floating.related_int
  | floatFloat => exact .unary fun _ => Floating.related_float
  | floatDivmod => exact .binary fun _ => Floating.related_divmod
  | floatHash => exact .unary fun _ => Floating.related_hash
  | floatRepr => exact .unary fun _ => Floating.related_repr
  | strConcat => exact .binary fun _ => Text.related_concat
  | strRepeat => exact .size fun _ => Text.related_repetition
  | strItem => exact .size fun _ => Text.related_item
  | strSubscript => exact .binary fun _ => Text.related_subscript performs
  | strHash => exact .unary fun _ => Text.related_hash
  | strIter => exact .unary fun _ => Text.related_iter
  | strRepr => exact .unary fun _ => Text.related_repr
  | tupleConcat => exact .binary fun _ => Tuple.related_concat
  | tupleRepeat => exact .size fun _ => Tuple.related_repetition
  | tupleLen => exact .unary fun _ => Tuple.related_length
  | tupleItem => exact .size fun _ => Tuple.related_item
  | tupleRichCompare => exact .compare fun _ => Tuple.related_compare performs
  | tupleHash => exact .unary fun _ => Tuple.related_hash performs
  | tupleIter => exact .unary fun _ => Tuple.related_iter
  | tupleRepr => exact .unary fun _ => Tuple.related_repr performs
  | functionDescrGet => exact .simpleDescrGet fun _ => related_bindFunction
  | functionCall => exact .call fun _ => related_callFunction performs
  | functionRepr => exact .unary fun _ => related_displayFunction
  | methodCall => exact .call fun _ => related_callMethod performs
  | methodRepr => exact .unary fun _ => related_displayMethod performs
  | propertyDescrGet =>
      exact .descrGet fun _ property instance? _ => related_getProperty performs property instance?
  | propertyDescrSet => exact .store fun _ => related_setProperty performs
  | iteratorNext => exact .unary fun _ => related_stepIterator

end SlotDispatch
