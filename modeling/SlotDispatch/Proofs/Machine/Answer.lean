import SlotDispatch.Machine.Perform
import SlotDispatch.Proofs.Machine.Operator
/-!
Answers of machines under a judgement. The main statement says that two machines give related answers
to every operation, when they run the functions of the host and bridge two operands in related ways.
-/

namespace SlotDispatch.Machine

open SlotDispatch.Action

variable {Host Moment : Type} [Preorder Moment] {judgement : Judgement Host Moment}
  {moment : Moment} {first second : Perform Host} {program other : Program Host}

/-- A request is answered with a bridge. -/
def answerBy (bridge : Invocation.Bridge Host) (program : Program Host) (perform : Perform Host) :
    Perform Host
  | .binary kind left right => Operator.binaryBy bridge perform kind left right
  | .ternary kind left right third => Operator.ternaryBy bridge perform kind left right third
  | .inPlace kind left right => Operator.inPlaceBy bridge perform kind left right
  | request => answer program perform request

/-- The machine tries the shared reflected method. -/
theorem answer_eq_answerBy (program : Program Host) (perform : Perform Host) (request : Request) :
    answer program perform request =
      answerBy (Invocation.sharedReflected perform) program perform request := by
  cases request with
  | binary kind left right => exact Operator.binary_eq_binaryBy perform kind left right
  | ternary kind left right third =>
      exact Operator.ternary_eq_ternaryBy perform kind left right third
  | inPlace kind left right => exact Operator.inPlace_eq_inPlaceBy perform kind left right
  | _ => rfl

/-- The answers to operations are related. -/
theorem related_answerBy {bridge next : Invocation.Bridge Host}
    (performs : judgement.Performs first second)
    (bridges : ∀ {moment : Moment} {kind target other}, judgement.Shows moment kind target other →
      Invocation.Bridges judgement moment bridge next target other)
    (runs : ∀ {moment : Moment} (name : String) (code : Nat) (arguments : List Value),
      judgement.Relates moment (apply program first name code arguments)
        (apply other second name code arguments))
    (request : Request) (isOperation : request.IsOperation) :
    judgement.Relates moment (answerBy bridge program first request)
      (answerBy next other second request) := by
  cases request with
  | apply name code arguments => exact runs name code arguments
  | call callee arguments => exact Protocol.related_call performs callee arguments
  | callSpecial method receiver arguments =>
      exact Invocation.related_callSpecial performs method receiver arguments
  | unary kind operand => exact Operator.related_unary performs kind operand
  | binary kind left right => exact Operator.related_binaryBy performs bridges kind left right
  | ternary kind left right third =>
      exact Operator.related_ternaryBy performs bridges kind left right third
  | inPlace kind left right => exact Operator.related_inPlaceBy performs bridges kind left right
  | compare operator left right => exact Operator.related_compare performs operator left right
  | compareTruth operator left right =>
      exact Operator.related_compareTruth performs operator left right
  | length value => exact Protocol.related_length performs value
  | getItem value key => exact Protocol.related_getItem performs value key
  | setItem value key item => exact Protocol.related_setItem performs value key item
  | deleteItem value key => exact Protocol.related_deleteItem performs value key
  | hash value => exact Protocol.related_hash performs value
  | truth value => exact Protocol.related_truth performs value
  | index value => exact Protocol.related_index performs value
  | integer value => exact Protocol.related_integer performs value
  | float value => exact Protocol.related_float performs value
  | repr value => exact Protocol.related_repr performs value
  | iter value => exact Protocol.related_iter performs value
  | next iterator => exact Protocol.related_next performs iterator
  | collect value => exact Protocol.related_collect performs value
  | drain iterator => exact Protocol.related_drain performs iterator
  | getAttribute value name => exact Protocol.related_getAttribute performs value name
  | setAttribute value name content =>
      exact Protocol.related_setAttribute performs value name content
  | deleteAttribute value name => exact Protocol.related_setAttribute performs value name none
  | descriptorGet descriptor instance? owner =>
      exact Protocol.related_descriptorGet performs descriptor instance? owner
  | descriptorSet descriptor receiver content? =>
      exact Protocol.related_descriptorSet performs descriptor receiver content?
  | hasSlot value kind => exact related_hasSlot value kind
  | newInstance id arguments => exact Protocol.related_newInstance performs id arguments
  | typeObject id => exact related_typeObject id
  | nameOf id => exact related_nameOf id
  | isSubtype sub base => exact related_isSubtype sub base
  | lookup id name => exact related_lookup id name
  | ownAttribute id name => exact related_definition_bind id fun _ _ => .pure _
  | allocate typeId data hasDictionary => exact related_allocate typeId data hasDictionary
  | position iterator =>
      refine related_reading fun left right resembles => ?_
      rw [resembles.heap]
  | _ => exact isOperation.elim

end SlotDispatch.Machine
