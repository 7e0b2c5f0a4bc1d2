import Mathlib.Order.Basic
import SlotDispatch.Machine.Request
import SlotDispatch.Proofs.Dispatch.Plan
import SlotDispatch.Proofs.Error
import SlotDispatch.Proofs.Machine.Heap
import SlotDispatch.Proofs.Type.Resemblance
/-!
Judgements about two runs. A judgement relates two actions, and the rules of a judgement say that it
holds of the basic actions on worlds and goes on through sequences of actions. What every operation of
the library makes of these actions is then proved once, for all judgements.
-/

namespace SlotDispatch

open SlotDispatch.Action

variable {Host Result Next : Type}

/-- Two worlds resemble each other when an operation finds the same in them, as long as it looks at no
generation. -/
structure World.Resembles (left right : World Host) : Prop where
  configuration : right.configuration = left.configuration
  heap : right.heap = left.heap
  registry : left.registry.Resembles right.registry

theorem World.Resembles.symm {left right : World Host} (resembles : World.Resembles left right) :
    World.Resembles right left where
  configuration := resembles.configuration.symm
  heap := resembles.heap.symm
  registry := resembles.registry.symm

theorem World.Resembles.trans {left middle right : World Host}
    (first : World.Resembles left middle) (second : World.Resembles middle right) :
    World.Resembles left right where
  configuration := second.configuration.trans first.configuration
  heap := second.heap.trans first.heap
  registry := first.registry.trans second.registry

/-- The entries of the operand types are read one after the other and then used. -/
def Action.withEntries (left right : TypeId) (third? : Option TypeId)
    (use : SlotEntry → SlotEntry → Option SlotEntry → Action (World Host) Result) :
    Action (World Host) Result := do
  let leftEntry ← entryOf left
  let rightEntry ← entryOf right
  match third? with
  | none => use leftEntry rightEntry none
  | some third => do use leftEntry rightEntry (some (← entryOf third))

/-- What two worlds show of a slot decides what two entries and two steps of plans have in common. -/
structure SlotEntry.Shows (shows : SlotKind → SlotTarget → SlotTarget → Prop)
    (entry other : SlotEntry) : Prop where
  typeId : other.typeId = entry.typeId
  linearization : other.linearization = entry.linearization
  target : ∀ kind, shows kind (entry.target kind) (other.target kind)

/-- Two steps are for the same side, and their targets are shown for one slot. -/
structure PlanStep.Shows (shows : SlotTarget → SlotTarget → Prop) (step other : PlanStep) : Prop where
  side : other.side = step.side
  target : shows step.target other.target

/-- Two runs with the same entries have the same plan, and its steps are shown as the entries are. -/
theorem Plan.shows_ternary {shows : SlotTarget → SlotTarget → Prop} {kind : SlotKind}
    {left right : SlotEntry} {third? : Option SlotEntry}
    (shown : ∀ entry ∈ left :: right :: third?.toList,
      shows (entry.target kind) (entry.target kind)) :
    List.Forall₂ (PlanStep.Shows shows) (Plan.ternary kind left right third?)
      (Plan.ternary kind left right third?) := by
  refine List.forall₂_same.2 fun step isStep => ⟨rfl, ?_⟩
  obtain ⟨entry, isEntry, isTarget⟩ := Plan.target_of_mem_ternary isStep
  rw [isTarget]
  exact shown entry isEntry

/-! ### Rules for relations between actions -/

section Rules

variable {Relates : Action (World Host) Result → Action (World Host) Result → Prop}

/-- After an attempt, two actions are related for every outcome if they are for every result and for
every error that they do not raise again. -/
theorem Action.related_of_outcome {second continued : Except Error Next → Action (World Host) Result}
    (relatesFail : ∀ error, Relates (Action.fail error) (Action.fail error))
    (onResult : ∀ result, Relates (second (.ok result)) (continued (.ok result)))
    (onError : ∀ error, (second (.error error) = Action.fail error ∧
        continued (.error error) = Action.fail error) ∨
      Relates (second (.error error)) (continued (.error error)))
    (outcome : Except Error Next) : Relates (second outcome) (continued outcome) := by
  cases outcome with
  | ok result => exact onResult result
  | error error =>
      rcases onError error with ⟨isFirst, isSecond⟩ | related
      · rw [isFirst, isSecond]
        exact relatesFail error
      · exact related

/-- A rule for one entry that is read gives a rule for the entries of the operand types. -/
theorem Action.related_withEntries {Found : SlotEntry → Prop}
    (relatesEntry : ∀ (id : TypeId) (first second : SlotEntry → Action (World Host) Result),
      (∀ entry, Found entry → Relates (first entry) (second entry)) →
      Relates (entryOf id >>= first) (entryOf id >>= second))
    (left right : TypeId) (third? : Option TypeId)
    {first second : SlotEntry → SlotEntry → Option SlotEntry → Action (World Host) Result}
    (related : ∀ leftEntry rightEntry (thirdFound? : Option SlotEntry),
      (∀ entry ∈ leftEntry :: rightEntry :: thirdFound?.toList, Found entry) →
      Relates (first leftEntry rightEntry thirdFound?) (second leftEntry rightEntry thirdFound?)) :
    Relates (Action.withEntries left right third? first)
      (Action.withEntries left right third? second) := by
  refine relatesEntry left _ _ fun leftEntry isLeft => ?_
  refine relatesEntry right _ _ fun rightEntry isRight => ?_
  cases third? with
  | none => exact related leftEntry rightEntry none (by simp [isLeft, isRight])
  | some third =>
      refine relatesEntry third _ _ fun thirdEntry isThird => ?_
      exact related leftEntry rightEntry (some thirdEntry) (by simp [isLeft, isRight, isThird])

end Rules

/-! ### Judgements -/

/-- A judgement for which all moments are alike has a single moment. -/
inductive SingleMoment where
  | now

instance : Preorder SingleMoment where
  le _ _ := True
  le_refl _ := trivial
  le_trans _ _ _ _ _ := trivial

/-- A judgement relates the actions of two runs at a moment, and it knows what the two runs show of a
slot at a moment. An entry that is read is shown at the moment of the reading or later. A judgement
that is not lenient relates only failures with ordinary errors, and a lenient one shows equal targets
only. -/
structure Judgement (Host Moment : Type) [Preorder Moment] where
  Relates {Result : Type} (moment : Moment) (first second : Action (World Host) Result) : Prop
  Shows (moment : Moment) (kind : SlotKind) (left right : SlotTarget) : Prop
  IsLenient : Prop
  resembles {moment : Moment} {kind : SlotKind} {left right : SlotTarget}
    (shows : Shows moment kind left right) : left.Resembles right
  suits {moment : Moment} {kind : SlotKind} {left right : SlotTarget}
    (shows : Shows moment kind left right) : IsLenient ∨ left.Fits kind
  exact {moment : Moment} {kind : SlotKind} {left right : SlotTarget} (isLenient : IsLenient)
    (shows : Shows moment kind left right) : right = left
  pure {Result : Type} {moment : Moment} (result : Result) :
    Relates moment (Pure.pure result) (Pure.pure result)
  bind {Result Next : Type} {moment : Moment} {first other : Action (World Host) Result}
    {second continued : Result → Action (World Host) Next} (related : Relates moment first other)
    (relatedLater : ∀ result, Relates moment (second result) (continued result)) :
    Relates moment (first >>= second) (other >>= continued)
  fail {Result : Type} {moment : Moment} {error : Error} (isAllowed : IsLenient ∨ error.IsOrdinary) :
    Relates moment (Action.fail error : Action (World Host) Result) (Action.fail error)
  /-- An error that was met may be raised again. -/
  rescue {Result Next : Type} {moment : Moment} {first other : Action (World Host) Result}
    {second continued : Except Error Result → Action (World Host) Next}
    (related : Relates moment first other)
    (onResult : ∀ result, Relates moment (second (.ok result)) (continued (.ok result)))
    (onError : ∀ error, (second (.error error) = Action.fail error ∧
        continued (.error error) = Action.fail error) ∨
      Relates moment (second (.error error)) (continued (.error error))) :
    Relates moment (attempt first >>= second) (attempt other >>= continued)
  noted {Result : Type} {moment : Moment} {first second : Action (World Host) Result}
    (callable : Callable) (arguments : List Value) (toValue : Result → Value)
    (related : Relates moment first second) :
    Relates moment (Action.noted callable arguments toValue first)
      (Action.noted callable arguments toValue second)
  consult {Result : Type} {moment : Moment} {first second : World Host → Action (World Host) Result}
    (related : ∀ left right, World.Resembles left right →
      Relates moment (first left) (second right)) :
    Relates moment (current >>= first) (current >>= second)
  changeHeap {moment : Moment} (update : Heap → Heap)
    (isForward : ∀ heap, Heap.Precedes heap (update heap)) :
    Relates moment (Action.changeHeap update) (Action.changeHeap update)
  assign {moment : Moment} (id : TypeId) (name : String) (content : Value) :
    Relates moment (onRegistry (TypeChange.assign id name content))
      (onRegistry (TypeChange.assign id name content))
  delete {moment : Moment} (id : TypeId) (name : String) :
    Relates moment (onRegistry (TypeChange.delete id name)) (onRegistry (TypeChange.delete id name))
  entryOf {Result : Type} {moment : Moment} (id : TypeId)
    {first second : SlotEntry → Action (World Host) Result}
    (related : ∀ later, moment ≤ later → ∀ entry other,
      SlotEntry.Shows (Shows later) entry other → Relates later (first entry) (second other)) :
    Relates moment (Action.entryOf id >>= first) (Action.entryOf id >>= second)
  withEntries {Result : Type} {moment : Moment} (left right : TypeId) (third? : Option TypeId)
    {first second : SlotEntry → SlotEntry → Option SlotEntry → Action (World Host) Result}
    (related : ∀ later, moment ≤ later → ∀ leftEntry rightEntry thirdEntry? otherLeft otherRight
      otherThird?, SlotEntry.Shows (Shows later) leftEntry otherLeft →
      SlotEntry.Shows (Shows later) rightEntry otherRight →
      (∀ kind, List.Forall₂ (PlanStep.Shows (Shows later kind))
        (Plan.ternary kind leftEntry rightEntry thirdEntry?)
        (Plan.ternary kind otherLeft otherRight otherThird?)) →
      Relates later (first leftEntry rightEntry thirdEntry?)
        (second otherLeft otherRight otherThird?)) :
    Relates moment (Action.withEntries left right third? first)
      (Action.withEntries left right third? second)

namespace Judgement

variable {Moment : Type} [Preorder Moment] (judgement : Judgement Host Moment) {moment : Moment}

/-- A judgement that is not lenient holds of a target that fits its slot. -/
def Suits (kind : SlotKind) (target : SlotTarget) : Prop :=
  judgement.IsLenient ∨ target.Fits kind

/-- An action respects a judgement when it is related to itself. -/
abbrev Respects (moment : Moment) (action : Action (World Host) Result) : Prop :=
  judgement.Relates moment action action

namespace Relates

variable {judgement}

theorem pure (result : Result) : judgement.Respects moment (Pure.pure result) :=
  judgement.pure result

theorem bind {first other : Action (World Host) Result}
    {second continued : Result → Action (World Host) Next}
    (related : judgement.Relates moment first other)
    (relatedLater : ∀ result, judgement.Relates moment (second result) (continued result)) :
    judgement.Relates moment (first >>= second) (other >>= continued) :=
  judgement.bind related relatedLater

theorem fail {error : Error} (isOrdinary : error.IsOrdinary) :
    judgement.Respects moment (Action.fail error : Action (World Host) Result) :=
  judgement.fail (.inr isOrdinary)

theorem ofExcept {outcome : Except Error Result} (isOrdinary : Error.OrdinaryIn outcome) :
    judgement.Respects moment (Action.ofExcept outcome) := by
  cases outcome with
  | ok result => exact .pure result
  | error error => exact .fail isOrdinary

theorem mapM {Item : Type} {first second : Item → Action (World Host) Result}
    (related : ∀ item, judgement.Relates moment (first item) (second item)) (items : List Item) :
    judgement.Relates moment (items.mapM first) (items.mapM second) := by
  induction items with
  | nil => exact .pure []
  | cons item rest inductionHypothesis =>
      rw [List.mapM_cons, List.mapM_cons]
      exact (related item).bind fun result => inductionHypothesis.bind fun results =>
        .pure (result :: results)

end Relates

end Judgement

/-! ### Basic actions -/

namespace Action

variable {Moment : Type} [Preorder Moment] {judgement : Judgement Host Moment} {moment : Moment}

theorem related_reading {read : World Host → Result}
    (same : ∀ left right, World.Resembles left right → read left = read right) :
    judgement.Respects moment (reading read) :=
  judgement.consult fun left right resembles => by
    rw [same left right resembles]
    exact .pure _

theorem related_nameOf (id : TypeId) :
    judgement.Respects moment (reading fun world => world.registry.nameOf id) :=
  related_reading fun _ _ resembles => (resembles.registry.nameOf id).symm

theorem related_isSubtype (sub base : TypeId) :
    judgement.Respects moment (reading fun world => world.registry.isSubtype sub base) :=
  related_reading fun _ _ resembles => (resembles.registry.isSubtype sub base).symm

theorem related_typeName (value : Value) : judgement.Respects moment (typeName value) :=
  related_nameOf value.typeId

theorem related_failFor {error : String → Error} (isOrdinary : ∀ name, (error name).IsOrdinary)
    (value : Value) :
    judgement.Respects moment (failFor error value : Action (World Host) Result) :=
  (related_typeName value).bind fun name => .fail (isOrdinary name)

/-- An action that goes on from the definition of a type must not look at its generation. -/
theorem related_definition_bind (id : TypeId)
    {first second : TypeDefinition → Action (World Host) Result}
    (related : ∀ definition generation,
      judgement.Relates moment (first definition) (second (definition.inGeneration generation))) :
    judgement.Relates moment (definition id >>= first) (definition id >>= second) := by
  simp only [definition, reading, bind_assoc, pure_bind]
  refine judgement.consult fun left right resembles => ?_
  rcases resembles.registry.definition_cases id with
    ⟨isLeft, isRight⟩ | ⟨definition, generation, isLeft, isRight⟩
  · simp only [Registry.require, isLeft, isRight]
    exact judgement.fail (.inr (Error.IsOrdinary.unknownType id))
  · simp only [Registry.require, isLeft, isRight]
    exact related definition generation

theorem related_typeObject (id : TypeId) : judgement.Respects moment (typeObject id) :=
  related_definition_bind id fun _ _ => .pure (Value.ofType id)

theorem related_lookup (id : TypeId) (name : String) :
    judgement.Respects moment (lookup id name) :=
  related_reading fun _ _ resembles => (resembles.registry.lookup id name).symm

theorem related_targetOf_bind (value : Value) (kind : SlotKind)
    {first second : SlotTarget → Action (World Host) Result}
    (related : ∀ later, moment ≤ later → ∀ target other, judgement.Shows later kind target other →
      judgement.Relates later (first target) (second other)) :
    judgement.Relates moment (targetOf value kind >>= first) (targetOf value kind >>= second) := by
  simp only [targetOf, bind_assoc, pure_bind]
  exact judgement.entryOf value.typeId fun later isLater entry other shows =>
    related later isLater _ _ (shows.target kind)

/-- A slot that is not empty is used. -/
theorem related_unlessAbsent (value : Value) (kind : SlotKind)
    {absent absentOther : Action (World Host) Result}
    {use useOther : SlotTarget → Action (World Host) Result}
    (relatedAbsent : ∀ later, moment ≤ later → judgement.Relates later absent absentOther)
    (relatedUse : ∀ later, moment ≤ later → ∀ target other, target.Resembles other →
      judgement.Suits kind target → judgement.Relates later (use target) (useOther other)) :
    judgement.Relates moment
      (targetOf value kind >>= fun target => if target.isAbsent then absent else use target)
      (targetOf value kind >>= fun target =>
        if target.isAbsent then absentOther else useOther target) := by
  refine related_targetOf_bind value kind fun later isLater target other shows => ?_
  rw [(judgement.resembles shows).isAbsent]
  split
  · exact relatedAbsent later isLater
  · exact relatedUse later isLater target other (judgement.resembles shows)
      (judgement.suits shows)

theorem related_hasSlot (value : Value) (kind : SlotKind) :
    judgement.Respects moment (hasSlot value kind) := by
  refine related_targetOf_bind value kind fun later isLater target other shows => ?_
  rw [(judgement.resembles shows).isAbsent]
  exact .pure _

/-- The entries of two types are read one after the other. -/
theorem related_entries (left right : TypeId)
    {first second : SlotEntry → SlotEntry → Action (World Host) Result}
    (related : ∀ later, moment ≤ later → ∀ leftEntry rightEntry otherLeft otherRight,
      SlotEntry.Shows (judgement.Shows later) leftEntry otherLeft →
      SlotEntry.Shows (judgement.Shows later) rightEntry otherRight →
      judgement.Relates later (first leftEntry rightEntry) (second otherLeft otherRight)) :
    judgement.Relates moment
      (entryOf left >>= fun leftEntry => entryOf right >>= fun rightEntry =>
        first leftEntry rightEntry)
      (entryOf left >>= fun leftEntry => entryOf right >>= fun rightEntry =>
        second leftEntry rightEntry) :=
  show judgement.Relates moment
      (withEntries left right none fun leftEntry rightEntry _ => first leftEntry rightEntry)
      (withEntries left right none fun leftEntry rightEntry _ => second leftEntry rightEntry) from
    judgement.withEntries left right none
      fun later isLater leftEntry rightEntry _ otherLeft otherRight _ leftShows rightShows _ =>
        related later isLater leftEntry rightEntry otherLeft otherRight leftShows rightShows

theorem related_allocate (typeId : TypeId) (data : Data Value) (hasDictionary : Bool) :
    judgement.Respects moment (allocate typeId data hasDictionary) := by
  rw [allocate_eq]
  refine judgement.consult fun left right resembles => ?_
  rw [resembles.heap]
  exact Judgement.Relates.bind
    (judgement.changeHeap _ fun heap => .allocate heap typeId data hasDictionary) fun _ => .pure _

theorem related_text (content : String) : judgement.Respects moment (text content) :=
  related_allocate .str (.text content) false

theorem related_tuple (items : List Value) : judgement.Respects moment (tuple items) :=
  related_allocate .tuple (.tuple items) false

theorem related_iterator (items : List Value) : judgement.Respects moment (iterator items) :=
  related_allocate .iterator (.iterator items) false

end Action

/-! ### Requests -/

/-- An operation on values names no slot target and no call site, and it changes no definition of a
type without an operation that does. -/
def Request.IsOperation : Request → Prop
  | .newSite _ | .cached _ _ _ | .recordPlan _ _ _ _ | .target _ _ | .invokeUnary _ _
  | .invokeTernary _ _ _ _ _ | .invokeCompare _ _ _ _ | .invokeLength _ _ | .invokeInquiry _ _
  | .invokeHash _ _ | .invokeSize _ _ _ | .invokeStore _ _ _ _ | .invokeGetAttribute _ _ _
  | .invokeSetAttribute _ _ _ _ | .invokeDescriptorGet _ _ _ _ | .invokeCall _ _ _
  | .createType _ _ _ | .setTypeAttribute _ _ _ | .deleteTypeAttribute _ _ | .setBases _ _
  | .invalidate _ => False
  | _ => True

/-- Two perform functions are related when they answer operations in related ways, and also
comparisons of two operands by targets that are shown for the comparison slot. -/
structure Judgement.Performs {Moment : Type} [Preorder Moment] (judgement : Judgement Host Moment)
    (first second : Perform Host) : Prop where
  ask {moment : Moment} (request : Request) (isOperation : request.IsOperation) :
    judgement.Relates moment (first request) (second request)
  invokeCompare {moment : Moment} {target other : SlotTarget}
    (shows : judgement.Shows moment .richCompare target other) (operator : Comparison)
    (left right : Value) :
    judgement.Relates moment (first (.invokeCompare target operator left right))
      (second (.invokeCompare other operator left right))

end SlotDispatch
