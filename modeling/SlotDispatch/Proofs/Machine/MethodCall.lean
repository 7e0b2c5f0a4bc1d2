import SlotDispatch.Proofs.Machine.Dispatch
import SlotDispatch.Proofs.Machine.Shape
import SlotDispatch.Proofs.Type.Rebuilding
/-!
The method calls that an action makes. An action that is given a machine makes some calls of special
methods in order, and it makes no other use of the machine. The main statement says that its outcome
depends on the machine through these calls only.
-/

namespace SlotDispatch

open SlotDispatch.Action SlotDispatch.Machine

variable {Host Result Next : Type}

/-! ### Types that keep their slots -/

/-- A registry keeps its types when every type has the same slots afterwards. -/
def Registry.KeepsTypes (before after : Registry) : Prop :=
  ∀ ids, AgreeOn before after ids

namespace Registry.KeepsTypes

variable {before middle after : Registry}

theorem of_definitions (same : after.definitions = before.definitions) : KeepsTypes before after :=
  AgreeOn.of_definitions same

theorem refl (registry : Registry) : KeepsTypes registry registry :=
  of_definitions rfl

theorem trans (first : KeepsTypes before middle) (second : KeepsTypes middle after) :
    KeepsTypes before after := by
  intro ids id isMember old found
  obtain ⟨between, foundBetween, sameFirst⟩ := first ids id isMember old found
  obtain ⟨new, foundNew, sameSecond⟩ := second ids id isMember between foundBetween
  exact ⟨new, foundNew, sameFirst.trans sameSecond⟩

end Registry.KeepsTypes

/-- An action keeps the types of every world, whatever its outcome is. -/
def Action.KeepsTypes (action : Action (World Host) Result) : Prop :=
  Follows (fun before after => before.registry.KeepsTypes after.registry) action

namespace Action.KeepsTypes

theorem pure (result : Result) : KeepsTypes (Pure.pure result : Action (World Host) Result) :=
  Follows.pure (fun world => .refl world.registry) result

theorem bind {first : Action (World Host) Result} {second : Result → Action (World Host) Next}
    (keeps : KeepsTypes first) (keepsLater : ∀ result, KeepsTypes (second result)) :
    KeepsTypes (first >>= second) :=
  Follows.bind .trans keeps keepsLater

/-- An action keeps the types when it leaves the definitions alone. -/
theorem of_definitions {action : Action (World Host) Result}
    (same : ∀ world outcome next, action world = some (outcome, next) →
      next.registry.definitions = world.registry.definitions) : KeepsTypes action :=
  fun world outcome next isOutcome => .of_definitions (same world outcome next isOutcome)

theorem ofExcept (outcome : Except Error Result) :
    KeepsTypes (Action.ofExcept outcome : Action (World Host) Result) :=
  Follows.ofExcept (fun world => .refl world.registry) outcome

theorem fail (error : Error) : KeepsTypes (Action.fail error : Action (World Host) Result) :=
  ofExcept (.error error)

theorem current_bind {second : World Host → Action (World Host) Result}
    (keeps : ∀ world, KeepsTypes (second world)) : KeepsTypes (current >>= second) :=
  Follows.current_bind keeps

theorem failFor (error : String → Error) (value : Value) :
    KeepsTypes (Action.failFor error value : Action (World Host) Result) :=
  current_bind fun _ => fail _

theorem noted (callable : Callable) (arguments : List Value) (toValue : Result → Value)
    {call : Action (World Host) Result} (keeps : KeepsTypes call) :
    KeepsTypes (Action.noted callable arguments toValue call) := by
  intro world outcome next isOutcome
  obtain ⟨⟨inner, last⟩, isInner, isLast⟩ := Option.map_eq_some_iff.1 isOutcome
  obtain ⟨_, rfl⟩ := Prod.mk.inj isLast
  have kept := keeps _ inner last isInner
  exact kept

theorem allocate (typeId : TypeId) (data : Data Value) (hasDictionary : Bool) :
    KeepsTypes (Action.allocate typeId data hasDictionary : Action (World Host) Value) := by
  refine of_definitions fun world outcome next isOutcome => ?_
  obtain ⟨_, rfl⟩ := Prod.mk.inj (Option.some.inj isOutcome)
  rfl

theorem entryOf (id : TypeId) : KeepsTypes (Action.entryOf id : Action (World Host) SlotEntry) := by
  refine of_definitions fun world outcome next isOutcome => ?_
  obtain ⟨⟨inner, registry⟩, isInner, isNext⟩ := Option.map_eq_some_iff.1 isOutcome
  obtain ⟨_, rfl⟩ := Prod.mk.inj isNext
  exact Registry.keepsDefinitions_entryOf id _ _ _ isInner

theorem targetOf (value : Value) (kind : SlotKind) :
    KeepsTypes (Action.targetOf value kind : Action (World Host) SlotTarget) :=
  (entryOf value.typeId).bind fun _ => pure _

theorem hasSlot (value : Value) (kind : SlotKind) :
    KeepsTypes (Action.hasSlot value kind : Action (World Host) Bool) :=
  (targetOf value kind).bind fun _ => pure _

end Action.KeepsTypes

/-! ### Operations of operators -/

/-- The operations that an operator comes to fill these slots. -/
def SlotKind.isOfOperator (kind : SlotKind) : Bool :=
  kind.isBinary || [.sqConcat, .sqRepeat, .index].contains kind

/-- An implementation keeps the types when it does for all operands. -/
inductive Implementation.KeepsTypes : Implementation Host → Prop
  | unary {run : Value → Action (World Host) Value}
      (keeps : ∀ operand, (run operand).KeepsTypes) : KeepsTypes (.unary run)
  | binary {run : Value → Value → Action (World Host) Value}
      (keeps : ∀ left right, (run left right).KeepsTypes) : KeepsTypes (.binary run)
  | ternary {run : Value → Value → Value → Action (World Host) Value}
      (keeps : ∀ left right third, (run left right third).KeepsTypes) : KeepsTypes (.ternary run)
  | size {run : Value → Int64 → Action (World Host) Value}
      (keeps : ∀ operand count, (run operand count).KeepsTypes) : KeepsTypes (.size run)

namespace Builtin

theorem Integer.keepsTypes_receiver (dunder : String) (value : Value) :
    (Integer.receiver dunder value : Action (World Host) Int64).KeepsTypes := by
  rw [Integer.receiver]
  cases value.integer? with
  | none => exact .failFor _ value
  | some number => exact .pure number

theorem Text.keepsTypes_receiver (dunder : String) (value : Value) :
    (Text.receiver dunder value : Action (World Host) String).KeepsTypes := by
  rw [Text.receiver]
  cases value.text? with
  | none => exact .failFor _ value
  | some content => exact .pure content

theorem Tuple.keepsTypes_receiver (dunder : String) (value : Value) :
    (Tuple.receiver dunder value : Action (World Host) (List Value)).KeepsTypes := by
  rw [Tuple.receiver]
  cases value.items? with
  | none => exact .failFor _ value
  | some items => exact .pure items

theorem Integer.keepsTypes_divmod (left right : Value) :
    (Integer.divmod left right : Action (World Host) Value).KeepsTypes := by
  unfold Integer.divmod
  split
  · exact (KeepsTypes.ofExcept _).bind fun _ => .allocate _ _ _
  · exact .pure _

theorem Floating.keepsTypes_divmod (left right : Value) :
    (Floating.divmod left right : Action (World Host) Value).KeepsTypes := by
  unfold Floating.divmod
  split
  · split
    · exact .fail _
    · exact .allocate _ _ _
  · exact .pure _

theorem Text.keepsTypes_concat (left right : Value) :
    (Text.concat left right : Action (World Host) Value).KeepsTypes := by
  refine (Text.keepsTypes_receiver _ left).bind fun content => ?_
  split
  · exact .allocate _ _ _
  · exact .failFor _ right

theorem Tuple.keepsTypes_concat (left right : Value) :
    (Tuple.concat left right : Action (World Host) Value).KeepsTypes := by
  refine (Tuple.keepsTypes_receiver _ left).bind fun items => ?_
  split
  · exact .allocate _ _ _
  · exact .failFor _ right

theorem Text.keepsTypes_repetition (value : Value) (count : Int64) :
    (Text.repetition value count : Action (World Host) Value).KeepsTypes := by
  refine (Text.keepsTypes_receiver _ value).bind fun content => ?_
  split
  · exact .allocate _ _ _
  · exact .current_bind fun _ => (KeepsTypes.ofExcept _).bind fun _ =>
      (KeepsTypes.ofExcept _).bind fun _ => .allocate _ _ _

theorem Tuple.keepsTypes_repetition (value : Value) (count : Int64) :
    (Tuple.repetition value count : Action (World Host) Value).KeepsTypes := by
  refine (Tuple.keepsTypes_receiver _ value).bind fun items => ?_
  split
  · exact .allocate _ _ _
  · exact .current_bind fun _ => (KeepsTypes.ofExcept _).bind fun _ =>
      (KeepsTypes.ofExcept _).bind fun _ => .allocate _ _ _

variable {operation : Builtin} (isOfOperator : operation.kind.isOfOperator = true)

include isOfOperator

/-- No operation of an operator changes a type. -/
theorem keepsTypes_implementation (perform : Perform Host) :
    (operation.implementation perform).KeepsTypes := by
  cases operation with
  | intIndex =>
      exact .unary fun operand => (Integer.keepsTypes_receiver _ operand).bind fun _ => .pure _
  | intDivmod => exact .binary Integer.keepsTypes_divmod
  | floatDivmod => exact .binary Floating.keepsTypes_divmod
  | strConcat => exact .binary Text.keepsTypes_concat
  | tupleConcat => exact .binary Tuple.keepsTypes_concat
  | strRepeat => exact .size Text.keepsTypes_repetition
  | tupleRepeat => exact .size Tuple.keepsTypes_repetition
  | intPower | floatPower => exact .ternary fun _ _ _ => .ofExcept _
  | _ => first
    | exact .binary fun _ _ => .ofExcept _
    | cases isOfOperator

/-- An operation of an operator asks the machine for nothing. -/
theorem implementation_eq (first second : Perform Host) :
    operation.implementation first = operation.implementation second := by
  cases operation <;> first | rfl | cases isOfOperator

end Builtin

namespace Invocation

section Operation

variable {operation : Builtin} (isOfOperator : operation.kind.isOfOperator = true)

include isOfOperator

theorem keepsTypes_builtinUnary (perform : Perform Host) (operand : Value) :
    (builtinUnary perform operation operand).KeepsTypes := by
  have keeps := operation.keepsTypes_implementation isOfOperator perform
  rw [builtinUnary]
  generalize operation.implementation perform = implementation at keeps
  cases keeps with
  | unary keeps => exact .noted _ _ _ (keeps operand)
  | _ => exact .fail _

theorem keepsTypes_builtinTernary (perform : Perform Host) (left right third : Value) :
    (builtinTernary perform operation left right third).KeepsTypes := by
  have keeps := operation.keepsTypes_implementation isOfOperator perform
  rw [builtinTernary]
  generalize operation.implementation perform = implementation at keeps
  cases keeps with
  | binary keeps =>
      dsimp only
      split
      · exact .noted _ _ _ (keeps left right)
      · exact .fail _
  | ternary keeps => exact .noted _ _ _ (keeps left right third)
  | _ => exact .fail _

theorem builtinUnary_eq (first second : Perform Host) (operand : Value) :
    builtinUnary first operation operand = builtinUnary second operation operand := by
  rw [builtinUnary, operation.implementation_eq isOfOperator first second, builtinUnary]

theorem builtinTernary_eq (first second : Perform Host) (left right third : Value) :
    builtinTernary first operation left right third =
      builtinTernary second operation left right third := by
  rw [builtinTernary, operation.implementation_eq isOfOperator first second, builtinTernary]

end Operation

section Target

variable {kind : SlotKind} (isOfOperator : kind.isOfOperator = true) {target : SlotTarget}
  (fits : target.Fits kind)

include isOfOperator fits

theorem keepsTypes_size (perform : Perform Host) (operand : Value) (count : Int64) :
    (size perform operand count target).KeepsTypes := by
  induction target with
  | absent => exact .pure _
  | override definition inherited inductionHypothesis => exact inductionHypothesis fits.2
  | builtin operation =>
      have isKind : operation.kind = kind := fits
      have keeps := operation.keepsTypes_implementation (isKind ▸ isOfOperator) perform
      rw [size]
      generalize operation.implementation perform = implementation at keeps
      cases keeps with
      | size keeps => exact .noted _ _ _ (keeps operand count)
      | _ => exact .fail _

theorem size_eq (first second : Perform Host) (operand : Value) (count : Int64) :
    size first operand count target = size second operand count target := by
  induction target with
  | absent => rfl
  | override definition inherited inductionHypothesis => exact inductionHypothesis fits.2
  | builtin operation =>
      have isKind : operation.kind = kind := fits
      rw [size, operation.implementation_eq (isKind ▸ isOfOperator) first second, size]

end Target

end Invocation

/-! ### Calls of special methods -/

/-- A special method is called with a receiver and arguments. A dispatch makes the call for a side, or
it makes the call without a side for the index of a count. -/
structure MethodCall (Host : Type) where
  side? : Option Side
  method : Value
  receiver : Value
  arguments : List Value
  start : World Host

namespace MethodCall

def run (call : MethodCall Host) (machine : Perform Host) : Action (World Host) Value :=
  Invocation.callSpecial machine call.method call.receiver call.arguments

/-- A call keeps the types when they have the same slots after it, whatever its outcome is. -/
def KeepsTypes (machine : Perform Host) (call : MethodCall Host) : Prop :=
  ∀ outcome next, call.run machine call.start = some (outcome, next) →
    call.start.registry.KeepsTypes next.registry

end MethodCall

/-- An action makes some calls in order when it only asks the machine for these calls. What it does
beside them keeps the types. -/
inductive Action.Makes (machine : Perform Host) :
    {Result : Type} → (Perform Host → Action (World Host) Result) → World Host →
      List (MethodCall Host) → Prop
  | quiet {Result : Type} {action : Perform Host → Action (World Host) Result} {world : World Host}
      (asksNothing : ∀ other, action other = action machine)
      (keepsTypes : (action machine).KeepsTypes) : Makes machine action world []
  | called (call : MethodCall Host) : Makes machine call.run call.start [call]
  | stopped {Result Next : Type} {first : Perform Host → Action (World Host) Result}
      {second : Perform Host → Result → Action (World Host) Next} {world : World Host}
      {calls : List (MethodCall Host)} (makes : Makes machine first world calls)
      (stops : ∀ result next, first machine world ≠ some (.ok result, next)) :
      Makes machine (fun machine => first machine >>= second machine) world calls
  | continued {Result Next : Type} {first : Perform Host → Action (World Host) Result}
      {second : Perform Host → Result → Action (World Host) Next} {world next : World Host}
      {result : Result} {calls later : List (MethodCall Host)}
      (makes : Makes machine first world calls)
      (continues : first machine world = some (.ok result, next))
      (makesLater : Makes machine (fun machine => second machine result) next later) :
      Makes machine (fun machine => first machine >>= second machine) world (calls ++ later)

namespace Action.Makes

variable {machine : Perform Host} {action : Perform Host → Action (World Host) Result}
  {world : World Host} {calls : List (MethodCall Host)}

/-- The outcome is the same with every machine that gives the calls the same outcomes. -/
theorem outcome_eq (makes : Makes machine action world calls) {other : Perform Host}
    (sameCalls : ∀ call ∈ calls, call.run other call.start = call.run machine call.start) :
    action other world = action machine world := by
  induction makes with
  | quiet asksNothing _ => rw [asksNothing other]
  | called call => exact sameCalls call (List.mem_singleton_self call)
  | @stopped _ _ first _ world _ _ stops inductionHypothesis =>
      dsimp only
      rw [bind_apply, bind_apply, inductionHypothesis sameCalls]
      rcases isFirst : first machine world with _ | ⟨error | result, next⟩
      · rfl
      · rfl
      · exact absurd isFirst (stops result next)
  | continued _ continues _ inductionHypothesis inductionHypothesisLater =>
      dsimp only
      rw [bind_apply, bind_apply,
        inductionHypothesis fun call isCall => sameCalls call (List.mem_append_left _ isCall), continues]
      exact inductionHypothesisLater fun call isCall => sameCalls call (List.mem_append_right _ isCall)

/-- An action keeps the types when all its calls do. -/
theorem keepsTypes (makes : Makes machine action world calls)
    (keeps : ∀ call ∈ calls, call.KeepsTypes machine) {outcome : Except Error Result}
    {next : World Host} (isOutcome : action machine world = some (outcome, next)) :
    world.registry.KeepsTypes next.registry := by
  induction makes generalizing next with
  | quiet _ keepsTypes => exact keepsTypes _ outcome next isOutcome
  | called call => exact keeps call (List.mem_singleton_self call) outcome next isOutcome
  | @stopped _ _ first _ world _ _ stops inductionHypothesis =>
      dsimp only at isOutcome
      rw [bind_apply] at isOutcome
      rcases isFirst : first machine world with _ | ⟨error | result, middle⟩ <;>
        rw [isFirst] at isOutcome
      · cases isOutcome
      · obtain ⟨_, rfl⟩ := Prod.mk.inj (Option.some.inj isOutcome)
        exact inductionHypothesis keeps isFirst
      · exact absurd isFirst (stops result middle)
  | continued _ continues _ inductionHypothesis inductionHypothesisLater =>
      dsimp only at isOutcome
      rw [bind_apply, continues] at isOutcome
      exact (inductionHypothesis (fun call isCall => keeps call (List.mem_append_left _ isCall))
        continues).trans (inductionHypothesisLater
          (fun call isCall => keeps call (List.mem_append_right _ isCall)) isOutcome)

end Action.Makes

/-! ### Rules for the calls of an action -/

/-- From every sound world an action makes calls that are allowed, as long as the types stay as they
were in a registry. -/
def Action.MakesOnly (machine : Perform Host) (registry : Registry)
    (allows : List (MethodCall Host) → Prop) (action : Perform Host → Action (World Host) Result) :
    Prop :=
  ∀ world : World Host, world.Sound → ∃ calls, Makes machine action world calls ∧
    (registry.KeepsTypes world.registry → (∀ call ∈ calls, call.KeepsTypes machine) → allows calls)

namespace Action.MakesOnly

variable {machine : Perform Host} {registry : Registry} {allows weaker : List (MethodCall Host) → Prop}
  {action : Perform Host → Action (World Host) Result}

theorem mono (makes : MakesOnly machine registry allows action)
    (implies : ∀ calls, allows calls → weaker calls) : MakesOnly machine registry weaker action := by
  intro world sound
  obtain ⟨calls, isMade, areAllowed⟩ := makes world sound
  exact ⟨calls, isMade, fun same keeps => implies calls (areAllowed same keeps)⟩

theorem quiet (asksNothing : ∀ other, action other = action machine)
    (keepsTypes : (action machine).KeepsTypes) (isAllowed : allows []) :
    MakesOnly machine registry allows action :=
  fun _ _ => ⟨[], .quiet asksNothing keepsTypes, fun _ _ => isAllowed⟩

theorem pure (result : Result) (isAllowed : allows []) :
    MakesOnly machine registry allows fun _ => Pure.pure result :=
  .quiet (fun _ => rfl) (.pure result) isAllowed

theorem called (side? : Option Side) (method receiver : Value) (arguments : List Value)
    (isAllowed : ∀ start, allows [⟨side?, method, receiver, arguments, start⟩]) :
    MakesOnly machine registry allows fun machine =>
      Invocation.callSpecial machine method receiver arguments :=
  fun world _ => ⟨_, .called ⟨side?, method, receiver, arguments, world⟩, fun _ _ => isAllowed world⟩

/-- What follows an action makes its calls behind those of the action. The first calls keep the types, so
it still starts with the types of the registry. -/
theorem bind {first : Perform Host → Action (World Host) Result}
    {second : Perform Host → Result → Action (World Host) Next}
    {before after whole : List (MethodCall Host) → Prop}
    (makes : MakesOnly machine registry before first) (keepsSound : (first machine).KeepsSound)
    (makesLater : ∀ result, MakesOnly machine registry after fun machine => second machine result)
    (stops : ∀ calls, before calls → whole calls)
    (goesOn : ∀ calls later, before calls → after later → whole (calls ++ later)) :
    MakesOnly machine registry whole fun machine => first machine >>= second machine := by
  intro world sound
  obtain ⟨calls, isMade, areAllowed⟩ := makes world sound
  by_cases hasResult : ∃ result next, first machine world = some (.ok result, next)
  · obtain ⟨result, next, continues⟩ := hasResult
    obtain ⟨later, isMadeLater, areAllowedLater⟩ :=
      makesLater result next (keepsSound world _ _ continues sound)
    refine ⟨calls ++ later, .continued isMade continues isMadeLater, fun same keeps => ?_⟩
    obtain ⟨keepsFirst, keepsLater⟩ := List.forall_mem_append.1 keeps
    have stillSame := same.trans (isMade.keepsTypes keepsFirst continues)
    exact goesOn calls later (areAllowed same keepsFirst) (areAllowedLater stillSame keepsLater)
  · refine ⟨calls, .stopped isMade fun result next isResult => hasResult ⟨result, next, isResult⟩, ?_⟩
    exact fun same keeps => stops calls (areAllowed same keeps)

/-- A slot that is read while the types stay is the slot of the entry that the type has had. -/
theorem targetOf_bind (wellFormed : registry.WellFormed) {value : Value} {entry : SlotEntry}
    (hasEntry : registry.HasEntry value.typeId entry) {kind : SlotKind}
    {second : Perform Host → SlotTarget → Action (World Host) Result} (isAllowed : allows [])
    (makesLater : ∀ target, target.Fits kind →
      MakesOnly machine registry (fun calls => target = entry.target kind → allows calls)
        fun machine => second machine target) :
    MakesOnly machine registry allows fun machine => targetOf value kind >>= second machine := by
  intro world sound
  have isQuiet : Makes machine (fun _ => targetOf value kind) world [] :=
    .quiet (fun _ => rfl) (.targetOf value kind)
  cases found : world.registry.definition? value.typeId with
  | none =>
      have fails : targetOf value kind world = some (.error (.unknownType value.typeId), world) := by
        rw [targetOf, bind_apply, entryOf_of_unregistered sound.coherent found]
      exact ⟨[], .stopped isQuiet (by simp [fails]), fun _ _ => isAllowed⟩
  | some definition =>
      obtain ⟨read, refreshed, isEntryOf, isRead, refreshes⟩ :=
        Registry.entryOf_succeeds sound.coherent found
      have isTarget : targetOf value kind world =
          some (.ok (read.target kind), { world with registry := refreshed }) := by
        rw [targetOf, bind_apply, Action.entryOf, onRegistry, onPart, isEntryOf]
        rfl
      obtain ⟨calls, isMade, areAllowed⟩ := makesLater (read.target kind) (isRead.fits kind)
        { world with registry := refreshed } (sound.refreshed refreshes rfl)
      refine ⟨calls, .continued isQuiet isTarget isMade, fun same keeps => ?_⟩
      obtain rfl : read = entry :=
        Registry.HasEntry.unique ⟨definition, found, isRead⟩ (hasEntry.of_agreeOn wellFormed (same _))
      exact areAllowed (same.trans (.of_definitions refreshes.definitions)) keeps rfl

end Action.MakesOnly

end SlotDispatch
