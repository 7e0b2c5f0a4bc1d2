import SlotDispatch.Proofs.Dispatch.Plan
import SlotDispatch.Proofs.Machine.Reachable
/-!
The dispatch of operators. The main statement says in which order an operator on two or three operands
tries the slots of the operand types, that the first step that does not decline decides the outcome,
and how the operator goes on when all steps decline.
-/

namespace SlotDispatch

open SlotDispatch.Action SlotDispatch.Machine
open SlotDispatch.Invocation (operandArguments)

variable {Host : Type} {forged : Nat → Prop}

/-! ### Current entries -/

/-- A registered type has an entry when its slots resolve to the targets of the entry. -/
def Registry.HasEntry (registry : Registry) (id : TypeId) (entry : SlotEntry) : Prop :=
  ∃ definition, registry.definition? id = some definition ∧ registry.IsEntry id definition entry

theorem Registry.HasEntry.unique {registry : Registry} {id : TypeId} {entry other : SlotEntry}
    (hasEntry : registry.HasEntry id entry) (hasOther : registry.HasEntry id other) : entry = other := by
  obtain ⟨definition, found, isEntry⟩ := hasEntry
  obtain ⟨otherDefinition, otherFound, isOther⟩ := hasOther
  obtain rfl := Option.some.inj (found.symm.trans otherFound)
  exact isEntry.unique isOther

/-- An entry knows the subtype test of its type. -/
theorem Registry.HasEntry.isSubtypeOf_eq {registry : Registry} (wellFormed : registry.WellFormed)
    {id : TypeId} {entry : SlotEntry} (hasEntry : registry.HasEntry id entry) (other : TypeId) :
    entry.isSubtypeOf other = registry.isSubtype id other := by
  obtain ⟨definition, found, isEntry⟩ := hasEntry
  have isSelf := wellFormed.self_mem_linearization found
  rw [SlotEntry.isSubtypeOf, Registry.isSubtype, Registry.linearizationOf_of_definition? found,
    isEntry.linearization]
  by_cases same : id = other
  · subst same
    simp [isSelf]
  · simp [same]

/-- In a world that is alike, the current entry of a registered type is found, and a type that is not
registered is an error. -/
theorem Action.entryOf_cases {world start : World Host} (alike : World.Alike forged 0 world start)
    (id : TypeId) :
    (world.registry.definition? id = none ∧
        entryOf id start = some (.error (.unknownType id), start)) ∨
      ∃ entry next, entryOf id start = some (.ok entry, next) ∧ world.registry.HasEntry id entry ∧
        World.Alike forged 0 world next := by
  have sameDefinition := alike.definition? id
  cases found : world.registry.definition? id with
  | none =>
      rw [found] at sameDefinition
      exact .inl ⟨rfl, entryOf_of_unregistered alike.refreshes.coherent sameDefinition⟩
  | some definition =>
      rw [found] at sameDefinition
      obtain ⟨entry, next, isOutcome, isEntry, isAlike⟩ :=
        entryOf_succeeds (alike.symm.trans alike) sameDefinition
      have isCurrent := alike.refreshes.isEntry found isEntry
      exact .inr ⟨entry, next, isOutcome, ⟨definition, found, isCurrent⟩, alike.trans isAlike⟩

/-- A type keeps its entry while the registries agree on its ancestors. -/
theorem Registry.HasEntry.of_agreeOn {before after : Registry} (wellFormed : before.WellFormed)
    {id : TypeId} {entry : SlotEntry} (hasEntry : before.HasEntry id entry)
    (agree : Registry.AgreeOn before after (before.linearizationOf id)) :
    after.HasEntry id entry := by
  obtain ⟨definition, found, isEntry⟩ := hasEntry
  have isAncestor : id :: definition.linearization ⊆ before.linearizationOf id := by
    rw [Registry.linearizationOf_of_definition? found]
    exact List.cons_subset.2 ⟨wellFormed.self_mem_linearization found, List.Subset.refl _⟩
  exact isEntry.of_agreeOn wellFormed found (agree.mono isAncestor)

/-- The slot of a value is read off the current entry of its type. -/
theorem Action.targetOf_of_hasEntry {world : World Host} {value : Value} {entry : SlotEntry}
    (alike : World.Alike forged 0 world world) (hasEntry : world.registry.HasEntry value.typeId entry)
    (kind : SlotKind) :
    ∃ next, targetOf value kind world = some (.ok (entry.target kind), next) ∧
      World.Alike forged 0 world next := by
  obtain ⟨definition, found, isEntry⟩ := hasEntry
  obtain ⟨read, next, isRead, isReadEntry, isAlike⟩ := entryOf_succeeds alike found
  obtain rfl := isReadEntry.unique isEntry
  refine ⟨next, ?_, isAlike⟩
  rw [targetOf, bind_apply, isRead]
  rfl

/-! ### Runs of a plan -/

namespace Operator

variable (perform : Perform Host) (left right third : Value)

/-- All steps of a plan decline one after the other, and each step starts in the world that the step
before it left. -/
inductive Declines : Plan → World Host → World Host → Prop
  | nil (world : World Host) : Declines [] world world
  | cons {step : PlanStep} {rest : Plan} {world middle stop : World Host}
      (declines : Invocation.ternary perform step.target step.side left right third world =
        some (.ok .notImplemented, middle))
      (later : Declines rest middle stop) : Declines (step :: rest) world stop

/-- A plan runs to the outcome of the first step that does not decline. That outcome may be an error,
and no later step runs. When all steps decline, the plan goes on from the world that the last step
left. -/
inductive Runs (plan : Plan) (goesOn : World Host → Option (Except Error Value × World Host) → Prop)
    (start : World Host) : Option (Except Error Value × World Host) → Prop
  | decided {declined rest : Plan} {step : PlanStep} {middle : World Host}
      (isPlan : plan = declined ++ step :: rest)
      (declines : Declines perform left right third declined start middle)
      (decides : ∀ next, Invocation.ternary perform step.target step.side left right third middle ≠
        some (.ok .notImplemented, next)) :
      Runs plan goesOn start
        (Invocation.ternary perform step.target step.side left right third middle)
  | undecided {stop : World Host} {outcome : Option (Except Error Value × World Host)}
      (declines : Declines perform left right third plan start stop) (isOutcome : goesOn stop outcome) :
      Runs plan goesOn start outcome

variable {perform left right third}

theorem isNotImplemented_iff (value : Value) :
    value.isNotImplemented = true ↔ value = .notImplemented := by
  cases value <;> simp [Value.isNotImplemented]

/-- A declining step in front of a plan keeps its run. -/
theorem Runs.cons {plan : Plan} {step : PlanStep} {start middle : World Host}
    {goesOn : World Host → Option (Except Error Value × World Host) → Prop}
    {outcome : Option (Except Error Value × World Host)}
    (declines : Invocation.ternary perform step.target step.side left right third start =
      some (.ok .notImplemented, middle))
    (runs : Runs perform left right third plan goesOn middle outcome) :
    Runs perform left right third (step :: plan) goesOn start outcome := by
  cases runs with
  | decided isPlan earlier decides =>
      exact .decided (congrArg (step :: ·) isPlan) (.cons declines earlier) decides
  | undecided later isOutcome => exact .undecided (.cons declines later) isOutcome

/-- A step that does not decline ends the run of a plan that it starts. -/
theorem Runs.head {step : PlanStep} {rest : Plan} {start : World Host}
    {goesOn : World Host → Option (Except Error Value × World Host) → Prop}
    {outcome : Option (Except Error Value × World Host)}
    (isOutcome : Invocation.ternary perform step.target step.side left right third start = outcome)
    (decides : ∀ next, outcome ≠ some (.ok .notImplemented, next)) :
    Runs perform left right third (step :: rest) goesOn start outcome := by
  subst isOutcome
  exact .decided rfl (.nil start) decides

/-- A plan runs as its steps say. -/
theorem runs_runPlan {goesOn : World Host → Option (Except Error Value × World Host) → Prop}
    (continuation : Action (World Host) Value) (continues : ∀ stop, goesOn stop (continuation stop))
    (plan : Plan) (start : World Host) :
    Runs perform left right third plan goesOn start
      ((do
        match ← runPlan perform left right third plan with
        | some result => return result
        | none => continuation) start) := by
  induction plan generalizing start with
  | nil => exact .undecided (.nil start) (continues start)
  | cons step rest inductionHypothesis =>
      rw [runPlan, bind_assoc, bind_apply]
      rcases isStep : Invocation.ternary perform step.target step.side left right third start with
        _ | ⟨error | result, middle⟩
      · exact .head isStep (by simp)
      · exact .head isStep (by simp)
      · by_cases declines : result = .notImplemented
        · subst declines
          exact .cons isStep (inductionHypothesis middle)
        · have decides := (isNotImplemented_iff result).not.2 declines
          simp only [decides]
          exact .head isStep (by simpa using declines)

/-! ### After the plan -/

/-- When all steps have declined, a sum concatenates the left operand if that has a slot for it, a
product repeats the left operand or else the right one, and every other operator fails with its symbol
and the names of the operand types. -/
inductive Continues (perform : Perform Host) (kind : SlotKind) (left right third : Value)
    (leftEntry rightEntry : SlotEntry) (stop : World Host) :
    Option (Except Error Value × World Host) → Prop
  | concatenated (isSum : kind = .add) (hasSlot : (leftEntry.target .sqConcat).isAbsent = false) :
      Continues perform kind left right third leftEntry rightEntry stop
        (Invocation.binary perform (leftEntry.target .sqConcat) .left left right stop)
  | repeatedLeft (isProduct : kind = .multiply)
      (hasSlot : (leftEntry.target .sqRepeat).isAbsent = false) :
      Continues perform kind left right third leftEntry rightEntry stop
        (repeatSequence perform (leftEntry.target .sqRepeat) left right stop)
  | repeatedRight (isProduct : kind = .multiply)
      (noSlot : (leftEntry.target .sqRepeat).isAbsent = true)
      (hasSlot : (rightEntry.target .sqRepeat).isAbsent = false) :
      Continues perform kind left right third leftEntry rightEntry stop
        (repeatSequence perform (rightEntry.target .sqRepeat) right left stop)
  | unsupported (noConcat : kind = .add → (leftEntry.target .sqConcat).isAbsent = true)
      (noRepeat : kind = .multiply → (leftEntry.target .sqRepeat).isAbsent = true ∧
        (rightEntry.target .sqRepeat).isAbsent = true) :
      Continues perform kind left right third leftEntry rightEntry stop
        (some (.error (.unsupportedOperands kind.symbol
          ((left :: operandArguments right third).map stop.typeName)), stop))

/-- The fallback of an operator on two operands continues as its kind says. -/
theorem continues_fallback {perform : Perform Host} {kind : SlotKind} {left right : Value}
    {leftEntry rightEntry : SlotEntry} (stop : World Host) :
    Continues perform kind left right .none leftEntry rightEntry stop
      (fallback perform kind left right leftEntry rightEntry stop) := by
  rw [fallback]
  by_cases isSum : kind = .add
  · subst isSum
    simp only [SlotKind.sequenceFallback?]
    split
    · rename_i noSlot
      exact .unsupported (fun _ => noSlot) (fun isProduct => by cases isProduct)
    · rename_i hasSlot
      exact .concatenated rfl (Bool.eq_false_iff.2 hasSlot)
  · by_cases isProduct : kind = .multiply
    · subst isProduct
      simp only [SlotKind.sequenceFallback?]
      split
      · rename_i hasLeft
        exact .repeatedLeft rfl (by simpa using hasLeft)
      · rename_i noLeft
        have noLeft : (leftEntry.target .sqRepeat).isAbsent = true := by simpa using noLeft
        split
        · rename_i hasRight
          exact .repeatedRight rfl noLeft (by simpa using hasRight)
        · rename_i noRight
          exact .unsupported (fun isSum => by cases isSum) fun _ => ⟨noLeft, by simpa using noRight⟩
    · have noSequence : kind.sequenceFallback? = none := by
        cases kind <;> first | rfl | contradiction
      rw [noSequence]
      exact .unsupported (absurd · isSum) (absurd · isProduct)

/-! ### Dispatch -/

/-- The slots of the operands are read at the start, and a plan orders them. -/
structure Prepares (forged : Nat → Prop) (kind : SlotKind) (left right third : Value)
    (world start : World Host) (leftEntry rightEntry : SlotEntry) (plan : Plan) : Prop where
  alike : World.Alike forged 0 world start
  forLeft : world.registry.HasEntry left.typeId leftEntry
  forRight : world.registry.HasEntry right.typeId rightEntry
  inOrder : ∃ thirdSlots? : Option SlotEntry, thirdSlots?.isNone = third.isNone ∧
    (∀ thirdSlots, thirdSlots? = some thirdSlots →
      world.registry.HasEntry third.typeId thirdSlots) ∧
    plan.InOrder (left.typeId = right.typeId)
      (world.registry.isSubtype right.typeId left.typeId = true) (leftEntry.target kind)
      (rightEntry.target kind) (thirdSlots?.map fun thirdSlots => thirdSlots.target kind)

/-- An operator fails when the type of an operand is not registered. Otherwise it runs the plan over
the current slots of the operand types, and continues when all steps decline. -/
inductive Dispatches (forged : Nat → Prop) (perform : Perform Host) (kind : SlotKind)
    (left right third : Value) (world : World Host) :
    Option (Except Error Value × World Host) → Prop
  | unknown {operand : Value} {start : World Host}
      (isOperand : operand ∈ left :: operandArguments right third)
      (unregistered : world.registry.definition? operand.typeId = none)
      (alike : World.Alike forged 0 world start) :
      Dispatches forged perform kind left right third world
        (some (.error (.unknownType operand.typeId), start))
  | planned {start : World Host} {leftEntry rightEntry : SlotEntry} {plan : Plan}
      {outcome : Option (Except Error Value × World Host)}
      (prepares : Prepares forged kind left right third world start leftEntry rightEntry plan)
      (runs : Runs perform left right third plan
        (Continues perform kind left right third leftEntry rightEntry) start outcome) :
      Dispatches forged perform kind left right third world outcome

/-- The plan over current entries is in order. -/
theorem prepares_ternary {kind : SlotKind} {left right third : Value} {world start : World Host}
    {leftEntry rightEntry : SlotEntry} {thirdSlots? : Option SlotEntry}
    (alike : World.Alike forged 0 world start)
    (forLeft : world.registry.HasEntry left.typeId leftEntry)
    (forRight : world.registry.HasEntry right.typeId rightEntry)
    (isThird : thirdSlots?.isNone = third.isNone)
    (forThird : ∀ thirdSlots, thirdSlots? = some thirdSlots →
      world.registry.HasEntry third.typeId thirdSlots) :
    Prepares forged kind left right third world start leftEntry rightEntry
      (Plan.ternary kind leftEntry rightEntry thirdSlots?) := by
  refine ⟨alike, forLeft, forRight, thirdSlots?, isThird, forThird, ?_⟩
  have inOrder := Plan.inOrder_ternary kind leftEntry rightEntry thirdSlots?
  have leftType : leftEntry.typeId = left.typeId := by
    obtain ⟨_, _, isEntry⟩ := forLeft
    exact isEntry.typeId
  have rightType : rightEntry.typeId = right.typeId := by
    obtain ⟨_, _, isEntry⟩ := forRight
    exact isEntry.typeId
  rwa [leftType, rightType, forRight.isSubtypeOf_eq alike.coherent.wellFormed] at inOrder

variable {perform : Perform Host} {world : World Host}

/-- An operator that first reads the entry of an operand fails when its type is not registered, and
dispatches when the operator dispatches with the current entry. -/
theorem Dispatches.read {kind : SlotKind} {left right third operand : Value} {start : World Host}
    (isOperand : operand ∈ left :: operandArguments right third)
    (alike : World.Alike forged 0 world start) {goesOn : SlotEntry → Action (World Host) Value}
    (later : ∀ entry next, world.registry.HasEntry operand.typeId entry →
      World.Alike forged 0 world next →
      Dispatches forged perform kind left right third world (goesOn entry next)) :
    Dispatches forged perform kind left right third world
      ((do goesOn (← entryOf operand.typeId)) start) := by
  rw [bind_apply]
  rcases entryOf_cases alike operand.typeId with
    ⟨unregistered, isOutcome⟩ | ⟨entry, next, isOutcome, hasEntry, isAlike⟩
  · rw [isOutcome]
    exact .unknown isOperand unregistered alike
  · rw [isOutcome]
    exact later entry next hasEntry isAlike

/-- An operator on three operands dispatches on them. -/
theorem dispatches_ternary (alike : World.Alike forged 0 world world) {kind : SlotKind}
    (isTernary : kind.isTernary = true) (left right third : Value) :
    Dispatches forged perform kind left right third world
      (ternary perform kind left right third world) := by
  have notSequence : kind ≠ .add ∧ kind ≠ .multiply := by
    constructor <;> rintro rfl <;> cases isTernary
  have isRight : right ∈ left :: operandArguments right third := by
    rw [operandArguments]
    split <;> simp
  simp only [ternary, isTernary, Bool.not_true, Bool.false_eq_true, if_false]
  refine .read (List.mem_cons_self ..) alike fun leftEntry afterLeft forLeft alikeLeft => ?_
  refine .read isRight alikeLeft fun rightEntry afterRight forRight alikeRight => ?_
  have goesOn : ∀ stop, Continues perform kind left right third leftEntry rightEntry stop
      (unsupported kind.symbol (left :: operandArguments right third) stop) := fun stop =>
    .unsupported (absurd · notSequence.1) (absurd · notSequence.2)
  cases isNone : third.isNone with
  | true =>
      have prepares : Prepares forged kind left right third world afterRight leftEntry rightEntry
          (Plan.ternary kind leftEntry rightEntry none) :=
        prepares_ternary alikeRight forLeft forRight isNone.symm (by simp)
      exact .planned prepares (runs_runPlan _ goesOn _ _)
  | false =>
      simp only [Bool.false_eq_true, if_false, map_eq_pure_bind, bind_assoc]
      have isThird : third ∈ left :: operandArguments right third := by
        simp [operandArguments, isNone]
      refine .read isThird alikeRight fun thirdSlots afterThird forThird alikeThird => ?_
      have prepares : Prepares forged kind left right third world afterThird leftEntry rightEntry
          (Plan.ternary kind leftEntry rightEntry (some thirdSlots)) :=
        prepares_ternary alikeThird forLeft forRight isNone.symm (by simpa using forThird)
      exact .planned prepares (runs_runPlan _ goesOn _ _)

/-- An operator on two operands dispatches on them unless its result is computed at once. -/
theorem dispatches_binary (alike : World.Alike forged 0 world world) {kind : SlotKind}
    (isBinary : kind.isBinary = true) {left right : Value}
    (notAtOnce : integerResult? kind left right = none) :
    Dispatches forged perform kind left right .none world
      (binary perform kind left right world) := by
  rw [binary]
  by_cases isTernary : kind.isTernary = true
  · rw [if_pos isTernary]
    exact dispatches_ternary alike isTernary left right .none
  have isNumber : kind.isBinaryNumber = true := by
    rw [SlotKind.isBinary, Bool.or_eq_true] at isBinary
    exact isBinary.resolve_right isTernary
  rw [if_neg isTernary, if_neg (by simp [isNumber]), notAtOnce]
  have isRight : right ∈ left :: operandArguments right .none :=
    List.mem_cons_of_mem left (List.mem_cons_self ..)
  refine .read (List.mem_cons_self ..) alike fun leftEntry afterLeft forLeft alikeLeft => ?_
  refine .read isRight alikeLeft fun rightEntry afterRight forRight alikeRight => ?_
  have prepares : Prepares forged kind left right .none world afterRight leftEntry rightEntry
      (Plan.ternary kind leftEntry rightEntry none) :=
    prepares_ternary alikeRight forLeft forRight rfl (by simp)
  exact .planned prepares (runs_runPlan _ continues_fallback _ _)

end Operator

/-- In a reachable world, an operator on two operands and a power of three operands dispatch over the
current slots of the operand types, for any program and any depth. -/
theorem World.perform_dispatches {world : World Host} (reachable : World.Reachable forged world)
    (program : Program Host) (depth : Nat) (left right : Value) :
    (∀ kind : SlotKind, kind.isBinary = true → Operator.integerResult? kind left right = none →
      Operator.Dispatches forged (perform program depth) kind left right .none world
        (perform program (depth + 1) (.binary kind left right) world)) ∧
    ∀ third, Operator.Dispatches forged (perform program depth) .power left right third world
      (perform program (depth + 1) (.ternary .power left right third) world) :=
  ⟨fun _ isBinary notAtOnce => Operator.dispatches_binary reachable.alike isBinary notAtOnce,
    fun third => Operator.dispatches_ternary reachable.alike rfl left right third⟩

/-- A sum of an instance of a class and an instance of its heir tries the reflected method of the heir
first. -/
theorem World.perform_dispatches_heir :
    ∃ (program : Program Unit) (world : World Unit), World.Reachable (fun _ => True) world ∧
      ∃ left right : Value, left.typeId = 13 ∧ right.typeId = 14 ∧
        world.registry.isSubtype 14 13 = true ∧
        ((perform program 4 (.binary .add left right) world).bind fun answer =>
          answer.1.toOption.bind Value.integer?) = some 2 ∧
        Operator.Dispatches (fun _ => True) (perform program 3) .add left right .none world
          (perform program 4 (.binary .add left right) world) := by
  let program : Program Unit := fun code _ =>
    match code with
    | 0 => do
        let forward ← Body.request (.allocate .function (.function "forward" 1) false)
        let reflected ← Body.request (.allocate .function (.function "reflected" 2) false)
        let base ← Body.request (.createType "Base" [] ⟨[("__add__", forward)]⟩)
        let _ ← Body.request (.createType "Heir" [base] ⟨[("__radd__", reflected)]⟩)
        return .none
    | code => return .int (Int64.ofNat code)
  let left : Value := .object ⟨.allocated 2, 13⟩ .plain
  let right : Value := .object ⟨.allocated 3, 14⟩ .plain
  have isMade :
      ((perform program 2 (.apply "make" 0 []) (.initial .default ())).map fun answer =>
        (answer.2.registry.isSubtype 14 13,
          (perform program 4 (.binary .add left right) answer.2).bind fun answer =>
            answer.1.toOption.bind Value.integer?)) =
        some (true, some 2) := by
    decide +kernel
  obtain ⟨⟨outcome, world⟩, isOutcome, isMade⟩ := Option.map_eq_some_iff.1 isMade
  have reachable := World.Reachable.of_outcome isOutcome
  have dispatches := World.perform_dispatches reachable program 3 left right
  exact ⟨program, world, reachable, left, right, rfl, rfl, congrArg Prod.fst isMade,
    congrArg Prod.snd isMade, dispatches.1 .add rfl rfl⟩

end SlotDispatch
