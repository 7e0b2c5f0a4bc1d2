import SlotDispatch.Proofs.Machine.Dispatch
import SlotDispatch.Proofs.Machine.SlotIdentity
import SlotDispatch.Proofs.Type.Delegation
/-!
The reflected implementations that a dispatch tries. The main statements say that a dispatch in which
all steps decline has tried the reflected implementation of the right operand, unless both operands
share an override that inherits a builtin operation for it, and that the operation is then passed by.
-/

namespace SlotDispatch

open SlotDispatch.Action SlotDispatch.Machine

variable {Host : Type} {forged : Nat → Prop}

/-! ### Inherited methods -/

namespace Registry

variable {registry : Registry} {kind : SlotKind} {dunder : String}

/-- A method that an override reaches is bound by the override itself. -/
theorem ResolvesAlong.binding_of_reach (wellFormed : registry.WellFormed) {ids : List TypeId}
    {override : Override} {inherited : SlotTarget}
    (resolves : registry.ResolvesAlong kind ids (.override override inherited))
    (isMember : dunder ∈ kind.dunders) {method : Value}
    (reaches : (SlotTarget.override override inherited).reach dunder = .method method) :
    override.binding dunder = .method method := by
  obtain ⟨rfl, delegates⟩ := resolves.delegatesInOrder wellFormed
  rw [SlotTarget.reach] at reaches
  cases isBinding : override.binding dunder with
  | method value =>
      rw [isBinding] at reaches
      rw [Reached.method.inj reaches]
  | blocked =>
      rw [isBinding] at reaches
      cases reaches
  | inherited =>
      rw [isBinding] at reaches
      rcases delegates.reaches dunder isMember isBinding with isAbsent | ⟨_, _, isOperation⟩
      · cases isAbsent.symm.trans reaches
      · cases isOperation.symm.trans reaches

/-- An override is of the kind of its slot, and a reflected method that it reaches is bound by the
override itself. -/
theorem ResolvesAlong.override_reflected (wellFormed : registry.WellFormed) {ids : List TypeId}
    {override : Override} {inherited : SlotTarget}
    (resolves : registry.ResolvesAlong kind ids (.override override inherited)) :
    override.kind = kind ∧ ∀ method,
      (SlotTarget.override override inherited).reflected = .method method →
        kind.reflectedDunder?.map override.binding = some (.method method) := by
  obtain ⟨isKind, _⟩ := resolves.delegatesInOrder wellFormed
  refine ⟨isKind, fun method isMethod => ?_⟩
  rw [SlotTarget.reflected, SlotTarget.reachBy, isKind] at isMethod
  cases isDunder : kind.reflectedDunder? with
  | none =>
      rw [isDunder] at isMethod
      cases isMethod
  | some dunder =>
      rw [isDunder] at isMethod
      have isMember : dunder ∈ kind.dunders := by
        rw [SlotKind.reflectedDunder?] at isDunder
        split at isDunder
        · exact List.mem_of_getElem? isDunder
        · cases isDunder
      rw [Option.map_some, resolves.binding_of_reach wellFormed isMember isMethod]

end Registry

/-! ### Trials -/

/-- This is the implementation of a target for one side. -/
def SlotTarget.forSide (target : SlotTarget) : Side → Reached
  | .right => target.reflected
  | .left | .third => target.forward

/-- A trial calls one implementation for one side of two operands. -/
structure Trial where
  side : Side
  reached : Reached

/-- A trial from the right calls a method on the right operand. An operation gets both operands in
order from every side, and a missing implementation declines. -/
def Trial.run (perform : Perform Host) (left right : Value) (trial : Trial) :
    Action (World Host) Value :=
  match trial.reached with
  | .method method =>
      match trial.side with
      | .right => Invocation.callSpecial perform method right [left]
      | .left | .third => Invocation.callSpecial perform method left [right]
  | .builtin operation => Invocation.builtinTernary perform operation left right .none
  | .blocked | .absent => return .notImplemented

/-- This is the trial of a step. -/
def PlanStep.trial (step : PlanStep) : Trial :=
  ⟨step.side, step.target.forSide step.side⟩

namespace Operator

/-- Some implementations are tried one after the other, and all of them decline. Between two trials
only a slot may be read. -/
inductive Tries (perform : Perform Host) (left right : Value) :
    List Trial → World Host → World Host → Prop
  | nil (world : World Host) : Tries perform left right [] world world
  | called {trial : Trial} {trials : List Trial} {world middle stop : World Host}
      (declines : trial.run perform left right world = some (.ok .notImplemented, middle))
      (later : Tries perform left right trials middle stop) :
      Tries perform left right (trial :: trials) world stop
  | read {value : Value} {kind : SlotKind} {target : SlotTarget} {trials : List Trial}
      {world middle stop : World Host}
      (isRead : Action.targetOf value kind world = some (.ok target, middle))
      (later : Tries perform left right trials middle stop) :
      Tries perform left right trials world stop

variable {perform : Perform Host} {left right : Value}

theorem Tries.append {first second : List Trial} {world middle stop : World Host}
    (earlier : Tries perform left right first world middle)
    (later : Tries perform left right second middle stop) :
    Tries perform left right (first ++ second) world stop := by
  induction earlier with
  | nil => exact later
  | called declines _ inductionHypothesis => exact .called declines (inductionHypothesis later)
  | read isRead _ inductionHypothesis => exact .read isRead (inductionHypothesis later)

theorem sideCall_eq_run (perform : Perform Host) (left right : Value) (side : Side)
    (target : SlotTarget) :
    Invocation.sideCall perform target side left right .none =
      Trial.run perform left right ⟨side, target.forSide side⟩ := by
  cases side <;> rfl

/-- This is the reflected method of an override that still is the slot of the right operand. -/
def sharedMethod? (definition : Override) (target : SlotTarget) : Option Value :=
  match target, definition.kind.reflectedDunder?.map definition.binding with
  | .override other _, some (.method method) => if other.isSame definition then some method else none
  | _, _ => none

theorem sharedReflected_eq {definition : Override} (otherType : left.typeId ≠ right.typeId)
    (isBinary : definition.kind.isBinary = true) :
    Invocation.sharedReflected perform definition left right = do
      let target ← targetOf right definition.kind
      match sharedMethod? definition target with
      | some method => Invocation.callSpecial perform method right [left]
      | none => return .notImplemented := by
  rw [Invocation.sharedReflected, if_neg (by simp [otherType, isBinary])]
  congr 1
  funext target
  unfold sharedMethod?
  generalize definition.kind.reflectedDunder?.map definition.binding = binding?
  cases target with
  | absent | builtin => rcases binding? with _ | _ | _ | _ <;> rfl
  | override other inherited =>
      rcases binding? with _ | method | _ | _
      · rfl
      · dsimp only
        cases isSame : other.isSame definition <;> rfl
      · rfl
      · rfl

/-- A shared method is what the override itself binds, so it is the reflected implementation. -/
theorem reflected_of_sharedMethod? {definition : Override} (inherited : SlotTarget)
    {target : SlotTarget} {method : Value} (isMethod : sharedMethod? definition target = some method) :
    (SlotTarget.override definition inherited).reflected = .method method := by
  unfold sharedMethod? at isMethod
  split at isMethod
  · rename_i bound isBound
    split at isMethod
    · obtain rfl := Option.some.inj isMethod
      obtain ⟨dunder, isDunder, isBinding⟩ := Option.map_eq_some_iff.1 isBound
      rw [SlotTarget.reflected, SlotTarget.reachBy, isDunder]
      dsimp only
      rw [SlotTarget.reach, isBinding]
    · cases isMethod
  · cases isMethod

theorem isSame_of_sharedMethod? {definition : Override} (inherited : SlotTarget) {target : SlotTarget}
    {method : Value} (isMethod : sharedMethod? definition target = some method) :
    target.isSame (.override definition inherited) = true := by
  unfold sharedMethod? at isMethod
  split at isMethod
  · split at isMethod
    · assumption
    · cases isMethod
  · cases isMethod

/-- When the operands share an override, only a reflected method is tried from the right, after the
slot of the right operand was read. -/
theorem tries_of_sharedReflected {definition : Override} (inherited : SlotTarget)
    {world stop : World Host}
    (declines : Invocation.sharedReflected perform definition left right world =
      some (.ok .notImplemented, stop)) :
    ∃ trials, Tries perform left right trials world stop ∧ ∀ trial ∈ trials, ∃ method,
      trial.reached = .method method ∧
        (SlotTarget.override definition inherited).reflected = .method method := by
  by_cases goesOn : left.typeId ≠ right.typeId ∧ definition.kind.isBinary = true
  · rw [sharedReflected_eq goesOn.1 goesOn.2, bind_apply] at declines
    rcases isRead : targetOf right definition.kind world with _ | ⟨error | target, middle⟩ <;>
      rw [isRead] at declines
    · cases declines
    · cases declines
    dsimp only at declines
    cases isMethod : sharedMethod? definition target with
    | some method =>
        rw [isMethod] at declines
        have called : Trial.run perform left right ⟨.right, .method method⟩ middle =
            some (.ok .notImplemented, stop) := declines
        refine ⟨[⟨.right, .method method⟩], .read isRead (.called called (.nil stop)), ?_⟩
        have isReflected := reflected_of_sharedMethod? inherited isMethod
        exact fun trial isTrial => ⟨method, List.mem_singleton.1 isTrial ▸ rfl, isReflected⟩
    | none =>
        rw [isMethod] at declines
        obtain ⟨_, rfl⟩ := Prod.mk.inj (Option.some.inj declines)
        exact ⟨[], .read isRead (.nil middle), by simp⟩
  · have endsHere : (left.typeId = right.typeId || !definition.kind.isBinary) = true := by
      by_contra isOther
      simp only [Bool.or_eq_true, decide_eq_true_eq, Bool.not_eq_true', not_or] at isOther
      exact goesOn ⟨isOther.1, by simpa using isOther.2⟩
    rw [Invocation.sharedReflected, if_pos endsHere] at declines
    obtain ⟨_, rfl⟩ := Prod.mk.inj (Option.some.inj declines)
    exact ⟨[], .nil world, by simp⟩

/-- An override that declines from the left goes on with the reflected method that both operands may
share. -/
theorem ternary_override (definition : Override) (inherited : SlotTarget) (side : Side) :
    Invocation.ternary perform (.override definition inherited) side left right .none = do
      let result ← Invocation.sideCall perform (.override definition inherited) side left right .none
      if result.isNotImplemented = true ∧ side = .left then
        Invocation.sharedReflected perform definition left right
      else return result := by
  simp [Invocation.ternary, Value.isNone]

/-- An override that declines has made its trial, and from the left it has gone on with the method that
both operands may share. -/
theorem override_declines {definition : Override} {inherited : SlotTarget} {side : Side}
    {world stop : World Host}
    (declines : Invocation.ternary perform (.override definition inherited) side left right .none world =
      some (.ok .notImplemented, stop)) :
    ∃ middle, Trial.run perform left right
        ⟨side, (SlotTarget.override definition inherited).forSide side⟩ world =
          some (.ok .notImplemented, middle) ∧
      (side = .left → Invocation.sharedReflected perform definition left right middle =
        some (.ok .notImplemented, stop)) ∧
      (side ≠ .left → middle = stop) := by
  rw [ternary_override, bind_apply, sideCall_eq_run] at declines
  rcases isCalled : Trial.run perform left right
      ⟨side, (SlotTarget.override definition inherited).forSide side⟩ world with
    _ | ⟨error | result, middle⟩ <;> rw [isCalled] at declines
  · cases declines
  · cases declines
  dsimp only at declines
  split at declines
  · rename_i goesOn
    obtain ⟨isDeclined, isLeft⟩ := goesOn
    obtain rfl := (isNotImplemented_iff result).1 isDeclined
    exact ⟨middle, rfl, fun _ => declines, fun isOther => absurd isLeft isOther⟩
  · rename_i endsHere
    obtain ⟨isResult, rfl⟩ := Prod.mk.inj (Option.some.inj declines)
    obtain rfl := Except.ok.inj isResult
    exact ⟨middle, rfl, fun isLeft => absurd ⟨rfl, isLeft⟩ endsHere, fun _ => rfl⟩

/-- A step that declines has made its trial first. -/
theorem tries_of_step {step : PlanStep} {world stop : World Host}
    (declines : Invocation.ternary perform step.target step.side left right .none world =
      some (.ok .notImplemented, stop)) :
    ∃ trials, Tries perform left right (step.trial :: trials) world stop := by
  obtain ⟨side, target⟩ := step
  cases target with
  | absent =>
      have called := congrFun (sideCall_eq_run perform left right side .absent) world
      exact ⟨[], .called (called.symm.trans declines) (.nil stop)⟩
  | builtin operation =>
      have called := congrFun (sideCall_eq_run perform left right side (.builtin operation)) world
      exact ⟨[], .called (called.symm.trans declines) (.nil stop)⟩
  | override definition inherited =>
      obtain ⟨middle, called, shared, last⟩ := override_declines declines
      by_cases isLeft : side = .left
      · obtain ⟨trials, tries, _⟩ := tries_of_sharedReflected inherited (shared isLeft)
        exact ⟨trials, .called called tries⟩
      · obtain rfl := last isLeft
        exact ⟨[], .called called (.nil middle)⟩

/-- Steps that decline have made their trials. -/
theorem tries_of_declines {plan : Plan} {world stop : World Host}
    (declines : Declines perform left right .none plan world stop) :
    ∃ trials, Tries perform left right trials world stop ∧ ∀ step ∈ plan, step.trial ∈ trials := by
  induction declines with
  | nil world => exact ⟨[], .nil world, by simp⟩
  | @cons step rest world middle stop isStep _ inductionHypothesis =>
      obtain ⟨trials, tries⟩ := tries_of_step isStep
      obtain ⟨later, triesLater, hasLater⟩ := inductionHypothesis
      refine ⟨(step.trial :: trials) ++ later, tries.append triesLater, ?_⟩
      intro other isStep
      rcases List.mem_cons.1 isStep with rfl | isLater
      · exact List.mem_cons_self ..
      · exact List.mem_append_right _ (hasLater other isLater)

/-! ### The reflected implementation -/

/-- An implementation is among some trials, and a method is among those from the right. -/
def IsTried (reached : Reached) (trials : List Trial) : Prop :=
  ∃ trial ∈ trials, trial.reached = reached ∧
    (trial.side = .right ∨ ∃ operation, reached = .builtin operation)

/-- An override inherits an operation as its reflected implementation. -/
def InheritsOperation (target : SlotTarget) : Prop :=
  target.isOverride = true ∧ ∃ operation, target.reflected = .builtin operation

/-- Two operands share an override that inherits an operation, and its forward implementation is the
only trial. -/
structure PassesBy (left right : SlotTarget) (trials : List Trial) : Prop where
  isSame : right.isSame left = true
  inherits : InheritsOperation right
  onlyForward : trials = [⟨.left, left.forward⟩]

/-- Operands with the same slot have equal targets. -/
theorem Prepares.target_eq {kind : SlotKind} {third : Value} {world start : World Host}
    {leftEntry rightEntry : SlotEntry} {plan : Plan}
    (prepares : Prepares forged kind left right third world start leftEntry rightEntry plan)
    (isSame : (rightEntry.target kind).isSame (leftEntry.target kind) = true) :
    rightEntry.target kind = leftEntry.target kind := by
  obtain ⟨_, _, leftIsEntry⟩ := prepares.forLeft
  obtain ⟨_, _, rightIsEntry⟩ := prepares.forRight
  have forLeft := leftIsEntry.resolves kind
  have forRight := rightIsEntry.resolves kind
  obtain ⟨_, _, shares⟩ := (forRight.isSame_iff prepares.alike.coherent.keepsBuiltins forLeft).1 isSame
  exact shares.target_eq forRight forLeft

/-- Two operands of different types that share an override try its reflected method from the right,
when the forward method has left the slots of the right operand alone. -/
theorem isTried_of_shared (oblivious : perform.Oblivious forged 0) {world start stop : World Host}
    {kind : SlotKind} (isBinary : kind.isBinary = true) (otherType : left.typeId ≠ right.typeId)
    (alike : World.Alike forged 0 world start) {definition : Override} {inherited : SlotTarget}
    {entry : SlotEntry} (forRight : world.registry.HasEntry right.typeId entry)
    (isOverride : entry.target kind = .override definition inherited) {method : Value}
    (isMethod : (entry.target kind).reflected = .method method)
    (declines : Invocation.ternary perform (.override definition inherited) .left left right .none
      start = some (.ok .notImplemented, stop))
    (keeps : ∀ next, Trial.run perform left right
        ⟨.left, (SlotTarget.override definition inherited).forward⟩ start =
          some (.ok .notImplemented, next) →
      Registry.AgreeOn world.registry next.registry
        (world.registry.linearizationOf right.typeId)) :
    ∃ trials, Tries perform left right trials start stop ∧
      IsTried (.method method) trials := by
  have wellFormed := alike.coherent.wellFormed
  obtain ⟨isKind, binds⟩ : definition.kind = kind ∧ ∀ method,
      (SlotTarget.override definition inherited).reflected = .method method →
        kind.reflectedDunder?.map definition.binding = some (.method method) := by
    obtain ⟨_, _, isEntry⟩ := forRight
    exact (isOverride ▸ isEntry.resolves kind).override_reflected wellFormed
  obtain ⟨middle, called, shared, _⟩ := override_declines declines
  have middleAlike : World.Alike forged 0 middle middle := by
    have matched := Invocation.oblivious_sideCall oblivious (.override definition inherited) .left
      left right .none start start (alike.symm.trans alike)
    rw [sideCall_eq_run, called] at matched
    cases matched with
    | some both => exact both.2
  obtain ⟨after, isTarget, _⟩ :=
    targetOf_of_hasEntry middleAlike (forRight.of_agreeOn wellFormed (keeps middle called)) kind
  rw [isOverride] at isTarget isMethod
  have isShared : sharedMethod? definition (.override definition inherited) = some method := by
    have isBound := binds method isMethod
    rw [← isKind] at isBound
    simp [sharedMethod?, isBound, Override.isSame]
  have goesOn := shared rfl
  rw [sharedReflected_eq otherType (isKind ▸ isBinary), bind_apply, isKind, isTarget] at goesOn
  dsimp only at goesOn
  rw [isShared] at goesOn
  have isCalled : Trial.run perform left right ⟨.right, .method method⟩ after =
      some (.ok .notImplemented, stop) := goesOn
  refine ⟨_, .called called (.read isTarget (.called isCalled (.nil stop))), ?_⟩
  exact ⟨⟨.right, .method method⟩, by simp, rfl, .inl rfl⟩

/-- An override that inherits an operation as its reflected implementation makes its trial from the left
and no other. -/
theorem tries_of_sharedOperation {definition : Override} {inherited : SlotTarget}
    {operation : Builtin}
    (isOperation : (SlotTarget.override definition inherited).reflected = .builtin operation)
    {start stop : World Host}
    (declines : Invocation.ternary perform (.override definition inherited) .left left right .none
      start = some (.ok .notImplemented, stop)) :
    Tries perform left right [⟨.left, (SlotTarget.override definition inherited).forward⟩] start
      stop := by
  obtain ⟨middle, called, shared, _⟩ := override_declines declines
  obtain ⟨trials, tries, areMethods⟩ := tries_of_sharedReflected inherited (shared rfl)
  cases trials with
  | nil => exact .called called tries
  | cons trial trials =>
      obtain ⟨method, _, isMethod⟩ := areMethods trial (List.mem_cons_self ..)
      rw [isOperation] at isMethod
      cases isMethod

/-- Operands that have one slot try it once, and the reflected implementation of this slot is tried
unless it is missing or an operation that an override inherits. -/
theorem isTried_of_declines_same (oblivious : perform.Oblivious forged 0)
    {world start stop : World Host} {kind : SlotKind} (isBinary : kind.isBinary = true)
    (otherType : left.typeId ≠ right.typeId) (alike : World.Alike forged 0 world start)
    {entry : SlotEntry} (forRight : world.registry.HasEntry right.typeId entry)
    (isThere : (entry.target kind).reflected.isMissing = false)
    (declines : Invocation.ternary perform (entry.target kind) .left left right .none start =
      some (.ok .notImplemented, stop))
    (keeps : ∀ next, Trial.run perform left right ⟨.left, (entry.target kind).forward⟩ start =
        some (.ok .notImplemented, next) →
      Registry.AgreeOn world.registry next.registry
        (world.registry.linearizationOf right.typeId)) :
    ∃ trials, Tries perform left right trials start stop ∧
      (IsTried (entry.target kind).reflected trials ∨
        InheritsOperation (entry.target kind) ∧
          trials = [⟨.left, (entry.target kind).forward⟩]) := by
  cases isTarget : entry.target kind with
  | absent =>
      rw [isTarget] at isThere
      cases isThere
  | builtin operation =>
      rw [isTarget] at declines
      have called := congrFun (sideCall_eq_run perform left right .left (.builtin operation)) start
      refine ⟨[⟨.left, .builtin operation⟩], .called (called.symm.trans declines) (.nil stop), ?_⟩
      exact .inl ⟨_, List.mem_singleton_self _, rfl, .inr ⟨operation, rfl⟩⟩
  | override definition inherited =>
      rw [isTarget] at declines isThere keeps
      cases isReflected : (SlotTarget.override definition inherited).reflected with
      | blocked | absent =>
          rw [isReflected] at isThere
          cases isThere
      | builtin operation =>
          have tries := tries_of_sharedOperation isReflected declines
          exact ⟨_, tries, .inr ⟨⟨rfl, operation, isReflected⟩, rfl⟩⟩
      | method method =>
          obtain ⟨trials, tries, isTried⟩ := isTried_of_shared oblivious isBinary otherType alike
            forRight isTarget (isTarget ▸ isReflected) declines keeps
          exact ⟨trials, tries, .inl isTried⟩

/-- A dispatch in which all steps decline has tried the reflected implementation of the right operand
unless it is missing. When both operands share an override that inherits an operation, the override is
the only trial, and this operation is passed by. -/
theorem isTried_of_declines (oblivious : perform.Oblivious forged 0) {world start stop : World Host}
    {kind : SlotKind} (isBinary : kind.isBinary = true) (otherType : left.typeId ≠ right.typeId)
    {leftEntry rightEntry : SlotEntry} {plan : Plan}
    (prepares : Prepares forged kind left right .none world start leftEntry rightEntry plan)
    (declines : Declines perform left right .none plan start stop)
    (keeps : ∀ next, Trial.run perform left right ⟨.left, (leftEntry.target kind).forward⟩ start =
        some (.ok .notImplemented, next) →
      Registry.AgreeOn world.registry next.registry
        (world.registry.linearizationOf right.typeId)) :
    ∃ trials, Tries perform left right trials start stop ∧
      ((rightEntry.target kind).reflected.isMissing = true ∨
        IsTried (rightEntry.target kind).reflected trials ∨
        PassesBy (leftEntry.target kind) (rightEntry.target kind) trials) := by
  obtain ⟨thirdSlots?, isThird, _, inOrder⟩ := prepares.inOrder
  obtain rfl : thirdSlots? = none := Option.isNone_iff_eq_none.1 isThird
  obtain ⟨trials, tries, hasTrial⟩ := tries_of_declines declines
  cases isMissing : (rightEntry.target kind).reflected.isMissing with
  | true => exact ⟨trials, tries, .inl rfl⟩
  | false =>
      have isThere : (rightEntry.target kind).isAbsent = false := by
        cases isTarget : rightEntry.target kind with
        | absent =>
            rw [isTarget] at isMissing
            cases isMissing
        | builtin | override => rfl
      cases isSame : (rightEntry.target kind).isSame (leftEntry.target kind) with
      | false =>
          have hasRight := (inOrder.right_iff _).2 ⟨rfl, isThere, otherType, isSame⟩
          exact ⟨trials, tries, .inr (.inl ⟨_, hasTrial _ hasRight, rfl, .inl rfl⟩)⟩
      | true =>
          have sameTarget := prepares.target_eq isSame
          rw [inOrder.eq_left (sameTarget ▸ isThere) isSame, ← sameTarget] at declines
          cases declines with
          | cons isStep later =>
              cases later with
              | nil =>
                  rw [← sameTarget] at keeps
                  obtain ⟨trials, tries, isTried | ⟨inherits, isOnly⟩⟩ :=
                    isTried_of_declines_same oblivious isBinary otherType prepares.alike
                      prepares.forRight isMissing isStep keeps
                  · exact ⟨trials, tries, .inr (.inl isTried)⟩
                  · exact ⟨trials, tries, .inr (.inr ⟨isSame, inherits, sameTarget ▸ isOnly⟩)⟩

/-- No result is computed at once for operands of two types. -/
theorem integerResult?_eq_none (kind : SlotKind) (otherType : left.typeId ≠ right.typeId) :
    integerResult? kind left right = none := by
  cases left <;> cases right <;> first | rfl | exact absurd rfl otherType

end Operator

/-! ### Reachable worlds -/

/-- In a reachable world, an operator on two operands of different types in which all steps decline has
tried the reflected implementation of the right operand unless it is missing, when the forward
implementation of the left operand keeps the ancestors of the right operand. The one exception are
operands that share an override that inherits an operation. -/
theorem World.perform_tries_reflected {world : World Host}
    (reachable : World.Reachable forged world) {program : Program Host}
    (spares : Program.Spares forged program) (depth : Nat) {kind : SlotKind}
    (isBinary : kind.isBinary = true) {left right : Value}
    (otherType : left.typeId ≠ right.typeId) :
    (∃ operand ∈ [left, right], world.registry.definition? operand.typeId = none) ∨
      ∃ start leftEntry rightEntry plan,
        Operator.Prepares forged kind left right .none world start leftEntry rightEntry plan ∧
        Operator.Runs (perform program depth) left right .none plan
          (Operator.Continues (perform program depth) kind left right .none leftEntry rightEntry)
          start (perform program (depth + 1) (.binary kind left right) world) ∧
        ∀ stop, Operator.Declines (perform program depth) left right .none plan start stop →
          (∀ next, Trial.run (perform program depth) left right
              ⟨.left, (leftEntry.target kind).forward⟩ start = some (.ok .notImplemented, next) →
            Registry.AgreeOn world.registry next.registry
              (world.registry.linearizationOf right.typeId)) →
          ∃ trials, Operator.Tries (perform program depth) left right trials start stop ∧
            ((rightEntry.target kind).reflected.isMissing = true ∨
              Operator.IsTried (rightEntry.target kind).reflected trials ∨
              Operator.PassesBy (leftEntry.target kind) (rightEntry.target kind) trials) := by
  have oblivious := oblivious_perform spares depth 0
  have notAtOnce := Operator.integerResult?_eq_none kind otherType
  have dispatches := (World.perform_dispatches reachable program depth left right).1 kind isBinary
    notAtOnce
  generalize isOutcome : perform program (depth + 1) (.binary kind left right) world = outcome
    at dispatches ⊢
  cases dispatches with
  | @unknown operand _ isOperand unregistered _ =>
      exact .inl ⟨operand, isOperand, unregistered⟩
  | @planned start leftEntry rightEntry plan _ prepares runs =>
      exact .inr ⟨start, leftEntry, rightEntry, plan, prepares, runs, fun stop declines keeps =>
        Operator.isTried_of_declines oblivious isBinary otherType prepares declines keeps⟩

/-- A class whose methods of both sides decline has two heirs. A sum of their instances fails after both
methods were tried. -/
theorem World.perform_tries_reflected_heirs :
    ∃ (program : Program Unit) (world : World Unit), World.Reachable (fun _ => True) world ∧
      ∃ left right : Value, left.typeId = 14 ∧ right.typeId = 15 ∧
        (perform program 4 (.binary .add left right) world).any (fun answer =>
          answer.1.toOption.isNone) = true ∧
        ((∃ operand ∈ [left, right], world.registry.definition? operand.typeId = none) ∨
          ∃ start leftEntry rightEntry plan,
            Operator.Prepares (fun _ => True) .add left right .none world start leftEntry rightEntry
              plan ∧
            Operator.Runs (perform program 3) left right .none plan
              (Operator.Continues (perform program 3) .add left right .none leftEntry rightEntry)
              start (perform program 4 (.binary .add left right) world) ∧
            ∀ stop, Operator.Declines (perform program 3) left right .none plan start stop →
              (∀ next, Trial.run (perform program 3) left right
                  ⟨.left, (leftEntry.target .add).forward⟩ start =
                    some (.ok .notImplemented, next) →
                Registry.AgreeOn world.registry next.registry
                  (world.registry.linearizationOf right.typeId)) →
              ∃ trials, Operator.Tries (perform program 3) left right trials start stop ∧
                ((rightEntry.target .add).reflected.isMissing = true ∨
                  Operator.IsTried (rightEntry.target .add).reflected trials ∨
                  Operator.PassesBy (leftEntry.target .add) (rightEntry.target .add) trials)) := by
  let program : Program Unit := fun code _ =>
    match code with
    | 0 => do
        let forward ← Body.request (.allocate .function (.function "forward" 1) false)
        let reflected ← Body.request (.allocate .function (.function "reflected" 2) false)
        let base ← Body.request (.createType "Base" []
          ⟨[("__add__", forward), ("__radd__", reflected)]⟩)
        let _ ← Body.request (.createType "First" [base] .empty)
        let _ ← Body.request (.createType "Second" [base] .empty)
        return .none
    | _ => return .notImplemented
  let left : Value := .object ⟨.allocated 2, 14⟩ .plain
  let right : Value := .object ⟨.allocated 3, 15⟩ .plain
  have isMade :
      ((perform program 2 (.apply "make" 0 []) (.initial .default ())).map fun answer =>
        (perform program 4 (.binary .add left right) answer.2).any fun answer =>
          answer.1.toOption.isNone) = some true := by
    decide +kernel
  obtain ⟨⟨outcome, world⟩, isOutcome, isMade⟩ := Option.map_eq_some_iff.1 isMade
  have reachable := World.Reachable.of_outcome isOutcome
  have spares := Program.spares_of_forall (fun _ => trivial) program
  exact ⟨program, world, reachable, left, right, rfl, rfl, isMade,
    World.perform_tries_reflected reachable spares 3 rfl (by decide)⟩

/-- This test tells an outcome that fails with an error. -/
def failsWith (error : Error) : Except Error Value → Bool
  | .error other => other = error
  | .ok _ => false

theorem eq_of_failsWith {error : Error} {outcome : Except Error Value}
    (isTrue : failsWith error outcome = true) : outcome = .error error := by
  cases outcome with
  | error other => rw [of_decide_eq_true isTrue]
  | ok value => cases isTrue

/-- This test tells a journal of one call that makes no calls itself. -/
def Journal.isSingle (callable : Callable) : Journal → Bool
  | [.call other _ _ []] => other = callable
  | _ => false

theorem Journal.eq_of_isSingle {callable : Callable} {journal : Journal}
    (isTrue : journal.isSingle callable = true) :
    ∃ arguments outcome, journal = [.call callable arguments outcome []] := by
  unfold isSingle at isTrue
  split at isTrue
  · rename_i other arguments outcome
    obtain rfl := of_decide_eq_true isTrue
    exact ⟨arguments, outcome, rfl⟩
  · cases isTrue

/-- A class of integers has a forward method that declines, and its two heirs share the slot. A sum of
their instances fails after this method alone, although the slot reaches the addition of integers from
the right, which gives a result. -/
theorem World.shared_operation_passed_by :
    ∃ (program : Program Unit) (world : World Unit), World.Reachable (fun _ => True) world ∧
      (∀ arguments, program 1 arguments = return .notImplemented) ∧
      ∃ left right : Value, left.typeId = 14 ∧ right.typeId = 15 ∧
        (∃ entry next, entryOf 15 world = some (.ok entry, next) ∧
          (entry.target .add).reflected = .builtin .intAdd) ∧
        (∃ next arguments outcome, perform program 4 (.binary .add left right) world =
            some (.error (.unsupportedOperands "+" ["First", "Second"]), next) ∧
          next.journal = [.call (.function "decline" 1) arguments outcome []]) ∧
        ((Trial.run (perform program 3) left right ⟨.right, .builtin .intAdd⟩ world).bind
          fun answer => answer.1.toOption.bind Value.integer?) = some 3 := by
  let program : Program Unit := fun code _ =>
    match code with
    | 0 => do
        let forward ← Body.request (.allocate .function (.function "decline" 1) false)
        let base ← Body.request (.createType "Base" [.int] ⟨[("__add__", forward)]⟩)
        let first ← Body.request (.createType "First" [base] .empty)
        let second ← Body.request (.createType "Second" [base] .empty)
        let _ ← Body.request (.allocate first (.int 1) true)
        let _ ← Body.request (.allocate second (.int 2) true)
        return .none
    | _ => return .notImplemented
  let left : Value := .object ⟨.allocated 1, 14⟩ (.int 1)
  let right : Value := .object ⟨.allocated 2, 15⟩ (.int 2)
  have isMade :
      ((perform program 2 (.apply "make" 0 []) (.initial .default ())).any fun answer =>
        let world : World Unit := { answer.2 with journal := [], host := () }
        (entryOf 15 world).any (fun found => found.1.toOption.any fun entry =>
            (entry.target .add).reflected.isBuiltin .intAdd) &&
          ((perform program 4 (.binary .add left right) world).any (fun answer =>
            failsWith (.unsupportedOperands "+" ["First", "Second"]) answer.1 &&
              answer.2.journal.isSingle (.function "decline" 1)) &&
          ((Trial.run (perform program 3) left right ⟨.right, .builtin .intAdd⟩ world).bind
            fun answer => answer.1.toOption.bind Value.integer?) = some 3)) = true := by
    decide +kernel
  obtain ⟨⟨made, world⟩, isOutcome, isTrue⟩ := (Option.any_eq_true _ _).1 isMade
  have reachable := (World.Reachable.of_outcome isOutcome).resumed [] ()
  obtain ⟨reaches, isTrue⟩ := Bool.and_eq_true_iff.1 isTrue
  obtain ⟨fails, gives⟩ := Bool.and_eq_true_iff.1 isTrue
  obtain ⟨⟨found, after⟩, isEntry, reaches⟩ := (Option.any_eq_true _ _).1 reaches
  obtain ⟨⟨answer, next⟩, isAnswer, fails⟩ := (Option.any_eq_true _ _).1 fails
  obtain ⟨isError, isJournal⟩ := Bool.and_eq_true_iff.1 fails
  obtain rfl := eq_of_failsWith isError
  obtain ⟨arguments, outcome, isJournal⟩ := Journal.eq_of_isSingle isJournal
  cases found with
  | error error => cases reaches
  | ok entry =>
      exact ⟨program, _, reachable, fun _ => rfl, left, right, rfl, rfl,
        ⟨entry, after, isEntry, Reached.eq_of_isBuiltin reaches⟩,
        ⟨next, arguments, outcome, isAnswer, isJournal⟩, of_decide_eq_true gives⟩

end SlotDispatch
