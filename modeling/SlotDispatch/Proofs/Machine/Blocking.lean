import SlotDispatch.Proofs.Machine.Reflected
/-!
Blocked special methods. The main statement says that a class which binds a special method to `None`
keeps every invocation of its slot from running an inherited implementation of that method, whatever
the form of the invocation is. Attributes are the exception: when the class does not provide a getter
method of its own, its attributes are still looked up as its ancestors say.
-/

namespace SlotDispatch

open SlotDispatch.Action SlotDispatch.Machine
open SlotDispatch.Invocation (storeDunder?)

variable {Host : Type} {forged : Nat → Prop}

/-! ### Blocked targets -/

/-- A type blocks a special method when its own namespace binds the method to `None`. -/
def Registry.blocks (registry : Registry) (id : TypeId) (dunder : String) : Bool :=
  (registry.definition? id).any fun definition =>
    (definition.attributes.get? dunder).any Value.isNone

theorem Registry.exists_of_blocks {registry : Registry} {id : TypeId} {dunder : String}
    (blocks : registry.blocks id dunder = true) :
    ∃ definition, registry.definition? id = some definition ∧
      definition.attributes.get? dunder = some .none := by
  obtain ⟨definition, found, isBlocked⟩ := (Option.any_eq_true _ _).1 blocks
  obtain ⟨value, isBound, isNone⟩ := (Option.any_eq_true _ _).1 isBlocked
  cases value with
  | none => exact ⟨definition, found, isBound⟩
  | _ => cases isNone

namespace Registry

variable {registry : Registry} {id : TypeId} {definition : TypeDefinition} {kind : SlotKind}
  {dunder : String}

/-- A type that blocks a special method has an empty slot, or it owns an override that blocks the
method. -/
theorem ResolvesAlong.blocked (wellFormed : registry.WellFormed)
    (found : registry.definition? id = some definition) (isMember : dunder ∈ kind.dunders)
    (isBlocked : definition.attributes.get? dunder = some .none) {target : SlotTarget}
    (resolves : registry.ResolvesAlong kind definition.linearization target) :
    target = .absent ∨ ∃ own inherited, target = .override own inherited ∧ own.owner = id ∧
      own.binding dunder = .blocked := by
  have binds := binds_of_get? isMember isBlocked
  rcases resolves.cases_definer (wellFormed.definer?_of_defines found (defines_of_binds binds)) found with
    ⟨bindsNothing, _⟩ | ⟨_, inherited, _, ⟨_, isAbsent⟩ | ⟨_, isOverride⟩⟩
  · rw [binds] at bindsNothing
    cases bindsNothing
  · exact .inl isAbsent
  · refine .inr ⟨_, inherited, isOverride, rfl, ?_⟩
    rw [binding_firstBindings id _ _ isMember, wellFormed.firstBinding?_of_own found isBlocked]
    rfl

end Registry

/-- An implementation is missing when it is blocked or absent. -/
theorem Reached.isMissing_iff {reached : Reached} :
    reached.isMissing = true ↔ reached = .blocked ∨ reached = .absent := by
  cases reached <;> simp [isMissing]

/-- A blocked special method is missing. -/
theorem SlotTarget.isMissing_of_binding {own : Override} {dunder : String}
    (isBlocked : own.binding dunder = .blocked) (inherited : SlotTarget) :
    ((SlotTarget.override own inherited).reach dunder).isMissing = true := by
  rw [reach, isBlocked]
  rfl

/-- A missing special method stays missing when it is named by the kind of the target. -/
theorem SlotTarget.Fits.isMissing_reachBy {kind : SlotKind} {target : SlotTarget}
    (fits : target.Fits kind) {dunder : String} (isMissing : (target.reach dunder).isMissing = true)
    {dunder? : SlotKind → Option String} (isAsked : dunder? kind = some dunder) :
    (target.reachBy dunder?).isMissing = true := by
  cases target with
  | absent | builtin => exact isMissing
  | override definition inherited =>
      rw [reachBy, fits.1, isAsked]
      exact isMissing

/-! ### Forms of invocation -/

namespace Invocation

variable {target : SlotTarget} (perform : Perform Host)

/-- A target of a kind runs nothing for a special method when every form of invocation that asks for
the method acts as on an empty slot. From the left, the reflected method that the operands may share is
still tried, unless it is the missing one. Attributes are covered as far as an override has a getter
method. -/
structure RunsNothing (Host : Type) (kind : SlotKind) (dunder : String) (target : SlotTarget) :
    Prop where
  isMissing : (target.reach dunder).isMissing = true
  unary : kind.forwardDunder? = some dunder → ∀ (perform : Perform Host) operand,
    unary perform target operand = return .notImplemented
  inquiry : kind.forwardDunder? = some dunder → ∀ (perform : Perform Host) operand,
    inquiry perform target operand = Action.failFor Error.truthNotBool .notImplemented
  hash : kind.forwardDunder? = some dunder → ∀ (perform : Perform Host) operand,
    hash perform target operand = Action.fail .hashNotInteger
  left : kind.forwardDunder? = some dunder → ∀ (perform : Perform Host) left right third,
    ternary perform target .left left right third = (return .notImplemented) ∨
      ∃ definition inherited, target = .override definition inherited ∧
        ternary perform target .left left right third = sharedReflected perform definition left right
  third : kind.forwardDunder? = some dunder → ∀ (perform : Perform Host) left right third,
    ternary perform target .third left right third = return .notImplemented
  right : kind.reflectedDunder? = some dunder → ∀ (perform : Perform Host) left right third,
    ternary perform target .right left right third = return .notImplemented
  shared : kind.reflectedDunder? = some dunder → ∀ definition inherited,
    target = .override definition inherited → ∀ (perform : Perform Host) left right,
      sharedReflected perform definition left right =
        if left.typeId = right.typeId then return .notImplemented
        else do
          let _ ← Action.targetOf right kind
          return .notImplemented
  compare : ∀ operator : Comparison, operator.dunder = dunder →
    ∀ (perform : Perform Host) left right,
      compare perform target operator left right = return .notImplemented
  length : dunder = "__len__" → ∀ (perform : Perform Host) operand,
    length perform target operand = Action.failFor Error.noLength operand
  size : ∀ (perform : Perform Host) operand count,
    size perform operand count target = (return .notImplemented) ∨
      ∃ operation, size perform operand count target = mismatch operation operation.kind
  store : ∀ content?, storeDunder? (Option.isNone content?) kind = some dunder →
    ∀ (perform : Perform Host) receiver key,
      store perform target receiver key content? = return false
  getAttribute : dunder = "__getattr__" → ∀ definition inherited getter,
    target = .override definition inherited →
      definition.binding "__getattribute__" = .method getter →
        ∀ (perform : Perform Host) value name, getAttribute perform value name target = do
          let text ← Action.text name
          callSpecial perform getter value [text]
  setAttribute : ∀ content? : Option Value,
    dunder = (if content?.isSome then "__setattr__" else "__delattr__") →
      ∀ (perform : Perform Host) value name,
        setAttribute perform target value name content? =
            Action.failFor (Error.noAttributes · name) value ∨
          setAttribute perform target value name content? =
            Action.failFor (Error.readOnlyAttribute · name) value
  descriptorGet : dunder = "__get__" → ∀ (perform : Perform Host) descriptor instance? owner,
    descriptorGet perform target descriptor instance? owner = return descriptor
  call : dunder = "__call__" → ∀ (perform : Perform Host) callee arguments,
    call perform target callee arguments = Action.failFor Error.notCallable callee

/-- A missing implementation declines for every side. -/
theorem sideCall_of_isMissing (side : Side)
    (isMissing : (target.forSide side).isMissing = true) (left right third : Value) :
    sideCall perform target side left right third = return .notImplemented := by
  cases side with
  | right =>
      rcases Reached.isMissing_iff.1 isMissing with isReached | isReached <;>
        (rw [SlotTarget.forSide] at isReached; simp only [sideCall, isReached])
  | left | third =>
      rcases Reached.isMissing_iff.1 isMissing with isReached | isReached <;>
        (rw [SlotTarget.forSide] at isReached; simp only [sideCall, isReached])

theorem unary_of_isMissing (isMissing : target.forward.isMissing = true) (operand : Value) :
    unary perform target operand = return .notImplemented := by
  rcases Reached.isMissing_iff.1 isMissing with isReached | isReached <;> rw [unary, isReached]

/-- Only an override from the left goes on after its implementation has declined. -/
theorem ternary_of_isMissing (side : Side) (isMissing : (target.forSide side).isMissing = true)
    (left right third : Value) :
    ternary perform target side left right third = (return .notImplemented) ∨
      side = .left ∧ ∃ definition inherited, target = .override definition inherited ∧
        ternary perform target side left right third =
          sharedReflected perform definition left right := by
  have declines := sideCall_of_isMissing perform side isMissing left right third
  cases target with
  | absent | builtin => exact .inl declines
  | override definition inherited =>
      simp only [ternary, declines, pure_bind]
      split
      · exact .inl rfl
      · split
        · rename_i goesOn
          simp only [Bool.and_eq_true, decide_eq_true_eq] at goesOn
          exact .inr ⟨goesOn.1.2, definition, inherited, rfl, rfl⟩
        · exact .inl rfl

end Invocation

namespace Operator

variable {definition : Override}

/-- An override without a reflected method shares none. -/
theorem sharedMethod?_of_binding {dunder : String}
    (isReflected : definition.kind.reflectedDunder? = some dunder)
    (noMethod : ∀ method, definition.binding dunder ≠ .method method) (target : SlotTarget) :
    sharedMethod? definition target = none := by
  unfold sharedMethod?
  rw [isReflected, Option.map_some]
  cases isBound : definition.binding dunder with
  | method method => exact absurd isBound (noMethod method)
  | blocked | inherited => cases target <;> rfl

/-- An override shares nothing with another override. -/
theorem sharedMethod?_of_other {other : Override} (isOther : other.isSame definition = false)
    (inherited : SlotTarget) : sharedMethod? definition (.override other inherited) = none := by
  unfold sharedMethod?
  cases definition.kind.reflectedDunder?.map definition.binding with
  | none => rfl
  | some bound => cases bound <;> simp [isOther]

end Operator

namespace Invocation

variable {target : SlotTarget} (perform : Perform Host)

/-- An override whose reflected method is missing only reads the slot of the right operand. -/
theorem sharedReflected_of_binding {definition : Override} {dunder : String}
    (isReflected : definition.kind.reflectedDunder? = some dunder)
    (noMethod : ∀ method, definition.binding dunder ≠ .method method) (left right : Value) :
    sharedReflected perform definition left right =
      if left.typeId = right.typeId then return .notImplemented
      else do
        let _ ← Action.targetOf right definition.kind
        return .notImplemented := by
  have isBinary : definition.kind.isBinary = true := by
    by_contra notBinary
    rw [SlotKind.reflectedDunder?, if_neg notBinary] at isReflected
    cases isReflected
  by_cases sameType : left.typeId = right.typeId
  · rw [sharedReflected, if_pos (by simp [sameType]), if_pos sameType]
  · rw [Operator.sharedReflected_eq sameType isBinary, if_neg sameType]
    simp only [Operator.sharedMethod?_of_binding isReflected noMethod]

/-- No operation that fills a slot with special methods takes a size. -/
theorem size_of_fits {kind : SlotKind} (hasDunders : kind.dunders ≠ []) (fits : target.Fits kind)
    (operand : Value) (count : Int64) :
    size perform operand count target = (return .notImplemented) ∨
      ∃ operation, size perform operand count target = mismatch operation operation.kind := by
  induction target with
  | absent => exact .inl rfl
  | override definition inherited inductionHypothesis => exact inductionHypothesis fits.2
  | builtin operation =>
      have notSize : operation.shape ≠ .size := by
        intro isSize
        have isShape := operation.shape_mem_shapes
        rw [show operation.kind = kind from fits, isSize] at isShape
        cases kind <;> first | exact hasDunders rfl | simp [SlotKind.shapes] at isShape
      rw [← operation.shape_implementation perform] at notSize
      refine .inr ⟨operation, ?_⟩
      rw [size]
      cases isRun : operation.implementation perform with
      | size run =>
          rw [isRun] at notSize
          exact absurd rfl notSize
      | _ => rfl

/-- An override that misses its attribute hook gives what its getter method gives. -/
theorem getAttribute_of_isMissing {definition : Override} {inherited : SlotTarget} {getter : Value}
    (isMissing : ((SlotTarget.override definition inherited).reach "__getattr__").isMissing = true)
    (isGetter : definition.binding "__getattribute__" = .method getter) (value : Value)
    (name : String) :
    getAttribute perform value name (.override definition inherited) = (do
      let text ← Action.text name
      callSpecial perform getter value [text]) := by
  have noHook : ∀ hook, definition.binding "__getattr__" ≠ .method hook := by
    intro hook isHook
    rw [SlotTarget.reach, isHook] at isMissing
    cases isMissing
  funext world
  rw [getAttribute, isGetter, bind_apply, attempt]
  simp only
  generalize (Action.text name >>= fun text => callSpecial perform getter value [text]) = found
  rcases isFound : found world with _ | ⟨error | result, next⟩
  · rfl
  · simp only [Option.map_some]
    cases isHook : definition.binding "__getattr__" with
    | method hook => exact absurd isHook (noHook hook)
    | blocked | inherited => rfl
  · rfl

/-- A target of a kind runs nothing for a special method that it misses. -/
theorem runsNothing_of_isMissing {kind : SlotKind} (fits : target.Fits kind) {dunder : String}
    (isMember : dunder ∈ kind.dunders) (isMissing : (target.reach dunder).isMissing = true) :
    RunsNothing Host kind dunder target := by
  have isDeclined : kind.forwardDunder? = some dunder →
      ∀ (perform : Perform Host) operand, unary perform target operand = return .notImplemented :=
    fun isAsked perform operand =>
      unary_of_isMissing perform (fits.isMissing_reachBy isMissing isAsked) operand
  exact {
    isMissing := isMissing
    unary := isDeclined
    inquiry := fun isAsked perform operand => by
      rw [inquiry, isDeclined isAsked, pure_bind]
    hash := fun isAsked perform operand => by
      rw [hash, isDeclined isAsked, pure_bind]
      rfl
    left := fun isAsked perform left right third =>
      (ternary_of_isMissing perform .left (fits.isMissing_reachBy isMissing isAsked) left right
        third).imp_right And.right
    third := fun isAsked perform left right third =>
      (ternary_of_isMissing perform .third (fits.isMissing_reachBy isMissing isAsked) left right
        third).resolve_right (by simp)
    right := fun isAsked perform left right third =>
      (ternary_of_isMissing perform .right (fits.isMissing_reachBy isMissing isAsked) left right
        third).resolve_right (by simp)
    shared := by
      rintro isAsked definition inherited rfl perform left right
      have isKind : definition.kind = kind := fits.1
      subst isKind
      refine sharedReflected_of_binding perform isAsked (fun method isMethod => ?_) left right
      rw [SlotTarget.reach, isMethod] at isMissing
      cases isMissing
    compare := by
      rintro operator rfl perform left right
      rcases Reached.isMissing_iff.1 isMissing with isReached | isReached <;>
        rw [compare, isReached]
    length := by
      rintro rfl perform operand
      rcases Reached.isMissing_iff.1 isMissing with isReached | isReached <;>
        rw [length, isReached]
    size := fun perform operand count =>
      size_of_fits perform (List.ne_nil_of_mem isMember) fits operand count
    store := fun content? isAsked perform receiver key => by
      have isMissing := fits.isMissing_reachBy isMissing isAsked
      rcases Reached.isMissing_iff.1 isMissing with isReached | isReached <;>
        rw [store, isReached]
    getAttribute := by
      rintro rfl definition inherited getter rfl isGetter perform value name
      exact getAttribute_of_isMissing perform isMissing isGetter value name
    setAttribute := by
      rintro content? rfl perform value name
      rcases Reached.isMissing_iff.1 isMissing with isReached | isReached
      · exact .inr (by rw [setAttribute, isReached])
      · exact .inl (by rw [setAttribute, isReached])
    descriptorGet := by
      rintro rfl perform descriptor instance? owner
      rcases Reached.isMissing_iff.1 isMissing with isReached | isReached <;>
        rw [descriptorGet, isReached]
    call := by
      rintro rfl perform callee arguments
      rcases Reached.isMissing_iff.1 isMissing with isReached | isReached <;>
        rw [call, isReached] }

end Invocation

/-! ### Shared overrides -/

/-- An override that a type owns blocks what the type blocks. -/
theorem Registry.ResolvesAlong.binding_of_owner {registry : Registry} {kind : SlotKind}
    {ids : List TypeId} {own : Override} {inherited : SlotTarget} {dunder : String}
    (resolves : registry.ResolvesAlong kind ids (.override own inherited))
    (wellFormed : registry.WellFormed) (isMember : dunder ∈ kind.dunders)
    (blocks : registry.blocks own.owner dunder = true) : own.binding dunder = .blocked := by
  obtain ⟨definition, found, isBlocked⟩ := exists_of_blocks blocks
  cases resolves with
  | override _ sameFound =>
      obtain rfl := Option.some.inj (sameFound.symm.trans found)
      rw [binding_firstBindings _ _ _ isMember, wellFormed.firstBinding?_of_own found isBlocked]
      rfl

/-- A type that blocks the reflected method of a kind never shares a reflected method, not even with a
slot that was read before. -/
theorem Registry.sharedMethod?_of_blocks {before after : Registry} (wellFormed : before.WellFormed)
    (laterWellFormed : after.WellFormed) {kind : SlotKind} {dunder : String}
    (isReflected : kind.reflectedDunder? = some dunder) (isMember : dunder ∈ kind.dunders)
    {id other : TypeId} {leftEntry rightEntry : SlotEntry} {definition : Override}
    {inherited : SlotTarget} (blocks : before.blocks id dunder = true)
    (stillBlocks : after.blocks id dunder = true)
    (forLeft : before.HasEntry other leftEntry)
    (isOverride : leftEntry.target kind = .override definition inherited)
    (forRight : after.HasEntry id rightEntry) :
    Operator.sharedMethod? definition (rightEntry.target kind) = none := by
  obtain ⟨_, _, leftIsEntry⟩ := forLeft
  obtain ⟨laterDefinition, laterFound, rightIsEntry⟩ := forRight
  obtain ⟨sameDefinition, sameFound, isBlocked⟩ := exists_of_blocks stillBlocks
  obtain rfl := Option.some.inj (sameFound.symm.trans laterFound)
  have resolves := leftIsEntry.resolves kind
  rw [isOverride] at resolves
  rcases (rightIsEntry.resolves kind).blocked laterWellFormed laterFound isMember isBlocked with
    isAbsent | ⟨own, ownInherited, isOwn, isOwner, _⟩
  · rw [isAbsent]
    rfl
  · rw [isOwn]
    by_cases sameOwner : definition.owner = id
    · have isKind : definition.kind = kind := resolves.fits.1
      have isBound := resolves.binding_of_owner wellFormed isMember (sameOwner ▸ blocks)
      exact Operator.sharedMethod?_of_binding (isKind ▸ isReflected)
        (fun method isMethod => by cases isBound.symm.trans isMethod) _
    · have isOther : own.isSame definition = false := by
        rw [Override.isSame, isOwner]
        simp [Ne.symm sameOwner]
      exact Operator.sharedMethod?_of_other isOther ownInherited

/-! ### Reachable worlds -/

/-- In a reachable world, let a type bind a special method of a slot to `None`. No form of invocation
of the slot runs an implementation of the method. And when the slot is read again for the right
operand, after a slot with a shared override was asked from the left, no reflected method is called. -/
theorem World.blocked_runs_nothing {world : World Host} (reachable : World.Reachable forged world)
    {id : TypeId} {kind : SlotKind} {dunder : String} (isMember : dunder ∈ kind.dunders)
    (blocks : world.registry.blocks id dunder = true) :
    ((entryOf id).Succeeds world fun entry _ =>
        Invocation.RunsNothing Host kind dunder (entry.target kind)) ∧
      (kind.reflectedDunder? = some dunder → ∀ other entry definition inherited,
        world.registry.HasEntry other entry → entry.target kind = .override definition inherited →
          ∀ later, World.Reachable forged later → later.registry.blocks id dunder = true →
            ∀ (perform : Perform Host) left right, right.typeId = id →
              (Invocation.sharedReflected perform definition left right).Succeeds later
                fun result next => result = .notImplemented ∧ World.Alike forged 0 later next) := by
  constructor
  · obtain ⟨definition, found, isBlocked⟩ := Registry.exists_of_blocks blocks
    refine (entryOf_succeeds reachable.alike found).mono fun entry next ⟨isEntry, _⟩ => ?_
    refine Invocation.runsNothing_of_isMissing (isEntry.fits kind) isMember ?_
    rcases (isEntry.resolves kind).blocked reachable.alike.coherent.wellFormed found isMember
      isBlocked with isAbsent | ⟨own, inherited, isOwn, _, isBound⟩
    · rw [isAbsent]
      rfl
    · rw [isOwn]
      exact SlotTarget.isMissing_of_binding isBound inherited
  · intro isReflected other entry definition inherited hasEntry isOverride later laterReachable
      stillBlocks perform left right isRight
    have isKind : definition.kind = kind := by
      obtain ⟨_, _, isEntry⟩ := hasEntry
      have fits := isEntry.fits kind
      rw [isOverride] at fits
      exact fits.1
    by_cases goesOn : left.typeId ≠ right.typeId ∧ definition.kind.isBinary = true
    · rw [Operator.sharedReflected_eq goesOn.1 goesOn.2, isKind]
      obtain ⟨laterDefinition, found, _⟩ := Registry.exists_of_blocks stillBlocks
      have isRead : (targetOf right kind).Succeeds later fun target next =>
          (∃ rightEntry, later.registry.HasEntry id rightEntry ∧ target = rightEntry.target kind) ∧
            World.Alike forged 0 later next := by
        refine (entryOf_succeeds laterReachable.alike (isRight ▸ found)).bind
          fun rightEntry next ⟨isEntry, alike⟩ => .pure ⟨⟨rightEntry, ?_, rfl⟩, alike⟩
        exact ⟨laterDefinition, found, isRight ▸ isEntry⟩
      refine isRead.bind ?_
      rintro _ next ⟨⟨rightEntry, forRight, rfl⟩, alike⟩
      rw [Registry.sharedMethod?_of_blocks reachable.alike.coherent.wellFormed
        laterReachable.alike.coherent.wellFormed isReflected isMember blocks stillBlocks hasEntry
        isOverride forRight]
      exact .pure ⟨rfl, alike⟩
    · have endsHere : (left.typeId = right.typeId || !definition.kind.isBinary) = true := by
        by_contra isOther
        simp only [Bool.or_eq_true, decide_eq_true_eq, Bool.not_eq_true', not_or] at isOther
        exact goesOn ⟨isOther.1, by simpa using isOther.2⟩
      rw [Invocation.sharedReflected, if_pos endsHere]
      exact .pure ⟨rfl, laterReachable.alike⟩

/-- A class adds from both sides, and its heir blocks the reflected method. -/
theorem World.blocked_runs_nothing_heir :
    ∃ world : World Unit, World.Reachable (fun _ => True) world ∧
      (∃ entry next, entryOf 13 world = some (.ok entry, next) ∧
        (entry.target .add).reflected.isMissing = false) ∧
      world.registry.blocks 14 "__radd__" = true ∧
      ((entryOf 14).Succeeds world fun entry _ =>
        Invocation.RunsNothing Unit .add "__radd__" (entry.target .add)) ∧
      (SlotKind.add.reflectedDunder? = some "__radd__" → ∀ other entry definition inherited,
        world.registry.HasEntry other entry → entry.target .add = .override definition inherited →
          ∀ later, World.Reachable (fun _ => True) later → later.registry.blocks 14 "__radd__" = true →
            ∀ (perform : Perform Unit) left right, right.typeId = 14 →
              (Invocation.sharedReflected perform definition left right).Succeeds later
                fun result next =>
                  result = .notImplemented ∧ World.Alike (fun _ => True) 0 later next) := by
  let program : Program Unit := fun _ _ => do
    let method ← Body.request (.allocate .function (.function "add" 1) false)
    let base ← Body.request (.createType "Base" [] ⟨[("__add__", method), ("__radd__", method)]⟩)
    let _ ← Body.request (.createType "Heir" [base] ⟨[("__radd__", .none)]⟩)
    return .none
  have isMade :
      ((perform program 2 (.apply "make" 0 []) (.initial .default ())).any fun made =>
        made.2.registry.blocks 14 "__radd__" &&
          (entryOf 13 made.2).any fun found => found.1.toOption.any fun entry =>
            !(entry.target .add).reflected.isMissing) = true := by
    decide +kernel
  obtain ⟨⟨made, world⟩, isOutcome, isTrue⟩ := (Option.any_eq_true _ _).1 isMade
  obtain ⟨blocks, isTrue⟩ := Bool.and_eq_true_iff.1 isTrue
  obtain ⟨⟨found, next⟩, isEntry, isTrue⟩ := (Option.any_eq_true _ _).1 isTrue
  have reachable := World.Reachable.of_outcome isOutcome
  have isMember : "__radd__" ∈ SlotKind.add.dunders := by decide
  cases found with
  | error error => cases isTrue
  | ok entry =>
      have isThere : (!(entry.target .add).reflected.isMissing) = true := isTrue
      exact ⟨world, reachable, ⟨entry, next, isEntry, by simpa using isThere⟩, blocks,
        World.blocked_runs_nothing reachable isMember blocks⟩

/-- This test tells a journal that notes a call. -/
def Journal.notes (callable : Callable) (journal : Journal) : Bool :=
  journal.any fun entry => match entry with
    | .call other _ _ _ => other = callable

theorem Journal.mem_of_notes {callable : Callable} {journal : Journal}
    (isTrue : journal.notes callable = true) :
    ∃ arguments outcome inner, .call callable arguments outcome inner ∈ journal := by
  obtain ⟨⟨other, arguments, outcome, inner⟩, isMember, isCallable⟩ := List.any_eq_true.1 isTrue
  obtain rfl : other = callable := by simpa using isCallable
  exact ⟨arguments, outcome, inner, isMember⟩

/-- A class has an attribute hook that gives 7, and its heir binds the hook to `None`. An attribute
that an instance of the heir misses is 7, and the hook of the class was called. -/
theorem World.blocked_hook_runs :
    ∃ (program : Program Unit) (world : World Unit), World.Reachable (fun _ => True) world ∧
      "__getattr__" ∈ SlotKind.getAttr.dunders ∧ world.registry.blocks 14 "__getattr__" = true ∧
      ((world.registry.definition? 13).bind fun definition =>
        (definition.attributes.get? "__getattr__").bind Value.place?) = some 0 ∧
      ∃ value : Value, value.typeId = 14 ∧
        ∃ result next, perform program 4 (.getAttribute value "x") world =
            some (.ok result, next) ∧ result.integer? = some 7 ∧
          ∃ arguments outcome inner,
            .call (.function "hook" 1) arguments outcome inner ∈ next.journal := by
  let program : Program Unit := fun code _ =>
    match code with
    | 0 => do
        let hook ← Body.request (.allocate .function (.function "hook" 1) false)
        let base ← Body.request (.createType "Base" [] ⟨[("__getattr__", hook)]⟩)
        let heir ← Body.request (.createType "Heir" [base] ⟨[("__getattr__", .none)]⟩)
        let _ ← Body.request (.allocate heir .plain true)
        return .none
    | _ => return .int 7
  let value : Value := .object ⟨.allocated 1, 14⟩ .plain
  have isMade :
      ((perform program 2 (.apply "make" 0 []) (.initial .default ())).any fun made =>
        let world : World Unit := { made.2 with journal := [], host := () }
        world.registry.blocks 14 "__getattr__" &&
          (((world.registry.definition? 13).bind fun definition =>
            (definition.attributes.get? "__getattr__").bind Value.place?) = some 0 &&
          (perform program 4 (.getAttribute value "x") world).any fun answer =>
            (answer.1.toOption.any fun result => result.integer? = some 7) &&
              answer.2.journal.notes (.function "hook" 1))) = true := by
    decide +kernel
  obtain ⟨⟨made, world⟩, isOutcome, isTrue⟩ := (Option.any_eq_true _ _).1 isMade
  have reachable := (World.Reachable.of_outcome isOutcome).resumed [] ()
  obtain ⟨blocks, isTrue⟩ := Bool.and_eq_true_iff.1 isTrue
  obtain ⟨isHook, isTrue⟩ := Bool.and_eq_true_iff.1 isTrue
  obtain ⟨⟨answer, next⟩, isAnswer, isTrue⟩ := (Option.any_eq_true _ _).1 isTrue
  obtain ⟨isSeven, isNoted⟩ := Bool.and_eq_true_iff.1 isTrue
  have isMember : "__getattr__" ∈ SlotKind.getAttr.dunders := by decide
  cases answer with
  | error error => cases isSeven
  | ok result =>
      exact ⟨program, _, reachable, isMember, blocks, of_decide_eq_true isHook, value, rfl, result,
        next, isAnswer, of_decide_eq_true isSeven, Journal.mem_of_notes isNoted⟩

end SlotDispatch
