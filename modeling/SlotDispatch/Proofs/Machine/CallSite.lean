import SlotDispatch.Proofs.Machine.Alike
import SlotDispatch.Proofs.Machine.Operator
/-!
Call sites in alike worlds. The main statement says that a call site which was never given a forged
plan evaluates its operator as the machine does without a call site.
-/

namespace SlotDispatch.Operator

open SlotDispatch.Action

variable {Host : Type} {forged : Nat → Prop} {known : Nat} {perform : Perform Host}

section Oblivious

variable (oblivious : perform.Oblivious forged known)

include oblivious

/-- In alike worlds the shared reflected method is tried alike. -/
theorem bridges_of_oblivious {moment : SingleMoment} {kind : SlotKind} {target other : SlotTarget}
    (shows : (Judgement.alike Host forged known).Shows moment kind target other) :
    Invocation.Bridges (Judgement.alike Host forged known) moment
      (Invocation.sharedReflected perform) (Invocation.sharedReflected perform) target other :=
  Invocation.bridges_of_exact oblivious.performs (fun shows => shows) shows

theorem oblivious_runPlan (left right third : Value) (plan : Plan) :
    Oblivious Host forged known (runPlan perform left right third plan) := by
  rw [runPlan_eq_runPlanBy]
  exact oblivious_of_respects (related_runPlanBy oblivious.performs
    (bridges_of_oblivious oblivious) left right third
    (show SlotKind.power.shapes ⊆ _ by split <;> decide)
    (List.forall₂_same.2 fun _ _ => ⟨rfl, rfl⟩))

theorem oblivious_fallback (kind : SlotKind) (left right : Value)
    (leftEntry rightEntry : SlotEntry) :
    Oblivious Host forged known (fallback perform kind left right leftEntry rightEntry) :=
  oblivious_of_respects (related_fallback oblivious.performs kind left right
    ⟨rfl, rfl, fun _ => rfl⟩ ⟨rfl, rfl, fun _ => rfl⟩)

theorem oblivious_binary (kind : SlotKind) (left right : Value) :
    Oblivious Host forged known (binary perform kind left right) := by
  rw [binary_eq_binaryBy]
  exact oblivious_of_respects
    (related_binaryBy oblivious.performs (bridges_of_oblivious oblivious) kind left right)

end Oblivious

/-! ### Clean call sites -/

/-- A plan is made from the entries of both types and run, and then the operator falls back. -/
def evaluate (perform : Perform Host) (kind : SlotKind) (left right : Value) :
    Action (World Host) Value := do
  let leftEntry ← entryOf left.typeId
  let rightEntry ← entryOf right.typeId
  match ← runPlan perform left right .none (Plan.binary kind leftEntry rightEntry) with
  | some result => return result
  | none => fallback perform kind left right leftEntry rightEntry

/-- Power has no short cut for integers. -/
theorem integerResult?_power (left right : Value) : integerResult? .power left right = none := by
  unfold integerResult?
  split <;> rfl

theorem binary_of_integerResult? {kind : SlotKind} (isBinary : kind.isBinary = true)
    {left right result : Value} (isFast : integerResult? kind left right = some result) :
    binary perform kind left right = return result := by
  have notTernary : ¬ kind.isTernary = true := by
    rw [isTernary_iff]
    rintro rfl
    rw [integerResult?_power] at isFast
    cases isFast
  have isBinaryNumber : kind.isBinaryNumber = true := by
    simpa [SlotKind.isBinary, notTernary] using isBinary
  simp only [binary, notTernary, isBinaryNumber, isFast]
  rfl

/-- An operator on two operands without a short cut evaluates the plan of both entries. -/
theorem binary_eq_evaluate {kind : SlotKind} (isBinary : kind.isBinary = true) {left right : Value}
    (isSlow : integerResult? kind left right = none) :
    binary perform kind left right = evaluate perform kind left right := by
  by_cases isTernary : kind.isTernary = true
  · obtain rfl := (isTernary_iff kind).1 isTernary
    rfl
  · have isBinaryNumber : kind.isBinaryNumber = true := by
      simpa [SlotKind.isBinary, isTernary] using isBinary
    simp only [binary, isTernary, isBinaryNumber, isSlow]
    rfl

/-- A fallback reads no other slots than those without special methods. -/
theorem fallback_congr {kind : SlotKind} {left right : Value}
    {leftEntry rightEntry otherLeft otherRight : SlotEntry}
    (sameLeft : ∀ kind : SlotKind, kind.dunders = [] → leftEntry.target kind = otherLeft.target kind)
    (sameRight : ∀ kind : SlotKind, kind.dunders = [] →
      rightEntry.target kind = otherRight.target kind) :
    fallback perform kind left right leftEntry rightEntry =
      fallback perform kind left right otherLeft otherRight := by
  unfold fallback
  rw [sameLeft .sqConcat rfl, sameLeft .sqRepeat rfl, sameRight .sqRepeat rfl]

section CallSite

variable {world : World Host} {site : Nat} {callSite : CallSite} {left right : Value}

theorem probe_eq {leftDefinition rightDefinition : TypeDefinition}
    (leftFound : world.registry.definition? left.typeId = some leftDefinition)
    (rightFound : world.registry.definition? right.typeId = some rightDefinition) :
    probe left right world = some (.ok ⟨left.typeId, right.typeId, leftDefinition.generation,
      rightDefinition.generation⟩, world) := by
  simp only [probe, bind_apply, definition_of_registered leftFound,
    definition_of_registered rightFound, pure_apply]

/-- The plan at a clean call site is the plan of the entries that both types have now. -/
theorem planAt_succeeds (alike : World.Alike forged known world world) (isClean : ¬ forged site)
    (isSite : world.sites[site]? = some callSite) {leftDefinition rightDefinition : TypeDefinition}
    (leftFound : world.registry.definition? left.typeId = some leftDefinition)
    (rightFound : world.registry.definition? right.typeId = some rightDefinition) :
    (planAt site callSite left right).Succeeds world fun plan next =>
      (∃ leftEntry rightEntry, world.registry.IsEntry left.typeId leftDefinition leftEntry ∧
        world.registry.IsEntry right.typeId rightDefinition rightEntry ∧
        plan = Plan.binary callSite.kind leftEntry rightEntry) ∧
      World.Alike forged known world next := by
  have isSound : callSite.IsSound world.registry := alike.isSound isClean isSite
  have isProbe : (probe left right).Succeeds world fun key next =>
      key = ⟨left.typeId, right.typeId, leftDefinition.generation, rightDefinition.generation⟩ ∧
        next = world := ⟨_, _, probe_eq leftFound rightFound, rfl, rfl⟩
  refine isProbe.bind ?_
  rintro _ _ ⟨rfl, rfl⟩
  cases isHit : callSite.lookup _ with
  | some plan => exact .pure ⟨isSound.lookup leftFound rightFound isHit, alike⟩
  | none =>
      refine (entryOf_succeeds alike leftFound).bind
        fun leftEntry middle ⟨leftIsEntry, leftAlike⟩ => ?_
      have middleAlike := leftAlike.symm.trans leftAlike
      have rightFoundLater := (leftAlike.definition? right.typeId).trans rightFound
      refine (entryOf_succeeds middleAlike rightFoundLater).bind
        fun rightEntry last ⟨rightIsEntry, rightAlike⟩ => ?_
      have lastAlike := leftAlike.trans rightAlike
      have rightIsEntry := leftAlike.refreshes.isEntry rightFound rightIsEntry
      refine .current_bind (.change_bind (.pure
        ⟨⟨leftEntry, rightEntry, leftIsEntry, rightIsEntry, rfl⟩, lastAlike.record isClean ?_ _⟩))
      intro lastSite isLastSite
      have wellFormed := alike.coherent.wellFormed
      have evolves := lastAlike.refreshes.evolves
      refine ⟨leftEntry, rightEntry, ?_, ?_, rfl, rfl, ?_⟩
      · rw [leftIsEntry.typeId]
        exact (leftIsEntry.isCoherentEntry leftFound).of_evolves wellFormed evolves
      · rw [rightIsEntry.typeId]
        exact (rightIsEntry.isCoherentEntry rightFound).of_evolves wellFormed evolves
      · have matched := lastAlike.sites site
        rw [isSite, isLastSite] at matched
        cases matched with
        | some both => rw [both.kind]

/-- The plan at a call site is run, and then the operator falls back on entries that are read
again. -/
def evaluateAt (perform : Perform Host) (site : Nat) (callSite : CallSite) (left right : Value) :
    Action (World Host) Value := do
  let plan ← planAt site callSite left right
  match ← runPlan perform left right .none plan with
  | some result => return result
  | none => do
      let leftEntry ← entryOf left.typeId
      let rightEntry ← entryOf right.typeId
      fallback perform callSite.kind left right leftEntry rightEntry

/-- A call site that exists uses its plans, unless it may remember nothing or has given up. -/
def resolveAt (perform : Perform Host) (site : Nat) (callSite : CallSite) (capacity : Nat)
    (left right : Value) : Action (World Host) Value :=
  if capacity = 0 || callSite.isMegamorphic || !callSite.kind.isBinary then
    binary perform callSite.kind left right
  else
    match integerResult? callSite.kind left right with
    | some result => return result
    | none => evaluateAt perform site callSite left right

theorem cached_eq (perform : Perform Host) (site : Nat) (left right : Value) :
    cached perform site left right = (do
      let world ← current
      match world.sites[site]? with
      | none => fail (.unknownSite site)
      | some callSite =>
          resolveAt perform site callSite world.configuration.inlineCacheCapacity left right) :=
  rfl

variable (oblivious : ∀ known, perform.Oblivious forged known)

include oblivious

/-- Entries that are read again after the plan has run lead to the same fallback. -/
theorem matches_fallback {before after other : World Host} {leftEntry rightEntry : SlotEntry}
    {leftDefinition rightDefinition : TypeDefinition}
    (coherent : before.registry.Coherent)
    (leftFound : before.registry.definition? left.typeId = some leftDefinition)
    (rightFound : before.registry.definition? right.typeId = some rightDefinition)
    (leftIsEntry : before.registry.IsEntry left.typeId leftDefinition leftEntry)
    (rightIsEntry : before.registry.IsEntry right.typeId rightDefinition rightEntry)
    (alike : World.Alike forged before.registry.definitions.length after other) (kind : SlotKind) :
    Matches (World.Alike forged before.registry.definitions.length)
      ((do
        let leftEntry ← entryOf left.typeId
        let rightEntry ← entryOf right.typeId
        fallback perform kind left right leftEntry rightEntry : Action (World Host) Value) after)
      (fallback perform kind left right leftEntry rightEntry other) := by
  have stillRegistered : ∀ {id definition}, before.registry.definition? id = some definition →
      ∃ later, after.registry.definition? id = some later := fun found =>
    Registry.definition?_isSome_iff.2
      (Nat.lt_of_lt_of_le (Registry.lt_length_of_definition? found) alike.isKnown)
  obtain ⟨leftLater, leftFoundLater⟩ := stillRegistered leftFound
  obtain ⟨rightLater, rightFoundLater⟩ := stillRegistered rightFound
  have selfAlike := alike.trans alike.symm
  obtain ⟨newLeft, middle, isLeft, newLeftIsEntry, middleAlike⟩ :=
    entryOf_succeeds selfAlike leftFoundLater
  obtain ⟨newRight, last, isRight, newRightIsEntry, lastAlike⟩ :=
    entryOf_succeeds (middleAlike.symm.trans middleAlike)
      ((middleAlike.definition? right.typeId).trans rightFoundLater)
  have newRightIsEntry := middleAlike.refreshes.isEntry rightFoundLater newRightIsEntry
  have sameLeft : ∀ kind : SlotKind, kind.dunders = [] →
      newLeft.target kind = leftEntry.target kind := by
    intro kind noDunders
    rw [newLeftIsEntry.target_of_dunders_eq_nil alike.coherent leftFoundLater noDunders,
      leftIsEntry.target_of_dunders_eq_nil coherent leftFound noDunders]
  have sameRight : ∀ kind : SlotKind, kind.dunders = [] →
      newRight.target kind = rightEntry.target kind := by
    intro kind noDunders
    rw [newRightIsEntry.target_of_dunders_eq_nil alike.coherent rightFoundLater noDunders,
      rightIsEntry.target_of_dunders_eq_nil coherent rightFound noDunders]
  rw [bind_apply, isLeft]
  dsimp only
  rw [bind_apply, isRight]
  dsimp only
  rw [fallback_congr sameLeft sameRight]
  exact oblivious_fallback (oblivious _) kind left right leftEntry rightEntry last other
    ((middleAlike.trans lastAlike).symm.trans alike)

section Clean

variable {other : World Host} (alike : World.Alike forged known world other) (isClean : ¬ forged site)
  (isSite : world.sites[site]? = some callSite)

include alike isClean isSite

/-- For two registered types a clean call site evaluates the plan of both entries, in a world that is
alike. -/
theorem matches_evaluateAt_of_registered {leftDefinition rightDefinition : TypeDefinition}
    (leftFound : world.registry.definition? left.typeId = some leftDefinition)
    (rightFound : world.registry.definition? right.typeId = some rightDefinition) :
    Matches (World.Alike forged known) (evaluateAt perform site callSite left right world)
      (evaluate perform callSite.kind left right other) := by
  obtain ⟨leftEntry, middle, isLeft, leftIsEntry, leftAlike⟩ :=
    entryOf_succeeds (alike.symm.trans alike) ((alike.definition? left.typeId).trans leftFound)
  have leftIsEntry := alike.refreshes.isEntry leftFound leftIsEntry
  have middleAlike := alike.trans leftAlike
  obtain ⟨rightEntry, last, isRight, rightIsEntry, rightAlike⟩ :=
    entryOf_succeeds (middleAlike.symm.trans middleAlike)
      ((middleAlike.definition? right.typeId).trans rightFound)
  have rightIsEntry := middleAlike.refreshes.isEntry rightFound rightIsEntry
  obtain ⟨plan, next, isPlan, ⟨samePlanLeft, samePlanRight, isLeftToo, isRightToo, rfl⟩,
    nextAlike⟩ := planAt_succeeds (alike.trans alike.symm) isClean isSite leftFound rightFound
  obtain rfl := isLeftToo.unique leftIsEntry
  obtain rfl := isRightToo.unique rightIsEntry
  have planAlike := (nextAlike.symm.trans (middleAlike.trans rightAlike)).strengthen
  rw [nextAlike.refreshes.definitions] at planAlike
  have isFewer : known ≤ world.registry.definitions.length := alike.isKnown
  simp only [evaluateAt, evaluate, bind_apply, isPlan, isLeft, isRight]
  rcases (oblivious_runPlan (oblivious _) left right .none _ next last planAlike).cases with
    ⟨isNext, isLast⟩ | ⟨outcome, after, otherAfter, isNext, isLast, afterAlike⟩
  · rw [isNext, isLast]
    exact .none
  · rw [isNext, isLast]
    rcases outcome with error | _ | result
    · exact .some ⟨rfl, afterAlike.weaken isFewer⟩
    · exact (matches_fallback oblivious alike.coherent leftFound rightFound leftIsEntry
        rightIsEntry afterAlike callSite.kind).mono fun _ _ stillAlike =>
          stillAlike.weaken isFewer
    · exact .some ⟨rfl, afterAlike.weaken isFewer⟩

/-- A clean call site evaluates the plan of both entries in a world that is alike. -/
theorem matches_evaluateAt :
    Matches (World.Alike forged known) (evaluateAt perform site callSite left right world)
      (evaluate perform callSite.kind left right other) := by
  cases leftFound : world.registry.definition? left.typeId with
  | none =>
      have isAbsent := (alike.definition? left.typeId).trans leftFound
      simp only [evaluateAt, evaluate, planAt, probe, bind_apply,
        definition_of_unregistered leftFound,
        entryOf_of_unregistered alike.refreshes.coherent isAbsent]
      exact .some ⟨rfl, alike⟩
  | some leftDefinition =>
      cases rightFound : world.registry.definition? right.typeId with
      | none =>
          obtain ⟨leftEntry, middle, isLeft, _, leftAlike⟩ :=
            entryOf_succeeds (alike.symm.trans alike)
              ((alike.definition? left.typeId).trans leftFound)
          have middleAlike := alike.trans leftAlike
          have isAbsent := (middleAlike.definition? right.typeId).trans rightFound
          simp only [evaluateAt, evaluate, planAt, probe, bind_apply,
            definition_of_registered leftFound, definition_of_unregistered rightFound, isLeft,
            entryOf_of_unregistered middleAlike.refreshes.coherent isAbsent]
          exact .some ⟨rfl, middleAlike⟩
      | some rightDefinition =>
          exact matches_evaluateAt_of_registered oblivious alike isClean isSite leftFound rightFound

end Clean

/-- A clean call site evaluates its operator as the machine does without a call site. -/
theorem matches_cached {other : World Host} (alike : World.Alike forged known world other)
    (isClean : ¬ forged site) (isSite : world.sites[site]? = some callSite) :
    Matches (World.Alike forged known) (cached perform site left right world)
      (binary perform callSite.kind left right other) := by
  rw [cached_eq, bind_apply]
  dsimp only [current]
  rw [isSite]
  dsimp only
  unfold resolveAt
  split
  · exact oblivious_binary (oblivious known) callSite.kind left right world other alike
  · rename_i isUsed
    have isBinary : callSite.kind.isBinary = true := by
      simp only [Bool.or_eq_true, not_or] at isUsed
      simpa using isUsed.2
    cases isResult : integerResult? callSite.kind left right with
    | some result =>
        rw [binary_of_integerResult? isBinary isResult]
        exact .some ⟨rfl, alike⟩
    | none =>
        rw [binary_eq_evaluate isBinary isResult]
        exact matches_evaluateAt oblivious alike isClean isSite

omit oblivious in
/-- A call site that does not exist answers nothing. -/
theorem cached_of_unknown (perform : Perform Host) {world : World Host} {site : Nat}
    (isUnknown : world.sites[site]? = none) (left right : Value) :
    cached perform site left right world = some (.error (.unknownSite site), world) := by
  rw [cached_eq, bind_apply]
  dsimp only [current]
  rw [isUnknown]
  rfl

/-! ### Forged call sites -/

omit oblivious in
theorem oblivious_probe (left right : Value) :
    Oblivious Host forged known (probe left right) :=
  (oblivious_definition _).bind fun _ => (oblivious_definition _).bind fun _ => .pure _

omit oblivious in
/-- Alike worlds stay alike when a forged call site records a plan in both. -/
theorem oblivious_recordAt (isForged : forged site) (key : CacheKey) (plan : Plan)
    (capacity : Nat) : Oblivious Host forged known (recordAt site key plan capacity) := by
  intro before after alike
  exact .some ⟨rfl, alike.recordForged isForged key plan capacity⟩

omit oblivious in
theorem oblivious_planAt (isForged : forged site) (callSite : CallSite) (left right : Value) :
    Oblivious Host forged known (planAt site callSite left right) := by
  refine (oblivious_probe left right).bind fun key => ?_
  cases callSite.lookup key with
  | some plan => exact .pure plan
  | none =>
      refine (oblivious_entryOf left.typeId).bind fun leftEntry => ?_
      refine (oblivious_entryOf right.typeId).bind fun rightEntry => ?_
      refine Respects.current_bind fun before after alike => ?_
      rw [alike.configuration]
      exact Respects.bind (oblivious_recordAt isForged _ _ _) fun _ => .pure _

theorem oblivious_evaluateAt (isForged : forged site) (callSite : CallSite) (left right : Value) :
    Oblivious Host forged known (evaluateAt perform site callSite left right) := by
  refine (oblivious_planAt isForged callSite left right).bind fun plan => ?_
  refine (oblivious_runPlan (oblivious known) left right .none plan).bind fun result? => ?_
  split
  · exact .pure _
  · refine (oblivious_entryOf left.typeId).bind fun leftEntry => ?_
    refine (oblivious_entryOf right.typeId).bind fun rightEntry => ?_
    exact oblivious_fallback (oblivious known) _ left right leftEntry rightEntry

theorem oblivious_resolveAt (isForged : forged site) (callSite : CallSite) (capacity : Nat)
    (left right : Value) :
    Oblivious Host forged known (resolveAt perform site callSite capacity left right) := by
  unfold resolveAt
  split
  · exact oblivious_binary (oblivious known) callSite.kind left right
  · split
    · exact .pure _
    · exact oblivious_evaluateAt oblivious isForged callSite left right

/-- Alike worlds may remember other plans at a clean call site, but both evaluate the operator as the
machine does without a call site. At a forged call site they remember the same plans. -/
theorem oblivious_cached (site : Nat) (left right : Value) :
    Oblivious Host forged known (cached perform site left right) := by
  intro before after alike
  rcases alike.site_cases site with
    ⟨isLeft, isRight⟩ | ⟨leftSite, rightSite, isLeft, isRight, both⟩
  · rw [cached_of_unknown perform isLeft, cached_of_unknown perform isRight]
    exact .some ⟨rfl, alike⟩
  · by_cases isForged : forged site
    · obtain rfl := both.same isForged
      rw [cached_eq, bind_apply, bind_apply]
      dsimp only [current]
      rw [isLeft, isRight, alike.configuration]
      exact oblivious_resolveAt oblivious isForged leftSite _ left right before after alike
    · have leftMatched : Matches (World.Alike forged known) (cached perform site left right before)
          (binary perform leftSite.kind left right before) :=
        matches_cached oblivious (alike.trans alike.symm) isForged isLeft
      have rightMatched : Matches (World.Alike forged known) (cached perform site left right after)
          (binary perform rightSite.kind left right before) :=
        matches_cached oblivious alike.symm isForged isRight
      rw [← both.kind] at rightMatched
      exact leftMatched.trans (fun first second => first.trans second)
        (rightMatched.symm fun stillAlike => stillAlike.symm)

end CallSite

end SlotDispatch.Operator
