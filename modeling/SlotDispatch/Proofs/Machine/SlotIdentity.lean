import SlotDispatch.Proofs.Machine.Reachable
/-!
The identity of slots. The main statements say that a slot which is made anew is the same as no other
slot, and that the slots of two types are the same exactly when one type defines the slot for both.
-/

namespace SlotDispatch

open SlotDispatch.Action SlotDispatch.Machine

/-- A slot that is present is the same as itself. -/
theorem SlotTarget.isSame_self {target : SlotTarget} (isThere : target.isAbsent = false) :
    target.isSame target = true := by
  cases target with
  | absent => cases isThere
  | builtin operation => simp [isSame]
  | override definition inherited => simp [isSame, Override.isSame]

/-! ### New overrides -/

/-- A slot that is made anew is the same as no slot that was made before. -/
theorem SlotTarget.IsMade.isSame_overrideTarget {registry : Registry} {target : SlotTarget}
    (isMade : target.IsMade registry.entries.makings) (owner : TypeId) (kind : SlotKind)
    (generation : Nat) (ids : List TypeId) (inherited : SlotTarget) :
    target.isSame (registry.overrideTarget owner kind generation ids inherited) = false := by
  rw [Registry.overrideTarget_eq_ite]
  dsimp only
  split_ifs
  · cases target <;> rfl
  · cases target <;> rfl
  · cases target with
    | absent | builtin => rfl
    | override definition behind =>
        simp only [isSame, Override.isSame]
        refine Bool.eq_false_iff.2 fun isSame => ?_
        simp only [Bool.and_eq_true, decide_eq_true_eq] at isSame
        obtain ⟨⟨⟨sameOwner, _⟩, sameGeneration⟩, sameTurn⟩ := isSame
        simp only [IsMade, sameOwner, sameGeneration, sameTurn] at isMade
        exact Nat.lt_irrefl _ isMade

namespace Registry

variable {registry : Registry}

/-! ### One definer -/

/-- Only one builtin type has a given operation. -/
theorem operation_owner : ∀ first < builtinTypes.length, ∀ second < builtinTypes.length,
    ∀ operation ∈ (builtinTypes[first]?).elim [] BuiltinType.operations,
      operation ∈ (builtinTypes[second]?).elim [] BuiltinType.operations → first = second := by
  decide +kernel

/-- Two types with one builtin operation are one type. -/
theorem KeepsBuiltins.owner_unique (keepsBuiltins : registry.KeepsBuiltins) {kind : SlotKind}
    {first second : TypeId} {firstDefinition secondDefinition : TypeDefinition}
    (firstFound : registry.definition? first = some firstDefinition)
    (secondFound : registry.definition? second = some secondDefinition) {operation : Builtin}
    (isFirst : firstDefinition.builtin? kind = some operation)
    (isSecond : secondDefinition.builtin? kind = some operation) : first = second := by
  have inside : ∀ {id definition}, registry.definition? id = some definition →
      definition.builtin? kind = some operation → id < builtinTypes.length ∧
        operation ∈ (builtinTypes[id]?).elim [] BuiltinType.operations := by
    intro id definition found hasOperation
    have isMember := List.mem_of_find?_eq_some hasOperation
    rw [keepsBuiltins.operations found] at isMember
    refine ⟨?_, isMember⟩
    by_contra isBeyond
    rw [List.getElem?_eq_none (Nat.le_of_not_lt isBeyond)] at isMember
    cases isMember
  obtain ⟨firstInside, isFirstOperation⟩ := inside firstFound isFirst
  obtain ⟨secondInside, isSecondOperation⟩ := inside secondFound isSecond
  exact operation_owner first firstInside second secondInside operation isFirstOperation
    isSecondOperation

/-- Two lists of types share the definer of a slot when the first type that defines the slot is the same
in both. -/
def SharesDefiner (registry : Registry) (kind : SlotKind) (firstIds secondIds : List TypeId) : Prop :=
  ∃ definer, registry.definer? kind firstIds = some definer ∧
    registry.definer? kind secondIds = some definer

/-- A slot resolves to one target along two lists of types that share its definer. -/
theorem SharesDefiner.target_eq {kind : SlotKind} {firstIds secondIds : List TypeId}
    (shares : registry.SharesDefiner kind firstIds secondIds) {first second : SlotTarget}
    (left : registry.ResolvesAlong kind firstIds first)
    (right : registry.ResolvesAlong kind secondIds second) : first = second := by
  obtain ⟨definer, isFirst, isSecond⟩ := shares
  exact (left.of_definer? (isSecond.trans isFirst.symm)).unique right

/-- Two targets that a slot resolves to along two lists of types are the same exactly when neither is
absent and one type defines the slot for both lists. -/
theorem ResolvesAlong.isSame_iff (keepsBuiltins : registry.KeepsBuiltins) {kind : SlotKind}
    {firstIds secondIds : List TypeId} {first second : SlotTarget}
    (left : registry.ResolvesAlong kind firstIds first)
    (right : registry.ResolvesAlong kind secondIds second) :
    first.isSame second = true ↔ first.isAbsent = false ∧ second.isAbsent = false ∧
      registry.SharesDefiner kind firstIds secondIds := by
  constructor
  · intro isSame
    cases left with
    | undefined | hidden => cases isSame
    | @builtin _ firstDefiner _ firstOperation isFirst firstFound _ firstHas =>
        cases right with
        | undefined | hidden | override => cases isSame
        | @builtin _ secondDefiner _ secondOperation isSecond secondFound _ secondHas =>
            obtain rfl : firstOperation = secondOperation := of_decide_eq_true isSame
            obtain rfl := keepsBuiltins.owner_unique firstFound secondFound firstHas secondHas
            exact ⟨rfl, rfl, firstDefiner, isFirst, isSecond⟩
    | @override _ firstDefiner _ _ isFirst =>
        cases right with
        | undefined | hidden | builtin => cases isSame
        | @override _ secondDefiner _ _ isSecond =>
            simp only [SlotTarget.isSame, Override.isSame, Bool.and_eq_true, decide_eq_true_eq]
              at isSame
            obtain ⟨⟨⟨rfl, _⟩, _⟩, _⟩ := isSame
            exact ⟨rfl, rfl, firstDefiner, isFirst, isSecond⟩
  · rintro ⟨isThere, _, shares⟩
    obtain rfl := shares.target_eq left right
    exact SlotTarget.isSame_self isThere

end Registry

/-! ### Reachable worlds -/

variable {Host : Type} {forged : Nat → Prop}

/-- In a reachable world, the slots of two types are the same exactly when neither is absent and the
first type that defines the slot is the same along both linearizations. The slots are then equal in
all that they hold. No slot that would be made anew is the same as either of them. -/
theorem World.isSame_iff_sharesDefiner {world : World Host}
    (reachable : World.Reachable forged world) {first second : TypeId}
    {firstDefinition secondDefinition : TypeDefinition}
    (firstFound : world.registry.definition? first = some firstDefinition)
    (secondFound : world.registry.definition? second = some secondDefinition) :
    (entryOf first).Succeeds world fun firstEntry middle =>
      (entryOf second).Succeeds middle fun secondEntry last => ∀ kind,
        ((firstEntry.target kind).isSame (secondEntry.target kind) = true ↔
          (firstEntry.target kind).isAbsent = false ∧ (secondEntry.target kind).isAbsent = false ∧
            world.registry.SharesDefiner kind firstDefinition.linearization
              secondDefinition.linearization) ∧
        ((firstEntry.target kind).isSame (secondEntry.target kind) = true →
          firstEntry.target kind = secondEntry.target kind) ∧
        ∀ owner generation ids inherited,
          (firstEntry.target kind).isSame
            (last.registry.overrideTarget owner kind generation ids inherited) = false ∧
          (secondEntry.target kind).isSame
            (last.registry.overrideTarget owner kind generation ids inherited) = false := by
  refine (entryOf_reads reachable.alike firstFound).mono ?_
  intro firstEntry middle ⟨isFirst, alike, _, firstMade⟩
  have stillFound := (alike.definition? second).trans secondFound
  refine (entryOf_reads (alike.symm.trans alike) stillFound).mono ?_
  intro secondEntry last ⟨isSecond, _, reads, secondMade⟩ kind
  have left := isFirst.resolves kind
  have right := (alike.refreshes.isEntry secondFound isSecond).resolves kind
  have isSame_iff := left.isSame_iff alike.coherent.keepsBuiltins right
  refine ⟨isSame_iff, fun isSame => ?_, fun owner generation ids inherited => ⟨?_, ?_⟩⟩
  · obtain ⟨_, _, shares⟩ := isSame_iff.1 isSame
    exact shares.target_eq left right
  · exact ((firstMade kind).mono reads.makings).isSame_overrideTarget owner kind generation ids inherited
  · exact (secondMade kind).isSame_overrideTarget owner kind generation ids inherited

/-- Two heirs of a class share its slot, although the class was changed after the slots of one heir
were read. -/
theorem World.isSame_iff_sharesDefiner_heirs :
    ∃ world : World Unit, World.Reachable (fun _ => True) world ∧
      ∃ first second, world.registry.definition? 14 = some first ∧
        world.registry.definition? 15 = some second ∧
        world.registry.definer? .add first.linearization = some 13 ∧
        world.registry.definer? .add second.linearization = some 13 ∧
        (entryOf 14).Succeeds world fun firstEntry middle =>
          (entryOf 15).Succeeds middle fun secondEntry last => ∀ kind,
            ((firstEntry.target kind).isSame (secondEntry.target kind) = true ↔
              (firstEntry.target kind).isAbsent = false ∧
                (secondEntry.target kind).isAbsent = false ∧
                world.registry.SharesDefiner kind first.linearization second.linearization) ∧
            ((firstEntry.target kind).isSame (secondEntry.target kind) = true →
              firstEntry.target kind = secondEntry.target kind) ∧
            ∀ owner generation ids inherited,
              (firstEntry.target kind).isSame
                (last.registry.overrideTarget owner kind generation ids inherited) = false ∧
              (secondEntry.target kind).isSame
                (last.registry.overrideTarget owner kind generation ids inherited) = false := by
  let program : Program Unit := fun _ _ => do
    let base ← Body.request (.createType "Base" [.int] ⟨[("__add__", .int 1)]⟩)
    let first ← Body.request (.createType "First" [base] .empty)
    let _ ← Body.request (.createType "Second" [base] .empty)
    let _ ← Body.request (.target first .add)
    Body.request (.setTypeAttribute base "__radd__" (.int 3))
    return .none
  have isMade :
      ((perform program 2 (.apply "make" 0 []) (.initial .default ())).bind fun answer =>
        (answer.2.registry.definition? 14).bind fun first =>
          (answer.2.registry.definition? 15).map fun second =>
            (answer.2.registry.definer? .add first.linearization,
              answer.2.registry.definer? .add second.linearization)) =
        some (some 13, some 13) := by
    decide +kernel
  obtain ⟨⟨outcome, world⟩, isOutcome, isMade⟩ := Option.bind_eq_some_iff.1 isMade
  obtain ⟨first, firstFound, isMade⟩ := Option.bind_eq_some_iff.1 isMade
  obtain ⟨second, secondFound, isMade⟩ := Option.map_eq_some_iff.1 isMade
  have reachable := World.Reachable.of_outcome isOutcome
  exact ⟨world, reachable, first, second, firstFound, secondFound, congrArg Prod.fst isMade,
    congrArg Prod.snd isMade, World.isSame_iff_sharesDefiner reachable firstFound secondFound⟩

end SlotDispatch
