import SlotDispatch.Proofs.Machine.Reachable
import SlotDispatch.Proofs.Type.Delegation
import SlotDispatch.Proofs.Type.Rebuilding
/-!
The slot entries of reachable worlds. The main statements say that the special methods which an override
leaves to its inherited target reach an operation or nothing, and that every entry is found again without
a bound when types ask only ancestors with shorter linearizations for theirs.
-/

namespace SlotDispatch

open SlotDispatch.Action SlotDispatch.Machine

variable {Host : Type} {forged : Nat → Prop}

/-! ### Delegation -/

/-- In every reachable world the overrides in the entry of a type delegate in order, and a kept entry of
the current generation of the type is this entry. -/
theorem World.entryOf_delegates {world : World Host} (reachable : World.Reachable forged world)
    {id : TypeId} {definition : TypeDefinition}
    (found : world.registry.definition? id = some definition) :
    (entryOf id).Succeeds world fun entry _ =>
      (∀ kept, world.registry.entries.get? id = some kept →
        kept.generation = definition.generation → kept = entry) ∧
      ∀ kind override inherited, (entry.target kind).LeadsTo (.override override inherited) →
        override.kind = kind ∧ world.registry.DelegatesInOrder override inherited := by
  have coherent := reachable.alike.coherent
  refine (entryOf_succeeds reachable.alike found).mono fun entry _ ⟨isEntry, _⟩ => ⟨?_, ?_⟩
  · intro kept isKept isCurrent
    obtain ⟨same, sameFound, _, isKeptEntry⟩ := coherent.kept isKept
    obtain rfl := Option.some.inj (found.symm.trans sameFound)
    exact (isKeptEntry isCurrent).unique isEntry
  · intro kind override inherited leads
    obtain ⟨_, resolves⟩ := (isEntry.resolves kind).of_leadsTo leads
    exact resolves.delegatesInOrder coherent.wellFormed

/-- A class of integers and its heir add with methods of their own, and the operation of integers is the
reflected method of both. -/
theorem World.entryOf_delegates_heir :
    ∃ world : World Unit, World.Reachable (fun _ => True) world ∧
      ∃ entry next override inherited, entryOf 14 world = some (.ok entry, next) ∧
        entry.target .add = .override override inherited ∧ override.owner = 14 ∧
        inherited.overrides.map Override.owner = [13] ∧ override.binding "__radd__" = .inherited ∧
        (∀ other ∈ inherited.overrides, other.binding "__radd__" = .inherited) ∧
        inherited.reach "__radd__" = .builtin .intAdd ∧
        ∃ definition, world.registry.definition? 14 = some definition ∧
          [14, 13].Sublist definition.linearization := by
  let program : Program Unit := fun _ _ => do
    let base ← Body.request (.createType "Base" [.int] ⟨[("__add__", .int 1)]⟩)
    let _ ← Body.request (.createType "Heir" [base] ⟨[("__add__", .int 2)]⟩)
    return .none
  have isMade :
      ((perform program 2 (.apply "make" 0 []) (.initial .default ())).any fun answer =>
        (answer.2.registry.definition? 14).any fun _ => (entryOf 14 answer.2).any fun found =>
          found.1.toOption.any fun entry => match entry.target .add with
            | .override override inherited =>
                override.owner = 14 && (override.methods.get? "__radd__").isNone &&
                  inherited.overrides.map Override.owner = [13] &&
                  (inherited.reach "__radd__").isBuiltin .intAdd
            | .absent | .builtin _ => false) =
        true := by
    decide +kernel
  obtain ⟨⟨outcome, world⟩, isOutcome, isTrue⟩ := (Option.any_eq_true _ _).1 isMade
  obtain ⟨definition, other, _, found, isOther, isTrue⟩ := World.exists_entry_of_any isTrue
  have reachable := World.Reachable.of_outcome isOutcome
  obtain ⟨entry, next, isEntry, _, delegates⟩ := World.entryOf_delegates reachable found
  have isSame : entry = other := by
    simpa using congrArg (Option.map Prod.fst) (isEntry.symm.trans isOther)
  rw [← isSame] at isTrue
  cases isTarget : entry.target .add with
  | absent | builtin => simp [isTarget] at isTrue
  | override override inherited =>
      simp only [isTarget, Bool.and_eq_true, decide_eq_true_eq] at isTrue
      obtain ⟨⟨⟨isOwner, isUnbound⟩, areOwners⟩, isOperation⟩ := isTrue
      obtain ⟨isKind, isInOrder⟩ := delegates .add override inherited (isTarget ▸ .itself _)
      obtain ⟨ownDefinition, ownFound, isSublist⟩ := isInOrder.inOrder
      have isMember : "__radd__" ∈ override.kind.dunders := by
        rw [isKind]
        decide
      have isLeft : override.binding "__radd__" = .inherited := by
        rw [Override.binding, Option.isNone_iff_eq_none.1 isUnbound]
      rw [isOwner] at ownFound
      rw [isOwner, areOwners] at isSublist
      exact ⟨world, reachable, entry, next, override, inherited, isEntry, isTarget, isOwner,
        areOwners, isLeft, isInOrder.leaves _ isMember isLeft, Reached.eq_of_isBuiltin isOperation,
        ownDefinition, ownFound, isSublist⟩

/-! ### Rebuilding -/

/-- In every reachable world the entry of a registered type is found, whichever entries are kept. The
search needs no bound when a type asks only other registered types in its linearization
that have shorter linearizations, and with a bound it needs no more depth than the linearization is
long. -/
theorem World.entryOf_eq_entryAmong {world : World Host} (reachable : World.Reachable forged world)
    {id : TypeId} {definition : TypeDefinition}
    (found : world.registry.definition? id = some definition) {state : Registry}
    (same : state.definitions = world.registry.definitions) :
    ∃ entry next, Registry.entryOf id state = some (.ok entry, next) ∧
      state.entryAmong id state = some (.ok entry, next) ∧
      ∀ depth, definition.linearization.length ≤ depth →
        Registry.entryWithin depth id state = some (.ok entry, next) := by
  have stateFound : state.definition? id = some definition := by
    rw [Registry.definition?, same]
    exact found
  exact (reachable.alike.coherent.wellFormed.of_definitions same).finds_entryAmong stateFound

/-- An older type has moved under a newer one, and its entry is found when all entries are forgotten. -/
theorem World.entryOf_eq_entryAmong_moved :
    ∃ world : World Unit, World.Reachable (fun _ => True) world ∧
      world.registry.linearizationOf 13 = [13, 14, .object] ∧
      ∃ state : Registry, state.definitions = world.registry.definitions ∧
      state.entries.get? 14 = none ∧
      ∃ entry next, Registry.entryOf 13 state = some (.ok entry, next) ∧
        state.entryAmong 13 state = some (.ok entry, next) ∧
        ∀ depth, 3 ≤ depth → Registry.entryWithin depth 13 state = some (.ok entry, next) := by
  let program : Program Unit := fun _ _ => do
    let older ← Body.request (.createType "Older" [] ⟨[("__add__", .int 1)]⟩)
    let newer ← Body.request (.createType "Newer" [] ⟨[("__add__", .int 2)]⟩)
    Body.request (.setBases older [newer])
    return .none
  have isMade :
      ((perform program 2 (.apply "make" 0 []) (.initial .default ())).bind fun answer =>
        (answer.2.registry.definition? 13).map TypeDefinition.linearization) =
        some [13, 14, .object] := by
    decide +kernel
  obtain ⟨⟨outcome, world⟩, isOutcome, isFound⟩ := Option.bind_eq_some_iff.1 isMade
  obtain ⟨definition, found, isMoved⟩ := Option.map_eq_some_iff.1 isFound
  have reachable := World.Reachable.of_outcome isOutcome
  let state : Registry := { world.registry with entries := .empty }
  have same : state.definitions = world.registry.definitions := rfl
  obtain ⟨entry, next, isEntry, isAmong, isWithin⟩ :=
    World.entryOf_eq_entryAmong reachable found same
  rw [isMoved] at isWithin
  refine ⟨world, reachable, ?_, state, same, rfl, entry, next, isEntry, isAmong, isWithin⟩
  rw [Registry.linearizationOf_of_definition? found, isMoved]

end SlotDispatch
