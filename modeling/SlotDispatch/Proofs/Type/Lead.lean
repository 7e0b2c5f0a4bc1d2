import Mathlib.Order.Basic
import SlotDispatch.Proofs.Dispatch.Plan
import SlotDispatch.Proofs.Type.Coherence
import SlotDispatch.Proofs.Type.Resemblance
/-!
The slots of a registry that is some generations ahead. The main statements say that its slots resolve
to the same targets as far ahead, and that new generations of some types only increase the lead.
-/

namespace SlotDispatch.Registry

variable {left right registry : Registry} {kind : SlotKind}

/-! ### Generations -/

/-- This is the generation of a type, and a type that is not registered has not begun one. -/
def generationOf (registry : Registry) (id : TypeId) : Nat :=
  (registry.definition? id).elim 0 TypeDefinition.generation

theorem generationOf_eq {id : TypeId} {definition : TypeDefinition}
    (found : registry.definition? id = some definition) :
    registry.generationOf id = definition.generation := by
  rw [generationOf, found, Option.elim_some]

theorem Refreshes.generationOf (refreshes : Refreshes left right) :
    right.generationOf = left.generationOf := by
  funext id
  rw [Registry.generationOf, Registry.generationOf, refreshes.definition?]

/-- Generations only grow. -/
theorem Evolves.generationOf_le (evolves : Evolves left right) :
    left.generationOf ≤ right.generationOf := by
  intro id
  cases found : left.definition? id with
  | none => simp [generationOf, found]
  | some old =>
      obtain ⟨new, newFound, isHigher, _⟩ := evolves id old found
      rwa [generationOf_eq found, generationOf_eq newFound]

/-- The override of a slot is in the generation that its owner has now. -/
theorem ResolvesAlong.generation_eq {ids : List TypeId} {definition : Override}
    {inherited : SlotTarget}
    (resolves : registry.ResolvesAlong kind ids (.override definition inherited)) :
    definition.generation = registry.generationOf definition.owner := by
  cases resolves with
  | override _ found => exact (generationOf_eq found).symm

/-! ### Slots -/

namespace Resembles

variable (resembles : Resembles left right)

include resembles

theorem definer? (kind : SlotKind) (ids : List TypeId) :
    right.definer? kind ids = left.definer? kind ids := by
  refine congrArg (ids.find? ·) (funext fun id => ?_)
  rcases resembles.definition_cases id with ⟨isLeft, isRight⟩ | ⟨_, _, isLeft, isRight⟩
  · rw [isLeft, isRight]
  · rw [isLeft, isRight]
    rfl

theorem firstBinding? (dunder : String) (ids : List TypeId) :
    right.firstBinding? dunder ids = left.firstBinding? dunder ids := by
  refine congrArg (ids.findSome? ·) (funext fun id => ?_)
  rcases resembles.definition_cases id with ⟨isLeft, isRight⟩ | ⟨_, _, isLeft, isRight⟩
  · rw [isLeft, isRight]
  · rw [isLeft, isRight]
    rfl

theorem firstBindings (kind : SlotKind) (ids : List TypeId) :
    right.firstBindings kind ids = left.firstBindings kind ids := by
  simp only [Registry.firstBindings, resembles.firstBinding?]

theorem hides {ids : List TypeId} {inherited other : SlotTarget}
    (sameTarget : other = .absent ↔ inherited = .absent) :
    right.Hides kind ids other ↔ left.Hides kind ids inherited := by
  simp only [Hides, resembles.firstBinding?, sameTarget]

end Resembles

/-- A slot of a registry that is ahead resolves to the same target as far ahead. -/
theorem ResolvesAlong.advance {ids : List TypeId} {target : SlotTarget}
    (resolves : registry.ResolvesAlong kind ids target) (ahead : TypeId → Nat)
    (entries : SlotCache) :
    (registry.advance ahead entries).ResolvesAlong kind ids (target.advance ahead) := by
  have resembles := resembles_advance registry ahead entries
  have stillFound : ∀ {id definition}, registry.definition? id = some definition →
      (registry.advance ahead entries).definition? id =
        some (definition.inGeneration (definition.generation + ahead id)) := fun found => by
    rw [definition?_advance, found, Option.map_some]
  induction resolves with
  | undefined isUndefined => exact .undefined ((resembles.definer? kind _).trans isUndefined)
  | builtin isDefiner found bindsNothing hasOperation =>
      exact .builtin ((resembles.definer? kind _).trans isDefiner) (stillFound found) bindsNothing
        hasOperation
  | @hidden ids definer definition inherited isDefiner found binds _ hides inductionHypothesis =>
      have sameTarget : inherited.advance ahead = .absent ↔ inherited = .absent := by
        cases inherited <;> simp [SlotTarget.advance]
      exact .hidden ((resembles.definer? kind _).trans isDefiner) (stillFound found) binds
        inductionHypothesis ((resembles.hides sameTarget).2 hides)
  | @override ids definer definition inherited isDefiner found binds _ shows inductionHypothesis =>
      have sameTarget : inherited.advance ahead = .absent ↔ inherited = .absent := by
        cases inherited <;> simp [SlotTarget.advance]
      rw [SlotTarget.advance, Override.advance, ← resembles.firstBindings]
      exact .override ((resembles.definer? kind _).trans isDefiner) (stillFound found) binds
        inductionHypothesis (fun hides => shows ((resembles.hides sameTarget).1 hides))

/-- The entry of a type in a registry that is ahead is as far ahead. -/
theorem IsEntry.isAhead {ahead : TypeId → Nat} {entries : SlotCache} {id : TypeId}
    {definition : TypeDefinition} {generation : Nat} {entry other : SlotEntry}
    (isEntry : registry.IsEntry id definition entry)
    (isOther : (registry.advance ahead entries).IsEntry id (definition.inGeneration generation)
      other) : entry.IsAhead ahead other where
  typeId := isOther.typeId.trans isEntry.typeId.symm
  linearization := isOther.linearization.trans isEntry.linearization.symm
  target kind := (isOther.resolves kind).unique ((isEntry.resolves kind).advance ahead entries)

/-! ### New generations -/

/-- One more generation of a registered type increases the lead by one. -/
theorem exists_ahead_update (registry : Registry) (ahead : TypeId → Nat)
    (entries : SlotCache) (id : TypeId) :
    ∃ further, ahead ≤ further ∧
      (∀ other, registry.definition? other = none → further other = ahead other) ∧
      (registry.advance ahead entries).update id (fun definition =>
        { definition with generation := definition.generation + 1 }) =
          registry.advance further entries := by
  cases found : registry.definition? id with
  | none =>
      refine ⟨ahead, fun _ => Nat.le_refl _, fun _ _ => rfl, ?_⟩
      have isAbsent : (registry.advance ahead entries).definitions[id]? = none := by
        have stillAbsent := definition?_advance registry ahead entries id
        rwa [found, Option.map_none] at stillAbsent
      rw [update, List.modify_eq_self (List.getElem?_eq_none_iff.1 isAbsent)]
  | some definition =>
      refine ⟨fun other => if other = id then ahead id + 1 else ahead other, fun other => ?_,
        fun other unregistered => ?_, ?_⟩
      · by_cases isId : other = id
        · simp [isId]
        · simp [isId]
      · refine if_neg ?_
        rintro rfl
        rw [found] at unregistered
        cases unregistered
      · rw [update, advance, advance]
        congr 1
        refine List.ext_getElem? fun place => ?_
        rw [List.getElem?_modify, List.getElem?_mapIdx, List.getElem?_mapIdx]
        cases registry.definitions[place]? with
        | none => rfl
        | some definition =>
            by_cases isId : id = place
            · simp [isId, TypeDefinition.inGeneration, Nat.add_assoc]
            · simp [isId, Ne.symm isId]

/-- More generations of some types increase the lead. -/
theorem exists_ahead_raiseGenerations (registry : Registry) (ahead : TypeId → Nat)
    (entries : SlotCache) (ids : List TypeId) :
    ∃ further, ahead ≤ further ∧
      (∀ other, registry.definition? other = none → further other = ahead other) ∧
      (registry.advance ahead entries).raiseGenerations ids = registry.advance further entries := by
  induction ids generalizing ahead with
  | nil => exact ⟨ahead, fun _ => Nat.le_refl _, fun _ _ => rfl, rfl⟩
  | cons id rest inductionHypothesis =>
      obtain ⟨middle, isMore, isFresh, updated⟩ := exists_ahead_update registry ahead entries id
      obtain ⟨further, isEvenMore, isStillFresh, raised⟩ := inductionHypothesis middle
      refine ⟨further, fun id => Nat.le_trans (isMore id) (isEvenMore id), fun other unregistered =>
        (isStillFresh other unregistered).trans (isFresh other unregistered), ?_⟩
      rw [raiseGenerations, List.foldl_cons, updated]
      exact raised

end SlotDispatch.Registry
