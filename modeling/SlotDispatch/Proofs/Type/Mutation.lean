import SlotDispatch.Proofs.Type.Staging
/-!
The mutations of a registry. The main statements say, for each mutation, which definition every type
has after it, and that a mutation keeps a registry well-formed.
-/

namespace SlotDispatch.Registry

variable {registry next : Registry}

/-! ### One mutation -/

/-- A mutation creates a type, changes an attribute, moves a type to other bases, or invalidates a
type. -/
inductive Mutation (before after : Registry) : Prop where
  | created (id : TypeId) (name : String) (bases : List TypeId) (attributes : Namespace)
      (isOk : before.createType name bases attributes = .ok (id, after))
  | assigned (id : TypeId) (name : String) (value : Value)
      (isOk : before.setAttribute id name value = .ok after)
  | deleted (id : TypeId) (name : String) (isOk : before.deleteAttribute id name = .ok after)
  | rebased (id : TypeId) (bases : List TypeId) (isOk : before.setBases id bases = .ok after)
  | invalidated (id : TypeId) (isOk : before.invalidate id = .ok after)

/-! ### New types -/

/-- A created type has some open bases without repetition, no operations, and no subclasses, and it is
linearized over its bases within the limit. -/
theorem createType_ok {name : String} {bases : List TypeId} {attributes : Namespace} {id : TypeId}
    (isOk : registry.createType name bases attributes = .ok (id, next)) :
    ∃ new : TypeDefinition, id = registry.definitions.length ∧ next = registry.append new ∧
      (new.isImmutable = false ∧ new.isBase = true ∧ new.isHeap = true ∧ new.operations = []) ∧
      (∀ base ∈ new.bases, registry.IsOpen base) ∧ new.subclasses = [] ∧
      Linearization.linearize id (registry.withLinearizations new.bases) = .ok new.linearization ∧
      new.bases ≠ [] ∧ new.bases.Nodup ∧
      new.linearization.length ≤ registry.linearizationLimit := by
  obtain ⟨_, validated, continued⟩ := bind_eq_ok_iff.1 isOk
  obtain ⟨next, isNext, continued⟩ := bind_eq_ok_iff.1 continued
  obtain ⟨linearization, linearized, same⟩ := bind_eq_ok_iff.1 continued
  obtain ⟨rfl, rfl⟩ := Prod.mk.inj (Except.ok.inj same)
  obtain ⟨rfl, _⟩ := newId_eq_ok_iff.1 isNext
  obtain ⟨merged, isShort⟩ := linearize_ok linearized
  obtain ⟨areOpen, nodup⟩ := validateBases_ok validated
  refine ⟨_, rfl, rfl, ⟨rfl, rfl, rfl, rfl⟩, ?_, rfl, merged, ?_, nodup, isShort⟩
  · exact fun base isBase => (areOpen base isBase).2
  · dsimp only [newClass]
    split
    · simp
    · assumption

theorem linearizationOf_append {id : TypeId} (new : TypeDefinition)
    (isOld : id ≠ registry.definitions.length) :
    (registry.append new).linearizationOf id = registry.linearizationOf id := by
  rw [linearizationOf, linearizationOf, definition?_append, if_neg isOld]
  cases registry.definition? id <;> rfl

theorem IsOpen.ne_length {base : TypeId} (isOpen : registry.IsOpen base) :
    base ≠ registry.definitions.length := by
  obtain ⟨definition, found, _⟩ := isOpen
  exact Nat.ne_of_lt (lt_length_of_definition? found)

theorem IsOpen.append {base : TypeId} (isOpen : registry.IsOpen base) (new : TypeDefinition) :
    (registry.append new).IsOpen base := by
  have isOld := isOpen.ne_length
  obtain ⟨definition, found, isBase⟩ := isOpen
  rw [IsOpen, definition?_append, if_neg isOld, found]
  exact ⟨_, rfl, isBase⟩

/-- Only the new type has new bases. -/
theorem hasBase_append (new : TypeDefinition) (id base : TypeId) :
    (registry.append new).HasBase id base ↔
      (id = registry.definitions.length ∧ base ∈ new.bases) ∨ registry.HasBase id base := by
  simp only [HasBase, definition?_append]
  by_cases isNew : id = registry.definitions.length
  · have absent : registry.definition? registry.definitions.length = none := by
      simp [Registry.definition?]
    simp [isNew, absent]
  · simp [isNew]

/-- A new type with open bases keeps the registry well-formed. It is a base of no type, because all bases
were registered before it. -/
theorem WellFormed.append (wellFormed : registry.WellFormed) {new : TypeDefinition}
    (basesOpen : ∀ base ∈ new.bases, registry.IsOpen base) (noSubclasses : new.subclasses = [])
    (linearized : Linearization.linearize registry.definitions.length
      (registry.withLinearizations new.bases) = .ok new.linearization) :
    (registry.append new).WellFormed := by
  have sameOrders : ∀ bases : List TypeId, (∀ base ∈ bases, registry.IsOpen base) →
      (registry.append new).withLinearizations bases = registry.withLinearizations bases := by
    intro bases areOpen
    refine List.map_congr_left fun base isBase => ?_
    rw [linearizationOf_append new (areOpen base isBase).ne_length]
  refine ⟨?_, ?_, ?_⟩
  · intro id definition found
    rw [definition?_append] at found
    split at found
    · rename_i isNew
      obtain rfl := Option.some.inj found
      rw [isNew, sameOrders new.bases basesOpen, linearized]
    · obtain ⟨old, oldFound, rfl⟩ := Option.map_eq_some_iff.1 found
      rw [sameOrders old.bases (wellFormed.basesOpen oldFound), wellFormed.linearized oldFound]
  · intro id definition found base isBase
    rw [definition?_append] at found
    split at found
    · obtain rfl := Option.some.inj found
      exact (basesOpen base isBase).append new
    · obtain ⟨old, oldFound, rfl⟩ := Option.map_eq_some_iff.1 found
      exact (wellFormed.basesOpen oldFound base isBase).append new
  · intro id definition found subclass
    rw [hasBase_append]
    rw [definition?_append] at found
    split at found
    · rename_i isNew
      obtain rfl := Option.some.inj found
      have notBase : id ∉ new.bases := fun isBase => (basesOpen id isBase).ne_length isNew
      have noneBefore : ¬ registry.HasBase subclass id := by
        rintro ⟨definition, subclassFound, isBase⟩
        exact (wellFormed.basesOpen subclassFound id isBase).ne_length isNew
      rw [noSubclasses, List.nil_append, mem_replicate_count]
      exact ⟨fun isMember => absurd isMember.2 notBase,
        fun isMember => isMember.elim (fun isNew => absurd isNew.2 notBase) (absurd · noneBefore)⟩
    · obtain ⟨old, oldFound, rfl⟩ := Option.map_eq_some_iff.1 found
      rw [List.mem_append, mem_replicate_count, wellFormed.subclassesExact oldFound, or_comm]

/-! ### Changed attributes and invalidation -/

/-- A change of definitions that leaves the hierarchy alone keeps the registry well-formed. -/
theorem WellFormed.of_map (wellFormed : registry.WellFormed)
    (change : TypeId → TypeDefinition → TypeDefinition)
    (isMap : ∀ id, next.definition? id = (registry.definition? id).map (change id))
    (bases : ∀ id definition, (change id definition).bases = definition.bases)
    (linearization : ∀ id definition,
      (change id definition).linearization = definition.linearization)
    (subclasses : ∀ id definition, (change id definition).subclasses = definition.subclasses)
    (isBase : ∀ id definition, (change id definition).isBase = definition.isBase) :
    next.WellFormed := by
  refine wellFormed.of_sameHierarchy fun id => ?_
  rw [isMap, Option.map_map]
  congr 1
  funext definition
  simp [bases, linearization, subclasses, isBase]

/-- A change of an attribute changes one namespace, and a slot dunder begins a new generation of the
family. -/
theorem definition?_changeAttributes (wellFormed : registry.WellFormed) {id : TypeId}
    {definition : TypeDefinition} (found : registry.definition? id = some definition)
    (name : String) (change : Namespace → Namespace) (other : TypeId) :
    (registry.changeAttributes id name change).definition? other =
      (registry.definition? other).map fun definition =>
        { definition with
          attributes :=
            if id = other then change definition.attributes else definition.attributes
          generation := definition.generation +
            if SlotKind.isSlotDunder name ∧ id ∈ definition.linearization then 1 else 0 } := by
  let changed := registry.update id fun definition =>
    { definition with attributes := change definition.attributes }
  have isChanged : ∀ other, changed.definition? other =
      (registry.definition? other).map fun definition =>
        { definition with
          attributes :=
            if id = other then change definition.attributes else definition.attributes } := by
    intro other
    rw [definition?_update]
    congr 1
    funext definition
    split <;> rfl
  have stillWellFormed : changed.WellFormed :=
    wellFormed.of_map _ isChanged (fun _ _ => rfl) (fun _ _ => rfl) (fun _ _ => rfl) (fun _ _ => rfl)
  have changedFound := isChanged id
  rw [found] at changedFound
  simp only [changeAttributes]
  split
  · rename_i isSlotDunder
    rw [definition?_raiseFamily stillWellFormed changedFound, isChanged, Option.map_map]
    simp only [isSlotDunder, true_and]
    rfl
  · rename_i isOther
    simp only [isOther, Bool.false_eq_true, false_and, if_false, Nat.add_zero]
    exact isChanged other

theorem sameFrame_raiseFamily (registry : Registry) (id : TypeId) :
    SameFrame registry (registry.raiseFamily id) :=
  sameFrame_raiseGenerations registry _

theorem sameFrame_changeAttributes (registry : Registry) (id : TypeId) (name : String)
    (change : Namespace → Namespace) :
    SameFrame registry (registry.changeAttributes id name change) := by
  have changed := sameFrame_update registry id fun definition =>
    { definition with attributes := change definition.attributes }
  simp only [changeAttributes]
  split
  · exact changed.trans (sameFrame_raiseFamily _ id)
  · exact changed

theorem ensureMutable_ok {definition : TypeDefinition} {name : String}
    (isOk : definition.ensureMutable name = .ok ()) : definition.isImmutable = false := by
  rw [TypeDefinition.ensureMutable] at isOk
  split at isOk
  · cases isOk
  · rename_i isMutable
    exact Bool.eq_false_iff.2 isMutable

/-- An assignment and a deletion both change an attribute of a mutable type. -/
theorem setAttribute_ok {id : TypeId} {name : String} {value : Value}
    (isOk : registry.setAttribute id name value = .ok next) :
    ∃ definition, registry.definition? id = some definition ∧ definition.isImmutable = false ∧
      next = registry.changeAttributes id name fun attributes => attributes.insert name value := by
  obtain ⟨definition, found, continued⟩ := bind_eq_ok_iff.1 isOk
  obtain ⟨_, isMutable, same⟩ := bind_eq_ok_iff.1 continued
  exact ⟨definition, require_eq_ok_iff.1 found, ensureMutable_ok isMutable,
    (Except.ok.inj same).symm⟩

theorem deleteAttribute_ok {id : TypeId} {name : String}
    (isOk : registry.deleteAttribute id name = .ok next) :
    ∃ definition, registry.definition? id = some definition ∧ definition.isImmutable = false ∧
      next = registry.changeAttributes id name fun attributes => attributes.erase name := by
  obtain ⟨definition, found, continued⟩ := bind_eq_ok_iff.1 isOk
  obtain ⟨_, isMutable, checked⟩ := bind_eq_ok_iff.1 continued
  split at checked
  · exact ⟨definition, require_eq_ok_iff.1 found, ensureMutable_ok isMutable,
      (Except.ok.inj checked).symm⟩
  · cases checked

theorem invalidate_ok {id : TypeId} (isOk : registry.invalidate id = .ok next) :
    ∃ definition, registry.definition? id = some definition ∧ next = registry.raiseFamily id := by
  obtain ⟨definition, found, same⟩ := bind_eq_ok_iff.1 isOk
  exact ⟨definition, require_eq_ok_iff.1 found, (Except.ok.inj same).symm⟩

/-! ### New bases -/

/-- This is the definition of a type after a type has moved from its old bases to new ones. -/
def rebasedDefinition (id : TypeId) (old bases : List TypeId) (staged : Staged) (other : TypeId)
    (definition : TypeDefinition) : TypeDefinition :=
  { definition with
    bases := movedBases id bases other definition
    linearization := (staged.get? other).getD definition.linearization
    generation := definition.generation + if staged.contains other then 1 else 0
    subclasses :=
      (if other ∈ old then definition.subclasses.filter fun subclass => subclass ≠ id
        else definition.subclasses) ++ List.replicate (bases.count other) id }

/-- A registry is rebased when a mutable type has moved to open bases that do not inherit from it,
and every type of its family has got its staged linearization. -/
structure Rebased (registry next : Registry) (id : TypeId) (bases : List TypeId)
    (definition : TypeDefinition) (staged : Staged) : Prop where
  found : registry.definition? id = some definition
  isMutable : definition.isImmutable = false
  areOpen : ∀ base ∈ bases, registry.IsOpen base
  staging : Staging registry (registry.descendants id ++ [id]) id bases [] staged
  definitions : ∀ other, next.definition? other =
    (registry.definition? other).map (rebasedDefinition id definition.bases bases staged other)
  frame : SameFrame registry next

theorem setBases_ok (wellFormed : registry.WellFormed) {id : TypeId} {bases : List TypeId}
    (isOk : registry.setBases id bases = .ok next) :
    ∃ definition staged, Rebased registry next id bases definition staged := by
  obtain ⟨definition, required, continued⟩ := bind_eq_ok_iff.1 isOk
  have found := require_eq_ok_iff.1 required
  obtain ⟨_, isMutable, checked⟩ := bind_eq_ok_iff.1 continued
  split at checked
  · cases checked
  · obtain ⟨_, validated, unchecked⟩ := bind_eq_ok_iff.1 checked
    obtain ⟨_, noCycle, unstaged⟩ := bind_eq_ok_iff.1 unchecked
    obtain ⟨staged, isStaged, same⟩ := bind_eq_ok_iff.1 unstaged
    obtain rfl := Except.ok.inj same
    have staging := stageBases_ok wellFormed found (rejectCycles_ok noCycle) isStaged
    refine ⟨definition, staged, found, ensureMutable_ok isMutable, ?_, staging, ?_, ?_⟩
    · exact fun base isBase => ((validateBases_ok validated).1 base isBase).2
    · intro other
      rw [definition?_publish _ staging.unambiguous, definition?_update, definition?_moveSubclass,
        Option.map_map, Option.map_map]
      congr 1
      funext otherDefinition
      simp only [Function.comp_apply, rebasedDefinition, movedBases, Table.contains]
      rcases (staged.get? other).eq_none_or_eq_some with isAbsent | ⟨linearization, isStaged⟩
      · by_cases isMoved : id = other
        · simp [isMoved, isAbsent]
        · simp [isMoved, isAbsent, Ne.symm isMoved]
      · by_cases isMoved : id = other
        · simp [isMoved, isStaged]
        · simp [isMoved, isStaged, Ne.symm isMoved]
    · exact ((sameFrame_moveSubclass registry id definition.bases bases).trans
        (sameFrame_update _ id _)).trans (sameFrame_publish _ staged)

namespace Rebased

variable {id : TypeId} {bases : List TypeId} {definition : TypeDefinition} {staged : Staged}
  (rebased : Rebased registry next id bases definition staged)

include rebased

/-- The staged types are those that have the moved type as an ancestor. -/
theorem contains_iff (wellFormed : registry.WellFormed) (other : TypeId) :
    staged.contains other = true ↔ id ∈ registry.linearizationOf other := by
  have isMember := rebased.staging.members other
  rw [mem_family_iff wellFormed rebased.found] at isMember
  simp [isMember]

theorem linearizationOf (other : TypeId) :
    next.linearizationOf other = registry.stagedLinearization staged other := by
  rw [Registry.linearizationOf, rebased.definitions, stagedLinearization, Registry.linearizationOf]
  cases found : registry.definition? other with
  | some otherDefinition => rfl
  | none =>
      cases isStaged : staged.get? other with
      | none => rfl
      | some linearization =>
          obtain ⟨_, isRegistered, _⟩ := rebased.staging.linearized other linearization isStaged
          rw [found] at isRegistered
          cases isRegistered

theorem isOpen {other : TypeId} (isOpen : registry.IsOpen other) : next.IsOpen other := by
  obtain ⟨otherDefinition, found, isBase⟩ := isOpen
  rw [IsOpen, rebased.definitions, found]
  exact ⟨_, rfl, isBase⟩

/-- Only the moved type has other bases than before. -/
theorem hasBase_iff (subclass base : TypeId) :
    next.HasBase subclass base ↔
      if subclass = id then base ∈ bases else registry.HasBase subclass base := by
  simp only [HasBase, rebased.definitions]
  by_cases isMoved : subclass = id
  · subst isMoved
    simp [rebased.found, rebasedDefinition, movedBases]
  · simp [rebasedDefinition, movedBases, isMoved]

section Hierarchy

variable (wellFormed : registry.WellFormed) {other : TypeId} {otherDefinition : TypeDefinition}
  (otherFound : next.definition? other = some otherDefinition)

include wellFormed otherFound

/-- Every type is linearized over its new bases. Neither the type that moves nor one of its bases has
that type as an ancestor. -/
theorem linearized :
    Linearization.linearize other (next.withLinearizations otherDefinition.bases) =
      .ok otherDefinition.linearization := by
  rw [rebased.definitions] at otherFound
  obtain ⟨old, oldFound, rfl⟩ := Option.map_eq_some_iff.1 otherFound
  have orders : next.withLinearizations (movedBases id bases other old) =
      (movedBases id bases other old).map fun base =>
        (base, registry.stagedLinearization staged base) :=
    List.map_congr_left fun base _ => by rw [rebased.linearizationOf]
  simp only [rebasedDefinition, orders]
  cases isStaged : staged.get? other with
  | some linearization =>
      obtain ⟨_, isRegistered, merged, _⟩ :=
        rebased.staging.linearized other linearization isStaged
      obtain rfl := Option.some.inj (oldFound.symm.trans isRegistered)
      exact merged
  | none =>
      have notAncestor : id ∉ old.linearization := by
        have notStaged := (rebased.contains_iff wellFormed other).not
        rw [linearizationOf_of_definition? oldFound] at notStaged
        exact notStaged.1 (by simp [Table.contains, isStaged])
      have isOther : other ≠ id := by
        rintro rfl
        exact notAncestor (wellFormed.self_mem_linearization oldFound)
      have sameBases : movedBases id bases other old = old.bases := if_neg isOther
      rw [sameBases, Option.getD_none, ← wellFormed.linearized oldFound]
      congr 1
      refine List.map_congr_left fun base isBase => ?_
      have notBaseAncestor : id ∉ registry.linearizationOf base := fun isAncestor =>
        notAncestor ((wellFormed.mem_linearization_iff oldFound id).2
          (.inr ⟨base, isBase, isAncestor⟩))
      have notStaged := (rebased.contains_iff wellFormed base).not.2 notBaseAncestor
      have absent : staged.get? base = none := by
        simpa [Table.contains] using notStaged
      rw [stagedLinearization, absent, Option.getD_none]

theorem basesOpen {base : TypeId} (isBase : base ∈ otherDefinition.bases) : next.IsOpen base := by
  rw [rebased.definitions] at otherFound
  obtain ⟨old, oldFound, rfl⟩ := Option.map_eq_some_iff.1 otherFound
  refine rebased.isOpen ?_
  simp only [rebasedDefinition, movedBases] at isBase
  split at isBase
  · exact rebased.areOpen base isBase
  · exact wellFormed.basesOpen oldFound base isBase

theorem subclassesExact (subclass : TypeId) :
    subclass ∈ otherDefinition.subclasses ↔ next.HasBase subclass other := by
  rw [rebased.definitions] at otherFound
  obtain ⟨old, oldFound, rfl⟩ := Option.map_eq_some_iff.1 otherFound
  simp only [rebasedDefinition, List.mem_append, mem_replicate_count]
  rw [rebased.hasBase_iff]
  have listed := wellFormed.subclassesExact oldFound subclass
  by_cases isMoved : subclass = id
  · subst isMoved
    have wasBase : other ∈ definition.bases ↔ subclass ∈ old.subclasses := by
      rw [listed, HasBase]
      simp [rebased.found]
    by_cases isOldBase : other ∈ definition.bases
    · simp [isOldBase]
    · simp [isOldBase, wasBase.not.1 isOldBase]
  · simp only [isMoved, false_and, or_false, if_false, ← listed]
    split
    · simp [isMoved]
    · rfl

end Hierarchy

theorem wellFormed (wellFormed : registry.WellFormed) : next.WellFormed :=
  ⟨fun found => rebased.linearized wellFormed found,
    fun found _ isBase => rebased.basesOpen wellFormed found isBase,
    fun found subclass => rebased.subclassesExact wellFormed found subclass⟩

end Rebased

/-! ### All mutations -/

/-- A mutation keeps a registry well-formed. -/
theorem Mutation.wellFormed (mutation : Mutation registry next) (wellFormed : registry.WellFormed) :
    next.WellFormed := by
  have changed : ∀ {id definition name change}, registry.definition? id = some definition →
      (registry.changeAttributes id name change).WellFormed := fun found =>
    wellFormed.of_map _ (definition?_changeAttributes wellFormed found _ _)
      (fun _ _ => rfl) (fun _ _ => rfl) (fun _ _ => rfl) (fun _ _ => rfl)
  cases mutation with
  | created id name bases attributes isOk =>
      obtain ⟨new, rfl, rfl, _, areOpen, noSubclasses, linearized, _⟩ := createType_ok isOk
      exact wellFormed.append areOpen noSubclasses linearized
  | assigned id name value isOk =>
      obtain ⟨definition, found, _, rfl⟩ := setAttribute_ok isOk
      exact changed found
  | deleted id name isOk =>
      obtain ⟨definition, found, _, rfl⟩ := deleteAttribute_ok isOk
      exact changed found
  | rebased id bases isOk =>
      obtain ⟨definition, staged, rebased⟩ := setBases_ok wellFormed isOk
      exact rebased.wellFormed wellFormed
  | invalidated id isOk =>
      obtain ⟨definition, found, rfl⟩ := invalidate_ok isOk
      exact wellFormed.of_map (fun _ definition =>
          { definition with
            generation := definition.generation + if id ∈ definition.linearization then 1 else 0 })
        (definition?_raiseFamily wellFormed found)
        (fun _ _ => rfl) (fun _ _ => rfl) (fun _ _ => rfl) (fun _ _ => rfl)

/-- A mutation leaves the kept entries and the limit alone. -/
theorem Mutation.frame (mutation : Mutation registry next) (wellFormed : registry.WellFormed) :
    next.entries = registry.entries ∧ next.linearizationLimit = registry.linearizationLimit := by
  cases mutation with
  | created id name bases attributes isOk =>
      obtain ⟨new, rfl, rfl, _⟩ := createType_ok isOk
      exact ⟨entries_append registry new, linearizationLimit_append registry new⟩
  | assigned id name value isOk =>
      obtain ⟨_, _, _, rfl⟩ := setAttribute_ok isOk
      exact ⟨(sameFrame_changeAttributes registry id name _).entries,
        (sameFrame_changeAttributes registry id name _).limit⟩
  | deleted id name isOk =>
      obtain ⟨_, _, _, rfl⟩ := deleteAttribute_ok isOk
      exact ⟨(sameFrame_changeAttributes registry id name _).entries,
        (sameFrame_changeAttributes registry id name _).limit⟩
  | rebased id bases isOk =>
      obtain ⟨_, _, rebased⟩ := setBases_ok wellFormed isOk
      exact ⟨rebased.frame.entries, rebased.frame.limit⟩
  | invalidated id isOk =>
      obtain ⟨_, _, rfl⟩ := invalidate_ok isOk
      exact ⟨(sameFrame_raiseFamily registry id).entries, (sameFrame_raiseFamily registry id).limit⟩

end SlotDispatch.Registry
