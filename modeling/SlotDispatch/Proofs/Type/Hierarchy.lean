import Mathlib.Logic.Relation
import Mathlib.Order.Defs.Unbundled
import SlotDispatch.Proofs.Type.Builtins
/-!
The hierarchy of types as an order. The main statements say that the linearization of a type lists
what the type reaches through bases, that the subtype test is a partial order, that the bases of all
types determine every linearization, and that all types end in `object` after every mutation.
-/

namespace SlotDispatch.Registry

open Relation

variable {registry next : Registry}

/-! ### Linearizations and bases -/

section Order

variable (wellFormed : registry.WellFormed)

include wellFormed

/-- The ancestors of a type are the types that it reaches through bases. -/
theorem WellFormed.mem_linearization_iff_reaches {id ancestor : TypeId} {definition : TypeDefinition}
    (found : registry.definition? id = some definition) :
    ancestor ∈ definition.linearization ↔ ReflTransGen registry.HasBase id ancestor := by
  constructor
  · intro isAncestor
    induction id, definition, found using wellFormed.induction with
    | step id definition found inductionHypothesis =>
        rcases wellFormed.ancestor_cases found isAncestor with
          rfl | ⟨base, isBase, baseDefinition, baseFound, isBaseAncestor⟩
        · exact .refl
        · have reaches := inductionHypothesis base isBase baseDefinition baseFound isBaseAncestor
          exact .head ⟨definition, found, isBase⟩ reaches
  · intro reaches
    induction reaches using ReflTransGen.head_induction_on generalizing definition with
    | refl => exact wellFormed.self_mem_linearization found
    | @head id base hasBase _ inductionHypothesis =>
        obtain ⟨sameDefinition, sameFound, isBase⟩ := hasBase
        obtain rfl := Option.some.inj (found.symm.trans sameFound)
        obtain ⟨baseDefinition, baseFound, _⟩ := wellFormed.basesOpen found base isBase
        have isBaseAncestor := inductionHypothesis baseFound
        rw [← linearizationOf_of_definition? baseFound] at isBaseAncestor
        exact (wellFormed.mem_linearization_iff found ancestor).2 (.inr ⟨base, isBase, isBaseAncestor⟩)

/-- No type reaches itself through bases. -/
theorem WellFormed.acyclic (id : TypeId) : ¬ TransGen registry.HasBase id id := by
  intro isCycle
  obtain ⟨base, ⟨definition, found, isBase⟩, reaches⟩ := TransGen.head'_iff.1 isCycle
  obtain ⟨baseDefinition, baseFound, _⟩ := wellFormed.basesOpen found base isBase
  have isAncestor := (wellFormed.mem_linearization_iff_reaches baseFound).2 reaches
  rw [← linearizationOf_of_definition? baseFound] at isAncestor
  exact wellFormed.notMem_base found isBase isAncestor

/-- The subtype test tells what a registered type reaches through bases. -/
theorem WellFormed.isSubtype_iff {sub base : TypeId} {definition : TypeDefinition}
    (found : registry.definition? sub = some definition) :
    registry.isSubtype sub base = true ↔ ReflTransGen registry.HasBase sub base := by
  rw [isSubtype, linearizationOf_of_definition? found, Bool.or_eq_true, decide_eq_true_iff,
    List.contains_iff_mem, wellFormed.mem_linearization_iff_reaches found]
  constructor
  · rintro (rfl | reaches)
    · exact .refl
    · exact reaches
  · exact .inr

omit wellFormed in
/-- This is the subtype test between registered types. -/
def SubtypeAmongRegistered (registry : Registry)
    (sub base : {id : TypeId // ∃ definition, registry.definition? id = some definition}) : Prop :=
  registry.isSubtype sub base = true

/-- Registered types are partially ordered by the subtype test. -/
theorem WellFormed.isPartialOrder : IsPartialOrder _ registry.SubtypeAmongRegistered where
  refl type := by
    simp [SubtypeAmongRegistered, isSubtype]
  trans := by
    rintro ⟨first, definition, firstFound⟩ ⟨second, _, secondFound⟩ ⟨third, _⟩ left right
    have reachesSecond := (wellFormed.isSubtype_iff firstFound).1 left
    have reachesThird := (wellFormed.isSubtype_iff secondFound).1 right
    exact (wellFormed.isSubtype_iff firstFound).2 (reachesSecond.trans reachesThird)
  antisymm := by
    rintro ⟨first, _, firstFound⟩ ⟨second, _, secondFound⟩ left right
    have isAncestor := (wellFormed.mem_linearization_iff_reaches firstFound).2
      ((wellFormed.isSubtype_iff firstFound).1 left)
    have isDescendant := (wellFormed.mem_linearization_iff_reaches secondFound).2
      ((wellFormed.isSubtype_iff secondFound).1 right)
    exact Subtype.ext (wellFormed.ancestor_antisymm firstFound secondFound isAncestor isDescendant)

/-- Two well-formed registries whose types have the same bases have the same linearizations. -/
theorem WellFormed.linearizationOf_eq {other : Registry} (otherWellFormed : other.WellFormed)
    (sameBases : ∀ id, (other.definition? id).map TypeDefinition.bases =
      (registry.definition? id).map TypeDefinition.bases) (id : TypeId) :
    other.linearizationOf id = registry.linearizationOf id := by
  have agree := sameBases id
  cases found : registry.definition? id with
  | none =>
      rw [found, Option.map_none, Option.map_eq_none_iff] at agree
      rw [linearizationOf, linearizationOf, agree, found]
  | some definition =>
      clear agree
      induction id, definition, found using wellFormed.induction with
      | step id definition found inductionHypothesis =>
          have agree := sameBases id
          rw [found, Option.map_some] at agree
          obtain ⟨otherDefinition, otherFound, bases⟩ := Option.map_eq_some_iff.1 agree
          have linearized := otherWellFormed.linearized otherFound
          have sameOrders : other.withLinearizations otherDefinition.bases =
              registry.withLinearizations definition.bases := by
            rw [bases]
            refine List.map_congr_left fun base isBase => ?_
            obtain ⟨baseDefinition, baseFound, _⟩ := wellFormed.basesOpen found base isBase
            rw [inductionHypothesis base isBase baseDefinition baseFound]
          rw [sameOrders, wellFormed.linearized found] at linearized
          rw [linearizationOf_of_definition? found, linearizationOf_of_definition? otherFound]
          exact (Except.ok.inj linearized).symm

end Order

/-! ### Arranged types -/

/-- The types of a registry are arranged when only `object` has no bases, no base and no subclass is
listed twice, and the linearizations of heap types keep the limit. -/
structure Arranged (registry : Registry) : Prop where
  rooted : ∀ {id definition}, registry.definition? id = some definition →
    definition.bases = [] → id = .object
  basesNodup : ∀ {id definition}, registry.definition? id = some definition →
    definition.bases.Nodup
  subclassesNodup : ∀ {id definition}, registry.definition? id = some definition →
    definition.subclasses.Nodup
  isShort : ∀ {id definition}, registry.definition? id = some definition →
    definition.isHeap = true → definition.linearization.length ≤ registry.linearizationLimit

/-- The last element of an order is also last in every sublist that has it. -/
theorem getLast?_of_sublist {order fewer : List TypeId} {last : TypeId} (nodup : order.Nodup)
    (isSublist : fewer.Sublist order) (isLast : order.getLast? = some last)
    (isMember : last ∈ fewer) : fewer.getLast? = some last := by
  obtain ⟨front, rfl⟩ := List.getLast?_eq_some_iff.1 isLast
  obtain ⟨before, after, rfl, inFront, atEnd⟩ := List.sublist_append_iff.1 isSublist
  have notBefore : last ∉ before := fun isBefore =>
    (List.nodup_append.1 nodup).2.2 last (inFront.subset isBefore) last
      (List.mem_singleton_self last) rfl
  have isAfter := (List.mem_append.1 isMember).resolve_left notBefore
  have isEnd : after = [last] :=
    atEnd.eq_of_length_le (List.length_pos_of_mem isAfter)
  rw [isEnd, List.getLast?_append, List.getLast?_singleton, Option.some_or]

/-- Every linearization ends with `object`. Its last ancestor comes from a base, and it is last there
too. -/
theorem Arranged.getLast?_linearization (arranged : registry.Arranged)
    (wellFormed : registry.WellFormed) {id : TypeId} {definition : TypeDefinition}
    (found : registry.definition? id = some definition) :
    definition.linearization.getLast? = some .object := by
  induction id, definition, found using wellFormed.induction with
  | step id definition found inductionHypothesis =>
      obtain ⟨order, isCons, respects, members⟩ := wellFormed.linearization_eq_cons found
      cases isLast : order.getLast? with
      | none =>
          have isEmpty := List.getLast?_eq_none_iff.1 isLast
          have noBases : definition.bases = [] := by
            refine List.eq_nil_iff_forall_not_mem.2 fun base isBase => ?_
            obtain ⟨baseDefinition, baseFound, _⟩ := wellFormed.basesOpen found base isBase
            have isMember : base ∈ order := (members base).2 ⟨base, isBase, by
              rw [linearizationOf_of_definition? baseFound]
              exact wellFormed.self_mem_linearization baseFound⟩
            rw [isEmpty] at isMember
            cases isMember
          rw [isCons, isEmpty, arranged.rooted found noBases, List.getLast?_singleton]
      | some last =>
          obtain ⟨base, isBase, isAncestor⟩ := (members last).1 (List.mem_of_getLast? isLast)
          obtain ⟨baseDefinition, baseFound, _⟩ := wellFormed.basesOpen found base isBase
          have isSublist := respects.linearizations _ (List.mem_map_of_mem isBase)
          have isBaseLast := getLast?_of_sublist respects.nodup isSublist isLast isAncestor
          rw [linearizationOf_of_definition? baseFound,
            inductionHypothesis base isBase baseDefinition baseFound] at isBaseLast
          rw [isCons, List.getLast?_cons, isLast, Option.some.inj isBaseLast]
          rfl

/-! ### The first registry -/

theorem definitions_initial (limit : Nat) : (initial limit).definitions = (initial 0).definitions := by
  rfl

theorem arranged_initial (limit : Nat) : (initial limit).Arranged := by
  have checked : ∀ definition ∈ (initial 0).definitions, definition.subclasses.Nodup := by
    decide +kernel
  have rooted : ∀ place < builtinTypes.length, ∀ builtinType ∈ builtinTypes[place]?,
      builtinType.base? = none → place = TypeId.object := by
    decide
  obtain ⟨_, _, described⟩ := foldl_appendBuiltin limit builtinTypes basesComeFirst_builtinTypes
  refine ⟨?_, ?_, ?_, ?_⟩
  · intro id definition found noBases
    obtain ⟨builtinType, isListed, describes⟩ := described id definition found
    refine rooted id (List.getElem?_eq_some_iff.1 isListed).1 builtinType isListed ?_
    exact Option.toList_eq_nil_iff.1 (describes.bases.symm.trans noBases)
  · intro id definition found
    obtain ⟨builtinType, _, describes⟩ := described id definition found
    rw [describes.bases]
    exact Option.toList_nodup _
  · intro id definition found
    refine checked definition ?_
    rw [← definitions_initial limit]
    exact List.mem_of_getElem? found
  · intro id definition found isHeap
    obtain ⟨builtinType, _, describes⟩ := described id definition found
    rw [describes.isHeap] at isHeap
    cases isHeap

/-! ### All mutations -/

/-- A change that leaves bases, subclasses, and linearizations alone keeps the types arranged. -/
theorem Arranged.of_map (arranged : registry.Arranged)
    (change : TypeId → TypeDefinition → TypeDefinition)
    (isMap : ∀ id, next.definition? id = (registry.definition? id).map (change id))
    (limit : next.linearizationLimit = registry.linearizationLimit)
    (bases : ∀ id definition, (change id definition).bases = definition.bases)
    (linearization : ∀ id definition,
      (change id definition).linearization = definition.linearization)
    (subclasses : ∀ id definition, (change id definition).subclasses = definition.subclasses)
    (isHeap : ∀ id definition, (change id definition).isHeap = definition.isHeap) :
    next.Arranged := by
  have before : ∀ {id definition}, next.definition? id = some definition →
      ∃ old, registry.definition? id = some old ∧ definition = change id old := by
    intro id definition found
    rw [isMap] at found
    obtain ⟨old, oldFound, rfl⟩ := Option.map_eq_some_iff.1 found
    exact ⟨old, oldFound, rfl⟩
  refine ⟨?_, ?_, ?_, ?_⟩ <;> intro id definition found <;>
    obtain ⟨old, oldFound, rfl⟩ := before found
  · rw [bases]
    exact arranged.rooted oldFound
  · rw [bases]
    exact arranged.basesNodup oldFound
  · rw [subclasses]
    exact arranged.subclassesNodup oldFound
  · rw [isHeap, linearization, limit]
    exact arranged.isShort oldFound

/-- A type that joins new subclasses at most once was not among the old ones. -/
theorem nodup_joined {subclasses bases : List TypeId} {id base : TypeId}
    (subclassesNodup : subclasses.Nodup) (basesNodup : bases.Nodup) (isNew : id ∉ subclasses) :
    (subclasses ++ List.replicate (bases.count base) id).Nodup := by
  refine List.nodup_append.2 ⟨subclassesNodup, ?_, ?_⟩
  · exact List.nodup_replicate.2 (List.nodup_iff_count_le_one.1 basesNodup base)
  · rintro other isOld joined isJoined rfl
    obtain rfl := List.eq_of_mem_replicate isJoined
    exact isNew isOld

/-- A type is moved to some bases without repetition. -/
theorem setBases_bases {id : TypeId} {bases : List TypeId}
    (isOk : registry.setBases id bases = .ok next) : bases ≠ [] ∧ bases.Nodup := by
  obtain ⟨definition, _, continued⟩ := bind_eq_ok_iff.1 isOk
  obtain ⟨_, _, checked⟩ := bind_eq_ok_iff.1 continued
  split at checked
  · cases checked
  · rename_i isSome
    obtain ⟨_, validated, _⟩ := bind_eq_ok_iff.1 checked
    exact ⟨isSome, (validateBases_ok validated).2⟩

/-- A new type with some bases keeps the types arranged. -/
theorem Arranged.append (arranged : registry.Arranged) (wellFormed : registry.WellFormed)
    {new : TypeDefinition} (noSubclasses : new.subclasses = []) (hasBases : new.bases ≠ [])
    (nodup : new.bases.Nodup)
    (isShort : new.linearization.length ≤ registry.linearizationLimit) :
    (registry.append new).Arranged := by
  have notSubclass : ∀ {id definition}, registry.definition? id = some definition →
      registry.definitions.length ∉ definition.subclasses := by
    intro id definition found isSubclass
    obtain ⟨_, subclassFound, _⟩ := (wellFormed.subclassesExact found _).1 isSubclass
    exact Nat.lt_irrefl _ (lt_length_of_definition? subclassFound)
  refine ⟨?_, ?_, ?_, ?_⟩ <;> intro id definition found <;> rw [definition?_append] at found <;>
    split at found
  · obtain rfl := Option.some.inj found
    exact fun noBases => absurd noBases hasBases
  · obtain ⟨old, oldFound, rfl⟩ := Option.map_eq_some_iff.1 found
    exact fun noBases => arranged.rooted oldFound noBases
  · obtain rfl := Option.some.inj found
    exact nodup
  · obtain ⟨old, oldFound, rfl⟩ := Option.map_eq_some_iff.1 found
    have oldNodup := arranged.basesNodup oldFound
    exact oldNodup
  · obtain rfl := Option.some.inj found
    exact nodup_joined (noSubclasses ▸ List.nodup_nil) nodup (by simp [noSubclasses])
  · obtain ⟨old, oldFound, rfl⟩ := Option.map_eq_some_iff.1 found
    exact nodup_joined (arranged.subclassesNodup oldFound) nodup (notSubclass oldFound)
  · obtain rfl := Option.some.inj found
    rw [linearizationLimit_append]
    exact fun _ => isShort
  · obtain ⟨old, oldFound, rfl⟩ := Option.map_eq_some_iff.1 found
    have oldShort := arranged.isShort oldFound
    rw [linearizationLimit_append]
    exact oldShort

/-- A type that is moved to some bases keeps the types arranged. -/
theorem Rebased.arranged {id : TypeId} {bases : List TypeId} {definition : TypeDefinition}
    {staged : Staged} (rebased : Rebased registry next id bases definition staged)
    (arranged : registry.Arranged) (wellFormed : registry.WellFormed) (hasBases : bases ≠ [])
    (nodup : bases.Nodup) : next.Arranged := by
  refine ⟨?_, ?_, ?_, ?_⟩ <;> intro other otherDefinition found <;>
    rw [rebased.definitions] at found <;>
    obtain ⟨old, oldFound, rfl⟩ := Option.map_eq_some_iff.1 found <;>
    dsimp only [rebasedDefinition, movedBases]
  · split
    · exact fun noBases => absurd noBases hasBases
    · exact arranged.rooted oldFound
  · split
    · exact nodup
    · exact arranged.basesNodup oldFound
  · have oldNodup := arranged.subclassesNodup oldFound
    split
    · exact nodup_joined (oldNodup.filter _) nodup (by simp)
    · rename_i isNoBase
      refine nodup_joined oldNodup nodup fun isSubclass => isNoBase ?_
      obtain ⟨sameDefinition, sameFound, isBase⟩ :=
        (wellFormed.subclassesExact oldFound id).1 isSubclass
      obtain rfl := Option.some.inj (rebased.found.symm.trans sameFound)
      exact isBase
  · intro isHeap
    rw [rebased.frame.limit]
    cases isStaged : staged.get? other with
    | none => exact arranged.isShort oldFound isHeap
    | some linearization =>
        obtain ⟨_, _, _, isShort, _⟩ := rebased.staging.linearized other linearization isStaged
        exact isShort

/-- A mutation keeps the types arranged. -/
theorem Mutation.arranged (mutation : Mutation registry next) (wellFormed : registry.WellFormed)
    (arranged : registry.Arranged) : next.Arranged := by
  have limit := (mutation.frame wellFormed).2
  cases mutation with
  | created id name bases attributes isOk =>
      obtain ⟨new, _, rfl, _, _, noSubclasses, _, hasBases, nodup, isShort⟩ :=
        createType_ok isOk
      exact arranged.append wellFormed noSubclasses hasBases nodup isShort
  | assigned id name value isOk =>
      obtain ⟨definition, found, _, rfl⟩ := setAttribute_ok isOk
      exact arranged.of_map _ (definition?_changeAttributes wellFormed found _ _) limit
        (fun _ _ => rfl) (fun _ _ => rfl) (fun _ _ => rfl) (fun _ _ => rfl)
  | deleted id name isOk =>
      obtain ⟨definition, found, _, rfl⟩ := deleteAttribute_ok isOk
      exact arranged.of_map _ (definition?_changeAttributes wellFormed found _ _) limit
        (fun _ _ => rfl) (fun _ _ => rfl) (fun _ _ => rfl) (fun _ _ => rfl)
  | rebased id bases isOk =>
      obtain ⟨definition, staged, rebased⟩ := setBases_ok wellFormed isOk
      obtain ⟨hasBases, nodup⟩ := setBases_bases isOk
      exact rebased.arranged arranged wellFormed hasBases nodup
  | invalidated id isOk =>
      obtain ⟨definition, found, rfl⟩ := invalidate_ok isOk
      exact arranged.of_map (fun _ definition =>
          { definition with
            generation := definition.generation + if id ∈ definition.linearization then 1 else 0 })
        (definition?_raiseFamily wellFormed found) limit
        (fun _ _ => rfl) (fun _ _ => rfl) (fun _ _ => rfl) (fun _ _ => rfl)

/-! ### The hierarchy -/

/-- The types of a registry make a hierarchy: bases make no cycle, every linearization is the merge
over the current linearizations of the bases, the subtype test is the reflexive and transitive closure
of bases, and the subclasses of a type are the types that have it as a base. -/
structure IsHierarchy (registry : Registry) (limit : Nat) : Prop where
  acyclic : ∀ id, ¬ TransGen registry.HasBase id id
  linearized : ∀ {id definition}, registry.definition? id = some definition →
    Linearization.linearize id (registry.withLinearizations definition.bases) =
      .ok definition.linearization
  startsWithSelf : ∀ {id definition}, registry.definition? id = some definition →
    definition.linearization.head? = some id
  endsWithObject : ∀ {id definition}, registry.definition? id = some definition →
    definition.linearization.getLast? = some .object
  nodup : ∀ {id definition}, registry.definition? id = some definition →
    definition.linearization.Nodup
  registered : ∀ {id definition}, registry.definition? id = some definition →
    ∀ ancestor ∈ definition.linearization, ∃ ancestorDefinition,
      registry.definition? ancestor = some ancestorDefinition
  isSubtype_iff : ∀ {id definition}, registry.definition? id = some definition →
    ∀ base, registry.isSubtype id base = true ↔ ReflTransGen registry.HasBase id base
  isPartialOrder : IsPartialOrder _ registry.SubtypeAmongRegistered
  subclasses : ∀ {id definition}, registry.definition? id = some definition →
    definition.subclasses.Nodup ∧
      ∀ subclass, subclass ∈ definition.subclasses ↔ registry.HasBase subclass id
  isShort : ∀ {id definition}, registry.definition? id = some definition →
    definition.isHeap = true → definition.linearization.length ≤ limit
  /-- Behind its head, a linearization has only types that may be inherited from. -/
  ancestorsOpen : ∀ {id definition}, registry.definition? id = some definition →
    ∀ ancestor ∈ definition.linearization.tail, registry.IsOpen ancestor
  /-- A builtin type that may not be inherited from stands in its own linearization only. -/
  closedBuiltins : ∀ {place builtinType}, builtinTypes[place]? = some builtinType →
    builtinType.isBase = false → ∀ {id definition}, registry.definition? id = some definition →
      place ∈ definition.linearization → id = place

/-- The arranged types of a well-formed registry that keeps the builtin types make a hierarchy. -/
theorem Arranged.isHierarchy (arranged : registry.Arranged) (wellFormed : registry.WellFormed)
    (keepsBuiltins : registry.KeepsBuiltins) :
    registry.IsHierarchy registry.linearizationLimit where
  acyclic := wellFormed.acyclic
  linearized := wellFormed.linearized
  startsWithSelf found := by
    obtain ⟨order, isCons, _⟩ := wellFormed.linearization_eq_cons found
    rw [isCons, List.head?_cons]
  endsWithObject := arranged.getLast?_linearization wellFormed
  nodup := wellFormed.linearization_nodup
  registered found _ isAncestor := wellFormed.ancestor_registered found isAncestor
  isSubtype_iff found _ := wellFormed.isSubtype_iff found
  isPartialOrder := wellFormed.isPartialOrder
  subclasses found := ⟨arranged.subclassesNodup found, wellFormed.subclassesExact found⟩
  isShort := arranged.isShort
  ancestorsOpen := by
    intro id definition found ancestor isBehind
    obtain ⟨isAncestor, isOther⟩ := wellFormed.tail_spec found isBehind
    obtain ⟨ancestorDefinition, ancestorFound⟩ := wellFormed.ancestor_registered found isAncestor
    exact ⟨ancestorDefinition, ancestorFound,
      wellFormed.ancestor_isBase found ancestorFound isAncestor isOther⟩
  closedBuiltins := by
    intro place builtinType isListed isClosed id definition found isAncestor
    by_contra isOther
    obtain ⟨placeDefinition, placeFound⟩ := wellFormed.ancestor_registered found isAncestor
    have isOpen := wellFormed.ancestor_isBase found placeFound isAncestor (Ne.symm isOther)
    have describes := keepsBuiltins.builtin placeFound isListed
    rw [describes.isBase, isClosed] at isOpen
    cases isOpen

end SlotDispatch.Registry
