import Mathlib.Data.List.Perm.Subperm
import SlotDispatch.Proofs.Linearization
import SlotDispatch.Proofs.Type.Update
/-!
Well-formed hierarchies. A registry is well-formed when every type is linearized over its bases and
the subclass lists agree with the bases. The main statements say that the linearization of a type
lists its ancestors once each, and that ancestors have shorter linearizations.
-/

namespace SlotDispatch.Registry

/-- Each base is listed with its linearization. -/
def withLinearizations (registry : Registry) (bases : List TypeId) : List (TypeId × List TypeId) :=
  bases.map fun base => (base, registry.linearizationOf base)

/-- An open type is registered and may be inherited from. -/
def IsOpen (registry : Registry) (id : TypeId) : Prop :=
  ∃ definition, registry.definition? id = some definition ∧ definition.isBase = true

/-- A registered type has another type as a base. -/
def HasBase (registry : Registry) (id base : TypeId) : Prop :=
  ∃ definition, registry.definition? id = some definition ∧ base ∈ definition.bases

/-- A registry is well-formed when every type is linearized over its bases, every base is a type
that is open for inheritance, and the subclasses of a type are the types that have it as a base. -/
structure WellFormed (registry : Registry) : Prop where
  linearized : ∀ {id definition}, registry.definition? id = some definition →
    Linearization.linearize id (registry.withLinearizations definition.bases) =
      .ok definition.linearization
  basesOpen : ∀ {id definition}, registry.definition? id = some definition →
    ∀ base ∈ definition.bases, registry.IsOpen base
  subclassesExact : ∀ {id definition}, registry.definition? id = some definition →
    ∀ subclass, subclass ∈ definition.subclasses ↔ registry.HasBase subclass id

namespace WellFormed

variable {registry : Registry} (wellFormed : registry.WellFormed)

include wellFormed

/-! ### The linearization of one type -/

/-- A linearization is the type itself and then an order that respects the bases. -/
theorem linearization_eq_cons {id : TypeId} {definition : TypeDefinition}
    (found : registry.definition? id = some definition) :
    ∃ order, definition.linearization = id :: order ∧
      Linearization.Respects order (registry.withLinearizations definition.bases) ∧
      ∀ ancestor, ancestor ∈ order ↔
        ∃ base ∈ definition.bases, ancestor ∈ registry.linearizationOf base := by
  obtain ⟨order, isCons, respects, members⟩ :=
    Linearization.linearize_ok (wellFormed.linearized found)
  refine ⟨order, isCons, respects, fun ancestor => ?_⟩
  rw [members]
  constructor
  · rintro ⟨_, isPair, isAncestor⟩
    obtain ⟨base, isBase, rfl⟩ := List.mem_map.1 isPair
    rcases isAncestor with isItself | isAncestor
    · obtain ⟨baseDefinition, baseFound, _⟩ := wellFormed.basesOpen found base isBase
      obtain ⟨_, baseIsCons, _, _⟩ :=
        Linearization.linearize_ok (wellFormed.linearized baseFound)
      exact ⟨base, isBase, by simp [baseFound, baseIsCons, isItself]⟩
    · exact ⟨base, isBase, isAncestor⟩
  · rintro ⟨base, isBase, isAncestor⟩
    exact ⟨_, List.mem_map_of_mem isBase, .inr isAncestor⟩

theorem self_mem_linearization {id : TypeId} {definition : TypeDefinition}
    (found : registry.definition? id = some definition) : id ∈ definition.linearization := by
  obtain ⟨order, isCons, _⟩ := wellFormed.linearization_eq_cons found
  simp [isCons]

/-- The ancestors of a type are the type itself and the ancestors of its bases. -/
theorem mem_linearization_iff {id : TypeId} {definition : TypeDefinition}
    (found : registry.definition? id = some definition) (ancestor : TypeId) :
    ancestor ∈ definition.linearization ↔
      ancestor = id ∨ ∃ base ∈ definition.bases, ancestor ∈ registry.linearizationOf base := by
  obtain ⟨order, isCons, _, members⟩ := wellFormed.linearization_eq_cons found
  rw [isCons, List.mem_cons, members]

/-- The linearization of a base is shorter than that of the type. -/
theorem length_base_lt {id base : TypeId} {definition : TypeDefinition}
    (found : registry.definition? id = some definition) (isBase : base ∈ definition.bases) :
    (registry.linearizationOf base).length < definition.linearization.length := by
  obtain ⟨order, isCons, respects, _⟩ := wellFormed.linearization_eq_cons found
  have kept := respects.linearizations _ (List.mem_map_of_mem isBase)
  rw [isCons, List.length_cons]
  exact Nat.lt_succ_of_le kept.length_le

/-- What holds of a type as soon as it holds of its bases holds of every type. -/
theorem induction
    {motive : ∀ id definition, registry.definition? id = some definition → Prop}
    (step : ∀ id definition found,
      (∀ base ∈ definition.bases, ∀ baseDefinition baseFound, motive base baseDefinition baseFound) →
      motive id definition found)
    (id : TypeId) (definition : TypeDefinition)
    (found : registry.definition? id = some definition) : motive id definition found := by
  induction measured : definition.linearization.length using Nat.strongRecOn
    generalizing id definition with
  | ind length inductionHypothesis =>
      refine step id definition found fun base isBase baseDefinition baseFound => ?_
      have shorter := wellFormed.length_base_lt found isBase
      rw [linearizationOf_of_definition? baseFound, measured] at shorter
      exact inductionHypothesis _ shorter _ _ baseFound rfl

/-! ### Ancestors -/

/-- An ancestor of a type is itself, or an ancestor of a base of the type. -/
theorem ancestor_cases {id ancestor : TypeId} {definition : TypeDefinition}
    (found : registry.definition? id = some definition)
    (isAncestor : ancestor ∈ definition.linearization) :
    ancestor = id ∨ ∃ base ∈ definition.bases, ∃ baseDefinition,
      registry.definition? base = some baseDefinition ∧ ancestor ∈ baseDefinition.linearization := by
  rcases (wellFormed.mem_linearization_iff found ancestor).1 isAncestor with
    isSelf | ⟨base, isBase, isBaseAncestor⟩
  · exact .inl isSelf
  · obtain ⟨baseDefinition, baseFound, listed⟩ := definition?_of_mem_linearizationOf isBaseAncestor
    exact .inr ⟨base, isBase, baseDefinition, baseFound, listed⟩

/-- All ancestors are registered. -/
theorem ancestor_registered {id ancestor : TypeId} {definition : TypeDefinition}
    (found : registry.definition? id = some definition)
    (isAncestor : ancestor ∈ definition.linearization) :
    ∃ ancestorDefinition, registry.definition? ancestor = some ancestorDefinition := by
  induction id, definition, found using wellFormed.induction with
  | step id definition found inductionHypothesis =>
      rcases wellFormed.ancestor_cases found isAncestor with
        rfl | ⟨base, isBase, baseDefinition, baseFound, isBaseAncestor⟩
      · exact ⟨definition, found⟩
      · exact inductionHypothesis base isBase baseDefinition baseFound isBaseAncestor

/-- The ancestors of an ancestor are ancestors in the same order. -/
theorem linearization_sublist {id ancestor : TypeId} {definition ancestorDefinition : TypeDefinition}
    (found : registry.definition? id = some definition)
    (ancestorFound : registry.definition? ancestor = some ancestorDefinition)
    (isAncestor : ancestor ∈ definition.linearization) :
    ancestorDefinition.linearization.Sublist definition.linearization := by
  induction id, definition, found using wellFormed.induction with
  | step id definition found inductionHypothesis =>
      rcases wellFormed.ancestor_cases found isAncestor with
        rfl | ⟨base, isBase, baseDefinition, baseFound, isBaseAncestor⟩
      · obtain rfl : definition = ancestorDefinition := Option.some.inj (found.symm.trans ancestorFound)
        exact List.Sublist.refl _
      · have inBase := inductionHypothesis base isBase baseDefinition baseFound isBaseAncestor
        obtain ⟨order, isCons, respects, _⟩ := wellFormed.linearization_eq_cons found
        have baseInOrder := respects.linearizations _ (List.mem_map_of_mem isBase)
        rw [linearizationOf_of_definition? baseFound] at baseInOrder
        rw [isCons]
        exact inBase.trans (baseInOrder.trans (List.sublist_cons_self id order))

/-- The ancestors of an ancestor are ancestors. -/
theorem linearization_subset {id ancestor : TypeId} {definition ancestorDefinition : TypeDefinition}
    (found : registry.definition? id = some definition)
    (ancestorFound : registry.definition? ancestor = some ancestorDefinition)
    (isAncestor : ancestor ∈ definition.linearization) :
    ancestorDefinition.linearization ⊆ definition.linearization :=
  (wellFormed.linearization_sublist found ancestorFound isAncestor).subset

/-- An ancestor other than the type itself has a shorter linearization. -/
theorem length_ancestor_lt {id ancestor : TypeId} {definition ancestorDefinition : TypeDefinition}
    (found : registry.definition? id = some definition)
    (ancestorFound : registry.definition? ancestor = some ancestorDefinition)
    (isAncestor : ancestor ∈ definition.linearization) (isOther : ancestor ≠ id) :
    ancestorDefinition.linearization.length < definition.linearization.length := by
  induction id, definition, found using wellFormed.induction with
  | step id definition found inductionHypothesis =>
      rcases wellFormed.ancestor_cases found isAncestor with
        isSelf | ⟨base, isBase, baseDefinition, baseFound, isBaseAncestor⟩
      · exact absurd isSelf isOther
      · have baseShorter := wellFormed.length_base_lt found isBase
        rw [linearizationOf_of_definition? baseFound] at baseShorter
        by_cases isBaseItself : ancestor = base
        · subst isBaseItself
          obtain rfl : ancestorDefinition = baseDefinition :=
            Option.some.inj (ancestorFound.symm.trans baseFound)
          exact baseShorter
        · have shorter :=
            inductionHypothesis base isBase baseDefinition baseFound isBaseAncestor isBaseItself
          exact Nat.lt_trans shorter baseShorter

/-- Two types are not ancestors of each other. -/
theorem ancestor_antisymm {first second : TypeId} {firstDefinition secondDefinition : TypeDefinition}
    (firstFound : registry.definition? first = some firstDefinition)
    (secondFound : registry.definition? second = some secondDefinition)
    (isAncestor : second ∈ firstDefinition.linearization)
    (isDescendant : first ∈ secondDefinition.linearization) : first = second := by
  by_contra different
  have shorter := wellFormed.length_ancestor_lt firstFound secondFound isAncestor (Ne.symm different)
  have longer := wellFormed.length_ancestor_lt secondFound firstFound isDescendant different
  exact absurd (Nat.lt_trans shorter longer) (Nat.lt_irrefl _)

/-- A type is an ancestor of none of its bases. -/
theorem notMem_base {id base : TypeId} {definition : TypeDefinition}
    (found : registry.definition? id = some definition) (isBase : base ∈ definition.bases) :
    id ∉ registry.linearizationOf base := by
  intro isAncestor
  obtain ⟨baseDefinition, baseFound, listed⟩ := definition?_of_mem_linearizationOf isAncestor
  have shorter := wellFormed.length_base_lt found isBase
  rw [linearizationOf_of_definition? baseFound] at shorter
  by_cases isSame : id = base
  · subst isSame
    obtain rfl : definition = baseDefinition := Option.some.inj (found.symm.trans baseFound)
    exact absurd shorter (Nat.lt_irrefl _)
  · have longer := wellFormed.length_ancestor_lt baseFound found listed isSame
    exact absurd (Nat.lt_trans shorter longer) (Nat.lt_irrefl _)

/-- A linearization lists every ancestor once. -/
theorem linearization_nodup {id : TypeId} {definition : TypeDefinition}
    (found : registry.definition? id = some definition) : definition.linearization.Nodup := by
  obtain ⟨order, isCons, respects, members⟩ := wellFormed.linearization_eq_cons found
  rw [isCons]
  refine List.nodup_cons.2 ⟨fun isLater => ?_, respects.nodup⟩
  obtain ⟨base, isBase, isAncestor⟩ := (members id).1 isLater
  exact wellFormed.notMem_base found isBase isAncestor

/-- A linearization is not longer than the list of all types. -/
theorem length_linearization_le {id : TypeId} {definition : TypeDefinition}
    (found : registry.definition? id = some definition) :
    definition.linearization.length ≤ registry.definitions.length := by
  have inside : definition.linearization ⊆ List.range registry.definitions.length := by
    intro ancestor isAncestor
    obtain ⟨ancestorDefinition, ancestorFound⟩ := wellFormed.ancestor_registered found isAncestor
    exact List.mem_range.2 (lt_length_of_definition? ancestorFound)
  have shorter := (List.subperm_of_subset (wellFormed.linearization_nodup found) inside).length_le
  rwa [List.length_range] at shorter

/-- Behind itself, a type has only ancestors with shorter linearizations. -/
theorem tail_spec {id ancestor : TypeId} {definition : TypeDefinition}
    (found : registry.definition? id = some definition)
    (isBehind : ancestor ∈ definition.linearization.tail) :
    ancestor ∈ definition.linearization ∧ ancestor ≠ id := by
  obtain ⟨order, isCons, _⟩ := wellFormed.linearization_eq_cons found
  have nodup := wellFormed.linearization_nodup found
  rw [isCons] at nodup isBehind ⊢
  refine ⟨List.mem_cons_of_mem id isBehind, fun isSelf => ?_⟩
  exact (List.nodup_cons.1 nodup).1 (isSelf ▸ isBehind)

/-- The ancestors of a type behind another one stand behind that one too, in the same order. -/
theorem linearization_sublist_tail {id ancestor : TypeId}
    {definition ancestorDefinition : TypeDefinition}
    (found : registry.definition? id = some definition)
    (ancestorFound : registry.definition? ancestor = some ancestorDefinition)
    (isBehind : ancestor ∈ definition.linearization.tail) :
    ancestorDefinition.linearization.Sublist definition.linearization.tail := by
  obtain ⟨isAncestor, isOther⟩ := wellFormed.tail_spec found isBehind
  have isSublist := wellFormed.linearization_sublist found ancestorFound isAncestor
  obtain ⟨order, isCons, _⟩ := wellFormed.linearization_eq_cons found
  rw [isCons] at isSublist
  rw [isCons, List.tail_cons]
  refine (List.sublist_cons_iff.1 isSublist).resolve_right ?_
  rintro ⟨rest, isHead, _⟩
  have isDescendant : id ∈ ancestorDefinition.linearization := isHead ▸ List.mem_cons_self ..
  exact isOther (wellFormed.ancestor_antisymm found ancestorFound isAncestor isDescendant).symm

/-- The ancestors of a type behind another one stand behind that one too. -/
theorem linearization_subset_tail {id ancestor : TypeId} {definition ancestorDefinition : TypeDefinition}
    (found : registry.definition? id = some definition)
    (ancestorFound : registry.definition? ancestor = some ancestorDefinition)
    (isBehind : ancestor ∈ definition.linearization.tail) :
    ancestorDefinition.linearization ⊆ definition.linearization.tail :=
  (wellFormed.linearization_sublist_tail found ancestorFound isBehind).subset

/-- Every ancestor other than the type itself is open for inheritance. -/
theorem ancestor_isBase {id ancestor : TypeId} {definition ancestorDefinition : TypeDefinition}
    (found : registry.definition? id = some definition)
    (ancestorFound : registry.definition? ancestor = some ancestorDefinition)
    (isAncestor : ancestor ∈ definition.linearization) (isOther : ancestor ≠ id) :
    ancestorDefinition.isBase = true := by
  induction id, definition, found using wellFormed.induction with
  | step id definition found inductionHypothesis =>
      rcases wellFormed.ancestor_cases found isAncestor with
        isSelf | ⟨base, isBase, baseDefinition, baseFound, isBaseAncestor⟩
      · exact absurd isSelf isOther
      · by_cases isBaseItself : ancestor = base
        · subst isBaseItself
          obtain ⟨openDefinition, openFound, isOpen⟩ := wellFormed.basesOpen found ancestor isBase
          obtain rfl : ancestorDefinition = openDefinition :=
            Option.some.inj (ancestorFound.symm.trans openFound)
          exact isOpen
        · exact inductionHypothesis base isBase baseDefinition baseFound isBaseAncestor isBaseItself

end WellFormed

/-! ### Registries of one hierarchy -/

/-- Two registries have one hierarchy when their types have the same bases, linearizations, and
subclasses, and the same types are open for inheritance. -/
def SameHierarchy (before after : Registry) : Prop :=
  ∀ id, (after.definition? id).map (fun definition =>
      (definition.bases, definition.linearization, definition.subclasses, definition.isBase)) =
    (before.definition? id).map fun definition =>
      (definition.bases, definition.linearization, definition.subclasses, definition.isBase)

theorem SameHierarchy.symm {before after : Registry} (same : SameHierarchy before after) :
    SameHierarchy after before :=
  fun id => (same id).symm

theorem SameHierarchy.definition? {before after : Registry} (same : SameHierarchy before after)
    {id : TypeId} {definition : TypeDefinition} (found : after.definition? id = some definition) :
    ∃ old, before.definition? id = some old ∧ old.bases = definition.bases ∧
      old.linearization = definition.linearization ∧ old.subclasses = definition.subclasses ∧
      old.isBase = definition.isBase := by
  have agree := same id
  rw [found, Option.map_some] at agree
  obtain ⟨old, oldFound, equal⟩ := Option.map_eq_some_iff.1 agree.symm
  simp only [Prod.mk.injEq] at equal
  exact ⟨old, oldFound, equal.1, equal.2.1, equal.2.2.1, equal.2.2.2⟩

theorem SameHierarchy.linearizationOf {before after : Registry} (same : SameHierarchy before after)
    (id : TypeId) : after.linearizationOf id = before.linearizationOf id := by
  cases found : after.definition? id with
  | none =>
      have absent : before.definition? id = none := by
        have agree := same id
        rw [found, Option.map_none] at agree
        exact Option.map_eq_none_iff.1 agree.symm
      simp [Registry.linearizationOf, found, absent]
  | some definition =>
      obtain ⟨old, oldFound, _, equal, _⟩ := same.definition? found
      simp [found, oldFound, equal]

theorem WellFormed.of_sameHierarchy {before after : Registry} (wellFormed : before.WellFormed)
    (same : SameHierarchy before after) : after.WellFormed where
  linearized := by
    intro id definition found
    obtain ⟨old, oldFound, bases, linearization, _⟩ := same.definition? found
    rw [← bases, ← linearization, ← wellFormed.linearized oldFound]
    congr 1
    exact List.map_congr_left fun base _ => by rw [same.linearizationOf base]
  basesOpen := by
    intro id definition found base isBase
    obtain ⟨old, oldFound, bases, _⟩ := same.definition? found
    obtain ⟨baseDefinition, baseFound, isOpen⟩ :=
      wellFormed.basesOpen oldFound base (bases ▸ isBase)
    obtain ⟨new, newFound, _, _, _, sameFlag⟩ := same.symm.definition? baseFound
    exact ⟨new, newFound, sameFlag.trans isOpen⟩
  subclassesExact := by
    intro id definition found subclass
    obtain ⟨old, oldFound, _, _, subclasses, _⟩ := same.definition? found
    rw [← subclasses, wellFormed.subclassesExact oldFound]
    constructor
    · rintro ⟨subclassDefinition, subclassFound, isBase⟩
      obtain ⟨new, newFound, bases, _⟩ := same.symm.definition? subclassFound
      exact ⟨new, newFound, bases ▸ isBase⟩
    · rintro ⟨subclassDefinition, subclassFound, isBase⟩
      obtain ⟨new, newFound, bases, _⟩ := same.definition? subclassFound
      exact ⟨new, newFound, bases ▸ isBase⟩

end SlotDispatch.Registry
