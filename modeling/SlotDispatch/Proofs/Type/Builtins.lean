import Mathlib.Data.List.Induction
import SlotDispatch.Proofs.Type.Mutation
/-!
The builtin types. The main statements say that the first registry is well-formed, that the builtin
types keep their operations and their empty namespaces after every mutation, and that all other
types have no operations.
-/

namespace SlotDispatch

/-- A builtin type describes a definition that has its name, its flag, its operations, and its base,
and that can never bind a name. -/
structure BuiltinType.Describes (builtinType : BuiltinType) (definition : TypeDefinition) : Prop where
  name : definition.name = builtinType.name
  isImmutable : definition.isImmutable = true
  isBase : definition.isBase = builtinType.isBase
  isHeap : definition.isHeap = false
  operations : definition.operations = builtinType.operations
  attributes : definition.attributes = .empty
  bases : definition.bases = builtinType.base?.toList

/-- A created type may be changed and inherited from, and it has no operations. -/
structure TypeDefinition.Created (definition : TypeDefinition) : Prop where
  isMutable : definition.isImmutable = false
  isBase : definition.isBase = true
  isHeap : definition.isHeap = true
  operations : definition.operations = []

namespace Registry

variable {registry next : Registry}

/-! ### The first registry -/

/-- The linearization over one base is the type itself and then the linearization of the base. -/
theorem linearize_single (id base : TypeId) {rest : List TypeId} (nodup : (base :: rest).Nodup) :
    Linearization.linearize id [(base, base :: rest)] = .ok (id :: base :: rest) := by
  have respects : Linearization.Respects (base :: rest) [(base, base :: rest)] :=
    ⟨nodup, by simp, by simp⟩
  obtain ⟨result, linearized⟩ := Linearization.linearize_complete id respects
  obtain ⟨order, rfl, kept, members⟩ := Linearization.linearize_ok linearized
  have isSublist : (base :: rest).Sublist order :=
    kept.linearizations (base, base :: rest) (List.mem_singleton_self _)
  have inside : order ⊆ base :: rest := by
    intro ancestor isAncestor
    obtain ⟨pair, isPair, isListed⟩ := (members ancestor).1 isAncestor
    obtain rfl := List.mem_singleton.1 isPair
    exact isListed.elim (fun isBase => isBase ▸ List.mem_cons_self ..) (·)
  have same := isSublist.eq_of_length_le (List.subperm_of_subset kept.nodup inside).length_le
  rw [linearized, same]

theorem linearize_nil (id : TypeId) : Linearization.linearize id [] = .ok [id] := by
  exact Linearization.linearize_eq_ok_iff.2
    ⟨[], Linearization.merge_of_heads_eq_nil rfl, rfl⟩

/-- A builtin type that extends an open type, or no type, keeps the registry well-formed. -/
theorem WellFormed.appendBuiltin (wellFormed : registry.WellFormed) {builtinType : BuiltinType}
    (isOpen : ∀ base, builtinType.base? = some base → registry.IsOpen base) :
    (registry.appendBuiltin builtinType).WellFormed := by
  refine wellFormed.append ?_ rfl ?_
  · intro base isBase
    exact isOpen base (by simpa using isBase)
  · cases isBase : builtinType.base? with
    | none => exact linearize_nil _
    | some base =>
        obtain ⟨definition, found, _⟩ := isOpen base isBase
        obtain ⟨order, isCons, _⟩ := wellFormed.linearization_eq_cons found
        have nodup := wellFormed.linearization_nodup found
        rw [isCons] at nodup
        simp only [Option.toList, Option.elim, withLinearizations, List.map_cons, List.map_nil,
          linearizationOf_of_definition? found, isCons]
        exact linearize_single _ base nodup

/-- Every listed type extends no type, or an open type that is listed before it. -/
def BasesComeFirst (types : List BuiltinType) : Prop :=
  ∀ (place : Nat) (builtinType : BuiltinType), types[place]? = some builtinType →
    ∀ base, builtinType.base? = some base →
      ∃ baseType, types[base]? = some baseType ∧ baseType.isBase = true ∧ base < place

/-- Listed types make a well-formed registry, and each of them describes the type in its place. -/
theorem foldl_appendBuiltin (limit : Nat) (types : List BuiltinType)
    (basesComeFirst : BasesComeFirst types) :
    let registry := types.foldl appendBuiltin ⟨[], .empty, limit⟩
    registry.WellFormed ∧ registry.definitions.length = types.length ∧
      ∀ id definition, registry.definition? id = some definition →
        ∃ builtinType, types[id]? = some builtinType ∧ builtinType.Describes definition := by
  induction types using List.reverseRecOn with
  | nil =>
      have absent : ∀ id, (⟨[], .empty, limit⟩ : Registry).definition? id = none := fun _ => rfl
      refine ⟨⟨?_, ?_, ?_⟩, rfl, ?_⟩ <;> intro id definition found <;>
        exact absurd (found.symm.trans (absent id)) (by simp)
  | append_singleton types last inductionHypothesis =>
      have earlier : BasesComeFirst types := by
        intro place builtinType isListed base isBase
        have inside : place < types.length := (List.getElem?_eq_some_iff.1 isListed).1
        obtain ⟨baseType, baseListed, isOpen, isBefore⟩ := basesComeFirst place builtinType
          (by rwa [List.getElem?_append_left inside]) base isBase
        rw [List.getElem?_append_left (Nat.lt_trans isBefore inside)] at baseListed
        exact ⟨baseType, baseListed, isOpen, isBefore⟩
      obtain ⟨wellFormed, length, described⟩ := inductionHypothesis earlier
      rw [List.foldl_append]
      refine ⟨wellFormed.appendBuiltin ?_, ?_, ?_⟩
      · intro base isBase
        obtain ⟨baseType, baseListed, isOpen, isBefore⟩ :=
          basesComeFirst types.length last (by simp) base isBase
        rw [List.getElem?_append_left isBefore] at baseListed
        obtain ⟨definition, found⟩ := definition?_isSome_iff.2 (length ▸ isBefore)
        obtain ⟨builtinType, isListed, describes⟩ := described base definition found
        obtain rfl := Option.some.inj (baseListed.symm.trans isListed)
        exact ⟨definition, found, describes.isBase.trans isOpen⟩
      · rw [List.foldl_cons, List.foldl_nil, appendBuiltin, length_append, length,
          List.length_append, List.length_singleton]
      · intro id definition found
        rw [List.foldl_cons, List.foldl_nil, appendBuiltin, definition?_append, length] at found
        split at found
        · rename_i isLast
          obtain rfl := Option.some.inj found
          exact ⟨last, by simp [isLast], rfl, rfl, rfl, rfl, rfl, rfl, rfl⟩
        · obtain ⟨old, oldFound, rfl⟩ := Option.map_eq_some_iff.1 found
          have inside := lt_length_of_definition? oldFound
          obtain ⟨builtinType, isListed, describes⟩ := described id old oldFound
          refine ⟨builtinType, ?_, describes.1, describes.2, describes.3, describes.4, describes.5,
            describes.6, describes.7⟩
          rwa [List.getElem?_append_left (length ▸ inside)]

theorem basesComeFirst_builtinTypes : BasesComeFirst builtinTypes := by
  have checked : ∀ place < builtinTypes.length, ∀ builtinType ∈ builtinTypes[place]?,
      ∀ base ∈ builtinType.base?,
        base < place ∧ (builtinTypes[base]?).any BuiltinType.isBase = true := by
    decide
  intro place builtinType isListed base isBase
  obtain ⟨isBefore, isOpen⟩ := checked place (List.getElem?_eq_some_iff.1 isListed).1
    builtinType isListed base isBase
  obtain ⟨baseType, baseListed, isOpen⟩ := (Option.any_eq_true _ _).1 isOpen
  exact ⟨baseType, baseListed, isOpen, isBefore⟩

theorem wellFormed_initial (limit : Nat) : (initial limit).WellFormed :=
  (foldl_appendBuiltin limit builtinTypes basesComeFirst_builtinTypes).1

/-! ### Kept operations -/

/-- A registry keeps the builtin types when they stand in their places, and all types behind them
are created. -/
structure KeepsBuiltins (registry : Registry) : Prop where
  length : builtinTypes.length ≤ registry.definitions.length
  builtin : ∀ {id definition builtinType}, registry.definition? id = some definition →
    builtinTypes[id]? = some builtinType → builtinType.Describes definition
  created : ∀ {id definition}, registry.definition? id = some definition →
    builtinTypes[id]? = none → definition.Created

/-- The entries that a registry keeps are of no account for the builtin types. -/
theorem KeepsBuiltins.of_definitions {before after : Registry} (keepsBuiltins : before.KeepsBuiltins)
    (same : after.definitions = before.definitions) : after.KeepsBuiltins := by
  obtain ⟨definitions, entries, limit⟩ := after
  subst same
  exact ⟨keepsBuiltins.length, keepsBuiltins.builtin, keepsBuiltins.created⟩

theorem keepsBuiltins_initial (limit : Nat) : (initial limit).KeepsBuiltins := by
  obtain ⟨_, length, described⟩ :=
    foldl_appendBuiltin limit builtinTypes basesComeFirst_builtinTypes
  refine ⟨Nat.le_of_eq length.symm, ?_, ?_⟩
  · intro id definition builtinType found isListed
    obtain ⟨_, sameListed, describes⟩ := described id definition found
    obtain rfl := Option.some.inj (isListed.symm.trans sameListed)
    exact describes
  · intro id definition found isUnlisted
    obtain ⟨_, isListed, _⟩ := described id definition found
    rw [isListed] at isUnlisted
    cases isUnlisted

namespace KeepsBuiltins

variable (keepsBuiltins : registry.KeepsBuiltins) {id : TypeId} {definition : TypeDefinition}
  (found : registry.definition? id = some definition)

include keepsBuiltins found

/-- The operations of a type are known from its place. -/
theorem operations :
    definition.operations = (builtinTypes[id]?).elim [] BuiltinType.operations := by
  cases isListed : builtinTypes[id]? with
  | none => exact (keepsBuiltins.created found isListed).operations
  | some builtinType => exact (keepsBuiltins.builtin found isListed).operations

/-- A heap type is no builtin type. -/
theorem isUnlisted_of_isHeap (isHeap : definition.isHeap = true) : builtinTypes[id]? = none := by
  cases isListed : builtinTypes[id]? with
  | none => rfl
  | some builtinType =>
      rw [(keepsBuiltins.builtin found isListed).isHeap] at isHeap
      cases isHeap

/-- A heap type may be changed. -/
theorem isMutable_of_isHeap (isHeap : definition.isHeap = true) : definition.isImmutable = false :=
  (keepsBuiltins.created found (keepsBuiltins.isUnlisted_of_isHeap found isHeap)).isMutable

/-- A type with a builtin operation binds no name. -/
theorem attributes_of_builtin? {kind : SlotKind} {operation : Builtin}
    (hasOperation : definition.builtin? kind = some operation) : definition.attributes = .empty := by
  cases isListed : builtinTypes[id]? with
  | some builtinType => exact (keepsBuiltins.builtin found isListed).attributes
  | none =>
      rw [TypeDefinition.builtin?, (keepsBuiltins.created found isListed).operations] at hasOperation
      cases hasOperation

/-- A builtin type has builtin types as ancestors only. -/
theorem ancestor_isListed (wellFormed : registry.WellFormed) {builtinType : BuiltinType}
    (isListed : builtinTypes[id]? = some builtinType) {ancestor : TypeId}
    (isAncestor : ancestor ∈ definition.linearization) :
    ∃ ancestorType, builtinTypes[ancestor]? = some ancestorType := by
  induction id, definition, found using wellFormed.induction generalizing builtinType with
  | step id definition found inductionHypothesis =>
      rcases wellFormed.ancestor_cases found isAncestor with
        rfl | ⟨base, isBase, baseDefinition, baseFound, isBaseAncestor⟩
      · exact ⟨builtinType, isListed⟩
      · have isBaseType : builtinType.base? = some base := by
          rw [(keepsBuiltins.builtin found isListed).bases] at isBase
          simpa using isBase
        obtain ⟨baseType, baseListed, _⟩ :=
          basesComeFirst_builtinTypes id builtinType isListed base isBaseType
        exact inductionHypothesis base isBase baseDefinition baseFound baseListed isBaseAncestor

/-- Behind a type with a builtin operation no name is bound. -/
theorem attributes_of_ancestor (wellFormed : registry.WellFormed) {kind : SlotKind}
    {operation : Builtin} (hasOperation : definition.builtin? kind = some operation)
    {ancestor : TypeId} (isAncestor : ancestor ∈ definition.linearization)
    {ancestorDefinition : TypeDefinition}
    (ancestorFound : registry.definition? ancestor = some ancestorDefinition) :
    ancestorDefinition.attributes = .empty := by
  cases isListed : builtinTypes[id]? with
  | some builtinType =>
      obtain ⟨ancestorType, ancestorListed⟩ :=
        keepsBuiltins.ancestor_isListed found wellFormed isListed isAncestor
      exact (keepsBuiltins.builtin ancestorFound ancestorListed).attributes
  | none =>
      rw [TypeDefinition.builtin?, (keepsBuiltins.created found isListed).operations] at hasOperation
      cases hasOperation

/-- A slot without special methods is filled only in types that no other type inherits from. -/
theorem isBase_of_dunders_eq_nil {kind : SlotKind} {operation : Builtin}
    (noDunders : kind.dunders = []) (hasOperation : definition.builtin? kind = some operation) : definition.isBase = false := by
  have checked : ∀ builtinType ∈ builtinTypes, ∀ kind ∈ SlotKind.all, kind.dunders = [] →
      (builtinType.operations.find? fun operation => operation.kind = kind).isSome = true →
      builtinType.isBase = false := by
    decide +kernel
  cases isListed : builtinTypes[id]? with
  | some builtinType =>
      have describes := keepsBuiltins.builtin found isListed
      rw [describes.isBase]
      refine checked builtinType (List.mem_of_getElem? isListed) kind kind.mem_all noDunders ?_
      rw [← describes.operations]
      exact Option.isSome_iff_exists.2 ⟨operation, hasOperation⟩
  | none =>
      rw [TypeDefinition.builtin?, (keepsBuiltins.created found isListed).operations] at hasOperation
      cases hasOperation

end KeepsBuiltins

/-- A change keeps the builtin types when it keeps the name, the flags, and the operations of every
type, and the namespaces and the bases of those that are immutable. -/
theorem KeepsBuiltins.of_map (keepsBuiltins : registry.KeepsBuiltins)
    (change : TypeId → TypeDefinition → TypeDefinition)
    (isMap : ∀ id, next.definition? id = (registry.definition? id).map (change id))
    (name : ∀ id definition, (change id definition).name = definition.name)
    (isImmutable : ∀ id definition, (change id definition).isImmutable = definition.isImmutable)
    (isBase : ∀ id definition, (change id definition).isBase = definition.isBase)
    (isHeap : ∀ id definition, (change id definition).isHeap = definition.isHeap)
    (operations : ∀ id definition, (change id definition).operations = definition.operations)
    (attributes : ∀ id definition, registry.definition? id = some definition →
      definition.isImmutable = true → (change id definition).attributes = definition.attributes)
    (bases : ∀ id definition, registry.definition? id = some definition →
      definition.isImmutable = true → (change id definition).bases = definition.bases) :
    next.KeepsBuiltins := by
  refine ⟨?_, ?_, ?_⟩
  · have isLast : builtinTypes.length - 1 < registry.definitions.length :=
      Nat.lt_of_lt_of_le (by decide) keepsBuiltins.length
    obtain ⟨definition, found⟩ := definition?_isSome_iff.2 isLast
    have stillFound := isMap (builtinTypes.length - 1)
    rw [found] at stillFound
    exact Nat.le_of_pred_lt (lt_length_of_definition? stillFound)
  · intro id definition builtinType found isListed
    rw [isMap] at found
    obtain ⟨old, oldFound, rfl⟩ := Option.map_eq_some_iff.1 found
    have describes := keepsBuiltins.builtin oldFound isListed
    exact ⟨(name id old).trans describes.name, (isImmutable id old).trans describes.isImmutable,
      (isBase id old).trans describes.isBase, (isHeap id old).trans describes.isHeap,
      (operations id old).trans describes.operations,
      (attributes id old oldFound describes.isImmutable).trans describes.attributes,
      (bases id old oldFound describes.isImmutable).trans describes.bases⟩
  · intro id definition found isUnlisted
    rw [isMap] at found
    obtain ⟨old, oldFound, rfl⟩ := Option.map_eq_some_iff.1 found
    have created := keepsBuiltins.created oldFound isUnlisted
    exact ⟨(isImmutable id old).trans created.isMutable, (isBase id old).trans created.isBase,
      (isHeap id old).trans created.isHeap, (operations id old).trans created.operations⟩

theorem KeepsBuiltins.append (keepsBuiltins : registry.KeepsBuiltins) {new : TypeDefinition}
    (created : new.Created) : (registry.append new).KeepsBuiltins := by
  refine ⟨?_, ?_, ?_⟩
  · rw [length_append]
    exact Nat.le_succ_of_le keepsBuiltins.length
  · intro id definition builtinType found isListed
    have inside := (List.getElem?_eq_some_iff.1 isListed).1
    rw [definition?_append, if_neg (Nat.ne_of_lt (Nat.lt_of_lt_of_le inside keepsBuiltins.length))]
      at found
    obtain ⟨old, oldFound, rfl⟩ := Option.map_eq_some_iff.1 found
    have describes := keepsBuiltins.builtin oldFound isListed
    exact ⟨describes.1, describes.2, describes.3, describes.4, describes.5, describes.6, describes.7⟩
  · intro id definition found isUnlisted
    rw [definition?_append] at found
    split at found
    · obtain rfl := Option.some.inj found
      exact ⟨created.1, created.2, created.3, created.4⟩
    · obtain ⟨old, oldFound, rfl⟩ := Option.map_eq_some_iff.1 found
      have oldCreated := keepsBuiltins.created oldFound isUnlisted
      exact ⟨oldCreated.1, oldCreated.2, oldCreated.3, oldCreated.4⟩

theorem ne_of_isImmutable {id other : TypeId} {definition old : TypeDefinition}
    (found : registry.definition? id = some definition) (isMutable : definition.isImmutable = false)
    (oldFound : registry.definition? other = some old) (isImmutable : old.isImmutable = true) :
    other ≠ id := by
  rintro rfl
  obtain rfl := Option.some.inj (found.symm.trans oldFound)
  rw [isMutable] at isImmutable
  cases isImmutable

/-- A mutation keeps the builtin types. -/
theorem Mutation.keepsBuiltins (mutation : Mutation registry next) (wellFormed : registry.WellFormed)
    (keepsBuiltins : registry.KeepsBuiltins) : next.KeepsBuiltins := by
  have changed : ∀ {id definition name change}, registry.definition? id = some definition →
      definition.isImmutable = false → (registry.changeAttributes id name change).KeepsBuiltins := by
    intro id definition name change found isMutable
    refine keepsBuiltins.of_map _ (definition?_changeAttributes wellFormed found _ _)
      (fun _ _ => rfl) (fun _ _ => rfl) (fun _ _ => rfl) (fun _ _ => rfl) (fun _ _ => rfl) ?_
      fun _ _ _ _ => rfl
    exact fun other old oldFound isImmutable =>
      if_neg (ne_of_isImmutable found isMutable oldFound isImmutable).symm
  cases mutation with
  | created id name bases attributes isOk =>
      obtain ⟨new, rfl, rfl, ⟨isMutable, isBase, isHeap, operations⟩, _⟩ := createType_ok isOk
      exact keepsBuiltins.append ⟨isMutable, isBase, isHeap, operations⟩
  | assigned id name value isOk =>
      obtain ⟨definition, found, isMutable, rfl⟩ := setAttribute_ok isOk
      exact changed found isMutable
  | deleted id name isOk =>
      obtain ⟨definition, found, isMutable, rfl⟩ := deleteAttribute_ok isOk
      exact changed found isMutable
  | rebased id bases isOk =>
      obtain ⟨definition, staged, rebased⟩ := setBases_ok wellFormed isOk
      refine keepsBuiltins.of_map _ rebased.definitions
        (fun _ _ => rfl) (fun _ _ => rfl) (fun _ _ => rfl) (fun _ _ => rfl) (fun _ _ => rfl)
        (fun _ _ _ _ => rfl) ?_
      exact fun other old oldFound isImmutable =>
        if_neg (ne_of_isImmutable rebased.found rebased.isMutable oldFound isImmutable)
  | invalidated id isOk =>
      obtain ⟨definition, found, rfl⟩ := invalidate_ok isOk
      exact keepsBuiltins.of_map (fun _ definition =>
          { definition with
            generation := definition.generation + if id ∈ definition.linearization then 1 else 0 })
        (definition?_raiseFamily wellFormed found)
        (fun _ _ => rfl) (fun _ _ => rfl) (fun _ _ => rfl) (fun _ _ => rfl) (fun _ _ => rfl)
        (fun _ _ _ _ => rfl) (fun _ _ _ _ => rfl)

end Registry

end SlotDispatch
