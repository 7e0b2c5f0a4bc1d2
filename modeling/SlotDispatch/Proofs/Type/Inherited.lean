import SlotDispatch.Proofs.Type.Hierarchy
import SlotDispatch.Proofs.Type.Resolution
import SlotDispatch.Proofs.Type.SpecialMethod
/-!
Special methods that no class binds. The main statement says that the slot of a type reaches a builtin
operation of an ancestor for such a special method, when `object` has an operation for the slot.
-/

namespace SlotDispatch.Registry

variable {registry : Registry} {kind : SlotKind} {dunder : String} {root : Builtin}

/-- A slot has a root when `object` has an operation for it. -/
def HasRoot (registry : Registry) (kind : SlotKind) (operation : Builtin) : Prop :=
  ∃ definition, registry.definition? .object = some definition ∧
    definition.builtin? kind = some operation

theorem KeepsBuiltins.hasRoot (keepsBuiltins : registry.KeepsBuiltins) {operation : Builtin}
    (isRoot : ((builtinTypes[TypeId.object]?).elim [] BuiltinType.operations).find?
      (fun operation => operation.kind = kind) = some operation) :
    registry.HasRoot kind operation := by
  have isRegistered : TypeId.object < registry.definitions.length :=
    Nat.lt_of_lt_of_le (by decide) keepsBuiltins.length
  obtain ⟨definition, found⟩ := definition?_isSome_iff.2 isRegistered
  refine ⟨definition, found, ?_⟩
  rw [TypeDefinition.builtin?, keepsBuiltins.operations found]
  exact isRoot

section InShape

variable (wellFormed : registry.WellFormed) (keepsBuiltins : registry.KeepsBuiltins)
  (arranged : registry.Arranged)

include wellFormed keepsBuiltins arranged

/-- `object` stands behind every type that binds a slot for which `object` has an operation. -/
theorem object_mem_tail (hasRoot : registry.HasRoot kind root) {id : TypeId} {definition : TypeDefinition}
    (found : registry.definition? id = some definition) (binds : definition.binds kind = true) :
    TypeId.object ∈ definition.linearization.tail := by
  have isLast := arranged.getLast?_linearization wellFormed found
  obtain ⟨order, isCons, _⟩ := wellFormed.linearization_eq_cons found
  have isMember := List.mem_of_getLast? isLast
  rw [isCons, List.mem_cons] at isMember
  rw [isCons, List.tail_cons]
  refine isMember.resolve_left fun isObject => ?_
  obtain ⟨_, rootFound, hasOperation⟩ := hasRoot
  subst isObject
  obtain rfl := Option.some.inj (found.symm.trans rootFound)
  rw [TypeDefinition.binds, keepsBuiltins.attributes_of_builtin? found hasOperation] at binds
  simp [Table.contains, Table.get?, Table.empty] at binds

/-- A special method that no ancestor of a type binds reaches an operation of an ancestor. -/
theorem ResolvesAlong.reach_of_unbound (hasRoot : registry.HasRoot kind root)
    (isMember : dunder ∈ kind.dunders) {owner : TypeId} {definition : TypeDefinition}
    (found : registry.definition? owner = some definition)
    (unbound : registry.firstBinding? dunder definition.linearization = none) {ids : List TypeId}
    {target : SlotTarget} (resolves : registry.ResolvesAlong kind ids target)
    (inside : ids ⊆ definition.linearization) (hasObject : TypeId.object ∈ ids) :
    ∃ operation, target.reach dunder = .builtin operation ∧
      ∃ ancestor ∈ definition.linearization, ∃ ancestorDefinition,
        registry.definition? ancestor = some ancestorDefinition ∧
          ancestorDefinition.builtin? kind = some operation := by
  induction resolves with
  | undefined isUndefined =>
      obtain ⟨rootDefinition, rootFound, hasOperation⟩ := hasRoot
      have notDefined := List.find?_eq_none.1 isUndefined TypeId.object hasObject
      simp [rootFound, TypeDefinition.defines, hasOperation] at notDefined
  | @builtin _ definer ancestorDefinition operation isDefiner ancestorFound _ hasOperation =>
      exact ⟨operation, rfl, definer, inside (definer?_eq_some isDefiner).1, ancestorDefinition,
        ancestorFound, hasOperation⟩
  | @hidden _ definer definerDefinition inherited isDefiner definerFound binds _ hides
      inductionHypothesis =>
      have ancestors := wellFormed.linearization_subset found definerFound
        (inside (definer?_eq_some isDefiner).1)
      obtain ⟨operation, reaches, _⟩ := inductionHypothesis
        (fun _ isBehind => ancestors (List.mem_of_mem_tail isBehind))
        (object_mem_tail wellFormed keepsBuiltins arranged hasRoot definerFound binds)
      rcases hides with allBlocked | ⟨_, rfl⟩
      · have isBlocked := allBlocked dunder isMember
        rw [firstBinding?_eq_none_of_subset unbound ancestors] at isBlocked
        cases isBlocked
      · cases reaches
  | @override _ definer definerDefinition inherited isDefiner definerFound binds _ _
      inductionHypothesis =>
      have ancestors := wellFormed.linearization_subset found definerFound
        (inside (definer?_eq_some isDefiner).1)
      have isInherited : (Override.mk definer kind definerDefinition.generation 0
          (registry.firstBindings kind definerDefinition.linearization)).binding dunder =
          .inherited :=
        (binding_firstBindings_eq_inherited_iff _ _ _ isMember).2
          (firstBinding?_eq_none_of_subset unbound ancestors)
      rw [SlotTarget.reach, isInherited]
      exact inductionHypothesis (fun _ isBehind => ancestors (List.mem_of_mem_tail isBehind))
        (object_mem_tail wellFormed keepsBuiltins arranged hasRoot definerFound binds)

end InShape

end SlotDispatch.Registry
