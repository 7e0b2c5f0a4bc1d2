import SlotDispatch.Proofs.Type.Coherence
/-!
The slots of the builtin types. The main statement says that every registry with the builtin types in
their places gives a builtin type the same linearization and the same slot table.
-/

namespace SlotDispatch

/-- This is the operation that a builtin type has for a slot. -/
def builtinOperation? (kind : SlotKind) (id : TypeId) : Option Builtin :=
  (builtinTypes[id]?).bind fun builtinType =>
    builtinType.operations.find? fun operation => operation.kind = kind

/-- This is the target of a slot along builtin types, which is the operation of the first of them that
has one. -/
def builtinTarget (kind : SlotKind) (ids : List TypeId) : SlotTarget :=
  (ids.findSome? (builtinOperation? kind)).elim .absent .builtin

namespace Registry

variable {registry other : Registry} {kind : SlotKind} {id : TypeId} {builtinType : BuiltinType}
  {definition otherDefinition : TypeDefinition}

namespace KeepsBuiltins

variable (keepsBuiltins : registry.KeepsBuiltins)

include keepsBuiltins

theorem definition?_of_isListed (isListed : builtinTypes[id]? = some builtinType) :
    ∃ definition, registry.definition? id = some definition :=
  definition?_isSome_iff.2
    (Nat.lt_of_lt_of_le (List.getElem?_eq_some_iff.1 isListed).1 keepsBuiltins.length)

theorem binds_eq_false (found : registry.definition? id = some definition)
    (isListed : builtinTypes[id]? = some builtinType) : definition.binds kind = false := by
  rw [TypeDefinition.binds, (keepsBuiltins.builtin found isListed).attributes]
  exact List.any_eq_false.2 fun _ _ => Bool.false_ne_true

theorem builtin?_eq (found : registry.definition? id = some definition) :
    definition.builtin? kind = builtinOperation? kind id := by
  rw [TypeDefinition.builtin?, keepsBuiltins.operations found, builtinOperation?]
  cases builtinTypes[id]? <;> rfl

/-- Along builtin types, a slot resolves to the first operation. -/
theorem resolvesAlong {ids : List TypeId}
    (areListed : ∀ id ∈ ids, ∃ builtinType, builtinTypes[id]? = some builtinType) :
    registry.ResolvesAlong kind ids (builtinTarget kind ids) := by
  induction ids with
  | nil => exact .undefined rfl
  | cons id rest inductionHypothesis =>
      obtain ⟨builtinType, isListed⟩ := areListed id (List.mem_cons_self ..)
      obtain ⟨definition, found⟩ := keepsBuiltins.definition?_of_isListed isListed
      have bindsNothing : definition.binds kind = false :=
        keepsBuiltins.binds_eq_false found isListed
      have isOperation : definition.builtin? kind = builtinOperation? kind id :=
        keepsBuiltins.builtin?_eq found
      have isDefiner : registry.definer? kind (id :: rest) = _ := definer?_cons id rest found
      rw [TypeDefinition.defines, bindsNothing, Bool.or_false] at isDefiner
      rw [builtinTarget, List.findSome?_cons, ← isOperation]
      cases hasOperation : definition.builtin? kind with
      | some operation =>
          refine .builtin ?_ found bindsNothing hasOperation
          rw [isDefiner, hasOperation, Option.isSome_some, if_pos rfl]
      | none =>
          refine (inductionHypothesis fun later isLater =>
            areListed later (List.mem_cons_of_mem id isLater)).of_definer? ?_
          rw [isDefiner, hasOperation, Option.isSome_none, if_neg Bool.false_ne_true]

end KeepsBuiltins

variable (isListed : builtinTypes[id]? = some builtinType)

include isListed

/-- Builtin types have the same linearization in all registries with the builtin types. -/
theorem linearization_eq_of_isListed (wellFormed : registry.WellFormed)
    (keepsBuiltins : registry.KeepsBuiltins) (found : registry.definition? id = some definition)
    (otherWellFormed : other.WellFormed) (otherKeepsBuiltins : other.KeepsBuiltins)
    (otherFound : other.definition? id = some otherDefinition) :
    otherDefinition.linearization = definition.linearization := by
  induction id, definition, found using wellFormed.induction generalizing builtinType otherDefinition
    with
  | step id definition found inductionHypothesis =>
      have isBase := (keepsBuiltins.builtin found isListed).bases
      have sameBases : otherDefinition.bases = definition.bases :=
        (otherKeepsBuiltins.builtin otherFound isListed).bases.trans isBase.symm
      have sameOrders : other.withLinearizations definition.bases =
          registry.withLinearizations definition.bases := by
        refine List.map_congr_left fun base isMember => ?_
        obtain ⟨baseType, baseListed, _⟩ := basesComeFirst_builtinTypes id builtinType isListed base
          (by simpa [isBase] using isMember)
        obtain ⟨baseDefinition, baseFound⟩ := keepsBuiltins.definition?_of_isListed baseListed
        obtain ⟨otherBase, otherBaseFound⟩ := otherKeepsBuiltins.definition?_of_isListed baseListed
        rw [linearizationOf_of_definition? baseFound, linearizationOf_of_definition? otherBaseFound,
          inductionHypothesis base isMember baseDefinition baseFound baseListed otherBaseFound]
      have isOrder := otherWellFormed.linearized otherFound
      rw [sameBases, sameOrders, wellFormed.linearized found] at isOrder
      exact (Except.ok.inj isOrder).symm

/-- A slot of a builtin type resolves to the first operation along the linearization. -/
theorem Coherent.resolvesAlong_of_isListed (coherent : registry.Coherent)
    (found : registry.definition? id = some definition) (kind : SlotKind) :
    registry.ResolvesAlong kind definition.linearization
      (builtinTarget kind definition.linearization) :=
  coherent.keepsBuiltins.resolvesAlong fun _ isAncestor =>
    coherent.keepsBuiltins.ancestor_isListed found coherent.wellFormed isListed isAncestor

/-- Builtin types have the same slot table in all registries with the builtin types. -/
theorem IsEntry.table_eq_of_isListed (coherent : registry.Coherent)
    (found : registry.definition? id = some definition) {entry : SlotEntry}
    (isEntry : registry.IsEntry id definition entry) (otherCoherent : other.Coherent)
    (otherFound : other.definition? id = some otherDefinition) {otherEntry : SlotEntry}
    (otherIsEntry : other.IsEntry id otherDefinition otherEntry) :
    otherEntry.linearization = entry.linearization ∧ otherEntry.table = entry.table := by
  have sameLinearization := linearization_eq_of_isListed isListed coherent.wellFormed
    coherent.keepsBuiltins found otherCoherent.wellFormed otherCoherent.keepsBuiltins otherFound
  refine ⟨otherIsEntry.linearization.trans (sameLinearization.trans isEntry.linearization.symm), ?_⟩
  obtain ⟨targetOf, isTable, resolves⟩ := isEntry.table
  obtain ⟨otherTargetOf, otherIsTable, otherResolves⟩ := otherIsEntry.table
  have sameTargets : otherTargetOf = targetOf := by
    funext kind
    rw [(resolves kind).unique (coherent.resolvesAlong_of_isListed isListed found kind),
      (otherResolves kind).unique
        (otherCoherent.resolvesAlong_of_isListed isListed otherFound kind), sameLinearization]
  rw [otherIsTable, sameTargets, isTable]

/-- The targets of a builtin type can be read off the first registry. -/
theorem IsEntry.target_of_isListed (coherent : registry.Coherent)
    (found : registry.definition? id = some definition) {entry : SlotEntry}
    (isEntry : registry.IsEntry id definition entry) (kind : SlotKind) :
    entry.target kind = builtinTarget kind ((initial 0).linearizationOf id) := by
  have initialCoherent := coherent_initial 0
  obtain ⟨first, firstFound⟩ := initialCoherent.keepsBuiltins.definition?_of_isListed isListed
  have sameLinearization := linearization_eq_of_isListed isListed coherent.wellFormed
    coherent.keepsBuiltins found initialCoherent.wellFormed initialCoherent.keepsBuiltins firstFound
  rw [linearizationOf_of_definition? firstFound, sameLinearization]
  exact (isEntry.resolves kind).unique (coherent.resolvesAlong_of_isListed isListed found kind)

end Registry

end SlotDispatch
