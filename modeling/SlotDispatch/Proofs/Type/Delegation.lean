import SlotDispatch.Proofs.Type.Resolution
/-!
The delegation of special methods. The main statements say that behind an override which leaves a special
method to its inherited target all overrides leave it too, so that it reaches no method, and that the
owners of the overrides stand in order in the linearization of the first owner.
-/

namespace SlotDispatch

/-! ### The overrides of a target -/

namespace SlotTarget

/-- These are the overrides of a target, from the own one to the last inherited one. -/
def overrides : SlotTarget → List Override
  | .absent | .builtin _ => []
  | .override definition inherited => definition :: inherited.overrides

/-- A target leads to itself and to everything that its inherited target leads to. -/
inductive LeadsTo : SlotTarget → SlotTarget → Prop
  | itself (target : SlotTarget) : LeadsTo target target
  | inherited {definition : Override} {inherited target : SlotTarget}
      (leads : LeadsTo inherited target) : LeadsTo (.override definition inherited) target

/-- A special method that all overrides leave to their inherited targets reaches the operation at the
end of the delegation. -/
theorem reach_of_left {target : SlotTarget} {dunder : String}
    (areLeft : ∀ other ∈ target.overrides, other.binding dunder = .inherited) :
    target.reach dunder = target.operation?.elim .absent .builtin := by
  induction target with
  | absent | builtin => rfl
  | override definition inherited inductionHypothesis =>
      obtain ⟨isLeft, areLeftBehind⟩ := List.forall_mem_cons.1 areLeft
      rw [reach, isLeft]
      exact inductionHypothesis areLeftBehind

end SlotTarget

namespace Registry

variable {registry : Registry} {kind : SlotKind} {dunder : String} {ids : List TypeId}
  {target : SlotTarget} {override : Override} {inherited : SlotTarget}

/-- What a resolved target leads to is resolved along some types too. -/
theorem ResolvesAlong.of_leadsTo {other : SlotTarget} (leads : target.LeadsTo other)
    (resolves : registry.ResolvesAlong kind ids target) :
    ∃ others, registry.ResolvesAlong kind others other := by
  induction leads generalizing ids with
  | itself => exact ⟨ids, resolves⟩
  | inherited _ inductionHypothesis =>
      cases resolves with
      | override _ _ _ behind _ => exact inductionHypothesis behind

/-- All overrides leave a special method that the ancestors of a type do not bind. -/
theorem ResolvesAlong.binding_of_unbound (wellFormed : registry.WellFormed) {owner : TypeId}
    {definition : TypeDefinition} (found : registry.definition? owner = some definition)
    (unbound : registry.firstBinding? dunder definition.linearization = none)
    (isMember : dunder ∈ kind.dunders) (resolves : registry.ResolvesAlong kind ids target)
    (inside : ids ⊆ definition.linearization) :
    ∀ other ∈ target.overrides, other.binding dunder = .inherited := by
  induction resolves with
  | undefined | builtin | hidden => simp [SlotTarget.overrides]
  | @override ids definer definerDefinition inherited isDefiner definerFound _ _ _
      inductionHypothesis =>
      have ancestors := wellFormed.linearization_subset found definerFound
        (inside (definer?_eq_some isDefiner).1)
      refine List.forall_mem_cons.2 ⟨?_, inductionHypothesis fun _ isBehind =>
        ancestors (List.mem_of_mem_tail isBehind)⟩
      exact (binding_firstBindings_eq_inherited_iff _ _ _ isMember).2
        (firstBinding?_eq_none_of_subset unbound ancestors)

/-- The owners of the overrides stand in order among the types that a slot is resolved along, when these
types have their ancestors in order behind them. -/
theorem ResolvesAlong.owners_sublist (wellFormed : registry.WellFormed)
    (resolves : registry.ResolvesAlong kind ids target)
    (inOrder : ∀ id ∈ ids, ∀ definition, registry.definition? id = some definition →
      definition.linearization.Sublist ids) :
    (target.overrides.map Override.owner).Sublist ids := by
  induction resolves with
  | undefined | builtin | hidden => exact List.nil_sublist _
  | @override ids definer definition inherited isDefiner found _ _ _ inductionHypothesis =>
      have isBehind := inductionHypothesis fun _ isAncestor _ ancestorFound =>
        wellFormed.linearization_sublist_tail found ancestorFound isAncestor
      obtain ⟨order, isCons, _⟩ := wellFormed.linearization_eq_cons found
      have isOwn := inOrder definer (definer?_eq_some isDefiner).1 definition found
      rw [isCons, List.tail_cons] at isBehind
      rw [isCons] at isOwn
      exact (isBehind.cons_cons definer).trans isOwn

/-! ### Delegation in order -/

/-- An override delegates in order when all overrides behind it leave every special method that it leaves
itself, and when its owner and the owners behind it are different types in the order of its owner's
linearization. What it leaves reaches an operation of its kind or nothing. -/
structure DelegatesInOrder (registry : Registry) (override : Override) (inherited : SlotTarget) :
    Prop where
  leaves : ∀ dunder ∈ override.kind.dunders, override.binding dunder = .inherited →
    ∀ other ∈ inherited.overrides, other.binding dunder = .inherited
  reaches : ∀ dunder ∈ override.kind.dunders, override.binding dunder = .inherited →
    inherited.reach dunder = .absent ∨
      ∃ operation, operation.kind = override.kind ∧ inherited.reach dunder = .builtin operation
  nodup : (override.owner :: inherited.overrides.map Override.owner).Nodup
  inOrder : ∃ definition, registry.definition? override.owner = some definition ∧
    (override.owner :: inherited.overrides.map Override.owner).Sublist definition.linearization

/-- Every resolved override delegates in order. -/
theorem ResolvesAlong.delegatesInOrder (wellFormed : registry.WellFormed)
    (resolves : registry.ResolvesAlong kind ids (.override override inherited)) :
    override.kind = kind ∧ registry.DelegatesInOrder override inherited := by
  cases resolves with
  | @override _ definer definition _ _ found _ behind _ =>
      have areLeft : ∀ dunder ∈ kind.dunders,
          (Override.mk definer kind definition.generation 0
            (registry.firstBindings kind definition.linearization)).binding dunder = .inherited →
          ∀ other ∈ inherited.overrides, other.binding dunder = .inherited := by
        intro dunder isMember isLeft
        have unbound := (binding_firstBindings_eq_inherited_iff _ _ _ isMember).1 isLeft
        exact behind.binding_of_unbound wellFormed found unbound isMember
          fun _ => List.mem_of_mem_tail
      have isSublist : (definer :: inherited.overrides.map Override.owner).Sublist
          definition.linearization := by
        obtain ⟨order, isCons, _⟩ := wellFormed.linearization_eq_cons found
        have isBehind := behind.owners_sublist wellFormed fun _ isAncestor _ ancestorFound =>
          wellFormed.linearization_sublist_tail found ancestorFound isAncestor
        rw [isCons, List.tail_cons] at isBehind
        rw [isCons]
        exact isBehind.cons_cons definer
      refine ⟨rfl, areLeft, fun dunder isMember isLeft => ?_,
        isSublist.nodup (wellFormed.linearization_nodup found), definition, found, isSublist⟩
      rw [SlotTarget.reach_of_left (areLeft dunder isMember isLeft)]
      cases isEnd : inherited.operation? with
      | none => exact .inl rfl
      | some operation => exact .inr ⟨operation, behind.fits.kind_of_operation? isEnd, rfl⟩

end Registry

end SlotDispatch
