import SlotDispatch.Proofs.Type.Builtins
/-!
The evolution of a registry. The main statement says that a mutation never lowers a generation, and
that a type whose generation stays has kept everything that its slots depend on: its linearization,
and the operations and the slot dunders of all its ancestors.
-/

namespace SlotDispatch

/-- Two definitions have the same slots when they are of one generation and have one linearization,
the same operations, and the same slot dunders. -/
structure TypeDefinition.SameSlots (old new : TypeDefinition) : Prop where
  generation : new.generation = old.generation
  linearization : new.linearization = old.linearization
  operations : new.operations = old.operations
  dunders : ∀ dunder, SlotKind.isSlotDunder dunder = true →
    new.attributes.get? dunder = old.attributes.get? dunder

theorem TypeDefinition.SameSlots.refl (definition : TypeDefinition) :
    definition.SameSlots definition :=
  ⟨rfl, rfl, rfl, fun _ _ => rfl⟩

theorem TypeDefinition.SameSlots.trans {old between new : TypeDefinition}
    (first : old.SameSlots between) (second : between.SameSlots new) : old.SameSlots new where
  generation := second.generation.trans first.generation
  linearization := second.linearization.trans first.linearization
  operations := second.operations.trans first.operations
  dunders dunder isSlotDunder :=
    (second.dunders dunder isSlotDunder).trans (first.dunders dunder isSlotDunder)

namespace Registry

variable {before after : Registry}

/-- Two registries agree on some types when these types have the same slots in both. -/
def AgreeOn (before after : Registry) (ids : List TypeId) : Prop :=
  ∀ id ∈ ids, ∀ old, before.definition? id = some old →
    ∃ new, after.definition? id = some new ∧ old.SameSlots new

theorem AgreeOn.mono {ids fewer : List TypeId} (agree : AgreeOn before after ids)
    (inside : fewer ⊆ ids) : AgreeOn before after fewer :=
  fun id isMember => agree id (inside isMember)

theorem AgreeOn.of_definitions (same : after.definitions = before.definitions) (ids : List TypeId) :
    AgreeOn before after ids := by
  intro id _ old found
  refine ⟨old, ?_, .refl old⟩
  rw [Registry.definition?, same]
  exact found

/-- A registry evolves when no type is lost, no generation goes down, and the registries agree on
the ancestors of every type whose generation stays. -/
def Evolves (before after : Registry) : Prop :=
  ∀ (id : TypeId) (old : TypeDefinition), before.definition? id = some old →
    ∃ new, after.definition? id = some new ∧ old.generation ≤ new.generation ∧
      (new.generation = old.generation → AgreeOn before after (id :: old.linearization))

theorem Evolves.of_definitions (same : after.definitions = before.definitions) :
    Evolves before after := by
  intro id old found
  refine ⟨old, ?_, Nat.le_refl _, fun _ => .of_definitions same _⟩
  rw [Registry.definition?, same]
  exact found

theorem Evolves.refl (registry : Registry) : Evolves registry registry :=
  .of_definitions rfl

theorem Evolves.length_le (evolves : Evolves before after) :
    before.definitions.length ≤ after.definitions.length := by
  by_contra isLonger
  obtain ⟨old, found⟩ := definition?_isSome_iff.2 (Nat.lt_of_not_le isLonger)
  obtain ⟨new, newFound, _⟩ := evolves _ old found
  exact absurd (lt_length_of_definition? newFound) (Nat.lt_irrefl _)

/-- A registry evolves when every type either begins a new generation or keeps its slots, and the
descendants of a type with a new generation begin a new one too. -/
theorem Evolves.of_touched (wellFormed : before.WellFormed) (touched : TypeId → Prop)
    (closed : ∀ {id definition}, before.definition? id = some definition →
      ∀ ancestor ∈ definition.linearization, touched ancestor → touched id)
    (step : ∀ {id old}, before.definition? id = some old →
      ∃ new, after.definition? id = some new ∧
        (touched id ∧ old.generation < new.generation ∨ ¬ touched id ∧ old.SameSlots new)) :
    Evolves before after := by
  intro id old found
  obtain ⟨new, newFound, change⟩ := step found
  refine ⟨new, newFound, ?_, fun stays => ?_⟩
  · rcases change with ⟨_, isHigher⟩ | ⟨_, same⟩
    · exact Nat.le_of_lt isHigher
    · exact Nat.le_of_eq same.generation.symm
  · have isUntouched : ¬ touched id := by
      rcases change with ⟨_, isHigher⟩ | ⟨isUntouched, _⟩
      · exact absurd stays (Nat.ne_of_gt isHigher)
      · exact isUntouched
    intro ancestor isMember ancestorOld ancestorFound
    have isAncestor : ancestor ∈ old.linearization :=
      (List.mem_cons.1 isMember).elim
        (fun isSelf => isSelf ▸ wellFormed.self_mem_linearization found) (·)
    obtain ⟨ancestorNew, ancestorNewFound, ancestorChange⟩ := step ancestorFound
    rcases ancestorChange with ⟨isTouched, _⟩ | ⟨_, same⟩
    · exact absurd (closed found ancestor isAncestor isTouched) isUntouched
    · exact ⟨ancestorNew, ancestorNewFound, same⟩

/-- The types that have a given type as an ancestor include their own descendants. -/
theorem WellFormed.family_closed (wellFormed : before.WellFormed) (root : TypeId)
    {id : TypeId} {definition : TypeDefinition} (found : before.definition? id = some definition) :
    ∀ ancestor ∈ definition.linearization, root ∈ before.linearizationOf ancestor →
      root ∈ before.linearizationOf id := by
  intro ancestor isAncestor isRoot
  obtain ⟨ancestorDefinition, ancestorFound, listed⟩ := definition?_of_mem_linearizationOf isRoot
  rw [linearizationOf_of_definition? found]
  exact wellFormed.linearization_subset found ancestorFound isAncestor listed

/-- Other names than slot dunders are of no account for the slots. -/
theorem evolves_changeAttributes (wellFormed : before.WellFormed) {id : TypeId}
    {definition : TypeDefinition} (found : before.definition? id = some definition) {name : String}
    {change : Namespace → Namespace}
    (isLocal : ∀ attributes other, other ≠ name →
      (change attributes).get? other = attributes.get? other) :
    Evolves before (before.changeAttributes id name change) := by
  have definitions := definition?_changeAttributes wellFormed found name change
  refine Evolves.of_touched wellFormed
    (fun other => SlotKind.isSlotDunder name = true ∧ id ∈ before.linearizationOf other) ?_ ?_
  · exact fun otherFound ancestor isAncestor isTouched =>
      ⟨isTouched.1, wellFormed.family_closed id otherFound ancestor isAncestor isTouched.2⟩
  · intro other old otherFound
    refine ⟨_, by rw [definitions, otherFound]; rfl, ?_⟩
    rw [linearizationOf_of_definition? otherFound]
    by_cases isTouched : SlotKind.isSlotDunder name = true ∧ id ∈ old.linearization
    · left
      refine ⟨isTouched, ?_⟩
      simp only [isTouched, and_self, if_true]
      exact Nat.lt_succ_self _
    · right
      refine ⟨isTouched, by simp [isTouched], rfl, rfl, fun dunder isSlotDunder => ?_⟩
      by_cases isChanged : id = other
      · subst isChanged
        have isOther : dunder ≠ name := by
          rintro rfl
          exact isTouched ⟨isSlotDunder, wellFormed.self_mem_linearization otherFound⟩
        simp [isLocal old.attributes dunder isOther]
      · simp [isChanged]

/-- A mutation lets a registry evolve. -/
theorem Mutation.evolves (mutation : Mutation before after) (wellFormed : before.WellFormed) :
    Evolves before after := by
  cases mutation with
  | created id name bases attributes isOk =>
      obtain ⟨new, rfl, rfl, _⟩ := createType_ok isOk
      refine Evolves.of_touched wellFormed (fun _ => False) (fun _ _ _ => id) ?_
      intro other old found
      have isOld := Nat.ne_of_lt (lt_length_of_definition? found)
      refine ⟨_, by rw [definition?_append, if_neg isOld, found]; rfl, ?_⟩
      exact .inr ⟨not_false, rfl, rfl, rfl, fun _ _ => rfl⟩
  | assigned id name value isOk =>
      obtain ⟨definition, found, _, rfl⟩ := setAttribute_ok isOk
      refine evolves_changeAttributes wellFormed found fun attributes other isOther => ?_
      rw [Table.get?_insert, if_neg isOther]
  | deleted id name isOk =>
      obtain ⟨definition, found, _, rfl⟩ := deleteAttribute_ok isOk
      refine evolves_changeAttributes wellFormed found fun attributes other isOther => ?_
      rw [Table.get?_erase, if_neg isOther]
  | rebased id bases isOk =>
      obtain ⟨definition, staged, rebased⟩ := setBases_ok wellFormed isOk
      refine Evolves.of_touched wellFormed (fun other => id ∈ before.linearizationOf other)
        (wellFormed.family_closed id) ?_
      intro other old found
      refine ⟨_, by rw [rebased.definitions, found]; rfl, ?_⟩
      rw [← rebased.contains_iff wellFormed]
      by_cases isStaged : staged.contains other = true
      · left
        refine ⟨isStaged, ?_⟩
        simp [rebasedDefinition, isStaged]
      · right
        have absent : staged.get? other = none := by
          simpa [Table.contains] using isStaged
        exact ⟨isStaged, by simp [rebasedDefinition, isStaged],
          by simp [rebasedDefinition, absent], rfl, fun _ _ => rfl⟩
  | invalidated id isOk =>
      obtain ⟨definition, isRegistered, rfl⟩ := invalidate_ok isOk
      refine Evolves.of_touched wellFormed (fun other => id ∈ before.linearizationOf other)
        (wellFormed.family_closed id) ?_
      intro other old found
      refine ⟨_, by rw [definition?_raiseFamily wellFormed isRegistered, found]; rfl, ?_⟩
      rw [linearizationOf_of_definition? found]
      by_cases isMember : id ∈ old.linearization
      · exact .inl ⟨isMember, by simp [isMember]⟩
      · exact .inr ⟨isMember, by simp [isMember], rfl, rfl, fun _ _ => rfl⟩

end Registry

end SlotDispatch
