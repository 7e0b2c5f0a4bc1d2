import SlotDispatch.Proofs.Machine.Action
import SlotDispatch.Proofs.Type.Resolution
/-!
The coherence of slot entries. The main statements say that a mutation keeps every kept entry
coherent, and that the entry of a registered type is always found and holds, for every slot, the
target that the slot resolves to.
-/

namespace SlotDispatch

/-- The table of listed targets has the target of every listed slot. -/
theorem SlotTable.target_ofTargets (targetOf : SlotKind → SlotTarget) {kinds : List SlotKind}
    {kind : SlotKind} (isMember : kind ∈ kinds) :
    (ofTargets (kinds.map fun kind => (kind, targetOf kind))).target kind = targetOf kind := by
  simp only [target, ofTargets, Table.get?, List.find?_filter, List.find?_map]
  cases found : kinds.find? _ with
  | some other =>
      have isOther := List.find?_some found
      simp only [Function.comp_apply, decide_eq_true_eq] at isOther
      simp [isOther.2]
  | none =>
      have notFound := List.find?_eq_none.1 found kind isMember
      simp only [Function.comp_apply, decide_true, and_true, Bool.not_eq_true'] at notFound
      cases isTarget : targetOf kind with
      | absent => rfl
      | builtin operation => simp [isTarget, SlotTarget.isAbsent] at notFound
      | override definition inherited => simp [isTarget, SlotTarget.isAbsent] at notFound

/-- A target is made when the turn of its override is past. -/
def SlotTarget.IsMade (makings : List (TypeId × Nat)) : SlotTarget → Prop
  | .absent | .builtin _ => True
  | .override definition _ =>
      definition.turn < makings.count (definition.owner, definition.generation)

/-- What was made stays made. -/
theorem SlotTarget.IsMade.mono {makings later : List (TypeId × Nat)} {target : SlotTarget}
    (isMade : target.IsMade makings) (stayNoted : makings.Sublist later) : target.IsMade later := by
  cases target with
  | absent | builtin => trivial
  | override definition inherited => exact Nat.lt_of_lt_of_le isMade (stayNoted.count_le _)

namespace Registry

variable {registry state next before after : Registry} {kind : SlotKind}

/-! ### Entries of a type -/

/-- An entry is the entry of a type when it was made in the current generation of the type and its
table has the target that every slot resolves to along the linearization of the type. -/
structure IsEntry (registry : Registry) (id : TypeId) (definition : TypeDefinition)
    (entry : SlotEntry) : Prop where
  typeId : entry.typeId = id
  generation : entry.generation = definition.generation
  linearization : entry.linearization = definition.linearization
  table : ∃ targetOf : SlotKind → SlotTarget,
    entry.table = SlotTable.ofTargets (SlotKind.all.map fun kind => (kind, targetOf kind)) ∧
    ∀ kind, registry.ResolvesAlong kind definition.linearization (targetOf kind)

section Entry

variable {id : TypeId} {definition : TypeDefinition} {entry other : SlotEntry}

theorem IsEntry.resolves (isEntry : registry.IsEntry id definition entry) (kind : SlotKind) :
    registry.ResolvesAlong kind definition.linearization (entry.target kind) := by
  obtain ⟨targetOf, table, resolves⟩ := isEntry.table
  rw [SlotEntry.target, table, SlotTable.target_ofTargets targetOf kind.mem_all]
  exact resolves kind

theorem IsEntry.fits (isEntry : registry.IsEntry id definition entry) (kind : SlotKind) :
    (entry.target kind).Fits kind :=
  (isEntry.resolves kind).fits

/-- A type has at most one entry. -/
theorem IsEntry.unique (left : registry.IsEntry id definition entry)
    (right : registry.IsEntry id definition other) : entry = other := by
  obtain ⟨leftTargetOf, leftTable, leftResolves⟩ := left.table
  obtain ⟨rightTargetOf, rightTable, rightResolves⟩ := right.table
  have sameTargets : leftTargetOf = rightTargetOf :=
    funext fun kind => (leftResolves kind).unique (rightResolves kind)
  have sameTable : entry.table = other.table := by rw [leftTable, rightTable, sameTargets]
  obtain ⟨typeId, generation, linearization, table⟩ := entry
  obtain ⟨otherId, otherGeneration, otherLinearization, otherTable⟩ := other
  obtain rfl : typeId = otherId := left.typeId.trans right.typeId.symm
  obtain rfl : generation = otherGeneration := left.generation.trans right.generation.symm
  obtain rfl : linearization = otherLinearization := left.linearization.trans right.linearization.symm
  rw [show table = otherTable from sameTable]

/-- An entry stays the entry of its type while the registries agree on the ancestors of the type. -/
theorem IsEntry.of_agreeOn (wellFormed : before.WellFormed)
    (found : before.definition? id = some definition)
    (agree : AgreeOn before after (id :: definition.linearization))
    (isEntry : before.IsEntry id definition entry) :
    ∃ new, after.definition? id = some new ∧ after.IsEntry id new entry := by
  obtain ⟨new, newFound, same⟩ := agree id (List.mem_cons_self ..) definition found
  obtain ⟨targetOf, table, resolves⟩ := isEntry.table
  refine ⟨new, newFound, isEntry.typeId, isEntry.generation.trans same.generation.symm,
    isEntry.linearization.trans same.linearization.symm, targetOf, table, fun kind => ?_⟩
  rw [same.linearization]
  exact (resolves kind).of_agreeOn wellFormed found
    (agree.mono (List.subset_cons_self id _)) (List.Subset.refl _)

end Entry

/-! ### Coherent registries -/

/-- A type with an entry is current with the entry, or it has begun a new generation since the entry
was made. -/
def IsCoherentEntry (registry : Registry) (id : TypeId) (entry : SlotEntry) : Prop :=
  ∃ definition, registry.definition? id = some definition ∧
    entry.generation ≤ definition.generation ∧
    (entry.generation = definition.generation → registry.IsEntry id definition entry)

theorem IsEntry.isCoherentEntry {id : TypeId} {definition : TypeDefinition} {entry : SlotEntry}
    (isEntry : registry.IsEntry id definition entry)
    (found : registry.definition? id = some definition) : registry.IsCoherentEntry id entry :=
  ⟨definition, found, Nat.le_of_eq isEntry.generation, fun _ => isEntry⟩

/-- What was coherent stays coherent while the registry evolves. -/
theorem IsCoherentEntry.of_evolves (wellFormed : before.WellFormed) (evolves : Evolves before after)
    {id : TypeId} {entry : SlotEntry} (coherent : before.IsCoherentEntry id entry) :
    after.IsCoherentEntry id entry := by
  obtain ⟨old, found, isLower, isCurrent⟩ := coherent
  obtain ⟨new, newFound, isHigher, agree⟩ := evolves id old found
  refine ⟨new, newFound, Nat.le_trans isLower isHigher, fun same => ?_⟩
  have isEntry := isCurrent (Nat.le_antisymm isLower (same ▸ isHigher))
  have stays : new.generation = old.generation :=
    Nat.le_antisymm (same ▸ isLower) isHigher
  obtain ⟨sameNew, sameFound, stillEntry⟩ := isEntry.of_agreeOn wellFormed found (agree stays)
  obtain rfl := Option.some.inj (newFound.symm.trans sameFound)
  exact stillEntry

/-- A type for which an entry was made has begun a new generation since, or it has kept an entry of this
generation. -/
def IsCoherentMaking (registry : Registry) (id : TypeId) (generation : Nat) : Prop :=
  ∃ definition, registry.definition? id = some definition ∧ generation ≤ definition.generation ∧
    (generation = definition.generation → (registry.kept? id definition).isSome = true)

/-- Nothing but a new generation takes an entry back. -/
theorem IsCoherentMaking.of_evolves (evolves : Evolves before after)
    (sameEntries : after.entries = before.entries) {id : TypeId} {generation : Nat}
    (coherent : before.IsCoherentMaking id generation) : after.IsCoherentMaking id generation := by
  obtain ⟨old, found, isLower, isCurrent⟩ := coherent
  obtain ⟨new, newFound, isHigher, _⟩ := evolves id old found
  refine ⟨new, newFound, Nat.le_trans isLower isHigher, fun same => ?_⟩
  have stays : new.generation = old.generation := Nat.le_antisymm (same ▸ isLower) isHigher
  have isKept := isCurrent (same.trans stays)
  rwa [kept?, sameEntries, stays]

/-- A registry is coherent when it is well-formed, keeps the builtin types, and all entries that it keeps
or made are coherent. It has made the targets of the entries that it keeps. -/
structure Coherent (registry : Registry) : Prop where
  wellFormed : registry.WellFormed
  keepsBuiltins : registry.KeepsBuiltins
  kept : ∀ {id entry}, registry.entries.get? id = some entry → registry.IsCoherentEntry id entry
  made : ∀ {id generation}, (id, generation) ∈ registry.entries.makings →
    registry.IsCoherentMaking id generation
  hasMade : ∀ {id entry}, registry.entries.get? id = some entry →
    ∀ kind, (entry.target kind).IsMade registry.entries.makings

theorem coherent_initial (limit : Nat) : (initial limit).Coherent where
  wellFormed := wellFormed_initial limit
  keepsBuiltins := keepsBuiltins_initial limit
  kept := by
    intro id entry isKept
    cases isKept
  made := by
    intro id generation isMade
    cases isMade
  hasMade := by
    intro id entry isKept
    cases isKept

/-- A type without a current entry makes its first entry of the generation. -/
theorem Coherent.turn_eq_zero (coherent : registry.Coherent) {id : TypeId}
    {definition : TypeDefinition} (found : registry.definition? id = some definition)
    (noEntry : registry.kept? id definition = none) :
    registry.entries.turn id definition.generation = 0 := by
  refine List.count_eq_zero.2 fun isMade => ?_
  obtain ⟨same, sameFound, _, isKept⟩ := coherent.made isMade
  obtain rfl := Option.some.inj (found.symm.trans sameFound)
  have hasEntry := isKept rfl
  rw [noEntry] at hasEntry
  cases hasEntry

/-- A mutation keeps a registry coherent. -/
theorem Mutation.coherent (mutation : Mutation before after) (coherent : before.Coherent) :
    after.Coherent where
  wellFormed := mutation.wellFormed coherent.wellFormed
  keepsBuiltins := mutation.keepsBuiltins coherent.wellFormed coherent.keepsBuiltins
  kept := by
    intro id entry isKept
    rw [(mutation.frame coherent.wellFormed).1] at isKept
    exact (coherent.kept isKept).of_evolves coherent.wellFormed (mutation.evolves coherent.wellFormed)
  made := by
    intro id generation isMade
    have sameEntries := (mutation.frame coherent.wellFormed).1
    rw [sameEntries] at isMade
    exact (coherent.made isMade).of_evolves (mutation.evolves coherent.wellFormed) sameEntries
  hasMade := by
    rw [(mutation.frame coherent.wellFormed).1]
    exact coherent.hasMade

/-- A registry refreshes another one when it differs in its kept entries only and is coherent. -/
structure Refreshes (before after : Registry) : Prop where
  definitions : after.definitions = before.definitions
  limit : after.linearizationLimit = before.linearizationLimit
  coherent : after.Coherent

theorem Coherent.refreshes (coherent : registry.Coherent) : Refreshes registry registry :=
  ⟨rfl, rfl, coherent⟩

theorem Refreshes.trans {first second third : Registry} (left : Refreshes first second)
    (right : Refreshes second third) : Refreshes first third :=
  ⟨right.definitions.trans left.definitions, right.limit.trans left.limit, right.coherent⟩

theorem Refreshes.definition? (refreshes : Refreshes before after) (id : TypeId) :
    after.definition? id = before.definition? id := by
  rw [Registry.definition?, refreshes.definitions, Registry.definition?]

theorem Refreshes.evolves (refreshes : Refreshes before after) : Evolves before after :=
  .of_definitions refreshes.definitions

/-- An entry of a refreshed registry is an entry of the registry before. -/
theorem Refreshes.isEntry (refreshes : Refreshes before after) {id : TypeId}
    {definition : TypeDefinition} {entry : SlotEntry}
    (found : before.definition? id = some definition)
    (isEntry : after.IsEntry id definition entry) : before.IsEntry id definition entry := by
  obtain ⟨same, sameFound, stillEntry⟩ := isEntry.of_agreeOn refreshes.coherent.wellFormed
    ((refreshes.definition? id).trans found) (.of_definitions refreshes.definitions.symm _)
  obtain rfl := Option.some.inj (found.symm.trans sameFound)
  exact stillEntry

/-- The entries that a registry keeps do not make it well-formed. -/
theorem WellFormed.of_definitions (wellFormed : before.WellFormed)
    (same : after.definitions = before.definitions) : after.WellFormed := by
  obtain ⟨definitions, entries, limit⟩ := after
  subst same
  exact ⟨wellFormed.linearized, wellFormed.basesOpen, wellFormed.subclassesExact⟩

/-- A registry is read into another one when it is refreshed and every making stays noted. -/
structure Reads (before after : Registry) : Prop extends Refreshes before after where
  makings : before.entries.makings.Sublist after.entries.makings

theorem Coherent.reads (coherent : registry.Coherent) : Reads registry registry :=
  ⟨coherent.refreshes, .refl _⟩

theorem Reads.trans {first second third : Registry} (left : Reads first second)
    (right : Reads second third) : Reads first third :=
  ⟨left.toRefreshes.trans right.toRefreshes, left.makings.trans right.makings⟩

/-! ### Entries that are kept -/

section Keep

variable {id : TypeId} {definition : TypeDefinition} {entry : SlotEntry}

/-- A registry that keeps a new entry has it, and has the entries of the other types. -/
theorem kept?_keep (isCurrent : entry.generation = definition.generation) (other : TypeId)
    (otherDefinition : TypeDefinition) (isSame : other = id → otherDefinition = definition) :
    kept? { registry with entries := registry.entries.keep id entry } other otherDefinition =
      if other = id then some entry else registry.kept? other otherDefinition := by
  rw [kept?, SlotCache.get?_keep]
  split
  · next same => simp [isSame same, isCurrent]
  · rfl

variable (found : registry.definition? id = some definition)
  (isEntry : registry.IsEntry id definition entry)

include found isEntry

/-- An entry that is kept is the current entry of its type. -/
theorem IsCoherentMaking.keep {other : TypeId} {generation : Nat}
    (isMade : (other, generation) = (id, entry.generation) ∨
      registry.IsCoherentMaking other generation) :
    IsCoherentMaking { registry with entries := registry.entries.keep id entry } other
      generation := by
  have keeps := @kept?_keep registry id definition entry isEntry.generation
  rcases isMade with isNew | ⟨otherDefinition, otherFound, isLower, isKept⟩
  · obtain ⟨rfl, rfl⟩ := Prod.mk.inj isNew
    refine ⟨definition, found, Nat.le_of_eq isEntry.generation, fun _ => ?_⟩
    rw [keeps other definition fun _ => rfl, if_pos rfl]
    rfl
  · refine ⟨otherDefinition, otherFound, isLower, fun isCurrent => ?_⟩
    rw [keeps other otherDefinition fun same =>
      Option.some.inj (otherFound.symm.trans (same ▸ found))]
    split
    · rfl
    · exact isKept isCurrent

/-- A registry that keeps one more entry of a type is coherent still, when it has made the targets of the
entry or makes them with it. -/
theorem Coherent.keepEntry (coherent : registry.Coherent)
    (areMade : ∀ kind, (entry.target kind).IsMade
      ((id, entry.generation) :: registry.entries.makings)) :
    Reads registry { registry with entries := registry.entries.keep id entry } := by
  have evolves : Evolves registry { registry with entries := registry.entries.keep id entry } :=
    .of_definitions rfl
  have isKept : ∀ {other kept}, (registry.entries.keep id entry).get? other = some kept →
      (other = id ∧ kept = entry) ∨ registry.entries.get? other = some kept := by
    intro other kept isKept
    rw [SlotCache.get?_keep] at isKept
    split at isKept
    · next same => exact .inl ⟨same, (Option.some.inj isKept).symm⟩
    · exact .inr isKept
  refine ⟨⟨rfl, rfl, ?_, ?_, ?_, ?_, ?_⟩, List.sublist_cons_self _ _⟩
  · exact coherent.wellFormed.of_definitions rfl
  · exact coherent.keepsBuiltins.of_definitions rfl
  · intro other kept wasKept
    rcases isKept wasKept with ⟨rfl, rfl⟩ | wasKept
    · exact (isEntry.isCoherentEntry found).of_evolves coherent.wellFormed evolves
    · exact (coherent.kept wasKept).of_evolves coherent.wellFormed evolves
  · intro other generation isMade
    exact .keep found isEntry ((List.mem_cons.1 isMade).imp_right coherent.made)
  · intro other kept wasKept kind
    rcases isKept wasKept with ⟨rfl, rfl⟩ | wasKept
    · exact areMade kind
    · exact (coherent.hasMade wasKept kind).mono (List.sublist_cons_self _ _)

end Keep

/-! ### Slots without special methods -/

/-- A slot without special methods is never inherited or overridden, so its target is known from the
place of the type. -/
theorem IsEntry.target_of_dunders_eq_nil (coherent : registry.Coherent) {id : TypeId}
    {definition : TypeDefinition} (found : registry.definition? id = some definition)
    {entry : SlotEntry} (isEntry : registry.IsEntry id definition entry)
    (noDunders : kind.dunders = []) :
    entry.target kind =
      (((builtinTypes[id]?).elim [] BuiltinType.operations).find? fun operation =>
        operation.kind = kind).elim .absent .builtin := by
  rw [← coherent.keepsBuiltins.operations found]
  change entry.target kind = (definition.builtin? kind).elim .absent .builtin
  have bindsNothing : ∀ definition : TypeDefinition, definition.binds kind = false := by
    intro definition
    rw [TypeDefinition.binds, noDunders]
    rfl
  refine (isEntry.resolves kind).unique ?_
  cases hasOperation : definition.builtin? kind with
  | some operation =>
      have isDefiner := coherent.wellFormed.definer?_of_defines found (defines_of_builtin? hasOperation)
      exact .builtin isDefiner found (bindsNothing definition) hasOperation
  | none =>
      refine .undefined (List.find?_eq_none.2 fun ancestor isAncestor defines => ?_)
      obtain ⟨ancestorDefinition, ancestorFound, defines⟩ := (Option.any_eq_true _ _).1 defines
      rw [TypeDefinition.defines, bindsNothing, Bool.or_false, Option.isSome_iff_exists] at defines
      obtain ⟨operation, ancestorHasOperation⟩ := defines
      by_cases isSelf : ancestor = id
      · subst isSelf
        obtain rfl := Option.some.inj (found.symm.trans ancestorFound)
        rw [hasOperation] at ancestorHasOperation
        cases ancestorHasOperation
      · have isOpen := coherent.wellFormed.ancestor_isBase found ancestorFound isAncestor isSelf
        have isFinal := coherent.keepsBuiltins.isBase_of_dunders_eq_nil ancestorFound noDunders
          ancestorHasOperation
        rw [isOpen] at isFinal
        cases isFinal

/-! ### Entries that are found -/

/-- An entry of a type is read when a registry is read into one that has made the targets of the entry. -/
structure ReadsEntry (registry before : Registry) (id : TypeId) (definition : TypeDefinition)
    (entry : SlotEntry) (after : Registry) : Prop where
  isEntry : registry.IsEntry id definition entry
  reads : Reads before after
  areMade : ∀ kind, (entry.target kind).IsMade after.entries.makings

/-- A function answers for a type when it reads the entry of the type from every refreshed registry. -/
def Answers (registry : Registry) (entryOf : TypeId → Action Registry SlotEntry) (id : TypeId) :
    Prop :=
  ∀ definition, registry.definition? id = some definition → ∀ state, Refreshes registry state →
    (entryOf id).Succeeds state (registry.ReadsEntry state id definition)

theorem requireAll_ok {ids : List TypeId}
    (registered : ∀ id ∈ ids, ∃ definition, registry.definition? id = some definition) :
    registry.requireAll ids = .ok () := by
  induction ids with
  | nil => rfl
  | cons id rest inductionHypothesis =>
      obtain ⟨definition, found⟩ := registered id (List.mem_cons_self ..)
      have others := inductionHypothesis fun other isOther =>
        registered other (List.mem_cons_of_mem id isOther)
      exact bind_eq_ok_iff.2 ⟨definition, require_eq_ok_iff.2 found, others⟩

section Rebuild

variable {entryOf : TypeId → Action Registry SlotEntry} (wellFormed : registry.WellFormed)

include wellFormed

theorem inheritedTarget_succeeds {ancestors : List TypeId}
    (answers : ∀ ancestor ∈ ancestors, Answers registry entryOf ancestor)
    (refreshes : Refreshes registry state) :
    (inheritedTarget entryOf registry kind ancestors).Succeeds state fun target next =>
      registry.ResolvesAlong kind ancestors target ∧ Reads state next ∧
        target.IsMade next.entries.makings := by
  rw [inheritedTarget]
  cases isDefiner : registry.definer? kind ancestors with
  | none => exact .pure ⟨.undefined isDefiner, refreshes.coherent.reads, trivial⟩
  | some definer =>
      obtain ⟨isAncestor, definition, found, defines⟩ := definer?_eq_some isDefiner
      refine (answers definer isAncestor definition found state refreshes).bind ?_
      intro entry next ⟨isEntry, reads, areMade⟩
      have sameDefiner := isDefiner.trans (wellFormed.definer?_of_defines found defines).symm
      exact .pure ⟨(isEntry.resolves kind).of_definer? sameDefiner, reads, areMade kind⟩

variable {id : TypeId} {definition : TypeDefinition}
  (found : registry.definition? id = some definition)
  (answers : ∀ ancestor ∈ definition.linearization.tail, Answers registry entryOf ancestor)

include found answers

theorem slotTarget_succeeds (isFirst : registry.entries.turn id definition.generation = 0)
    (refreshes : Refreshes registry state) :
    (slotTarget entryOf registry id definition kind).Succeeds state fun target next =>
      registry.ResolvesAlong kind definition.linearization target ∧ Reads state next ∧
        target.IsMade ((id, definition.generation) :: next.entries.makings) := by
  have isDefiner : definition.defines kind = true →
      registry.definer? kind definition.linearization = some id :=
    wellFormed.definer?_of_defines found
  have registered : ∀ ancestor ∈ definition.linearization, ∃ ancestorDefinition,
      registry.definition? ancestor = some ancestorDefinition :=
    fun _ isAncestor => wellFormed.ancestor_registered found isAncestor
  rw [slotTarget]
  split
  · rename_i binds
    refine (inheritedTarget_succeeds wellFormed answers refreshes).bind ?_
    intro inherited next ⟨resolves, reads, _⟩
    have defines := defines_of_binds binds
    obtain ⟨whenHidden, whenShown⟩ :=
      overrideTarget_eq kind id definition.generation inherited registered
    by_cases hides : registry.Hides kind definition.linearization inherited
    · rw [whenHidden hides]
      exact .pure ⟨.hidden (isDefiner defines) found binds resolves hides, reads, trivial⟩
    · rw [whenShown hides, isFirst]
      refine .pure ⟨.override (isDefiner defines) found binds resolves hides, reads, ?_⟩
      exact List.count_pos_iff.2 (List.mem_cons_self ..)
  · rename_i bindsNothing
    have bindsNothing := Bool.eq_false_iff.2 bindsNothing
    split
    · rename_i operation hasOperation
      have defines := defines_of_builtin? hasOperation
      exact .pure ⟨.builtin (isDefiner defines) found bindsNothing hasOperation,
        refreshes.coherent.reads, trivial⟩
    · rename_i noOperation
      refine (inheritedTarget_succeeds wellFormed answers refreshes).mono ?_
      intro target next ⟨resolves, reads, isMade⟩
      refine ⟨resolves.of_definer? ?_, reads, isMade.mono (List.sublist_cons_self _ _)⟩
      have undefined : ¬ definition.defines kind = true := by
        rw [TypeDefinition.defines, bindsNothing, noOperation]
        simp
      obtain ⟨order, isCons, _⟩ := wellFormed.linearization_eq_cons found
      rw [isCons, List.tail_cons, definer?_cons id order found, if_neg undefined]

theorem slotTargets_succeeds (isFirst : registry.entries.turn id definition.generation = 0)
    (kinds : List SlotKind) (refreshes : Refreshes registry state) :
    (slotTargets entryOf registry id definition kinds).Succeeds state fun targets next =>
      (∃ targetOf : SlotKind → SlotTarget,
        targets = kinds.map (fun kind => (kind, targetOf kind)) ∧
        ∀ kind ∈ kinds, registry.ResolvesAlong kind definition.linearization (targetOf kind) ∧
          (targetOf kind).IsMade ((id, definition.generation) :: next.entries.makings)) ∧
      Reads state next := by
  induction kinds generalizing state with
  | nil => exact .pure ⟨⟨fun _ => .absent, rfl, by simp⟩, refreshes.coherent.reads⟩
  | cons kind kinds inductionHypothesis =>
      rw [slotTargets]
      refine (slotTarget_succeeds wellFormed found answers isFirst refreshes).bind ?_
      intro target middle ⟨resolves, reads, isMade⟩
      refine (inductionHypothesis (refreshes.trans reads.toRefreshes)).bind ?_
      intro targets next ⟨⟨targetOf, areTargets, allResolve⟩, readsAgain⟩
      have stillMade := isMade.mono (readsAgain.makings.cons_cons _)
      refine .pure ⟨⟨fun other => if other = kind then target else targetOf other, ?_, ?_⟩,
        reads.trans readsAgain⟩
      · rw [areTargets, List.map_cons]
        beta_reduce
        rw [if_pos rfl]
        congr 1
        refine List.map_congr_left fun other isMember => ?_
        by_cases same : other = kind
        · rw [if_pos same, (allResolve other isMember).1.unique (same ▸ resolves)]
        · rw [if_neg same]
      · intro other isMember
        beta_reduce
        by_cases same : other = kind
        · rw [if_pos same]
          exact same ▸ ⟨resolves, stillMade⟩
        · rw [if_neg same]
          exact allResolve other ((List.mem_cons.1 isMember).resolve_left same)

/-- A type without a current entry rebuilds and keeps its entry. -/
theorem rebuildEntry_succeeds (coherent : registry.Coherent)
    (noEntry : registry.kept? id definition = none) :
    (rebuildEntry entryOf id definition).Succeeds registry
      (registry.ReadsEntry registry id definition) := by
  have registered : ∀ ancestor ∈ definition.linearization.tail, ∃ ancestorDefinition,
      registry.definition? ancestor = some ancestorDefinition := fun _ isBehind =>
    wellFormed.ancestor_registered found (List.mem_of_mem_tail isBehind)
  rw [rebuildEntry]
  refine .current_bind (.ofExcept_bind (requireAll_ok registered) ?_)
  have isFirst := coherent.turn_eq_zero found noEntry
  refine (slotTargets_succeeds wellFormed found answers isFirst SlotKind.all
    coherent.refreshes).bind ?_
  intro targets middle ⟨⟨targetOf, areTargets, resolve⟩, reads⟩
  let entry : SlotEntry :=
    ⟨id, definition.generation, definition.linearization, SlotTable.ofTargets targets⟩
  have isTarget : ∀ kind, entry.target kind = targetOf kind := fun kind =>
    (congrArg (SlotTable.target · kind) (congrArg SlotTable.ofTargets areTargets)).trans
      (SlotTable.target_ofTargets targetOf kind.mem_all)
  have areMade : ∀ kind, (entry.target kind).IsMade
      ((id, definition.generation) :: middle.entries.makings) := fun kind =>
    isTarget kind ▸ (resolve kind kind.mem_all).2
  have isEntry : registry.IsEntry id definition entry :=
    ⟨rfl, rfl, rfl, targetOf, congrArg SlotTable.ofTargets areTargets,
      fun kind => (resolve kind kind.mem_all).1⟩
  obtain ⟨same, sameFound, stillEntry⟩ :=
    isEntry.of_agreeOn wellFormed found (.of_definitions reads.definitions _)
  have keeps := reads.coherent.keepEntry sameFound stillEntry areMade
  exact .change_bind (.pure ⟨isEntry, reads.trans keeps, areMade⟩)

end Rebuild

/-- With a depth that is not smaller than its linearization, the entry of a type is read. -/
theorem entryWithin_reads (depth : Nat) (coherent : registry.Coherent) {id : TypeId}
    {definition : TypeDefinition} (found : registry.definition? id = some definition)
    (isDeep : definition.linearization.length ≤ depth) :
    (entryWithin depth id).Succeeds registry (registry.ReadsEntry registry id definition) := by
  induction depth generalizing registry id definition with
  | zero =>
      have isSelf := coherent.wellFormed.self_mem_linearization found
      rw [List.eq_nil_of_length_eq_zero (Nat.le_zero.1 isDeep)] at isSelf
      cases isSelf
  | succ depth inductionHypothesis =>
      rw [entryWithin]
      refine .current_bind (.ofExcept_bind (require_eq_ok_iff.2 found) ?_)
      cases isKept : registry.kept? id definition with
      | some entry =>
          obtain ⟨kept, isCurrent⟩ := Option.filter_eq_some_iff.1 isKept
          obtain ⟨same, sameFound, _, isEntry⟩ := coherent.kept kept
          obtain rfl := Option.some.inj (found.symm.trans sameFound)
          exact .pure ⟨isEntry (by simpa using isCurrent), coherent.reads, coherent.hasMade kept⟩
      | none =>
          refine rebuildEntry_succeeds coherent.wellFormed found ?_ coherent isKept
          intro ancestor isBehind ancestorDefinition ancestorFound state refreshes
          obtain ⟨isAncestor, isOther⟩ := coherent.wellFormed.tail_spec found isBehind
          have isShorter :=
            coherent.wellFormed.length_ancestor_lt found ancestorFound isAncestor isOther
          refine (inductionHypothesis refreshes.coherent
            ((refreshes.definition? ancestor).trans ancestorFound) (by omega)).mono ?_
          intro entry next ⟨isEntry, reads, areMade⟩
          exact ⟨refreshes.isEntry ancestorFound isEntry, reads, areMade⟩

/-- The entry of a registered type is always read. -/
theorem entryOf_reads (coherent : registry.Coherent) {id : TypeId} {definition : TypeDefinition}
    (found : registry.definition? id = some definition) :
    (entryOf id).Succeeds registry (registry.ReadsEntry registry id definition) :=
  entryWithin_reads registry.definitions.length coherent found
    (coherent.wellFormed.length_linearization_le found)

/-- The entry of a registered type is always found. -/
theorem entryOf_succeeds (coherent : registry.Coherent) {id : TypeId} {definition : TypeDefinition}
    (found : registry.definition? id = some definition) :
    (entryOf id).Succeeds registry fun entry next =>
      registry.IsEntry id definition entry ∧ Refreshes registry next :=
  (entryOf_reads coherent found).mono fun _ _ ⟨isEntry, reads, _⟩ => ⟨isEntry, reads.toRefreshes⟩

/-- A type that is not registered has no entry. -/
theorem entryOf_of_unregistered (coherent : registry.Coherent) {id : TypeId}
    (absent : registry.definition? id = none) :
    entryOf id registry = some (.error (.unknownType id), registry) := by
  have isKnown : 0 < registry.definitions.length :=
    Nat.lt_of_lt_of_le (by decide) coherent.keepsBuiltins.length
  obtain ⟨depth, isDepth⟩ := Nat.exists_eq_succ_of_ne_zero (Nat.pos_iff_ne_zero.1 isKnown)
  rw [entryOf, isDepth, entryWithin, Action.bind_apply]
  have failed : registry.require id = .error (.unknownType id) := by
    rw [require, absent]
  simp [Action.current, failed, Action.ofExcept]

end Registry

end SlotDispatch
