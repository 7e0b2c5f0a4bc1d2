import SlotDispatch.Proofs.Slot.Target
import SlotDispatch.Proofs.Type.Evolution
import SlotDispatch.Type.Slots
/-!
The resolution of slots from the definitions alone. The main statements say that every slot resolves
to at most one target along a list of types, and that registries which agree on these types resolve
the slot alike.
-/

namespace SlotDispatch

/-- This test tells the special methods that are blocked. -/
def Binding.isBlocked : Binding → Bool
  | .blocked => true
  | _ => false

/-- This test tells the special methods that are bound to a value to call. -/
def Binding.isMethod : Binding → Bool
  | .method _ => true
  | _ => false

namespace Registry

/-- This is the first value that the namespaces of some types bind to a name. -/
def firstBinding? (registry : Registry) (dunder : String) (ids : List TypeId) : Option Value :=
  ids.findSome? fun id =>
    (registry.definition? id).bind fun definition => definition.attributes.get? dunder

/-- These are the first bindings of all special methods of a kind. -/
def firstBindings (registry : Registry) (kind : SlotKind) (ids : List TypeId) : Namespace :=
  ⟨kind.dunders.filterMap fun dunder =>
    (registry.firstBinding? dunder ids).map fun value => (dunder, value)⟩

/-- Some types hide a slot when they bind all its special methods to `None`, or when they bind none
of them to anything else and there is nothing to inherit. -/
def Hides (registry : Registry) (kind : SlotKind) (ids : List TypeId) (inherited : SlotTarget) :
    Prop :=
  (∀ dunder ∈ kind.dunders, registry.firstBinding? dunder ids = some .none) ∨
    (∀ dunder ∈ kind.dunders, ∀ value, registry.firstBinding? dunder ids = some value →
      value = .none) ∧ inherited = .absent

/-- A slot resolves to a target along some types. The first of them that defines the slot decides:
it has a builtin operation, or it collects the first bindings along its own linearization over the
target that the slot resolves to behind it. It makes one override in a generation, in the first turn. -/
inductive ResolvesAlong (registry : Registry) (kind : SlotKind) : List TypeId → SlotTarget → Prop
  | undefined {ids : List TypeId} (isUndefined : registry.definer? kind ids = none) :
      ResolvesAlong registry kind ids .absent
  | builtin {ids : List TypeId} {definer : TypeId} {definition : TypeDefinition}
      {operation : Builtin} (isDefiner : registry.definer? kind ids = some definer)
      (found : registry.definition? definer = some definition)
      (bindsNothing : definition.binds kind = false)
      (hasOperation : definition.builtin? kind = some operation) :
      ResolvesAlong registry kind ids (.builtin operation)
  | hidden {ids : List TypeId} {definer : TypeId} {definition : TypeDefinition}
      {inherited : SlotTarget} (isDefiner : registry.definer? kind ids = some definer)
      (found : registry.definition? definer = some definition)
      (binds : definition.binds kind = true)
      (behind : ResolvesAlong registry kind definition.linearization.tail inherited)
      (hides : registry.Hides kind definition.linearization inherited) :
      ResolvesAlong registry kind ids .absent
  | override {ids : List TypeId} {definer : TypeId} {definition : TypeDefinition}
      {inherited : SlotTarget} (isDefiner : registry.definer? kind ids = some definer)
      (found : registry.definition? definer = some definition)
      (binds : definition.binds kind = true)
      (behind : ResolvesAlong registry kind definition.linearization.tail inherited)
      (shows : ¬ registry.Hides kind definition.linearization inherited) :
      ResolvesAlong registry kind ids
        (.override ⟨definer, kind, definition.generation, 0,
          registry.firstBindings kind definition.linearization⟩ inherited)

variable {registry before after : Registry} {kind : SlotKind}

/-! ### Definers and first bindings -/

theorem definer?_cons (id : TypeId) (ids : List TypeId) {definition : TypeDefinition}
    (found : registry.definition? id = some definition) :
    registry.definer? kind (id :: ids) =
      if definition.defines kind then some id else registry.definer? kind ids := by
  rw [definer?, List.find?_cons, found]
  cases isDefiner : definition.defines kind with
  | false => simp [definer?, isDefiner]
  | true => simp [isDefiner]

theorem defines_of_binds {definition : TypeDefinition} (binds : definition.binds kind = true) :
    definition.defines kind = true := by
  rw [TypeDefinition.defines, binds, Bool.or_true]

theorem defines_of_builtin? {definition : TypeDefinition} {operation : Builtin}
    (hasOperation : definition.builtin? kind = some operation) : definition.defines kind = true := by
  rw [TypeDefinition.defines, hasOperation, Option.isSome_some, Bool.true_or]

/-- A definer is one of the types, and it defines the slot. -/
theorem definer?_eq_some {ids : List TypeId} {definer : TypeId}
    (isDefiner : registry.definer? kind ids = some definer) :
    definer ∈ ids ∧ ∃ definition,
      registry.definition? definer = some definition ∧ definition.defines kind = true := by
  rw [definer?] at isDefiner
  have defines := List.find?_some isDefiner
  exact ⟨List.mem_of_find?_eq_some isDefiner, (Option.any_eq_true _ _).1 defines⟩

theorem firstBinding?_eq_none_of_subset {dunder : String} {ids fewer : List TypeId}
    (unbound : registry.firstBinding? dunder ids = none) (inside : fewer ⊆ ids) :
    registry.firstBinding? dunder fewer = none := by
  rw [firstBinding?, List.findSome?_eq_none_iff] at *
  exact fun id isMember => unbound id (inside isMember)

/-- A type that defines a slot is the definer of the slot along its linearization. -/
theorem WellFormed.definer?_of_defines (wellFormed : registry.WellFormed) {id : TypeId}
    {definition : TypeDefinition} (found : registry.definition? id = some definition)
    (defines : definition.defines kind = true) :
    registry.definer? kind definition.linearization = some id := by
  obtain ⟨order, isCons, _⟩ := wellFormed.linearization_eq_cons found
  rw [isCons, definer?_cons id order found, if_pos defines]

/-- The binding of a type itself comes first along its linearization. -/
theorem WellFormed.firstBinding?_of_own (wellFormed : registry.WellFormed) {id : TypeId}
    {definition : TypeDefinition} (found : registry.definition? id = some definition) {dunder : String}
    {value : Value} (isBound : definition.attributes.get? dunder = some value) :
    registry.firstBinding? dunder definition.linearization = some value := by
  obtain ⟨order, isCons, _⟩ := wellFormed.linearization_eq_cons found
  rw [isCons, firstBinding?, List.findSome?_cons, found, Option.bind_some, isBound]

theorem lookupAlong_eq_firstBinding? (dunder : String) {ids : List TypeId}
    (registered : ∀ id ∈ ids, ∃ definition, registry.definition? id = some definition) :
    registry.lookupAlong dunder ids = registry.firstBinding? dunder ids := by
  induction ids with
  | nil => rfl
  | cons id rest inductionHypothesis =>
      obtain ⟨definition, found⟩ := registered id (List.mem_cons_self ..)
      have others := inductionHypothesis fun other isOther =>
        registered other (List.mem_cons_of_mem id isOther)
      simp only [lookupAlong, firstBinding?, List.findSome?_cons, found, Option.bind_some]
      rw [others]
      cases definition.attributes.get? dunder with
      | none => rfl
      | some value => rfl

/-- The first bindings have the special methods of the kind and no other names. -/
theorem get?_firstBindings (dunder : String) (ids : List TypeId) :
    (registry.firstBindings kind ids).get? dunder =
      if dunder ∈ kind.dunders then registry.firstBinding? dunder ids else none := by
  simp only [firstBindings, Table.get?]
  induction kind.dunders with
  | nil => rfl
  | cons first rest inductionHypothesis =>
      rw [List.filterMap_cons]
      by_cases same : dunder = first
      · subst same
        cases isBound : registry.firstBinding? dunder ids with
        | none =>
            simp only [Option.map_none, inductionHypothesis, isBound]
            simp
        | some value => simp
      · have different : first ≠ dunder := fun equal => same equal.symm
        cases registry.firstBinding? first ids with
        | none => simpa [same] using inductionHypothesis
        | some value => simpa [same, different] using inductionHypothesis

/-! ### Overrides -/

theorem overrideMethods_eq_firstBindings {ids : List TypeId}
    (registered : ∀ id ∈ ids, ∃ definition, registry.definition? id = some definition) :
    registry.overrideMethods kind ids = registry.firstBindings kind ids := by
  simp only [overrideMethods, firstBindings, lookupAlong_eq_firstBinding? _ registered]

/-- An override binds a special method of its kind as the first binding says. -/
theorem binding_firstBindings (owner : TypeId) (generation turn : Nat) {ids : List TypeId}
    {dunder : String} (isMember : dunder ∈ kind.dunders) :
    (Override.mk owner kind generation turn (registry.firstBindings kind ids)).binding dunder =
      (registry.firstBinding? dunder ids).elim .inherited fun value =>
        if value.isNone then .blocked else .method value := by
  have isBound : (registry.firstBindings kind ids).get? dunder =
      registry.firstBinding? dunder ids := by
    rw [get?_firstBindings, if_pos isMember]
  cases isFirst : registry.firstBinding? dunder ids <;>
    simp [Override.binding, isBound, isFirst]

/-- An override leaves a special method of its kind to its inherited target exactly when nothing binds
it first. -/
theorem binding_firstBindings_eq_inherited_iff (owner : TypeId) (generation turn : Nat)
    {ids : List TypeId} {dunder : String} (isMember : dunder ∈ kind.dunders) :
    (Override.mk owner kind generation turn (registry.firstBindings kind ids)).binding dunder =
      .inherited ↔ registry.firstBinding? dunder ids = none := by
  rw [binding_firstBindings owner generation turn isMember]
  cases registry.firstBinding? dunder ids with
  | none => simp
  | some value =>
      rw [Option.elim_some]
      split <;> simp

theorem all_isBlocked_iff (registry : Registry) (kind : SlotKind) (owner : TypeId)
    (generation turn : Nat) (ids : List TypeId) :
    (kind.dunders.all fun dunder =>
      ((Override.mk owner kind generation turn (registry.firstBindings kind ids)).binding
        dunder).isBlocked) = true ↔
      ∀ dunder ∈ kind.dunders, registry.firstBinding? dunder ids = some .none := by
  rw [List.all_eq_true]
  refine forall_congr' fun dunder => forall_congr' fun isMember => ?_
  rw [binding_firstBindings owner generation turn isMember]
  cases registry.firstBinding? dunder ids with
  | none => simp [Binding.isBlocked]
  | some value => cases value <;> simp [Binding.isBlocked, Value.isNone]

theorem any_isMethod_iff (registry : Registry) (kind : SlotKind) (owner : TypeId)
    (generation turn : Nat) (ids : List TypeId) :
    (kind.dunders.any fun dunder =>
      ((Override.mk owner kind generation turn (registry.firstBindings kind ids)).binding
        dunder).isMethod) = false ↔
      ∀ dunder ∈ kind.dunders, ∀ value, registry.firstBinding? dunder ids = some value →
        value = .none := by
  rw [List.any_eq_false]
  refine forall_congr' fun dunder => forall_congr' fun isMember => ?_
  rw [binding_firstBindings owner generation turn isMember]
  cases registry.firstBinding? dunder ids with
  | none => simp [Binding.isMethod]
  | some value => cases value <;> simp [Binding.isMethod, Value.isNone]

theorem overrideTarget_eq_ite (owner : TypeId) (generation : Nat) (ids : List TypeId)
    (inherited : SlotTarget) :
    registry.overrideTarget owner kind generation ids inherited =
      let definition : Override := ⟨owner, kind, generation, registry.entries.turn owner generation,
        registry.overrideMethods kind ids⟩
      if kind.dunders.all fun dunder => (definition.binding dunder).isBlocked then .absent
      else if !(kind.dunders.any fun dunder => (definition.binding dunder).isMethod) &&
        inherited.isAbsent then .absent
      else .override definition inherited :=
  rfl

/-- A class hides or overrides a slot as its first bindings and its inherited target say. -/
theorem overrideTarget_eq (kind : SlotKind) (owner : TypeId) (generation : Nat) {ids : List TypeId}
    (inherited : SlotTarget)
    (registered : ∀ id ∈ ids, ∃ definition, registry.definition? id = some definition) :
    (registry.Hides kind ids inherited →
      registry.overrideTarget owner kind generation ids inherited = .absent) ∧
    (¬ registry.Hides kind ids inherited →
      registry.overrideTarget owner kind generation ids inherited =
        .override ⟨owner, kind, generation, registry.entries.turn owner generation,
          registry.firstBindings kind ids⟩ inherited) := by
  have allBlocked := all_isBlocked_iff registry kind owner generation
    (registry.entries.turn owner generation) ids
  have noneUsable := any_isMethod_iff registry kind owner generation
    (registry.entries.turn owner generation) ids
  have isAbsent : inherited.isAbsent = true ↔ inherited = .absent := by
    cases inherited <;> simp [SlotTarget.isAbsent]
  rw [overrideTarget_eq_ite, overrideMethods_eq_firstBindings registered]
  dsimp only
  constructor
  · rintro (blocked | ⟨unusable, noInherited⟩)
    · exact if_pos (allBlocked.2 blocked)
    · refine ite_eq_left_iff.2 fun _ => ?_
      rw [noneUsable.2 unusable, isAbsent.2 noInherited]
      rfl
  · intro shows
    refine (if_neg fun blocked => shows (.inl (allBlocked.1 blocked))).trans (if_neg fun hidden => ?_)
    rw [Bool.and_eq_true, Bool.not_eq_true'] at hidden
    exact shows (.inr ⟨noneUsable.1 hidden.1, isAbsent.1 hidden.2⟩)

/-! ### One target -/

/-- What a slot resolves to holds overrides and operations for the slot only. -/
theorem ResolvesAlong.fits {ids : List TypeId} {target : SlotTarget}
    (resolves : ResolvesAlong registry kind ids target) : target.Fits kind := by
  induction resolves with
  | undefined => trivial
  | builtin _ _ _ hasOperation =>
      have isOfKind := List.find?_some hasOperation
      simpa only [SlotTarget.Fits, decide_eq_true_eq] using isOfKind
  | hidden => trivial
  | override _ _ _ _ _ inductionHypothesis => exact ⟨rfl, inductionHypothesis⟩

/-- What a slot resolves to depends on the definer only. -/
theorem ResolvesAlong.of_definer? {ids others : List TypeId} {target : SlotTarget}
    (resolves : ResolvesAlong registry kind ids target)
    (same : registry.definer? kind others = registry.definer? kind ids) :
    ResolvesAlong registry kind others target := by
  cases resolves with
  | undefined isUndefined => exact .undefined (same.trans isUndefined)
  | builtin isDefiner found bindsNothing hasOperation =>
      exact .builtin (same.trans isDefiner) found bindsNothing hasOperation
  | hidden isDefiner found binds behind hides =>
      exact .hidden (same.trans isDefiner) found binds behind hides
  | override isDefiner found binds behind shows =>
      exact .override (same.trans isDefiner) found binds behind shows

/-- The definer of a slot decides what the slot resolves to. -/
theorem ResolvesAlong.cases_definer {ids : List TypeId} {target : SlotTarget} {definer : TypeId}
    {definition : TypeDefinition} (resolves : ResolvesAlong registry kind ids target)
    (isDefiner : registry.definer? kind ids = some definer)
    (found : registry.definition? definer = some definition) :
    (definition.binds kind = false ∧ (definition.builtin? kind).map .builtin = some target) ∨
      definition.binds kind = true ∧ ∃ inherited,
        ResolvesAlong registry kind definition.linearization.tail inherited ∧
          (registry.Hides kind definition.linearization inherited ∧ target = .absent ∨
            ¬ registry.Hides kind definition.linearization inherited ∧
              target = .override ⟨definer, kind, definition.generation, 0,
                registry.firstBindings kind definition.linearization⟩ inherited) := by
  cases resolves with
  | undefined isUndefined =>
      rw [isUndefined] at isDefiner
      cases isDefiner
  | builtin sameDefiner sameFound bindsNothing hasOperation =>
      obtain rfl := Option.some.inj (sameDefiner.symm.trans isDefiner)
      obtain rfl := Option.some.inj (sameFound.symm.trans found)
      rw [hasOperation]
      exact .inl ⟨bindsNothing, rfl⟩
  | hidden sameDefiner sameFound binds behind hides =>
      obtain rfl := Option.some.inj (sameDefiner.symm.trans isDefiner)
      obtain rfl := Option.some.inj (sameFound.symm.trans found)
      exact .inr ⟨binds, _, behind, .inl ⟨hides, rfl⟩⟩
  | override sameDefiner sameFound binds behind shows =>
      obtain rfl := Option.some.inj (sameDefiner.symm.trans isDefiner)
      obtain rfl := Option.some.inj (sameFound.symm.trans found)
      exact .inr ⟨binds, _, behind, .inr ⟨shows, rfl⟩⟩

/-- A slot resolves to at most one target. -/
theorem ResolvesAlong.unique {ids : List TypeId} {first second : SlotTarget}
    (left : ResolvesAlong registry kind ids first)
    (right : ResolvesAlong registry kind ids second) : first = second := by
  induction left generalizing second with
  | undefined isUndefined =>
      cases right with
      | undefined | hidden => rfl
      | builtin isDefiner | override isDefiner =>
          rw [isUndefined] at isDefiner
          cases isDefiner
  | builtin isDefiner found bindsNothing hasOperation =>
      rcases right.cases_definer isDefiner found with ⟨_, same⟩ | ⟨binds, _⟩
      · rw [hasOperation] at same
        exact Option.some.inj same
      · rw [bindsNothing] at binds
        cases binds
  | hidden isDefiner found binds _ hides inductionHypothesis =>
      rcases right.cases_definer isDefiner found with
        ⟨bindsNothing, _⟩ | ⟨_, inherited, behind, ⟨_, rfl⟩ | ⟨shows, _⟩⟩
      · rw [binds] at bindsNothing
        cases bindsNothing
      · rfl
      · exact absurd (inductionHypothesis behind ▸ hides) shows
  | override isDefiner found binds _ shows inductionHypothesis =>
      rcases right.cases_definer isDefiner found with
        ⟨bindsNothing, _⟩ | ⟨_, inherited, behind, ⟨hides, _⟩ | ⟨_, rfl⟩⟩
      · rw [binds] at bindsNothing
        cases bindsNothing
      · exact absurd (inductionHypothesis behind ▸ hides) shows
      · rw [inductionHypothesis behind]

/-! ### Registries that agree -/

theorem isSlotDunder_of_mem {dunder : String} (isMember : dunder ∈ kind.dunders) :
    SlotKind.isSlotDunder dunder = true :=
  List.any_eq_true.2 ⟨kind, kind.mem_all, by simpa using isMember⟩

section Agreement

variable {old new : TypeDefinition} (same : old.SameSlots new)

include same

theorem builtin?_of_sameSlots : new.builtin? kind = old.builtin? kind := by
  rw [TypeDefinition.builtin?, same.operations, TypeDefinition.builtin?]

theorem binds_of_sameSlots : new.binds kind = old.binds kind := by
  rw [Bool.eq_iff_iff, TypeDefinition.binds, TypeDefinition.binds, List.any_eq_true, List.any_eq_true]
  refine exists_congr fun dunder => and_congr_right fun isMember => ?_
  rw [Table.contains, same.dunders dunder (isSlotDunder_of_mem isMember), Table.contains]

theorem defines_of_sameSlots : new.defines kind = old.defines kind := by
  rw [TypeDefinition.defines, builtin?_of_sameSlots same, binds_of_sameSlots same,
    TypeDefinition.defines]

end Agreement

section Registered

variable {ids : List TypeId} (agree : AgreeOn before after ids)
  (registered : ∀ id ∈ ids, ∃ definition, before.definition? id = some definition)

include agree registered

theorem AgreeOn.definer? : after.definer? kind ids = before.definer? kind ids := by
  induction ids with
  | nil => rfl
  | cons id rest inductionHypothesis =>
      obtain ⟨old, found⟩ := registered id (List.mem_cons_self ..)
      obtain ⟨new, newFound, same⟩ := agree id (List.mem_cons_self ..) old found
      rw [definer?_cons id rest found, definer?_cons id rest newFound, defines_of_sameSlots same,
        inductionHypothesis (agree.mono (List.subset_cons_self id rest))
          fun other isOther => registered other (List.mem_cons_of_mem id isOther)]

theorem AgreeOn.firstBinding? {dunder : String} (isSlotDunder : SlotKind.isSlotDunder dunder = true) :
    after.firstBinding? dunder ids = before.firstBinding? dunder ids := by
  induction ids with
  | nil => rfl
  | cons id rest inductionHypothesis =>
      obtain ⟨old, found⟩ := registered id (List.mem_cons_self ..)
      obtain ⟨new, newFound, same⟩ := agree id (List.mem_cons_self ..) old found
      have others := inductionHypothesis (agree.mono (List.subset_cons_self id rest))
        fun other isOther => registered other (List.mem_cons_of_mem id isOther)
      simp only [Registry.firstBinding?] at others ⊢
      rw [List.findSome?_cons, List.findSome?_cons, found, newFound, Option.bind_some,
        Option.bind_some, same.dunders dunder isSlotDunder, others]

theorem AgreeOn.firstBindings : after.firstBindings kind ids = before.firstBindings kind ids := by
  rw [Registry.firstBindings, Registry.firstBindings]
  congr 1
  refine List.filterMap_congr fun dunder isMember => ?_
  rw [agree.firstBinding? registered (isSlotDunder_of_mem isMember)]

theorem AgreeOn.hides (inherited : SlotTarget) :
    after.Hides kind ids inherited ↔ before.Hides kind ids inherited := by
  have sameBinding : ∀ dunder ∈ kind.dunders,
      after.firstBinding? dunder ids = before.firstBinding? dunder ids := fun dunder isMember =>
    agree.firstBinding? registered (isSlotDunder_of_mem isMember)
  refine or_congr (forall₂_congr fun dunder isMember => ?_)
    (and_congr_left' (forall₂_congr fun dunder isMember => ?_)) <;>
    rw [sameBinding dunder isMember]

end Registered

/-- Registries that agree on the ancestors of a type resolve its slots alike. -/
theorem ResolvesAlong.of_agreeOn (wellFormed : before.WellFormed) {id : TypeId}
    {definition : TypeDefinition} (found : before.definition? id = some definition)
    (agree : AgreeOn before after definition.linearization) {ids : List TypeId} {target : SlotTarget}
    (resolves : ResolvesAlong before kind ids target) (inside : ids ⊆ definition.linearization) :
    ResolvesAlong after kind ids target := by
  have registered : ∀ {fewer : List TypeId}, fewer ⊆ definition.linearization →
      ∀ ancestor ∈ fewer, ∃ ancestorDefinition,
        before.definition? ancestor = some ancestorDefinition := fun fewer ancestor isAncestor =>
    wellFormed.ancestor_registered found (fewer isAncestor)
  have closed : ∀ {definer definerDefinition}, definer ∈ definition.linearization →
      before.definition? definer = some definerDefinition →
      definerDefinition.linearization ⊆ definition.linearization := fun isAncestor definerFound =>
    wellFormed.linearization_subset found definerFound isAncestor
  induction resolves with
  | undefined isUndefined =>
      exact .undefined (((agree.mono inside).definer? (registered inside)).trans isUndefined)
  | builtin isDefiner definerFound bindsNothing hasOperation =>
      obtain ⟨isMember, _⟩ := definer?_eq_some isDefiner
      obtain ⟨new, newFound, same⟩ := agree _ (inside isMember) _ definerFound
      exact .builtin (((agree.mono inside).definer? (registered inside)).trans isDefiner) newFound
        ((binds_of_sameSlots same).trans bindsNothing)
        ((builtin?_of_sameSlots same).trans hasOperation)
  | hidden isDefiner definerFound binds behind hides inductionHypothesis =>
      obtain ⟨isMember, _⟩ := definer?_eq_some isDefiner
      obtain ⟨new, newFound, same⟩ := agree _ (inside isMember) _ definerFound
      have kept := closed (inside isMember) definerFound
      have stillBehind := inductionHypothesis (fun _ isBehind => kept (List.mem_of_mem_tail isBehind))
      have stillHides := ((agree.mono kept).hides (registered kept) _).2 hides
      rw [← same.linearization] at stillBehind stillHides
      exact .hidden (((agree.mono inside).definer? (registered inside)).trans isDefiner) newFound
        ((binds_of_sameSlots same).trans binds) stillBehind stillHides
  | override isDefiner definerFound binds behind shows inductionHypothesis =>
      obtain ⟨isMember, _⟩ := definer?_eq_some isDefiner
      obtain ⟨new, newFound, same⟩ := agree _ (inside isMember) _ definerFound
      have kept := closed (inside isMember) definerFound
      have stillBehind := inductionHypothesis (fun _ isBehind => kept (List.mem_of_mem_tail isBehind))
      have stillShows := ((agree.mono kept).hides (registered kept) _).not.2 shows
      rw [← (agree.mono kept).firstBindings (registered kept), ← same.generation]
      rw [← same.linearization] at stillBehind stillShows ⊢
      exact .override (((agree.mono inside).definer? (registered inside)).trans isDefiner) newFound
        ((binds_of_sameSlots same).trans binds) stillBehind stillShows

end Registry

end SlotDispatch
