import SlotDispatch.Proofs.Type.Builtins
import SlotDispatch.Proofs.Type.Resolution
/-!
The special methods that slots reach. The main statements say that a slot reaches what the definer of
the slot provides, and that this is what the first type offers that knows the special method, if the
definers stand in one order in all linearizations.
-/

namespace SlotDispatch

/-- This is what a value provides for the special method that it is bound to. -/
def Reached.ofBound (value : Value) : Reached :=
  if value.isNone then .blocked else .method value

/-- A blocked special method runs as little as an absent one. -/
def Reached.effective : Reached → Reached
  | .blocked => .absent
  | reached => reached

/-- A type offers the value that it binds to a special method, or else its builtin operation of the
kind. -/
def TypeDefinition.offer? (definition : TypeDefinition) (kind : SlotKind) (dunder : String) :
    Option Reached :=
  match definition.attributes.get? dunder with
  | some value => some (.ofBound value)
  | none => (definition.builtin? kind).map .builtin

namespace Registry

/-- These are the types among some types that define a slot. -/
def definers (registry : Registry) (kind : SlotKind) (ids : List TypeId) : List TypeId :=
  ids.filter fun id => (registry.definition? id).any fun definition => definition.defines kind

/-- This is the first offer of some types for a special method. -/
def firstOffer (registry : Registry) (kind : SlotKind) (dunder : String) (ids : List TypeId) :
    Reached :=
  (ids.findSome? fun id =>
    (registry.definition? id).bind fun definition => definition.offer? kind dunder).getD .absent

/-- A definer that binds the slot provides the first binding along its own linearization, and every
other definer provides its builtin operation. -/
def provision? (registry : Registry) (kind : SlotKind) (dunder : String)
    (definition : TypeDefinition) : Option Reached :=
  if definition.binds kind then
    (registry.firstBinding? dunder definition.linearization).map .ofBound
  else (definition.builtin? kind).map .builtin

/-- Some types provide a special method when the first of them that defines its slot does. What a
definer does not provide is provided behind it in its own linearization. -/
inductive ProvidesAlong (registry : Registry) (kind : SlotKind) (dunder : String) :
    List TypeId → Reached → Prop
  | undefined {ids : List TypeId} (isUndefined : registry.definer? kind ids = none) :
      ProvidesAlong registry kind dunder ids .absent
  | provided {ids : List TypeId} {definer : TypeId} {definition : TypeDefinition} {reached : Reached}
      (isDefiner : registry.definer? kind ids = some definer)
      (found : registry.definition? definer = some definition)
      (isProvision : registry.provision? kind dunder definition = some reached) :
      ProvidesAlong registry kind dunder ids reached
  | behind {ids : List TypeId} {definer : TypeId} {definition : TypeDefinition} {reached : Reached}
      (isDefiner : registry.definer? kind ids = some definer)
      (found : registry.definition? definer = some definition)
      (noProvision : registry.provision? kind dunder definition = none)
      (isBehind : ProvidesAlong registry kind dunder definition.linearization.tail reached) :
      ProvidesAlong registry kind dunder ids reached

/-- The definers of a slot stand in order when the definers along the linearization of each of them
are the definer itself and those that follow it. -/
def DefinersInOrder (registry : Registry) (kind : SlotKind) (ids : List TypeId) : Prop :=
  ∀ earlier definer later definition, registry.definers kind ids = earlier ++ definer :: later →
    registry.definition? definer = some definition →
      registry.definers kind definition.linearization = definer :: later

/-- Some types inherit singly when none of them has more than one base. -/
def InheritSingly (registry : Registry) (ids : List TypeId) : Prop :=
  ∀ id ∈ ids, ∀ definition, registry.definition? id = some definition →
    definition.bases.length ≤ 1

variable {registry : Registry} {kind : SlotKind} {dunder : String}

/-! ### One provision -/

/-- The definer of a slot provides a special method, or it is provided behind the definer. -/
theorem ProvidesAlong.cases_definer {ids : List TypeId} {reached : Reached} {definer : TypeId}
    {definition : TypeDefinition} (provides : ProvidesAlong registry kind dunder ids reached)
    (isDefiner : registry.definer? kind ids = some definer)
    (found : registry.definition? definer = some definition) :
    registry.provision? kind dunder definition = some reached ∨
      registry.provision? kind dunder definition = none ∧
        ProvidesAlong registry kind dunder definition.linearization.tail reached := by
  cases provides with
  | undefined isUndefined =>
      rw [isUndefined] at isDefiner
      cases isDefiner
  | provided sameDefiner sameFound isProvision =>
      obtain rfl := Option.some.inj (sameDefiner.symm.trans isDefiner)
      obtain rfl := Option.some.inj (sameFound.symm.trans found)
      exact .inl isProvision
  | behind sameDefiner sameFound noProvision isBehind =>
      obtain rfl := Option.some.inj (sameDefiner.symm.trans isDefiner)
      obtain rfl := Option.some.inj (sameFound.symm.trans found)
      exact .inr ⟨noProvision, isBehind⟩

/-- Some types provide at most one implementation. -/
theorem ProvidesAlong.unique {ids : List TypeId} {first second : Reached}
    (left : ProvidesAlong registry kind dunder ids first)
    (right : ProvidesAlong registry kind dunder ids second) : first = second := by
  induction left generalizing second with
  | undefined isUndefined =>
      cases right with
      | undefined => rfl
      | provided isDefiner | behind isDefiner =>
          rw [isUndefined] at isDefiner
          cases isDefiner
  | provided isDefiner found isProvision =>
      rcases right.cases_definer isDefiner found with same | ⟨noProvision, _⟩
      · exact Option.some.inj (isProvision.symm.trans same)
      · rw [isProvision] at noProvision
        cases noProvision
  | behind isDefiner found noProvision _ inductionHypothesis =>
      rcases right.cases_definer isDefiner found with isProvision | ⟨_, isBehind⟩
      · rw [noProvision] at isProvision
        cases isProvision
      · exact inductionHypothesis isBehind

/-! ### Slots reach what is provided -/

theorem provision?_of_binds {definition : TypeDefinition} (binds : definition.binds kind = true) :
    registry.provision? kind dunder definition =
      (registry.firstBinding? dunder definition.linearization).map .ofBound := by
  rw [provision?, if_pos binds]

theorem provision?_of_builtin {definition : TypeDefinition}
    (bindsNothing : definition.binds kind = false) :
    registry.provision? kind dunder definition = (definition.builtin? kind).map .builtin := by
  rw [provision?, bindsNothing]
  rfl

/-- A slot reaches what the types provide along which it resolves. -/
theorem ResolvesAlong.provides {ids : List TypeId} {target : SlotTarget}
    (resolves : ResolvesAlong registry kind ids target) (isMember : dunder ∈ kind.dunders) :
    ∃ reached, ProvidesAlong registry kind dunder ids reached ∧
      reached.effective = (target.reach dunder).effective := by
  induction resolves with
  | undefined isUndefined => exact ⟨.absent, .undefined isUndefined, rfl⟩
  | @builtin _ _ _ operation isDefiner found bindsNothing hasOperation =>
      refine ⟨.builtin operation, .provided isDefiner found ?_, rfl⟩
      rw [provision?_of_builtin bindsNothing, hasOperation]
      rfl
  | @hidden _ _ definition inherited isDefiner found binds _ hides inductionHypothesis =>
      cases isFirst : registry.firstBinding? dunder definition.linearization with
      | some value =>
          have isNone : value = .none := by
            rcases hides with allBlocked | ⟨unusable, _⟩
            · exact Option.some.inj (isFirst.symm.trans (allBlocked dunder isMember))
            · exact unusable dunder isMember value isFirst
          refine ⟨.ofBound value, .provided isDefiner found ?_, ?_⟩
          · rw [provision?_of_binds binds, isFirst]
            rfl
          · rw [isNone]
            rfl
      | none =>
          have isAbsent : inherited = .absent := by
            rcases hides with allBlocked | ⟨_, isAbsent⟩
            · cases isFirst.symm.trans (allBlocked dunder isMember)
            · exact isAbsent
          obtain ⟨reached, provides, same⟩ := inductionHypothesis
          refine ⟨reached, .behind isDefiner found ?_ provides, ?_⟩
          · rw [provision?_of_binds binds, isFirst]
            rfl
          · rw [same, isAbsent]
  | @override _ definer definition _ isDefiner found binds _ _ inductionHypothesis =>
      rw [SlotTarget.reach, binding_firstBindings definer definition.generation 0 isMember]
      cases isFirst : registry.firstBinding? dunder definition.linearization with
      | some value =>
          refine ⟨.ofBound value, .provided isDefiner found ?_, ?_⟩
          · rw [provision?_of_binds binds, isFirst]
            rfl
          · rw [Option.elim_some, Reached.ofBound]
            cases value.isNone <;> rfl
      | none =>
          obtain ⟨reached, provides, same⟩ := inductionHypothesis
          refine ⟨reached, .behind isDefiner found ?_ provides, same⟩
          rw [provision?_of_binds binds, isFirst]
          rfl

/-! ### Definers in order -/

theorem findSome?_filter {Item Result : Type} {test : Item → Bool} {find : Item → Option Result}
    (items : List Item) (isTested : ∀ item result, find item = some result → test item = true) :
    (items.filter test).findSome? find = items.findSome? find := by
  induction items with
  | nil => rfl
  | cons item rest inductionHypothesis =>
      rw [List.filter_cons, List.findSome?_cons]
      cases isFound : find item with
      | some result =>
          rw [if_pos (isTested item result isFound), List.findSome?_cons, isFound]
      | none =>
          split
          · rw [List.findSome?_cons, isFound, inductionHypothesis]
          · exact inductionHypothesis

theorem definer?_eq_head? (ids : List TypeId) :
    registry.definer? kind ids = (registry.definers kind ids).head? := by
  rw [definers, List.head?_filter, definer?]

theorem definers_cons (id : TypeId) (ids : List TypeId) {definition : TypeDefinition}
    (found : registry.definition? id = some definition) :
    registry.definers kind (id :: ids) =
      if definition.defines kind then id :: registry.definers kind ids
      else registry.definers kind ids := by
  rw [definers, List.filter_cons, found, Option.any_some]
  rfl

theorem binds_of_get? {definition : TypeDefinition} (isMember : dunder ∈ kind.dunders)
    {value : Value} (isBound : definition.attributes.get? dunder = some value) :
    definition.binds kind = true :=
  List.any_eq_true.2 ⟨dunder, isMember, by rw [Table.contains, isBound]; rfl⟩

/-- Only definers bind the special methods of a slot. -/
theorem firstBinding?_definers (isMember : dunder ∈ kind.dunders) (ids : List TypeId) :
    registry.firstBinding? dunder (registry.definers kind ids) =
      registry.firstBinding? dunder ids := by
  refine findSome?_filter ids fun id value isBound => ?_
  obtain ⟨definition, found, isBound⟩ := Option.bind_eq_some_iff.1 isBound
  rw [found, Option.any_some, TypeDefinition.defines, binds_of_get? isMember isBound, Bool.or_true]

/-- Only definers offer anything for the special methods of a slot. -/
theorem firstOffer_definers (isMember : dunder ∈ kind.dunders) (ids : List TypeId) :
    registry.firstOffer kind dunder (registry.definers kind ids) =
      registry.firstOffer kind dunder ids := by
  refine congrArg (fun reached? : Option Reached => reached?.getD .absent)
    (findSome?_filter ids fun id reached isOffer => ?_)
  obtain ⟨definition, found, isOffer⟩ := Option.bind_eq_some_iff.1 isOffer
  rw [found, Option.any_some, TypeDefinition.defines, Bool.or_eq_true]
  rw [TypeDefinition.offer?] at isOffer
  split at isOffer
  · rename_i isBound
    exact .inr (binds_of_get? isMember isBound)
  · obtain ⟨operation, hasOperation, _⟩ := Option.map_eq_some_iff.1 isOffer
    exact .inl (Option.isSome_iff_exists.2 ⟨operation, hasOperation⟩)

theorem firstOffer_cons (id : TypeId) (ids : List TypeId) {definition : TypeDefinition}
    (found : registry.definition? id = some definition) :
    registry.firstOffer kind dunder (id :: ids) =
      (definition.offer? kind dunder).getD (registry.firstOffer kind dunder ids) := by
  rw [firstOffer, List.findSome?_cons, found, Option.bind_some]
  cases definition.offer? kind dunder <;> rfl

theorem offer?_of_get?_eq_none {definition : TypeDefinition}
    (isUnbound : definition.attributes.get? dunder = none) :
    definition.offer? kind dunder = (definition.builtin? kind).map .builtin := by
  rw [TypeDefinition.offer?, isUnbound]

section Ordered

variable (wellFormed : registry.WellFormed) (keepsBuiltins : registry.KeepsBuiltins)

include wellFormed keepsBuiltins

/-- Definers in order have no builtin operation before a bound special method. -/
theorem firstOffer_of_firstBinding? {ids : List TypeId}
    (inOrder : ∀ earlier definer later definition, ids = earlier ++ definer :: later →
      registry.definition? definer = some definition →
        registry.definers kind definition.linearization = definer :: later) {value : Value}
    (isFirst : registry.firstBinding? dunder ids = some value) :
    registry.firstOffer kind dunder ids = .ofBound value := by
  induction ids with
  | nil => cases isFirst
  | cons id rest inductionHypothesis =>
      have isOffer := inductionHypothesis fun earlier definer later definition isSplit =>
        inOrder (id :: earlier) definer later definition (by rw [isSplit]; rfl)
      rw [firstBinding?, List.findSome?_cons] at isFirst
      cases found : registry.definition? id with
      | none =>
          rw [found] at isFirst
          rw [← isOffer isFirst, firstOffer, List.findSome?_cons, found]
          rfl
      | some definition =>
          rw [found, Option.bind_some] at isFirst
          rw [firstOffer_cons id rest found]
          cases isBound : definition.attributes.get? dunder with
          | some other =>
              rw [isBound] at isFirst
              rw [TypeDefinition.offer?, isBound, Option.some.inj isFirst]
              rfl
          | none =>
              rw [isBound] at isFirst
              rw [offer?_of_get?_eq_none isBound]
              cases hasOperation : definition.builtin? kind with
              | none => exact isOffer isFirst
              | some operation =>
                  obtain ⟨binder, isLater, isBinder⟩ := List.exists_of_findSome?_eq_some isFirst
                  obtain ⟨binderDefinition, binderFound, isBinder⟩ :=
                    Option.bind_eq_some_iff.1 isBinder
                  have sameOrder := inOrder [] id rest definition rfl found
                  have isAncestor : binder ∈ definition.linearization :=
                    (List.mem_filter.1 (sameOrder ▸ List.mem_cons_of_mem id isLater)).1
                  rw [keepsBuiltins.attributes_of_ancestor found wellFormed hasOperation isAncestor
                    binderFound] at isBinder
                  cases isBinder

/-- A definer that provides nothing offers nothing. -/
theorem offer?_of_provision?_eq_none {id : TypeId} {definition : TypeDefinition}
    (found : registry.definition? id = some definition) (isDefined : definition.defines kind = true)
    (noProvision : registry.provision? kind dunder definition = none) :
    definition.offer? kind dunder = none := by
  obtain ⟨tail, isCons, _⟩ := wellFormed.linearization_eq_cons found
  cases binds : definition.binds kind with
  | false =>
      rw [provision?_of_builtin binds, Option.map_eq_none_iff] at noProvision
      rw [TypeDefinition.defines, noProvision, binds] at isDefined
      cases isDefined
  | true =>
      rw [provision?_of_binds binds, Option.map_eq_none_iff, isCons, firstBinding?,
        List.findSome?_cons, found, Option.bind_some] at noProvision
      cases isBound : definition.attributes.get? dunder with
      | some value =>
          rw [isBound] at noProvision
          cases noProvision
      | none =>
          rw [offer?_of_get?_eq_none isBound, Option.map_eq_none_iff]
          by_contra hasOperation
          obtain ⟨operation, hasOperation⟩ := Option.ne_none_iff_exists'.1 hasOperation
          rw [TypeDefinition.binds, keepsBuiltins.attributes_of_builtin? found hasOperation,
            List.any_eq_true] at binds
          obtain ⟨other, _, isContained⟩ := binds
          cases isContained

/-- Types whose definers stand in order provide the first offer. -/
theorem ProvidesAlong.eq_firstOffer (isMember : dunder ∈ kind.dunders) {ids : List TypeId}
    {reached : Reached} (provides : ProvidesAlong registry kind dunder ids reached)
    (inOrder : registry.DefinersInOrder kind ids) :
    reached = registry.firstOffer kind dunder ids := by
  induction provides with
  | undefined isUndefined =>
      rw [definer?_eq_head?, List.head?_eq_none_iff] at isUndefined
      rw [← firstOffer_definers isMember, isUndefined]
      rfl
  | @provided ids definer definition reached isDefiner found isProvision =>
      rw [definer?_eq_head?, List.head?_eq_some_iff] at isDefiner
      obtain ⟨later, isSplit⟩ := isDefiner
      have sameOrder := inOrder [] definer later definition isSplit found
      rw [← firstOffer_definers isMember]
      cases binds : definition.binds kind with
      | true =>
          rw [provision?_of_binds binds] at isProvision
          obtain ⟨value, isFirst, rfl⟩ := Option.map_eq_some_iff.1 isProvision
          rw [← firstBinding?_definers isMember, sameOrder, ← isSplit] at isFirst
          exact (firstOffer_of_firstBinding? wellFormed keepsBuiltins inOrder isFirst).symm
      | false =>
          rw [provision?_of_builtin binds] at isProvision
          rw [isSplit, firstOffer_cons definer later found, offer?_of_get?_eq_none, isProvision]
          · rfl
          · by_contra isBound
            obtain ⟨value, isBound⟩ := Option.ne_none_iff_exists'.1 isBound
            rw [binds_of_get? isMember isBound] at binds
            cases binds
  | @behind ids definer definition reached isDefiner found noProvision _ inductionHypothesis =>
      obtain ⟨_, _, sameFound, isDefined⟩ := definer?_eq_some isDefiner
      obtain rfl := Option.some.inj (found.symm.trans sameFound)
      rw [definer?_eq_head?, List.head?_eq_some_iff] at isDefiner
      obtain ⟨later, isSplit⟩ := isDefiner
      have sameOrder := inOrder [] definer later definition isSplit found
      obtain ⟨tail, isCons, _⟩ := wellFormed.linearization_eq_cons found
      rw [isCons, List.tail_cons] at inductionHypothesis
      rw [isCons, definers_cons definer tail found, if_pos isDefined, List.cons.injEq] at sameOrder
      have tailInOrder : registry.DefinersInOrder kind tail := by
        intro earlier next after nextDefinition isTailSplit
        rw [sameOrder.2] at isTailSplit
        refine inOrder (definer :: earlier) next after nextDefinition ?_
        rw [isSplit, isTailSplit, List.cons_append]
      rw [inductionHypothesis tailInOrder, ← firstOffer_definers isMember tail, sameOrder.2,
        ← firstOffer_definers isMember ids, isSplit, firstOffer_cons definer later found,
        offer?_of_provision?_eq_none wellFormed keepsBuiltins found isDefined noProvision]
      rfl

end Ordered

/-! ### Single inheritance -/

/-- The linearization of a type with at most one base goes on as that of the base. -/
theorem WellFormed.linearization_of_single (wellFormed : registry.WellFormed) {id : TypeId}
    {definition : TypeDefinition} (found : registry.definition? id = some definition)
    (isSingle : definition.bases.length ≤ 1) :
    definition.linearization = [id] ∨ ∃ base ∈ definition.bases, ∃ baseDefinition,
      registry.definition? base = some baseDefinition ∧
        definition.linearization = id :: baseDefinition.linearization := by
  have isLinearized := wellFormed.linearized found
  match areBases : definition.bases, isSingle with
  | [], _ =>
      rw [areBases] at isLinearized
      exact .inl (Except.ok.inj (isLinearized.symm.trans (linearize_nil id)))
  | [base], _ =>
      have isBase : base ∈ definition.bases := areBases ▸ List.mem_singleton_self base
      obtain ⟨baseDefinition, baseFound, _⟩ := wellFormed.basesOpen found base isBase
      obtain ⟨order, isCons, _⟩ := wellFormed.linearization_eq_cons baseFound
      have nodup := wellFormed.linearization_nodup baseFound
      rw [areBases, withLinearizations, List.map_singleton,
        linearizationOf_of_definition? baseFound, isCons] at isLinearized
      rw [isCons] at nodup
      refine .inr ⟨base, List.mem_singleton_self base, baseDefinition, baseFound, ?_⟩
      rw [isCons]
      exact Except.ok.inj (isLinearized.symm.trans (linearize_single id base nodup))

/-- A type in front of others whose definers stand in order keeps them in order. -/
theorem DefinersInOrder.cons {id : TypeId} {definition : TypeDefinition} {tail : List TypeId}
    (found : registry.definition? id = some definition)
    (isCons : definition.linearization = id :: tail)
    (inOrder : registry.DefinersInOrder kind tail) : registry.DefinersInOrder kind (id :: tail) := by
  intro earlier definer later definerDefinition isSplit definerFound
  rw [definers_cons id tail found] at isSplit
  split at isSplit
  · rename_i isDefined
    cases earlier with
    | nil =>
        cases isSplit
        obtain rfl := Option.some.inj (found.symm.trans definerFound)
        rw [isCons, definers_cons id tail found, if_pos isDefined]
    | cons first earlier =>
        exact inOrder earlier definer later definerDefinition (List.cons.inj isSplit).2 definerFound
  · exact inOrder earlier definer later definerDefinition isSplit definerFound

/-- The definers stand in order when all ancestors inherit singly. -/
theorem WellFormed.definersInOrder (wellFormed : registry.WellFormed) {id : TypeId}
    {definition : TypeDefinition} (found : registry.definition? id = some definition)
    (isSingle : registry.InheritSingly definition.linearization) :
    registry.DefinersInOrder kind definition.linearization := by
  induction id, definition, found using wellFormed.induction with
  | step id definition found inductionHypothesis =>
      have isItselfSingle := isSingle id (wellFormed.self_mem_linearization found) definition found
      rcases wellFormed.linearization_of_single found isItselfSingle with
        isAlone | ⟨base, isBase, baseDefinition, baseFound, isCons⟩
      · rw [isAlone]
        refine .cons found isAlone fun earlier definer later _ isSplit => ?_
        cases earlier <;> cases isSplit
      · rw [isCons]
        refine .cons found isCons (inductionHypothesis base isBase baseDefinition baseFound ?_)
        intro ancestor isAncestor
        exact isSingle ancestor (isCons ▸ List.mem_cons_of_mem id isAncestor)

end Registry

end SlotDispatch
