import SlotDispatch.Proofs.Type.Coherence
/-!
The rebuilding of slot entries. A type that has no current entry asks other types for theirs. The main
statement says that the search for an entry is the same without a bound on its depth when a type may ask
only registered types in its linearization that have shorter linearizations than its own.
-/

namespace SlotDispatch.Registry

open SlotDispatch.Action

/-! ### Types that may be asked -/

/-- A type may ask another registered type in its linearization that has a shorter linearization. -/
@[mk_iff]
structure MayAsk (registry : Registry) (id asked : TypeId) : Prop where
  isRegistered : (registry.definition? asked).isSome
  isOther : asked ≠ id
  isAncestor : asked ∈ registry.linearizationOf id
  isShorter : (registry.linearizationOf asked).length < (registry.linearizationOf id).length

instance (registry : Registry) (id asked : TypeId) : Decidable (registry.MayAsk id asked) :=
  decidable_of_iff _ (mayAsk_iff registry id asked).symm

/-- Behind itself a type has only types that it may ask. -/
theorem WellFormed.mayAsk {registry : Registry} (wellFormed : registry.WellFormed) {id asked : TypeId}
    {definition : TypeDefinition} (found : registry.definition? id = some definition)
    (isBehind : asked ∈ definition.linearization.tail) : registry.MayAsk id asked := by
  obtain ⟨isAncestor, isOther⟩ := wellFormed.tail_spec found isBehind
  obtain ⟨ancestorDefinition, ancestorFound⟩ := wellFormed.ancestor_registered found isAncestor
  refine ⟨by rw [ancestorFound, Option.isSome_some], isOther, ?_, ?_⟩
  · rwa [linearizationOf_of_definition? found]
  · rw [linearizationOf_of_definition? found, linearizationOf_of_definition? ancestorFound]
    exact wellFormed.length_ancestor_lt found ancestorFound isAncestor isOther

/-! ### One search -/

/-- A search for an entry gives the kept entry, or it makes a new one and finds the entries of other
types with a function. -/
def entryBy (entryOf : TypeId → Action Registry SlotEntry) (id : TypeId) : Action Registry SlotEntry := do
  let registry ← current
  let definition ← ofExcept (registry.require id)
  match registry.kept? id definition with
  | some entry => return entry
  | none => rebuildEntry entryOf id definition

theorem entryWithin_succ (depth : Nat) (id : TypeId) :
    entryWithin (depth + 1) id = entryBy (entryWithin depth) id :=
  rfl

/-- This search has no bound on its depth. It has no outcome when a type asks one that it may not ask. -/
def entryAmong (registry : Registry) (id : TypeId) : Action Registry SlotEntry :=
  entryBy (fun asked =>
    if _ : registry.MayAsk id asked then entryAmong registry asked else exhausted) id
termination_by (registry.linearizationOf id).length
decreasing_by exact MayAsk.isShorter ‹_›

/-! ### Definitions that stay -/

/-- An action keeps the definitions of every registry, whatever its outcome is. -/
def KeepsDefinitions {Result : Type} (action : Action Registry Result) : Prop :=
  Follows (fun before after => after.definitions = before.definitions) action

namespace KeepsDefinitions

variable {Result Next : Type}

theorem pure (result : Result) : KeepsDefinitions (Pure.pure result : Action Registry Result) :=
  Follows.pure (fun registry => Eq.refl registry.definitions) result

theorem ofExcept (outcome : Except Error Result) :
    KeepsDefinitions (Action.ofExcept outcome : Action Registry Result) :=
  Follows.ofExcept (fun registry => Eq.refl registry.definitions) outcome

theorem bind {first : Action Registry Result} {second : Result → Action Registry Next}
    (keeps : KeepsDefinitions first) (keepsLater : ∀ result, KeepsDefinitions (second result)) :
    KeepsDefinitions (first >>= second) :=
  Follows.bind (fun earlier later => later.trans earlier) keeps keepsLater

theorem keep (id : TypeId) (entry : SlotEntry) :
    KeepsDefinitions (Action.change fun registry : Registry =>
      { registry with entries := registry.entries.keep id entry }) := by
  intro registry outcome next isOutcome
  obtain ⟨_, rfl⟩ := Prod.mk.inj (Option.some.inj isOutcome)
  rfl

end KeepsDefinitions

section Reading

variable {entryOf : TypeId → Action Registry SlotEntry} (keeps : ∀ id, KeepsDefinitions (entryOf id))

include keeps

theorem keepsDefinitions_slotTarget (registry : Registry) (id : TypeId) (definition : TypeDefinition)
    (kind : SlotKind) : KeepsDefinitions (slotTarget entryOf registry id definition kind) := by
  have inherited :
      KeepsDefinitions (inheritedTarget entryOf registry kind definition.linearization.tail) := by
    rw [inheritedTarget]
    cases registry.definer? kind definition.linearization.tail with
    | none => exact .pure _
    | some definer => exact (keeps definer).bind fun _ => .pure _
  rw [slotTarget]
  split
  · exact inherited.bind fun _ => .pure _
  · split
    · exact .pure _
    · exact inherited

theorem keepsDefinitions_slotTargets (registry : Registry) (id : TypeId)
    (definition : TypeDefinition) (kinds : List SlotKind) :
    KeepsDefinitions (slotTargets entryOf registry id definition kinds) := by
  induction kinds with
  | nil => exact .pure _
  | cons kind kinds inductionHypothesis =>
      rw [slotTargets]
      exact (keepsDefinitions_slotTarget keeps registry id definition kind).bind fun _ =>
        inductionHypothesis.bind fun _ => .pure _

theorem keepsDefinitions_rebuildEntry (id : TypeId) (definition : TypeDefinition) :
    KeepsDefinitions (rebuildEntry entryOf id definition) := by
  rw [rebuildEntry]
  refine Follows.current_bind fun registry => KeepsDefinitions.bind (.ofExcept _) fun _ => ?_
  refine (keepsDefinitions_slotTargets keeps registry id definition SlotKind.all).bind fun _ => ?_
  exact (KeepsDefinitions.keep id _).bind fun _ => .pure _

end Reading

theorem keepsDefinitions_entryWithin (depth : Nat) (id : TypeId) :
    KeepsDefinitions (entryWithin depth id) := by
  induction depth generalizing id with
  | zero =>
      intro registry outcome next isOutcome
      cases isOutcome
  | succ depth inductionHypothesis =>
      rw [entryWithin]
      refine Follows.current_bind fun registry => KeepsDefinitions.bind (.ofExcept _) fun _ => ?_
      split
      · exact .pure _
      · exact keepsDefinitions_rebuildEntry inductionHypothesis id _

/-- No entry is found or made with a change of a definition. -/
theorem keepsDefinitions_entryOf (id : TypeId) : KeepsDefinitions (entryOf id) :=
  fun registry => keepsDefinitions_entryWithin registry.definitions.length id registry

/-! ### Searches that find the same -/

/-- Two actions find the same over some definitions when both succeed with one result in every registry
that has these definitions, whatever entries it keeps, and leave one registry that has them. -/
def FindAlike {Result : Type} (definitions : List TypeDefinition)
    (action other : Action Registry Result) : Prop :=
  ∀ state : Registry, state.definitions = definitions →
    action.Succeeds state fun result next =>
      other state = some (.ok result, next) ∧ next.definitions = definitions

namespace FindAlike

variable {Result Next : Type} {definitions : List TypeDefinition}

theorem pure (result : Result) :
    FindAlike definitions (Pure.pure result) (Pure.pure result : Action Registry Result) :=
  fun _ same => .pure ⟨rfl, same⟩

theorem bind {first second : Action Registry Result} {next other : Result → Action Registry Next}
    (alike : FindAlike definitions first second)
    (alikeLater : ∀ result, FindAlike definitions (next result) (other result)) :
    FindAlike definitions (first >>= next) (second >>= other) := by
  intro state same
  refine (alike state same).bind fun result middle ⟨isSecond, stillSame⟩ => ?_
  refine (alikeLater result middle stillSame).mono fun _ _ ⟨isOther, isEnd⟩ => ⟨?_, isEnd⟩
  rw [bind_apply, isSecond]
  exact isOther

theorem current_bind {action other : Registry → Action Registry Result}
    (alike : ∀ registry : Registry, registry.definitions = definitions →
      FindAlike definitions (action registry) (other registry)) :
    FindAlike definitions (current >>= action) (current >>= other) :=
  fun state same => .current_bind (alike state same state same)

theorem keep (id : TypeId) (entry : SlotEntry) :
    FindAlike definitions
      (Action.change fun registry : Registry =>
        { registry with entries := registry.entries.keep id entry })
      (Action.change fun registry => { registry with entries := registry.entries.keep id entry }) :=
  fun _ same => ⟨(), _, rfl, rfl, same⟩

end FindAlike

section Rebuild

variable {definitions : List TypeDefinition} {first second : TypeId → Action Registry SlotEntry}

theorem findAlike_inheritedTarget (registry : Registry) (kind : SlotKind) {ancestors : List TypeId}
    (alike : ∀ ancestor ∈ ancestors, FindAlike definitions (first ancestor) (second ancestor)) :
    FindAlike definitions (inheritedTarget first registry kind ancestors)
      (inheritedTarget second registry kind ancestors) := by
  unfold inheritedTarget
  cases isDefiner : registry.definer? kind ancestors with
  | none => exact .pure _
  | some definer =>
      exact (alike definer (definer?_eq_some isDefiner).1).bind fun _ => .pure _

variable {id : TypeId} {definition : TypeDefinition}
  (alike : ∀ ancestor ∈ definition.linearization.tail,
    FindAlike definitions (first ancestor) (second ancestor))

include alike

theorem findAlike_slotTarget (registry : Registry) (kind : SlotKind) :
    FindAlike definitions (slotTarget first registry id definition kind)
      (slotTarget second registry id definition kind) := by
  have inherited := findAlike_inheritedTarget registry kind alike
  unfold slotTarget
  split
  · exact inherited.bind fun _ => .pure _
  · split
    · exact .pure _
    · exact inherited

theorem findAlike_slotTargets (registry : Registry) (kinds : List SlotKind) :
    FindAlike definitions (slotTargets first registry id definition kinds)
      (slotTargets second registry id definition kinds) := by
  induction kinds with
  | nil => exact .pure _
  | cons kind kinds inductionHypothesis =>
      unfold slotTargets
      exact (findAlike_slotTarget alike registry kind).bind fun _ =>
        inductionHypothesis.bind fun _ => .pure _

variable {registry : Registry} (wellFormed : registry.WellFormed)
  (found : registry.definition? id = some definition)
  (isOver : registry.definitions = definitions)

include wellFormed found isOver

theorem findAlike_rebuildEntry :
    FindAlike definitions (rebuildEntry first id definition) (rebuildEntry second id definition) := by
  unfold rebuildEntry
  refine .current_bind fun state same => ?_
  have registered : state.requireAll definition.linearization.tail = .ok () := by
    refine requireAll_ok fun ancestor isBehind => ?_
    rw [Registry.definition?, same, ← isOver]
    exact wellFormed.ancestor_registered found (List.mem_of_mem_tail isBehind)
  rw [registered]
  refine FindAlike.bind (.pure ()) fun _ => ?_
  refine (findAlike_slotTargets alike state SlotKind.all).bind fun _ => ?_
  exact (FindAlike.keep id _).bind fun _ => .pure _

/-- Two searches for an entry find the same when they find the same for all ancestors. -/
theorem findAlike_entryBy : FindAlike definitions (entryBy first id) (entryBy second id) := by
  refine .current_bind fun state same => ?_
  have isFound : state.require id = .ok definition :=
    require_eq_ok_iff.2 (by rwa [Registry.definition?, same, ← isOver])
  rw [isFound]
  change FindAlike definitions (match state.kept? id definition with
    | some entry => pure entry
    | none => rebuildEntry first id definition) (match state.kept? id definition with
    | some entry => pure entry
    | none => rebuildEntry second id definition)
  cases state.kept? id definition with
  | some entry => exact .pure entry
  | none => exact findAlike_rebuildEntry alike wellFormed found isOver

end Rebuild

/-! ### Searches without a bound -/

variable {registry : Registry} {id : TypeId} {definition : TypeDefinition}

/-- A search with a depth that is not smaller than the linearization of the type finds the same as the one
that has no bound. -/
theorem WellFormed.findAlike_entryAmong (wellFormed : registry.WellFormed) (depth : Nat)
    (found : registry.definition? id = some definition)
    (isDeep : definition.linearization.length ≤ depth) :
    FindAlike registry.definitions (entryWithin depth id) (registry.entryAmong id) := by
  induction depth generalizing id definition with
  | zero =>
      have isSelf := wellFormed.self_mem_linearization found
      rw [List.eq_nil_of_length_eq_zero (Nat.le_zero.1 isDeep)] at isSelf
      cases isSelf
  | succ depth inductionHypothesis =>
      rw [entryWithin_succ, entryAmong]
      refine findAlike_entryBy (fun ancestor isBehind => ?_) wellFormed found rfl
      obtain ⟨isAncestor, isOther⟩ := wellFormed.tail_spec found isBehind
      obtain ⟨ancestorDefinition, ancestorFound⟩ := wellFormed.ancestor_registered found isAncestor
      have isShorter := wellFormed.length_ancestor_lt found ancestorFound isAncestor isOther
      rw [dif_pos (wellFormed.mayAsk found isBehind)]
      exact inductionHypothesis ancestorFound (by omega)

/-- The entry of a registered type is found without a bound, and every bound that is not smaller than the
linearization of the type finds it too. -/
theorem WellFormed.finds_entryAmong (wellFormed : registry.WellFormed)
    (found : registry.definition? id = some definition) :
    ∃ entry next, entryOf id registry = some (.ok entry, next) ∧
      registry.entryAmong id registry = some (.ok entry, next) ∧
      ∀ depth, definition.linearization.length ≤ depth →
        entryWithin depth id registry = some (.ok entry, next) := by
  have alike := fun depth isDeep =>
    wellFormed.findAlike_entryAmong depth found isDeep registry rfl
  obtain ⟨entry, next, isFound, isAmong, _⟩ :=
    alike registry.definitions.length (wellFormed.length_linearization_le found)
  refine ⟨entry, next, isFound, isAmong, fun depth isDeep => ?_⟩
  obtain ⟨_, _, isWithin, isSame, _⟩ := alike depth isDeep
  exact isWithin.trans (isSame.symm.trans isAmong)

end SlotDispatch.Registry
