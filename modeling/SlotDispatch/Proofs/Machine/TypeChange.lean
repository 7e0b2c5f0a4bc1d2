import SlotDispatch.Proofs.Machine.Hierarchy
import SlotDispatch.Proofs.Machine.Reachable
import SlotDispatch.Proofs.Type.Recomputation
/-!
What the requests that change types do. The main statements say that such a request that fails leaves
the world as it was, that one that succeeds begins a new generation of exactly the family that it can
change and changes no more of the types than it says, and that a type gets new bases exactly when these
are acceptable.
-/

namespace SlotDispatch

open Relation SlotDispatch.Machine

variable {Host : Type} {forged : Nat → Prop}

/-! ### Failures -/

/-- A request that changes types and fails leaves no trace: all types with their bases, namespaces,
linearizations, generations, and subclasses, all kept entries, and the rest of the world are as they
were. -/
theorem World.unchanged_of_failure (program : Program Host) (depth : Nat) (world : World Host)
    {request : Request} (changesTypes : request.changesTypes = true) :
    ∃ outcome next, perform program (depth + 1) request world = some (outcome, next) ∧
      ∀ error, outcome = .error error → next = world := by
  rcases perform_changesTypes program depth world changesTypes with
    ⟨error, _, isOutcome⟩ | ⟨registry, reply, _, isOutcome⟩
  · exact ⟨_, _, isOutcome, fun _ _ => rfl⟩
  · exact ⟨_, _, isOutcome, fun error isError => nomatch isError⟩

/-- A move that gives a conflict only in a type that inherits from the moved type leaves no trace. -/
theorem World.unchanged_of_failure_heir :
    ∃ world : World Unit, World.Reachable (fun _ => True) world ∧
      world.registry.linearizationOf 15 = [15, 13, 14, .object] ∧
      (world.registry.linearize 14 [13] .empty).isOk = true ∧
      ∃ error : Error, perform (fun _ _ => .done (.ok .none)) 1 (.setBases 14 [13]) world =
        some (.error error, world) := by
  let program : Program Unit := fun _ _ => do
    let first ← Body.request (.createType "First" [] .empty)
    let second ← Body.request (.createType "Second" [] .empty)
    let _ ← Body.request (.createType "Heir" [first, second] .empty)
    return .none
  let silent : Program Unit := fun _ _ => .done (.ok .none)
  have isMade :
      ((perform program 2 (.apply "make" 0 []) (.initial .default ())).bind fun made =>
        (perform silent 1 (.setBases 14 [13]) made.2).map fun moved =>
          (made.2.registry.linearizationOf 15, (made.2.registry.linearize 14 [13] .empty).isOk,
            moved.1.isOk)) =
        some ([15, 13, 14, .object], true, false) := by
    decide +kernel
  obtain ⟨⟨outcome, world⟩, isReached, isMade⟩ := Option.bind_eq_some_iff.1 isMade
  obtain ⟨⟨moved, last⟩, isMoved, isMade⟩ := Option.map_eq_some_iff.1 isMade
  obtain ⟨isHeir, isFine, isFailure⟩ : _ ∧ _ ∧ _ := by simpa only [Prod.mk.injEq] using isMade
  obtain ⟨sameMoved, next, isOutcome, isUnchanged⟩ :=
    World.unchanged_of_failure silent 0 world (show (Request.setBases 14 [13]).changesTypes = true from rfl)
  obtain ⟨rfl, rfl⟩ := Prod.mk.inj (Option.some.inj (isMoved.symm.trans isOutcome))
  cases moved with
  | error error =>
      obtain rfl := isUnchanged error rfl
      exact ⟨_, .of_outcome isReached, isHeir, isFine, error, isOutcome⟩
  | ok reply => cases isFailure

/-! ### New generations -/

/-- This is the type whose family begins a new generation when the request succeeds. -/
def Request.renewed? : Request → Option TypeId
  | .setTypeAttribute id name _ | .deleteTypeAttribute id name =>
      if SlotKind.isSlotDunder name then some id else none
  | .setBases id _ | .invalidate id => some id
  | _ => none

namespace Registry

/-- A family is a type with all types that inherit from it. It is renewed when the generation of each
of its types grows by one, no other generation changes, and no registered type enters or leaves the
family. -/
def Renews (before after : Registry) (root? : Option TypeId) : Prop :=
  ∀ id old, before.definition? id = some old → ∃ new, after.definition? id = some new ∧
    (new.generation = old.generation + if root?.any (before.isSubtype id) then 1 else 0) ∧
    ∀ root, root? = some root → after.isSubtype id root = before.isSubtype id root

/-- Apart from generations, two registries differ only in namespaces, and those are related. -/
structure DiffersInNamespaces (related : TypeId → Namespace → Namespace → Prop)
    (before after : Registry) : Prop where
  frame : SameFrame before after
  definitions : ∀ id old, before.definition? id = some old → ∃ generation attributes,
    after.definition? id = some { old with generation := generation, attributes := attributes } ∧
      related id old.attributes attributes

/-- A namespace holds the new content at one name, if it is the namespace of one type, and what it
held before at all other names. -/
def HoldsAt (changed : TypeId) (name : String) (content? : Option Value) (id : TypeId)
    (old new : Namespace) : Prop :=
  if id = changed then
    ∀ other, new.get? other = if other = name then content? else old.get? other
  else new = old

/-- Besides generations, an attribute that is set or deleted changes the namespace of its type at its
name, and an invalidation changes nothing. -/
def ChangesNoMore (before after : Registry) : Request → Prop
  | .setTypeAttribute id name content =>
      DiffersInNamespaces (HoldsAt id name (some content)) before after
  | .deleteTypeAttribute id name => DiffersInNamespaces (HoldsAt id name none) before after
  | .invalidate _ => DiffersInNamespaces (fun _ old new => new = old) before after
  | _ => True

variable {registry next : Registry}

theorem WellFormed.isSubtype_eq_contains (wellFormed : registry.WellFormed) {id : TypeId}
    {definition : TypeDefinition} (found : registry.definition? id = some definition) (root : TypeId) :
    registry.isSubtype id root = definition.linearization.contains root := by
  rw [isSubtype, linearizationOf_of_definition? found]
  by_cases isSelf : id = root
  · subst isSelf
    simp [wellFormed.self_mem_linearization found]
  · simp [isSelf]

/-- A change that keeps linearizations renews a family when it raises the right generations. -/
theorem Renews.of_linearizations (wellFormed : registry.WellFormed) {root? : Option TypeId}
    (isNew : ∀ id old, registry.definition? id = some old → ∃ new, next.definition? id = some new ∧
      new.linearization = old.linearization ∧
      new.generation = old.generation + if root?.any old.linearization.contains then 1 else 0) :
    registry.Renews next root? := by
  intro id old isOld
  obtain ⟨new, found, sameLinearization, isRaised⟩ := isNew id old isOld
  refine ⟨new, found, ?_, fun root _ => ?_⟩
  · rw [isRaised]
    simp only [funext (wellFormed.isSubtype_eq_contains isOld)]
  · rw [isSubtype, isSubtype, linearizationOf_of_definition? found,
      linearizationOf_of_definition? isOld, sameLinearization]

theorem renews_changeAttributes (wellFormed : registry.WellFormed) {id : TypeId}
    {definition : TypeDefinition} (found : registry.definition? id = some definition)
    (name : String) (change : Namespace → Namespace) :
    Renews registry (registry.changeAttributes id name change)
      (if SlotKind.isSlotDunder name then some id else none) := by
  refine .of_linearizations wellFormed fun other old isOld => ?_
  rw [definition?_changeAttributes wellFormed found, isOld]
  refine ⟨_, rfl, rfl, ?_⟩
  by_cases isSlotDunder : SlotKind.isSlotDunder name = true
  · simp [isSlotDunder]
  · simp [isSlotDunder]

theorem differsInNamespaces_changeAttributes (wellFormed : registry.WellFormed) {id : TypeId}
    {definition : TypeDefinition} (found : registry.definition? id = some definition)
    (name : String) (change : Namespace → Namespace) (content? : Option Value)
    (isChange : ∀ attributes other, (change attributes).get? other =
      if other = name then content? else attributes.get? other) :
    DiffersInNamespaces (HoldsAt id name content?) registry
      (registry.changeAttributes id name change) where
  frame := sameFrame_changeAttributes registry id name change
  definitions := by
    intro other old isOld
    rw [definition?_changeAttributes wellFormed found, isOld]
    refine ⟨_, _, rfl, ?_⟩
    by_cases isOther : id = other
    · simp only [HoldsAt, isOther, if_true]
      exact isChange old.attributes
    · simp [HoldsAt, isOther, Ne.symm isOther]

theorem renews_raiseFamily (wellFormed : registry.WellFormed) {id : TypeId}
    {definition : TypeDefinition} (found : registry.definition? id = some definition) :
    Renews registry (registry.raiseFamily id) (some id) := by
  refine .of_linearizations wellFormed fun other old isOld => ?_
  rw [definition?_raiseFamily wellFormed found, isOld]
  exact ⟨_, rfl, rfl, by simp⟩

theorem differsInNamespaces_raiseFamily (wellFormed : registry.WellFormed) {id : TypeId}
    {definition : TypeDefinition} (found : registry.definition? id = some definition) :
    DiffersInNamespaces (fun _ old new => new = old) registry (registry.raiseFamily id) where
  frame := sameFrame_raiseFamily registry id
  definitions := by
    intro other old isOld
    rw [definition?_raiseFamily wellFormed found, isOld]
    exact ⟨_, _, rfl, rfl⟩

theorem renews_append (new : TypeDefinition) : Renews registry (registry.append new) none := by
  intro id old isOld
  have isRegistered : id ≠ registry.definitions.length :=
    Nat.ne_of_lt (lt_length_of_definition? isOld)
  rw [definition?_append, if_neg isRegistered, isOld]
  exact ⟨_, rfl, by simp, fun _ isRoot => nomatch isRoot⟩

/-- A root is reached in the same way as long as only its own bases are different. -/
theorem reaches_root {before after : Registry} {root : TypeId}
    (same : ∀ id base, id ≠ root → (before.HasBase id base ↔ after.HasBase id base)) {id : TypeId}
    (reaches : ReflTransGen before.HasBase id root) : ReflTransGen after.HasBase id root := by
  induction reaches using ReflTransGen.head_induction_on with
  | refl => exact .refl
  | @head id base hasBase _ inductionHypothesis =>
      by_cases isRoot : id = root
      · rw [isRoot]
      · exact .head ((same id base isRoot).1 hasBase) inductionHypothesis

/-- The family of a type that moves is the same before and after the move. -/
theorem Rebased.renews {id : TypeId} {bases : List TypeId} {definition : TypeDefinition}
    {staged : Staged} (rebased : Rebased registry next id bases definition staged)
    (wellFormed : registry.WellFormed) : Renews registry next (some id) := by
  intro other old isOld
  have isStaged := rebased.contains_iff wellFormed other
  rw [linearizationOf_of_definition? isOld] at isStaged
  have isNew := rebased.definitions other
  rw [isOld] at isNew
  have sameBases : ∀ subclass base, subclass ≠ id →
      (next.HasBase subclass base ↔ registry.HasBase subclass base) := by
    intro subclass base isOther
    rw [rebased.hasBase_iff, if_neg isOther]
  refine ⟨_, isNew, ?_, ?_⟩
  · rw [Option.any_some, wellFormed.isSubtype_eq_contains isOld]
    simp [rebasedDefinition, isStaged]
  · rintro root ⟨⟩
    rw [Bool.eq_iff_iff, (rebased.wellFormed wellFormed).isSubtype_iff isNew,
      wellFormed.isSubtype_iff isOld]
    exact ⟨reaches_root sameBases,
      reaches_root fun subclass base isOther => (sameBases subclass base isOther).symm⟩

/-- A change of a well-formed registry renews the family that the request names. -/
theorem renews_mutate (wellFormed : registry.WellFormed) {request : Request}
    (isOk : request.mutate registry = .ok next) : Renews registry next request.renewed? := by
  cases request with
  | createType name bases attributes =>
      obtain ⟨⟨id, created⟩, isCreated, same⟩ := bind_eq_ok_iff.1 isOk
      obtain rfl := Except.ok.inj same
      obtain ⟨new, _, rfl, _⟩ := createType_ok isCreated
      exact renews_append new
  | setTypeAttribute id name content =>
      obtain ⟨_, found, _, rfl⟩ := setAttribute_ok isOk
      exact renews_changeAttributes wellFormed found name _
  | deleteTypeAttribute id name =>
      obtain ⟨_, found, _, rfl⟩ := deleteAttribute_ok isOk
      exact renews_changeAttributes wellFormed found name _
  | setBases id bases =>
      obtain ⟨_, _, rebased⟩ := setBases_ok wellFormed isOk
      exact rebased.renews wellFormed
  | invalidate id =>
      obtain ⟨_, found, rfl⟩ := invalidate_ok isOk
      exact renews_raiseFamily wellFormed found
  | _ =>
      obtain rfl := Except.ok.inj isOk
      exact fun id old isOld => ⟨old, isOld, by simp [Request.renewed?], fun _ isRoot => nomatch isRoot⟩

theorem changesNoMore_mutate (wellFormed : registry.WellFormed) {request : Request}
    (isOk : request.mutate registry = .ok next) : registry.ChangesNoMore next request := by
  cases request with
  | setTypeAttribute id name content =>
      obtain ⟨_, found, _, rfl⟩ := setAttribute_ok isOk
      exact differsInNamespaces_changeAttributes wellFormed found name _ _ fun attributes other =>
        Table.get?_insert attributes name other content
  | deleteTypeAttribute id name =>
      obtain ⟨_, found, _, rfl⟩ := deleteAttribute_ok isOk
      exact differsInNamespaces_changeAttributes wellFormed found name _ _ fun attributes other =>
        Table.get?_erase attributes name other
  | invalidate id =>
      obtain ⟨_, found, rfl⟩ := invalidate_ok isOk
      exact differsInNamespaces_raiseFamily wellFormed found
  | _ => trivial

end Registry

/-- A request that changes types and succeeds changes the registry alone. It begins a new generation
of exactly the family that it can change, and it changes no more than it says besides. -/
theorem World.renews_exactly {world next : World Host} (reachable : World.Reachable forged world)
    {program : Program Host} {depth : Nat} {request : Request} {reply : request.Reply}
    (changesTypes : request.changesTypes = true)
    (isOutcome : perform program depth request world = some (.ok reply, next)) :
    next = { world with registry := next.registry } ∧
      world.registry.Renews next.registry request.renewed? ∧
      world.registry.ChangesNoMore next.registry request := by
  have wellFormed := reachable.alike.coherent.wellFormed
  cases depth with
  | zero => cases isOutcome
  | succ depth =>
      rcases perform_changesTypes program depth world changesTypes with
        ⟨error, _, isFailure⟩ | ⟨registry, sameReply, isOk, isSuccess⟩
      · rw [isFailure] at isOutcome
        cases isOutcome
      · rw [isSuccess] at isOutcome
        obtain ⟨_, rfl⟩ := Prod.mk.inj (Option.some.inj isOutcome)
        exact ⟨rfl, Registry.renews_mutate wellFormed isOk,
          Registry.changesNoMore_mutate wellFormed isOk⟩

/-- A special method of a type renews a type that inherits from it along two paths once. -/
theorem World.renews_exactly_diamond :
    ∃ world next : World Unit, World.Reachable (fun _ => True) world ∧
      world.registry.linearizationOf 16 = [16, 14, 15, 13, .object] ∧
      (next.registry.definition? 16).map TypeDefinition.generation = some 1 ∧
      (next.registry.definition? .object).map TypeDefinition.generation = some 0 ∧
      next = { world with registry := next.registry } ∧
      world.registry.Renews next.registry (some 13) ∧
      world.registry.ChangesNoMore next.registry (.setTypeAttribute 13 "__add__" (.int 1)) := by
  let program : Program Unit := fun _ _ => do
    let base ← Body.request (.createType "Base" [] .empty)
    let left ← Body.request (.createType "Left" [base] .empty)
    let right ← Body.request (.createType "Right" [base] .empty)
    let _ ← Body.request (.createType "Both" [left, right] .empty)
    return .none
  let silent : Program Unit := fun _ _ => .done (.ok .none)
  have isMade :
      ((perform program 2 (.apply "make" 0 []) (.initial .default ())).bind fun made =>
        (perform silent 1 (.setTypeAttribute 13 "__add__" (.int 1)) made.2).map fun last =>
          (made.2.registry.linearizationOf 16,
            (last.2.registry.definition? 16).map TypeDefinition.generation,
            (last.2.registry.definition? .object).map TypeDefinition.generation, last.1.isOk)) =
        some ([16, 14, 15, 13, .object], some 1, some 0, true) := by
    decide +kernel
  obtain ⟨⟨outcome, world⟩, isReached, isMade⟩ := Option.bind_eq_some_iff.1 isMade
  obtain ⟨⟨reply, next⟩, isOutcome, isMade⟩ := Option.map_eq_some_iff.1 isMade
  obtain ⟨isBoth, isRaised, isLeft, isOk⟩ : _ ∧ _ ∧ _ ∧ _ := by
    simpa only [Prod.mk.injEq] using isMade
  have reachable := World.Reachable.of_outcome isReached
  cases reply with
  | error error => cases isOk
  | ok reply =>
      exact ⟨world, next, reachable, isBoth, isRaised, isLeft,
        World.renews_exactly reachable rfl isOutcome⟩

/-! ### New bases -/

/-- A heap type gets new bases exactly when these are allowed and give an order to the type and to all
types that inherit from it. Then every type has the order that the new graph gives from the bottom, and
unrelated types have kept theirs. Over allowed bases only a conflict is an obstacle, and the order in
which the descendants are staged does not matter. -/
theorem World.setBases_exactly {world : World Host} (reachable : World.Reachable forged world)
    {id : TypeId} {definition : TypeDefinition}
    (found : world.registry.definition? id = some definition) (isHeap : definition.isHeap = true)
    {bases : List TypeId} (hasBases : bases ≠ []) (program : Program Host) (depth : Nat) :
    (∃ outcome next, perform program (depth + 1) (.setBases id bases) world = some (outcome, next) ∧
      (outcome.isOk = true ↔ world.registry.AcceptsBases id bases) ∧
      (outcome.isOk = true → world.registry.IsRecomputed next.registry id bases) ∧
      ∀ error, outcome = .error error → world.registry.AllowsBases id bases →
        error.kind = .linearizationConflict) ∧
    ∀ own order, world.registry.AllowsBases id bases →
      world.registry.linearize id bases .empty = .ok own →
      order.Perm (world.registry.descendants id) → world.registry.StagesIn id bases own order := by
  have coherent := reachable.alike.coherent
  have wellFormed := coherent.wellFormed
  have isMutable := coherent.keepsBuiltins.isMutable_of_isHeap found isHeap
  refine ⟨?_, fun own order allowed isOwn isPerm => allowed.stagesIn wellFormed found isOwn isPerm⟩
  rcases perform_changesTypes program depth world
    (show (Request.setBases id bases).changesTypes = true from rfl) with
    ⟨error, isError, isFailure⟩ | ⟨registry, reply, isOk, isSuccess⟩
  · refine ⟨_, _, isFailure, ?_⟩
    rcases wellFormed.setBases_cases found isMutable hasBases with
      ⟨next, isOk, _⟩ | ⟨other, isOther, notAccepted, isConflict⟩
    · exact nomatch isOk.symm.trans isError
    · obtain rfl := Except.error.inj (isOther.symm.trans isError)
      refine ⟨iff_of_false nofun notAccepted, nofun, fun _ same => ?_⟩
      exact Except.error.inj same ▸ isConflict
  · refine ⟨_, _, isSuccess, ?_⟩
    rcases wellFormed.setBases_cases found isMutable hasBases with
      ⟨next, sameOk, accepted⟩ | ⟨error, isError, _⟩
    · obtain ⟨_, _, rebased⟩ := Registry.setBases_ok wellFormed isOk
      exact ⟨iff_of_true rfl accepted, fun _ => rebased.isRecomputed wellFormed, nofun⟩
    · exact nomatch isError.symm.trans isOk

/-- A type moves below another one. One of its descendants comes before one of its bases, so it waits
for a second pass, and it could as well be staged in reverse. -/
theorem World.setBases_exactly_waiting :
    ∃ world next : World Unit, World.Reachable (fun _ => True) world ∧
      world.registry.descendants 13 = [14, 16, 15] ∧
      (world.registry.definition? 16).map TypeDefinition.bases = some [15, 13] ∧
      perform (fun _ _ => .done (.ok .none)) 1 (.setBases 13 [17]) world = some (.ok (), next) ∧
      next.registry.linearizationOf 16 = [16, 15, 14, 13, 17, .object] ∧
      world.registry.AcceptsBases 13 [17] ∧ world.registry.IsRecomputed next.registry 13 [17] ∧
      world.registry.StagesIn 13 [17] [13, 17, .object] [15, 16, 14] := by
  let program : Program Unit := fun _ _ => do
    let moved ← Body.request (.createType "Moved" [] .empty)
    let near ← Body.request (.createType "Near" [moved] .empty)
    let far ← Body.request (.createType "Far" [near] .empty)
    let _ ← Body.request (.createType "Both" [far, moved] .empty)
    let _ ← Body.request (.createType "Top" [] .empty)
    return .none
  let silent : Program Unit := fun _ _ => .done (.ok .none)
  have isMade :
      ((perform program 2 (.apply "make" 0 []) (.initial .default ())).bind fun made =>
        (perform silent 1 (.setBases 13 [17]) made.2).bind fun last =>
          (made.2.registry.definition? 13).map fun definition =>
            (made.2.registry.descendants 13,
              (made.2.registry.definition? 16).map TypeDefinition.bases,
              last.1.isOk && definition.isHeap, last.2.registry.linearizationOf 16,
              (made.2.registry.linearize 13 [17] .empty).toOption)) =
        some ([14, 16, 15], some [15, 13], true, [16, 15, 14, 13, 17, .object],
          some [13, 17, .object]) := by
    decide +kernel
  obtain ⟨⟨outcome, world⟩, isReached, isMade⟩ := Option.bind_eq_some_iff.1 isMade
  obtain ⟨⟨reply, next⟩, isOutcome, isMade⟩ := Option.bind_eq_some_iff.1 isMade
  obtain ⟨definition, found, isMade⟩ := Option.map_eq_some_iff.1 isMade
  obtain ⟨areDescendants, areBases, isFine, isOrder, isOwn⟩ : _ ∧ _ ∧ _ ∧ _ ∧ _ := by
    simpa only [Prod.mk.injEq] using isMade
  obtain ⟨isOk, isHeap⟩ := Bool.and_eq_true_iff.1 isFine
  have reachable := World.Reachable.of_outcome isReached
  obtain ⟨⟨sameReply, sameNext, sameOutcome, accepts, isRecomputed, _⟩, stages⟩ :=
    World.setBases_exactly reachable found isHeap (List.cons_ne_nil 17 []) silent 0
  obtain ⟨rfl, rfl⟩ := Prod.mk.inj (Option.some.inj (isOutcome.symm.trans sameOutcome))
  have accepted := accepts.1 isOk
  have isPerm : [15, 16, 14].Perm (world.registry.descendants 13) := by
    rw [areDescendants]
    decide
  have isOwn : world.registry.linearize 13 [17] .empty = .ok [13, 17, .object] := by
    cases isResult : world.registry.linearize 13 [17] .empty with
    | error error =>
        rw [isResult] at isOwn
        cases isOwn
    | ok own =>
        rw [isResult] at isOwn
        exact congrArg Except.ok (Option.some.inj isOwn)
  cases reply with
  | error error => cases isOk
  | ok reply =>
      exact ⟨world, next, reachable, areDescendants, areBases, isOutcome, isOrder, accepted,
        isRecomputed isOk, stages _ _ accepted.toAllowsBases isOwn isPerm⟩

end SlotDispatch
