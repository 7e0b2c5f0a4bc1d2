import SlotDispatch.Machine.Perform
import SlotDispatch.Proofs.Machine.Alike
import SlotDispatch.Proofs.Type.Hierarchy
/-!
The hierarchy of types under the requests that change types. The main statements say that such a
request either fails and leaves the world alone or makes one mutation, and that after any history of
such requests the types make a hierarchy that only their current bases determine.
-/

namespace SlotDispatch

open SlotDispatch.Machine

variable {Host : Type}

/-! ### Requests that change types -/

/-- These requests create, change, move, or invalidate a type. -/
def Request.changesTypes : Request → Bool
  | .createType _ _ _ | .setTypeAttribute _ _ _ | .deleteTypeAttribute _ _ | .setBases _ _
  | .invalidate _ => true
  | _ => false

/-- This is what a request that changes types makes of a registry. -/
def Request.mutate (registry : Registry) : Request → Except Error Registry
  | .createType name bases attributes => Prod.snd <$> registry.createType name bases attributes
  | .setTypeAttribute id name content => registry.setAttribute id name content
  | .deleteTypeAttribute id name => registry.deleteAttribute id name
  | .setBases id bases => registry.setBases id bases
  | .invalidate id => registry.invalidate id
  | _ => .ok registry

/-- A request that changes types has an outcome. It succeeds with the registry that it makes, or it
fails in the world that it was made in. -/
theorem World.perform_changesTypes (program : Program Host) (depth : Nat) (world : World Host)
    {request : Request} (changesTypes : request.changesTypes = true) :
    (∃ error, request.mutate world.registry = .error error ∧
        perform program (depth + 1) request world = some (.error error, world)) ∨
      ∃ registry reply, request.mutate world.registry = .ok registry ∧
        perform program (depth + 1) request world =
          some (.ok reply, { world with registry := registry }) := by
  cases request with
  | createType name bases attributes =>
      simp only [perform_succ, answer, createType, Action.onRegistry, Action.onPart,
        TypeChange.create_apply, Request.mutate]
      cases world.registry.createType name bases attributes with
      | error error => exact .inl ⟨error, rfl, rfl⟩
      | ok created => exact .inr ⟨created.2, created.1, rfl, rfl⟩
  | setTypeAttribute id name content =>
      rw [perform_succ, answer, TypeChange.assign_eq]
      exact Action.onRegistry_tryChange_apply (fun registry => registry.setAttribute id name content) world
  | deleteTypeAttribute id name =>
      rw [perform_succ, answer, TypeChange.delete_eq]
      exact Action.onRegistry_tryChange_apply (fun registry => registry.deleteAttribute id name) world
  | setBases id bases =>
      rw [perform_succ, answer, TypeChange.rebase_eq]
      exact Action.onRegistry_tryChange_apply (fun registry => registry.setBases id bases) world
  | invalidate id =>
      rw [perform_succ, answer, TypeChange.invalidate_eq]
      exact Action.onRegistry_tryChange_apply (fun registry => registry.invalidate id) world
  | _ => cases changesTypes

/-- What a request that changes types makes of a registry is a mutation. -/
theorem Request.mutation_mutate {registry next : Registry} {request : Request}
    (changesTypes : request.changesTypes = true) (isOk : request.mutate registry = .ok next) :
    Registry.Mutation registry next := by
  cases request with
  | createType name bases attributes =>
      obtain ⟨⟨id, created⟩, isCreated, same⟩ := bind_eq_ok_iff.1 isOk
      obtain rfl := Except.ok.inj same
      exact .created id name bases attributes isCreated
  | setTypeAttribute id name content => exact .assigned id name content isOk
  | deleteTypeAttribute id name => exact .deleted id name isOk
  | setBases id bases => exact .rebased id bases isOk
  | invalidate id => exact .invalidated id isOk
  | _ => cases changesTypes

/-- A request that changes types fails without a change, or it makes one mutation of the registry. -/
theorem World.mutation_of_changesTypes {world next : World Host} {program : Program Host}
    {depth : Nat} {request : Request} {outcome : Except Error request.Reply}
    (changesTypes : request.changesTypes = true)
    (isOutcome : perform program depth request world = some (outcome, next)) :
    (∃ error, outcome = .error error ∧ next = world) ∨
      ∃ registry, Registry.Mutation world.registry registry ∧
        next = { world with registry := registry } := by
  cases depth with
  | zero => cases isOutcome
  | succ depth =>
      rcases perform_changesTypes program depth world changesTypes with
        ⟨error, _, isFailure⟩ | ⟨registry, reply, isOk, isSuccess⟩
      · obtain ⟨rfl, rfl⟩ := Prod.mk.inj (Option.some.inj (isFailure.symm.trans isOutcome))
        exact .inl ⟨error, rfl, rfl⟩
      · obtain ⟨_, rfl⟩ := Prod.mk.inj (Option.some.inj (isSuccess.symm.trans isOutcome))
        exact .inr ⟨registry, Request.mutation_mutate changesTypes isOk, rfl⟩

/-! ### Histories -/

/-- A world is shaped when it comes from a first world by answers to requests that change types, and
the answers may be errors. -/
inductive World.Shaped : World Host → Prop where
  | initial (configuration : Configuration) (host : Host) : Shaped (.initial configuration host)
  | answered {world next : World Host} {program : Program Host} {depth : Nat} {request : Request}
      {outcome : Except Error request.Reply} (shaped : Shaped world)
      (changesTypes : request.changesTypes = true)
      (isOutcome : perform program depth request world = some (outcome, next)) : Shaped next

namespace World

/-- The types of a world are in shape when they are well-formed and arranged, the builtin types are
kept, and the limit of linearizations is the configured one. -/
structure InShape (world : World Host) : Prop where
  wellFormed : world.registry.WellFormed
  keepsBuiltins : world.registry.KeepsBuiltins
  arranged : world.registry.Arranged
  limit : world.registry.linearizationLimit = world.configuration.maxLinearization

theorem inShape_initial (configuration : Configuration) (host : Host) :
    InShape (initial configuration host) where
  wellFormed := Registry.wellFormed_initial _
  keepsBuiltins := Registry.keepsBuiltins_initial _
  arranged := Registry.arranged_initial _
  limit := rfl

theorem InShape.mutated {world : World Host} (inShape : world.InShape) {registry : Registry}
    (mutation : Registry.Mutation world.registry registry) :
    InShape { world with registry := registry } where
  wellFormed := mutation.wellFormed inShape.wellFormed
  keepsBuiltins := mutation.keepsBuiltins inShape.wellFormed inShape.keepsBuiltins
  arranged := mutation.arranged inShape.wellFormed inShape.arranged
  limit := (mutation.frame inShape.wellFormed).2.trans inShape.limit

theorem Shaped.inShape {world : World Host} (shaped : world.Shaped) : world.InShape := by
  induction shaped with
  | initial configuration host => exact inShape_initial configuration host
  | answered _ changesTypes isOutcome inductionHypothesis =>
      rcases mutation_of_changesTypes changesTypes isOutcome with
        ⟨_, _, rfl⟩ | ⟨registry, mutation, rfl⟩
      · exact inductionHypothesis
      · exact inductionHypothesis.mutated mutation

/-- After any history of type changes the types make a hierarchy, and another history that ends with
the same bases ends with the same linearizations. -/
theorem isHierarchy_of_shaped {world : World Host} (shaped : world.Shaped) :
    world.registry.IsHierarchy world.configuration.maxLinearization ∧
      ∀ other : World Host, other.Shaped →
        (∀ id, (other.registry.definition? id).map TypeDefinition.bases =
          (world.registry.definition? id).map TypeDefinition.bases) →
        ∀ id, other.registry.linearizationOf id = world.registry.linearizationOf id := by
  have inShape := shaped.inShape
  constructor
  · rw [← inShape.limit]
    exact inShape.arranged.isHierarchy inShape.wellFormed inShape.keepsBuiltins
  · intro other otherShaped sameBases id
    exact inShape.wellFormed.linearizationOf_eq otherShaped.inShape.wellFormed sameBases id

/-- A type and its heir move under integers together, and a move under its own heir fails. -/
theorem isHierarchy_of_shaped_heir :
    ∃ world : World Unit, world.Shaped ∧
      world.registry.linearizationOf 14 = [14, 13, .int, .object] ∧
      world.registry.IsHierarchy world.configuration.maxLinearization ∧
      ∀ other : World Unit, other.Shaped →
        (∀ id, (other.registry.definition? id).map TypeDefinition.bases =
          (world.registry.definition? id).map TypeDefinition.bases) →
        ∀ id, other.registry.linearizationOf id = world.registry.linearizationOf id := by
  let ask (request : Request) (world : World Unit) :=
    perform (fun _ _ => .done (.ok .none)) 1 request world
  have isMade :
      ((ask (.createType "Base" [] .empty) (.initial .default ())).bind fun base =>
        (ask (.createType "Heir" [13] .empty) base.2).bind fun heir =>
          (ask (.setBases 13 [.int]) heir.2).bind fun moved =>
            (ask (.setBases 13 [14]) moved.2).map fun last =>
              (last.1.isOk, last.2.registry.linearizationOf 14)) =
        some (false, [14, 13, .int, .object]) := by
    decide +kernel
  obtain ⟨base, isBase, isMade⟩ := Option.bind_eq_some_iff.1 isMade
  obtain ⟨heir, isHeir, isMade⟩ := Option.bind_eq_some_iff.1 isMade
  obtain ⟨moved, isMoved, isMade⟩ := Option.bind_eq_some_iff.1 isMade
  obtain ⟨last, isLast, isMade⟩ := Option.map_eq_some_iff.1 isMade
  have baseShaped : base.2.Shaped := .answered (.initial .default ()) rfl isBase
  have heirShaped : heir.2.Shaped := .answered baseShaped rfl isHeir
  have movedShaped : moved.2.Shaped := .answered heirShaped rfl isMoved
  have lastShaped : last.2.Shaped := .answered movedShaped rfl isLast
  exact ⟨last.2, lastShaped, congrArg Prod.snd isMade, isHierarchy_of_shaped lastShaped⟩

end World

end SlotDispatch
