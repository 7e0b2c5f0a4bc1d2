import SlotDispatch.Proofs.Machine.Reachable
import SlotDispatch.Proofs.Machine.Uniform
/-!
The shape of the types in reachable worlds. The main statement says that the types of every reachable
world make a hierarchy, whatever the machine was asked for and whatever its programs did inside.
-/

namespace SlotDispatch

open SlotDispatch.Action SlotDispatch.Machine

variable {Host Result Next : Type} {forged : Nat → Prop}

/-! ### Actions that keep worlds sound -/

/-- A world is sound when its kept entries are coherent and its types are in shape. -/
structure World.Sound (world : World Host) : Prop where
  coherent : world.registry.Coherent
  inShape : world.InShape

/-- A world stays sound when nothing of its types changes but coherent entries. -/
theorem World.Sound.refreshed {world next : World Host} (sound : world.Sound)
    (refreshes : Registry.Refreshes world.registry next.registry)
    (configuration : next.configuration = world.configuration) : next.Sound := by
  obtain ⟨-, -, -, arranged, limit⟩ := sound
  have stays : ∀ {id definition}, next.registry.definition? id = some definition →
      world.registry.definition? id = some definition := fun found =>
    (refreshes.definition? _).symm.trans found
  refine ⟨refreshes.coherent, refreshes.coherent.wellFormed, refreshes.coherent.keepsBuiltins, ?_, ?_⟩
  · refine ⟨fun found => arranged.rooted (stays found), fun found => arranged.basesNodup (stays found),
      fun found => arranged.subclassesNodup (stays found), fun found => ?_⟩
    rw [refreshes.limit]
    exact arranged.isShort (stays found)
  · rw [refreshes.limit, limit, configuration]

theorem World.Sound.mutated {world : World Host} (sound : world.Sound) {registry : Registry}
    (mutation : Registry.Mutation world.registry registry) :
    World.Sound { world with registry := registry } :=
  ⟨mutation.coherent sound.coherent, sound.inShape.mutated mutation⟩

/-- An action keeps sound worlds sound, whatever its outcome is. -/
def Action.KeepsSound (action : Action (World Host) Result) : Prop :=
  Follows (fun before after => before.Sound → after.Sound) action

namespace Action.KeepsSound

theorem pure (result : Result) : KeepsSound (Pure.pure result : Action (World Host) Result) :=
  Follows.pure (fun _ sound => sound) result

theorem fail (error : Error) : KeepsSound (Action.fail error : Action (World Host) Result) :=
  Follows.ofExcept (fun _ sound => sound) (.error error)

theorem bind {first : Action (World Host) Result} {second : Result → Action (World Host) Next}
    (keeps : KeepsSound first) (keepsLater : ∀ result, KeepsSound (second result)) :
    KeepsSound (first >>= second) :=
  Follows.bind (fun earlier later sound => later (earlier sound)) keeps keepsLater

theorem current_bind {second : World Host → Action (World Host) Result}
    (keeps : ∀ world, KeepsSound (second world)) : KeepsSound (current >>= second) :=
  Follows.current_bind keeps

theorem attempt {action : Action (World Host) Result} (keeps : KeepsSound action) :
    KeepsSound (Action.attempt action) := by
  intro world outcome next isOutcome
  obtain ⟨⟨inner, last⟩, isInner, isLast⟩ := Option.map_eq_some_iff.1 isOutcome
  obtain ⟨_, rfl⟩ := Prod.mk.inj isLast
  exact keeps world inner last isInner

/-- A change of the world keeps it sound when it leaves the types and the configuration alone. -/
theorem change {update : World Host → World Host}
    (registry : ∀ world, (update world).registry = world.registry)
    (configuration : ∀ world, (update world).configuration = world.configuration) :
    KeepsSound (Action.change update) := by
  intro world outcome next isOutcome sound
  obtain ⟨_, rfl⟩ := Prod.mk.inj (Option.some.inj isOutcome)
  exact sound.refreshed (registry world ▸ sound.coherent.refreshes) (configuration world)

theorem noted (callable : Callable) (arguments : List Value) (toValue : Result → Value)
    {call : Action (World Host) Result} (keeps : KeepsSound call) :
    KeepsSound (Action.noted callable arguments toValue call) := by
  intro world outcome next isOutcome sound
  obtain ⟨⟨inner, last⟩, isInner, isLast⟩ := Option.map_eq_some_iff.1 isOutcome
  obtain ⟨_, rfl⟩ := Prod.mk.inj isLast
  have started : World.Sound { world with journal := [] } :=
    sound.refreshed sound.coherent.refreshes rfl
  have stopped := keeps _ inner last isInner started
  exact stopped.refreshed stopped.coherent.refreshes rfl

/-- The entry of a type is found or made, and an unknown type is an error. -/
theorem entryOf (id : TypeId) : KeepsSound (Action.entryOf id : Action (World Host) SlotEntry) := by
  intro world outcome next isOutcome sound
  cases found : world.registry.definition? id with
  | none =>
      rw [entryOf_of_unregistered sound.coherent found] at isOutcome
      obtain ⟨_, rfl⟩ := Prod.mk.inj (Option.some.inj isOutcome)
      exact sound
  | some definition =>
      obtain ⟨⟨inner, registry⟩, isInner, isNext⟩ := Option.map_eq_some_iff.1 isOutcome
      obtain ⟨_, rfl⟩ := Prod.mk.inj isNext
      obtain ⟨entry, refreshed, isEntryOf, _, refreshes⟩ :=
        Registry.entryOf_succeeds sound.coherent found
      obtain ⟨_, rfl⟩ := Prod.mk.inj (Option.some.inj (isEntryOf.symm.trans isInner))
      exact sound.refreshed refreshes rfl

end Action.KeepsSound

/-! ### Requests -/

/-- A request that changes types makes one mutation or none. -/
theorem Machine.keepsSound_of_changesTypes (program : Program Host) (request : Request)
    (changesTypes : request.changesTypes = true) : (perform program 1 request).KeepsSound := by
  intro world outcome next isOutcome sound
  rcases World.mutation_of_changesTypes changesTypes isOutcome with
    ⟨_, _, rfl⟩ | ⟨registry, mutation, rfl⟩
  · exact sound
  · exact sound.mutated mutation

/-- What one answer keeps sound, another one does that asks it. -/
def UniformRules.keepsSound (Host : Type) : UniformRules Host where
  Relates first _ := first.KeepsSound
  pure result := .pure result
  bind keeps keepsLater := keeps.bind keepsLater
  fail error := .fail error
  attempt keeps := keeps.attempt
  noted callable arguments toValue keeps := keeps.noted callable arguments toValue
  consult related := .current_bind fun world => related world world ⟨rfl, rfl, .refl _⟩
  reading _ _ := .current_bind fun _ => .pure _
  changeHeap _ _ := .change (fun _ => rfl) fun _ => rfl
  changeSites _ := .change (fun _ => rfl) fun _ => rfl
  changeHost _ := .change (fun _ => rfl) fun _ => rfl
  entryOf id := .entryOf id
  changeTypes := Machine.keepsSound_of_changesTypes

/-- A machine keeps worlds sound, whatever it is asked for. -/
theorem Machine.keepsSound_perform (program : Program Host) (depth : Nat) (request : Request) :
    (Machine.perform program depth request).KeepsSound :=
  (UniformRules.keepsSound Host).perform (fun _ _ _ isOutcome => nomatch isOutcome) program depth
    request

/-! ### Reachable worlds -/

/-- Every reachable world is sound. -/
theorem World.Reachable.sound {world : World Host} (reachable : World.Reachable forged world) :
    world.Sound := by
  induction reachable with
  | initial configuration host =>
      exact ⟨Registry.coherent_initial _, World.inShape_initial configuration host⟩
  | answered _ _ _ isOutcome inductionHypothesis =>
      exact keepsSound_perform _ _ _ _ _ _ isOutcome inductionHypothesis
  | resumed _ journal host inductionHypothesis =>
      exact inductionHypothesis.refreshed inductionHypothesis.coherent.refreshes rfl

/-- The types of a reachable world make a hierarchy under the configured limit. -/
theorem World.Reachable.isHierarchy {world : World Host} (reachable : World.Reachable forged world) :
    world.registry.IsHierarchy world.configuration.maxLinearization := by
  have inShape := reachable.sound.inShape
  rw [← inShape.limit]
  exact inShape.arranged.isHierarchy inShape.wellFormed inShape.keepsBuiltins

end SlotDispatch
