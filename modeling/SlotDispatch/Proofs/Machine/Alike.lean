import SlotDispatch.Proofs.Machine.Judgement
import SlotDispatch.Proofs.Type.Change
import SlotDispatch.Proofs.Type.Coherence
/-!
Worlds that are alike. Two worlds are alike when they differ only in what the machine remembers: in
the kept entries of types and in the plans of call sites, which all have to be sound. The main
statements say that the basic actions on worlds cannot tell alike worlds apart.
-/

namespace SlotDispatch

/-! ### Sound plans -/

/-- A remembered plan is sound when it is the plan of two coherent entries whose types and
generations make its key. -/
def CachedPlan.IsSound (registry : Registry) (kind : SlotKind) (cached : CachedPlan) : Prop :=
  ∃ leftEntry rightEntry, registry.IsCoherentEntry cached.key.left leftEntry ∧
    registry.IsCoherentEntry cached.key.right rightEntry ∧
    cached.key.leftGeneration = leftEntry.generation ∧
    cached.key.rightGeneration = rightEntry.generation ∧
    cached.plan = Plan.binary kind leftEntry rightEntry

/-- A call site is sound when all plans that it remembers are sound. -/
def CallSite.IsSound (registry : Registry) (site : CallSite) : Prop :=
  ∀ plans, site.state = .remembering plans → ∀ cached ∈ plans, cached.IsSound registry site.kind

theorem CallSite.isSound_new (registry : Registry) (kind : SlotKind) :
    (CallSite.new kind).IsSound registry := by
  intro plans isState cached isMember
  cases isState
  cases isMember

theorem CallSite.IsSound.of_evolves {before after : Registry} (wellFormed : before.WellFormed)
    (evolves : Registry.Evolves before after) {site : CallSite} (isSound : site.IsSound before) :
    site.IsSound after := by
  intro plans isState cached isMember
  obtain ⟨leftEntry, rightEntry, left, right, rest⟩ := isSound plans isState cached isMember
  exact ⟨leftEntry, rightEntry, left.of_evolves wellFormed evolves,
    right.of_evolves wellFormed evolves, rest⟩

/-- A sound plan keeps a call site sound. -/
theorem CallSite.IsSound.record {registry : Registry} {site : CallSite}
    (isSound : site.IsSound registry) {key : CacheKey} {plan : Plan}
    (isSoundPlan : (CachedPlan.mk key plan).IsSound registry site.kind) (capacity : Nat) :
    (site.record key plan capacity).IsSound registry := by
  intro plans isState cached isMember
  cases isBefore : site.state with
  | megamorphic =>
      rw [CallSite.record, isBefore] at isState
      rw [isBefore] at isState
      cases isState
  | remembering remembered =>
      simp only [CallSite.record, isBefore] at isState ⊢
      split at isState
      · cases isState
      · rename_i isRoom
        rw [if_neg isRoom]
        cases isState
        rcases List.mem_append.1 isMember with isOld | isNew
        · exact isSound remembered isBefore cached (List.mem_filter.1 isOld).1
        · exact List.mem_singleton.1 isNew ▸ isSoundPlan

/-- A sound call site remembers, for two types in their current generations, only the plan of the
entries that these types have now. -/
theorem CallSite.IsSound.lookup {registry : Registry} {site : CallSite}
    (isSound : site.IsSound registry) {left right : TypeId}
    {leftDefinition rightDefinition : TypeDefinition}
    (leftFound : registry.definition? left = some leftDefinition)
    (rightFound : registry.definition? right = some rightDefinition) {plan : Plan}
    (isHit : site.lookup ⟨left, right, leftDefinition.generation, rightDefinition.generation⟩ =
      some plan) :
    ∃ leftEntry rightEntry, registry.IsEntry left leftDefinition leftEntry ∧
      registry.IsEntry right rightDefinition rightEntry ∧
      plan = Plan.binary site.kind leftEntry rightEntry := by
  cases isState : site.state with
  | megamorphic =>
      rw [CallSite.lookup, isState] at isHit
      cases isHit
  | remembering plans =>
      rw [CallSite.lookup, isState] at isHit
      obtain ⟨cached, isFound, rfl⟩ := Option.map_eq_some_iff.1 isHit
      have isKey : cached.key =
          ⟨left, right, leftDefinition.generation, rightDefinition.generation⟩ := by
        simpa using List.find?_some isFound
      obtain ⟨leftEntry, rightEntry, isLeft, isRight, leftGeneration, rightGeneration, isPlan⟩ :=
        isSound plans isState cached (List.mem_of_find?_eq_some isFound)
      rw [isKey] at isLeft isRight leftGeneration rightGeneration
      obtain ⟨_, sameLeft, _, leftIsEntry⟩ := isLeft
      obtain ⟨_, sameRight, _, rightIsEntry⟩ := isRight
      obtain rfl := Option.some.inj (leftFound.symm.trans sameLeft)
      obtain rfl := Option.some.inj (rightFound.symm.trans sameRight)
      exact ⟨leftEntry, rightEntry, leftIsEntry leftGeneration.symm,
        rightIsEntry rightGeneration.symm, isPlan⟩

theorem CallSite.kind_record (site : CallSite) (key : CacheKey) (plan : Plan) (capacity : Nat) :
    (site.record key plan capacity).kind = site.kind := by
  rw [CallSite.record]
  split
  · rfl
  · dsimp only
    split <;> rfl

/-! ### Alike worlds -/

variable {Host : Type}

/-- Two call sites are alike when they are of one kind, and when they are the same at a forged place
and sound at every other place. -/
structure CallSite.Alike (isForged : Prop) (leftRegistry rightRegistry : Registry)
    (left right : CallSite) : Prop where
  kind : left.kind = right.kind
  same : isForged → left = right
  sound : ¬ isForged → left.IsSound leftRegistry ∧ right.IsSound rightRegistry

/-- Two worlds are alike when they have the same definitions of types, at least as many as are known,
and differ at most in coherent entries and in plans of call sites that are not forged. -/
structure World.Alike (forged : Nat → Prop) (known : Nat) (left right : World Host) : Prop where
  configuration : left.configuration = right.configuration
  heap : left.heap = right.heap
  journal : left.journal = right.journal
  host : left.host = right.host
  isKnown : known ≤ left.registry.definitions.length
  coherent : left.registry.Coherent
  refreshes : Registry.Refreshes left.registry right.registry
  siteCount : left.sites.length = right.sites.length
  sites : ∀ place, Option.Rel (CallSite.Alike (forged place) left.registry right.registry)
    left.sites[place]? right.sites[place]?

namespace World.Alike

variable {forged : Nat → Prop} {known : Nat} {left right third : World Host}

/-- Alike worlds have call sites at the same places. -/
theorem site_cases (alike : Alike forged known left right) (place : Nat) :
    (left.sites[place]? = none ∧ right.sites[place]? = none) ∨ ∃ leftSite rightSite,
      left.sites[place]? = some leftSite ∧ right.sites[place]? = some rightSite ∧
        CallSite.Alike (forged place) left.registry right.registry leftSite rightSite := by
  have matched := alike.sites place
  generalize isLeft : left.sites[place]? = leftSite? at matched
  generalize isRight : right.sites[place]? = rightSite? at matched
  cases matched with
  | none => exact .inl ⟨rfl, rfl⟩
  | some both => exact .inr ⟨_, _, rfl, rfl, both⟩

/-- A call site that is not forged is sound. -/
theorem isSound (alike : Alike forged known left right) {site : Nat} (isClean : ¬ forged site)
    {callSite : CallSite} (isSite : left.sites[site]? = some callSite) :
    callSite.IsSound left.registry := by
  rcases alike.site_cases site with ⟨isLeft, _⟩ | ⟨leftSite, _, isLeft, _, both⟩
  · rw [isSite] at isLeft
    cases isLeft
  · obtain rfl := Option.some.inj (isSite.symm.trans isLeft)
    exact (both.sound isClean).1

theorem symm (alike : Alike forged known left right) : Alike forged known right left where
  configuration := alike.configuration.symm
  heap := alike.heap.symm
  journal := alike.journal.symm
  host := alike.host.symm
  isKnown := alike.refreshes.definitions ▸ alike.isKnown
  coherent := alike.refreshes.coherent
  refreshes := ⟨alike.refreshes.definitions.symm, alike.refreshes.limit.symm, alike.coherent⟩
  siteCount := alike.siteCount.symm
  sites := by
    intro place
    rcases alike.site_cases place with
      ⟨isLeft, isRight⟩ | ⟨leftSite, rightSite, isLeft, isRight, both⟩ <;> rw [isLeft, isRight]
    · exact .none
    · exact .some ⟨both.kind.symm, fun isForged => (both.same isForged).symm,
        fun isClean => (both.sound isClean).symm⟩

theorem trans (first : Alike forged known left right) (second : Alike forged known right third) :
    Alike forged known left third where
  configuration := first.configuration.trans second.configuration
  heap := first.heap.trans second.heap
  journal := first.journal.trans second.journal
  host := first.host.trans second.host
  isKnown := first.isKnown
  coherent := first.coherent
  refreshes := first.refreshes.trans second.refreshes
  siteCount := first.siteCount.trans second.siteCount
  sites := by
    intro place
    rcases first.site_cases place with
      ⟨isLeft, isRight⟩ | ⟨leftSite, rightSite, isLeft, isRight, leftBoth⟩ <;>
      rcases second.site_cases place with
        ⟨isMiddle, isThird⟩ | ⟨middleSite, thirdSite, isMiddle, isThird, rightBoth⟩ <;>
      rw [isRight] at isMiddle <;> cases isMiddle <;> rw [isLeft, isThird]
    · exact .none
    · exact .some ⟨leftBoth.kind.trans rightBoth.kind,
        fun isForged => (leftBoth.same isForged).trans (rightBoth.same isForged),
        fun isClean => ⟨(leftBoth.sound isClean).1, (rightBoth.sound isClean).2⟩⟩

theorem definition? (alike : Alike forged known left right) (id : TypeId) :
    right.registry.definition? id = left.registry.definition? id :=
  alike.refreshes.definition? id

/-- The registry on the right is nothing ahead of the registry on the left. -/
theorem registry_eq (alike : Alike forged known left right) :
    right.registry = left.registry.advance (fun _ => 0) right.registry.entries := by
  rw [Registry.advance_zero, ← alike.refreshes.definitions, ← alike.refreshes.limit]

theorem resembles (alike : Alike forged known left right) : World.Resembles left right where
  configuration := alike.configuration.symm
  heap := alike.heap.symm
  registry := by
    rw [alike.registry_eq]
    exact Registry.resembles_advance _ _ _

theorem withJournal (alike : Alike forged known left right) (journal : Journal) :
    Alike forged known { left with journal := journal } { right with journal := journal } :=
  ⟨alike.configuration, alike.heap, rfl, alike.host, alike.isKnown, alike.coherent, alike.refreshes,
    alike.siteCount, alike.sites⟩

theorem withHeap (alike : Alike forged known left right) (heap : Heap) :
    Alike forged known { left with heap := heap } { right with heap := heap } :=
  ⟨alike.configuration, rfl, alike.journal, alike.host, alike.isKnown, alike.coherent,
    alike.refreshes, alike.siteCount, alike.sites⟩

theorem withHost (alike : Alike forged known left right) (host : Host) :
    Alike forged known { left with host := host } { right with host := host } :=
  ⟨alike.configuration, alike.heap, alike.journal, rfl, alike.isKnown, alike.coherent,
    alike.refreshes, alike.siteCount, alike.sites⟩

/-- Worlds stay alike when both registries evolve to registries with the same definitions. -/
theorem withRegistry (alike : Alike forged known left right) {leftNext rightNext : Registry}
    (leftEvolves : Registry.Evolves left.registry leftNext)
    (rightEvolves : Registry.Evolves right.registry rightNext) (coherent : leftNext.Coherent)
    (refreshes : Registry.Refreshes leftNext rightNext) :
    Alike forged known { left with registry := leftNext } { right with registry := rightNext } where
  configuration := alike.configuration
  heap := alike.heap
  journal := alike.journal
  host := alike.host
  isKnown := Nat.le_trans alike.isKnown leftEvolves.length_le
  coherent := coherent
  refreshes := refreshes
  siteCount := alike.siteCount
  sites := by
    intro place
    rcases alike.site_cases place with
      ⟨isLeft, isRight⟩ | ⟨leftSite, rightSite, isLeft, isRight, both⟩ <;> rw [isLeft, isRight]
    · exact .none
    · exact .some ⟨both.kind, both.same, fun isClean =>
        ⟨(both.sound isClean).1.of_evolves alike.coherent.wellFormed leftEvolves,
          (both.sound isClean).2.of_evolves alike.refreshes.coherent.wellFormed rightEvolves⟩⟩

/-- Worlds stay alike when the same mutation happens in both, whatever entries each of them keeps. -/
theorem mutated (alike : Alike forged known left right) {next : Registry}
    (leftMutation : Registry.Mutation left.registry next)
    (rightMutation : Registry.Mutation right.registry
      (next.advance (fun _ => 0) right.registry.entries)) :
    Alike forged known { left with registry := next }
      { right with registry := next.advance (fun _ => 0) right.registry.entries } :=
  alike.withRegistry (leftMutation.evolves alike.coherent.wellFormed)
    (rightMutation.evolves alike.refreshes.coherent.wellFormed)
    (leftMutation.coherent alike.coherent)
    ⟨by rw [Registry.advance_zero], by rw [Registry.advance_zero],
      rightMutation.coherent alike.refreshes.coherent⟩

/-- Fewer types may be known. -/
theorem weaken (alike : Alike forged known left right) {fewer : Nat} (isFewer : fewer ≤ known) :
    Alike forged fewer left right :=
  ⟨alike.configuration, alike.heap, alike.journal, alike.host, Nat.le_trans isFewer alike.isKnown,
    alike.coherent, alike.refreshes, alike.siteCount, alike.sites⟩

/-- All types that are registered may be known. -/
theorem strengthen (alike : Alike forged known left right) :
    Alike forged left.registry.definitions.length left right :=
  ⟨alike.configuration, alike.heap, alike.journal, alike.host, Nat.le_refl _,
    alike.coherent, alike.refreshes, alike.siteCount, alike.sites⟩

/-- Worlds stay alike when one place gets alike call sites. -/
theorem modifySite (alike : Alike forged known left right) (site : Nat)
    (changeLeft changeRight : CallSite → CallSite)
    (keeps : ∀ leftSite rightSite, right.sites[site]? = some rightSite →
      CallSite.Alike (forged site) left.registry right.registry leftSite rightSite →
      CallSite.Alike (forged site) left.registry right.registry (changeLeft leftSite)
        (changeRight rightSite)) :
    Alike forged known { left with sites := left.sites.modify site changeLeft }
      { right with sites := right.sites.modify site changeRight } where
  configuration := alike.configuration
  heap := alike.heap
  journal := alike.journal
  host := alike.host
  isKnown := alike.isKnown
  coherent := alike.coherent
  refreshes := alike.refreshes
  siteCount := by rw [List.length_modify, List.length_modify, alike.siteCount]
  sites := by
    intro place
    rw [List.getElem?_modify, List.getElem?_modify]
    rcases alike.site_cases place with
      ⟨isLeft, isRight⟩ | ⟨leftSite, rightSite, isLeft, isRight, both⟩ <;> rw [isLeft, isRight]
    · exact .none
    · by_cases isSite : site = place
      · subst isSite
        simpa using keeps leftSite rightSite isRight both
      · simpa [isSite] using both

/-- A sound plan may be recorded in one of two worlds. -/
theorem record (alike : Alike forged known left right) {site : Nat} (isClean : ¬ forged site)
    {key : CacheKey} {plan : Plan}
    (isSound : ∀ callSite, right.sites[site]? = some callSite →
      (CachedPlan.mk key plan).IsSound right.registry callSite.kind) (capacity : Nat) :
    Alike forged known left { right with
      sites := right.sites.modify site fun callSite => callSite.record key plan capacity } := by
  have modified := alike.modifySite site id (fun callSite => callSite.record key plan capacity) ?_
  · rwa [List.modify_id] at modified
  · intro leftSite rightSite isRight both
    refine ⟨?_, fun isForged => absurd isForged isClean, fun _ => ⟨(both.sound isClean).1, ?_⟩⟩
    · rw [CallSite.kind_record]
      exact both.kind
    · exact (both.sound isClean).2.record (isSound rightSite isRight) capacity

/-- Any plan may be recorded in both worlds at a forged place. -/
theorem recordForged (alike : Alike forged known left right) {site : Nat} (isForged : forged site)
    (key : CacheKey) (plan : Plan) (capacity : Nat) :
    Alike forged known
      { left with
        sites := left.sites.modify site fun callSite => callSite.record key plan capacity }
      { right with
        sites := right.sites.modify site fun callSite => callSite.record key plan capacity } :=
  alike.modifySite site _ _ fun leftSite rightSite _ both => by
    obtain rfl := both.same isForged
    exact ⟨rfl, fun _ => rfl, fun isClean => absurd isForged isClean⟩

/-- Both worlds may get a new call site. -/
theorem addSite (alike : Alike forged known left right) (kind : SlotKind) :
    Alike forged known { left with sites := left.sites ++ [.new kind] }
      { right with sites := right.sites ++ [.new kind] } where
  configuration := alike.configuration
  heap := alike.heap
  journal := alike.journal
  host := alike.host
  isKnown := alike.isKnown
  coherent := alike.coherent
  refreshes := alike.refreshes
  siteCount := by rw [List.length_append, List.length_append, alike.siteCount]
  sites := by
    intro place
    rw [List.getElem?_append, List.getElem?_append, ← alike.siteCount]
    split
    · exact alike.sites place
    · rw [List.getElem?_singleton]
      split
      · exact .some ⟨rfl, fun _ => rfl, fun _ =>
          ⟨CallSite.isSound_new _ kind, CallSite.isSound_new _ kind⟩⟩
      · exact .none

end World.Alike

namespace Action

/-- An action is oblivious when it cannot tell alike worlds apart. -/
abbrev Oblivious (Host : Type) (forged : Nat → Prop) (known : Nat) {Result : Type}
    (action : Action (World Host) Result) : Prop :=
  Respects (World.Alike forged known) action

variable {Result : Type} {forged : Nat → Prop} {known : Nat}

theorem definition_of_registered {world : World Host} {id : TypeId} {found : TypeDefinition}
    (isFound : world.registry.definition? id = some found) :
    definition id world = some (.ok found, world) := by
  simp only [definition, reading, bind_apply, pure_apply, current]
  rw [Registry.require_eq_ok_iff.2 isFound]
  rfl

theorem definition_of_unregistered {world : World Host} {id : TypeId}
    (absent : world.registry.definition? id = none) :
    definition id world = some (.error (.unknownType id), world) := by
  simp only [definition, reading, bind_apply, pure_apply, current, Registry.require, absent]
  rfl

theorem oblivious_definition (id : TypeId) : Oblivious Host forged known (definition id) := by
  intro left right alike
  cases found : left.registry.definition? id with
  | none =>
      rw [definition_of_unregistered found,
        definition_of_unregistered ((alike.definition? id).trans found)]
      exact .some ⟨rfl, alike⟩
  | some definition =>
      rw [definition_of_registered found,
        definition_of_registered ((alike.definition? id).trans found)]
      exact .some ⟨rfl, alike⟩

/-! ### Slot entries -/

/-- Both worlds find the one entry that the type has. -/
theorem oblivious_entryOf (id : TypeId) : Oblivious Host forged known (entryOf id) := by
  intro left right alike
  simp only [entryOf, onRegistry, onPart]
  cases found : left.registry.definition? id with
  | none =>
      have foundRight := (alike.definition? id).trans found
      rw [Registry.entryOf_of_unregistered alike.coherent found,
        Registry.entryOf_of_unregistered alike.refreshes.coherent foundRight]
      exact .some ⟨rfl, alike⟩
  | some definition =>
      have foundRight := (alike.definition? id).trans found
      obtain ⟨leftEntry, leftNext, isLeft, leftIsEntry, leftRefreshes⟩ :=
        Registry.entryOf_succeeds alike.coherent found
      obtain ⟨rightEntry, rightNext, isRight, rightIsEntry, rightRefreshes⟩ :=
        Registry.entryOf_succeeds alike.refreshes.coherent foundRight
      have same := leftIsEntry.unique (alike.refreshes.isEntry found rightIsEntry)
      rw [isLeft, isRight]
      refine .some ⟨congrArg Except.ok same, alike.withRegistry leftRefreshes.evolves
        rightRefreshes.evolves leftRefreshes.coherent ⟨?_, ?_, rightRefreshes.coherent⟩⟩
      · rw [rightRefreshes.definitions, alike.refreshes.definitions, leftRefreshes.definitions]
      · rw [rightRefreshes.limit, alike.refreshes.limit, leftRefreshes.limit]

section Found

variable {world : World Host} (alike : World.Alike forged known world world) {id : TypeId}
  {definition : TypeDefinition} (found : world.registry.definition? id = some definition)

include alike found

/-- The entry of a registered type is read in a world that is alike, and the world has then made the
targets of the entry. -/
theorem entryOf_reads : (entryOf id).Succeeds world fun entry next =>
    world.registry.IsEntry id definition entry ∧ World.Alike forged known world next ∧
      Registry.Reads world.registry next.registry ∧
      ∀ kind, (entry.target kind).IsMade next.registry.entries.makings := by
  obtain ⟨entry, next, isEntryOf, isEntry, reads, areMade⟩ :=
    Registry.entryOf_reads alike.coherent found
  refine ⟨entry, { world with registry := next }, ?_, isEntry, ?_, reads, areMade⟩
  · simp only [entryOf, onRegistry, onPart, isEntryOf]
    rfl
  · exact alike.withRegistry (.refl world.registry) reads.evolves alike.coherent reads.toRefreshes

/-- The entry of a registered type is found in a world that is alike. -/
theorem entryOf_succeeds : (entryOf id).Succeeds world fun entry next =>
    world.registry.IsEntry id definition entry ∧ World.Alike forged known world next :=
  (entryOf_reads alike found).mono fun _ _ ⟨isEntry, isAlike, _⟩ => ⟨isEntry, isAlike⟩

end Found

/-- A type that is not registered has no entry. -/
theorem entryOf_of_unregistered {world : World Host} (coherent : world.registry.Coherent)
    {id : TypeId} (absent : world.registry.definition? id = none) :
    entryOf id world = some (.error (.unknownType id), world) := by
  simp only [entryOf, onRegistry, onPart, Registry.entryOf_of_unregistered coherent absent]
  rfl

/-! ### Mutations -/

/-- A change of the registry that is tried succeeds in the new world or fails in the old one. -/
theorem onRegistry_tryChange_apply (change : Registry → Except Error Registry)
    (world : World Host) :
    (∃ error, change world.registry = .error error ∧
        onRegistry (tryChange change) world = some (.error error, world)) ∨
      ∃ registry reply, change world.registry = .ok registry ∧
        onRegistry (tryChange change) world =
          some (.ok reply, { world with registry := registry }) := by
  simp only [onRegistry, onPart, tryChange]
  cases change world.registry with
  | error error => exact .inl ⟨error, rfl, rfl⟩
  | ok registry => exact .inr ⟨registry, (), rfl, rfl⟩

/-- A change that moves along has the same outcome in two worlds of which one registry is ahead of the
other. -/
theorem changeRegistry_cases {left right : World Host} {ahead : TypeId → Nat}
    (isAhead : right.registry = left.registry.advance ahead right.registry.entries)
    {change : Registry → Except Error Registry} (advances : Registry.Advances change) :
    (∃ error, changeRegistry change left = some (.error error, left) ∧
        changeRegistry change right = some (.error error, right)) ∨
      ∃ next, change left.registry = .ok next ∧
        change right.registry = .ok (next.advance ahead right.registry.entries) ∧
        changeRegistry change left = some (.ok (), { left with registry := next }) ∧
        changeRegistry change right = some (.ok (),
          { right with registry := next.advance ahead right.registry.entries }) := by
  have rightOutcome := advances left.registry ahead right.registry.entries
  rw [← isAhead] at rightOutcome
  rcases onRegistry_tryChange_apply change left with
    ⟨error, isError, isLeft⟩ | ⟨next, _, isNext, isLeft⟩
  · have isOther : change right.registry = .error error := by rw [rightOutcome, isError]; rfl
    refine .inl ⟨error, isLeft, ?_⟩
    simp only [changeRegistry, onRegistry, onPart, tryChange, isOther]
    rfl
  · have isOther : change right.registry =
        .ok (next.advance ahead right.registry.entries) := by rw [rightOutcome, isNext]; rfl
    refine .inr ⟨next, isNext, isOther, isLeft, ?_⟩
    simp only [changeRegistry, onRegistry, onPart, tryChange, isOther]
    rfl

/-- Both worlds accept or reject a mutation, which ignores the kept entries. -/
theorem oblivious_changeRegistry {change : Registry → Except Error Registry}
    (advances : Registry.Advances change)
    (isMutation : ∀ {before after}, change before = .ok after → Registry.Mutation before after) :
    Oblivious Host forged known (changeRegistry change) := by
  intro left right alike
  rcases changeRegistry_cases alike.registry_eq advances with
    ⟨error, isLeft, isRight⟩ | ⟨next, isNext, isOther, isLeft, isRight⟩
  · rw [isLeft, isRight]
    exact .some ⟨rfl, alike⟩
  · rw [isLeft, isRight]
    exact .some ⟨rfl, alike.mutated (isMutation isNext) (isMutation isOther)⟩

theorem oblivious_setAttribute (id : TypeId) (name : String) (value : Value) :
    Oblivious Host forged known (onRegistry (TypeChange.assign id name value)) := by
  rw [TypeChange.assign_eq]
  exact oblivious_changeRegistry (Registry.setAttribute_advances id name value)
    (.assigned id name value)

theorem oblivious_deleteAttribute (id : TypeId) (name : String) :
    Oblivious Host forged known (onRegistry (TypeChange.delete id name)) := by
  rw [TypeChange.delete_eq]
  exact oblivious_changeRegistry (Registry.deleteAttribute_advances id name) (.deleted id name)

theorem oblivious_setBases (id : TypeId) (bases : List TypeId) :
    Oblivious Host forged known (onRegistry (TypeChange.rebase id bases)) := by
  rw [TypeChange.rebase_eq]
  exact oblivious_changeRegistry (Registry.setBases_advances id bases) (.rebased id bases)

theorem oblivious_invalidate (id : TypeId) :
    Oblivious Host forged known (onRegistry (TypeChange.invalidate id)) := by
  rw [TypeChange.invalidate_eq]
  exact oblivious_changeRegistry (Registry.invalidate_advances id) (.invalidated id)

/-! ### Objects and calls -/

theorem oblivious_changeHeap (update : Heap → Heap) :
    Oblivious Host forged known (changeHeap update) := by
  intro left right alike
  simp only [changeHeap, change, alike.heap]
  exact .some ⟨rfl, alike.withHeap _⟩

theorem agrees_noted (callable : Callable) (arguments : List Value) (toValue : Result → Value)
    {first second : Action (World Host) Result}
    (agree : Agrees (World.Alike forged known) first second) :
    Agrees (World.Alike forged known) (noted callable arguments toValue first)
      (noted callable arguments toValue second) := by
  intro left right alike
  rw [noted, noted]
  rcases (agree _ _ (alike.withJournal [])).cases with
    ⟨isLeft, isRight⟩ | ⟨outcome, before, after, isLeft, isRight, stillAlike⟩
  · rw [isLeft, isRight]
    exact .none
  · rw [isLeft, isRight]
    simp only [Option.map_some, stillAlike.journal, alike.journal]
    exact .some ⟨rfl, stillAlike.withJournal _⟩

end Action

/-! ### The judgement of alike worlds -/

/-- Two actions are related when they agree in alike worlds, where both find equal targets. -/
def Judgement.alike (Host : Type) (forged : Nat → Prop) (known : Nat) :
    Judgement Host SingleMoment where
  Relates _ first second := Action.Agrees (World.Alike forged known) first second
  Shows _ _ left right := right = left
  IsLenient := True
  resembles := by
    rintro _ _ _ _ rfl
    exact .refl _
  suits _ := .inl trivial
  exact _ shows := shows
  pure result := Action.Respects.pure result
  bind related relatedLater := related.bind relatedLater
  fail _ := Action.Respects.fail _
  rescue related onResult onError :=
    related.attempt.bind (Action.related_of_outcome (fun _ => Action.Respects.fail _) onResult onError)
  noted callable arguments toValue related :=
    Action.agrees_noted callable arguments toValue related
  consult related left right alike := related left right alike.resembles left right alike
  changeHeap update _ := Action.oblivious_changeHeap update
  assign id name content := Action.oblivious_setAttribute id name content
  delete id name := Action.oblivious_deleteAttribute id name
  entryOf id := fun related => Action.Agrees.bind (Action.oblivious_entryOf id) fun entry =>
    related .now trivial entry entry ⟨rfl, rfl, fun _ => rfl⟩
  withEntries left right third? := fun related =>
    Action.related_withEntries
      (fun id _ _ related => Action.Agrees.bind (Action.oblivious_entryOf id) fun entry =>
        related entry trivial)
      left right third? fun leftEntry rightEntry thirdFound? _ =>
        related .now trivial leftEntry rightEntry thirdFound? leftEntry rightEntry thirdFound?
          ⟨rfl, rfl, fun _ => rfl⟩ ⟨rfl, rfl, fun _ => rfl⟩
          fun _ => Plan.shows_ternary fun _ _ => rfl

theorem Action.oblivious_of_respects {Result : Type} {forged : Nat → Prop} {known : Nat}
    {action : Action (World Host) Result}
    (respects : (Judgement.alike Host forged known).Respects .now action) :
    Action.Oblivious Host forged known action :=
  respects

/-! ### Requests -/

/-- A request spares the call sites that are not forged when it records no plan at them. -/
def Request.Spares (forged : Nat → Prop) : Request → Prop
  | .recordPlan site _ _ _ => forged site
  | _ => True

theorem Request.IsOperation.spares {request : Request} (isOperation : request.IsOperation)
    (forged : Nat → Prop) : request.Spares forged := by
  cases request <;> trivial

/-- A request that names a target invokes it. -/
def Request.IsInvocation : Request → Prop
  | .invokeUnary _ _ | .invokeTernary _ _ _ _ _ | .invokeCompare _ _ _ _ | .invokeLength _ _
  | .invokeInquiry _ _ | .invokeHash _ _ | .invokeSize _ _ _ | .invokeStore _ _ _ _
  | .invokeGetAttribute _ _ _ | .invokeSetAttribute _ _ _ _ | .invokeDescriptorGet _ _ _ _
  | .invokeCall _ _ _ => True
  | _ => False

/-- A perform function is oblivious when its answers to sparing requests are. -/
def Perform.Oblivious (forged : Nat → Prop) (known : Nat) (perform : Perform Host) : Prop :=
  ∀ request : Request, request.Spares forged → Action.Oblivious Host forged known (perform request)

theorem Perform.Oblivious.performs {forged : Nat → Prop} {known : Nat} {perform : Perform Host}
    (oblivious : perform.Oblivious forged known) :
    (Judgement.alike Host forged known).Performs perform perform where
  ask request isOperation := oblivious request (isOperation.spares forged)
  invokeCompare shows operator left right := by
    obtain rfl := shows
    exact oblivious (.invokeCompare _ operator left right) trivial

end SlotDispatch
