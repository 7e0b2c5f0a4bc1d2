import Mathlib.Data.Nat.Basic
import SlotDispatch.Proofs.Machine.Alike
import SlotDispatch.Proofs.Type.Lead
/-!
Worlds that lag behind others. One world lags behind another when the two differ in the generations of
types, in kept entries, and in the plans of call sites only. The main statements say that the basic
actions on worlds have the same outcome in both, and that an invalidation in one of them keeps them
apart no further than that.
-/

namespace SlotDispatch

open SlotDispatch.Action

variable {Host Result Next : Type} {forged : Nat → Prop}

/-! ### Leads -/

/-- A lead says how many generations each type is ahead in the second of two worlds, and from which
generation on each type is known in the first. -/
structure Lead where
  floor : TypeId → Nat
  ahead : TypeId → Nat

/-- A later lead is not smaller, and knows no earlier generations. -/
instance : Preorder Lead where
  le lead later := lead.floor ≤ later.floor ∧ lead.ahead ≤ later.ahead
  le_refl lead := ⟨le_refl lead.floor, le_refl lead.ahead⟩
  le_trans _ _ _ first second := ⟨first.1.trans second.1, first.2.trans second.2⟩

/-- A slot lags when the other world shows it some generations ahead. An override of the slot was made
at most at the floor, and no override is further ahead than its owner. -/
structure SlotTarget.Lags (lead : Lead) (kind : SlotKind) (target other : SlotTarget) : Prop where
  fits : target.Fits kind
  isAhead : ∃ ahead ≤ lead.ahead, other = target.advance ahead
  isLow : ∀ definition inherited, target = .override definition inherited →
    definition.generation ≤ lead.floor definition.owner

theorem SlotTarget.Lags.resembles {lead : Lead} {kind : SlotKind} {target other : SlotTarget}
    (lags : target.Lags lead kind other) : target.Resembles other := by
  obtain ⟨ahead, _, rfl⟩ := lags.isAhead
  exact target.resembles_advance ahead

/-- An entry lags when the other entry is as far ahead as the lead says, and its overrides were made at
the floor. -/
structure SlotEntry.Lags (lead : Lead) (entry other : SlotEntry) : Prop where
  fits : ∀ kind, (entry.target kind).Fits kind
  isAhead : entry.IsAhead lead.ahead other
  isCurrent : ∀ kind definition inherited, entry.target kind = .override definition inherited →
    definition.generation = lead.floor definition.owner

theorem SlotEntry.Lags.target {lead : Lead} {entry other : SlotEntry} (lags : entry.Lags lead other)
    (kind : SlotKind) :
    (entry.target kind).Lags lead kind ((entry.target kind).advance lead.ahead) where
  fits := lags.fits kind
  isAhead := ⟨lead.ahead, le_refl _, rfl⟩
  isLow definition inherited isOverride := le_of_eq (lags.isCurrent kind definition inherited isOverride)

theorem SlotEntry.Lags.shows {lead : Lead} {entry other : SlotEntry} (lags : entry.Lags lead other) :
    entry.Shows (SlotTarget.Lags lead) other where
  typeId := lags.isAhead.typeId
  linearization := lags.isAhead.linearization
  target kind := by
    rw [lags.isAhead.target kind]
    exact lags.target kind

/-- A plan of entries that lag has the same steps as the plan of the entries that are ahead of them. -/
theorem Plan.ternary_lags {lead : Lead} {left right otherLeft otherRight : SlotEntry}
    {third? otherThird? : Option SlotEntry} (leftLags : left.Lags lead otherLeft)
    (rightLags : right.Lags lead otherRight)
    (thirdLags : Option.Rel (SlotEntry.Lags lead) third? otherThird?) (kind : SlotKind) :
    List.Forall₂ (PlanStep.Shows (SlotTarget.Lags lead kind)) (ternary kind left right third?)
      (ternary kind otherLeft otherRight otherThird?) := by
  have thirdAhead : Option.Rel (SlotEntry.IsAhead lead.ahead) third? otherThird? := by
    cases thirdLags with
    | none => exact .none
    | some lags => exact .some lags.isAhead
  have lagging : ∀ entry ∈ left :: right :: third?.toList, ∃ other, entry.Lags lead other := by
    rintro entry (_ | ⟨_, _ | ⟨_, isThird⟩⟩)
    · exact ⟨otherLeft, leftLags⟩
    · exact ⟨otherRight, rightLags⟩
    · cases thirdLags with
      | none => cases isThird
      | some lags =>
          obtain rfl := List.mem_singleton.1 isThird
          exact ⟨_, lags⟩
  rw [ternary_advance leftLags.isAhead rightLags.isAhead kind thirdAhead,
    List.forall₂_map_right_iff, List.forall₂_same]
  intro step isStep
  obtain ⟨entry, isEntry, isTarget⟩ := Plan.target_of_mem_ternary isStep
  obtain ⟨other, lags⟩ := lagging entry isEntry
  refine ⟨rfl, ?_⟩
  rw [PlanStep.advance, isTarget]
  exact lags.target kind

/-! ### Worlds -/

/-- Alike worlds have call sites of the same kinds. -/
theorem World.Alike.kinds {known : Nat} {left right : World Host}
    (alike : World.Alike forged known left right) :
    right.sites.map CallSite.kind = left.sites.map CallSite.kind := by
  refine List.ext_getElem? fun place => ?_
  rw [List.getElem?_map, List.getElem?_map]
  rcases alike.site_cases place with ⟨isLeft, isRight⟩ | ⟨leftSite, rightSite, isLeft, isRight, both⟩
  · rw [isLeft, isRight]
  · rw [isLeft, isRight, Option.map_some, Option.map_some, both.kind]

/-- A world lags behind another by a lead when the other differs in generations, which are as far ahead
as the lead says, in kept entries, and in plans at call sites. -/
structure World.Lags (forged : Nat → Prop) (lead : Lead) (left right : World Host) : Prop where
  configuration : right.configuration = left.configuration
  heap : right.heap = left.heap
  journal : right.journal = left.journal
  host : right.host = left.host
  registry : right.registry = left.registry.advance lead.ahead right.registry.entries
  floor : lead.floor ≤ left.registry.generationOf
  isFresh : ∀ id, left.registry.definition? id = none → lead.ahead id = 0
  leftAlike : World.Alike forged 0 left left
  rightAlike : World.Alike forged 0 right right
  sites : right.sites.map CallSite.kind = left.sites.map CallSite.kind

namespace World.Lags

variable {lead : Lead} {left right : World Host}

/-- A world lags by nothing behind itself. -/
theorem refl {world : World Host} (alike : World.Alike forged 0 world world) :
    Lags forged ⟨fun _ => 0, fun _ => 0⟩ world world where
  configuration := rfl
  heap := rfl
  journal := rfl
  host := rfl
  registry := by rw [Registry.advance_zero]
  floor _ := Nat.zero_le _
  isFresh _ _ := rfl
  leftAlike := alike
  rightAlike := alike
  sites := rfl

theorem resembles (lags : Lags forged lead left right) : World.Resembles left right where
  configuration := lags.configuration
  heap := lags.heap
  registry := by
    rw [lags.registry]
    exact Registry.resembles_advance _ _ _

theorem withJournal (lags : Lags forged lead left right) (journal : Journal) :
    Lags forged lead { left with journal := journal } { right with journal := journal } :=
  { lags with
    journal := rfl
    leftAlike := lags.leftAlike.withJournal journal
    rightAlike := lags.rightAlike.withJournal journal }

theorem withHeap (lags : Lags forged lead left right) (heap : Heap) :
    Lags forged lead { left with heap := heap } { right with heap := heap } :=
  { lags with
    heap := rfl
    leftAlike := lags.leftAlike.withHeap heap
    rightAlike := lags.rightAlike.withHeap heap }

theorem withHost (lags : Lags forged lead left right) (host : Host) :
    Lags forged lead { left with host := host } { right with host := host } :=
  { lags with
    host := rfl
    leftAlike := lags.leftAlike.withHost host
    rightAlike := lags.rightAlike.withHost host }

/-- The generations that the types have now may be the floor. -/
theorem raiseFloor (lags : Lags forged lead left right) :
    Lags forged ⟨left.registry.generationOf, lead.ahead⟩ left right :=
  { lags with floor := le_refl _ }

/-- The world on the right may be exchanged for one that is alike. -/
theorem trans_alike (lags : Lags forged lead left right) {other : World Host}
    (alike : World.Alike forged 0 right other) : Lags forged lead left other where
  configuration := alike.configuration.symm.trans lags.configuration
  heap := alike.heap.symm.trans lags.heap
  journal := alike.journal.symm.trans lags.journal
  host := alike.host.symm.trans lags.host
  registry := by
    rw [alike.registry_eq, Registry.advance_zero, lags.registry]
    rfl
  floor := lags.floor
  isFresh := lags.isFresh
  leftAlike := lags.leftAlike
  rightAlike := alike.symm.trans alike
  sites := alike.kinds.trans lags.sites

/-- The world on the left may be exchanged for one that is alike. -/
theorem alike_trans (lags : Lags forged lead left right) {other : World Host}
    (alike : World.Alike forged 0 left other) : Lags forged lead other right where
  configuration := lags.configuration.trans alike.configuration
  heap := lags.heap.trans alike.heap
  journal := lags.journal.trans alike.journal
  host := lags.host.trans alike.host
  registry := by
    rw [alike.registry_eq, Registry.advance_zero]
    exact lags.registry
  floor := alike.refreshes.generationOf ▸ lags.floor
  isFresh id unregistered := lags.isFresh id ((alike.definition? id).symm.trans unregistered)
  leftAlike := alike.symm.trans alike
  rightAlike := lags.rightAlike
  sites := lags.sites.trans alike.kinds.symm

/-- The call sites of both worlds stand at the same places and are of the same kinds. -/
theorem site_cases (lags : Lags forged lead left right) (place : Nat) :
    (left.sites[place]? = none ∧ right.sites[place]? = none) ∨ ∃ leftSite rightSite,
      left.sites[place]? = some leftSite ∧ right.sites[place]? = some rightSite ∧
        rightSite.kind = leftSite.kind := by
  have same := congrArg (fun kinds : List SlotKind => kinds[place]?) lags.sites
  simp only [List.getElem?_map] at same
  cases isLeft : left.sites[place]? with
  | none =>
      rw [isLeft, Option.map_none, Option.map_eq_none_iff] at same
      exact .inl ⟨rfl, same⟩
  | some leftSite =>
      rw [isLeft, Option.map_some] at same
      obtain ⟨rightSite, isRight, sameKind⟩ := Option.map_eq_some_iff.1 same
      exact .inr ⟨leftSite, rightSite, rfl, isRight, sameKind⟩

/-- The same mutation in both worlds keeps the lead. -/
theorem mutated (lags : Lags forged lead left right) {next : Registry}
    (leftMutation : Registry.Mutation left.registry next)
    (rightMutation : Registry.Mutation right.registry
      (next.advance lead.ahead right.registry.entries)) :
    Lags forged lead { left with registry := next }
      { right with registry := next.advance lead.ahead right.registry.entries } := by
  have leftEvolves := leftMutation.evolves lags.leftAlike.coherent.wellFormed
  have rightEvolves := rightMutation.evolves lags.rightAlike.coherent.wellFormed
  have leftCoherent := leftMutation.coherent lags.leftAlike.coherent
  have rightCoherent := rightMutation.coherent lags.rightAlike.coherent
  refine { lags with
    registry := rfl
    floor := lags.floor.trans leftEvolves.generationOf_le
    isFresh := fun id unregistered => lags.isFresh id ?_
    leftAlike := lags.leftAlike.withRegistry leftEvolves leftEvolves leftCoherent leftCoherent.refreshes
    rightAlike := lags.rightAlike.withRegistry rightEvolves rightEvolves rightCoherent
      rightCoherent.refreshes }
  by_contra isRegistered
  obtain ⟨old, found⟩ := Option.ne_none_iff_exists'.1 isRegistered
  obtain ⟨new, newFound, _⟩ := leftEvolves id old found
  rw [unregistered] at newFound
  cases newFound

/-- Both worlds have an entry of a type, or neither has. -/
theorem entryOf_cases (lags : Lags forged lead left right) (id : TypeId) :
    (entryOf id left = some (.error (.unknownType id), left) ∧
      entryOf id right = some (.error (.unknownType id), right)) ∨
    ∃ entry leftNext other rightNext,
      entryOf id left = some (.ok entry, leftNext) ∧
      entryOf id right = some (.ok other, rightNext) ∧
      entry.Lags ⟨left.registry.generationOf, lead.ahead⟩ other ∧
      leftNext.registry.generationOf = left.registry.generationOf ∧
      Lags forged lead leftNext rightNext := by
  have isRight := Registry.definition?_advance left.registry lead.ahead right.registry.entries id
  rw [← lags.registry] at isRight
  cases found : left.registry.definition? id with
  | none =>
      rw [found, Option.map_none] at isRight
      exact .inl ⟨entryOf_of_unregistered lags.leftAlike.coherent found,
        entryOf_of_unregistered lags.rightAlike.coherent isRight⟩
  | some definition =>
      rw [found, Option.map_some] at isRight
      obtain ⟨entry, leftNext, isEntryOf, isEntry, leftAlike⟩ :=
        entryOf_succeeds lags.leftAlike found
      obtain ⟨other, rightNext, isOtherOf, isOther, rightAlike⟩ :=
        entryOf_succeeds lags.rightAlike isRight
      rw [lags.registry] at isOther
      refine .inr ⟨entry, leftNext, other, rightNext, isEntryOf, isOtherOf,
        ⟨isEntry.fits, isEntry.isAhead isOther, ?_⟩, leftAlike.refreshes.generationOf,
        (lags.alike_trans leftAlike).trans_alike rightAlike⟩
      intro kind override inherited isOverride
      have resolves := isEntry.resolves kind
      rw [isOverride] at resolves
      exact resolves.generation_eq

/-- Both worlds may get a new call site. -/
theorem addSite (lags : Lags forged lead left right) (kind : SlotKind) :
    Lags forged lead { left with sites := left.sites ++ [.new kind] }
      { right with sites := right.sites ++ [.new kind] } :=
  { lags with
    leftAlike := lags.leftAlike.addSite kind
    rightAlike := lags.rightAlike.addSite kind
    sites := by rw [List.map_append, List.map_append, lags.sites] }

/-- An invalidation in the world on the right only increases the lead. -/
theorem invalidated (lags : Lags forged lead left right) (id : TypeId) :
    ∃ outcome other later, lead ≤ later ∧
      onRegistry (TypeChange.invalidate id) right = some (outcome, other) ∧
      Lags forged later left other := by
  cases found : right.registry.definition? id with
  | none =>
      refine ⟨.error (.unknownType id), right, lead, le_refl lead, ?_, lags⟩
      rw [TypeChange.invalidate_eq]
      simp only [onRegistry, onPart, tryChange, Registry.invalidate, Registry.require, found]
      rfl
  | some definition =>
      obtain ⟨further, isFurther, isFresh, raised⟩ :=
        Registry.exists_ahead_raiseGenerations left.registry lead.ahead right.registry.entries
          (id :: right.registry.descendants id)
      rw [← lags.registry] at raised
      have isOutcome : onRegistry (TypeChange.invalidate id) right =
          some (.ok (), { right with registry := right.registry.raiseFamily id }) := by
        rw [TypeChange.invalidate_eq]
        simp only [onRegistry, onPart, tryChange, Registry.invalidate, Registry.require, found]
        rfl
      have rightAlike : World.Alike forged 0
          { right with registry := right.registry.raiseFamily id }
          { right with registry := right.registry.raiseFamily id } := by
        have matched := oblivious_invalidate id right right lags.rightAlike
        rw [isOutcome] at matched
        cases matched with
        | some both => exact both.2
      refine ⟨.ok (), _, ⟨lead.floor, further⟩, ⟨le_refl _, isFurther⟩, isOutcome,
        { lags with
          registry := ?_
          isFresh := fun other unregistered =>
            (isFresh other unregistered).trans (lags.isFresh other unregistered)
          rightAlike := rightAlike }⟩
      rw [show right.registry.raiseFamily id = _ from raised]
      rfl

end World.Lags

/-! ### Actions -/

/-- The second of two actions repeats the first in two worlds when it has the same outcome and leaves a
world that the first lags behind, by the lead at the start or a later one. -/
def Action.RepeatsIn (forged : Nat → Prop) (lead : Lead) (left right : World Host)
    (first second : Action (World Host) Result) : Prop :=
  ∀ outcome next, first left = some (outcome, next) →
    ∃ last other, lead ≤ last ∧ second right = some (outcome, other) ∧
      World.Lags forged last next other

/-- The second of two actions repeats the first when it does so in all worlds of which one lags behind
the other, by a lead or a later one. -/
def Action.Repeats (forged : Nat → Prop) (lead : Lead) (first second : Action (World Host) Result) :
    Prop :=
  ∀ later, lead ≤ later → ∀ left right, World.Lags forged later left right →
    RepeatsIn forged later left right first second

/-- The slots that an entry shows are as low and as far ahead as the lead says. -/
theorem Action.RepeatsIn.entryOf_bind {lead : Lead} {left right : World Host}
    (lags : World.Lags forged lead left right) (id : TypeId)
    {first second : SlotEntry → Action (World Host) Result}
    (repeats : ∀ entry other leftNext rightNext,
      entry.Lags ⟨left.registry.generationOf, lead.ahead⟩ other →
      leftNext.registry.generationOf = left.registry.generationOf →
      World.Lags forged lead leftNext rightNext →
      RepeatsIn forged lead leftNext rightNext (first entry) (second other)) :
    RepeatsIn forged lead left right (entryOf id >>= first) (entryOf id >>= second) := by
  intro outcome next isOutcome
  rw [bind_apply] at isOutcome ⊢
  rcases lags.entryOf_cases id with ⟨isLeft, isRight⟩ |
    ⟨entry, leftNext, other, rightNext, isLeft, isRight, entryLags, same, nextLags⟩
  · rw [isLeft] at isOutcome
    obtain ⟨rfl, rfl⟩ := Prod.mk.inj (Option.some.inj isOutcome)
    exact ⟨lead, right, le_refl lead, by rw [isRight], lags⟩
  · rw [isLeft] at isOutcome
    rw [isRight]
    exact repeats entry other leftNext rightNext entryLags same nextLags outcome next isOutcome

/-- The generations that the types have now are a later floor. -/
theorem World.Lags.le_floor {lead : Lead} {left right : World Host}
    (lags : World.Lags forged lead left right) :
    lead ≤ ⟨left.registry.generationOf, lead.ahead⟩ :=
  ⟨lags.floor, le_refl _⟩

/-- What is repeated from a later floor on is repeated. -/
theorem World.Lags.repeatsIn_of_floor {lead : Lead} {left right : World Host}
    (lags : World.Lags forged lead left right) {first second : Action (World Host) Result}
    (repeats : Repeats forged ⟨left.registry.generationOf, lead.ahead⟩ first second) :
    RepeatsIn forged lead left right first second := by
  intro outcome next isOutcome
  obtain ⟨last, other, isLast, isSecond, lastLags⟩ :=
    repeats _ (le_refl _) left right lags.raiseFloor outcome next isOutcome
  exact ⟨last, other, lags.le_floor.trans isLast, isSecond, lastLags⟩

namespace Action.Repeats

variable {lead : Lead}

theorem pure (result : Result) :
    Repeats forged lead (Pure.pure result : Action (World Host) Result) (Pure.pure result) := by
  intro later _ left right lags outcome next isOutcome
  obtain ⟨rfl, rfl⟩ := Prod.mk.inj (Option.some.inj isOutcome)
  exact ⟨later, right, le_refl later, rfl, lags⟩

theorem fail (error : Error) :
    Repeats forged lead (Action.fail error : Action (World Host) Result) (Action.fail error) := by
  intro later _ left right lags outcome next isOutcome
  obtain ⟨rfl, rfl⟩ := Prod.mk.inj (Option.some.inj isOutcome)
  exact ⟨later, right, le_refl later, rfl, lags⟩

/-- Every action repeats one that has no outcome. -/
theorem exhausted (action : Action (World Host) Result) :
    Repeats forged lead Action.exhausted action :=
  fun _ _ _ _ _ _ _ isOutcome => nomatch isOutcome

theorem attempt {first second : Action (World Host) Result}
    (repeats : Repeats forged lead first second) :
    Repeats forged lead (Action.attempt first) (Action.attempt second) := by
  intro later isLater left right lags outcome next isOutcome
  obtain ⟨⟨found, middle⟩, isFirst, isAnswer⟩ := Option.map_eq_some_iff.1 isOutcome
  obtain ⟨rfl, rfl⟩ := Prod.mk.inj isAnswer
  obtain ⟨last, other, isLast, isSecond, stillLags⟩ :=
    repeats later isLater left right lags found middle isFirst
  exact ⟨last, other, isLast, by rw [Action.attempt, isSecond, Option.map_some], stillLags⟩

theorem bind {first other : Action (World Host) Result}
    {second continued : Result → Action (World Host) Next}
    (repeats : Repeats forged lead first other)
    (repeatsLater : ∀ result, Repeats forged lead (second result) (continued result)) :
    Repeats forged lead (first >>= second) (other >>= continued) := by
  intro later isLater left right lags outcome next isOutcome
  rw [bind_apply] at isOutcome
  cases isFirst : first left with
  | none =>
      rw [isFirst] at isOutcome
      cases isOutcome
  | some found =>
      obtain ⟨firstOutcome, middle⟩ := found
      rw [isFirst] at isOutcome
      obtain ⟨between, rightMiddle, isBetween, isOther, middleLags⟩ :=
        repeats later isLater left right lags firstOutcome middle isFirst
      rw [bind_apply, isOther]
      cases firstOutcome with
      | error error =>
          obtain ⟨rfl, rfl⟩ := Prod.mk.inj (Option.some.inj isOutcome)
          exact ⟨between, rightMiddle, isBetween, rfl, middleLags⟩
      | ok result =>
          obtain ⟨last, rightNext, isLast, isContinued, lastLags⟩ :=
            repeatsLater result between (isLater.trans isBetween) middle rightMiddle middleLags
              outcome next isOutcome
          exact ⟨last, rightNext, isBetween.trans isLast, isContinued, lastLags⟩

theorem noted (callable : Callable) (arguments : List Value) (toValue : Result → Value)
    {first second : Action (World Host) Result} (repeats : Repeats forged lead first second) :
    Repeats forged lead (Action.noted callable arguments toValue first)
      (Action.noted callable arguments toValue second) := by
  intro later isLater left right lags outcome next isOutcome
  obtain ⟨⟨found, middle⟩, isFirst, isNoted⟩ := Option.map_eq_some_iff.1 isOutcome
  obtain ⟨rfl, rfl⟩ := Prod.mk.inj isNoted
  obtain ⟨last, other, isLast, isSecond, stillLags⟩ :=
    repeats later isLater _ _ (lags.withJournal []) found middle isFirst
  refine ⟨last, { other with journal := _ }, isLast, ?_, stillLags.withJournal _⟩
  rw [Action.noted, isSecond, Option.map_some, stillLags.journal, lags.journal]

theorem current_bind {first second : World Host → Action (World Host) Result}
    (repeats : ∀ left right, World.Resembles left right →
      Repeats forged lead (first left) (second right)) :
    Repeats forged lead (current >>= first) (current >>= second) :=
  fun later isLater left right lags =>
    repeats left right lags.resembles later isLater left right lags

theorem changeHeap (update : Heap → Heap) :
    Repeats forged lead (Action.changeHeap update : Action (World Host) Unit)
      (Action.changeHeap update) := by
  intro later _ left right lags outcome next isOutcome
  obtain ⟨rfl, rfl⟩ := Prod.mk.inj (Option.some.inj isOutcome)
  refine ⟨later, { right with heap := update right.heap }, le_refl later, rfl, ?_⟩
  rw [lags.heap]
  exact lags.withHeap _

/-- The same change of the registry has the same outcome. -/
theorem changeRegistry {change : Registry → Except Error Registry}
    (advances : Registry.Advances change)
    (isMutation : ∀ {before after}, change before = .ok after → Registry.Mutation before after) :
    Repeats forged lead (Action.changeRegistry change : Action (World Host) Unit)
      (Action.changeRegistry change) := by
  intro later _ left right lags outcome world isOutcome
  rcases Action.changeRegistry_cases lags.registry advances with
    ⟨error, isLeft, isRight⟩ | ⟨next, isNext, isOther, isLeft, isRight⟩
  · obtain ⟨rfl, rfl⟩ := Prod.mk.inj (Option.some.inj (isLeft.symm.trans isOutcome))
    exact ⟨later, right, le_refl later, isRight, lags⟩
  · obtain ⟨rfl, rfl⟩ := Prod.mk.inj (Option.some.inj (isLeft.symm.trans isOutcome))
    exact ⟨later, _, le_refl later, isRight, lags.mutated (isMutation isNext) (isMutation isOther)⟩

/-- An entry that was read is shown at the generations that the types have now. -/
theorem entryOf_bind (id : TypeId) {first second : SlotEntry → Action (World Host) Result}
    (repeats : ∀ later, lead ≤ later → ∀ entry other,
      SlotEntry.Shows (SlotTarget.Lags later) entry other →
      Repeats forged later (first entry) (second other)) :
    Repeats forged lead (entryOf id >>= first) (entryOf id >>= second) := by
  intro later isLater left right lags
  refine .entryOf_bind lags id fun entry other leftNext rightNext entryLags same nextLags => ?_
  refine nextLags.repeatsIn_of_floor ?_
  rw [same]
  exact repeats _ (isLater.trans lags.le_floor) entry other entryLags.shows

/-- Entries that are read one after the other are shown alike, and so are the plans of them. -/
theorem withEntries (left right : TypeId) (third? : Option TypeId)
    {first second : SlotEntry → SlotEntry → Option SlotEntry → Action (World Host) Result}
    (repeats : ∀ later, lead ≤ later → ∀ leftEntry rightEntry thirdEntry? otherLeft otherRight
      otherThird?, SlotEntry.Shows (SlotTarget.Lags later) leftEntry otherLeft →
      SlotEntry.Shows (SlotTarget.Lags later) rightEntry otherRight →
      (∀ kind, List.Forall₂ (PlanStep.Shows (SlotTarget.Lags later kind))
        (Plan.ternary kind leftEntry rightEntry thirdEntry?)
        (Plan.ternary kind otherLeft otherRight otherThird?)) →
      Repeats forged later (first leftEntry rightEntry thirdEntry?)
        (second otherLeft otherRight otherThird?)) :
    Repeats forged lead (Action.withEntries left right third? first)
      (Action.withEntries left right third? second) := by
  intro later isLater leftWorld rightWorld lags
  have isFloor := isLater.trans lags.le_floor
  refine .entryOf_bind lags left fun leftEntry otherLeft _ _ leftLags same₁ lags₁ => ?_
  refine .entryOf_bind lags₁ right fun rightEntry otherRight _ _ rightLags same₂ lags₂ => ?_
  rw [same₁] at rightLags same₂
  cases third? with
  | none =>
      refine lags₂.repeatsIn_of_floor ?_
      rw [same₂]
      exact repeats _ isFloor leftEntry rightEntry none otherLeft otherRight none leftLags.shows
        rightLags.shows (Plan.ternary_lags leftLags rightLags .none)
  | some third =>
      refine .entryOf_bind lags₂ third fun thirdEntry otherThird _ _ thirdLags same₃ lags₃ => ?_
      rw [same₂] at thirdLags same₃
      refine lags₃.repeatsIn_of_floor ?_
      rw [same₃]
      exact repeats _ isFloor leftEntry rightEntry (some thirdEntry) otherLeft otherRight
        (some otherThird) leftLags.shows rightLags.shows
        (Plan.ternary_lags leftLags rightLags (.some thirdLags))

end Action.Repeats

/-! ### The judgement of lagging worlds -/

/-- The second of two actions repeats the first, and the targets that are shown lag. -/
def Judgement.lagging (Host : Type) (forged : Nat → Prop) : Judgement Host Lead where
  Relates lead first second := Action.Repeats forged lead first second
  Shows lead kind target other := target.Lags lead kind other
  IsLenient := False
  resembles lags := lags.resembles
  suits lags := .inr lags.fits
  exact isLenient := isLenient.elim
  pure result := .pure result
  bind repeats repeatsLater := repeats.bind repeatsLater
  fail _ := .fail _
  rescue repeats onResult onError :=
    repeats.attempt.bind (Action.related_of_outcome (fun _ => .fail _) onResult onError)
  noted callable arguments toValue repeats := repeats.noted callable arguments toValue
  consult repeats := .current_bind repeats
  changeHeap update _ := .changeHeap update
  assign id name content := by
    rw [TypeChange.assign_eq]
    exact .changeRegistry (Registry.setAttribute_advances id name content) (.assigned id name content)
  delete id name := by
    rw [TypeChange.delete_eq]
    exact .changeRegistry (Registry.deleteAttribute_advances id name) (.deleted id name)
  entryOf id := .entryOf_bind id
  withEntries left right third? := .withEntries left right third?

end SlotDispatch
