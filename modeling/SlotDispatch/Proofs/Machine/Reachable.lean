import SlotDispatch.Proofs.Machine.Perform
import SlotDispatch.Proofs.Type.SpecialMethod
/-!
Reachable worlds. The main statements say that the entry of a type always has the targets that follow
from the current definitions, and that a call site evaluates its operator as the machine does without
a call site.
-/

namespace SlotDispatch

open SlotDispatch.Action SlotDispatch.Machine

variable {Host : Type} {forged : Nat → Prop}

/-- A world is reachable when it comes from a first world by answers to sparing requests, for machines
of any depth with any sparing programs. Between two answers the caller may change the journal and the
state of the host. -/
inductive World.Reachable (forged : Nat → Prop) : World Host → Prop where
  | initial (configuration : Configuration) (host : Host) :
      Reachable forged (.initial configuration host)
  | answered {world next : World Host} {program : Program Host} {depth : Nat} {request : Request}
      {outcome : Except Error request.Reply} (reachable : Reachable forged world)
      (spares : Program.Spares forged program) (isSparing : request.Spares forged)
      (isOutcome : perform program depth request world = some (outcome, next)) :
      Reachable forged next
  | resumed {world : World Host} (reachable : Reachable forged world) (journal : Journal)
      (host : Host) : Reachable forged { world with journal := journal, host := host }

namespace World

theorem alike_initial (configuration : Configuration) (host : Host) :
    Alike forged 0 (initial configuration host) (initial configuration host) where
  configuration := rfl
  heap := rfl
  journal := rfl
  host := rfl
  isKnown := Nat.zero_le _
  coherent := Registry.coherent_initial _
  refreshes := ⟨rfl, rfl, Registry.coherent_initial _⟩
  siteCount := rfl
  sites := fun _ => .none

/-- A reachable world is alike itself: its entries are coherent, and its clean call sites are
sound. -/
theorem Reachable.alike {world : World Host} (reachable : Reachable forged world) :
    Alike forged 0 world world := by
  induction reachable with
  | initial configuration host => exact alike_initial configuration host
  | @answered world next program depth request outcome _ spares isSparing isOutcome
      inductionHypothesis =>
      have matched := oblivious_perform spares depth 0 request isSparing world world
        inductionHypothesis
      rw [isOutcome] at matched
      cases matched with
      | some both => exact both.2
  | resumed _ journal host inductionHypothesis =>
      exact (inductionHypothesis.withJournal journal).withHost host

/-- A reachable world stays reachable when all call sites may be forged. -/
theorem Reachable.forgeAll {world : World Host} (reachable : Reachable forged world) :
    Reachable (fun _ => True) world := by
  induction reachable with
  | initial configuration host => exact .initial configuration host
  | @answered world next program _ request _ _ _ _ isOutcome inductionHypothesis =>
      exact inductionHypothesis.answered (Program.spares_of_forall (fun _ => trivial) program)
        (request.spares_of_forall fun _ => trivial) isOutcome
  | resumed _ journal host inductionHypothesis => exact inductionHypothesis.resumed journal host

/-- When all call sites may be forged, every answer leads from the first world to a reachable one. -/
theorem Reachable.of_outcome {configuration : Configuration} {host : Host} {program : Program Host}
    {depth : Nat} {request : Request} {outcome : Except Error request.Reply} {world : World Host}
    (isOutcome : perform program depth request (.initial configuration host) =
      some (outcome, world)) : Reachable (fun _ => True) world :=
  .answered (.initial configuration host) (Program.spares_of_forall (fun _ => trivial) program)
    (Request.spares_of_forall (fun _ => trivial) request) isOutcome

end World

/-! ### Entries of types -/

/-- The entry of a type that a reachable world gives has the current linearization of the type, and
its targets are what the slots resolve to in the current definitions. -/
theorem World.entryOf_resolves {world : World Host} (reachable : World.Reachable forged world)
    {id : TypeId} {definition : TypeDefinition}
    (found : world.registry.definition? id = some definition) :
    (entryOf id).Succeeds world fun entry _ =>
      entry.typeId = id ∧ entry.linearization = definition.linearization ∧
        ∀ kind target, world.registry.ResolvesAlong kind definition.linearization target ↔
          target = entry.target kind := by
  refine (entryOf_succeeds reachable.alike found).mono fun entry next ⟨isEntry, _⟩ => ?_
  refine ⟨isEntry.typeId, isEntry.linearization, fun kind target => ⟨fun resolves => ?_, ?_⟩⟩
  · exact resolves.unique (isEntry.resolves kind)
  · rintro rfl
    exact isEntry.resolves kind

/-- A type gets an attribute after its entry was kept, and its next entry is made anew. -/
theorem World.entryOf_resolves_meter :
    ∃ world : World Unit, World.Reachable (fun _ => True) world ∧
      ∃ definition, world.registry.definition? 13 = some definition ∧ definition.name = "Meter" ∧
        (definition.attributes.get? "__add__").map Value.isNone = some true ∧
        (entryOf 13).Succeeds world fun entry _ =>
          entry.typeId = 13 ∧ entry.linearization = definition.linearization ∧
            ∀ kind target, world.registry.ResolvesAlong kind definition.linearization target ↔
              target = entry.target kind := by
  let program : Program Unit := fun _ _ => do
    let id ← Body.request (.createType "Meter" [.int] .empty)
    let _ ← Body.request (.target id .add)
    Body.request (.setTypeAttribute id "__add__" .none)
    return .none
  have isMade :
      ((perform program 2 (.apply "make" 0 []) (.initial .default ())).bind fun answer =>
        (answer.2.registry.definition? 13).map fun definition =>
          (definition.name, (definition.attributes.get? "__add__").map Value.isNone)) =
        some ("Meter", some true) := by
    decide +kernel
  obtain ⟨⟨outcome, world⟩, isOutcome, isFound⟩ := Option.bind_eq_some_iff.1 isMade
  obtain ⟨definition, found, isDefinition⟩ := Option.map_eq_some_iff.1 isFound
  have reachable := World.Reachable.of_outcome isOutcome
  exact ⟨world, reachable, definition, found, congrArg Prod.fst isDefinition,
    congrArg Prod.snd isDefinition, World.entryOf_resolves reachable found⟩

/-! ### Special methods -/

/-- The entry of a type reaches, for every special method, what the linearization of the type
provides. That is the first offer along the linearization if the definers of the slot stand in
order, as they do under single inheritance. -/
theorem World.entryOf_reaches {world : World Host} (reachable : World.Reachable forged world)
    {id : TypeId} {definition : TypeDefinition}
    (found : world.registry.definition? id = some definition) :
    (entryOf id).Succeeds world fun entry _ => ∀ kind : SlotKind, ∀ dunder ∈ kind.dunders,
      (∃ reached, world.registry.ProvidesAlong kind dunder definition.linearization reached) ∧
      (∀ reached, world.registry.ProvidesAlong kind dunder definition.linearization reached →
        ((entry.target kind).reach dunder).effective = reached.effective) ∧
      (world.registry.DefinersInOrder kind definition.linearization →
        ((entry.target kind).reach dunder).effective =
          (world.registry.firstOffer kind dunder definition.linearization).effective) ∧
      (world.registry.InheritSingly definition.linearization →
        world.registry.DefinersInOrder kind definition.linearization) := by
  have coherent := reachable.alike.coherent
  refine (entryOf_succeeds reachable.alike found).mono ?_
  intro entry _ ⟨isEntry, _⟩ kind dunder isMember
  obtain ⟨reached, provides, same⟩ := (isEntry.resolves kind).provides isMember
  refine ⟨⟨reached, provides⟩, fun other otherProvides => ?_, fun inOrder => ?_, fun isSingle => ?_⟩
  · rw [otherProvides.unique provides, same]
  · rw [← same, provides.eq_firstOffer coherent.wellFormed coherent.keepsBuiltins isMember inOrder]
  · exact coherent.wellFormed.definersInOrder found isSingle

/-- A class that blocks an operation of integers reaches what it offers first. -/
theorem World.entryOf_reaches_meter :
    ∃ world : World Unit, World.Reachable (fun _ => True) world ∧
      ∃ definition, world.registry.definition? 13 = some definition ∧
        world.registry.InheritSingly definition.linearization ∧
        (entryOf 13).Succeeds world fun entry _ => ∀ dunder ∈ SlotKind.dunders .add,
          ((entry.target .add).reach dunder).effective =
            (world.registry.firstOffer .add dunder definition.linearization).effective := by
  let program : Program Unit := fun _ _ => do
    let _ ← Body.request (.createType "Meter" [.int] ⟨[("__radd__", .none)]⟩)
    return .none
  have isMade :
      ((perform program 2 (.apply "make" 0 []) (.initial .default ())).bind fun answer =>
        (answer.2.registry.definition? 13).map fun definition =>
          definition.linearization.all fun ancestor =>
            (answer.2.registry.definition? ancestor).all fun ancestorDefinition =>
              ancestorDefinition.bases.length ≤ 1) =
        some true := by
    decide +kernel
  obtain ⟨⟨outcome, world⟩, isOutcome, isFound⟩ := Option.bind_eq_some_iff.1 isMade
  obtain ⟨definition, found, isShort⟩ := Option.map_eq_some_iff.1 isFound
  have reachable := World.Reachable.of_outcome isOutcome
  have isSingle : world.registry.InheritSingly definition.linearization := by
    intro ancestor isAncestor ancestorDefinition ancestorFound
    have isAncestorShort := List.all_eq_true.1 isShort ancestor isAncestor
    rw [ancestorFound] at isAncestorShort
    exact of_decide_eq_true isAncestorShort
  refine ⟨world, reachable, definition, found, isSingle, ?_⟩
  refine (World.entryOf_reaches reachable found).mono fun entry _ reaches dunder isMember => ?_
  obtain ⟨_, _, reachesOffer, inOrder⟩ := reaches .add dunder isMember
  exact reachesOffer (inOrder isSingle)

/-- This test tells one builtin operation. -/
def Reached.isBuiltin (operation : Builtin) : Reached → Bool
  | .builtin other => other = operation
  | _ => false

/-- This test tells one integer that stands for a method. -/
def Reached.isInteger (number : Int64) : Reached → Bool
  | .method (.int other) => other = number
  | _ => false

theorem Reached.eq_of_isBuiltin {operation : Builtin} {reached : Reached}
    (isTrue : reached.isBuiltin operation = true) : reached = .builtin operation := by
  cases reached with
  | builtin other => rw [of_decide_eq_true isTrue]
  | method | blocked | absent => cases isTrue

theorem Reached.eq_of_isInteger {number : Int64} {reached : Reached}
    (isTrue : reached.isInteger number = true) : reached = .method (.int number) := by
  cases reached with
  | method value =>
      cases value with
      | int other => rw [of_decide_eq_true isTrue]
      | float | bool | none | notImplemented | object => cases isTrue
  | builtin | blocked | absent => cases isTrue

/-- A test of a definition and an entry that evaluates to true has found both. -/
theorem World.exists_entry_of_any {world : World Host} {id : TypeId}
    {test : TypeDefinition → SlotEntry → Bool}
    (isTrue : ((world.registry.definition? id).any fun definition =>
      (entryOf id world).any fun found => found.1.toOption.any (test definition)) = true) :
    ∃ definition entry next, world.registry.definition? id = some definition ∧
      entryOf id world = some (.ok entry, next) ∧ test definition entry = true := by
  obtain ⟨definition, found, isTrue⟩ := (Option.any_eq_true _ _).1 isTrue
  obtain ⟨⟨outcome, next⟩, isOutcome, isTrue⟩ := (Option.any_eq_true _ _).1 isTrue
  cases outcome with
  | error error => cases isTrue
  | ok entry => exact ⟨definition, entry, next, found, isOutcome, isTrue⟩

/-- A class without definitions of its own shares the slot of its first base, although its second
base offers another special method of the slot. A class in front of integers and a mixin calls the
mixin, although integers offer their operation first. -/
theorem World.entryOf_misses_offers :
    ∃ world : World Unit, World.Reachable (fun _ => True) world ∧
      (∃ definition entry next, world.registry.definition? 15 = some definition ∧
        entryOf 15 world = some (.ok entry, next) ∧
        (entry.target .richCompare).reach "__eq__" = .builtin .objectRichCompare ∧
        world.registry.firstOffer .richCompare "__eq__" definition.linearization =
          .method (.int 2)) ∧
      ∃ definition entry next, world.registry.definition? 17 = some definition ∧
        entryOf 17 world = some (.ok entry, next) ∧
        (entry.target .add).reach "__radd__" = .method (.int 3) ∧
        world.registry.firstOffer .add "__radd__" definition.linearization = .builtin .intAdd := by
  let program : Program Unit := fun _ _ => do
    let first ← Body.request (.createType "First" [.object] ⟨[("__lt__", .int 1)]⟩)
    let second ← Body.request (.createType "Second" [.object] ⟨[("__eq__", .int 2)]⟩)
    let _ ← Body.request (.createType "Both" [first, second] .empty)
    let mixin ← Body.request (.createType "Mixin" [.object] ⟨[("__radd__", .int 3)]⟩)
    let _ ← Body.request (.createType "Mixed" [.int, mixin] ⟨[("__add__", .int 4)]⟩)
    return .none
  have isMade :
      ((perform program 2 (.apply "make" 0 []) (.initial .default ())).any fun answer =>
        ((answer.2.registry.definition? 15).any fun definition =>
          (entryOf 15 answer.2).any fun found => found.1.toOption.any fun entry =>
            ((entry.target .richCompare).reach "__eq__").isBuiltin .objectRichCompare &&
              (answer.2.registry.firstOffer .richCompare "__eq__"
                definition.linearization).isInteger 2) &&
        (answer.2.registry.definition? 17).any fun definition =>
          (entryOf 17 answer.2).any fun found => found.1.toOption.any fun entry =>
            ((entry.target .add).reach "__radd__").isInteger 3 &&
              (answer.2.registry.firstOffer .add "__radd__"
                definition.linearization).isBuiltin .intAdd) =
        true := by
    decide +kernel
  obtain ⟨⟨outcome, world⟩, isOutcome, isTrue⟩ := (Option.any_eq_true _ _).1 isMade
  obtain ⟨isBoth, isMixed⟩ := Bool.and_eq_true_iff.1 isTrue
  have reachable := World.Reachable.of_outcome isOutcome
  obtain ⟨both, bothEntry, bothNext, bothFound, isBothEntry, isBoth⟩ :=
    World.exists_entry_of_any isBoth
  obtain ⟨mixed, mixedEntry, mixedNext, mixedFound, isMixedEntry, isMixed⟩ :=
    World.exists_entry_of_any isMixed
  obtain ⟨reachesObject, offersMethod⟩ := Bool.and_eq_true_iff.1 isBoth
  obtain ⟨reachesMethod, offersOperation⟩ := Bool.and_eq_true_iff.1 isMixed
  exact ⟨world, reachable,
    ⟨both, bothEntry, bothNext, bothFound, isBothEntry, Reached.eq_of_isBuiltin reachesObject,
      Reached.eq_of_isInteger offersMethod⟩,
    mixed, mixedEntry, mixedNext, mixedFound, isMixedEntry, Reached.eq_of_isInteger reachesMethod,
    Reached.eq_of_isBuiltin offersOperation⟩

/-! ### Call sites -/

/-- A call site that was never given a forged plan evaluates its operator as the machine does without
a call site, and it remembers for the current generations only the plan of the current entries. -/
theorem World.cached_matches_binary {world : World Host} (reachable : World.Reachable forged world)
    {site : Nat} (isClean : ¬ forged site) {callSite : CallSite}
    (isSite : world.sites[site]? = some callSite) {program : Program Host}
    (spares : Program.Spares forged program) (depth : Nat) (left right : Value) :
    Matches (World.Alike forged 0)
        (perform program (depth + 1) (.cached site left right) world)
        (perform program (depth + 1) (.binary callSite.kind left right) world) ∧
      ∀ plan leftDefinition rightDefinition,
        world.registry.definition? left.typeId = some leftDefinition →
        world.registry.definition? right.typeId = some rightDefinition →
        callSite.lookup ⟨left.typeId, right.typeId, leftDefinition.generation,
          rightDefinition.generation⟩ = some plan →
        (entryOf left.typeId).Succeeds world fun leftEntry next =>
          (entryOf right.typeId).Succeeds next fun rightEntry _ =>
            plan = Plan.binary callSite.kind leftEntry rightEntry := by
  constructor
  · exact Operator.matches_cached (oblivious_perform spares depth) reachable.alike isClean isSite
  · intro plan leftDefinition rightDefinition leftFound rightFound isHit
    obtain ⟨leftEntry, rightEntry, leftIsEntry, rightIsEntry, rfl⟩ :=
      (reachable.alike.isSound isClean isSite).lookup leftFound rightFound isHit
    refine (entryOf_succeeds reachable.alike leftFound).mono fun foundLeft next ⟨isLeft, alike⟩ => ?_
    refine (entryOf_succeeds (alike.symm.trans alike)
      ((alike.definition? right.typeId).trans rightFound)).mono fun foundRight _ ⟨isRight, _⟩ => ?_
    rw [isLeft.unique leftIsEntry,
      (alike.refreshes.isEntry rightFound isRight).unique rightIsEntry]

/-- A call site that has added two truth values remembers the plan of their entries. -/
theorem World.cached_matches_binary_bool :
    ∃ world : World Unit, World.Reachable (fun _ => False) world ∧
      ∃ callSite, world.sites[0]? = some callSite ∧ callSite.kind = .add ∧ callSite.size = 1 ∧
        Matches (World.Alike (fun _ => False) 0)
          (perform (fun _ _ => .done (.ok .none)) 1 (.cached 0 (.bool true) (.bool true)) world)
          (perform (fun _ _ => .done (.ok .none)) 1
            (.binary callSite.kind (.bool true) (.bool true)) world) ∧
        ∃ plan leftDefinition rightDefinition,
          world.registry.definition? .bool = some leftDefinition ∧
          world.registry.definition? .bool = some rightDefinition ∧
          callSite.lookup ⟨.bool, .bool, leftDefinition.generation, rightDefinition.generation⟩ =
            some plan ∧
          (entryOf .bool).Succeeds world fun leftEntry next =>
            (entryOf .bool).Succeeds next fun rightEntry _ =>
              plan = Plan.binary callSite.kind leftEntry rightEntry := by
  let program : Program Unit := fun _ _ => do
    let site ← Body.request (.newSite .add)
    Body.request (.cached site (.bool true) (.bool false))
  have spares : Program.Spares (fun _ => False) program := fun _ _ =>
    .bind ⟨trivial, fun reply => trivial⟩ fun site => ⟨trivial, fun reply => trivial⟩
  have isMade :
      ((perform program 2 (.apply "add" 0 []) (.initial .default ())).bind fun answer =>
        answer.2.sites[0]?.bind fun callSite =>
          (answer.2.registry.definition? .bool).bind fun definition =>
            (callSite.lookup ⟨.bool, .bool, definition.generation, definition.generation⟩).map
              fun _ => (callSite.kind, callSite.size)) =
        some (.add, 1) := by
    decide +kernel
  obtain ⟨⟨outcome, world⟩, isOutcome, isFound⟩ := Option.bind_eq_some_iff.1 isMade
  obtain ⟨callSite, isSite, isFound⟩ := Option.bind_eq_some_iff.1 isFound
  obtain ⟨definition, found, isFound⟩ := Option.bind_eq_some_iff.1 isFound
  obtain ⟨plan, isHit, isCallSite⟩ := Option.map_eq_some_iff.1 isFound
  have isSparing : (Request.apply "add" 0 []).Spares (fun _ => False) := trivial
  have reachable : World.Reachable (fun _ => False) world :=
    .answered (.initial .default ()) spares isSparing isOutcome
  have isSilent : Program.Spares (fun _ => False)
      (fun _ _ => .done (.ok .none) : Program Unit) := fun _ _ => trivial
  obtain ⟨isAlike, isPlan⟩ := World.cached_matches_binary reachable not_false isSite isSilent 0
    (.bool true) (.bool true)
  exact ⟨world, reachable, callSite, isSite, congrArg Prod.fst isCallSite,
    congrArg Prod.snd isCallSite, isAlike, plan, definition, definition, found, found, isHit,
    isPlan plan definition definition found found isHit⟩

end SlotDispatch
