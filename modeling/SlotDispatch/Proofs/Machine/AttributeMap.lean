import SlotDispatch.Proofs.Machine.Attribute
/-!
Changes of attributes. The main statement says that a class gives its instances a map of attributes of
their own, which changes by stores and deletions only, and that the data descriptors of the class stand
in front of this map.
-/

namespace SlotDispatch

open SlotDispatch.Action SlotDispatch.Machine

variable {Host : Type} {forged : Nat → Prop}

/-! ### Many attributes of many objects -/

/-- A change stores the content of an attribute of an object, or deletes the attribute when there is no
content. -/
structure AttributeChange where
  value : Value
  name : String
  content? : Option Value

namespace AttributeChange

/-- The machine is asked for the change. -/
def run (perform : Perform Host) (change : AttributeChange) : Action (World Host) Unit :=
  match change.content? with
  | some content => perform (.setAttribute change.value change.name content)
  | none => perform (.deleteAttribute change.value change.name)

/-- A change concerns the attribute of one name of one object. -/
def concerns (change : AttributeChange) (value : Value) (name : String) : Bool :=
  change.value.isSame value && name = change.name

/-- The last of some changes that concern an attribute decides its content. -/
def contentAfter (changes : List AttributeChange) (value : Value) (name : String)
    (before : Option Value) : Option Value :=
  match changes.reverse.find? fun change => change.concerns value name with
  | some change => change.content?
  | none => before

theorem contentAfter_append (changes : List AttributeChange) (change : AttributeChange)
    (value : Value) (name : String) (before : Option Value) :
    contentAfter (changes ++ [change]) value name before =
      if change.concerns value name then change.content?
      else contentAfter changes value name before := by
  rw [contentAfter, List.reverse_append, List.reverse_singleton, List.singleton_append,
    List.find?_cons]
  cases change.concerns value name <;> rfl

theorem run_perform_zero (program : Program Host) (change : AttributeChange) :
    change.run (perform program 0) = Action.exhausted := by
  rw [run]
  cases change.content? <;> rfl

theorem run_perform_succ (program : Program Host) (depth : Nat) (change : AttributeChange) :
    change.run (perform program (depth + 1)) =
      Protocol.setAttribute (perform program depth) change.value change.name change.content? := by
  rw [run]
  cases change.content? <;> rfl

end AttributeChange

open AttributeChange (contentAfter)

/-- A heap changes to another one by some changes of attributes when every attribute has the content
that these changes leave it, every dictionary stays, and the rest of the heap does too. -/
structure Heap.ChangesTo (before : Heap) (changes : List AttributeChange) (after : Heap) : Prop where
  contents : ∀ value name,
    after.attribute? value name = contentAfter changes value name (before.attribute? value name)
  hasDictionary : ∀ value, (before.dictionary? value).isSome = true →
    (after.dictionary? value).isSome = true
  rest : after = { before with dictionaries := after.dictionaries }

namespace Heap.ChangesTo

theorem refl (heap : Heap) : heap.ChangesTo [] heap :=
  ⟨fun _ _ => rfl, fun _ has => has, rfl⟩

variable {before middle : Heap} {changes : List AttributeChange} {change : AttributeChange}
  (changesTo : before.ChangesTo changes middle)
  (has : (middle.dictionary? change.value).isSome = true)

include changesTo has

/-- One more change gives its content to its attribute alone. -/
theorem changed :
    before.ChangesTo (changes ++ [change])
      (middle.withAttribute change.value change.name change.content?) where
  contents := by
    intro value name
    rw [Heap.attribute?_withAttribute has, AttributeChange.contentAfter_append,
      changesTo.contents value name]
    simp [AttributeChange.concerns]
  hasDictionary := fun value hadDictionary =>
    Heap.isSome_dictionary?_withAttribute has (changesTo.hasDictionary value hadDictionary)
  rest := by
    rw [Heap.withAttribute_eq, changesTo.rest]

/-- A deletion that finds nothing leaves the heap as it is. -/
theorem missed (isDeletion : change.content? = none)
    (isMissing : middle.attribute? change.value change.name = none) :
    before.ChangesTo (changes ++ [change]) middle where
  contents := by
    intro value name
    rw [AttributeChange.contentAfter_append, isDeletion, ← changesTo.contents value name]
    split
    · rename_i isConcerned
      obtain ⟨isSame, isName⟩ := Bool.and_eq_true_iff.1 isConcerned
      rw [of_decide_eq_true isName, ← isMissing, Heap.attribute?, Heap.attribute?,
        Heap.dictionary?_of_isSame has isSame]
    · rfl
  hasDictionary := changesTo.hasDictionary
  rest := changesTo.rest

end Heap.ChangesTo

namespace World

/-- This relation says which changes of attributes the machine was asked for since a world, whatever the
outcomes were. -/
inductive Changed (start : World Host) : List AttributeChange → World Host → Prop where
  | start : Changed start [] start
  | step {changes : List AttributeChange} {world next : World Host} {program : Program Host}
      {depth : Nat} {change : AttributeChange} {outcome : Except Error Unit}
      (changed : Changed start changes world)
      (isOutcome : change.run (perform program depth) world = some (outcome, next)) :
      Changed start (changes ++ [change]) next

variable {start world next : World Host} {changes : List AttributeChange}

/-- The request for one change of an open attribute changes it, or finds nothing to delete. -/
theorem LeavesOpen.run_ends {change : AttributeChange}
    (isOpen : world.LeavesOpen change.value change.name) (steady : world.Steady) (program : Program Host)
    (depth : Nat) {before : Heap} (changesTo : before.ChangesTo changes world.heap) :
    ∃ outcome heap, (change.run (perform program (depth + 1))).Ends world outcome heap ∧
      before.ChangesTo (changes ++ [change]) heap := by
  rw [AttributeChange.run_perform_succ]
  by_cases isMissed : change.content? = none ∧
      world.heap.attribute? change.value change.name = none
  · obtain ⟨isDeletion, isMissing⟩ := isMissed
    rw [isDeletion]
    exact ⟨_, _, isOpen.deletesNothing steady _ isMissing,
      changesTo.missed isOpen.hasDictionary isDeletion isMissing⟩
  · exact ⟨_, _, isOpen.changes steady _ change.content? (not_and.1 isMissed),
      changesTo.changed isOpen.hasDictionary⟩

theorem LeavesOpen.of_changesTo {value : Value} {name : String} (isOpen : start.LeavesOpen value name)
    (changesTo : start.heap.ChangesTo changes world.heap) (turns : start.Turns world.heap world) :
    world.LeavesOpen value name :=
  isOpen.of_turns turns (changesTo.hasDictionary value isOpen.hasDictionary)

/-- Changes of open attributes change these attributes and nothing else. -/
theorem Changed.changesTo (changed : Changed start changes world) (steady : start.Steady)
    (areOpen : ∀ change ∈ changes, start.LeavesOpen change.value change.name) :
    start.heap.ChangesTo changes world.heap ∧ start.Turns world.heap world := by
  induction changed with
  | start => exact ⟨.refl _, .refl steady⟩
  | @step changes world next program depth change outcome _ isOutcome inductionHypothesis =>
      obtain ⟨changesTo, turns⟩ := inductionHypothesis fun earlier isEarlier =>
        areOpen earlier (List.mem_append_left _ isEarlier)
      have isOpen : start.LeavesOpen change.value change.name := areOpen change (by simp)
      have isOpenHere := isOpen.of_changesTo changesTo turns
      cases depth with
      | zero =>
          rw [AttributeChange.run_perform_zero] at isOutcome
          cases isOutcome
      | succ depth =>
          obtain ⟨_, heap, ends, changesToNext⟩ :=
            isOpenHere.run_ends turns.steady program depth changesTo
          obtain ⟨_, turnsNext⟩ := ends.of_outcome isOutcome
          rw [turnsNext.heap_eq]
          exact ⟨changesToNext, turns.trans turnsNext⟩

/-- The machine can be asked for all changes of open attributes in turn. -/
theorem Steady.exists_changed (steady : start.Steady) (changes : List AttributeChange)
    (areOpen : ∀ change ∈ changes, start.LeavesOpen change.value change.name) :
    ∃ next, Changed start changes next := by
  let silent : Program Host := fun _ _ => .done (.ok .none)
  induction changes using List.reverseRecOn with
  | nil => exact ⟨start, .start⟩
  | append_singleton changes change inductionHypothesis =>
      have earlierOpen : ∀ earlier ∈ changes, start.LeavesOpen earlier.value earlier.name :=
        fun earlier isEarlier => areOpen earlier (List.mem_append_left _ isEarlier)
      obtain ⟨world, changed⟩ := inductionHypothesis earlierOpen
      obtain ⟨changesTo, turns⟩ := changed.changesTo steady earlierOpen
      have isOpen : start.LeavesOpen change.value change.name := areOpen change (by simp)
      have isOpenHere := isOpen.of_changesTo changesTo turns
      obtain ⟨_, _, ⟨next, isOutcome, _⟩, _⟩ :=
        isOpenHere.run_ends turns.steady silent 0 changesTo
      exact ⟨next, changed.step isOutcome⟩

end World

/-! ### Instances -/

namespace Builtin.Type

/-- A class that is not builtin makes an instance. -/
theorem call_of_unlisted {id : TypeId} (isUnlisted : builtinTypes[id]? = none)
    (perform : Perform Host) (arguments : List Value) :
    call perform (.ofType id) arguments = instantiate perform id arguments := by
  have isOther : ∀ other < builtinTypes.length, id ≠ other := by
    rintro other isListed rfl
    rw [List.getElem?_eq_getElem isListed] at isUnlisted
    cases isUnlisted
  show (if id = .type then _ else if id = .object then _ else if id = .int then _
    else if id = .float then _ else if id = .bool then _ else if id = .str then _
    else if id = .tuple then _ else if id = .property then _ else _) = _
  rw [if_neg (isOther _ (by decide)), if_neg (isOther _ (by decide)), if_neg (isOther _ (by decide)),
    if_neg (isOther _ (by decide)), if_neg (isOther _ (by decide)), if_neg (isOther _ (by decide)),
    if_neg (isOther _ (by decide)), if_neg (isOther _ (by decide))]

/-- What a class makes is an object of the class with a dictionary. -/
theorem instantiate_ok {program : Program Host} {depth : Nat} {id : TypeId} {arguments : List Value}
    {world next : World Host} {value : Value}
    (isOutcome : instantiate (perform program depth) id arguments world = some (.ok value, next)) :
    value.typeId = id ∧ (next.heap.dictionary? value).isSome = true := by
  obtain ⟨definition, world, -, isOutcome⟩ := exists_of_bind_ok isOutcome
  split at isOutcome
  · cases isOutcome
  · obtain ⟨data, start, -, isOutcome⟩ := exists_of_bind_ok isOutcome
    obtain ⟨made, world, isMade, isOutcome⟩ := exists_of_bind_ok isOutcome
    have isInstance : made.typeId = id ∧ (world.heap.dictionary? made).isSome = true := by
      obtain ⟨isValue, rfl⟩ := Prod.mk.inj (Option.some.inj isMade)
      obtain rfl := Except.ok.inj isValue
      exact ⟨rfl, congrArg Option.isSome (Heap.dictionary?_allocate start.heap id data)⟩
    obtain ⟨initializer?, here, isLookup, isOutcome⟩ := exists_of_bind_ok isOutcome
    obtain ⟨_, rfl⟩ : _ ∧ world = here := Prod.mk.inj (Option.some.inj isLookup)
    generalize initializer?.filter (fun initializer => !initializer.isNone) = method? at isOutcome
    cases method? with
    | none =>
        dsimp only at isOutcome
        split at isOutcome
        · cases isOutcome
        · obtain ⟨isValue, rfl⟩ := Prod.mk.inj (Option.some.inj isOutcome)
          obtain rfl := Except.ok.inj isValue
          exact isInstance
    | some method =>
        obtain ⟨result, last, isCall, isOutcome⟩ := exists_of_bind_ok isOutcome
        have isForward := goesForward_perform _ _ _ _ _ _ isCall
        split at isOutcome
        · obtain ⟨isValue, rfl⟩ := Prod.mk.inj (Option.some.inj isOutcome)
          obtain rfl := Except.ok.inj isValue
          exact ⟨isInstance.1, isForward.isSome_dictionary? isInstance.2⟩
        · cases isOutcome

end Builtin.Type

namespace World

variable {world next : World Host} {id : TypeId} {definition : TypeDefinition} {value : Value}

/-- A call of a class that is not builtin makes an object of the class, which has a dictionary ever
after. -/
theorem Steady.call_ok (steady : world.Steady)
    (found : world.registry.definition? id = some definition) (isHeap : definition.isHeap = true)
    {program : Program Host} {depth : Nat} {arguments : List Value}
    (isOutcome : perform program depth (.call (.ofType id) arguments) world = some (.ok value, next)) :
    value.typeId = id ∧ ∀ later, next.Leads later → (later.heap.dictionary? value).isSome = true := by
  have isUnlisted := steady.coherent.keepsBuiltins.isUnlisted_of_isHeap found isHeap
  have isInstance : value.typeId = id ∧ (next.heap.dictionary? value).isSome = true := by
    cases depth with
    | zero => cases isOutcome
    | succ depth =>
        obtain ⟨target, middle, isTarget, isOutcome⟩ := exists_of_bind_ok isOutcome
        have isListed : builtinTypes[(Value.ofType id).typeId]? = some _ := rfl
        obtain ⟨isKnown, _⟩ := (Ends.targetOf steady isListed .call).of_outcome isTarget
        obtain rfl := Except.ok.inj isKnown
        obtain ⟨⟨_, last⟩, isCall, isNoted⟩ := Option.map_eq_some_iff.1 isOutcome
        obtain ⟨rfl, rfl⟩ := Prod.mk.inj isNoted
        have isInstantiated : Builtin.Type.instantiate (perform program depth) id arguments
            { middle with journal := [] } = some (.ok value, last) := by
          rw [← Builtin.Type.call_of_unlisted isUnlisted]
          exact isCall
        have isInstance := Builtin.Type.instantiate_ok isInstantiated
        exact isInstance
  exact ⟨isInstance.1, fun later leads => leads.precedes.isSome_dictionary? isInstance.2⟩

/-! ### Class attributes of unknown types -/

/-- An attribute that a generic class has of a type that is not registered can be neither read nor
changed. -/
theorem Steady.ends_of_unregistered (steady : world.Steady) {name : String} {content : Value}
    (isGeneric : world.registry.IsGeneric value.typeId)
    (isFound : world.registry.lookup value.typeId name = some content)
    (isUnknown : world.registry.definition? content.typeId = none) (program : Program Host)
    (depth : Nat) :
    (perform program (depth + 1) (.getAttribute value name)).Ends world
        (.error (.unknownType content.typeId)) world.heap ∧
      ∀ content?, (AttributeChange.run (perform program (depth + 1)) ⟨value, name, content?⟩).Ends
        world (.error (.unknownType content.typeId)) world.heap := by
  have isUnknownLater : ∀ {next : World Host}, world.Turns world.heap next →
      next.registry.definition? content.typeId = none := fun turns =>
    (turns.refreshes.definition? _).trans isUnknown
  have isFoundLater : ∀ {next : World Host}, world.Turns world.heap next →
      next.registry.lookup value.typeId name = some content := fun turns =>
    (turns.lookup_eq _ _).trans isFound
  refine ⟨steady.getAttribute_ends isGeneric fun next turns => ?_, fun content? => ?_⟩
  · rw [Builtin.Object.getAttribute_eq_route, ← turns.heap_eq]
    exact turns.steady.route_ends_of_unregistered (isFoundLater turns) (isUnknownLater turns)
  · rw [AttributeChange.run_perform_succ]
    refine steady.setAttribute_ends isGeneric fun next turns => ?_
    rw [Builtin.Object.setAttribute_eq_route, ← turns.heap_eq]
    exact turns.steady.route_ends_of_unregistered (isFoundLater turns) (isUnknownLater turns)

end World

/-! ### Tests -/

/-- This test tells one builtin operation. -/
def SlotTarget.isOperation (operation : Builtin) : SlotTarget → Bool
  | .builtin other => other = operation
  | .absent | .override _ _ => false

theorem SlotTarget.eq_of_isOperation {operation : Builtin} {target : SlotTarget}
    (isTrue : target.isOperation operation = true) : target = .builtin operation := by
  cases target with
  | builtin other => rw [of_decide_eq_true isTrue]
  | absent | override => cases isTrue

namespace World

variable {world : World Host} {value : Value} {name : String}

/-- This test reads a slot of a value. -/
def findsTarget (world : World Host) (value : Value) (kind : SlotKind) (test : SlotTarget → Bool) :
    Bool :=
  (targetOf value kind world).any fun found => found.1.toOption.any test

/-- This test reads whether a class leaves an attribute open. -/
def findsOpen (world : World Host) (value : Value) (name : String) : Bool :=
  world.findsTarget value .getAttr (·.isOperation .objectGetAttr) &&
    (world.findsTarget value .setAttr (·.isOperation .objectSetAttr) &&
      ((world.heap.dictionary? value).isSome &&
        (world.registry.lookup value.typeId name).all fun content =>
          world.findsTarget content .descrSet (·.isAbsent)))

theorem Steady.exists_of_findsTarget (steady : world.Steady) {kind : SlotKind}
    {test : SlotTarget → Bool} (finds : world.findsTarget value kind test = true) :
    ∃ target, world.registry.HasTarget value.typeId kind target ∧ test target = true := by
  obtain ⟨⟨outcome, next⟩, isOutcome, isTrue⟩ := (Option.any_eq_true _ _).1 finds
  cases outcome with
  | error error => cases isTrue
  | ok target => exact ⟨target, steady.hasTarget_of_outcome isOutcome, isTrue⟩

theorem Steady.hasTarget_of_findsTarget (steady : world.Steady) {kind : SlotKind} {operation : Builtin}
    (finds : world.findsTarget value kind (·.isOperation operation) = true) :
    world.registry.HasTarget value.typeId kind (.builtin operation) := by
  obtain ⟨target, hasTarget, isTrue⟩ := steady.exists_of_findsTarget finds
  rwa [SlotTarget.eq_of_isOperation isTrue] at hasTarget

theorem Steady.leavesOpen_of_findsOpen (steady : world.Steady)
    (finds : world.findsOpen value name = true) : world.LeavesOpen value name := by
  obtain ⟨findsGet, finds⟩ := Bool.and_eq_true_iff.1 finds
  obtain ⟨findsSet, finds⟩ := Bool.and_eq_true_iff.1 finds
  obtain ⟨hasDictionary, finds⟩ := Bool.and_eq_true_iff.1 finds
  have isPlain : ∀ content, world.registry.lookup value.typeId name = some content →
      ∃ target, world.registry.HasTarget content.typeId .descrSet target ∧ target.isAbsent = true := by
    intro content isFound
    rw [isFound] at finds
    exact steady.exists_of_findsTarget finds
  refine ⟨⟨steady.hasTarget_of_findsTarget findsGet, steady.hasTarget_of_findsTarget findsSet⟩,
    hasDictionary, fun content isFound => ?_, ?_⟩
  · obtain ⟨_, ⟨definition, found, _⟩, _⟩ := isPlain content isFound
    exact ⟨definition, found⟩
  · rintro content isFound ⟨other, hasOther, isThere⟩
    obtain ⟨target, hasTarget, isAbsent⟩ := isPlain content isFound
    rw [hasOther.unique hasTarget, isAbsent] at isThere
    cases isThere

/-! ### Reachable worlds -/

/-- The attributes of the instances of generic classes are a map in a world. A class attribute is a data
descriptor, is of a type that is not registered, or leaves the attributes of its name open, as no class
attribute does too. -/
structure AttributesAreMap (world : World Host) : Prop where
  /-- The instances that the calls of classes make have dictionaries ever after. -/
  instances : ∀ id definition, world.registry.definition? id = some definition →
    definition.isHeap = true → ∀ program depth arguments value next,
      perform program depth (.call (.ofType id) arguments) world = some (.ok value, next) →
      value.typeId = id ∧ ∀ later, next.Leads later → (later.heap.dictionary? value).isSome = true
  data : ∀ value name descriptor, world.registry.IsGeneric value.typeId →
    world.registry.lookup value.typeId name = some descriptor →
    world.registry.HasSlot descriptor.typeId .descrSet → world.LeavesTo value name descriptor
  unregistered : ∀ value name content, world.registry.IsGeneric value.typeId →
    world.registry.lookup value.typeId name = some content →
    world.registry.definition? content.typeId = none → ∀ program depth,
      (perform program (depth + 1) (.getAttribute value name)).Ends world
          (.error (.unknownType content.typeId)) world.heap ∧
        ∀ content?, (AttributeChange.run (perform program (depth + 1)) ⟨value, name, content?⟩).Ends
          world (.error (.unknownType content.typeId)) world.heap
  /-- Changes of open attributes change nothing else, and then the open attributes are still the own
  attributes of their objects. -/
  own : ∀ changes, (∀ change ∈ changes, world.LeavesOpen change.value change.name) →
    (∃ next, world.Changed changes next) ∧ ∀ next, world.Changed changes next →
      world.heap.ChangesTo changes next.heap ∧ world.Turns next.heap next ∧
        ∀ value name, world.LeavesOpen value name → next.HasOwn value name

/-- In every reachable world the attributes of the instances of generic classes are a map behind the data
descriptors of these classes. -/
theorem attributes_areMap {world : World Host} (reachable : World.Reachable forged world) :
    world.AttributesAreMap := by
  have steady : world.Steady := reachable.forgeAll.alike
  refine ⟨fun _ _ found isHeap _ _ _ _ _ isOutcome => steady.call_ok found isHeap isOutcome,
    fun _ _ _ isGeneric isFound hasSlot => steady.leavesTo isGeneric isFound hasSlot,
    fun _ _ _ isGeneric isFound isUnknown => steady.ends_of_unregistered isGeneric isFound isUnknown,
    fun changes areOpen => ⟨steady.exists_changed changes areOpen, fun next changed => ?_⟩⟩
  obtain ⟨changesTo, turns⟩ := changed.changesTo steady areOpen
  refine ⟨changesTo, turns, fun value name isOpen => ?_⟩
  exact (isOpen.of_changesTo changesTo turns).hasOwn turns.steady

/-- The attributes of points are a map. Their class has a property without functions, which is a data
descriptor, and a method under an open name. Two points get the attribute `x`, and one loses it again. -/
theorem attributes_areMap_point :
    ∃ (world : World Unit) (first second property : Value), World.Reachable (fun _ => True) world ∧
      (∃ definition, world.registry.definition? 13 = some definition ∧ definition.isHeap = true) ∧
      first.isSame second = false ∧ first.typeId = 13 ∧
      world.registry.lookup 13 "size" = some property ∧
      world.registry.HasSlot property.typeId .descrSet ∧ world.LeavesOpen first "move" ∧
      world.LeavesOpen first "x" ∧ world.LeavesOpen second "x" ∧ world.AttributesAreMap ∧
      ∃ next, world.Changed [⟨first, "x", some (.int 1)⟩, ⟨second, "x", some (.int 2)⟩,
          ⟨first, "x", none⟩] next ∧
        next.heap.attribute? first "x" = none ∧ next.heap.attribute? second "x" = some (.int 2) := by
  let program : Program Unit := fun _ _ => do
    let method ← Body.request (.allocate .function (.function "move" 1) false)
    let property ← Body.request (.allocate .property (.property none none) false)
    let point ← Body.request (.createType "Point" [] ⟨[("move", method), ("size", property)]⟩)
    let _ ← Body.request (.call (.ofType point) [])
    Body.request (.call (.ofType point) [])
  let first : Value := .object ⟨.allocated 2, 13⟩ .plain
  let second : Value := .object ⟨.allocated 3, 13⟩ .plain
  have isMade :
      ((perform program 2 (.apply "make" 0 []) (.initial .default ())).any fun made =>
        ((made.2.registry.definition? 13).any fun definition => definition.isHeap) &&
          (((made.2.registry.lookup 13 "size").any fun property =>
            made.2.findsTarget property .descrSet (!·.isAbsent)) &&
              (made.2.findsOpen first "move" &&
                (made.2.findsOpen first "x" && made.2.findsOpen second "x")))) = true := by
    decide +kernel
  obtain ⟨⟨made, world⟩, isOutcome, isTrue⟩ := (Option.any_eq_true _ _).1 isMade
  have reachable := World.Reachable.of_outcome isOutcome
  have steady : world.Steady := reachable.alike
  obtain ⟨isPoint, isTrue⟩ := Bool.and_eq_true_iff.1 isTrue
  obtain ⟨isData, isTrue⟩ := Bool.and_eq_true_iff.1 isTrue
  obtain ⟨findsMove, isTrue⟩ := Bool.and_eq_true_iff.1 isTrue
  obtain ⟨findsFirst, findsSecond⟩ := Bool.and_eq_true_iff.1 isTrue
  obtain ⟨definition, found, isHeap⟩ := (Option.any_eq_true _ _).1 isPoint
  obtain ⟨property, isFound, isData⟩ := (Option.any_eq_true _ _).1 isData
  obtain ⟨target, hasTarget, isThere⟩ := steady.exists_of_findsTarget isData
  have isThere : target.isAbsent = false := by simpa using isThere
  have firstOpen : world.LeavesOpen first "x" := steady.leavesOpen_of_findsOpen findsFirst
  have secondOpen : world.LeavesOpen second "x" := steady.leavesOpen_of_findsOpen findsSecond
  have areMap := attributes_areMap reachable
  obtain ⟨⟨next, changed⟩, keeps⟩ := areMap.own [⟨first, "x", some (.int 1)⟩,
    ⟨second, "x", some (.int 2)⟩, ⟨first, "x", none⟩] (by simp [firstOpen, secondOpen])
  obtain ⟨changesTo, _⟩ := keeps next changed
  exact ⟨world, first, second, property, reachable, ⟨definition, found, isHeap⟩, rfl, rfl, isFound,
    ⟨target, hasTarget, isThere⟩, steady.leavesOpen_of_findsOpen findsMove, firstOpen, secondOpen,
    areMap, next, changed, changesTo.contents first "x", changesTo.contents second "x"⟩

end World

end SlotDispatch
