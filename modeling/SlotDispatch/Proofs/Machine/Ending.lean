import SlotDispatch.Proofs.Machine.Alike
import SlotDispatch.Proofs.Type.BuiltinSlots
/-!
Actions that end. An action ends in a world when it has one known outcome there and leaves the world as
it was but for a known heap, the journal, and the kept entries of types. The main statements are one rule
for each action on worlds, and the slots of builtin values are read off the first registry.
-/

namespace SlotDispatch

open SlotDispatch.Action

variable {Host Result Next : Type}

/-! ### Slots of builtin values -/

section Alike

variable {world : World Host} (alike : World.Alike (fun _ => True) 0 world world)

include alike

/-- The entry of a builtin type is found, and its targets can be read off the first registry. -/
theorem World.entryOf_isListed {id : TypeId} {builtinType : BuiltinType}
    (isListed : builtinTypes[id]? = some builtinType) :
    (entryOf id).Succeeds world fun entry next => entry.typeId = id ∧
      (∀ kind, entry.target kind =
        builtinTarget kind ((Registry.initial 0).linearizationOf id)) ∧
      World.Alike (fun _ => True) 0 world next := by
  obtain ⟨definition, found⟩ := alike.coherent.keepsBuiltins.definition?_of_isListed isListed
  refine (entryOf_succeeds alike found).mono fun entry next ⟨isEntry, nextAlike⟩ => ?_
  exact ⟨isEntry.typeId, isEntry.target_of_isListed isListed alike.coherent found, nextAlike⟩

/-- The target of a slot of a builtin value can be read off the first registry. -/
theorem World.targetOf_isListed {value : Value} {id : TypeId} {builtinType : BuiltinType}
    (isType : value.typeId = id) (isListed : builtinTypes[id]? = some builtinType)
    (kind : SlotKind) :
    ∃ next, targetOf value kind world =
        some (.ok (builtinTarget kind ((Registry.initial 0).linearizationOf id)), next) ∧
      World.Alike (fun _ => True) 0 world next := by
  subst isType
  obtain ⟨entry, next, isEntry, _, areTargets, nextAlike⟩ := World.entryOf_isListed alike isListed
  refine ⟨next, ?_, nextAlike⟩
  rw [targetOf, bind_apply, isEntry, ← areTargets]
  rfl

end Alike

/-! ### Worlds that turn into others -/

/-- A steady world has coherent entries, as every reachable world has. -/
abbrev World.Steady (world : World Host) : Prop :=
  World.Alike (fun _ => True) 0 world world

/-- A world turns into another one with a heap when the two are alike but for the heap and the
journal. -/
def World.Turns (before : World Host) (heap : Heap) (after : World Host) : Prop :=
  World.Alike (fun _ => True) 0 { before with heap := heap } { after with journal := before.journal }

namespace World.Turns

variable {before middle after : World Host} {heap later : Heap}

theorem refl (steady : before.Steady) : before.Turns before.heap before :=
  steady

theorem heap_eq (turns : before.Turns heap after) : after.heap = heap :=
  (World.Alike.heap turns).symm

theorem configuration_eq (turns : before.Turns heap after) :
    after.configuration = before.configuration :=
  (World.Alike.configuration turns).symm

theorem alike (turns : before.Turns heap after) :
    World.Alike (fun _ => True) 0 { before with heap := heap }
      { after with journal := before.journal } :=
  turns

theorem refreshes (turns : before.Turns heap after) :
    Registry.Refreshes before.registry after.registry :=
  turns.alike.refreshes

theorem lookup_eq (turns : before.Turns heap after) (id : TypeId) (name : String) :
    after.registry.lookup id name = before.registry.lookup id name :=
  turns.alike.resembles.registry.lookup id name

theorem typeName_eq (turns : before.Turns heap after) (value : Value) :
    after.typeName value = before.typeName value :=
  turns.alike.resembles.registry.nameOf value.typeId

theorem steady (turns : before.Turns heap after) : after.Steady :=
  (World.Alike.trans (World.Alike.symm turns) turns).withJournal after.journal

theorem trans (first : before.Turns heap middle) (second : middle.Turns later after) :
    before.Turns later after :=
  (World.Alike.withHeap first later).trans (World.Alike.withJournal second before.journal)

/-- A world that keeps its heap twice keeps it. -/
theorem still (first : before.Turns before.heap middle) (second : middle.Turns middle.heap after) :
    before.Turns before.heap after := by
  rw [first.heap_eq] at second
  exact first.trans second

theorem of_alike (alike : World.Alike (fun _ => True) 0 before after) :
    before.Turns before.heap after :=
  alike.withJournal before.journal

theorem withHeap (steady : before.Steady) (heap : Heap) :
    before.Turns heap { before with heap := heap } :=
  World.Alike.withHeap steady heap

theorem of_withJournal {journal : Journal}
    (turns : World.Turns { before with journal := journal } heap after) : before.Turns heap after :=
  World.Alike.withJournal turns before.journal

end World.Turns

/-! ### Endings in one world -/

namespace Action

/-- An action ends in a world with an outcome and a heap when it has this outcome and the world turns
into one with this heap. -/
def Ends (action : Action (World Host) Result) (world : World Host) (outcome : Except Error Result)
    (heap : Heap) : Prop :=
  ∃ next, action world = some (outcome, next) ∧ world.Turns heap next

namespace Ends

variable {world : World Host} {heap later : Heap} {outcome : Except Error Next} {result : Result}
  {error : Error}

/-- The world that is left is alike the world that was found, but for the heap and the journal. -/
theorem exists_alike {action : Action (World Host) Next} (ends : action.Ends world outcome heap) :
    ∃ last journal, World.Alike (fun _ => True) 0 world last ∧
      action world = some (outcome, { last with heap := heap, journal := journal }) := by
  obtain ⟨next, isOutcome, turns⟩ := ends
  refine ⟨{ next with heap := world.heap, journal := world.journal }, next.journal,
    World.Alike.withHeap turns world.heap, ?_⟩
  rw [isOutcome, ← turns.heap_eq]

/-- An action that ends has no other outcome. -/
theorem of_outcome {action : Action (World Host) Next} (ends : action.Ends world outcome heap)
    {other : Except Error Next} {next : World Host} (isOutcome : action world = some (other, next)) :
    other = outcome ∧ world.Turns heap next := by
  obtain ⟨last, isLast, turns⟩ := ends
  obtain ⟨rfl, rfl⟩ := Prod.mk.inj (Option.some.inj (isOutcome.symm.trans isLast))
  exact ⟨rfl, turns⟩

theorem pure (steady : world.Steady) (result : Result) :
    (Pure.pure result : Action (World Host) Result).Ends world (.ok result) world.heap :=
  ⟨world, rfl, .refl steady⟩

theorem fail (steady : world.Steady) (error : Error) :
    (Action.fail error : Action (World Host) Result).Ends world (.error error) world.heap :=
  ⟨world, rfl, .refl steady⟩

theorem ofExcept (steady : world.Steady) (outcome : Except Error Result) :
    (Action.ofExcept outcome).Ends world outcome world.heap := by
  cases outcome with
  | ok result => exact .pure steady result
  | error error => exact .fail steady error

theorem bind {first : Action (World Host) Result} {second : Result → Action (World Host) Next}
    (ends : first.Ends world (.ok result) heap)
    (endsLater : ∀ next, world.Turns heap next → (second result).Ends next outcome later) :
    (first >>= second).Ends world outcome later := by
  obtain ⟨middle, isFirst, turns⟩ := ends
  obtain ⟨next, isSecond, turnsLater⟩ := endsLater middle turns
  refine ⟨next, ?_, turns.trans turnsLater⟩
  rw [bind_apply, isFirst]
  exact isSecond

theorem bind_error {first : Action (World Host) Result} {second : Result → Action (World Host) Next}
    (ends : first.Ends world (.error error) heap) :
    (first >>= second).Ends world (.error error) heap := by
  obtain ⟨next, isFirst, turns⟩ := ends
  refine ⟨next, ?_, turns⟩
  rw [bind_apply, isFirst]

theorem attempt {action : Action (World Host) Result} {outcome : Except Error Result}
    (ends : action.Ends world outcome heap) :
    (Action.attempt action).Ends world (.ok outcome) heap := by
  obtain ⟨next, isOutcome, turns⟩ := ends
  refine ⟨next, ?_, turns⟩
  rw [Action.attempt, isOutcome]
  rfl

/-- A call that is noted starts with an empty journal. -/
theorem noted_of_ends {callable : Callable} {arguments : List Value} {toValue : Result → Value}
    {call : Action (World Host) Result} {outcome : Except Error Result}
    (ends : call.Ends { world with journal := [] } outcome heap) :
    (Action.noted callable arguments toValue call).Ends world outcome heap := by
  obtain ⟨next, isOutcome, turns⟩ := ends
  refine ⟨{ next with
    journal := .call callable arguments (outcome.map toValue) next.journal :: world.journal }, ?_,
    turns.of_withJournal⟩
  rw [Action.noted, isOutcome]
  rfl

/-- A call that is noted ends as it does in the same world with any journal. -/
theorem noted {callable : Callable} {arguments : List Value} {toValue : Result → Value}
    {call : Action (World Host) Result} {outcome : Except Error Result} (steady : world.Steady)
    (ends : ∀ next, world.Turns world.heap next → call.Ends next outcome heap) :
    (Action.noted callable arguments toValue call).Ends world outcome heap :=
  noted_of_ends (ends _ (.refl steady))

theorem current_bind {second : World Host → Action (World Host) Next}
    (ends : (second world).Ends world outcome heap) :
    (current >>= second).Ends world outcome heap :=
  ends

theorem reading_bind {read : World Host → Result} {second : Result → Action (World Host) Next}
    (ends : (second (read world)).Ends world outcome later) :
    (Action.reading read >>= second).Ends world outcome later :=
  ends

/-- An error about the type of a value names the type. -/
theorem failFor_typeName (steady : world.Steady) (error : String → Error) (value : Value) :
    (Action.failFor error value : Action (World Host) Result).Ends world
      (.error (error (world.typeName value))) world.heap :=
  ⟨world, rfl, .refl steady⟩

theorem changeHeap (steady : world.Steady) (update : Heap → Heap) :
    (Action.changeHeap update : Action (World Host) Unit).Ends world (.ok ()) (update world.heap) :=
  ⟨_, rfl, .withHeap steady _⟩

/-- A new object gets the next place. -/
theorem allocate (steady : world.Steady) (typeId : TypeId) (data : Data Value)
    (hasDictionary : Bool) :
    (Action.allocate typeId data hasDictionary).Ends world
      (.ok (world.heap.allocate typeId data hasDictionary).1)
      (world.heap.allocate typeId data hasDictionary).2 :=
  ⟨_, rfl, .withHeap steady _⟩

/-! ### Slots of builtin values -/

section Builtin

variable {id : TypeId} {builtinType : BuiltinType}

/-- The entry of a builtin type has the targets that it has in the first registry. -/
theorem entryOf_bind (steady : world.Steady) (isListed : builtinTypes[id]? = some builtinType)
    {second : SlotEntry → Action (World Host) Next}
    (ends : ∀ entry next, world.Turns world.heap next → entry.typeId = id →
      (∀ kind, entry.target kind =
        builtinTarget kind ((Registry.initial 0).linearizationOf id)) →
      (second entry).Ends next outcome later) :
    (entryOf id >>= second).Ends world outcome later := by
  obtain ⟨entry, next, isEntry, isId, areTargets, alike⟩ := World.entryOf_isListed steady isListed
  have turns : world.Turns world.heap next := .of_alike alike
  obtain ⟨last, isLast, turnsLater⟩ := ends entry next turns isId areTargets
  refine ⟨last, ?_, turns.trans turnsLater⟩
  rw [bind_apply, isEntry]
  exact isLast

theorem targetOf (steady : world.Steady) {value : Value}
    (isListed : builtinTypes[value.typeId]? = some builtinType) (kind : SlotKind) :
    (targetOf value kind).Ends world
      (.ok (builtinTarget kind ((Registry.initial 0).linearizationOf value.typeId))) world.heap := by
  obtain ⟨next, isTarget, alike⟩ := World.targetOf_isListed steady rfl isListed kind
  exact ⟨next, isTarget, .of_alike alike⟩

theorem hasSlot (steady : world.Steady) {value : Value}
    (isListed : builtinTypes[value.typeId]? = some builtinType) (kind : SlotKind) :
    (hasSlot value kind).Ends world
      (.ok !(builtinTarget kind ((Registry.initial 0).linearizationOf value.typeId)).isAbsent)
      world.heap := by
  refine (Ends.targetOf steady isListed kind).bind fun next turns => ?_
  rw [← turns.heap_eq]
  exact .pure turns.steady _

/-- The name of a builtin type never changes. -/
theorem typeName (steady : world.Steady) {value : Value}
    (isListed : builtinTypes[value.typeId]? = some builtinType) :
    (typeName value).Ends world (.ok builtinType.name) world.heap := by
  have keepsBuiltins := steady.coherent.keepsBuiltins
  obtain ⟨definition, found⟩ := keepsBuiltins.definition?_of_isListed isListed
  have isName : world.typeName value = builtinType.name := by
    rw [World.typeName, Registry.nameOf, found]
    exact (keepsBuiltins.builtin found isListed).name
  rw [← isName]
  exact ⟨world, rfl, .refl steady⟩

theorem failFor (steady : world.Steady) {value : Value}
    (isListed : builtinTypes[value.typeId]? = some builtinType) (error : String → Error) :
    (failFor error value : Action (World Host) Result).Ends world (.error (error builtinType.name))
      world.heap := by
  refine (Ends.typeName steady isListed).bind fun next turns => ?_
  rw [← turns.heap_eq]
  exact .fail turns.steady _

end Builtin

end Ends

/-! ### Endings from a world on -/

/-- An action ends from a world on when it ends in all worlds that this world turns into with its heap. -/
def EndsFrom (action : Action (World Host) Result) (world : World Host)
    (outcome : Except Error Result) (heap : Heap) : Prop :=
  ∀ next, world.Turns world.heap next → action.Ends next outcome heap

namespace EndsFrom

variable {world : World Host} {later : Heap} {outcome : Except Error Next} {result : Result}
  {id : TypeId} {builtinType : BuiltinType}

theorem ends {action : Action (World Host) Next} (ends : action.EndsFrom world outcome later)
    (steady : world.Steady) : action.Ends world outcome later :=
  ends world (.refl steady)

theorem pure (result : Result) :
    (Pure.pure result : Action (World Host) Result).EndsFrom world (.ok result) world.heap := by
  intro next turns
  rw [← turns.heap_eq]
  exact .pure turns.steady result

theorem ofExcept (outcome : Except Error Result) :
    (Action.ofExcept outcome : Action (World Host) Result).EndsFrom world outcome world.heap := by
  intro next turns
  rw [← turns.heap_eq]
  exact .ofExcept turns.steady outcome

theorem fail (error : Error) :
    (Action.fail error : Action (World Host) Result).EndsFrom world (.error error) world.heap :=
  .ofExcept (.error error)

theorem allocate (typeId : TypeId) (data : Data Value) (hasDictionary : Bool) :
    (Action.allocate typeId data hasDictionary).EndsFrom world
      (.ok (world.heap.allocate typeId data hasDictionary).1)
      (world.heap.allocate typeId data hasDictionary).2 := by
  intro next turns
  rw [← turns.heap_eq]
  exact .allocate turns.steady typeId data hasDictionary

theorem bind {first : Action (World Host) Result} {second : Result → Action (World Host) Next}
    (ends : first.EndsFrom world (.ok result) world.heap)
    (endsLater : (second result).EndsFrom world outcome later) :
    (first >>= second).EndsFrom world outcome later :=
  fun next turns => (ends next turns).bind fun last turnsLast => endsLater last (turns.trans turnsLast)

theorem noted {callable : Callable} {arguments : List Value} {toValue : Next → Value}
    {call : Action (World Host) Next} (ends : call.EndsFrom world outcome later) :
    (Action.noted callable arguments toValue call).EndsFrom world outcome later :=
  fun _ turns => .noted turns.steady fun last turnsLast => ends last (turns.still turnsLast)

theorem entryOf_bind (isListed : builtinTypes[id]? = some builtinType)
    {second : SlotEntry → Action (World Host) Next}
    (ends : ∀ entry : SlotEntry,
      (∀ kind, entry.target kind =
        builtinTarget kind ((Registry.initial 0).linearizationOf id)) →
      (second entry).EndsFrom world outcome later) :
    (entryOf id >>= second).EndsFrom world outcome later :=
  fun _ turns => .entryOf_bind turns.steady isListed fun entry last turnsLast _ areTargets =>
    ends entry areTargets last (turns.still turnsLast)

theorem hasSlot {value : Value} (isListed : builtinTypes[value.typeId]? = some builtinType)
    (kind : SlotKind) :
    (hasSlot value kind).EndsFrom world
      (.ok !(builtinTarget kind ((Registry.initial 0).linearizationOf value.typeId)).isAbsent)
      world.heap := by
  intro next turns
  rw [← turns.heap_eq]
  exact .hasSlot turns.steady isListed kind

end EndsFrom

/-! ### Endings in every world -/

/-- An action gives an outcome when it ends with this outcome in every steady world and leaves the heap
as it is. -/
def Gives (action : Action (World Host) Result) (outcome : Except Error Result) : Prop :=
  ∀ world : World Host, world.Steady → action.Ends world outcome world.heap

theorem Gives.ends {action : Action (World Host) Result} {outcome : Except Error Result}
    (gives : action.Gives outcome) {world next : World Host} {heap : Heap}
    (turns : world.Turns heap next) : action.Ends next outcome heap := by
  have ends := gives next turns.steady
  rwa [turns.heap_eq] at ends

namespace Gives

variable {outcome : Except Error Next} {result : Result} {error : Error} {id : TypeId}
  {builtinType : BuiltinType}

theorem pure (result : Result) : (Pure.pure result : Action (World Host) Result).Gives (.ok result) :=
  fun _ steady => .pure steady result

theorem ofExcept (outcome : Except Error Result) :
    (Action.ofExcept outcome : Action (World Host) Result).Gives outcome :=
  fun _ steady => .ofExcept steady outcome

theorem bind {first : Action (World Host) Result} {second : Result → Action (World Host) Next}
    (gives : first.Gives (.ok result)) (givesLater : (second result).Gives outcome) :
    (first >>= second).Gives outcome :=
  fun world steady => (gives world steady).bind fun _ turns => givesLater.ends turns

theorem bind_error {first : Action (World Host) Result} {second : Result → Action (World Host) Next}
    (gives : first.Gives (.error error)) : (first >>= second).Gives (.error error) :=
  fun world steady => (gives world steady).bind_error

theorem noted {callable : Callable} {arguments : List Value} {toValue : Result → Value}
    {call : Action (World Host) Result} {outcome : Except Error Result} (gives : call.Gives outcome) :
    (Action.noted callable arguments toValue call).Gives outcome :=
  fun _ steady => .noted steady fun _ turns => gives.ends turns

theorem mapM {Item : Type} {run : Item → Action (World Host) Result} {results : List Result}
    {items : List Item}
    (gives : List.Forall₂ (fun item result => (run item).Gives (.ok result)) items results) :
    (items.mapM run).Gives (.ok results) := by
  induction gives with
  | nil => exact .pure []
  | @cons item result items results givesHead _ inductionHypothesis =>
      rw [List.mapM_cons]
      exact givesHead.bind (inductionHypothesis.bind (.pure (result :: results)))

theorem entryOf_bind (isListed : builtinTypes[id]? = some builtinType)
    {second : SlotEntry → Action (World Host) Next}
    (gives : ∀ entry : SlotEntry, entry.typeId = id →
      (∀ kind, entry.target kind =
        builtinTarget kind ((Registry.initial 0).linearizationOf id)) →
      (second entry).Gives outcome) :
    (entryOf id >>= second).Gives outcome :=
  fun _ steady => .entryOf_bind steady isListed fun entry _ turns isId areTargets =>
    (gives entry isId areTargets).ends turns

theorem targetOf {value : Value} (isListed : builtinTypes[value.typeId]? = some builtinType)
    (kind : SlotKind) :
    (targetOf value kind : Action (World Host) SlotTarget).Gives
      (.ok (builtinTarget kind ((Registry.initial 0).linearizationOf value.typeId))) :=
  fun _ steady => .targetOf steady isListed kind

theorem typeName {value : Value} (isListed : builtinTypes[value.typeId]? = some builtinType) :
    (typeName value : Action (World Host) String).Gives (.ok builtinType.name) :=
  fun _ steady => .typeName steady isListed

theorem failFor {value : Value} (isListed : builtinTypes[value.typeId]? = some builtinType)
    (error : String → Error) :
    (failFor error value : Action (World Host) Result).Gives (.error (error builtinType.name)) :=
  fun _ steady => .failFor steady isListed error

end Gives

/-! ### Endings with any heap -/

/-- An action delivers when it ends in every steady world with a result that fits, and with some heap. -/
def Delivers (action : Action (World Host) Result) (fits : Result → Prop) : Prop :=
  ∀ world : World Host, world.Steady →
    ∃ result heap, fits result ∧ action.Ends world (.ok result) heap

namespace Delivers

variable {fits : Result → Prop} {fitsLater : Next → Prop}

theorem ends {result : Result} {action : Action (World Host) Result}
    (delivers : action.Delivers (· = result)) {world : World Host} (steady : world.Steady) :
    ∃ heap, action.Ends world (.ok result) heap := by
  obtain ⟨_, heap, rfl, ends⟩ := delivers world steady
  exact ⟨heap, ends⟩

theorem pure {result : Result} (isFit : fits result) :
    (Pure.pure result : Action (World Host) Result).Delivers fits :=
  fun world steady => ⟨result, world.heap, isFit, .pure steady result⟩

theorem bind {first : Action (World Host) Result} {second : Result → Action (World Host) Next}
    (delivers : first.Delivers fits)
    (deliversLater : ∀ result, fits result → (second result).Delivers fitsLater) :
    (first >>= second).Delivers fitsLater := by
  intro world steady
  obtain ⟨result, heap, isFit, middle, isFirst, turns⟩ := delivers world steady
  obtain ⟨last, later, isFitLast, next, isSecond, turnsLater⟩ :=
    deliversLater result isFit middle turns.steady
  refine ⟨last, later, isFitLast, next, ?_, turns.trans turnsLater⟩
  rw [bind_apply, isFirst]
  exact isSecond

theorem of_gives {result : Result} {action : Action (World Host) Result}
    (gives : action.Gives (.ok result)) : action.Delivers (· = result) :=
  fun world steady => ⟨result, world.heap, rfl, gives world steady⟩

theorem noted {callable : Callable} {arguments : List Value} {toValue : Result → Value}
    {call : Action (World Host) Result} (delivers : call.Delivers fits) :
    (Action.noted callable arguments toValue call).Delivers fits := by
  intro world steady
  have steadyHere : World.Steady { world with journal := [] } := steady.withJournal []
  obtain ⟨result, heap, isFit, ends⟩ := delivers _ steadyHere
  exact ⟨result, heap, isFit, .noted_of_ends ends⟩

theorem mapM {Item : Type} {run : Item → Action (World Host) Result} {results : List Result}
    {items : List Item}
    (delivers : List.Forall₂ (fun item result => (run item).Delivers (· = result)) items results) :
    (items.mapM run).Delivers (· = results) := by
  induction delivers with
  | nil => exact .pure rfl
  | cons deliversHead _ inductionHypothesis =>
      rw [List.mapM_cons]
      refine deliversHead.bind fun _ isHead => inductionHypothesis.bind fun _ areRest => ?_
      rw [isHead, areRest]
      exact .pure rfl

/-- A new text object has its content. -/
theorem text (content : String) :
    (Action.text content : Action (World Host) Value).Delivers (·.text? = some content) :=
  fun _ steady => ⟨_, _, rfl, .allocate steady .str (.text content) false⟩

end Delivers

end Action

end SlotDispatch
