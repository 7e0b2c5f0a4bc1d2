import SlotDispatch.Proofs.Machine.ShortCut
/-!
Attributes of objects. The main statements say which requests for an attribute a class leaves to a data
descriptor, and that all other attributes are read from and stored into the dictionary of the object.
-/

namespace SlotDispatch

open SlotDispatch.Action SlotDispatch.Machine

variable {Host Result : Type}

/-! ### Slots of a type -/

namespace Registry

variable {registry before after : Registry} {id : TypeId} {kind : SlotKind} {target : SlotTarget}

/-- A slot of a registered type has a target when it resolves to the target along the linearization of
the type. -/
def HasTarget (registry : Registry) (id : TypeId) (kind : SlotKind) (target : SlotTarget) : Prop :=
  ∃ definition, registry.definition? id = some definition ∧
    registry.ResolvesAlong kind definition.linearization target

/-- A type has a slot when the slot has a target that is not absent. -/
def HasSlot (registry : Registry) (id : TypeId) (kind : SlotKind) : Prop :=
  ∃ target, registry.HasTarget id kind target ∧ target.isAbsent = false

/-- A type is generic when the operations of `object` read and write the attributes of its instances. -/
structure IsGeneric (registry : Registry) (id : TypeId) : Prop where
  getAttr : registry.HasTarget id .getAttr (.builtin .objectGetAttr)
  setAttr : registry.HasTarget id .setAttr (.builtin .objectSetAttr)

/-- A slot has at most one target. -/
theorem HasTarget.unique {other : SlotTarget} (hasTarget : registry.HasTarget id kind target)
    (hasOther : registry.HasTarget id kind other) : target = other := by
  obtain ⟨definition, found, resolves⟩ := hasTarget
  obtain ⟨otherDefinition, otherFound, otherResolves⟩ := hasOther
  obtain rfl := Option.some.inj (found.symm.trans otherFound)
  exact resolves.unique otherResolves

theorem HasTarget.of_refreshes (wellFormed : before.WellFormed) (refreshes : Refreshes before after)
    (hasTarget : before.HasTarget id kind target) : after.HasTarget id kind target := by
  obtain ⟨definition, found, resolves⟩ := hasTarget
  exact ⟨definition, (refreshes.definition? id).trans found,
    resolves.of_agreeOn wellFormed found (.of_definitions refreshes.definitions _)
      (List.Subset.refl _)⟩

end Registry

namespace World

variable {world next : World Host} {value : Value} {kind : SlotKind} {target : SlotTarget}

theorem Turns.hasTarget_iff {heap : Heap} (turns : world.Turns heap next) {id : TypeId} :
    next.registry.HasTarget id kind target ↔ world.registry.HasTarget id kind target :=
  ⟨.of_refreshes turns.refreshes.coherent.wellFormed turns.alike.symm.refreshes,
    .of_refreshes turns.alike.coherent.wellFormed turns.refreshes⟩

theorem Turns.hasSlot_iff {heap : Heap} (turns : world.Turns heap next) {id : TypeId} :
    next.registry.HasSlot id kind ↔ world.registry.HasSlot id kind :=
  exists_congr fun _ => and_congr_left' turns.hasTarget_iff

/-- The machine finds the one target that a slot has. -/
theorem Steady.targetOf_ends (steady : world.Steady)
    (hasTarget : world.registry.HasTarget value.typeId kind target) :
    (targetOf value kind).Ends world (.ok target) world.heap := by
  obtain ⟨definition, found, resolves⟩ := hasTarget
  obtain ⟨entry, next, isEntryOf, isEntry, alike⟩ := entryOf_succeeds steady found
  obtain rfl := (isEntry.resolves kind).unique resolves
  refine ⟨next, ?_, .of_alike alike⟩
  rw [targetOf, bind_apply, isEntryOf]
  rfl

/-- What the machine finds in a slot is the target of the slot. -/
theorem Steady.hasTarget_of_outcome (steady : world.Steady)
    (isOutcome : targetOf value kind world = some (.ok target, next)) :
    world.registry.HasTarget value.typeId kind target := by
  cases found : world.registry.definition? value.typeId with
  | none =>
      rw [targetOf, bind_apply, entryOf_of_unregistered steady.coherent found] at isOutcome
      cases isOutcome
  | some definition =>
      obtain ⟨entry, _, isEntryOf, isEntry, _⟩ := entryOf_succeeds steady found
      rw [targetOf, bind_apply, isEntryOf] at isOutcome
      obtain ⟨isTarget, _⟩ := Prod.mk.inj (Option.some.inj isOutcome)
      obtain rfl := Except.ok.inj isTarget
      exact ⟨definition, found, isEntry.resolves kind⟩

theorem Steady.hasSlot_ends (steady : world.Steady)
    (hasTarget : world.registry.HasTarget value.typeId kind target) :
    (hasSlot value kind).Ends world (.ok !target.isAbsent) world.heap := by
  refine (steady.targetOf_ends hasTarget).bind fun next turns => ?_
  rw [← turns.heap_eq]
  exact .pure turns.steady _

/-- A registered type without a slot has nothing in its place. -/
theorem Steady.hasTarget_absent (steady : world.Steady) {id : TypeId} {definition : TypeDefinition}
    (found : world.registry.definition? id = some definition)
    (hasNoSlot : ¬ world.registry.HasSlot id kind) : world.registry.HasTarget id kind .absent := by
  obtain ⟨entry, _, _, isEntry, _⟩ := entryOf_succeeds steady found
  have hasTarget : world.registry.HasTarget id kind (entry.target kind) :=
    ⟨definition, found, isEntry.resolves kind⟩
  cases isTarget : entry.target kind with
  | absent => rwa [isTarget] at hasTarget
  | builtin operation => exact absurd ⟨_, hasTarget, by rw [isTarget]; rfl⟩ hasNoSlot
  | override definition inherited => exact absurd ⟨_, hasTarget, by rw [isTarget]; rfl⟩ hasNoSlot

end World

/-! ### The way of an attribute -/

namespace Builtin.Object

/-- A class attribute is a data descriptor when its type has a slot for stores. -/
def isData : Option Value → Action (World Host) Bool
  | some descriptor => hasSlot descriptor .descrSet
  | none => pure false

/-- An operation on an attribute is left to a data descriptor of the type, or else goes past the type. -/
def route (value : Value) (name : String) (leave : Value → Action (World Host) Result)
    (pass : Option Value → Action (World Host) Result) : Action (World Host) Result := do
  let classAttribute? ← lookup value.typeId name
  match ← isData classAttribute?, classAttribute? with
  | true, some descriptor => leave descriptor
  | _, _ => pass classAttribute?

/-- Past the data descriptors of the type, an attribute comes from the dictionary of the object, or else
from the type. -/
def fetch (perform : Perform Host) (value : Value) (name : String) (classAttribute? : Option Value) :
    Action (World Host) Value := do
  let content? ← reading fun world => world.heap.attribute? value name
  match content?, classAttribute? with
  | some content, _ => return content
  | none, some descriptor => perform.descriptorGet descriptor (some value) value.typeId
  | none, none => failFor (Error.attributeMissing · name) value

/-- Past the data descriptors of the type, a store goes into the dictionary of the object. -/
def store (value : Value) (name : String) (content? : Option Value) : Action (World Host) Unit := do
  let dictionary? ← reading fun world => world.heap.dictionary? value
  match dictionary?, content? with
  | some dictionary, some content =>
      changeHeap fun heap => heap.setDictionary value (dictionary.insert name content)
  | some dictionary, none =>
      if dictionary.contains name then
        changeHeap fun heap => heap.setDictionary value (dictionary.erase name)
      else failFor (Error.attributeMissing · name) value
  | none, _ => failFor (Error.attributeMissing · name) value

variable (perform : Perform Host) (value : Value) (name : String) (content? : Option Value)

theorem getAttribute_eq_route :
    getAttribute perform value name =
      route value name (fun descriptor => perform.descriptorGet descriptor (some value) value.typeId)
        (fetch perform value name) := by
  refine bind_congr fun classAttribute? => ?_
  cases classAttribute? with
  | none => rfl
  | some descriptor => exact bind_congr fun isData => by cases isData <;> rfl

theorem setAttribute_eq_route :
    setAttribute perform value name content? =
      route value name (fun descriptor => perform.descriptorSet descriptor value content?)
        fun _ => store value name content? := by
  refine bind_congr fun classAttribute? => ?_
  cases classAttribute? with
  | none => rfl
  | some descriptor => exact bind_congr fun isData => by cases isData <;> rfl

/-- An object with a dictionary accepts every store, and every deletion of an attribute that it has. -/
theorem store_ends {world : World Host} (steady : world.Steady)
    (has : (world.heap.dictionary? value).isSome = true)
    (isPossible : content? = none → world.heap.attribute? value name ≠ none) :
    (store value name content?).Ends world (.ok ())
      (world.heap.withAttribute value name content?) := by
  obtain ⟨dictionary, isDictionary⟩ := Option.isSome_iff_exists.1 has
  refine .reading_bind ?_
  rw [isDictionary]
  have isChange : ∀ changed, content?.elim (dictionary.erase name) (dictionary.insert name) = changed →
      (changeHeap fun heap => heap.setDictionary value changed).Ends world (.ok ())
        (world.heap.withAttribute value name content?) := by
    rintro _ rfl
    rw [Heap.withAttribute, isDictionary]
    exact .changeHeap steady _
  cases content? with
  | some content => exact isChange _ rfl
  | none =>
      have isThere : dictionary.contains name = true := by
        rw [Table.contains, Option.isSome_iff_ne_none]
        have isPresent := isPossible rfl
        rwa [Heap.attribute?, isDictionary] at isPresent
      dsimp only
      rw [if_pos isThere]
      exact isChange _ rfl

/-- A deletion of an attribute that an object does not have changes nothing. -/
theorem store_ends_of_missing {world : World Host} (steady : world.Steady)
    (isMissing : world.heap.attribute? value name = none) :
    (store value name none).Ends world (.error (.attributeMissing (world.typeName value) name))
      world.heap := by
  refine .reading_bind ?_
  cases isDictionary : world.heap.dictionary? value with
  | none => exact .failFor_typeName steady _ value
  | some dictionary =>
      rw [Heap.attribute?, isDictionary] at isMissing
      have isAbsent : dictionary.contains name = false := by
        rw [Table.contains, show dictionary.get? name = none from isMissing]
        rfl
      dsimp only
      rw [isAbsent]
      exact .failFor_typeName steady _ value

end Builtin.Object

/-! ### Attributes that a class leaves open -/

namespace World

/-- A class leaves an attribute of an object open when its slots for attributes are the operations of
`object`, the object has a dictionary, and what the linearization of the class has under the name, if
anything, is a value of a registered type without a slot for stores. -/
structure LeavesOpen (world : World Host) (value : Value) (name : String) : Prop where
  isGeneric : world.registry.IsGeneric value.typeId
  hasDictionary : (world.heap.dictionary? value).isSome = true
  isRegistered : ∀ content, world.registry.lookup value.typeId name = some content →
    ∃ definition, world.registry.definition? content.typeId = some definition
  isNoData : ∀ content, world.registry.lookup value.typeId name = some content →
    ¬ world.registry.HasSlot content.typeId .descrSet

variable {world next : World Host} {value : Value} {name : String}

theorem LeavesOpen.of_turns {heap : Heap} (isOpen : world.LeavesOpen value name)
    (turns : world.Turns heap next) (has : (heap.dictionary? value).isSome = true) :
    next.LeavesOpen value name where
  isGeneric :=
    ⟨turns.hasTarget_iff.2 isOpen.isGeneric.getAttr, turns.hasTarget_iff.2 isOpen.isGeneric.setAttr⟩
  hasDictionary := by rwa [turns.heap_eq]
  isRegistered := by
    intro content isFound
    rw [turns.lookup_eq] at isFound
    obtain ⟨definition, found⟩ := isOpen.isRegistered content isFound
    exact ⟨definition, (turns.refreshes.definition? _).trans found⟩
  isNoData := by
    intro content isFound
    rw [turns.lookup_eq] at isFound
    exact turns.hasSlot_iff.not.2 (isOpen.isNoData content isFound)

/-- What the class has under an open name is no data descriptor. -/
theorem LeavesOpen.isData_ends (isOpen : world.LeavesOpen value name) (steady : world.Steady) :
    (Builtin.Object.isData (world.registry.lookup value.typeId name)).Ends world (.ok false)
      world.heap := by
  cases isFound : world.registry.lookup value.typeId name with
  | none => exact .pure steady false
  | some content =>
      obtain ⟨definition, found⟩ := isOpen.isRegistered content isFound
      exact steady.hasSlot_ends (steady.hasTarget_absent found (isOpen.isNoData content isFound))

section Route

variable {leave : Value → Action (World Host) Result} {pass : Option Value → Action (World Host) Result}
  {action : Action (World Host) Result}

open Builtin.Object (route)

/-- An operation on an open attribute goes past the class. -/
theorem LeavesOpen.route_ends {outcome : Except Error Result} {heap : Heap}
    (isOpen : world.LeavesOpen value name) (steady : world.Steady)
    (ends : ∀ next, world.Turns world.heap next →
      (pass (next.registry.lookup value.typeId name)).Ends next outcome heap) :
    (route value name leave pass).Ends world outcome heap := by
  refine .reading_bind ((isOpen.isData_ends steady).bind fun next turns => ?_)
  rw [← turns.lookup_eq]
  exact ends next turns

theorem LeavesOpen.route_runsAlike (respects : Respects World.Parallel action)
    (isOpen : world.LeavesOpen value name) (steady : world.Steady)
    (runsAlike : ∀ next, world.Turns world.heap next →
      next.RunsAlike (pass (next.registry.lookup value.typeId name)) action) :
    world.RunsAlike (route value name leave pass) action := by
  refine .reading_bind (.ends_bind respects (isOpen.isData_ends steady) fun next turns => ?_)
  rw [← turns.lookup_eq]
  exact runsAlike next turns

/-- An operation on an attribute is left to a data descriptor of the class. -/
theorem Steady.route_runsAlike (steady : world.Steady) {descriptor : Value}
    (respects : Respects World.Parallel (leave descriptor))
    (isFound : world.registry.lookup value.typeId name = some descriptor)
    (hasSlot : world.registry.HasSlot descriptor.typeId .descrSet) :
    world.RunsAlike (route value name leave pass) (leave descriptor) := by
  obtain ⟨target, hasTarget, isThere⟩ := hasSlot
  have isData : (Builtin.Object.isData (some descriptor)).Ends world (.ok true) world.heap := by
    have ends := steady.hasSlot_ends hasTarget
    rwa [isThere] at ends
  refine .reading_bind ?_
  rw [isFound]
  exact .ends_bind respects isData fun next turns => .of_respects respects turns.steady

/-- What a type that is not registered has in its slots is unknown, and asking for it changes nothing. -/
theorem Steady.route_ends_of_unregistered (steady : world.Steady) {content : Value}
    (isFound : world.registry.lookup value.typeId name = some content)
    (isUnknown : world.registry.definition? content.typeId = none) :
    (route value name leave pass).Ends world (.error (.unknownType content.typeId)) world.heap := by
  have fails : (entryOf content.typeId).Ends world (.error (.unknownType content.typeId)) world.heap :=
    ⟨world, entryOf_of_unregistered steady.coherent isUnknown, .refl steady⟩
  refine .reading_bind ?_
  rw [isFound]
  exact .bind_error (.bind_error (.bind_error fails))

end Route

/-! ### Requests for attributes -/

section Protocol

variable {perform : Perform Host}

/-- A generic type reads an attribute of an instance by the operation of `object`. -/
theorem Steady.getAttribute_ends (steady : world.Steady)
    (isGeneric : world.registry.IsGeneric value.typeId) {outcome : Except Error Value} {heap : Heap}
    (ends : ∀ next, world.Turns world.heap next →
      (Builtin.Object.getAttribute perform value name).Ends next outcome heap) :
    (Protocol.getAttribute perform value name).Ends world outcome heap :=
  (steady.targetOf_ends isGeneric.getAttr).bind fun _ turns =>
    .noted turns.steady fun last turnsLast => ends last (turns.still turnsLast)

theorem Steady.getAttribute_runsAlike (steady : world.Steady)
    (isGeneric : world.registry.IsGeneric value.typeId) {action : Action (World Host) Value}
    (respects : Respects World.Parallel action)
    (runsAlike : ∀ next, world.Turns world.heap next →
      next.RunsAlike (Builtin.Object.getAttribute perform value name) action) :
    world.RunsAlike (Protocol.getAttribute perform value name) action :=
  .ends_bind respects (steady.targetOf_ends isGeneric.getAttr) fun next turns =>
    .noted respects turns.steady (runsAlike { next with journal := [] } turns)

/-- A generic type changes an attribute of an instance by the operation of `object`. -/
theorem Steady.setAttribute_ends (steady : world.Steady)
    (isGeneric : world.registry.IsGeneric value.typeId) {content? : Option Value}
    {outcome : Except Error Unit} {heap : Heap}
    (ends : ∀ next, world.Turns world.heap next →
      (Builtin.Object.setAttribute perform value name content?).Ends next outcome heap) :
    (Protocol.setAttribute perform value name content?).Ends world outcome heap := by
  refine (steady.targetOf_ends isGeneric.setAttr).bind fun _ turns => ?_
  cases content? <;>
    exact .noted turns.steady fun last turnsLast => ends last (turns.still turnsLast)

theorem Steady.setAttribute_runsAlike (steady : world.Steady)
    (isGeneric : world.registry.IsGeneric value.typeId) {content? : Option Value}
    {action : Action (World Host) Unit} (respects : Respects World.Parallel action)
    (runsAlike : ∀ next, world.Turns world.heap next →
      next.RunsAlike (Builtin.Object.setAttribute perform value name content?) action) :
    world.RunsAlike (Protocol.setAttribute perform value name content?) action := by
  refine .ends_bind respects (steady.targetOf_ends isGeneric.setAttr) fun next turns => ?_
  cases content? <;>
    exact .noted respects turns.steady (runsAlike { next with journal := [] } turns)

end Protocol

/-! ### Data descriptors -/

/-- A class leaves an attribute to a descriptor when every request for the attribute runs like a request
for the descriptor, whatever the dictionaries of the heap hold. -/
structure LeavesTo (world : World Host) (value : Value) (name : String) (descriptor : Value) :
    Prop where
  gets : ∀ heap program depth, RunsAlike { world with heap := heap }
    (perform program (depth + 1) (.getAttribute value name))
    (perform program depth (.descriptorGet descriptor (some value) value.typeId))
  sets : ∀ heap program depth content, RunsAlike { world with heap := heap }
    (perform program (depth + 1) (.setAttribute value name content))
    (perform program depth (.descriptorSet descriptor value (some content)))
  deletes : ∀ heap program depth, RunsAlike { world with heap := heap }
    (perform program (depth + 1) (.deleteAttribute value name))
    (perform program depth (.descriptorSet descriptor value none))

/-- A generic class leaves its data descriptors all attributes of their names. -/
theorem Steady.leavesTo (steady : world.Steady) {descriptor : Value}
    (isGeneric : world.registry.IsGeneric value.typeId)
    (isFound : world.registry.lookup value.typeId name = some descriptor)
    (hasSlot : world.registry.HasSlot descriptor.typeId .descrSet) :
    world.LeavesTo value name descriptor := by
  have steadyWith : ∀ heap, World.Steady { world with heap := heap } := Alike.withHeap steady
  have isFoundLater : ∀ {heap : Heap} {next : World Host},
      World.Turns { world with heap := heap } heap next →
        next.registry.lookup value.typeId name = some descriptor := fun turns =>
    (turns.lookup_eq _ _).trans isFound
  have changes : ∀ heap program depth content?, RunsAlike { world with heap := heap }
      (Protocol.setAttribute (perform program depth) value name content?)
      (perform program depth (.descriptorSet descriptor value content?)) := by
    intro heap program depth content?
    have respects := Parallel.respects_perform program depth (.descriptorSet descriptor value content?)
    refine (steadyWith heap).setAttribute_runsAlike isGeneric respects fun next turns => ?_
    rw [Builtin.Object.setAttribute_eq_route]
    exact turns.steady.route_runsAlike respects (isFoundLater turns) (turns.hasSlot_iff.2 hasSlot)
  refine ⟨fun heap program depth => ?_, fun heap program depth content =>
    changes heap program depth (some content), fun heap program depth =>
    changes heap program depth none⟩
  have respects := Parallel.respects_perform program depth
    (.descriptorGet descriptor (some value) value.typeId)
  refine (steadyWith heap).getAttribute_runsAlike isGeneric respects fun next turns => ?_
  rw [Builtin.Object.getAttribute_eq_route]
  exact turns.steady.route_runsAlike respects (isFoundLater turns) (turns.hasSlot_iff.2 hasSlot)

/-! ### One attribute of one object -/

/-- An object has an attribute of its own when requests for the attribute read and change its content in
the dictionary of the object, and when only a request for an attribute without content asks the class. -/
structure HasOwn (world : World Host) (value : Value) (name : String) : Prop where
  gets : ∀ content, world.heap.attribute? value name = some content → ∀ program depth,
    (perform program (depth + 1) (.getAttribute value name)).Ends world (.ok content) world.heap
  binds : world.heap.attribute? value name = none →
    ∀ content, world.registry.lookup value.typeId name = some content → ∀ program depth,
      world.RunsAlike (perform program (depth + 1) (.getAttribute value name))
        (perform program depth (.descriptorGet content (some value) value.typeId))
  misses : world.heap.attribute? value name = none →
    world.registry.lookup value.typeId name = none → ∀ program depth,
      (perform program (depth + 1) (.getAttribute value name)).Ends world
        (.error (.attributeMissing (world.typeName value) name)) world.heap
  sets : ∀ content program depth,
    (perform program (depth + 1) (.setAttribute value name content)).Ends world (.ok ())
      (world.heap.withAttribute value name (some content))
  deletes : world.heap.attribute? value name ≠ none → ∀ program depth,
    (perform program (depth + 1) (.deleteAttribute value name)).Ends world (.ok ())
      (world.heap.withAttribute value name none)
  deletesNothing : world.heap.attribute? value name = none → ∀ program depth,
    (perform program (depth + 1) (.deleteAttribute value name)).Ends world
      (.error (.attributeMissing (world.typeName value) name)) world.heap

namespace LeavesOpen

theorem still (isOpen : world.LeavesOpen value name) (turns : world.Turns world.heap next) :
    next.LeavesOpen value name :=
  isOpen.of_turns turns isOpen.hasDictionary

variable (isOpen : world.LeavesOpen value name) (steady : world.Steady)

include isOpen steady

/-- A request for an open attribute reads the dictionary first. -/
theorem getAttribute_ends (perform : Perform Host) {outcome : Except Error Value}
    (ends : ∀ next, world.Turns world.heap next →
      (Builtin.Object.fetch perform value name (world.registry.lookup value.typeId name)).Ends next
        outcome world.heap) :
    (Protocol.getAttribute perform value name).Ends world outcome world.heap := by
  refine steady.getAttribute_ends isOpen.isGeneric fun next turns => ?_
  rw [Builtin.Object.getAttribute_eq_route]
  refine (isOpen.still turns).route_ends turns.steady fun last turnsLast => ?_
  rw [turnsLast.lookup_eq, turns.lookup_eq]
  exact ends last (turns.still turnsLast)

/-- A request that changes an open attribute stores into the dictionary. -/
theorem setAttribute_ends (perform : Perform Host) {content? : Option Value}
    {outcome : Except Error Unit} {heap : Heap}
    (ends : ∀ next, world.Turns world.heap next →
      (Builtin.Object.store value name content?).Ends next outcome heap) :
    (Protocol.setAttribute perform value name content?).Ends world outcome heap := by
  refine steady.setAttribute_ends isOpen.isGeneric fun next turns => ?_
  rw [Builtin.Object.setAttribute_eq_route]
  exact (isOpen.still turns).route_ends turns.steady fun last turnsLast =>
    ends last (turns.still turnsLast)

/-- An open attribute changes in the dictionary alone. -/
theorem changes (perform : Perform Host) (content? : Option Value)
    (isPossible : content? = none → world.heap.attribute? value name ≠ none) :
    (Protocol.setAttribute perform value name content?).Ends world (.ok ())
      (world.heap.withAttribute value name content?) := by
  refine isOpen.setAttribute_ends steady perform fun next turns => ?_
  have has := isOpen.hasDictionary
  rw [← turns.heap_eq] at has isPossible ⊢
  exact Builtin.Object.store_ends value name content? turns.steady has isPossible

/-- A deletion of an open attribute that the object does not have changes nothing. -/
theorem deletesNothing (perform : Perform Host)
    (isMissing : world.heap.attribute? value name = none) :
    (Protocol.setAttribute perform value name none).Ends world
      (.error (.attributeMissing (world.typeName value) name)) world.heap := by
  refine isOpen.setAttribute_ends steady perform fun next turns => ?_
  rw [← turns.heap_eq] at isMissing ⊢
  rw [← turns.typeName_eq]
  exact Builtin.Object.store_ends_of_missing value name turns.steady isMissing

/-- An open attribute is an attribute of the object's own. -/
theorem hasOwn : world.HasOwn value name where
  gets := by
    intro content isContent program depth
    refine isOpen.getAttribute_ends steady _ fun next turns => .reading_bind ?_
    rw [turns.heap_eq, isContent, ← turns.heap_eq]
    exact .pure turns.steady content
  binds := by
    intro isNone content isFound program depth
    have respects := Parallel.respects_perform program depth
      (.descriptorGet content (some value) value.typeId)
    refine steady.getAttribute_runsAlike isOpen.isGeneric respects fun next turns => ?_
    rw [Builtin.Object.getAttribute_eq_route]
    refine (isOpen.still turns).route_runsAlike respects turns.steady fun last turnsLast =>
      .reading_bind ?_
    rw [turnsLast.lookup_eq, turns.lookup_eq, isFound, (turns.still turnsLast).heap_eq, isNone]
    exact .of_respects respects turnsLast.steady
  misses := by
    intro isNone isNoClassAttribute program depth
    refine isOpen.getAttribute_ends steady _ fun next turns => .reading_bind ?_
    rw [turns.heap_eq, isNone, isNoClassAttribute, ← turns.heap_eq, ← turns.typeName_eq]
    exact .failFor_typeName turns.steady _ value
  sets := fun content program depth => isOpen.changes steady _ (some content) nofun
  deletes := fun isThere program depth => isOpen.changes steady _ none fun _ => isThere
  deletesNothing := fun isMissing program depth => isOpen.deletesNothing steady _ isMissing

end LeavesOpen

end World

end SlotDispatch
