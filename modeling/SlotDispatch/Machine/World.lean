import SlotDispatch.Configuration
import SlotDispatch.Dispatch.CallSite
import SlotDispatch.Machine.Action
import SlotDispatch.Type.Change
import SlotDispatch.Type.Slots
/-!
The world of a machine: the registry of types, the changing parts of objects, the call sites, the
journal of calls, and a state of the host. Actions on a world are built from the few actions of this
module.
-/

namespace SlotDispatch

/-- An object may have an attribute dictionary, and an iterator has items that it has not given yet.
Both change, so they are kept under the place of the object. -/
structure Heap where
  nextPlace : Nat
  dictionaries : Table Nat Namespace
  remaining : Table Nat (List Value)

namespace Heap

/-- The first heap has no objects. -/
def empty : Heap := ⟨0, .empty, .empty⟩

/-- A new object takes the next place. -/
def allocate (heap : Heap) (typeId : TypeId) (data : Data Value) (hasDictionary : Bool) :
    Value × Heap :=
  let place := heap.nextPlace
  let dictionaries :=
    if hasDictionary then heap.dictionaries.insert place .empty else heap.dictionaries
  let remaining := match data with
    | .iterator items => heap.remaining.insert place items
    | _ => heap.remaining
  (.object ⟨.allocated place, typeId⟩ data, ⟨place + 1, dictionaries, remaining⟩)

/-- This is the attribute dictionary of an object that has one. -/
def dictionary? (heap : Heap) (value : Value) : Option Namespace := do
  heap.dictionaries.get? (← value.place?)

/-- These are the items that an iterator has not given yet. -/
def remainingOf (heap : Heap) (iterator : Value) : List Value :=
  (iterator.place?.bind heap.remaining.get?).getD []

/-- The position of an iterator is the number of items that it has given. -/
def position (heap : Heap) (iterator : Value) : Nat :=
  match iterator with
  | .object _ (.iterator items) => items.length - (heap.remainingOf iterator).length
  | _ => 0

/-- An object gets a new attribute dictionary. -/
def setDictionary (heap : Heap) (value : Value) (dictionary : Namespace) : Heap :=
  match value.place? with
  | none => heap
  | some place => { heap with dictionaries := heap.dictionaries.insert place dictionary }

/-- An iterator keeps only some items to give. -/
def setRemaining (heap : Heap) (iterator : Value) (items : List Value) : Heap :=
  match iterator.place? with
  | none => heap
  | some place => { heap with remaining := heap.remaining.insert place items }

end Heap

/-- A call runs a function of the host or a builtin operation. -/
inductive Callable where
  | function (name : String) (code : Nat)
  | builtin (operation : Builtin)
deriving DecidableEq

/-- The journal notes a finished call with its arguments, its outcome, and the calls made inside
it. -/
inductive JournalEntry where
  | call (callable : Callable) (arguments : List Value) (outcome : Except Error Value)
      (inner : List JournalEntry)

/-- A journal lists finished calls, and the last call comes first. -/
abbrev Journal := List JournalEntry

/-- A world is everything that a computation can read or change. -/
structure World (Host : Type) where
  configuration : Configuration
  registry : Registry
  heap : Heap
  sites : List CallSite
  journal : Journal
  host : Host

namespace World

variable {Host Result : Type}

/-- The first world has the builtin types and nothing else. -/
def initial (configuration : Configuration) (host : Host) : World Host :=
  { configuration := configuration
    registry := .initial configuration.maxLinearization
    heap := .empty
    sites := []
    journal := []
    host := host }

/-- This is the name of the type of a value. -/
def typeName (world : World Host) (value : Value) : String :=
  world.registry.nameOf value.typeId

end World

namespace Action

variable {Host Result : Type}

/-- This action reads the world. -/
def reading (read : World Host → Result) : Action (World Host) Result := do
  return read (← current)

/-- This action runs on the registry of the world. -/
def onRegistry (action : Action Registry Result) : Action (World Host) Result :=
  onPart World.registry (fun world registry => { world with registry := registry }) action

/-- This action changes the registry as a function says that can fail without a change. -/
def changeRegistry (change : Registry → Except Error Registry) : Action (World Host) Unit :=
  onRegistry (tryChange change)

/-- This action changes the heap. -/
def changeHeap (update : Heap → Heap) : Action (World Host) Unit :=
  change fun world => { world with heap := update world.heap }

/-- This action makes an object. -/
def allocate (typeId : TypeId) (data : Data Value) (hasDictionary : Bool) :
    Action (World Host) Value := do
  let world ← current
  let (value, heap) := world.heap.allocate typeId data hasDictionary
  changeHeap fun _ => heap
  return value

/-- This action makes a text object. -/
def text (content : String) : Action (World Host) Value :=
  allocate .str (.text content) false

/-- This action makes a tuple. -/
def tuple (items : List Value) : Action (World Host) Value :=
  allocate .tuple (.tuple items) false

/-- This action makes an iterator at the start of some items. -/
def iterator (items : List Value) : Action (World Host) Value :=
  allocate .iterator (.iterator items) false

/-- This action gives the name of the type of a value. -/
def typeName (value : Value) : Action (World Host) String :=
  reading fun world => world.typeName value

/-- This action fails with an error about the type of a value. -/
def failFor (error : String → Error) (value : Value) : Action (World Host) Result := do
  fail (error (← typeName value))

/-- This action gives the definition of a type that has to be registered. -/
def definition (id : TypeId) : Action (World Host) TypeDefinition := do
  ofExcept (← reading fun world => world.registry.require id)

/-- This action gives the type object of a type that has to be registered. -/
def typeObject (id : TypeId) : Action (World Host) Value := do
  let _ ← definition id
  return .ofType id

/-- This action looks a name up along the linearization of a type. -/
def lookup (id : TypeId) (name : String) : Action (World Host) (Option Value) :=
  reading fun world => world.registry.lookup id name

/-- This action gives the slot entry of a type. -/
def entryOf (id : TypeId) : Action (World Host) SlotEntry :=
  onRegistry (Registry.entryOf id)

/-- This action gives the target of a slot of the type of a value. -/
def targetOf (value : Value) (kind : SlotKind) : Action (World Host) SlotTarget := do
  return (← entryOf value.typeId).target kind

/-- This action tells whether the type of a value has a slot. -/
def hasSlot (value : Value) (kind : SlotKind) : Action (World Host) Bool := do
  return !(← targetOf value kind).isAbsent

/-- This action runs a call and notes it in the journal with the calls that it makes. -/
def noted (callable : Callable) (arguments : List Value) (toValue : Result → Value)
    (call : Action (World Host) Result) : Action (World Host) Result := fun world =>
  (call { world with journal := [] }).map fun outcome =>
    (outcome.1, { outcome.2 with
      journal := .call callable arguments (outcome.1.map toValue) outcome.2.journal ::
        world.journal })

end Action

end SlotDispatch
