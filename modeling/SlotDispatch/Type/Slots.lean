import SlotDispatch.Machine.Action
import SlotDispatch.Type.Registry
/-!
The slot entries of types. An entry is kept until its type begins a new generation, and a new entry
takes the targets that the type does not define from the entries of its ancestors.
-/

namespace SlotDispatch.Registry

/-- A special method of an override is the first binding along the linearization. -/
def overrideMethods (registry : Registry) (kind : SlotKind) (linearization : List TypeId) :
    Namespace :=
  ⟨kind.dunders.filterMap fun dunder =>
    (registry.lookupAlong dunder linearization).map fun value => (dunder, value)⟩

/-- A class has no slot when it blocks every special method of the kind, or when it leaves none to
call and inherits nothing. -/
def overrideTarget (registry : Registry) (owner : TypeId) (kind : SlotKind)
    (generation : Nat) (linearization : List TypeId) (inherited : SlotTarget) : SlotTarget :=
  let definition : Override :=
    ⟨owner, kind, generation, registry.entries.turn owner generation,
      registry.overrideMethods kind linearization⟩
  let isBlocked (dunder : String) : Bool :=
    match definition.binding dunder with
    | .blocked => true
    | _ => false
  let isUsable (dunder : String) : Bool :=
    match definition.binding dunder with
    | .method _ => true
    | _ => false
  if kind.dunders.all isBlocked then .absent
  else if !kind.dunders.any isUsable && inherited.isAbsent then .absent
  else .override definition inherited

/-- The definer of a slot is the first of some types that defines it. -/
def definer? (registry : Registry) (kind : SlotKind) (ids : List TypeId) : Option TypeId :=
  ids.find? fun id => (registry.definition? id).any fun definition => definition.defines kind

/-- The inherited target of a slot is the target of the first ancestor that defines the slot. -/
def inheritedTarget (entryOf : TypeId → Action Registry SlotEntry) (registry : Registry)
    (kind : SlotKind) (ancestors : List TypeId) : Action Registry SlotTarget :=
  match registry.definer? kind ancestors with
  | none => return .absent
  | some definer => do return (← entryOf definer).target kind

/-- A slot holds an override when the type binds the slot, its builtin operation when it has one,
and the inherited target otherwise. -/
def slotTarget (entryOf : TypeId → Action Registry SlotEntry) (registry : Registry)
    (id : TypeId) (definition : TypeDefinition) (kind : SlotKind) : Action Registry SlotTarget :=
  let inherited := inheritedTarget entryOf registry kind definition.linearization.tail
  if definition.binds kind then do
    return registry.overrideTarget id kind definition.generation definition.linearization
      (← inherited)
  else
    match definition.builtin? kind with
    | some operation => return .builtin operation
    | none => inherited

/-- The types of a linearization have to be registered. -/
def requireAll (registry : Registry) : List TypeId → Except Error Unit
  | [] => .ok ()
  | id :: rest => do
      let _ ← registry.require id
      registry.requireAll rest

/-- The targets of some slots are found one after the other. -/
def slotTargets (entryOf : TypeId → Action Registry SlotEntry) (registry : Registry)
    (id : TypeId) (definition : TypeDefinition) :
    List SlotKind → Action Registry (List (SlotKind × SlotTarget))
  | [] => return []
  | kind :: kinds => do
      let target ← slotTarget entryOf registry id definition kind
      let targets ← slotTargets entryOf registry id definition kinds
      return (kind, target) :: targets

/-- A new entry is kept for its type. -/
def rebuildEntry (entryOf : TypeId → Action Registry SlotEntry) (id : TypeId)
    (definition : TypeDefinition) : Action Registry SlotEntry := do
  let registry ← Action.current
  Action.ofExcept (registry.requireAll definition.linearization.tail)
  let targets ← slotTargets entryOf registry id definition SlotKind.all
  let entry : SlotEntry :=
    ⟨id, definition.generation, definition.linearization, SlotTable.ofTargets targets⟩
  Action.change fun registry =>
    { registry with entries := registry.entries.keep id entry }
  return entry

/-- The kept entry of a type is used when it was made in the current generation of the type. -/
def kept? (registry : Registry) (id : TypeId) (definition : TypeDefinition) :
    Option SlotEntry :=
  (registry.entries.get? id).filter fun entry => entry.generation = definition.generation

/-- The entry of a type is found with a bound on the number of ancestors that ask each other. -/
def entryWithin : Nat → TypeId → Action Registry SlotEntry
  | 0, _ => Action.exhausted
  | depth + 1, id => do
      let registry ← Action.current
      let definition ← Action.ofExcept (registry.require id)
      match registry.kept? id definition with
      | some entry => return entry
      | none => rebuildEntry (entryWithin depth) id definition

/-- This is the entry of a type. A type asks only types behind it in its linearization, so no more
types than the registry has ask each other. -/
def entryOf (id : TypeId) : Action Registry SlotEntry := fun registry =>
  entryWithin registry.definitions.length id registry

end SlotDispatch.Registry
