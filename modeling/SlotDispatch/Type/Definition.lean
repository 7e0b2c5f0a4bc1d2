import SlotDispatch.Error
import SlotDispatch.Slot.Target
/-!
The definition of a type: its flags, its builtin operations, its bases, its namespace, and what is
derived from the bases of all types.
-/

namespace SlotDispatch

/-- A definition holds everything that is known about one type. -/
structure TypeDefinition where
  name : String
  /-- An immutable type keeps its namespace and its bases for ever. -/
  isImmutable : Bool
  /-- Only a base type may be inherited from. -/
  isBase : Bool
  /-- The instances of a heap type have attribute dictionaries. -/
  isHeap : Bool
  operations : List Builtin
  bases : List TypeId
  attributes : Namespace
  /-- The linearization starts with the type itself. -/
  linearization : List TypeId
  /-- The generation counts the changes that can change a slot. -/
  generation : Nat
  subclasses : List TypeId

namespace TypeDefinition

/-- This is the builtin operation of the type for a slot. -/
def builtin? (definition : TypeDefinition) (kind : SlotKind) : Option Builtin :=
  definition.operations.find? fun operation => operation.kind = kind

/-- A type binds a slot when its namespace has a special method of the slot. -/
def binds (definition : TypeDefinition) (kind : SlotKind) : Bool :=
  kind.dunders.any definition.attributes.contains

/-- A type defines a slot when it has a builtin operation for the slot or binds it. -/
def defines (definition : TypeDefinition) (kind : SlotKind) : Bool :=
  (definition.builtin? kind).isSome || definition.binds kind

/-- A type may be changed unless it is immutable. -/
def ensureMutable (definition : TypeDefinition) (name : String) : Except Error Unit :=
  if definition.isImmutable then .error (.immutableType definition.name name) else .ok ()

end TypeDefinition

end SlotDispatch
