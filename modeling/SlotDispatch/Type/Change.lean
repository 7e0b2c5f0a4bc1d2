import SlotDispatch.Machine.Action
import SlotDispatch.Type.Mutation
/-!
The changes of types as actions. An action makes its checks and its writes one after the other, and
a write that is made before a check fails is not taken back.
-/

namespace SlotDispatch.TypeChange

open SlotDispatch.Action

/-- This action gives the definition of a type that has to be registered. -/
def definition (id : TypeId) : Action Registry TypeDefinition := do
  ofExcept ((← current).require id)

/-- This action changes the definition of one type. -/
def amend (id : TypeId) (change : TypeDefinition → TypeDefinition) : Action Registry Unit :=
  Action.change fun registry => registry.update id change

/-- A type begins a new generation. -/
def renew (id : TypeId) : Action Registry Unit :=
  amend id fun definition => { definition with generation := definition.generation + 1 }

/-- All descendants of a type begin a new generation. -/
def renewDescendants (id : TypeId) : Action Registry Unit := do
  let registry ← current
  (registry.descendants id).forM renew

/-- A slot dunder begins a new generation of the type that it is changed in, and then of all
descendants. -/
def renewSlots (id : TypeId) (name : String) : Action Registry Unit :=
  if SlotKind.isSlotDunder name then do
    renew id
    renewDescendants id
  else return ()

/-- An assignment binds a name in the namespace of a mutable type. -/
def assign (id : TypeId) (name : String) (content : Value) : Action Registry Unit := do
  let definition ← definition id
  ofExcept (definition.ensureMutable name)
  amend id fun definition =>
    { definition with attributes := definition.attributes.insert name content }
  renewSlots id name

/-- A deletion removes a name from the namespace of a mutable type, and then fails when there was
nothing to remove. -/
def delete (id : TypeId) (name : String) : Action Registry Unit := do
  let found ← definition id
  ofExcept (found.ensureMutable name)
  amend id fun definition => { definition with attributes := definition.attributes.erase name }
  if found.attributes.contains name then renewSlots id name
  else fail (.typeAttributeMissing found.name name)

/-- A type leaves the subclasses of a base. -/
def leave (id base : TypeId) : Action Registry Unit :=
  amend base fun definition =>
    { definition with subclasses := definition.subclasses.filter fun other => other ≠ id }

/-- A type joins the subclasses of a base. -/
def join (id base : TypeId) : Action Registry Unit :=
  amend base fun definition => { definition with subclasses := definition.subclasses ++ [id] }

/-- A type gets its new linearization and begins a new generation, and the type that moves gets its
new bases with them. -/
def settle (id : TypeId) (bases : List TypeId) (staged : TypeId × List TypeId) :
    Action Registry Unit :=
  amend staged.1 fun definition =>
    { definition with
      bases := if staged.1 = id then bases else definition.bases
      linearization := staged.2
      generation := definition.generation + 1 }

/-- A type moves to other bases. All linearizations are found before the first of them is
written. -/
def rebase (id : TypeId) (bases : List TypeId) : Action Registry Unit := do
  let moved ← definition id
  ofExcept (moved.ensureMutable "__bases__")
  if bases = [] then fail (.emptyBases moved.name)
  else
    let registry ← current
    ofExcept (registry.validateBases [] bases)
    ofExcept (registry.rejectCycles id bases)
    let staged ← ofExcept (registry.stageBases id bases)
    moved.bases.forM (leave id)
    bases.forM fun base => do
      let _ ← definition base
      join id base
    staged.entries.forM (settle id bases)

/-- An invalidation begins a new generation of a type and of all its descendants. -/
def invalidate (id : TypeId) : Action Registry Unit := do
  let _ ← definition id
  renew id
  renewDescendants id

/-- A new class takes the next type id, and then joins the subclasses of its bases. -/
def create (name : String) (bases : List TypeId) (attributes : Namespace) :
    Action Registry TypeId := do
  let bases := if bases = [] then [TypeId.object] else bases
  let registry ← current
  ofExcept (registry.validateBases [] bases)
  let id ← ofExcept registry.newId
  let linearization ← ofExcept (registry.linearize id bases .empty)
  Action.change fun registry =>
    { registry with definitions := registry.definitions ++
        [Registry.newClass name bases attributes linearization] }
  bases.forM (join id)
  return id

end SlotDispatch.TypeChange
