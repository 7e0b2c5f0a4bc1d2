import SlotDispatch.Type.Hierarchy
/-!
The changes of types. A change that can change a slot raises the generation of the type and of all
types that inherit from it, so that their slot entries are made anew.
-/

namespace SlotDispatch.Registry

/-- These types begin a new generation. -/
def raiseGenerations (registry : Registry) (ids : List TypeId) : Registry :=
  ids.foldl
    (fun registry id =>
      registry.update id fun definition =>
        { definition with generation := definition.generation + 1 })
    registry

/-- A type and all its descendants begin a new generation. -/
def raiseFamily (registry : Registry) (id : TypeId) : Registry :=
  registry.raiseGenerations (id :: registry.descendants id)

/-- A class that defines equality and no hash is not hashable. -/
def withBlockedHash (attributes : Namespace) : Namespace :=
  if attributes.contains "__eq__" && !attributes.contains "__hash__" then
    attributes.insert "__hash__" .none
  else attributes

/-- A new class is mutable and open for inheritance, and it has no operations of its own. -/
def newClass (name : String) (bases : List TypeId) (attributes : Namespace)
    (linearization : List TypeId) : TypeDefinition where
  name := name
  isImmutable := false
  isBase := true
  isHeap := true
  operations := []
  bases := bases
  attributes := withBlockedHash attributes
  linearization := linearization
  generation := 0
  subclasses := []

/-- A new type takes the next place of the registry, as long as a type id has no more than 16 bits. -/
def newId (registry : Registry) : Except Error TypeId :=
  if registry.definitions.length < 0x10000 then .ok registry.definitions.length
  else .error .tooManyTypes

/-- The id of a new type is the next place, and it has 16 bits. -/
theorem newId_eq_ok_iff {registry : Registry} {id : TypeId} :
    registry.newId = .ok id ↔ id = registry.definitions.length ∧ id < 0x10000 := by
  unfold newId
  split
  · next isSmall =>
      simp only [Except.ok.injEq]
      exact ⟨fun same => ⟨same.symm, same ▸ isSmall⟩, fun isNext => isNext.1.symm⟩
  · next isLarge =>
      simp only [reduceCtorEq, false_iff, not_and]
      rintro rfl
      exact isLarge

/-- A new class extends its bases, or `object` when it names none. -/
def createType (registry : Registry) (name : String) (bases : List TypeId)
    (attributes : Namespace) : Except Error (TypeId × Registry) := do
  let bases := if bases = [] then [TypeId.object] else bases
  registry.validateBases [] bases
  let id ← registry.newId
  let linearization ← registry.linearize id bases .empty
  return (id, registry.append (newClass name bases attributes linearization))

/-- A namespace changes at one name, and a slot dunder begins a new generation. -/
def changeAttributes (registry : Registry) (id : TypeId) (name : String)
    (change : Namespace → Namespace) : Registry :=
  let changed := registry.update id fun definition =>
    { definition with attributes := change definition.attributes }
  if SlotKind.isSlotDunder name then changed.raiseFamily id else changed

/-- An assignment binds a name in the namespace of a type. -/
def setAttribute (registry : Registry) (id : TypeId) (name : String) (value : Value) :
    Except Error Registry := do
  let definition ← registry.require id
  definition.ensureMutable name
  return registry.changeAttributes id name fun attributes => attributes.insert name value

/-- A deletion removes a name that the namespace of a type has. -/
def deleteAttribute (registry : Registry) (id : TypeId) (name : String) :
    Except Error Registry := do
  let definition ← registry.require id
  definition.ensureMutable name
  if definition.attributes.contains name then
    return registry.changeAttributes id name fun attributes => attributes.erase name
  else .error (.typeAttributeMissing definition.name name)

/-- No base may inherit from the type that gets it as a base. -/
def rejectCycles (registry : Registry) (id : TypeId) : List TypeId → Except Error Unit
  | [] => .ok ()
  | base :: rest => do
      let definition ← registry.require base
      if definition.linearization.contains id then .error .inheritanceCycle
      else registry.rejectCycles id rest

/-- These are the new linearizations of a type over new bases and of all its descendants. -/
def stageBases (registry : Registry) (id : TypeId) (bases : List TypeId) :
    Except Error Staged := do
  let descendants := registry.descendants id
  let own ← registry.linearize id bases .empty
  registry.stageAll (descendants ++ [id]) descendants (Table.empty.insert id own)

/-- A type leaves the subclasses of its old bases and joins the subclasses of its new bases. -/
def moveSubclass (registry : Registry) (id : TypeId) (old new : List TypeId) : Registry :=
  let removed := old.foldl
    (fun registry base =>
      registry.update base fun definition =>
        { definition with subclasses := definition.subclasses.filter fun other => other ≠ id })
    registry
  new.foldl
    (fun registry base =>
      registry.update base fun definition =>
        { definition with subclasses := definition.subclasses ++ [id] })
    removed

/-- A staged linearization is published together with a new generation. -/
def publish (registry : Registry) (staged : Staged) : Registry :=
  staged.entries.foldl
    (fun registry stagedType =>
      registry.update stagedType.1 fun definition =>
        { definition with
          linearization := stagedType.2
          generation := definition.generation + 1 })
    registry

/-- New bases are accepted only when the type and all its descendants have a linearization over
them. -/
def setBases (registry : Registry) (id : TypeId) (bases : List TypeId) :
    Except Error Registry := do
  let definition ← registry.require id
  definition.ensureMutable "__bases__"
  if bases = [] then
    .error (.emptyBases definition.name)
  else
    registry.validateBases [] bases
    registry.rejectCycles id bases
    let staged ← registry.stageBases id bases
    let moved := registry.moveSubclass id definition.bases bases
    return (moved.update id fun definition => { definition with bases := bases }).publish staged

/-- An invalidation begins a new generation and changes nothing else. -/
def invalidate (registry : Registry) (id : TypeId) : Except Error Registry := do
  let _ ← registry.require id
  return registry.raiseFamily id

end SlotDispatch.Registry
