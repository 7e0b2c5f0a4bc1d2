import SlotDispatch.Linearization
import SlotDispatch.Type.Registry
/-!
The hierarchy of types: the linearization of a type over its bases, and the types that a change of
a type reaches.
-/

namespace SlotDispatch.Registry

/-- Some types have a new linearization that the registry does not have yet. -/
abbrev Staged := Table TypeId (List TypeId)

/-- This is the linearization of a base, where a staged one comes first. -/
def baseLinearization (registry : Registry) (staged : Staged) (base : TypeId) :
    Except Error (List TypeId) :=
  match staged.get? base with
  | some linearization => .ok linearization
  | none => do return (← registry.require base).linearization

/-- This is the linearization of a type over its bases, which must not be longer than the limit. -/
def linearize (registry : Registry) (id : TypeId) (bases : List TypeId) (staged : Staged) :
    Except Error (List TypeId) := do
  let linearizations ← bases.mapM (registry.baseLinearization staged)
  match Linearization.linearize id (bases.zip linearizations) with
  | .error heads => .error (.linearizationConflict (heads.map registry.nameOf))
  | .ok linearization =>
      if registry.linearizationLimit < linearization.length then
        .error (.linearizationTooLong linearization.length registry.linearizationLimit)
      else .ok linearization

/-- Bases have to be registered, different from each other, and open for inheritance. -/
def validateBases (registry : Registry) (seen : List TypeId) : List TypeId → Except Error Unit
  | [] => .ok ()
  | base :: rest => do
      let definition ← registry.require base
      if seen.contains base then .error (.duplicateBase definition.name)
      else if !definition.isBase then .error (.finalBase definition.name)
      else registry.validateBases (base :: seen) rest

/-- These are the subclasses of a type that were not found before. -/
def newSubclasses (registry : Registry) (found : List TypeId) (id : TypeId) : List TypeId :=
  match registry.definition? id with
  | none => []
  | some definition =>
      (definition.subclasses.filter fun subclass => !found.contains subclass).eraseDups

/-- The search takes the first type of the queue and puts its new subclasses at the end. -/
def descendantsWithin (registry : Registry) :
    Nat → List TypeId → List TypeId → List TypeId
  | 0, _, found => found
  | _ + 1, [], found => found
  | steps + 1, id :: queue, found =>
      let fresh := registry.newSubclasses found id
      registry.descendantsWithin steps (queue ++ fresh) (found ++ fresh)

/-- These are all direct and indirect subclasses of a type, the nearer ones first. Every type
enters the queue at most once, so the search ends. -/
def descendants (registry : Registry) (id : TypeId) : List TypeId :=
  registry.descendantsWithin (registry.definitions.length + 1) [id] []

/-- One pass over the pending types stages each type whose changed bases are all staged, and gives
the other types back. -/
def stagePass (registry : Registry) (affected : List TypeId) :
    List TypeId → Staged → Except Error (Staged × List TypeId)
  | [], staged => .ok (staged, [])
  | id :: later, staged => do
      let definition ← registry.require id
      if definition.bases.all fun base => !affected.contains base || staged.contains base then
        let linearization ← registry.linearize id definition.bases staged
        registry.stagePass affected later (staged.insert id linearization)
      else
        let (passed, waiting) ← registry.stagePass affected later staged
        return (passed, id :: waiting)

/-- Passes are repeated until every pending type is staged, and a pass without progress is a
cycle. -/
def stageAll (registry : Registry) (affected pending : List TypeId) (staged : Staged) :
    Except Error Staged :=
  if pending = [] then .ok staged
  else
    match registry.stagePass affected pending staged with
    | .error error => .error error
    | .ok (passed, waiting) =>
        if waiting.length < pending.length then registry.stageAll affected waiting passed
        else .error .inheritanceCycle
termination_by pending.length

end SlotDispatch.Registry
