import SlotDispatch.Type.Definition
/-!
The registry of types. It starts with the builtin types, and it looks names up along the
linearization of a type.
-/

namespace SlotDispatch

/-- A registry lists the definitions of all types, and it has a cache of their slot entries. -/
structure Registry where
  definitions : List TypeDefinition
  entries : SlotCache
  linearizationLimit : Nat

namespace Registry

/-- This is the definition of a type, if the type is registered. -/
def definition? (registry : Registry) (id : TypeId) : Option TypeDefinition :=
  registry.definitions[id]?

/-- This is the definition of a type that has to be registered. -/
def require (registry : Registry) (id : TypeId) : Except Error TypeDefinition :=
  match registry.definition? id with
  | some definition => .ok definition
  | none => .error (.unknownType id)

/-- This is the name of a type for an error text. -/
def nameOf (registry : Registry) (id : TypeId) : String :=
  match registry.definition? id with
  | some definition => definition.name
  | none => s!"<type {id}>"

/-- This is the linearization of a registered type. -/
def linearizationOf (registry : Registry) (id : TypeId) : List TypeId :=
  match registry.definition? id with
  | some definition => definition.linearization
  | none => []

/-- A type is a subtype of itself and of every type in its linearization. -/
def isSubtype (registry : Registry) (sub base : TypeId) : Bool :=
  sub = base || (registry.linearizationOf sub).contains base

/-- A name is looked up in the namespaces of the types, and a type that is not registered ends the
search. -/
def lookupAlong (registry : Registry) (name : String) : List TypeId → Option Value
  | [] => none
  | id :: rest =>
      match registry.definition? id with
      | none => none
      | some definition => (definition.attributes.get? name).or (registry.lookupAlong name rest)

/-- A name is looked up along the linearization of a type. -/
def lookup (registry : Registry) (id : TypeId) (name : String) : Option Value :=
  registry.lookupAlong name (registry.linearizationOf id)

/-- An update changes the definition of one type. -/
def update (registry : Registry) (id : TypeId) (change : TypeDefinition → TypeDefinition) :
    Registry :=
  { registry with definitions := registry.definitions.modify id change }

/-- A new definition takes the next type id and becomes a subclass of its bases. -/
def append (registry : Registry) (definition : TypeDefinition) : Registry :=
  let id := registry.definitions.length
  let extended := { registry with definitions := registry.definitions ++ [definition] }
  definition.bases.foldl
    (fun registry base =>
      registry.update base fun definition =>
        { definition with subclasses := definition.subclasses ++ [id] })
    extended

end Registry

/-- A builtin type has a name, may be inherited from or not, extends at most one type, and has
operations. -/
structure BuiltinType where
  name : String
  isBase : Bool
  base? : Option TypeId
  operations : List Builtin

/-- These are the builtin types in the order of their type ids. -/
def builtinTypes : List BuiltinType :=
  [⟨"object", true, none,
      [.objectGetAttr, .objectSetAttr, .objectHash, .objectRichCompare, .objectRepr]⟩,
    ⟨"type", false, some .object, [.typeGetAttr, .typeSetAttr, .typeCall, .typeRepr]⟩,
    ⟨"NoneType", false, some .object, [.noneBool, .noneRepr]⟩,
    ⟨"NotImplementedType", false, some .object, [.notImplementedRepr]⟩,
    ⟨"int", true, some .object,
      [.intNegative, .intPositive, .intAbsolute, .intInvert, .intIndex, .intInt, .intFloat,
        .intBool, .intAdd, .intSubtract, .intMultiply, .intRemainder, .intDivmod, .intLshift,
        .intRshift, .intAnd, .intXor, .intOr, .intFloorDivide, .intTrueDivide, .intPower,
        .intRichCompare, .intHash, .intRepr]⟩,
    ⟨"bool", false, some .int, [.boolAnd, .boolXor, .boolOr, .boolRepr]⟩,
    ⟨"float", true, some .object,
      [.floatNegative, .floatPositive, .floatAbsolute, .floatInt, .floatFloat, .floatBool,
        .floatAdd, .floatSubtract, .floatMultiply, .floatRemainder, .floatDivmod,
        .floatFloorDivide, .floatTrueDivide, .floatPower, .floatRichCompare, .floatHash,
        .floatRepr]⟩,
    ⟨"str", false, some .object,
      [.strConcat, .strRepeat, .strLen, .strItem, .strSubscript, .strRichCompare, .strHash,
        .strIter, .strRepr]⟩,
    ⟨"tuple", false, some .object,
      [.tupleConcat, .tupleRepeat, .tupleLen, .tupleItem, .tupleRichCompare, .tupleHash,
        .tupleIter, .tupleRepr]⟩,
    ⟨"function", false, some .object, [.functionDescrGet, .functionCall, .functionRepr]⟩,
    ⟨"method", false, some .object, [.methodCall, .methodRepr]⟩,
    ⟨"property", false, some .object, [.propertyDescrGet, .propertyDescrSet]⟩,
    ⟨"iterator", false, some .object, [.iteratorIter, .iteratorNext]⟩]

namespace Registry

/-- A builtin type is immutable, has an empty namespace, and is followed in its linearization by
its base. -/
def appendBuiltin (registry : Registry) (builtinType : BuiltinType) : Registry :=
  registry.append
    { name := builtinType.name
      isImmutable := true
      isBase := builtinType.isBase
      isHeap := false
      operations := builtinType.operations
      bases := builtinType.base?.toList
      attributes := .empty
      linearization :=
        registry.definitions.length ::
          builtinType.base?.elim [] registry.linearizationOf
      generation := 0
      subclasses := [] }

/-- The first registry has the builtin types and no slot entries. -/
def initial (linearizationLimit : Nat) : Registry :=
  builtinTypes.foldl appendBuiltin ⟨[], .empty, linearizationLimit⟩

end Registry

end SlotDispatch
