import SlotDispatch.Builtin.Catalog
import SlotDispatch.Table
import SlotDispatch.Value
/-!
Targets of slots. A slot of a type holds nothing, a builtin operation, or an override that a class
made with special methods. An override delegates the special methods that no class binds to the
target that it inherits.
-/

namespace SlotDispatch

/-- A namespace maps names to values. -/
abbrev Namespace := Table String Value

/-- An override is made by the class that owns it. The class makes its slot table anew in one turn of
one of its generations, and no two tables of a class are made in the same turn of a generation. The
override binds some special methods of its kind. -/
structure Override where
  owner : TypeId
  kind : SlotKind
  generation : Nat
  turn : Nat
  methods : Namespace

/-- A special method is bound to a value, blocked by the value `None`, or left to the inherited
target. -/
inductive Binding where
  | method (value : Value)
  | blocked
  | inherited

/-- This is what the override says about a special method. -/
def Override.binding (definition : Override) (dunder : String) : Binding :=
  match definition.methods.get? dunder with
  | none => .inherited
  | some value => if value.isNone then .blocked else .method value

/-- Two overrides are the same when they come from one making: one class made them for one kind, in
one turn of one generation. -/
def Override.isSame (left right : Override) : Bool :=
  left.owner = right.owner && left.kind = right.kind && left.generation = right.generation &&
    left.turn = right.turn

/-- A target is what a slot runs. -/
inductive SlotTarget where
  | absent
  | builtin (operation : Builtin)
  | override (definition : Override) (inherited : SlotTarget)

instance : Inhabited SlotTarget := ⟨.absent⟩

/-- This is what a target reaches for a special method at the end of its delegation. -/
inductive Reached where
  | method (value : Value)
  | builtin (operation : Builtin)
  | blocked
  | absent

namespace Reached

/-- Nothing runs when the special method is blocked or absent. -/
def isMissing : Reached → Bool
  | .blocked | .absent => true
  | .method _ | .builtin _ => false

/-- Two implementations differ unless they are one method, one operation, or both missing. -/
def differs : Reached → Reached → Bool
  | .method left, .method right => !left.isSame right
  | .builtin left, .builtin right => left ≠ right
  | left, right => !(left.isMissing && right.isMissing)

end Reached

namespace SlotTarget

/-- This test tells the empty slot. -/
def isAbsent : SlotTarget → Bool
  | .absent => true
  | _ => false

/-- This test tells the slots that a class has overridden. -/
def isOverride : SlotTarget → Bool
  | .override _ _ => true
  | _ => false

/-- A special method is looked for along the overrides, and a builtin operation answers for all. -/
def reach (dunder : String) : SlotTarget → Reached
  | .absent => .absent
  | .builtin operation => .builtin operation
  | .override definition inherited =>
      match definition.binding dunder with
      | .method value => .method value
      | .blocked => .blocked
      | .inherited => inherited.reach dunder

/-- A kind names the special method that is looked for, and a kind without one reaches nothing. -/
def reachBy (dunder? : SlotKind → Option String) : SlotTarget → Reached
  | .absent => .absent
  | .builtin operation => .builtin operation
  | .override definition inherited =>
      match dunder? definition.kind with
      | none => .absent
      | some dunder => reach dunder (.override definition inherited)

/-- This is the implementation for the left operand. -/
def forward : SlotTarget → Reached :=
  reachBy SlotKind.forwardDunder?

/-- This is the implementation for the right operand. -/
def reflected : SlotTarget → Reached :=
  reachBy SlotKind.reflectedDunder?

/-- A target overloads a base target when the two have different reflected implementations. -/
def overloadsReflected (target base : SlotTarget) : Bool :=
  target.reflected.differs base.reflected

/-- Two targets are the same when they are one operation or one override, and an empty slot is the
same as nothing. -/
def isSame : SlotTarget → SlotTarget → Bool
  | .builtin left, .builtin right => left = right
  | .override left _, .override right _ => left.isSame right
  | _, _ => false

/-- Equal targets are the same, or both empty. -/
def equals (left right : SlotTarget) : Bool :=
  left.isSame right || (left.isAbsent && right.isAbsent)

end SlotTarget

/-- A slot table holds the targets of the slots that are not empty. -/
structure SlotTable where
  targets : Table SlotKind SlotTarget

namespace SlotTable

/-- This is the target of a slot. -/
def target (table : SlotTable) (kind : SlotKind) : SlotTarget :=
  (table.targets.get? kind).getD .absent

/-- The table of a list of targets leaves out the empty slots. -/
def ofTargets (targets : List (SlotKind × SlotTarget)) : SlotTable :=
  ⟨⟨targets.filter fun slot => !slot.2.isAbsent⟩⟩

end SlotTable

/-- An entry is the slot table of a type, with the generation and the linearization of the type that
it was made from. -/
structure SlotEntry where
  typeId : TypeId
  generation : Nat
  linearization : List TypeId
  table : SlotTable

namespace SlotEntry

/-- This is the target of a slot of the type. -/
def target (entry : SlotEntry) (kind : SlotKind) : SlotTarget :=
  entry.table.target kind

/-- A type is a subtype of every type in its linearization. -/
def isSubtypeOf (entry : SlotEntry) (other : TypeId) : Bool :=
  entry.linearization.contains other

end SlotEntry

/-- A cache keeps one slot entry of each type. It notes the type and the generation of every entry that
was made, so that the turns of a class can be told. -/
structure SlotCache where
  kept : Table TypeId SlotEntry
  makings : List (TypeId × Nat)

namespace SlotCache

/-- The first cache keeps nothing, and nothing was made for it. -/
def empty : SlotCache := ⟨.empty, []⟩

/-- This is the entry that is kept for a type. -/
def get? (cache : SlotCache) (id : TypeId) : Option SlotEntry :=
  cache.kept.get? id

/-- The turns of a type in a generation are counted from zero. -/
def turn (cache : SlotCache) (id : TypeId) (generation : Nat) : Nat :=
  cache.makings.count (id, generation)

/-- A new entry takes the place of the entry that was kept for the type, and its making is noted. -/
def keep (cache : SlotCache) (id : TypeId) (entry : SlotEntry) : SlotCache :=
  ⟨cache.kept.insert id entry, (id, entry.generation) :: cache.makings⟩

theorem get?_keep (cache : SlotCache) (id other : TypeId) (entry : SlotEntry) :
    (cache.keep id entry).get? other = if other = id then some entry else cache.get? other :=
  Table.get?_insert cache.kept id other entry

end SlotCache

end SlotDispatch
