import SlotDispatch.Proofs.Machine.Blocking
import SlotDispatch.Proofs.Machine.Reflected
import SlotDispatch.Proofs.Machine.Shape
import SlotDispatch.Proofs.Type.Inherited
/-!
Attribute hooks. The main statement says which getter looks an attribute of an instance up, and which
hooks are asked for a missing attribute in which order. The hook of a class is asked last, after the
hooks of the ancestors that its slot delegates the lookup to.
-/

namespace SlotDispatch

open SlotDispatch.Action SlotDispatch.Machine

variable {Host : Type} {forged : Nat → Prop}

/-! ### Getters and hooks of a target -/

namespace SlotTarget

/-- The getter of a target is the first method for a lookup along its delegation, or else the operation
at the end. -/
def getter : SlotTarget → Reached
  | .absent => .absent
  | .builtin operation => .builtin operation
  | .override definition inherited =>
      match definition.binding "__getattribute__" with
      | .method method => .method method
      | .blocked | .inherited => inherited.getter

/-- The hooks of a target are asked in this order. An override that delegates the lookup delegates it
with the hooks of the inherited target, and its own hook comes last. -/
def hooks : SlotTarget → List Value
  | .absent | .builtin _ => []
  | .override definition inherited =>
      (match definition.binding "__getattribute__" with
      | .method _ => []
      | .blocked | .inherited => inherited.hooks) ++
        match definition.binding "__getattr__" with
        | .method hook => [hook]
        | .blocked | .inherited => []

/-- A target that reaches an operation for a lookup has it as its getter. -/
theorem getter_of_reach {target : SlotTarget} {operation : Builtin}
    (reaches : target.reach "__getattribute__" = .builtin operation) :
    target.getter = .builtin operation := by
  induction target with
  | absent => cases reaches
  | builtin found => exact reaches
  | override definition inherited inductionHypothesis =>
      rw [reach] at reaches
      rw [getter]
      cases isBinding : definition.binding "__getattribute__" with
      | method | blocked =>
          rw [isBinding] at reaches
          cases reaches
      | inherited =>
          rw [isBinding] at reaches
          exact inductionHypothesis reaches

/-- A hook of an override is its own one, or a hook of the inherited target. -/
theorem mem_hooks_override {definition : Override} {inherited : SlotTarget} {hook : Value}
    (isMember : hook ∈ (override definition inherited).hooks) :
    hook ∈ inherited.hooks ∨ definition.binding "__getattr__" = .method hook := by
  rw [hooks, List.mem_append] at isMember
  rcases isMember with isDelegated | isOwn
  · left
    split at isDelegated
    · cases isDelegated
    · exact isDelegated
    · exact isDelegated
  · right
    split at isOwn
    · rename_i isBinding
      rw [isBinding, List.mem_singleton.1 isOwn]
    · cases isOwn
    · cases isOwn

end SlotTarget

namespace Invocation

/-- An outcome misses an attribute when it is the error for that. -/
def Misses (outcome : Option (Except Error Value × World Host)) : Prop :=
  ∃ error next, outcome = some (.error error, next) ∧ error.kind.isAttributeMissing = true

/-- A getter looks an attribute up by its own method, or by a builtin operation. -/
def lookUp (perform : Perform Host) (value : Value) (name : String) :
    Reached → Action (World Host) Value
  | .method method => do callSpecial perform method value [← Action.text name]
  | .builtin operation => getAttribute perform value name (.builtin operation)
  | .blocked | .absent => Action.failFor (Error.attributeMissing · name) value

/-- A hook is called with the name of the attribute. -/
def askHook (perform : Perform Host) (value : Value) (name : String) (hook : Value) :
    Action (World Host) Value := do
  callSpecial perform hook value [← Action.text name]

/-- Some hooks handle the outcome of a lookup. When it misses the attribute, the first hook is asked in
the world that the lookup left, and the other hooks handle the outcome of that. Every other outcome is
final, and no hook is asked then. -/
inductive Handles (perform : Perform Host) (value : Value) (name : String) :
    List Value → Option (Except Error Value × World Host) →
      Option (Except Error Value × World Host) → Prop
  | unhandled (outcome : Option (Except Error Value × World Host)) :
      Handles perform value name [] outcome outcome
  | final {hooks : List Value} {outcome : Option (Except Error Value × World Host)}
      (isFinal : ¬ Misses outcome) : Handles perform value name hooks outcome outcome
  | missed {hook : Value} {rest : List Value} {error : Error} {next : World Host}
      {outcome : Option (Except Error Value × World Host)}
      (isMissing : error.kind.isAttributeMissing = true)
      (later : Handles perform value name rest (askHook perform value name hook next) outcome) :
      Handles perform value name (hook :: rest) (some (.error error, next)) outcome

variable {perform : Perform Host} {value : Value} {name : String} {hooks : List Value}
  {lookup outcome : Option (Except Error Value × World Host)}

/-- One more hook leaves an outcome that misses nothing. -/
theorem Handles.append_of_final (handles : Handles perform value name hooks lookup outcome)
    (isFinal : ¬ Misses outcome) (hook : Value) :
    Handles perform value name (hooks ++ [hook]) lookup outcome := by
  induction handles with
  | unhandled | final => exact .final isFinal
  | missed isMissing _ inductionHypothesis => exact .missed isMissing (inductionHypothesis isFinal)

/-- One more hook is asked when all others have missed. -/
theorem Handles.append_of_missed {error : Error} {next : World Host}
    (handles : Handles perform value name hooks lookup (some (.error error, next)))
    (isMissing : error.kind.isAttributeMissing = true) (hook : Value) :
    Handles perform value name (hooks ++ [hook]) lookup (askHook perform value name hook next) := by
  generalize isOutcome : some (Except.error error, next) = outcome at handles
  induction handles with
  | unhandled =>
      subst isOutcome
      exact .missed isMissing (.unhandled _)
  | final isFinal => exact absurd ⟨error, next, isOutcome.symm, isMissing⟩ isFinal
  | missed isFirstMissing _ inductionHypothesis =>
      exact .missed isFirstMissing (inductionHypothesis isOutcome)

/-- A hook that is alone is asked exactly when the lookup misses, and decides the outcome then. -/
theorem Handles.of_single {hook : Value} (handles : Handles perform value name [hook] lookup outcome) :
    (∀ error next, lookup = some (.error error, next) → error.kind.isAttributeMissing = true →
      outcome = askHook perform value name hook next) ∧ (¬ Misses lookup → outcome = lookup) := by
  cases handles with
  | final isFinal => exact ⟨fun error next isLookup isMissing =>
      absurd ⟨error, next, isLookup, isMissing⟩ isFinal, fun _ => rfl⟩
  | @missed _ _ error next _ isMissing later =>
      refine ⟨fun _ _ isLookup _ => ?_, fun isFinal => absurd ⟨error, next, rfl, isMissing⟩ isFinal⟩
      obtain ⟨_, rfl⟩ := Prod.mk.inj (Option.some.inj isLookup)
      cases later <;> rfl

/-- An override hands the outcome of what it delegates to its own hook. -/
theorem Handles.own {action : Action (World Host) Value} {start : World Host}
    (handles : Handles perform value name hooks lookup (action start)) (binding : Binding) :
    Handles perform value name
      (hooks ++ match binding with | .method hook => [hook] | .blocked | .inherited => []) lookup
      ((do
        let outcome ← Action.attempt action
        match outcome, binding with
        | .error error, .method hook =>
            if error.kind.isAttributeMissing then askHook perform value name hook
            else Action.fail error
        | _, _ => Action.ofExcept outcome) start) := by
  rw [bind_apply, attempt]
  cases binding with
  | blocked | inherited =>
      rw [List.append_nil]
      rcases isOutcome : action start with _ | ⟨_ | _, _⟩ <;> rwa [isOutcome] at handles
  | method hook =>
      rcases isOutcome : action start with _ | ⟨error | result, next⟩ <;> rw [isOutcome] at handles
      · exact handles.append_of_final (by simp [Misses]) hook
      · cases isMissing : error.kind.isAttributeMissing with
        | true =>
            simp only [Option.map_some, isMissing, if_true]
            exact handles.append_of_missed isMissing hook
        | false =>
            simp only [Option.map_some, isMissing, Bool.false_eq_true, if_false]
            exact handles.append_of_final (by simp [Misses, isMissing]) hook
      · exact handles.append_of_final (by simp [Misses]) hook

/-- A target looks an attribute up by its getter, and its hooks handle the outcome. -/
theorem handles_getAttribute (perform : Perform Host) (value : Value) (name : String)
    (target : SlotTarget) (start : World Host) :
    Handles perform value name target.hooks (lookUp perform value name target.getter start)
      (getAttribute perform value name target start) := by
  induction target with
  | absent | builtin => exact .unhandled _
  | override definition inherited inductionHypothesis =>
      rw [SlotTarget.hooks, SlotTarget.getter, getAttribute]
      refine Handles.own ?_ (definition.binding "__getattr__")
      cases definition.binding "__getattribute__" with
      | method method => exact .unhandled _
      | blocked | inherited => exact inductionHypothesis

end Invocation

/-! ### Getters and hooks of a type -/

namespace Registry

variable {registry : Registry} {id : TypeId} {definition : TypeDefinition}

/-- A class that binds a special method to a callable value has its own override. -/
theorem ResolvesAlong.override_of_own (wellFormed : registry.WellFormed) {kind : SlotKind}
    {dunder : String} (found : registry.definition? id = some definition)
    (isMember : dunder ∈ kind.dunders) {method : Value}
    (isBound : definition.attributes.get? dunder = some method) (isMethod : method.isNone = false)
    {target : SlotTarget} (resolves : registry.ResolvesAlong kind definition.linearization target) :
    ∃ inherited, registry.ResolvesAlong kind definition.linearization.tail inherited ∧
      target = .override ⟨id, kind, definition.generation, 0,
        registry.firstBindings kind definition.linearization⟩ inherited := by
  have binds := binds_of_get? isMember isBound
  have isFirst := wellFormed.firstBinding?_of_own found isBound
  rcases resolves.cases_definer (wellFormed.definer?_of_defines found (defines_of_binds binds)) found
    with ⟨bindsNothing, _⟩ | ⟨_, inherited, behind, ⟨hides, _⟩ | ⟨_, isOverride⟩⟩
  · rw [binds] at bindsNothing
    cases bindsNothing
  · have isNone : method = .none := by
      rcases hides with allBlocked | ⟨noneUsable, _⟩
      · exact Option.some.inj (isFirst.symm.trans (allBlocked dunder isMember))
      · exact noneUsable dunder isMember method isFirst
    subst isNone
    cases isMethod
  · exact ⟨inherited, behind, isOverride⟩

/-- The first binding of a special method is the binding of one of the types. -/
theorem exists_of_firstBinding? {dunder : String} {ids : List TypeId} {value : Value}
    (isFirst : registry.firstBinding? dunder ids = some value) :
    ∃ ancestor ∈ ids, ∃ ancestorDefinition, registry.definition? ancestor = some ancestorDefinition ∧
      ancestorDefinition.attributes.get? dunder = some value := by
  obtain ⟨ancestor, isAncestor, isBound⟩ := List.exists_of_findSome?_eq_some isFirst
  obtain ⟨ancestorDefinition, found, isBound⟩ := Option.bind_eq_some_iff.1 isBound
  exact ⟨ancestor, isAncestor, ancestorDefinition, found, isBound⟩

/-- A method of an override is the first binding along the linearization. -/
theorem firstBinding?_of_binding {owner : TypeId} {kind : SlotKind} {generation : Nat}
    {ids : List TypeId} {dunder : String} (isMember : dunder ∈ kind.dunders) {method : Value}
    (isMethod : (Override.mk owner kind generation turn (registry.firstBindings kind ids)).binding dunder =
      .method method) :
    registry.firstBinding? dunder ids = some method ∧ method.isNone = false := by
  rw [binding_firstBindings owner generation turn isMember] at isMethod
  cases isFirst : registry.firstBinding? dunder ids with
  | none =>
      rw [isFirst] at isMethod
      cases isMethod
  | some value =>
      rw [isFirst, Option.elim_some] at isMethod
      split at isMethod
      · cases isMethod
      · rename_i isValue
        obtain rfl := Binding.method.inj isMethod
        exact ⟨rfl, Bool.eq_false_iff.2 isValue⟩

/-- A type offers a hook when its namespace binds the hook to a callable value. -/
def OffersHook (registry : Registry) (id : TypeId) (hook : Value) : Prop :=
  ∃ definition, registry.definition? id = some definition ∧
    definition.attributes.get? "__getattr__" = some hook ∧ hook.isNone = false

/-- A slot asks only hooks that types offer from which it inherits. -/
theorem ResolvesAlong.offers_of_mem_hooks {ids ancestors : List TypeId} {target : SlotTarget}
    (resolves : registry.ResolvesAlong .getAttr ids target) (inside : ids ⊆ ancestors)
    (isClosed : ∀ ancestor ∈ ancestors, ∀ ancestorDefinition,
      registry.definition? ancestor = some ancestorDefinition →
        ancestorDefinition.linearization ⊆ ancestors) :
    ∀ hook ∈ target.hooks, ∃ ancestor ∈ ancestors, registry.OffersHook ancestor hook := by
  induction resolves with
  | undefined | builtin | hidden => simp [SlotTarget.hooks]
  | @override _ definer definerDefinition inherited isDefiner found binds _ _ inductionHypothesis =>
      have closed := isClosed definer (inside (definer?_eq_some isDefiner).1) definerDefinition found
      intro hook isHook
      rcases SlotTarget.mem_hooks_override isHook with isInherited | isOwn
      · exact inductionHypothesis (fun _ isBehind => closed (List.mem_of_mem_tail isBehind)) hook
          isInherited
      · obtain ⟨isFirst, isMethod⟩ := firstBinding?_of_binding (by decide) isOwn
        obtain ⟨ancestor, isAncestor, ancestorDefinition, ancestorFound, isBound⟩ :=
          exists_of_firstBinding? isFirst
        exact ⟨ancestor, closed isAncestor, ancestorDefinition, ancestorFound, isBound, isMethod⟩

/-- Among the types that may be inherited from, only `object` has an operation for attributes. -/
theorem KeepsBuiltins.eq_objectGetAttr (keepsBuiltins : registry.KeepsBuiltins)
    (found : registry.definition? id = some definition) (isBase : definition.isBase = true)
    {operation : Builtin} (hasOperation : definition.builtin? .getAttr = some operation) :
    operation = .objectGetAttr := by
  have checked : ∀ builtinType ∈ builtinTypes, builtinType.isBase = true →
      (builtinType.operations.find? fun operation => operation.kind = .getAttr).all
        (· = .objectGetAttr) = true := by
    decide +kernel
  cases isListed : builtinTypes[id]? with
  | none =>
      rw [TypeDefinition.builtin?, (keepsBuiltins.created found isListed).operations] at hasOperation
      cases hasOperation
  | some builtinType =>
      have describes := keepsBuiltins.builtin found isListed
      have isOnly := checked builtinType (List.mem_of_getElem? isListed) (describes.isBase ▸ isBase)
      rw [TypeDefinition.builtin?, describes.operations] at hasOperation
      rw [hasOperation] at isOnly
      simpa using isOnly

/-- A class finds attributes by a getter, and it asks some other hooks before its own one. The getter is
the first method along the linearization, and then there are no other hooks, or it is the operation of
`object` when nothing is bound. Ancestors behind the class offer the other hooks. -/
structure FindsAttributes (registry : Registry) (definition : TypeDefinition) (getter : Reached)
    (others : List Value) : Prop where
  byMethod : ∀ method, registry.firstBinding? "__getattribute__" definition.linearization = some method →
    method.isNone = false → getter = .method method ∧ others = []
  byOperation : registry.firstBinding? "__getattribute__" definition.linearization = none →
    getter = .builtin .objectGetAttr
  offered : ∀ other ∈ others, ∃ ancestor ∈ definition.linearization.tail,
    registry.OffersHook ancestor other

/-- The slot of a class with a hook finds attributes as the class does, and asks its hook last. -/
theorem ResolvesAlong.findsAttributes (wellFormed : registry.WellFormed)
    (keepsBuiltins : registry.KeepsBuiltins) (arranged : registry.Arranged)
    (found : registry.definition? id = some definition) {hook : Value}
    (isBound : definition.attributes.get? "__getattr__" = some hook) (isMethod : hook.isNone = false)
    {target : SlotTarget} (resolves : registry.ResolvesAlong .getAttr definition.linearization target) :
    ∃ others, registry.FindsAttributes definition target.getter others ∧
      target.hooks = others ++ [hook] := by
  have isHookMember : "__getattr__" ∈ SlotKind.dunders .getAttr := by decide
  have isGetterMember : "__getattribute__" ∈ SlotKind.dunders .getAttr := by decide
  obtain ⟨inherited, behind, rfl⟩ :=
    resolves.override_of_own wellFormed found isHookMember isBound isMethod
  generalize isOwn : Override.mk id .getAttr definition.generation 0
    (registry.firstBindings .getAttr definition.linearization) = own at resolves ⊢
  have isHook : own.binding "__getattr__" = .method hook := by
    rw [← isOwn, binding_firstBindings _ _ _ isHookMember, wellFormed.firstBinding?_of_own found isBound,
      Option.elim_some, isMethod]
    rfl
  have isGetter : own.binding "__getattribute__" =
      (registry.firstBinding? "__getattribute__" definition.linearization).elim .inherited
        fun value => if value.isNone then .blocked else .method value := by
    rw [← isOwn, binding_firstBindings _ _ _ isGetterMember]
  refine ⟨match own.binding "__getattribute__" with
    | .method _ => []
    | .blocked | .inherited => inherited.hooks, ⟨?_, ?_, ?_⟩, by rw [SlotTarget.hooks, isHook]⟩
  · intro method isFirst isCallable
    rw [isFirst, Option.elim_some, isCallable] at isGetter
    rw [SlotTarget.getter, isGetter]
    exact ⟨rfl, rfl⟩
  · intro unbound
    have isLast := arranged.getLast?_linearization wellFormed found
    have hasRoot : registry.HasRoot .getAttr .objectGetAttr := keepsBuiltins.hasRoot (by decide)
    obtain ⟨operation, reaches, ancestor, isAncestor, ancestorDefinition, ancestorFound, hasOperation⟩ :=
      resolves.reach_of_unbound wellFormed keepsBuiltins arranged hasRoot isGetterMember found unbound
        (List.Subset.refl _) (List.mem_of_getLast? isLast)
    have isOther : ancestor ≠ id := by
      rintro rfl
      obtain rfl := Option.some.inj (found.symm.trans ancestorFound)
      rw [keepsBuiltins.attributes_of_builtin? found hasOperation] at isBound
      cases isBound
    have isBase := wellFormed.ancestor_isBase found ancestorFound isAncestor isOther
    obtain rfl := keepsBuiltins.eq_objectGetAttr ancestorFound isBase hasOperation
    exact SlotTarget.getter_of_reach reaches
  · intro other isOther
    have isInherited : other ∈ inherited.hooks := by
      split at isOther
      · cases isOther
      · exact isOther
      · exact isOther
    exact behind.offers_of_mem_hooks (List.Subset.refl _)
      (fun _ isBehind _ ancestorFound =>
        wellFormed.linearization_subset_tail found ancestorFound isBehind)
      other isInherited

end Registry

/-! ### Reachable worlds -/

/-- In a reachable world, an attribute of an instance of a class with its own hook is looked up by one
getter. When that misses the attribute, the other hooks are asked in turn, and the hook of the class is
asked last. When there are no other hooks, the hook of the class alone handles the miss, and it is not
asked after any other outcome. -/
theorem World.getAttribute_handles {world : World Host} (reachable : World.Reachable forged world)
    (program : Program Host) (depth : Nat) {value : Value} {definition : TypeDefinition}
    (found : world.registry.definition? value.typeId = some definition) {hook : Value}
    (isBound : definition.attributes.get? "__getattr__" = some hook) (isMethod : hook.isNone = false)
    (name : String) :
    ∃ start getter others, World.Alike forged 0 world start ∧
      world.registry.FindsAttributes definition getter others ∧
      let lookup := Invocation.lookUp (perform program depth) value name getter start
      let outcome := perform program (depth + 1) (.getAttribute value name) world
      Invocation.Handles (perform program depth) value name (others ++ [hook]) lookup outcome ∧
      (others = [] →
        (∀ error next, lookup = some (.error error, next) → error.kind.isAttributeMissing = true →
          outcome = Invocation.askHook (perform program depth) value name hook next) ∧
        (¬ Invocation.Misses lookup → outcome = lookup)) := by
  have inShape := reachable.sound.inShape
  obtain ⟨entry, start, isRead, isEntry, alike⟩ := entryOf_succeeds reachable.alike found
  obtain ⟨others, finds, isHooks⟩ := (isEntry.resolves .getAttr).findsAttributes inShape.wellFormed
    inShape.keepsBuiltins inShape.arranged found isBound isMethod
  have isOutcome : perform program (depth + 1) (.getAttribute value name) world =
      Invocation.getAttribute (perform program depth) value name (entry.target .getAttr) start := by
    show (do
      let target ← targetOf value .getAttr
      Invocation.getAttribute (perform program depth) value name target) world = _
    rw [bind_apply, targetOf, bind_apply, isRead]
    rfl
  have handles := Invocation.handles_getAttribute (perform program depth) value name
    (entry.target .getAttr) start
  rw [isHooks, ← isOutcome] at handles
  refine ⟨start, _, others, alike, finds, handles, fun isAlone => ?_⟩
  rw [isAlone, List.nil_append] at handles
  exact handles.of_single

/-- A class has a hook that gives 8, and its instances have no attributes. -/
theorem World.getAttribute_handles_single :
    ∃ (program : Program Unit) (world : World Unit) (value : Value) (definition : TypeDefinition)
      (hook : Value), World.Reachable (fun _ => True) world ∧
      world.registry.definition? value.typeId = some definition ∧
      definition.attributes.get? "__getattr__" = some hook ∧ hook.isNone = false ∧
      ((perform program 4 (.getAttribute value "x") world).bind fun answer =>
        answer.1.toOption.bind Value.integer?) = some 8 ∧
      ∃ start getter others, World.Alike (fun _ => True) 0 world start ∧
        world.registry.FindsAttributes definition getter others ∧
        Invocation.Handles (perform program 3) value "x" (others ++ [hook])
          (Invocation.lookUp (perform program 3) value "x" getter start)
          (perform program 4 (.getAttribute value "x") world) := by
  let program : Program Unit := fun code _ =>
    match code with
    | 0 => do
        let hook ← Body.request (.allocate .function (.function "hook" 1) false)
        let meter ← Body.request (.createType "Meter" [] ⟨[("__getattr__", hook)]⟩)
        let _ ← Body.request (.allocate meter .plain true)
        return .none
    | _ => return .int 8
  let value : Value := .object ⟨.allocated 1, 13⟩ .plain
  have isMade :
      ((perform program 2 (.apply "make" 0 []) (.initial .default ())).any fun made =>
        ((made.2.registry.definition? value.typeId).any fun definition =>
          (definition.attributes.get? "__getattr__").any fun hook => !hook.isNone) &&
        ((perform program 4 (.getAttribute value "x") made.2).bind fun answer =>
          answer.1.toOption.bind Value.integer?) = some 8) = true := by
    decide +kernel
  obtain ⟨⟨made, world⟩, isOutcome, isTrue⟩ := (Option.any_eq_true _ _).1 isMade
  obtain ⟨hasHook, gives⟩ := Bool.and_eq_true_iff.1 isTrue
  obtain ⟨definition, found, hasHook⟩ := (Option.any_eq_true _ _).1 hasHook
  obtain ⟨hook, isBound, isMethod⟩ := (Option.any_eq_true _ _).1 hasHook
  have isMethod : hook.isNone = false := by simpa using isMethod
  have reachable := World.Reachable.of_outcome isOutcome
  obtain ⟨start, getter, others, alike, finds, handles, _⟩ :=
    World.getAttribute_handles reachable program 3 found isBound isMethod "x"
  exact ⟨program, world, value, definition, hook, reachable, found, isBound, isMethod,
    of_decide_eq_true gives, start, getter, others, alike, finds, handles⟩

/-- A class and its heir have a hook each. An attribute that an instance of the heir misses is given by
the hook of the class, and the hook of the heir, which gives 8, is not called. -/
theorem World.nearer_hook_passed_by :
    ∃ (program : Program Unit) (world : World Unit), World.Reachable (fun _ => True) world ∧
      ∃ (value : Value) (definition : TypeDefinition) (hook : Value),
        world.registry.definition? value.typeId = some definition ∧
        definition.attributes.get? "__getattr__" = some hook ∧ hook.isNone = false ∧
        world.registry.firstBinding? "__getattribute__" definition.linearization = none ∧
        (∃ next, Invocation.lookUp (perform program 3) value "x" (.builtin .objectGetAttr) world =
          some (.error (.attributeMissing "Heir" "x"), next) ∧
          ((Invocation.askHook (perform program 3) value "x" hook next).bind fun answer =>
            answer.1.toOption.bind Value.integer?) = some 8) ∧
        ∃ result next, perform program 4 (.getAttribute value "x") world = some (.ok result, next) ∧
          result.integer? = some 7 ∧ next.journal.notes (.function "base" 1) = true ∧
          next.journal.notes (.function "heir" 2) = false := by
  let program : Program Unit := fun code _ =>
    match code with
    | 0 => do
        let far ← Body.request (.allocate .function (.function "base" 1) false)
        let near ← Body.request (.allocate .function (.function "heir" 2) false)
        let base ← Body.request (.createType "Base" [] ⟨[("__getattr__", far)]⟩)
        let heir ← Body.request (.createType "Heir" [base] ⟨[("__getattr__", near)]⟩)
        let _ ← Body.request (.allocate heir .plain true)
        return .none
    | 1 => return .int 7
    | _ => return .int 8
  let value : Value := .object ⟨.allocated 2, 14⟩ .plain
  have isMade :
      ((perform program 2 (.apply "make" 0 []) (.initial .default ())).any fun made =>
        let world : World Unit := { made.2 with journal := [], host := () }
        ((world.registry.definition? value.typeId).any fun definition =>
          (world.registry.firstBinding? "__getattribute__" definition.linearization).isNone &&
          ((definition.attributes.get? "__getattr__").any fun hook => !hook.isNone &&
            ((Invocation.lookUp (perform program 3) value "x" (.builtin .objectGetAttr) world).any
              fun missed => failsWith (.attributeMissing "Heir" "x") missed.1 &&
              ((Invocation.askHook (perform program 3) value "x" hook missed.2).bind fun answer =>
                answer.1.toOption.bind Value.integer?) = some 8))) &&
        (perform program 4 (.getAttribute value "x") world).any fun answer =>
          (answer.1.toOption.any fun result => result.integer? = some 7) &&
            (answer.2.journal.notes (.function "base" 1) &&
              !answer.2.journal.notes (.function "heir" 2))) = true := by
    decide +kernel
  obtain ⟨⟨made, world⟩, isOutcome, isTrue⟩ := (Option.any_eq_true _ _).1 isMade
  have reachable := (World.Reachable.of_outcome isOutcome).resumed [] ()
  obtain ⟨hasHook, gives⟩ := Bool.and_eq_true_iff.1 isTrue
  obtain ⟨definition, found, hasHook⟩ := (Option.any_eq_true _ _).1 hasHook
  obtain ⟨noGetter, hasHook⟩ := Bool.and_eq_true_iff.1 hasHook
  obtain ⟨hook, isBound, hasHook⟩ := (Option.any_eq_true _ _).1 hasHook
  obtain ⟨isMethod, misses⟩ := Bool.and_eq_true_iff.1 hasHook
  obtain ⟨⟨missed, next⟩, isLookup, misses⟩ := (Option.any_eq_true _ _).1 misses
  obtain ⟨isMissing, givesEight⟩ := Bool.and_eq_true_iff.1 misses
  obtain ⟨⟨answer, last⟩, isAnswer, isTrue⟩ := (Option.any_eq_true _ _).1 gives
  obtain ⟨isSeven, notes⟩ := Bool.and_eq_true_iff.1 isTrue
  obtain ⟨isFar, notNear⟩ := Bool.and_eq_true_iff.1 notes
  have noGetter := Option.isNone_iff_eq_none.1 noGetter
  have isMethod : hook.isNone = false := by simpa using isMethod
  have isSilent : last.journal.notes (.function "heir" 2) = false := by simpa using notNear
  obtain rfl := eq_of_failsWith isMissing
  cases answer with
  | error error => cases isSeven
  | ok result =>
      exact ⟨program, _, reachable, value, definition, hook, found, isBound, isMethod, noGetter,
        ⟨next, isLookup, of_decide_eq_true givesEight⟩, result, last, isAnswer,
        of_decide_eq_true isSeven, isFar, isSilent⟩

end SlotDispatch
