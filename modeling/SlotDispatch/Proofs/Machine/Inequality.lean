import SlotDispatch.Proofs.Machine.Comparison
import SlotDispatch.Proofs.Machine.Depth
import SlotDispatch.Proofs.Machine.Journal
import SlotDispatch.Proofs.Machine.Reflected
import SlotDispatch.Proofs.Machine.Shape
import SlotDispatch.Proofs.Type.Inherited
/-!
Inequality of values that customise equality only. The main statement says that the test for inequality
of two such values has the opposite result of the test for equality, and the same error.
-/

namespace SlotDispatch

open SlotDispatch.Action SlotDispatch.Machine

variable {Host : Type} {forged : Nat → Prop}

/-! ### Types that inherit inequality -/

/-- A type inherits inequality from `object` when no other ancestor has a comparison operation, and no
ancestor binds `__ne__`. -/
structure Registry.InheritsInequality (registry : Registry) (id : TypeId) : Prop where
  onlyObject : ∀ ancestor ∈ registry.linearizationOf id, ∀ definition,
    registry.definition? ancestor = some definition →
      (definition.builtin? .richCompare).isSome = true → ancestor = .object
  unbound : ∀ ancestor ∈ registry.linearizationOf id, ∀ definition,
    registry.definition? ancestor = some definition → definition.attributes.get? "__ne__" = none

instance (registry : Registry) (id : TypeId) : Decidable (registry.InheritsInequality id) :=
  decidable_of_iff
    ((registry.linearizationOf id).all fun ancestor =>
      (registry.definition? ancestor).all fun definition =>
        (!(definition.builtin? .richCompare).isSome || ancestor = .object) &&
          (definition.attributes.get? "__ne__").isNone)
    (by
      constructor
      · intro isTrue
        have eachHolds : ∀ ancestor ∈ registry.linearizationOf id, ∀ definition,
            registry.definition? ancestor = some definition →
              ((definition.builtin? .richCompare).isSome = true → ancestor = .object) ∧
                definition.attributes.get? "__ne__" = none := by
          intro ancestor isAncestor definition found
          have holds := List.all_eq_true.1 isTrue ancestor isAncestor
          simpa [found, imp_iff_not_or] using holds
        exact ⟨fun ancestor isAncestor definition found =>
            (eachHolds ancestor isAncestor definition found).1,
          fun ancestor isAncestor definition found =>
            (eachHolds ancestor isAncestor definition found).2⟩
      · intro inherits
        refine List.all_eq_true.2 fun ancestor isAncestor => ?_
        cases found : registry.definition? ancestor with
        | none => rfl
        | some definition =>
            have isRoot := inherits.onlyObject ancestor isAncestor definition found
            simpa [inherits.unbound ancestor isAncestor definition found, imp_iff_not_or] using isRoot)

/-- All operations that a target reaches are one. -/
theorem SlotTarget.reach_builtin_unique {target : SlotTarget} {first second : String}
    {operation other : Builtin} (isFirst : target.reach first = .builtin operation)
    (isSecond : target.reach second = .builtin other) : operation = other := by
  induction target with
  | absent => cases isFirst
  | builtin found => exact Reached.builtin.inj (isFirst.symm.trans isSecond)
  | override definition inherited inductionHypothesis =>
      rw [reach] at isFirst isSecond
      cases isBinding : definition.binding first <;> rw [isBinding] at isFirst
      · cases isFirst
      · cases isFirst
      cases isOther : definition.binding second <;> rw [isOther] at isSecond
      · cases isSecond
      · cases isSecond
      exact inductionHypothesis isFirst isSecond

/-- A target that reaches an operation is not empty. -/
theorem SlotTarget.isAbsent_of_reach_builtin {target : SlotTarget} {dunder : String}
    {operation : Builtin} (reaches : target.reach dunder = .builtin operation) :
    target.isAbsent = false := by
  cases target with
  | absent => cases reaches
  | builtin | override => rfl

/-- The comparison slot of a type that inherits inequality reaches the operation of `object` for it. -/
theorem Registry.InheritsInequality.reach {registry : Registry} (wellFormed : registry.WellFormed)
    (keepsBuiltins : registry.KeepsBuiltins) (arranged : registry.Arranged) {id : TypeId}
    (inherits : registry.InheritsInequality id) {entry : SlotEntry}
    (hasEntry : registry.HasEntry id entry) :
    (entry.target .richCompare).reach "__ne__" = .builtin .objectRichCompare := by
  obtain ⟨definition, found, isEntry⟩ := hasEntry
  have isAncestry := Registry.linearizationOf_of_definition? found
  have isLast := arranged.getLast?_linearization wellFormed found
  have unbound : registry.firstBinding? "__ne__" definition.linearization = none := by
    rw [firstBinding?, List.findSome?_eq_none_iff]
    intro ancestor isAncestor
    cases ancestorFound : registry.definition? ancestor with
    | none => rfl
    | some ancestorDefinition =>
        exact inherits.unbound ancestor (isAncestry ▸ isAncestor) ancestorDefinition ancestorFound
  have isMember : "__ne__" ∈ SlotKind.dunders .richCompare := by decide
  have hasRoot : registry.HasRoot .richCompare .objectRichCompare := keepsBuiltins.hasRoot (by decide)
  obtain ⟨operation, reaches, ancestor, isAncestor, ancestorDefinition, ancestorFound, hasOperation⟩ :=
    (isEntry.resolves .richCompare).reach_of_unbound wellFormed keepsBuiltins arranged hasRoot isMember
      found unbound (List.Subset.refl _) (List.mem_of_getLast? isLast)
  obtain rfl := inherits.onlyObject ancestor (isAncestry ▸ isAncestor) ancestorDefinition ancestorFound
    (Option.isSome_iff_exists.2 ⟨operation, hasOperation⟩)
  obtain ⟨root, rootFound, isRoot⟩ := hasRoot
  obtain rfl := Option.some.inj (rootFound.symm.trans ancestorFound)
  rw [reaches, Option.some.inj (hasOperation.symm.trans isRoot)]

/-! ### One attempt -/

/-- An attempt at equality gives no verdict when it declines, and otherwise the truth of its result. -/
def Invocation.equality (perform : Perform Host) (target : SlotTarget) (left right : Value) :
    Action (World Host) (Option Bool) := do
  let equal ← compare perform target .eq left right
  if equal.isNotImplemented then return none else return some (← Protocol.truth perform equal)

/-- Inequality declines without a verdict, and otherwise it has the opposite one. -/
def negated : Option Bool → Value
  | none => .notImplemented
  | some flag => .bool (!flag)

/-- A comparison for inequality that reaches `object` negates an attempt at equality by the current slot
of the left operand. -/
theorem Invocation.inequality_eq (program : Program Host) (depth : Nat) {target : SlotTarget}
    (reaches : target.reach "__ne__" = .builtin .objectRichCompare) (left right : Value) :
    compare (perform program (depth + 1)) target .ne left right =
      noted (.builtin .objectRichCompare) [left, right] id (do
        let current ← targetOf left .richCompare
        negated <$> equality (perform program depth) current left right) := by
  have isCompare : compare (perform program (depth + 1)) target .ne left right =
      noted (.builtin .objectRichCompare) [left, right] id
        (Builtin.Object.compare (perform program (depth + 1)) .ne left right) := by
    simp only [compare, Comparison.dunder, reaches]
    rfl
  rw [isCompare]
  congr 1
  show (do
    let current ← targetOf left .richCompare
    let equal ← compare (perform program depth) current .eq left right
    if equal.isNotImplemented then return equal
    else return .bool (!(← Protocol.truth (perform program depth) equal))) = _
  congr 1
  funext current
  rw [equality, map_bind]
  congr 1
  funext equal
  cases equal <;> simp [Value.isNotImplemented, negated]

theorem Invocation.respects_equality (program : Program Host) (depth : Nat) (target : SlotTarget)
    (left right : Value) :
    Respects World.Parallel (equality (perform program depth) target left right) := by
  have compares := World.Parallel.respects_perform program (depth + 1)
    (.invokeCompare target .eq left right)
  refine Respects.bind compares fun equal => ?_
  split
  · exact .pure none
  · exact Respects.bind (World.Parallel.respects_perform program (depth + 1) (.truth equal))
      fun flag => .pure (some flag)

/-! ### Corresponding outcomes -/

/-- Two outcomes correspond when both are missing, or when they have the same error or results of which
one is the translation of the other, in parallel worlds. -/
def World.Corresponds {First Second : Type} (translate : Second → First) :
    Option (Except Error First × World Host) → Option (Except Error Second × World Host) → Prop :=
  Option.Rel fun left right => left.1 = right.1.map translate ∧ World.Parallel left.2 right.2

theorem World.Corresponds.cases {First Second : Type} {translate : Second → First}
    {left : Option (Except Error First × World Host)}
    {right : Option (Except Error Second × World Host)} (corresponds : Corresponds translate left right) :
    (left = none ∧ right = none) ∨ ∃ outcome before after,
      left = some (outcome.map translate, before) ∧ right = some (outcome, after) ∧
        World.Parallel before after := by
  cases corresponds with
  | none => exact .inl ⟨rfl, rfl⟩
  | @some first second both =>
      obtain ⟨_, before⟩ := first
      obtain ⟨outcome, after⟩ := second
      obtain ⟨rfl, isParallel⟩ := both
      exact .inr ⟨outcome, before, after, rfl, rfl, isParallel⟩

theorem World.Corresponds.bind {First Second Next Last : Type} {translate : Second → First}
    {translateNext : Last → Next} {first : Action (World Host) First}
    {other : Action (World Host) Second} {second : First → Action (World Host) Next}
    {continued : Second → Action (World Host) Last} {before after : World Host}
    (corresponds : Corresponds translate (first before) (other after))
    (later : ∀ result left right, World.Parallel left right →
      Corresponds translateNext (second (translate result) left) (continued result right)) :
    Corresponds translateNext ((first >>= second) before) ((other >>= continued) after) := by
  rw [bind_apply, bind_apply]
  rcases corresponds.cases with ⟨isLeft, isRight⟩ | ⟨outcome, left, right, isLeft, isRight, parallel⟩ <;>
    rw [isLeft, isRight]
  · exact .none
  cases outcome with
  | error error => exact .some ⟨rfl, parallel⟩
  | ok result => exact later result left right parallel

/-- Two actions that first read the same entry correspond when they do after it. -/
theorem World.Corresponds.read {First Second : Type} {translate : Second → First}
    {world start : World Host} (alike : World.Alike (fun _ => True) 0 world start) {id : TypeId}
    {goesOn : SlotEntry → Action (World Host) First} {other : SlotEntry → Action (World Host) Second}
    (later : ∀ entry next, world.registry.HasEntry id entry →
      World.Alike (fun _ => True) 0 world next →
      Corresponds translate (goesOn entry next) (other entry next)) :
    Corresponds translate ((do goesOn (← entryOf id)) start) ((do other (← entryOf id)) start) := by
  rw [bind_apply, bind_apply]
  rcases entryOf_cases alike id with ⟨_, isOutcome⟩ | ⟨entry, next, isOutcome, hasEntry, isAlike⟩ <;>
    rw [isOutcome]
  · exact .some ⟨rfl, .of_alike (alike.symm.trans alike)⟩
  · exact later entry next hasEntry isAlike

theorem Action.map_apply {State First Second : Type} (translate : Second → First)
    (action : Action State Second) (state : State) :
    (translate <$> action) state =
      (action state).map fun answer => (answer.1.map translate, answer.2) := by
  rw [map_eq_pure_bind, bind_apply]
  rcases action state with _ | ⟨_ | _, _⟩ <;> rfl

/-- An attempt at inequality corresponds to the attempt at equality by the same current slot. -/
theorem Invocation.corresponds_inequality (program : Program Host) (depth : Nat)
    {before other : World Host} (parallel : before.Parallel other) {left : Value} (right : Value)
    {entry : SlotEntry} (hasEntry : before.registry.HasEntry left.typeId entry)
    (reaches : (entry.target .richCompare).reach "__ne__" = .builtin .objectRichCompare) :
    World.Corresponds negated
      (compare (perform program (depth + 1)) (entry.target .richCompare) .ne left right before)
      (equality (perform program depth) (entry.target .richCompare) left right other) := by
  have alike : World.Alike (fun _ => True) 0 { before with journal := [] }
      { before with journal := [] } :=
    parallel.alike.withJournal []
  obtain ⟨read, isRead, readAlike⟩ := targetOf_of_hasEntry alike hasEntry .richCompare
  have readParallel : World.Parallel read other :=
    (World.Parallel.of_alike readAlike).symm.trans (parallel.withJournals [] other.journal)
  rw [inequality_eq program depth reaches, noted, bind_apply, isRead]
  dsimp only
  rw [map_apply]
  rcases (respects_equality program depth (entry.target .richCompare) left right read other
    readParallel).cases with ⟨isNone, isOther⟩ | ⟨outcome, after, otherAfter, isSome, isOther, stays⟩
  · rw [isNone, isOther]
    exact .none
  · rw [isSome, isOther]
    refine .some ⟨?_, stays.withJournals _ _⟩
    cases outcome <;> rfl

/-- An attempt at equality that gives no verdict has declined. -/
theorem Invocation.declines_of_equality {perform : Perform Host} {target : SlotTarget}
    {left right : Value} {start next : World Host}
    (isNone : equality perform target left right start = some (.ok none, next)) :
    compare perform target .eq left right start = some (.ok .notImplemented, next) := by
  rw [equality, bind_apply] at isNone
  rcases isEqual : compare perform target .eq left right start with _ | ⟨error | equal, middle⟩ <;>
    rw [isEqual] at isNone
  · cases isNone
  · cases isNone
  by_cases declines : equal = .notImplemented
  · subst declines
    obtain ⟨_, rfl⟩ := Prod.mk.inj (Option.some.inj isNone)
    rfl
  · simp only [(Operator.isNotImplemented_iff equal).not.2 declines, Bool.false_eq_true, if_false,
      bind_apply] at isNone
    split at isNone <;> cases isNone

/-! ### Runs of attempts -/

namespace Operator

/-- An attempt inherits inequality when it asks the current slot of its left operand, and that slot
reaches the operation of `object`. -/
structure Attempt.Inherits (registry : Registry) (attempt : Attempt) : Prop where
  isCurrent : ∃ entry : SlotEntry, registry.HasEntry attempt.left.typeId entry ∧
    attempt.target = entry.target .richCompare
  reaches : attempt.target.reach "__ne__" = .builtin .objectRichCompare

/-- Attempts are ready when the first one inherits inequality, and the later ones are ready in the world
that the first one leaves when it gives no verdict. -/
inductive Ready (perform : Perform Host) : List Attempt → World Host → Prop
  | nil (world : World Host) : Ready perform [] world
  | cons {attempt : Attempt} {rest : List Attempt} {world : World Host}
      (inherits : attempt.Inherits world.registry)
      (later : ∀ next, Invocation.equality perform attempt.target attempt.left attempt.right world =
        some (.ok none, next) → Ready perform rest next) : Ready perform (attempt :: rest) world

/-- The verdict of attempts is the first one that any of them gives. -/
def verdict (perform : Perform Host) : List Attempt → Action (World Host) (Option Bool)
  | [] => return none
  | attempt :: rest => do
      match ← Invocation.equality perform attempt.target attempt.left attempt.right with
      | some flag => return some flag
      | none => verdict perform rest

/-- The attempt at inequality with the same target and the same operands. -/
def Attempt.unequal (attempt : Attempt) : Attempt :=
  { attempt with operator := .ne }

/-- The attempts at inequality give the opposite of the verdict on equality. -/
theorem corresponds_runAttempts (program : Program Host) (depth : Nat) {attempts : List Attempt}
    {before other : World Host} (parallel : before.Parallel other)
    (ready : Ready (perform program depth) attempts other) :
    World.Corresponds (Option.map fun flag => .bool (!flag))
      (runAttempts (perform program (depth + 1)) (attempts.map Attempt.unequal) before)
      (verdict (perform program depth) attempts other) := by
  induction ready generalizing before with
  | nil world => exact .some ⟨rfl, parallel⟩
  | @cons attempt rest world inherits later inductionHypothesis =>
      obtain ⟨⟨entry, hasEntry, isTarget⟩, reaches⟩ := inherits
      have isThere : before.registry.HasEntry attempt.left.typeId entry :=
        hasEntry.of_agreeOn parallel.symm.alike.coherent.wellFormed
          (.of_definitions parallel.symm.refreshes.definitions _)
      have corresponds := Invocation.corresponds_inequality program depth parallel attempt.right isThere
        (isTarget ▸ reaches)
      rw [← isTarget] at corresponds
      rw [List.map_cons, runAttempts, verdict, bind_apply, bind_apply, Attempt.unequal]
      dsimp only
      rcases corresponds.cases with
        ⟨isLeft, isRight⟩ | ⟨outcome, next, otherNext, isLeft, isRight, stillParallel⟩ <;>
        rw [isLeft, isRight]
      · exact .none
      cases outcome with
      | error error => exact .some ⟨rfl, stillParallel⟩
      | ok found =>
          cases found with
          | none => exact inductionHypothesis otherNext isRight stillParallel
          | some flag => exact .some ⟨rfl, stillParallel⟩

/-! ### Comparisons -/

/-- A comparison makes the same attempts at inequality as at equality. -/
theorem attempts_unequal (left right : Value) (leftEntry rightEntry : SlotEntry) :
    attempts .ne left right leftEntry rightEntry =
      (attempts .eq left right leftEntry rightEntry).map Attempt.unequal := by
  have sameTest : (fun attempt : Attempt => !attempt.target.isAbsent) =
      (fun attempt : Attempt => !attempt.target.isAbsent) ∘ Attempt.unequal := rfl
  rw [attempts, attempts]
  conv => rhs; rw [sameTest, ← List.filter_map, apply_ite (List.map Attempt.unequal)]
  rfl

/-- The truth of the first result of attempts at equality is their verdict. -/
theorem verdict_eq (perform : Perform Host) (flag : Bool) {attempts : List Attempt}
    (areEqualities : ∀ attempt ∈ attempts, attempt.operator = .eq) :
    (do Protocol.truth perform ((← runAttempts perform attempts).getD (.bool flag))) = (do
      return (← verdict perform attempts).getD flag) := by
  induction attempts with
  | nil => rfl
  | cons attempt rest inductionHypothesis =>
      obtain ⟨isEquality, areLater⟩ := List.forall_mem_cons.1 areEqualities
      rw [runAttempts, verdict, Invocation.equality, isEquality]
      simp only [bind_assoc]
      congr 1
      funext equal
      cases equal.isNotImplemented with
      | true => exact inductionHypothesis areLater
      | false => simp

/-- A comparison that no attempt decides has a result of its own operator. -/
theorem compare_eq (perform : Perform Host) (operator : Comparison) (flag : Bool) (left right : Value)
    (isSettled : operator = .eq ∧ flag = left.isSame right ∨
      operator = .ne ∧ flag = !left.isSame right) :
    compare perform operator left right = (do
      let leftEntry ← entryOf left.typeId
      let rightEntry ← entryOf right.typeId
      let result? ← runAttempts perform (attempts operator left right leftEntry rightEntry)
      return result?.getD (.bool flag)) := by
  rcases isSettled with ⟨rfl, rfl⟩ | ⟨rfl, rfl⟩ <;>
  · rw [compare]
    congr 1; funext leftEntry
    congr 1; funext rightEntry
    congr 1; funext result?
    cases result? <;> rfl

end Operator

/-- The equality methods of a value spare the type of another one when no such method changes an ancestor
of that type and then declines. -/
def World.EqualitySpares (program : Program Host) (world : World Host) (left right : Value) : Prop :=
  ∀ (entry : SlotEntry) (method : Value), world.registry.HasEntry left.typeId entry →
    (entry.target .richCompare).reach "__eq__" = .method method →
    ∀ start next, World.Alike (fun _ => True) 0 world start →
      start.Answers program (.callSpecial method left [right]) (.ok .notImplemented) next →
      Registry.AgreeOn world.registry next.registry (world.registry.linearizationOf right.typeId)

namespace Operator

/-- An attempt at equality that gives no verdict keeps the entry of the other operand. -/
theorem hasEntry_of_declines {program : Program Host} {depth : Nat} {world start next : World Host}
    (alike : World.Alike (fun _ => True) 0 world start) {left right : Value}
    (spares : world.EqualitySpares program left right) {entry other : SlotEntry}
    (hasEntry : world.registry.HasEntry left.typeId entry)
    (reaches : (entry.target .richCompare).reach "__ne__" = .builtin .objectRichCompare)
    (declines : Invocation.compare (perform program depth) (entry.target .richCompare) .eq left right
      start = some (.ok .notImplemented, next))
    (forOther : world.registry.HasEntry right.typeId other) :
    next.registry.HasEntry right.typeId other := by
  refine forOther.of_agreeOn alike.coherent.wellFormed ?_
  rw [Invocation.compare, Comparison.dunder] at declines
  cases reached : (entry.target .richCompare).reach "__eq__" with
  | method method =>
      rw [reached] at declines
      exact spares entry method hasEntry reached start next alike ⟨depth + 1, declines⟩
  | builtin operation =>
      rw [reached] at declines
      obtain rfl := SlotTarget.reach_builtin_unique reached reaches
      obtain ⟨answer, isAnswer, isNext⟩ := Option.map_eq_some_iff.1 declines
      obtain rfl := Option.some.inj isAnswer
      obtain ⟨_, rfl⟩ := Prod.mk.inj isNext
      exact .of_definitions alike.refreshes.definitions _
  | blocked | absent =>
      rw [reached] at declines
      obtain ⟨_, rfl⟩ := Prod.mk.inj (Option.some.inj declines)
      exact .of_definitions alike.refreshes.definitions _

/-- Two attempts at equality are ready when both types inherit inequality, and the methods of the first
operand spare the second. -/
theorem ready_pair {program : Program Host} {depth : Nat} {world start : World Host}
    (alike : World.Alike (fun _ => True) 0 world start) {left right : Value}
    (spares : world.EqualitySpares program left right) {leftEntry rightEntry : SlotEntry}
    (forLeft : world.registry.HasEntry left.typeId leftEntry)
    (forRight : world.registry.HasEntry right.typeId rightEntry)
    (leftReaches : (leftEntry.target .richCompare).reach "__ne__" = .builtin .objectRichCompare)
    (rightReaches : (rightEntry.target .richCompare).reach "__ne__" = .builtin .objectRichCompare) :
    Ready (perform program depth) [⟨leftEntry.target .richCompare, .eq, left, right⟩,
      ⟨rightEntry.target .richCompare, .eq, right, left⟩] start := by
  have isThere := forLeft.of_agreeOn alike.coherent.wellFormed
    (.of_definitions alike.refreshes.definitions _)
  refine .cons ⟨⟨leftEntry, isThere, rfl⟩, leftReaches⟩ fun next declines => ?_
  have stays := hasEntry_of_declines alike spares forLeft leftReaches
    (Invocation.declines_of_equality declines) forRight
  exact .cons ⟨⟨rightEntry, stays, rfl⟩, rightReaches⟩ fun last _ => .nil last

/-- The attempts at equality are ready in either order. -/
theorem ready_attempts {program : Program Host} {depth : Nat} {world start : World Host}
    (alike : World.Alike (fun _ => True) 0 world start) {left right : Value}
    (leftSpares : world.EqualitySpares program left right)
    (rightSpares : world.EqualitySpares program right left) {leftEntry rightEntry : SlotEntry}
    (forLeft : world.registry.HasEntry left.typeId leftEntry)
    (forRight : world.registry.HasEntry right.typeId rightEntry)
    (leftReaches : (leftEntry.target .richCompare).reach "__ne__" = .builtin .objectRichCompare)
    (rightReaches : (rightEntry.target .richCompare).reach "__ne__" = .builtin .objectRichCompare) :
    Ready (perform program depth) (attempts .eq left right leftEntry rightEntry) start := by
  have leftPresent := SlotTarget.isAbsent_of_reach_builtin leftReaches
  have rightPresent := SlotTarget.isAbsent_of_reach_builtin rightReaches
  rw [attempts]
  split
  · simp only [List.filter_cons, leftPresent, rightPresent, Bool.not_false, if_true, List.filter_nil]
    exact ready_pair alike rightSpares forRight forLeft rightReaches leftReaches
  · simp only [List.filter_cons, leftPresent, rightPresent, Bool.not_false, if_true, List.filter_nil]
    exact ready_pair alike leftSpares forLeft forRight leftReaches rightReaches

/-- All attempts at equality ask with that operator. -/
theorem operator_of_mem_attempts {left right : Value} {leftEntry rightEntry : SlotEntry} :
    ∀ attempt ∈ attempts .eq left right leftEntry rightEntry, attempt.operator = .eq := by
  intro attempt isMember
  have isMember := (List.mem_filter.1 isMember).1
  split at isMember <;>
  · simp only [List.mem_cons, List.not_mem_nil, or_false] at isMember
    rcases isMember with rfl | rfl <;> rfl

theorem eq_of_negated {left right : Except Error Bool} (same : left.map not = right.map not) :
    left = right := by
  cases left <;> cases right <;> simp_all [Except.map]

/-- The test for inequality of two values corresponds to the test for equality, by negation. -/
theorem corresponds_compareTruth {world : World Host} (reachable : World.Reachable forged world)
    (program : Program Host) (depth : Nat) {left right : Value}
    (leftInherits : world.registry.InheritsInequality left.typeId)
    (rightInherits : world.registry.InheritsInequality right.typeId)
    (leftSpares : world.EqualitySpares program left right)
    (rightSpares : world.EqualitySpares program right left) :
    World.Corresponds not (compareTruth (perform program (depth + 1)) .ne left right world)
      (compareTruth (perform program depth) .eq left right world) := by
  have alike := reachable.forgeAll.alike
  have inShape := reachable.sound.inShape
  unfold compareTruth
  cases isSame : left.isSame right with
  | true => exact .some ⟨rfl, .of_alike alike⟩
  | false =>
      dsimp only
      rw [compare_eq _ .ne true left right (.inr ⟨rfl, by rw [isSame]; rfl⟩),
        compare_eq _ .eq false left right (.inl ⟨rfl, isSame.symm⟩)]
      simp only [bind_assoc, pure_bind]
      refine .read alike fun leftEntry afterLeft forLeft alikeLeft => ?_
      refine .read alikeLeft fun rightEntry afterRight forRight alikeRight => ?_
      rw [attempts_unequal, verdict_eq _ false operator_of_mem_attempts]
      have ready : Ready (perform program depth) (attempts .eq left right leftEntry rightEntry)
          afterRight := ready_attempts alikeRight leftSpares rightSpares forLeft forRight
        (leftInherits.reach inShape.wellFormed inShape.keepsBuiltins inShape.arranged forLeft)
        (rightInherits.reach inShape.wellFormed inShape.keepsBuiltins inShape.arranged forRight)
      have parallel : afterRight.Parallel afterRight := .of_alike (alikeRight.symm.trans alikeRight)
      refine (corresponds_runAttempts program depth parallel ready).bind
        fun found? before after stillParallel => ?_
      cases found? with
      | none => exact .some ⟨rfl, stillParallel⟩
      | some flag => exact .some ⟨rfl, stillParallel⟩

end Operator

/-- In a reachable world, two values whose types inherit inequality from `object` are unequal exactly
when they are not equal, and the test for inequality fails exactly with the errors of the test for
equality. Equality methods may do anything but change the type of the other operand before they
decline. -/
theorem World.inequality_negates_equality {world : World Host}
    (reachable : World.Reachable forged world) (program : Program Host) {left right : Value}
    (leftInherits : world.registry.InheritsInequality left.typeId)
    (rightInherits : world.registry.InheritsInequality right.typeId)
    (leftSpares : world.EqualitySpares program left right)
    (rightSpares : world.EqualitySpares program right left) :
    (∀ flag : Bool, (∃ next, world.Answers program (.compareTruth .ne left right) (.ok (!flag)) next) ↔
      ∃ next, world.Answers program (.compareTruth .eq left right) (.ok flag) next) ∧
    ∀ error, (∃ next, world.Answers program (.compareTruth .ne left right) (.error error) next) ↔
      ∃ next, world.Answers program (.compareTruth .eq left right) (.error error) next := by
  have answers_iff : ∀ outcome : Except Error Bool,
      (∃ next, world.Answers program (.compareTruth .ne left right) (outcome.map not) next) ↔
        ∃ next, world.Answers program (.compareTruth .eq left right) outcome next := by
    intro outcome
    have corresponds := fun depth => Operator.corresponds_compareTruth reachable program depth
      leftInherits rightInherits leftSpares rightSpares
    constructor
    · rintro ⟨next, depth, isUnequal⟩
      have isUnequal := perform_extends program (Nat.le_add_right depth 2) _ _ _ isUnequal
      rcases (corresponds depth).cases with ⟨isLeft, _⟩ | ⟨other, before, after, isLeft, isRight, _⟩
      · cases isLeft.symm.trans isUnequal
      · have isNegated := (Prod.mk.inj (Option.some.inj (isLeft.symm.trans isUnequal))).1
        obtain rfl := Operator.eq_of_negated isNegated
        exact ⟨after, depth + 1, isRight⟩
    · rintro ⟨next, depth, isEqual⟩
      have isEqual := perform_extends program (Nat.le_add_right depth 1) _ _ _ isEqual
      rcases (corresponds depth).cases with ⟨_, isRight⟩ | ⟨other, before, after, isLeft, isRight, _⟩
      · cases isRight.symm.trans isEqual
      · obtain ⟨rfl, rfl⟩ := Prod.mk.inj (Option.some.inj (isRight.symm.trans isEqual))
        exact ⟨before, depth + 2, isLeft⟩
  exact ⟨fun flag => answers_iff (.ok flag), fun error => answers_iff (.error error)⟩

/-- An equality method whose body makes no requests spares all types. -/
theorem World.equalitySpares_of_done {program : Program Host} {world : World Host} {left right : Value}
    {entry : SlotEntry} (hasEntry : world.registry.HasEntry left.typeId entry) {header : Header}
    {name : String} {code : Nat}
    (reaches : (entry.target .richCompare).reach "__eq__" =
      .method (.object header (.function name code)))
    {outcome : Except Error Value} (isDone : program code [left, right] = .done outcome) :
    world.EqualitySpares program left right := by
  rintro other method hasOther reached start next alike ⟨depth, isAnswer⟩
  obtain rfl := hasEntry.unique hasOther
  obtain rfl := Reached.method.inj (reached.symm.trans reaches)
  obtain _ | _ | depth := depth
  · cases isAnswer
  · cases isAnswer
  obtain ⟨answer, isBody, isNext⟩ := Option.map_eq_some_iff.1 isAnswer
  obtain ⟨_, rfl⟩ := Prod.mk.inj isNext
  rw [isDone, Body.run] at isBody
  cases outcome <;>
  · obtain rfl := Option.some.inj isBody
    exact .of_definitions alike.refreshes.definitions _

/-- This test tells a type whose equality method is a function of the host, by its code. -/
def World.runsEquality (code : Nat) (id : TypeId) (world : World Host) : Bool :=
  (entryOf id world).any fun answer => answer.1.toOption.any fun entry =>
    match (entry.target .richCompare).reach "__eq__" with
    | .method (.object _ (.function _ other)) => other = code
    | _ => false

theorem World.hasEntry_of_runsEquality {world : World Host} (alike : World.Alike forged 0 world world)
    {id : TypeId} {code : Nat} (isTrue : world.runsEquality code id = true) :
    ∃ entry header name, world.registry.HasEntry id entry ∧
      (entry.target .richCompare).reach "__eq__" = .method (.object header (.function name code)) := by
  rw [runsEquality] at isTrue
  rcases entryOf_cases alike id with ⟨_, isOutcome⟩ | ⟨entry, next, isOutcome, hasEntry, _⟩ <;>
    rw [isOutcome] at isTrue
  · cases isTrue
  · simp only [Option.any_some, Except.toOption] at isTrue
    split at isTrue
    · rename_i header name other reached
      obtain rfl := of_decide_eq_true isTrue
      exact ⟨entry, header, name, hasEntry, reached⟩
    · cases isTrue

/-- A class finds its instances different, and its heir finds its instances equal to those of the
class. -/
theorem World.inequality_negates_equality_heir :
    ∃ (program : Program Unit) (world : World Unit), World.Reachable (fun _ => True) world ∧
      ∃ left right : Value, left.typeId = 13 ∧ right.typeId = 14 ∧
        world.registry.InheritsInequality left.typeId ∧ world.registry.InheritsInequality right.typeId ∧
        world.EqualitySpares program left right ∧ world.EqualitySpares program right left ∧
        (∃ next, world.Answers program (.compareTruth .eq left right) (.ok true) next) ∧
        ∃ next, world.Answers program (.compareTruth .ne left right) (.ok false) next := by
  let program : Program Unit := fun code _ =>
    match code with
    | 0 => do
        let declines ← Body.request (.allocate .function (.function "declines" 1) false)
        let accepts ← Body.request (.allocate .function (.function "accepts" 2) false)
        let base ← Body.request (.createType "Base" [] ⟨[("__eq__", declines)]⟩)
        let _ ← Body.request (.createType "Heir" [base] ⟨[("__eq__", accepts)]⟩)
        return .none
    | 1 => return .notImplemented
    | code => return .int (Int64.ofNat code)
  let left : Value := .object ⟨.allocated 2, 13⟩ .plain
  let right : Value := .object ⟨.allocated 3, 14⟩ .plain
  have isMade :
      ((perform program 2 (.apply "make" 0 []) (.initial .default ())).any fun made =>
        decide (made.2.registry.InheritsInequality left.typeId) &&
          (decide (made.2.registry.InheritsInequality right.typeId) &&
          (made.2.runsEquality 1 13 && (made.2.runsEquality 2 14 &&
          ((perform program 4 (.compareTruth .eq left right) made.2).any fun answer =>
            (answer.1 : Except Error Bool).toOption = some true))))) = true := by
    decide +kernel
  obtain ⟨⟨made, world⟩, isOutcome, isTrue⟩ := (Option.any_eq_true _ _).1 isMade
  simp only [Bool.and_eq_true, decide_eq_true_eq] at isTrue
  obtain ⟨leftInherits, rightInherits, leftRuns, rightRuns, isEqual⟩ := isTrue
  have reachable := World.Reachable.of_outcome isOutcome
  obtain ⟨leftEntry, _, _, forLeft, leftReaches⟩ :=
    World.hasEntry_of_runsEquality reachable.alike leftRuns
  obtain ⟨rightEntry, _, _, forRight, rightReaches⟩ :=
    World.hasEntry_of_runsEquality reachable.alike rightRuns
  have leftSpares : world.EqualitySpares program left right :=
    World.equalitySpares_of_done forLeft leftReaches rfl
  have rightSpares : world.EqualitySpares program right left :=
    World.equalitySpares_of_done forRight rightReaches rfl
  obtain ⟨⟨outcome, next⟩, isAnswer, isEqual⟩ := (Option.any_eq_true _ _).1 isEqual
  have isEqual : ∃ next, world.Answers program (.compareTruth .eq left right) (.ok true) next := by
    cases outcome with
    | error error => cases isEqual
    | ok flag =>
        obtain rfl := Option.some.inj (of_decide_eq_true isEqual)
        exact ⟨next, 4, isAnswer⟩
  have negates := World.inequality_negates_equality reachable program leftInherits rightInherits
    leftSpares rightSpares
  exact ⟨program, world, reachable, left, right, rfl, rfl, leftInherits, rightInherits, leftSpares,
    rightSpares, isEqual, (negates.1 true).2 isEqual⟩

end SlotDispatch
