import SlotDispatch.Proofs.Machine.Dispatch
/-!
The protocol of comparisons. The main statement says which comparison slots a comparison asks in which
order, that the first attempt that does not decline decides the outcome, and what holds of two values
when all attempts decline.
-/

namespace SlotDispatch

open SlotDispatch.Action SlotDispatch.Machine

variable {Host : Type} {forged : Nat → Prop}

/-- A type is a proper subtype of every other type in its linearization. -/
def Registry.IsProperSubtype (registry : Registry) (sub base : TypeId) : Prop :=
  sub ≠ base ∧ registry.isSubtype sub base = true

namespace Operator

/-! ### Runs of attempts -/

/-- An attempt asks its target with its operator. -/
def Attempt.run (perform : Perform Host) (attempt : Attempt) : Action (World Host) Value :=
  Invocation.compare perform attempt.target attempt.operator attempt.left attempt.right

/-- Some attempts decline one after the other, and each of them starts in the world that the attempt
before it left. -/
inductive AllDecline (perform : Perform Host) : List Attempt → World Host → World Host → Prop
  | nil (world : World Host) : AllDecline perform [] world world
  | cons {attempt : Attempt} {rest : List Attempt} {world middle stop : World Host}
      (declines : attempt.run perform world = some (.ok .notImplemented, middle))
      (later : AllDecline perform rest middle stop) :
      AllDecline perform (attempt :: rest) world stop

/-- Attempts have the outcome of the first one that does not decline. That outcome may be an error, and
no later attempt is made. When all attempts decline, the comparison is settled in the world that the
last one left. -/
inductive Attempted (perform : Perform Host) (attempts : List Attempt)
    (settles : World Host → Option (Except Error Value × World Host) → Prop) (start : World Host) :
    Option (Except Error Value × World Host) → Prop
  | decided {declined rest : List Attempt} {attempt : Attempt} {middle : World Host}
      (areAttempts : attempts = declined ++ attempt :: rest)
      (declines : AllDecline perform declined start middle)
      (decides : ∀ next, attempt.run perform middle ≠ some (.ok .notImplemented, next)) :
      Attempted perform attempts settles start (attempt.run perform middle)
  | undecided {stop : World Host} {outcome : Option (Except Error Value × World Host)}
      (declines : AllDecline perform attempts start stop) (isOutcome : settles stop outcome) :
      Attempted perform attempts settles start outcome

variable {perform : Perform Host} {left right : Value} {operator : Comparison}
  {settles : World Host → Option (Except Error Value × World Host) → Prop}

/-- An attempt that declines goes on with the later attempts. -/
theorem Attempted.cons {attempt : Attempt} {rest : List Attempt} {start middle : World Host}
    {outcome : Option (Except Error Value × World Host)}
    (declines : attempt.run perform start = some (.ok .notImplemented, middle))
    (later : Attempted perform rest settles middle outcome) :
    Attempted perform (attempt :: rest) settles start outcome := by
  cases later with
  | decided areAttempts earlier decides =>
      exact .decided (congrArg (attempt :: ·) areAttempts) (.cons declines earlier) decides
  | undecided later isOutcome => exact .undecided (.cons declines later) isOutcome

/-- An attempt that does not decline is the last one. -/
theorem Attempted.head {attempt : Attempt} {rest : List Attempt} {start : World Host}
    {outcome : Option (Except Error Value × World Host)}
    (isOutcome : attempt.run perform start = outcome)
    (decides : ∀ next, outcome ≠ some (.ok .notImplemented, next)) :
    Attempted perform (attempt :: rest) settles start outcome := by
  subst isOutcome
  have areAttempts : attempt :: rest = [] ++ attempt :: rest := rfl
  exact .decided areAttempts (.nil start) decides

/-- The attempts of a comparison run one after the other. -/
theorem attempted_runAttempts {continuation : Action (World Host) Value}
    (continues : ∀ stop, settles stop (continuation stop)) (attempts : List Attempt)
    (start : World Host) :
    Attempted perform attempts settles start
      ((do
        match ← runAttempts perform attempts with
        | some result => return result
        | none => continuation) start) := by
  induction attempts generalizing start with
  | nil => exact .undecided (.nil start) (continues start)
  | cons attempt rest inductionHypothesis =>
      rw [runAttempts, bind_assoc, bind_apply]
      rcases isAttempt : attempt.run perform start with _ | ⟨error | result, middle⟩ <;>
        rw [Attempt.run] at isAttempt <;> rw [isAttempt]
      · exact .head isAttempt (by simp)
      · exact .head isAttempt (by simp)
      · by_cases declines : result = .notImplemented
        · subst declines
          exact .cons isAttempt (inductionHypothesis middle)
        · have decides := (isNotImplemented_iff result).not.2 declines
          simp only [decides]
          exact .head isAttempt (by simpa using declines)

/-! ### Comparisons -/

/-- A comparison makes some attempts. The comparison slots of both operands are read at the start, and
those that are there are asked once: the left one with the operator, and the right one with the
reflected operator on the exchanged operands. The right one is first exactly when its type is a proper
subtype of the left type. -/
structure Poses (forged : Nat → Prop) (operator : Comparison) (left right : Value)
    (world start : World Host) (attempts : List Attempt) : Prop where
  alike : World.Alike forged 0 world start
  inOrder : ∃ leftEntry rightEntry : SlotEntry,
    world.registry.HasEntry left.typeId leftEntry ∧
    world.registry.HasEntry right.typeId rightEntry ∧
    let forward : Attempt := ⟨leftEntry.target .richCompare, operator, left, right⟩
    let reverse : Attempt := ⟨rightEntry.target .richCompare, operator.reflected, right, left⟩
    ∃ both : List Attempt, attempts = both.filter (fun attempt => !attempt.target.isAbsent) ∧
      (world.registry.IsProperSubtype right.typeId left.typeId → both = [reverse, forward]) ∧
      (¬ world.registry.IsProperSubtype right.typeId left.typeId → both = [forward, reverse])

/-- When all attempts decline, two values are equal when they are identical, and they have no order. -/
inductive Settles (operator : Comparison) (left right : Value) (stop : World Host) :
    Option (Except Error Value × World Host) → Prop
  | equal (isEquality : operator = .eq) :
      Settles operator left right stop (some (.ok (.bool (left.isSame right)), stop))
  | unequal (isInequality : operator = .ne) :
      Settles operator left right stop (some (.ok (.bool (!left.isSame right)), stop))
  | unordered (isOrder : operator ≠ .eq ∧ operator ≠ .ne) :
      Settles operator left right stop
        (some (.error (.unsupportedComparison operator.symbol (stop.typeName left)
          (stop.typeName right)), stop))

/-- A comparison fails when the type of an operand is not registered. Otherwise it makes its attempts,
and it is settled when all of them decline. -/
inductive Compares (forged : Nat → Prop) (perform : Perform Host) (operator : Comparison)
    (left right : Value) (world : World Host) : Option (Except Error Value × World Host) → Prop
  | unknown {operand : Value} {start : World Host} (isOperand : operand ∈ [left, right])
      (unregistered : world.registry.definition? operand.typeId = none)
      (alike : World.Alike forged 0 world start) :
      Compares forged perform operator left right world
        (some (.error (.unknownType operand.typeId), start))
  | attempted {start : World Host} {attempts : List Attempt}
      {outcome : Option (Except Error Value × World Host)}
      (poses : Poses forged operator left right world start attempts)
      (runs : Attempted perform attempts (Settles operator left right) start outcome) :
      Compares forged perform operator left right world outcome

/-- No comparison results in the value `NotImplemented`. -/
theorem Compares.ne_notImplemented {world : World Host}
    {outcome : Option (Except Error Value × World Host)}
    (compares : Compares forged perform operator left right world outcome) (next : World Host) :
    outcome ≠ some (.ok .notImplemented, next) := by
  cases compares with
  | unknown => simp
  | attempted _ runs =>
      cases runs with
      | decided _ _ decides => exact decides next
      | undecided _ settled => cases settled <;> simp

/-- The attempts over current entries are in order. -/
theorem poses_attempts {world start : World Host} (alike : World.Alike forged 0 world start)
    {leftEntry rightEntry : SlotEntry} (forLeft : world.registry.HasEntry left.typeId leftEntry)
    (forRight : world.registry.HasEntry right.typeId rightEntry) :
    Poses forged operator left right world start
      (attempts operator left right leftEntry rightEntry) := by
  have leftType : leftEntry.typeId = left.typeId := by
    obtain ⟨_, _, isEntry⟩ := forLeft
    exact isEntry.typeId
  have rightType : rightEntry.typeId = right.typeId := by
    obtain ⟨_, _, isEntry⟩ := forRight
    exact isEntry.typeId
  have isSubtype := forRight.isSubtypeOf_eq alike.coherent.wellFormed left.typeId
  have reverseFirst_iff : (leftEntry.typeId ≠ rightEntry.typeId &&
      rightEntry.isSubtypeOf leftEntry.typeId) = true ↔
        world.registry.IsProperSubtype right.typeId left.typeId := by
    rw [Bool.and_eq_true, decide_eq_true_eq, leftType, rightType, isSubtype, ne_comm]
    rfl
  exact ⟨alike, leftEntry, rightEntry, forLeft, forRight, _, rfl,
    fun isHeir => if_pos (reverseFirst_iff.2 isHeir),
    fun notHeir => if_neg (mt reverseFirst_iff.1 notHeir)⟩

/-- A comparison that first reads the entry of an operand fails when its type is not registered, and
compares when it does with the current entry. -/
theorem Compares.read {world start : World Host} {operand : Value}
    (isOperand : operand ∈ [left, right]) (alike : World.Alike forged 0 world start)
    {goesOn : SlotEntry → Action (World Host) Value}
    (later : ∀ entry next, world.registry.HasEntry operand.typeId entry →
      World.Alike forged 0 world next →
      Compares forged perform operator left right world (goesOn entry next)) :
    Compares forged perform operator left right world
      ((do goesOn (← entryOf operand.typeId)) start) := by
  rw [bind_apply]
  rcases entryOf_cases alike operand.typeId with
    ⟨unregistered, isOutcome⟩ | ⟨entry, next, isOutcome, hasEntry, isAlike⟩
  · rw [isOutcome]
    exact .unknown isOperand unregistered alike
  · rw [isOutcome]
    exact later entry next hasEntry isAlike

/-- A comparison makes its attempts, and then its operator settles it. -/
theorem compares_compare {world : World Host} (alike : World.Alike forged 0 world world)
    (perform : Perform Host) (operator : Comparison) (left right : Value) :
    Compares forged perform operator left right world
      (compare perform operator left right world) := by
  unfold compare
  refine .read (List.mem_cons_self ..) alike fun leftEntry afterLeft forLeft alikeLeft => ?_
  refine .read (by simp) alikeLeft fun rightEntry afterRight forRight alikeRight => ?_
  refine .attempted (poses_attempts alikeRight forLeft forRight)
    (attempted_runAttempts (fun stop => ?_) _ afterRight)
  cases operator with
  | eq => exact .equal rfl
  | ne => exact .unequal rfl
  | lt | le | gt | ge => exact .unordered (by decide)

end Operator

/-- In a reachable world, a comparison of any two values asks the current comparison slots of both
types in order, for any program and any depth, and it never results in the value `NotImplemented`. -/
theorem World.perform_compares {world : World Host} (reachable : World.Reachable forged world)
    (program : Program Host) (depth : Nat) (operator : Comparison) (left right : Value) :
    Operator.Compares forged (perform program depth) operator left right world
        (perform program (depth + 1) (.compare operator left right) world) ∧
      ∀ next, perform program (depth + 1) (.compare operator left right) world ≠
        some (.ok .notImplemented, next) := by
  have compares := Operator.compares_compare reachable.alike (perform program depth) operator left right
  exact ⟨compares, compares.ne_notImplemented⟩

/-- An instance of a class is compared with an instance of its heir. The reflected method of the heir is
asked first and decides, and two methods that decline leave two instances without an order. -/
theorem World.perform_compares_heir :
    ∃ (program : Program Unit) (world : World Unit), World.Reachable (fun _ => True) world ∧
      ∃ left right : Value, world.registry.IsProperSubtype right.typeId left.typeId ∧
        ((perform program 4 (.compare .lt left right) world).bind fun answer =>
          answer.1.toOption.bind Value.integer?) = some 3 ∧
        ((perform program 4 (.compare .le left right) world).map fun answer =>
          answer.1.toOption.isSome) = some false ∧
        ∀ operator, Operator.Compares (fun _ => True) (perform program 3) operator left right world
          (perform program 4 (.compare operator left right) world) := by
  let program : Program Unit := fun code _ =>
    match code with
    | 0 => do
        let less ← Body.request (.allocate .function (.function "less" 2) false)
        let greater ← Body.request (.allocate .function (.function "greater" 3) false)
        let declines ← Body.request (.allocate .function (.function "declines" 1) false)
        let base ← Body.request (.createType "Base" [] ⟨[("__lt__", less), ("__le__", declines)]⟩)
        let _ ← Body.request (.createType "Heir" [base] ⟨[("__gt__", greater)]⟩)
        return .none
    | 1 => return .notImplemented
    | code => return .int (Int64.ofNat code)
  let left : Value := .object ⟨.allocated 3, 13⟩ .plain
  let right : Value := .object ⟨.allocated 4, 14⟩ .plain
  have isMade :
      ((perform program 2 (.apply "make" 0 []) (.initial .default ())).map fun made =>
        (made.2.registry.isSubtype 14 13,
          (perform program 4 (.compare .lt left right) made.2).bind fun answer =>
            answer.1.toOption.bind Value.integer?,
          (perform program 4 (.compare .le left right) made.2).map fun answer =>
            answer.1.toOption.isSome)) =
        some (true, some 3, some false) := by
    decide +kernel
  obtain ⟨⟨outcome, world⟩, isOutcome, isMade⟩ := Option.map_eq_some_iff.1 isMade
  obtain ⟨isSubtype, decides, fails⟩ : _ ∧ _ ∧ _ := by simpa only [Prod.mk.injEq] using isMade
  have reachable := World.Reachable.of_outcome isOutcome
  exact ⟨program, world, reachable, left, right, ⟨by decide, isSubtype⟩, decides, fails,
    fun operator => (World.perform_compares reachable program 3 operator left right).1⟩

end SlotDispatch
