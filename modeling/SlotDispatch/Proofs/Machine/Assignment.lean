import SlotDispatch.Proofs.Machine.Reflected
/-!
Augmented assignments. The main statement says that the error of an implementation passes through an
augmented assignment unchanged unless it reads as a failure of the operator, and that a dispatch in
which all implementations decline or are missing fails under the symbol of the assignment. An
implementation whose own nested operator fails under the same symbol is the one whose error is lost.
-/

namespace SlotDispatch

open SlotDispatch.Action SlotDispatch.Machine

variable {Host : Type} {forged : Nat → Prop}

namespace Operator

/-- An augmented assignment has an in-place method when the type of the left operand binds its special
method to a value other than `None`. -/
def IsInPlaceMethod (world : World Host) (kind : SlotKind) (left method : Value) : Prop :=
  ∃ dunder, kind.inPlaceDunder? = some dunder ∧
    world.registry.lookup left.typeId dunder = some method ∧ method.isNone = false

/-- An augmented assignment falls back to the operator when it has no in-place method, or when the
in-place method declines. -/
inductive FallsBack (perform : Perform Host) (kind : SlotKind) (left right : Value)
    (world : World Host) : World Host → Prop
  | missing (noMethod : ∀ method, ¬ IsInPlaceMethod world kind left method) :
      FallsBack perform kind left right world world
  | declined {method : Value} {start : World Host}
      (isMethod : IsInPlaceMethod world kind left method)
      (declines : Invocation.callSpecial perform method left [right] world =
        some (.ok .notImplemented, start)) : FallsBack perform kind left right world start

/-- A sum has a slot to go on with when the left operand concatenates, and a product when one of the
operands repeats. -/
def HasSequenceSlot (kind : SlotKind) (leftEntry rightEntry : SlotEntry) : Prop :=
  (kind = .add ∧ (leftEntry.target .sqConcat).isAbsent = false) ∨
    (kind = .multiply ∧ ((leftEntry.target .sqRepeat).isAbsent = false ∨
      (rightEntry.target .sqRepeat).isAbsent = false))

/-- An implementation decides a dispatch with its outcome. It is the first step of the plan that does
not decline, or the sequence slot that the operator goes on with. -/
def DecidedBy (perform : Perform Host) (kind : SlotKind) (left right : Value)
    (leftEntry rightEntry : SlotEntry) (plan : Plan) :
    World Host → Option (Except Error Value × World Host) → Prop :=
  Runs perform left right .none plan fun stop outcome =>
    HasSequenceSlot kind leftEntry rightEntry ∧
      Continues perform kind left right .none leftEntry rightEntry stop outcome

/-- No implementation decides a dispatch when all steps of the plan decline and there is no sequence
slot to go on with. -/
structure Undecided (perform : Perform Host) (kind : SlotKind) (left right : Value)
    (leftEntry rightEntry : SlotEntry) (plan : Plan) (start stop : World Host) : Prop where
  declines : Declines perform left right .none plan start stop
  noSlot : ¬ HasSequenceSlot kind leftEntry rightEntry

/-- An error reads as a failure of an operator when it is about unsupported operands of its symbol. -/
def ReadsAsFailure (kind : SlotKind) (error : Error) : Prop :=
  ∃ typeNames, error.kind = .unsupportedOperandTypes kind.symbol typeNames

/-- The outcome of an augmented assignment is the outcome of the in-place method, the number that is
computed at once, or the outcome of the implementation that decides the dispatch of the operator. It
fails under its own symbol when no implementation decides, and also when the error of an implementation
reads as a failure of the operator. -/
inductive Assigns (perform : Perform Host) (kind : SlotKind) (symbol : String) (left right : Value)
    (world : World Host) : Option (Except Error Value × World Host) → Prop
  | assigned {method : Value} (isMethod : IsInPlaceMethod world kind left method)
      (decides : ∀ next, Invocation.callSpecial perform method left [right] world ≠
        some (.ok .notImplemented, next)) :
      Assigns perform kind symbol left right world
        (Invocation.callSpecial perform method left [right] world)
  | computed {start : World Host} {result : Value}
      (fallsBack : FallsBack perform kind left right world start)
      (isResult : integerResult? kind left right = some result) :
      Assigns perform kind symbol left right world (some (.ok result, start))
  | unknown {start stop : World Host} {operand : Value}
      (fallsBack : FallsBack perform kind left right world start)
      (isOperand : operand ∈ [left, right])
      (unregistered : start.registry.definition? operand.typeId = none) :
      Assigns perform kind symbol left right world
        (some (.error (.unknownType operand.typeId), stop))
  | passed {start prepared : World Host} {leftEntry rightEntry : SlotEntry} {plan : Plan}
      {outcome : Option (Except Error Value × World Host)}
      (fallsBack : FallsBack perform kind left right world start)
      (prepares : Prepares (fun _ => True) kind left right .none start prepared leftEntry rightEntry
        plan)
      (isDecided : DecidedBy perform kind left right leftEntry rightEntry plan prepared outcome)
      (isOther : ∀ error stop, outcome = some (.error error, stop) → ¬ ReadsAsFailure kind error) :
      Assigns perform kind symbol left right world outcome
  | renamed {start prepared stop : World Host} {leftEntry rightEntry : SlotEntry} {plan : Plan}
      {error : Error} (fallsBack : FallsBack perform kind left right world start)
      (prepares : Prepares (fun _ => True) kind left right .none start prepared leftEntry rightEntry
        plan)
      (isDecided : DecidedBy perform kind left right leftEntry rightEntry plan prepared
        (some (.error error, stop)))
      (readsAsFailure : ReadsAsFailure kind error) :
      Assigns perform kind symbol left right world
        (some (.error (.unsupportedOperands symbol [stop.typeName left, stop.typeName right]), stop))
  | unsupported {start prepared stop : World Host} {leftEntry rightEntry : SlotEntry} {plan : Plan}
      (fallsBack : FallsBack perform kind left right world start)
      (prepares : Prepares (fun _ => True) kind left right .none start prepared leftEntry rightEntry
        plan)
      (isUndecided : Undecided perform kind left right leftEntry rightEntry plan prepared stop) :
      Assigns perform kind symbol left right world
        (some (.error (.unsupportedOperands symbol [stop.typeName left, stop.typeName right]), stop))

/-- A kind with an augmented assignment is an operator on two operands. -/
theorem isBinary_of_inPlaceSymbol? {kind : SlotKind} {symbol : String}
    (hasSymbol : kind.inPlaceSymbol? = some symbol) : kind.isBinary = true := by
  cases kind <;> first | rfl | cases hasSymbol

variable {perform : Perform Host} {kind : SlotKind} {left right : Value} {world : World Host}

/-- The in-place method decides the assignment, or the assignment falls back. -/
theorem inPlaceResult_cases (perform : Perform Host) (kind : SlotKind) (left right : Value)
    (world : World Host) :
    (∃ method, IsInPlaceMethod world kind left method ∧
        inPlaceResult perform kind left right world =
          Invocation.callSpecial perform method left [right] world) ∨
      (∀ method, ¬ IsInPlaceMethod world kind left method) ∧
        inPlaceResult perform kind left right world = some (.ok .notImplemented, world) := by
  unfold inPlaceResult IsInPlaceMethod
  cases kind.inPlaceDunder? with
  | none => exact .inr ⟨by simp, rfl⟩
  | some dunder =>
      simp only [lookup, reading, bind_apply, current, pure_apply]
      cases isFound : world.registry.lookup left.typeId dunder with
      | none => exact .inr ⟨by simp [isFound], rfl⟩
      | some method =>
          cases isNone : method.isNone with
          | true =>
              refine .inr ⟨?_, by simp [Option.filter, isNone]⟩
              rintro other ⟨_, isDunder, isOther, notNone⟩
              obtain rfl := Option.some.inj isDunder
              obtain rfl := Option.some.inj (isFound.symm.trans isOther)
              rw [isNone] at notNone
              cases notNone
          | false =>
              refine .inl ⟨method, ⟨dunder, rfl, isFound, isNone⟩, ?_⟩
              simp [Option.filter, isNone]

/-- A run of a dispatch is decided by an implementation, or all of them decline and the operator fails
with its symbol and the names of the operand types. -/
theorem Runs.decided_or_undecided {leftEntry rightEntry : SlotEntry} {plan : Plan}
    {start : World Host} {outcome : Option (Except Error Value × World Host)}
    (runs : Runs perform left right .none plan
      (Continues perform kind left right .none leftEntry rightEntry) start outcome) :
    DecidedBy perform kind left right leftEntry rightEntry plan start outcome ∨
      ∃ stop, Undecided perform kind left right leftEntry rightEntry plan start stop ∧
        outcome = some (.error (.unsupportedOperands kind.symbol
          [stop.typeName left, stop.typeName right]), stop) := by
  cases runs with
  | decided isPlan declines decides => exact .inl (.decided isPlan declines decides)
  | @undecided stop _ declines continues =>
      by_cases hasSlot : HasSequenceSlot kind leftEntry rightEntry
      · exact .inl (.undecided declines ⟨hasSlot, continues⟩)
      · refine .inr ⟨stop, ⟨declines, hasSlot⟩, ?_⟩
        cases continues with
        | concatenated isSum isPresent => exact absurd (.inl ⟨isSum, isPresent⟩) hasSlot
        | repeatedLeft isProduct isPresent =>
            exact absurd (.inr ⟨isProduct, .inl isPresent⟩) hasSlot
        | repeatedRight isProduct _ isPresent =>
            exact absurd (.inr ⟨isProduct, .inr isPresent⟩) hasSlot
        | unsupported => rfl

/-- An error of the operator stays as it is, unless it reads as a failure of the operator. -/
def underSymbol (kind : SlotKind) (symbol : String) (left right : Value)
    (operation : Action (World Host) Value) : Action (World Host) Value := do
  match ← Action.attempt operation with
  | .ok result => return result
  | .error error =>
      match error.kind with
      | .unsupportedOperandTypes symbolOfError _ =>
          if symbolOfError = kind.symbol then unsupported symbol [left, right]
          else Action.fail error
      | _ => Action.fail error

theorem inPlace_eq_underSymbol {symbol : String} (hasSymbol : kind.inPlaceSymbol? = some symbol) :
    inPlace perform kind left right = (do
      let result ← inPlaceResult perform kind left right
      if !result.isNotImplemented then return result
      else underSymbol kind symbol left right (binary perform kind left right)) := by
  rw [inPlace, hasSymbol]
  rfl

theorem underSymbol_of_readsAsFailure {operation : Action (World Host) Value} {error : Error}
    {start stop : World Host} (symbol : String)
    (isOutcome : operation start = some (.error error, stop))
    (readsAsFailure : ReadsAsFailure kind error) :
    underSymbol kind symbol left right operation start =
      some (.error (.unsupportedOperands symbol [stop.typeName left, stop.typeName right]),
        stop) := by
  obtain ⟨typeNames, isKind⟩ := readsAsFailure
  simp only [underSymbol, attempt, bind_apply, isOutcome, Option.map_some, isKind, if_true,
    unsupported, reading, current, pure_apply, fail_apply, List.map_cons, List.map_nil]

theorem underSymbol_of_other {operation : Action (World Host) Value} {start : World Host}
    (symbol : String)
    (isOther : ∀ error stop, operation start = some (.error error, stop) →
      ¬ ReadsAsFailure kind error) :
    underSymbol kind symbol left right operation start = operation start := by
  simp only [underSymbol, attempt, bind_apply]
  rcases isOutcome : operation start with _ | ⟨error | result, stop⟩
  · rfl
  · have isOther := isOther error stop isOutcome
    simp only [Option.map_some]
    cases isKind : error.kind with
    | unsupportedOperandTypes operation typeNames =>
        have otherSymbol : operation ≠ kind.symbol := by
          rintro rfl
          exact isOther ⟨typeNames, isKind⟩
        simp only [if_neg otherSymbol, fail_apply]
    | _ => rfl
  · rfl

theorem readsAsFailure_unsupportedOperands (kind : SlotKind) (typeNames : List String) :
    ReadsAsFailure kind (.unsupportedOperands kind.symbol typeNames) :=
  ⟨typeNames, rfl⟩

theorem not_readsAsFailure_unknownType (kind : SlotKind) (id : TypeId) :
    ¬ ReadsAsFailure kind (.unknownType id) := by
  rintro ⟨typeNames, isKind⟩
  cases isKind

/-- An assignment that falls back does what the dispatch of the operator says. -/
theorem assigns_of_fallsBack {symbol : String} (hasSymbol : kind.inPlaceSymbol? = some symbol)
    {start : World Host} (fallsBack : FallsBack perform kind left right world start)
    (alike : World.Alike (fun _ => True) 0 start start) :
    Assigns perform kind symbol left right world
      (underSymbol kind symbol left right (binary perform kind left right) start) := by
  have isBinary := isBinary_of_inPlaceSymbol? hasSymbol
  cases isResult : integerResult? kind left right with
  | some result =>
      have atOnce : binary perform kind left right = return result :=
        binary_of_integerResult? isBinary isResult
      rw [atOnce, underSymbol_of_other symbol (by simp)]
      exact .computed fallsBack isResult
  | none =>
      have dispatches : Dispatches (fun _ => True) perform kind left right .none start
          (binary perform kind left right start) := dispatches_binary alike isBinary isResult
      generalize isOutcome : binary perform kind left right start = outcome at dispatches
      cases dispatches with
      | @unknown operand stop isOperand unregistered _ =>
          have isOther : ∀ error next, binary perform kind left right start =
              some (.error error, next) → ¬ ReadsAsFailure kind error := by
            intro error next isError
            obtain ⟨isUnknown, _⟩ := Prod.mk.inj (Option.some.inj (isOutcome.symm.trans isError))
            obtain rfl := Except.error.inj isUnknown
            exact not_readsAsFailure_unknownType kind operand.typeId
          rw [underSymbol_of_other symbol isOther, isOutcome]
          exact .unknown fallsBack isOperand unregistered
      | planned prepares runs =>
          rcases runs.decided_or_undecided with isDecided | ⟨stop, isUndecided, rfl⟩
          · by_cases isLost : ∃ error stop, outcome = some (.error error, stop) ∧
                ReadsAsFailure kind error
            · obtain ⟨error, stop, rfl, readsAsFailure⟩ := isLost
              rw [underSymbol_of_readsAsFailure symbol isOutcome readsAsFailure]
              exact .renamed fallsBack prepares isDecided readsAsFailure
            · have isOther : ∀ error stop, outcome = some (.error error, stop) →
                  ¬ ReadsAsFailure kind error :=
                fun error stop isError reads => isLost ⟨error, stop, isError, reads⟩
              rw [underSymbol_of_other symbol (isOutcome ▸ isOther), isOutcome]
              exact .passed fallsBack prepares isDecided isOther
          · have readsAsFailure := readsAsFailure_unsupportedOperands kind
              [stop.typeName left, stop.typeName right]
            rw [underSymbol_of_readsAsFailure symbol isOutcome readsAsFailure]
            exact .unsupported fallsBack prepares isUndecided

/-- An augmented assignment assigns the outcome that its in-place method or its dispatch decides. -/
theorem assigns_inPlace {symbol : String} (hasSymbol : kind.inPlaceSymbol? = some symbol)
    (alike : ∀ start, FallsBack perform kind left right world start →
      World.Alike (fun _ => True) 0 start start) :
    Assigns perform kind symbol left right world (inPlace perform kind left right world) := by
  rw [inPlace_eq_underSymbol hasSymbol, bind_apply]
  rcases inPlaceResult_cases perform kind left right world with
    ⟨method, isMethod, isResult⟩ | ⟨noMethod, isResult⟩
  · have decided : (∀ next, Invocation.callSpecial perform method left [right] world ≠
        some (.ok .notImplemented, next)) → Assigns perform kind symbol left right world
          (Invocation.callSpecial perform method left [right] world) := .assigned isMethod
    rw [isResult]
    rcases isOutcome : Invocation.callSpecial perform method left [right] world with
      _ | ⟨error | result, start⟩ <;> rw [isOutcome] at decided
    · exact decided (by simp)
    · exact decided (by simp)
    · by_cases declines : result = .notImplemented
      · subst declines
        have fallsBack : FallsBack perform kind left right world start :=
          .declined isMethod isOutcome
        exact assigns_of_fallsBack hasSymbol fallsBack (alike start fallsBack)
      · have notDeclined := (isNotImplemented_iff result).not.2 declines
        simp only [notDeclined]
        exact decided (by simpa using declines)
  · have fallsBack : FallsBack perform kind left right world world := .missing noMethod
    rw [isResult]
    exact assigns_of_fallsBack hasSymbol fallsBack (alike world fallsBack)

end Operator

/-- In a reachable world, an augmented assignment passes on the outcome of its in-place method, and the
outcome of the implementation that decides the dispatch of the operator unless that is an error which
reads as a failure of the operator. When no implementation decides, it fails under its own symbol with
the names of the operand types. -/
theorem World.perform_assigns {world : World Host} (reachable : World.Reachable forged world)
    (program : Program Host) (depth : Nat) {kind : SlotKind} {symbol : String}
    (hasSymbol : kind.inPlaceSymbol? = some symbol) (left right : Value) :
    Operator.Assigns (perform program depth) kind symbol left right world
      (perform program (depth + 1) (.inPlace kind left right) world) := by
  refine Operator.assigns_inPlace hasSymbol fun start fallsBack => ?_
  cases fallsBack with
  | missing => exact reachable.forgeAll.alike
  | @declined method _ _ declines =>
      have isOutcome : perform program (depth + 1) (.callSpecial method left [right]) world =
          some (.ok .notImplemented, start) := declines
      have isSparing : (Request.callSpecial method left [right]).Spares fun _ => True := trivial
      exact (reachable.forgeAll.answered (Program.spares_of_forall (fun _ => trivial) program)
        isSparing isOutcome).alike

/-- A class adds by a method that fails, and `+=` fails with the error of the method. -/
theorem World.perform_assigns_failing :
    ∃ (program : Program Unit) (world : World Unit), World.Reachable (fun _ => True) world ∧
      ∃ left : Value, left.typeId = 13 ∧
        (perform program 4 (.inPlace .add left (.int 5)) world).any (fun answer =>
          failsWith .negativeShift answer.1) = true ∧
        Operator.Assigns (perform program 3) .add "+=" left (.int 5) world
          (perform program 4 (.inPlace .add left (.int 5)) world) := by
  let program : Program Unit := fun code _ =>
    match code with
    | 0 => do
        let method ← Body.request (.allocate .function (.function "add" 1) false)
        let id ← Body.request (.createType "Class" [] ⟨[("__add__", method)]⟩)
        let _ ← Body.request (.allocate id .plain true)
        return .none
    | _ => Body.fail .negativeShift
  let left : Value := .object ⟨.allocated 1, 13⟩ .plain
  have isMade :
      ((perform program 2 (.apply "make" 0 []) (.initial .default ())).any fun made =>
        (perform program 4 (.inPlace .add left (.int 5)) made.2).any fun answer =>
          failsWith .negativeShift answer.1) = true := by
    decide +kernel
  obtain ⟨⟨made, world⟩, isOutcome, fails⟩ := (Option.any_eq_true _ _).1 isMade
  have reachable := World.Reachable.of_outcome isOutcome
  exact ⟨program, world, reachable, left, rfl, fails,
    World.perform_assigns reachable program 3 rfl left (.int 5)⟩

/-- This test tells a journal of one call that failed with an error. -/
def Journal.isFailure (callable : Callable) (error : Error) : Journal → Bool
  | [.call other _ (.error found) _] => other = callable && found = error
  | _ => false

theorem Journal.eq_of_isFailure {callable : Callable} {error : Error} {journal : Journal}
    (isTrue : journal.isFailure callable error = true) :
    ∃ arguments inner, journal = [.call callable arguments (.error error) inner] := by
  unfold isFailure at isTrue
  split at isTrue
  · rename_i other arguments found inner
    obtain ⟨isCallable, isError⟩ := Bool.and_eq_true_iff.1 isTrue
    obtain rfl := of_decide_eq_true isCallable
    obtain rfl := of_decide_eq_true isError
    exact ⟨arguments, inner, rfl⟩
  · cases isTrue

/-- A class adds by a method that itself adds a number and a text. The method is the one call of an
augmented assignment and fails with the operand types `int` and `str` of its own sum, but the
assignment fails under its own symbol with its own operand types. -/
theorem World.nested_failure_renamed :
    ∃ (program : Program Unit) (world : World Unit), World.Reachable (fun _ => True) world ∧
      ∃ left : Value, left.typeId = 13 ∧
        ∃ next arguments inner, perform program 6 (.inPlace .add left (.int 5)) world =
            some (.error (.unsupportedOperands "+=" ["Class", "int"]), next) ∧
          next.journal = [.call (.function "add" 1) arguments
            (.error (.unsupportedOperands "+" ["int", "str"])) inner] := by
  let program : Program Unit := fun code _ =>
    match code with
    | 0 => do
        let method ← Body.request (.allocate .function (.function "add" 1) false)
        let id ← Body.request (.createType "Class" [] ⟨[("__add__", method)]⟩)
        let _ ← Body.request (.allocate id .plain true)
        return .none
    | _ => do
        let text ← Body.request (.allocate .str (.text "a") false)
        Body.request (.binary .add (.int 1) text)
  let left : Value := .object ⟨.allocated 1, 13⟩ .plain
  have isMade :
      ((perform program 2 (.apply "make" 0 []) (.initial .default ())).any fun made =>
        let world : World Unit := { made.2 with journal := [], host := () }
        (perform program 6 (.inPlace .add left (.int 5)) world).any fun answer =>
          failsWith (.unsupportedOperands "+=" ["Class", "int"]) answer.1 &&
            answer.2.journal.isFailure (.function "add" 1)
              (.unsupportedOperands "+" ["int", "str"])) = true := by
    decide +kernel
  obtain ⟨⟨made, world⟩, isOutcome, isTrue⟩ := (Option.any_eq_true _ _).1 isMade
  have reachable := (World.Reachable.of_outcome isOutcome).resumed [] ()
  obtain ⟨⟨answer, next⟩, isAnswer, isTrue⟩ := (Option.any_eq_true _ _).1 isTrue
  obtain ⟨isError, isJournal⟩ := Bool.and_eq_true_iff.1 isTrue
  obtain rfl := eq_of_failsWith isError
  obtain ⟨arguments, inner, isJournal⟩ := Journal.eq_of_isFailure isJournal
  exact ⟨program, _, reachable, left, rfl, next, arguments, inner, isAnswer, isJournal⟩

end SlotDispatch
