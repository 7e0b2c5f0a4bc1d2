import SlotDispatch.Proofs.Machine.Lag
import SlotDispatch.Proofs.Machine.Reflected
/-!
Invalidations inside a dispatch. The main statements say that functions of the host which invalidate
types do not change what an operation does, unless two operands of different types come to share an
override with a reflected method, and that they do change it there.
-/

namespace SlotDispatch

open SlotDispatch.Action SlotDispatch.Machine

variable {Host Result : Type} {forged : Nat → Prop}

/-! ### Insertions -/

/-- A body inserts invalidations into another when it makes the same requests and changes of the host,
and invalidates types in between. -/
inductive Body.Inserts : Body Host Result → Body Host Result → Prop
  | done (outcome : Except Error Result) : Inserts (.done outcome) (.done outcome)
  | ask (request : Request) {resume other : Except Error request.Reply → Body Host Result}
      (inserts : ∀ reply, Inserts (resume reply) (other reply)) :
      Inserts (.ask request resume) (.ask request other)
  | consult (update : Host → Host) {resume other : Host → Body Host Result}
      (inserts : ∀ host, Inserts (resume host) (other host)) :
      Inserts (.consult update resume) (.consult update other)
  | invalidate (id : TypeId) {body other : Body Host Result} (inserts : Inserts body other) :
      Inserts body (.ask (.invalidate id) fun _ => other)

/-- A program inserts invalidations into another when all its bodies do. -/
def Program.Inserts (program other : Program Host) : Prop :=
  ∀ code arguments, (program code arguments).Inserts (other code arguments)

theorem Body.Inserts.refl (body : Body Host Result) : body.Inserts body := by
  induction body with
  | done outcome => exact .done outcome
  | ask request resume inductionHypothesis => exact .ask request inductionHypothesis
  | consult update resume inductionHypothesis => exact .consult update inductionHypothesis

/-- One function of the host invalidates some types before it does what it does in a program. -/
def Program.invalidatingBefore (program : Program Host) (function : Nat) (ids : List TypeId) :
    Program Host := fun code arguments =>
  if code = function then
    ids.foldr (fun id body => .ask (.invalidate id) fun _ => body) (program code arguments)
  else program code arguments

theorem Program.inserts_invalidatingBefore (program : Program Host) (function : Nat)
    (ids : List TypeId) : program.Inserts (program.invalidatingBefore function ids) := by
  intro code arguments
  rw [invalidatingBefore]
  split
  · induction ids with
    | nil => exact .refl _
    | cons id rest inductionHypothesis => exact .invalidate id inductionHypothesis
  · exact .refl _

/-! ### Blind programs -/

/-- A blind request neither reads nor passes on a slot target, and it uses a call site only when the
site was never given a forged plan. -/
def Request.IsBlind (forged : Nat → Prop) : Request → Prop
  | .cached site _ _ => ¬ forged site
  | .newSite _ | .createType _ _ _ | .setTypeAttribute _ _ _ | .deleteTypeAttribute _ _
  | .setBases _ _ | .invalidate _ => True
  | request => request.IsOperation

/-- A body is blind when all its requests are, whatever the replies and the states of the host are. -/
def Body.IsBlind (forged : Nat → Prop) : Body Host Result → Prop
  | .done _ => True
  | .ask request resume => request.IsBlind forged ∧ ∀ reply, (resume reply).IsBlind forged
  | .consult _ resume => ∀ host, (resume host).IsBlind forged

/-- A program is blind when all its bodies are. -/
def Program.IsBlind (forged : Nat → Prop) (program : Program Host) : Prop :=
  ∀ code arguments, (program code arguments).IsBlind forged

theorem Request.IsBlind.spares {request : Request} (isBlind : request.IsBlind forged) :
    request.Spares forged := by
  cases request <;> trivial

/-- An invalidation gives no plan to a call site. -/
theorem Body.Inserts.spares {body other : Body Host Result} (inserts : body.Inserts other)
    (isBlind : body.IsBlind forged) : other.Spares forged := by
  induction inserts with
  | done => trivial
  | ask request _ inductionHypothesis =>
      exact ⟨isBlind.1.spares, fun reply => inductionHypothesis reply (isBlind.2 reply)⟩
  | consult _ _ inductionHypothesis => exact fun host => inductionHypothesis host (isBlind host)
  | invalidate _ _ inductionHypothesis => exact ⟨trivial, fun _ => inductionHypothesis isBlind⟩

/-! ### Machines without shared methods -/

/-- The bridge of two operands that share an override with a reflected method of its own has no
outcome. -/
def Invocation.unshared : Bridge Host := fun definition left right =>
  if left.typeId = right.typeId || !definition.kind.isBinary then return .notImplemented
  else do
    let target ← targetOf right definition.kind
    match Operator.sharedMethod? definition target with
    | some _ => exhausted
    | none => return .notImplemented

/-- A request is answered without shared methods, and every operator is evaluated anew at its call
site. -/
def Machine.answerUnshared (program : Program Host) (perform : Perform Host) : Perform Host
  | .cached site left right => do
      let world ← current
      match world.sites[site]? with
      | none => fail (.unknownSite site)
      | some callSite =>
          Operator.binaryBy Invocation.unshared perform callSite.kind left right
  | request => answerBy Invocation.unshared program perform request

/-- A machine without shared methods has no outcome once two operands of different types share an
override that declines from the left and has a reflected method of its own. -/
def Machine.performUnshared (program : Program Host) : Nat → Perform Host
  | 0 => fun _ => exhausted
  | depth + 1 => answerUnshared program (performUnshared program depth)

theorem Machine.answerUnshared_of_isOperation (program : Program Host) (perform : Perform Host)
    {request : Request} (isOperation : request.IsOperation) :
    answerUnshared program perform request =
      answerBy Invocation.unshared program perform request := by
  cases request <;> first | rfl | exact isOperation.elim

/-! ### Shared methods -/

/-- Two overrides that are the same further ahead are the same already, when the second is neither of a
later generation nor further ahead. -/
theorem Override.isSame_of_advance {definition other : Override} {behind ahead : TypeId → Nat}
    (isLess : behind ≤ ahead)
    (isEarlier : other.owner = definition.owner → definition.generation ≤ other.generation)
    (isSame : (other.advance ahead).isSame (definition.advance behind) = true) :
    other.isSame definition = true := by
  simp only [Override.isSame, Bool.and_eq_true, decide_eq_true_eq] at isSame ⊢
  obtain ⟨⟨⟨isOwner, sameKind⟩, isGeneration⟩, sameTurn⟩ := isSame
  have sameOwner : other.owner = definition.owner := isOwner
  have sameSum : other.generation + ahead other.owner =
      definition.generation + behind definition.owner := isGeneration
  rw [sameOwner] at sameSum
  have isLower := isEarlier sameOwner
  have isBehind : behind definition.owner ≤ ahead definition.owner := isLess definition.owner
  clear isGeneration isOwner
  exact ⟨⟨⟨sameOwner, sameKind⟩, by omega⟩, sameTurn⟩

/-- An override that is not shared in a world is not shared in a world ahead of it. -/
theorem Operator.sharedMethod?_advance {definition : Override} {target : SlotTarget}
    {behind ahead : TypeId → Nat} (isLess : behind ≤ ahead)
    (isEarlier : ∀ other inherited, target = .override other inherited →
      other.owner = definition.owner → definition.generation ≤ other.generation)
    (isUnshared : sharedMethod? definition target = none) :
    sharedMethod? (definition.advance behind) (target.advance ahead) = none := by
  cases target with
  | absent | builtin => rfl
  | override other inherited =>
      have sameBinding : (definition.advance behind).kind.reflectedDunder?.map
          (definition.advance behind).binding =
            definition.kind.reflectedDunder?.map definition.binding := rfl
      simp only [sharedMethod?, SlotTarget.advance, sameBinding] at isUnshared ⊢
      generalize definition.kind.reflectedDunder?.map definition.binding = binding?
        at isUnshared ⊢
      rcases binding? with _ | method | _ | _
      · rfl
      · refine if_neg fun isSame => ?_
        have isShared := Override.isSame_of_advance isLess (isEarlier other inherited rfl) isSame
        simp [isShared] at isUnshared
      · rfl
      · rfl

/-- A machine without shared methods is bridged as a machine is that knows of later invalidations. -/
theorem Invocation.bridges_unshared {lead : Lead} {kind : SlotKind} {target other : SlotTarget}
    (lags : target.Lags lead kind other) (perform : Perform Host) :
    Bridges (Judgement.lagging Host forged) lead unshared (sharedReflected perform) target other := by
  rintro definition inherited otherDefinition otherInherited rfl rfl left right
  obtain ⟨behind, isBehind, isOther⟩ := lags.isAhead
  obtain ⟨rfl, _⟩ := SlotTarget.override.inj isOther
  have isLow := lags.isLow definition inherited rfl
  show Repeats forged lead (unshared definition left right) _
  unfold unshared
  by_cases isAlone : (left.typeId = right.typeId || !definition.kind.isBinary) = true
  · have isAloneLater : (left.typeId = right.typeId ||
        !(definition.advance behind).kind.isBinary) = true := isAlone
    rw [if_pos isAlone, sharedReflected, if_pos isAloneLater]
    exact .pure _
  · rw [if_neg isAlone]
    obtain ⟨otherType, isBinary⟩ : left.typeId ≠ right.typeId ∧ definition.kind.isBinary = true := by
      simpa using isAlone
    have isBinaryLater : (definition.advance behind).kind.isBinary = true := isBinary
    rw [Operator.sharedReflected_eq otherType isBinaryLater]
    intro later isLater world otherWorld worldLags
    simp only [targetOf, bind_assoc, pure_bind]
    refine .entryOf_bind worldLags right.typeId fun entry otherEntry next otherNext entryLags same
      nextLags => ?_
    cases isMethod : Operator.sharedMethod? definition (entry.target definition.kind) with
    | some method =>
        intro outcome last isOutcome
        cases isOutcome
    | none =>
        have isUnshared := Operator.sharedMethod?_advance (isBehind.trans isLater.2)
          (fun override behindOverride isOverride sameOwner => ?_) isMethod
        · rw [← entryLags.isAhead.target] at isUnshared
          rw [show (definition.advance behind).kind = definition.kind from rfl, isUnshared]
          exact Repeats.pure _ later (le_refl _) next otherNext nextLags
        · rw [entryLags.isCurrent definition.kind override behindOverride isOverride, sameOwner]
          exact (isLow.trans (isLater.1 definition.owner)).trans (worldLags.floor definition.owner)

/-! ### Runs -/

/-- A body with more invalidations repeats a body when the requests of the body are repeated. An inserted
invalidation moves the second world further ahead. -/
theorem Body.repeats_run {perform next : Perform Host}
    (answers : ∀ lead (request : Request), request.IsBlind forged →
      Repeats forged lead (perform request) (next request))
    (invalidates : ∀ id, next (.invalidate id) = onRegistry (TypeChange.invalidate id))
    {body other : Body Host Result} (inserts : body.Inserts other) (isBlind : body.IsBlind forged)
    (lead : Lead) : Repeats forged lead (body.run perform) (other.run next) := by
  induction inserts generalizing lead with
  | done outcome =>
      cases outcome with
      | ok result => exact .pure result
      | error error => exact .fail error
  | ask request _ inductionHypothesis =>
      exact (answers lead request isBlind.1).attempt.bind fun reply =>
        inductionHypothesis reply (isBlind.2 reply) lead
  | consult update _ inductionHypothesis =>
      intro later isLater left right lags
      have repeated := inductionHypothesis left.host (isBlind left.host) lead later isLater _ _
        (lags.withHost (update left.host))
      simpa only [Body.run, Action.RepeatsIn, lags.host] using repeated
  | @invalidate id body other _ inductionHypothesis =>
      intro later isLater left right lags outcome world isOutcome
      obtain ⟨reply, middle, further, isFurther, isReply, stillLags⟩ := lags.invalidated id
      obtain ⟨last, after, isLast, isOther, lastLags⟩ :=
        inductionHypothesis isBlind lead further (isLater.trans isFurther) left middle stillLags
          outcome world isOutcome
      refine ⟨last, after, isFurther.trans isLast, ?_, lastLags⟩
      rw [Body.run, bind_apply, Action.attempt, invalidates, isReply]
      exact isOther

namespace Machine

variable {lead : Lead}

theorem repeats_createType (name : String) (bases : List TypeId) (attributes : Namespace) :
    Repeats forged lead (createType name bases attributes : Action (World Host) TypeId)
      (createType name bases attributes) := by
  intro later _ left right lags outcome world isOutcome
  have isFresh := lags.isFresh _ (List.getElem?_eq_none (le_refl left.registry.definitions.length))
  rcases createType_cases lags.registry isFresh name bases attributes with
    ⟨error, isLeft, isRight⟩ | ⟨id, next, isNext, isOther, isLeft, isRight⟩
  · obtain ⟨rfl, rfl⟩ := Prod.mk.inj (Option.some.inj (isLeft.symm.trans isOutcome))
    exact ⟨later, right, le_refl later, isRight, lags⟩
  · obtain ⟨rfl, rfl⟩ := Prod.mk.inj (Option.some.inj (isLeft.symm.trans isOutcome))
    exact ⟨later, _, le_refl later, isRight, lags.mutated (.created id name bases attributes isNext)
      (.created id name bases attributes isOther)⟩

theorem repeats_newSite (kind : SlotKind) :
    Repeats forged lead (newSite kind : Action (World Host) Nat) (newSite kind) := by
  intro later _ left right lags outcome next isOutcome
  obtain ⟨rfl, rfl⟩ := Prod.mk.inj (Option.some.inj isOutcome)
  have sameCount : right.sites.length = left.sites.length := by
    simpa using congrArg List.length lags.sites
  refine ⟨later, { right with sites := right.sites ++ [.new kind] }, le_refl later, ?_,
    lags.addSite kind⟩
  rw [← sameCount]
  rfl

/-- An operator that is repeated is also repeated at a clean call site. -/
theorem repeats_cached {perform next : Perform Host}
    (performs : (Judgement.lagging Host forged).Performs perform next)
    (oblivious : ∀ known, next.Oblivious forged known) {site : Nat} (isClean : ¬ forged site)
    (left right : Value) (program : Program Host) :
    Repeats forged lead (answerUnshared program perform (.cached site left right))
      (Operator.cached next site left right) := by
  intro later isLater before after lags
  rw [answerUnshared]
  intro outcome world isOutcome
  rw [bind_apply, current] at isOutcome
  dsimp only at isOutcome
  rcases lags.site_cases site with ⟨isLeft, isRight⟩ | ⟨leftSite, rightSite, isLeft, isRight, same⟩
  · rw [isLeft] at isOutcome
    obtain ⟨rfl, rfl⟩ := Prod.mk.inj (Option.some.inj isOutcome)
    exact ⟨later, after, le_refl later, Operator.cached_of_unknown next isRight left right, lags⟩
  · rw [isLeft] at isOutcome
    have repeated : Repeats forged later
        (Operator.binaryBy Invocation.unshared perform leftSite.kind left right)
        (Operator.binaryBy (Invocation.sharedReflected next) next leftSite.kind left right) :=
      Operator.related_binaryBy performs (Invocation.bridges_unshared · next) leftSite.kind left right
    obtain ⟨last, other, isLast, isOther, lastLags⟩ :=
      repeated later (le_refl later) before after lags outcome world isOutcome
    rw [← Operator.binary_eq_binaryBy, ← same] at isOther
    have matched : Matches (World.Alike forged 0) (Operator.cached next site left right after)
        (Operator.binary next rightSite.kind left right after) :=
      Operator.matches_cached oblivious lags.rightAlike isClean isRight
    rw [isOther] at matched
    rcases matched.cases with ⟨_, isNone⟩ | ⟨found, cached, evaluated, isCached, isFound, alike⟩
    · cases isNone
    · obtain ⟨rfl, rfl⟩ := Prod.mk.inj (Option.some.inj isFound)
      exact ⟨last, cached, isLast, isCached, lastLags.trans_alike alike.symm⟩

/-- A machine with more invalidations repeats what a machine without shared methods does. -/
theorem repeats_perform {program other : Program Host} (inserts : program.Inserts other)
    (isBlind : Program.IsBlind forged program) (depth : Nat) :
    (Judgement.lagging Host forged).Performs (performUnshared program depth)
        (perform other (depth + 1)) ∧
      ∀ lead (request : Request), request.IsBlind forged →
        Repeats forged lead (performUnshared program depth request)
          (perform other (depth + 1) request) := by
  have spares : Program.Spares forged other :=
    fun code arguments => (inserts code arguments).spares (isBlind code arguments)
  induction depth with
  | zero =>
      exact ⟨⟨fun _ _ => .exhausted _, fun _ _ _ _ => .exhausted _⟩, fun _ _ _ => .exhausted _⟩
  | succ depth inductionHypothesis =>
      obtain ⟨performs, answers⟩ := inductionHypothesis
      have runs : ∀ {lead : Lead} (name : String) (code : Nat) (arguments : List Value),
          Repeats forged lead (apply program (performUnshared program depth) name code arguments)
            (apply other (perform other (depth + 1)) name code arguments) :=
        fun name code arguments => .noted _ _ _ (Body.repeats_run answers (fun _ => rfl)
          (inserts code arguments) (isBlind code arguments) _)
      have operates : ∀ lead (request : Request), request.IsOperation →
          Repeats forged lead (performUnshared program (depth + 1) request)
            (perform other (depth + 2) request) := by
        intro lead request isOperation
        rw [performUnshared, answerUnshared_of_isOperation program _ isOperation, perform_succ,
          answer_eq_answerBy]
        exact related_answerBy performs (Invocation.bridges_unshared · _) runs request isOperation
      refine ⟨⟨fun request isOperation => operates _ request isOperation,
        fun shows operator left right => ?_⟩, fun lead request isBlindRequest => ?_⟩
      · exact Invocation.related_compare performs shows.resembles (.inr shows.fits) (by decide)
          operator left right
      · cases request with
        | newSite kind => exact repeats_newSite kind
        | cached site left right =>
            exact repeats_cached performs (oblivious_perform spares (depth + 1)) isBlindRequest left
              right program
        | createType name bases attributes => exact repeats_createType name bases attributes
        | setTypeAttribute id name content =>
            exact (Judgement.lagging Host forged).assign id name content
        | deleteTypeAttribute id name => exact (Judgement.lagging Host forged).delete id name
        | setBases id bases =>
            show Repeats forged lead (onRegistry (TypeChange.rebase id bases))
              (onRegistry (TypeChange.rebase id bases))
            rw [TypeChange.rebase_eq]
            exact .changeRegistry (Registry.setBases_advances id bases) (.rebased id bases)
        | invalidate id =>
            show Repeats forged lead (onRegistry (TypeChange.invalidate id))
              (onRegistry (TypeChange.invalidate id))
            rw [TypeChange.invalidate_eq]
            exact .changeRegistry (Registry.invalidate_advances id) (.invalidated id)
        | _ => exact operates lead _ isBlindRequest

end Machine

/-! ### Isolation -/

/-- A request has the same outcome after the same calls when functions of the host invalidate types on
top of what they do, as long as a machine without shared methods has an outcome as well. The worlds
that are left differ in generations, in kept entries, and in plans at call sites only. -/
theorem World.isolated_of_unshared {world : World Host} (reachable : World.Reachable forged world)
    {program other : Program Host} (inserts : program.Inserts other)
    (isBlind : Program.IsBlind forged program) (depth : Nat) {request : Request}
    (isBlindRequest : request.IsBlind forged) {outcome : Except Error request.Reply}
    {next : World Host}
    (isUnshared : performUnshared program depth request world = some (outcome, next)) :
    ∃ first second, perform program (depth + 1) request world = some (outcome, first) ∧
      perform other (depth + 1) request world = some (outcome, second) ∧
      second.journal = first.journal ∧ second.host = first.host ∧ first.Resembles second := by
  have lags := World.Lags.refl reachable.alike
  have insertsNothing : program.Inserts program := fun code arguments => .refl _
  obtain ⟨_, first, _, isFirst, firstLags⟩ :=
    (repeats_perform insertsNothing isBlind depth).2 _ request isBlindRequest _ (le_refl _) world
      world lags outcome next isUnshared
  obtain ⟨_, second, _, isSecond, secondLags⟩ :=
    (repeats_perform inserts isBlind depth).2 _ request isBlindRequest _ (le_refl _) world world lags
      outcome next isUnshared
  refine ⟨first, second, isFirst, isSecond, secondLags.journal.trans firstLags.journal.symm,
    secondLags.host.trans firstLags.host.symm, ?_⟩
  exact firstLags.resembles.symm.trans secondLags.resembles

/-- A class declines sums, and another class adds from the right. A sum of their instances gives the
same result after the same calls when the method that declines invalidates both classes before. -/
theorem World.isolated_of_unshared_pair :
    ∃ (program other : Program Unit) (world : World Unit), World.Reachable (fun _ => True) world ∧
      program.Inserts other ∧ Program.IsBlind (fun _ => True) program ∧
      (∀ arguments, other 1 arguments =
        .ask (.invalidate 13) fun _ => .ask (.invalidate 14) fun _ => program 1 arguments) ∧
      ∃ left right : Value, left.typeId = 13 ∧ right.typeId = 14 ∧
        ∃ outcome next, performUnshared program 3 (.binary .add left right) world =
            some (outcome, next) ∧
          outcome.toOption.bind Value.integer? = some 7 ∧
          ∃ first second, perform program 4 (.binary .add left right) world =
              some (outcome, first) ∧
            perform other 4 (.binary .add left right) world = some (outcome, second) ∧
            second.journal = first.journal ∧ second.host = first.host ∧
            first.Resembles second := by
  let maker : Program Unit := fun _ _ => do
    let forward ← Body.request (.allocate .function (.function "forward" 1) false)
    let reflected ← Body.request (.allocate .function (.function "reflected" 2) false)
    let first ← Body.request (.createType "First" [] ⟨[("__add__", forward)]⟩)
    let second ← Body.request (.createType "Second" [] ⟨[("__radd__", reflected)]⟩)
    let _ ← Body.request (.allocate first .plain true)
    let _ ← Body.request (.allocate second .plain true)
    return .none
  let program : Program Unit := fun code _ =>
    .done (.ok (if code = 1 then .notImplemented else .int 7))
  let other := program.invalidatingBefore 1 [13, 14]
  let left : Value := .object ⟨.allocated 2, 13⟩ .plain
  let right : Value := .object ⟨.allocated 3, 14⟩ .plain
  have inserts : program.Inserts other := program.inserts_invalidatingBefore 1 [13, 14]
  have isBlind : Program.IsBlind (fun _ => True) program := fun _ _ => trivial
  have isMade :
      ((perform maker 2 (.apply "make" 0 []) (.initial .default ())).any fun made =>
        (performUnshared program 3 (.binary .add left right) made.2).any fun answer =>
          answer.1.toOption.bind Value.integer? = some 7) = true := by
    decide +kernel
  obtain ⟨⟨made, world⟩, isOutcome, isTrue⟩ := (Option.any_eq_true _ _).1 isMade
  obtain ⟨⟨outcome, next⟩, isUnshared, isSeven⟩ := (Option.any_eq_true _ _).1 isTrue
  have reachable := World.Reachable.of_outcome isOutcome
  have isBlindSum : (Request.binary .add left right).IsBlind fun _ => True := trivial
  exact ⟨program, other, world, reachable, inserts, isBlind, fun _ => rfl, left, right, rfl, rfl,
    outcome, next, isUnshared, of_decide_eq_true isSeven,
    World.isolated_of_unshared reachable inserts isBlind 3 isBlindSum isUnshared⟩

/-- This is what a finished call ran. -/
def JournalEntry.callable : JournalEntry → Callable
  | .call callable _ _ _ => callable

/-- A class has a forward method that declines and a reflected method that adds, and its two heirs
share the slot. A sum of their instances calls both methods. It fails after the forward method alone
when this method invalidates the class before it declines. -/
theorem World.shared_method_passed_by :
    ∃ (program other : Program Unit) (world : World Unit), World.Reachable (fun _ => True) world ∧
      program.Inserts other ∧ Program.IsBlind (fun _ => True) program ∧
      (∀ arguments, other 1 arguments = .ask (.invalidate 13) fun _ => program 1 arguments) ∧
      (world.registry.definition? 13).isSome = true ∧
      ∃ left right : Value, left.typeId = 14 ∧ right.typeId = 15 ∧
        ((perform program 4 (.binary .add left right) world).map fun answer =>
            (answer.1.toOption.bind Value.integer?, answer.2.journal.map JournalEntry.callable)) =
          some (some 7, [.function "reflected" 2, .function "forward" 1]) ∧
        ∃ next, perform other 4 (.binary .add left right) world =
            some (.error (.unsupportedOperands "+" ["First", "Second"]), next) ∧
          next.journal.map JournalEntry.callable = [.function "forward" 1] := by
  let maker : Program Unit := fun _ _ => do
    let forward ← Body.request (.allocate .function (.function "forward" 1) false)
    let reflected ← Body.request (.allocate .function (.function "reflected" 2) false)
    let base ← Body.request (.createType "Base" []
      ⟨[("__add__", forward), ("__radd__", reflected)]⟩)
    let first ← Body.request (.createType "First" [base] .empty)
    let second ← Body.request (.createType "Second" [base] .empty)
    let _ ← Body.request (.allocate first .plain true)
    let _ ← Body.request (.allocate second .plain true)
    return .none
  let program : Program Unit := fun code _ =>
    .done (.ok (if code = 1 then .notImplemented else .int 7))
  let other := program.invalidatingBefore 1 [13]
  let left : Value := .object ⟨.allocated 2, 14⟩ .plain
  let right : Value := .object ⟨.allocated 3, 15⟩ .plain
  have inserts : program.Inserts other := program.inserts_invalidatingBefore 1 [13]
  have isBlind : Program.IsBlind (fun _ => True) program := fun _ _ => trivial
  have isMade :
      ((perform maker 2 (.apply "make" 0 []) (.initial .default ())).any fun made =>
        let world : World Unit := { made.2 with journal := [], host := () }
        (world.registry.definition? 13).isSome &&
          (((perform program 4 (.binary .add left right) world).map fun answer =>
              (answer.1.toOption.bind Value.integer?,
                answer.2.journal.map JournalEntry.callable)) =
            some (some 7, [.function "reflected" 2, .function "forward" 1]) &&
          (perform other 4 (.binary .add left right) world).any fun answer =>
            failsWith (.unsupportedOperands "+" ["First", "Second"]) answer.1 &&
              answer.2.journal.map JournalEntry.callable = [.function "forward" 1])) = true := by
    decide +kernel
  obtain ⟨⟨made, world⟩, isOutcome, isTrue⟩ := (Option.any_eq_true _ _).1 isMade
  have reachable := (World.Reachable.of_outcome isOutcome).resumed [] ()
  obtain ⟨isRegistered, isTrue⟩ := Bool.and_eq_true_iff.1 isTrue
  obtain ⟨givesSeven, isTrue⟩ := Bool.and_eq_true_iff.1 isTrue
  obtain ⟨⟨answer, next⟩, isAnswer, isTrue⟩ := (Option.any_eq_true _ _).1 isTrue
  obtain ⟨isError, isJournal⟩ := Bool.and_eq_true_iff.1 isTrue
  obtain rfl := eq_of_failsWith isError
  exact ⟨program, other, _, reachable, inserts, isBlind, fun _ => rfl, isRegistered, left, right, rfl,
    rfl, of_decide_eq_true givesSeven, next, isAnswer, of_decide_eq_true isJournal⟩

end SlotDispatch
