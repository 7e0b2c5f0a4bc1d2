import SlotDispatch.Proofs.Machine.Reflected
/-!
Mismatches of shapes. The main statements say that every slot of an entry holds an operation that can
be invoked for the slot, and that an operation on values fails with a mismatch only when a function of
the host has failed with it.
-/

namespace SlotDispatch

open SlotDispatch.Action SlotDispatch.Machine

variable {Host Result Next : Type} {forged : Nat → Prop}

/-! ### Blame -/

/-- A call blames a function of the host for an error when it failed with the error, and it is a call
of a function, or the last call inside it blames one. -/
inductive JournalEntry.Blames (error : Error) : JournalEntry → Prop
  | function (name : String) (code : Nat) (arguments : List Value) (inner : Journal) :
      Blames error (.call (.function name code) arguments (.error error) inner)
  | builtin {operation : Builtin} {arguments : List Value} {last : JournalEntry}
      {earlier : Journal} (blames : Blames error last) :
      Blames error (.call (.builtin operation) arguments (.error error) (last :: earlier))

/-- The calls of a run explain its outcome when the last of them blames a function of the host for
every mismatch. -/
def Journal.Explains (calls : Journal) (outcome : Except Error Result) : Prop :=
  ∀ error, outcome = .error error → error.IsMismatch →
    ∃ last earlier, calls = last :: earlier ∧ last.Blames error

theorem Journal.explains_of_ordinaryIn (calls : Journal) {outcome : Except Error Result}
    (isOrdinary : Error.OrdinaryIn outcome) : Journal.Explains calls outcome := by
  rintro error rfl isMismatch
  exact absurd isOrdinary isMismatch.not_isOrdinary

/-- Earlier calls explain no more and no less. -/
theorem Journal.Explains.append {calls : Journal} {outcome : Except Error Result}
    (explains : Journal.Explains calls outcome) (earlier : Journal) :
    Journal.Explains (calls ++ earlier) outcome := by
  intro error isError isMismatch
  obtain ⟨last, others, rfl, blames⟩ := explains error isError isMismatch
  exact ⟨last, others ++ earlier, rfl, blames⟩

/-! ### Explained actions -/

/-- An action is explained when the calls that it adds to the journal explain its outcome, in every
world that is alike itself. -/
def Action.Explained (forged : Nat → Prop) (action : Action (World Host) Result) : Prop :=
  ∀ world outcome next, World.Alike forged 0 world world → action world = some (outcome, next) →
    World.Alike forged 0 next next ∧ ∃ calls : Journal, next.journal = calls ++ world.journal ∧
      Journal.Explains calls outcome

namespace Action.Explained

/-- An action that makes no call is explained when its errors are ordinary. -/
theorem of_quiet {action : Action (World Host) Result}
    (isQuiet : ∀ world outcome next, World.Alike forged 0 world world →
      action world = some (outcome, next) → World.Alike forged 0 next next ∧
        next.journal = world.journal ∧ Error.OrdinaryIn outcome) : Explained forged action := by
  intro world outcome next alike isOutcome
  obtain ⟨stillAlike, sameJournal, isOrdinary⟩ := isQuiet world outcome next alike isOutcome
  exact ⟨stillAlike, [], sameJournal, Journal.explains_of_ordinaryIn [] isOrdinary⟩

theorem pure (result : Result) :
    Explained forged (Pure.pure result : Action (World Host) Result) := by
  refine of_quiet fun world outcome next alike isOutcome => ?_
  obtain ⟨rfl, rfl⟩ := Prod.mk.inj (Option.some.inj isOutcome)
  exact ⟨alike, rfl, trivial⟩

theorem fail {error : Error} (isOrdinary : error.IsOrdinary) :
    Explained forged (Action.fail error : Action (World Host) Result) := by
  refine of_quiet fun world outcome next alike isOutcome => ?_
  obtain ⟨rfl, rfl⟩ := Prod.mk.inj (Option.some.inj isOutcome)
  exact ⟨alike, rfl, isOrdinary⟩

/-- A first action is explained, and what follows it explains the rest of the outcome. -/
theorem followed {first : Action (World Host) Result} {world middle next : World Host}
    {firstOutcome : Except Error Result} {outcome : Except Error Next}
    (explained : Explained forged first) (alike : World.Alike forged 0 world world)
    (isFirst : first world = some (firstOutcome, middle))
    (goesOn : World.Alike forged 0 middle middle → ∀ calls : Journal,
      Journal.Explains calls firstOutcome → World.Alike forged 0 next next ∧
        ∃ later : Journal, next.journal = later ++ middle.journal ∧
          Journal.Explains (later ++ calls) outcome) :
    World.Alike forged 0 next next ∧ ∃ calls : Journal, next.journal = calls ++ world.journal ∧
      Journal.Explains calls outcome := by
  obtain ⟨middleAlike, calls, isMiddle, explains⟩ := explained world firstOutcome middle alike isFirst
  obtain ⟨nextAlike, later, isNext, explainsAll⟩ := goesOn middleAlike calls explains
  exact ⟨nextAlike, later ++ calls, by rw [isNext, isMiddle, List.append_assoc], explainsAll⟩

theorem bind {first : Action (World Host) Result} {second : Result → Action (World Host) Next}
    (explained : Explained forged first)
    (explainedLater : ∀ result, Explained forged (second result)) :
    Explained forged (first >>= second) := by
  intro world outcome next alike isOutcome
  rw [bind_apply] at isOutcome
  cases isFirst : first world with
  | none =>
      rw [isFirst] at isOutcome
      cases isOutcome
  | some found =>
      obtain ⟨firstOutcome, middle⟩ := found
      rw [isFirst] at isOutcome
      refine explained.followed alike isFirst fun middleAlike calls explains => ?_
      cases firstOutcome with
      | error error =>
          obtain ⟨rfl, rfl⟩ := Prod.mk.inj (Option.some.inj isOutcome)
          exact ⟨middleAlike, [], rfl, fun other isError => explains other (by
            rw [Except.error.inj isError])⟩
      | ok result =>
          obtain ⟨nextAlike, later, isNext, explainsLater⟩ :=
            explainedLater result middle outcome next middleAlike isOutcome
          exact ⟨nextAlike, later, isNext, explainsLater.append calls⟩

/-- An error that is met and raised again is still explained by the last call. -/
theorem rescue {first : Action (World Host) Result}
    {second : Except Error Result → Action (World Host) Next} (explained : Explained forged first)
    (onResult : ∀ result, Explained forged (second (.ok result)))
    (onError : ∀ error, second (.error error) = Action.fail error ∨
      Explained forged (second (.error error))) :
    Explained forged (attempt first >>= second) := by
  intro world outcome next alike isOutcome
  rw [bind_apply, attempt] at isOutcome
  cases isFirst : first world with
  | none =>
      rw [isFirst] at isOutcome
      cases isOutcome
  | some found =>
      obtain ⟨firstOutcome, middle⟩ := found
      rw [isFirst] at isOutcome
      have isSecond : second firstOutcome middle = some (outcome, next) := isOutcome
      refine explained.followed alike isFirst fun middleAlike calls explains => ?_
      have continues : Explained forged (second firstOutcome) →
          World.Alike forged 0 next next ∧ ∃ later : Journal,
            next.journal = later ++ middle.journal ∧ Journal.Explains (later ++ calls) outcome := by
        intro explainedLater
        obtain ⟨nextAlike, later, isNext, explainsLater⟩ :=
          explainedLater middle outcome next middleAlike isSecond
        exact ⟨nextAlike, later, isNext, explainsLater.append calls⟩
      cases firstOutcome with
      | ok result => exact continues (onResult result)
      | error error =>
          rcases onError error with isFailure | explainedLater
          · rw [isFailure] at isSecond
            obtain ⟨rfl, rfl⟩ := Prod.mk.inj (Option.some.inj isSecond)
            exact ⟨middleAlike, [], rfl, fun other isError => explains other (by
              rw [Except.error.inj isError])⟩
          · exact continues explainedLater

/-- A noted call is explained by the calls inside it, or it is a call of a function. -/
theorem noted {callable : Callable} {arguments : List Value} {toValue : Result → Value}
    {call : Action (World Host) Result}
    (keeps : ∀ world outcome next, World.Alike forged 0 world world →
      call world = some (outcome, next) → World.Alike forged 0 next next)
    (blames : ∀ world error next, World.Alike forged 0 world world → world.journal = [] →
      call world = some (.error error, next) → error.IsMismatch →
      JournalEntry.Blames error (.call callable arguments (.error error) next.journal)) :
    Explained forged (Action.noted callable arguments toValue call) := by
  intro world outcome next alike isOutcome
  obtain ⟨⟨found, last⟩, isCall, isNoted⟩ := Option.map_eq_some_iff.1 isOutcome
  obtain ⟨rfl, rfl⟩ := Prod.mk.inj isNoted
  have emptyAlike := alike.withJournal []
  refine ⟨(keeps _ found last emptyAlike isCall).withJournal _,
    [.call callable arguments (found.map toValue) last.journal], rfl, ?_⟩
  rintro error rfl isMismatch
  exact ⟨_, [], rfl, blames _ error last emptyAlike rfl isCall isMismatch⟩

theorem noted_function {name : String} {code : Nat} {arguments : List Value}
    {toValue : Result → Value} {call : Action (World Host) Result}
    (keeps : ∀ world outcome next, World.Alike forged 0 world world →
      call world = some (outcome, next) → World.Alike forged 0 next next) :
    Explained forged (Action.noted (.function name code) arguments toValue call) :=
  noted keeps fun _ _ _ _ _ _ _ => .function name code arguments _

theorem noted_builtin {operation : Builtin} {arguments : List Value} {toValue : Result → Value}
    {call : Action (World Host) Result} (explained : Explained forged call) :
    Explained forged (Action.noted (.builtin operation) arguments toValue call) := by
  refine noted (fun world outcome next alike isOutcome =>
    (explained world outcome next alike isOutcome).1) ?_
  intro world error next alike isEmpty isOutcome isMismatch
  obtain ⟨_, calls, isNext, explains⟩ := explained world (.error error) next alike isOutcome
  obtain ⟨last, earlier, rfl, blames⟩ := explains error rfl isMismatch
  rw [isNext]
  exact .builtin blames

/-- An action that is oblivious and makes no call is explained when its errors are ordinary. -/
theorem of_oblivious {action : Action (World Host) Result}
    (oblivious : Oblivious Host forged 0 action)
    (isQuiet : ∀ world outcome next, action world = some (outcome, next) →
      next.journal = world.journal ∧ Error.OrdinaryIn outcome) : Explained forged action := by
  refine of_quiet fun world outcome next alike isOutcome =>
    ⟨?_, isQuiet world outcome next isOutcome⟩
  have matched := oblivious world world alike
  rw [isOutcome] at matched
  cases matched with
  | some both => exact both.2

theorem current_bind {second : World Host → Action (World Host) Result}
    (explained : ∀ world, Explained forged (second world)) :
    Explained forged (current >>= second) :=
  fun world outcome next alike isOutcome => explained world world outcome next alike isOutcome

theorem changeHeap (update : Heap → Heap) :
    Explained forged (Action.changeHeap update : Action (World Host) Unit) := by
  refine of_oblivious (oblivious_changeHeap update) fun world outcome next isOutcome => ?_
  obtain ⟨rfl, rfl⟩ := Prod.mk.inj (Option.some.inj isOutcome)
  exact ⟨rfl, trivial⟩

theorem changeRegistry {change : Registry → Except Error Registry}
    (advances : Registry.Advances change)
    (isMutation : ∀ {before after}, change before = .ok after → Registry.Mutation before after)
    (isOrdinary : ∀ registry, Error.OrdinaryIn (change registry)) :
    Explained forged (Action.changeRegistry change : Action (World Host) Unit) := by
  refine of_oblivious (oblivious_changeRegistry advances isMutation)
    fun world outcome next isOutcome => ?_
  have ordinary := isOrdinary world.registry
  rcases onRegistry_tryChange_apply change world with
    ⟨error, isError, isApplied⟩ | ⟨registry, reply, _, isApplied⟩
  · obtain ⟨rfl, rfl⟩ := Prod.mk.inj (Option.some.inj (isApplied.symm.trans isOutcome))
    rw [isError] at ordinary
    exact ⟨rfl, ordinary⟩
  · obtain ⟨rfl, rfl⟩ := Prod.mk.inj (Option.some.inj (isApplied.symm.trans isOutcome))
    exact ⟨rfl, trivial⟩

/-- The slots of an entry that was read hold what fits them. -/
theorem entryOf_bind (id : TypeId) {second : SlotEntry → Action (World Host) Result}
    (explained : ∀ entry : SlotEntry, (∀ kind, (entry.target kind).Fits kind) →
      Explained forged (second entry)) : Explained forged (entryOf id >>= second) := by
  intro world outcome next alike isOutcome
  rw [bind_apply] at isOutcome
  cases found : world.registry.definition? id with
  | none =>
      rw [entryOf_of_unregistered alike.coherent found] at isOutcome
      obtain ⟨rfl, rfl⟩ := Prod.mk.inj (Option.some.inj isOutcome)
      exact ⟨alike, [], rfl, Journal.explains_of_ordinaryIn [] (Error.IsOrdinary.unknownType id)⟩
  | some definition =>
      obtain ⟨entry, middle, isEntryOf, isEntry, middleAlike⟩ := entryOf_succeeds alike found
      rw [isEntryOf] at isOutcome
      have later := explained entry isEntry.fits middle outcome next
        (middleAlike.symm.trans middleAlike) isOutcome
      rwa [← middleAlike.journal] at later

end Action.Explained

/-! ### The judgement of explained actions -/

theorem Registry.ordinaryIn_setAttribute (registry : Registry) (id : TypeId) (name : String)
    (content : Value) : Error.OrdinaryIn (registry.setAttribute id name content) := by
  unfold setAttribute require TypeDefinition.ensureMutable
  cases registry.definition? id with
  | none => exact Error.IsOrdinary.unknownType id
  | some definition =>
      show Error.OrdinaryIn (bind (if definition.isImmutable then _ else _) _)
      split
      · exact Error.IsOrdinary.immutableType _ _
      · trivial

theorem Registry.ordinaryIn_deleteAttribute (registry : Registry) (id : TypeId) (name : String) :
    Error.OrdinaryIn (registry.deleteAttribute id name) := by
  unfold deleteAttribute require TypeDefinition.ensureMutable
  cases registry.definition? id with
  | none => exact Error.IsOrdinary.unknownType id
  | some definition =>
      show Error.OrdinaryIn (bind (if definition.isImmutable then _ else _) _)
      split
      · exact Error.IsOrdinary.immutableType _ _
      · show Error.OrdinaryIn (if definition.attributes.contains name then _ else _)
        split
        · trivial
        · exact Error.IsOrdinary.typeAttributeMissing _ _

/-- The first of two actions is explained, and the targets that are shown fit their slots. -/
def Judgement.explained (Host : Type) (forged : Nat → Prop) :
    Judgement Host SingleMoment where
  Relates _ first _ := first.Explained forged
  Shows _ kind left right := right = left ∧ left.Fits kind
  IsLenient := False
  resembles := by
    rintro _ _ _ _ ⟨rfl, _⟩
    exact .refl _
  suits shows := .inr shows.2
  exact _ shows := shows.1
  pure result := .pure result
  bind explained explainedLater := explained.bind explainedLater
  fail isAllowed := .fail (isAllowed.resolve_left id)
  rescue explained onResult onError := explained.rescue onResult fun error =>
    (onError error).imp_left And.left
  noted callable arguments toValue explained :=
    match callable with
    | .builtin _ => .noted_builtin explained
    | .function name code => .noted_function fun world outcome next alike isOutcome =>
        (explained world outcome next alike isOutcome).1
  consult related := .current_bind fun world => related world world ⟨rfl, rfl, .refl _⟩
  changeHeap update _ := .changeHeap update
  assign id name content := by
    rw [TypeChange.assign_eq]
    exact .changeRegistry (Registry.setAttribute_advances id name content)
      (.assigned id name content) fun registry => registry.ordinaryIn_setAttribute id name content
  delete id name := by
    rw [TypeChange.delete_eq]
    exact .changeRegistry (Registry.deleteAttribute_advances id name) (.deleted id name)
      fun registry => registry.ordinaryIn_deleteAttribute id name
  entryOf id := fun related => .entryOf_bind id fun entry fits =>
    related .now trivial entry entry ⟨rfl, rfl, fun kind => ⟨rfl, fits kind⟩⟩
  withEntries left right third? := fun related => by
    have shows : ∀ entry : SlotEntry, (∀ kind, (entry.target kind).Fits kind) →
        SlotEntry.Shows (fun kind left right => right = left ∧ left.Fits kind) entry entry :=
      fun entry fits => ⟨rfl, rfl, fun kind => ⟨rfl, fits kind⟩⟩
    have steps : ∀ (leftEntry rightEntry : SlotEntry) (third? : Option SlotEntry),
        (∀ entry ∈ leftEntry :: rightEntry :: third?.toList, ∀ kind,
          (entry.target kind).Fits kind) → ∀ kind : SlotKind,
        List.Forall₂ (PlanStep.Shows fun left right => right = left ∧ left.Fits kind)
          (Plan.ternary kind leftEntry rightEntry third?)
          (Plan.ternary kind leftEntry rightEntry third?) :=
      fun _ _ _ fits kind => Plan.shows_ternary fun entry isEntry => ⟨rfl, fits entry isEntry kind⟩
    refine .entryOf_bind left fun leftEntry leftFits => ?_
    refine .entryOf_bind right fun rightEntry rightFits => ?_
    cases third? with
    | none =>
        exact related .now trivial leftEntry rightEntry none leftEntry rightEntry none
          (shows leftEntry leftFits) (shows rightEntry rightFits)
          (steps leftEntry rightEntry none (by simp [leftFits, rightFits]))
    | some third =>
        refine .entryOf_bind third fun thirdEntry thirdFits => ?_
        exact related .now trivial leftEntry rightEntry (some thirdEntry) leftEntry rightEntry
          (some thirdEntry) (shows leftEntry leftFits) (shows rightEntry rightFits)
          (steps leftEntry rightEntry (some thirdEntry) (by simp [leftFits, rightFits, thirdFits]))

/-! ### Machines -/

/-- A machine of any depth explains its answers to operations. -/
theorem Machine.performs_explained {program : Program Host} (spares : Program.Spares forged program)
    (depth : Nat) : (Judgement.explained Host forged).Performs (perform program depth)
      (perform program depth) := by
  induction depth with
  | zero =>
      have isExplained : ∀ Result : Type,
          Explained forged (exhausted : Action (World Host) Result) := fun _ _ _ _ _ isOutcome =>
        nomatch isOutcome
      exact ⟨fun _ _ => isExplained _, fun _ _ _ _ => isExplained _⟩
  | succ depth performs =>
      constructor
      · intro moment request isOperation
        have bridges : ∀ {moment : SingleMoment} {kind target other},
            (Judgement.explained Host forged).Shows moment kind target other →
            Invocation.Bridges (Judgement.explained Host forged) moment
              (Invocation.sharedReflected (perform program depth))
              (Invocation.sharedReflected (perform program depth)) target other := fun shows =>
          Invocation.bridges_of_exact performs (fun shows => shows.1) shows.1
        have runs : ∀ (name : String) (code : Nat) (arguments : List Value),
            Explained forged (apply program (perform program depth) name code arguments) := by
          intro name code arguments
          refine .noted_function fun world outcome next alike isOutcome => ?_
          have matched := (program code arguments).oblivious_run (oblivious_perform spares depth 0)
            (spares code arguments) world world alike
          rw [isOutcome] at matched
          cases matched with
          | some both => exact both.2
        rw [perform_succ, answer_eq_answerBy]
        exact related_answerBy performs bridges (fun name code arguments =>
          runs name code arguments) request isOperation
      · intro moment target other shows operator left right
        have compares : (Judgement.explained Host forged).Relates moment
            (Invocation.compare (perform program depth) target operator left right)
            (Invocation.compare (perform program depth) target operator left right) :=
          Invocation.related_compare performs (.refl target) (.inr shows.2) (by decide) operator
            left right
        exact compares

section Blames

variable {world : World Host} {program : Program Host} (spares : Program.Spares forged program)
  (depth : Nat) (alike : World.Alike forged 0 world world)

include spares alike

theorem Machine.blames_of_isOperation {request : Request} (isOperation : request.IsOperation)
    {error : Error} {next : World Host}
    (isOutcome : perform program depth request world = some (.error error, next))
    (isMismatch : error.IsMismatch) :
    ∃ last earlier, next.journal = last :: earlier ++ world.journal ∧ last.Blames error := by
  have isExplained : (Judgement.explained Host forged).Relates .now
      (perform program depth request) (perform program depth request) :=
    (performs_explained spares depth).ask request isOperation
  obtain ⟨_, calls, isJournal, explains⟩ := isExplained world _ next alike isOutcome
  obtain ⟨last, earlier, rfl, isBlamed⟩ := explains error rfl isMismatch
  exact ⟨last, earlier, isJournal, isBlamed⟩

/-- A clean call site fails as its operator does without a call site. -/
theorem Machine.blames_of_cached {site : Nat} (isClean : ¬ forged site) {left right : Value}
    {error : Error} {next : World Host}
    (isOutcome : perform program depth (.cached site left right) world = some (.error error, next))
    (isMismatch : error.IsMismatch) :
    ∃ last earlier, next.journal = last :: earlier ++ world.journal ∧ last.Blames error := by
  cases depth with
  | zero => cases isOutcome
  | succ depth =>
      cases isSite : world.sites[site]? with
      | none =>
          have isUnknown := Operator.cached_of_unknown (perform program depth) isSite left right
          obtain ⟨isError, _⟩ := Prod.mk.inj (Option.some.inj (isOutcome.symm.trans isUnknown))
          obtain rfl := Except.error.inj isError
          exact absurd (.unknownSite site) isMismatch.not_isOrdinary
      | some callSite =>
          have matched : Matches (World.Alike forged 0)
              (perform program (depth + 1) (.cached site left right) world)
              (perform program (depth + 1) (.binary callSite.kind left right) world) :=
            Operator.matches_cached (oblivious_perform spares depth) alike isClean isSite
          rcases matched.cases with ⟨isNone, _⟩ | ⟨_, _, other, isCached, isBinary, stillAlike⟩
          · cases isOutcome.symm.trans isNone
          · obtain ⟨rfl, rfl⟩ := Prod.mk.inj (Option.some.inj (isOutcome.symm.trans isCached))
            have isOperation : (Request.binary callSite.kind left right).IsOperation := trivial
            rw [stillAlike.journal]
            exact blames_of_isOperation spares (depth + 1) alike isOperation isBinary isMismatch

end Blames

/-- Every slot of an entry holds overrides for the slot over an operation that can be invoked for it.
An operation on values fails with a mismatch only when the last call that it made failed with the very
error, in a function of the host. So does an operator at a call site that was never given a forged
plan. -/
theorem World.mismatch_blames_function {world : World Host}
    (reachable : World.Reachable forged world) :
    (∀ id definition, world.registry.definition? id = some definition →
      (entryOf id).Succeeds world fun entry _ => ∀ kind, (entry.target kind).Fits kind ∧
        ∀ operation, (entry.target kind).operation? = some operation →
          operation.shape ∈ kind.shapes) ∧
    ∀ program : Program Host, Program.Spares forged program → ∀ depth request,
      (request.IsOperation ∨ ∃ site left right, ¬ forged site ∧ request = .cached site left right) →
      ∀ error next, perform program depth request world = some (.error error, next) →
        error.IsMismatch →
        ∃ last earlier, next.journal = last :: earlier ++ world.journal ∧ last.Blames error := by
  have alike := reachable.alike
  constructor
  · intro id definition found
    refine (entryOf_succeeds alike found).mono fun entry _ ⟨isEntry, _⟩ kind => ?_
    refine ⟨isEntry.fits kind, fun operation isOperation => ?_⟩
    rw [← (isEntry.fits kind).kind_of_operation? isOperation]
    exact operation.shape_mem_shapes
  · rintro program spares depth request (isOperation | ⟨site, left, right, isClean, rfl⟩) error next
      isOutcome isMismatch
    · exact Machine.blames_of_isOperation spares depth alike isOperation isOutcome isMismatch
    · exact Machine.blames_of_cached spares depth alike isClean isOutcome isMismatch

/-- A class adds its instances by a function that negates an integer through the addition of integers.
A call site that adds two instances fails with the mismatch of that function. -/
theorem World.mismatch_blames_function_meter :
    ∃ (program : Program Unit) (world : World Unit), World.Reachable (fun _ => False) world ∧
      ∃ meter : Value, meter.typeId = 13 ∧
        (∃ definition, world.registry.definition? 13 = some definition ∧
          (entryOf 13).Succeeds world fun entry _ => ∀ kind, (entry.target kind).Fits kind ∧
            ∀ operation, (entry.target kind).operation? = some operation →
              operation.shape ∈ kind.shapes) ∧
        ∃ error next, perform program 4 (.cached 0 meter meter) world = some (.error error, next) ∧
          error.IsMismatch ∧
          ∃ last earlier, next.journal = last :: earlier ++ world.journal ∧ last.Blames error := by
  let program : Program Unit := fun code _ =>
    match code with
    | 0 => do
        let function ← Body.request (.allocate .function (.function "add" 1) false)
        let meter ← Body.request (.createType "Meter" [] ⟨[("__add__", function)]⟩)
        let _ ← Body.request (.newSite .add)
        Body.request (.newInstance meter [])
    | _ => Body.request (.invokeUnary (.builtin .intAdd) (.int 1))
  let meter : Value := .object ⟨.allocated 1, 13⟩ .plain
  have spares : Program.Spares (fun _ => False) program := by
    intro code arguments
    cases code with
    | zero =>
        exact .bind ⟨trivial, fun _ => trivial⟩ fun _ => .bind ⟨trivial, fun _ => trivial⟩
          fun _ => .bind ⟨trivial, fun _ => trivial⟩ fun _ => ⟨trivial, fun _ => trivial⟩
    | succ code => exact ⟨trivial, fun _ => trivial⟩
  have isMade :
      ((perform program 3 (.apply "make" 0 []) (.initial .default ())).any fun made =>
        (made.2.registry.definition? 13).isSome &&
          (perform program 4 (.cached 0 meter meter) made.2).any fun answer =>
            failsWith (.shapeMismatch Builtin.intAdd.name Builtin.intAdd.shape.name
              SlotKind.add.name) answer.1) = true := by
    decide +kernel
  obtain ⟨⟨made, world⟩, isOutcome, isTrue⟩ := (Option.any_eq_true _ _).1 isMade
  obtain ⟨isFound, fails⟩ := Bool.and_eq_true_iff.1 isTrue
  obtain ⟨definition, found⟩ := Option.isSome_iff_exists.1 isFound
  obtain ⟨⟨answer, next⟩, isAnswer, fails⟩ := (Option.any_eq_true _ _).1 fails
  obtain rfl := eq_of_failsWith fails
  have isSparing : (Request.apply "make" 0 []).Spares (fun _ => False) := trivial
  have reachable : World.Reachable (fun _ => False) world :=
    .answered (.initial .default ()) spares isSparing isOutcome
  have isMismatch : (Error.shapeMismatch Builtin.intAdd.name Builtin.intAdd.shape.name
      SlotKind.add.name).IsMismatch := ⟨.intAdd, .add, rfl⟩
  obtain ⟨fits, blames⟩ := World.mismatch_blames_function reachable
  exact ⟨program, world, reachable, meter, rfl, ⟨definition, found, fits 13 definition found⟩, _,
    next, isAnswer, isMismatch,
    blames program spares 4 _ (.inr ⟨0, meter, meter, not_false, rfl⟩) _ next isAnswer isMismatch⟩

end SlotDispatch
