import SlotDispatch.Proofs.Machine.Hierarchy
import SlotDispatch.Proofs.Machine.Perform
/-!
Uniform rules. A relation between the actions of two runs has uniform rules when both runs find equal
entries, and when there are rules for what a machine remembers as well. The main statement says that
such a relation holds of all answers of two machines when it holds of all answers of the machines that
they ask.
-/

namespace SlotDispatch

open SlotDispatch.Action SlotDispatch.Machine

variable {Host Result : Type}

/-- The operation of a power may be invoked with a third operand and without one. -/
theorem SlotKind.power_shapes_subset (third : Value) :
    SlotKind.power.shapes ⊆ if third.isNone then [.binary, .ternary] else [.ternary] := by
  split <;> decide

/-- Uniform rules say that a relation between actions holds of all that a machine does: it sequences
actions, it reads the world, it changes objects, call sites, and the state of the host, and it reads
and changes types. -/
structure UniformRules (Host : Type) where
  Relates {Result : Type} (first second : Action (World Host) Result) : Prop
  pure {Result : Type} (result : Result) : Relates (Pure.pure result) (Pure.pure result)
  bind {Result Next : Type} {first other : Action (World Host) Result}
    {second continued : Result → Action (World Host) Next} (related : Relates first other)
    (relatedLater : ∀ result, Relates (second result) (continued result)) :
    Relates (first >>= second) (other >>= continued)
  fail {Result : Type} (error : Error) :
    Relates (Action.fail error : Action (World Host) Result) (Action.fail error)
  attempt {Result : Type} {first second : Action (World Host) Result} (related : Relates first second) :
    Relates (Action.attempt first) (Action.attempt second)
  noted {Result : Type} {first second : Action (World Host) Result} (callable : Callable)
    (arguments : List Value) (toValue : Result → Value) (related : Relates first second) :
    Relates (Action.noted callable arguments toValue first)
      (Action.noted callable arguments toValue second)
  consult {Result : Type} {first second : World Host → Action (World Host) Result}
    (related : ∀ left right, World.Resembles left right → Relates (first left) (second right)) :
    Relates (current >>= first) (current >>= second)
  reading {Result : Type} (read : World Host → Result)
    (isQuiet : ∀ world journal, read { world with journal := journal } = read world) :
    Relates (Action.reading read) (Action.reading read)
  changeHeap (update : Heap → Heap) (isForward : ∀ heap, Heap.Precedes heap (update heap)) :
    Relates (Action.changeHeap update) (Action.changeHeap update)
  changeSites (update : List CallSite → List CallSite) :
    Relates (change fun world => { world with sites := update world.sites })
      (change fun world => { world with sites := update world.sites })
  changeHost (update : Host → Host) :
    Relates (change fun world => { world with host := update world.host })
      (change fun world => { world with host := update world.host })
  entryOf (id : TypeId) : Relates (Action.entryOf id) (Action.entryOf id)
  changeTypes (program : Program Host) (request : Request)
    (changesTypes : request.changesTypes = true) :
    Relates (perform program 1 request) (perform program 1 request)

/-- Uniform rules make a judgement, under which both runs find equal targets. -/
def UniformRules.judgement (rules : UniformRules Host) : Judgement Host SingleMoment where
  Relates _ first second := rules.Relates first second
  Shows _ _ left right := left = right
  IsLenient := True
  resembles := by
    rintro _ _ _ _ rfl
    exact .refl _
  suits _ := .inl trivial
  exact _ shows := shows.symm
  pure := rules.pure
  bind := rules.bind
  fail _ := rules.fail _
  rescue related onResult onError :=
    rules.bind (rules.attempt related) (Action.related_of_outcome rules.fail onResult onError)
  noted callable arguments toValue related := rules.noted callable arguments toValue related
  consult := rules.consult
  changeHeap := rules.changeHeap
  assign id name content :=
    rules.changeTypes (fun _ _ => .done (.ok .none)) (.setTypeAttribute id name content) rfl
  delete id name :=
    rules.changeTypes (fun _ _ => .done (.ok .none)) (.deleteTypeAttribute id name) rfl
  entryOf id := fun related => rules.bind (rules.entryOf id) fun entry =>
    related .now trivial entry entry ⟨rfl, rfl, fun _ => rfl⟩
  withEntries left right third? := fun related =>
    Action.related_withEntries
      (fun id _ _ related => rules.bind (rules.entryOf id) fun entry => related entry trivial)
      left right third? fun leftEntry rightEntry thirdFound? _ =>
        related .now trivial leftEntry rightEntry thirdFound? leftEntry rightEntry thirdFound?
          ⟨rfl, rfl, fun _ => rfl⟩ ⟨rfl, rfl, fun _ => rfl⟩
          fun _ => Plan.shows_ternary fun _ _ => rfl

namespace UniformRules

variable (rules : UniformRules Host) {first second : Perform Host}

/-- Two perform functions are related when all their answers are. -/
def RelatesAll (first second : Perform Host) : Prop :=
  ∀ request, rules.Relates (first request) (second request)

theorem ofExcept (outcome : Except Error Result) :
    rules.Relates (Action.ofExcept outcome) (Action.ofExcept outcome) := by
  cases outcome with
  | ok result => exact rules.pure result
  | error error => exact rules.fail error

theorem definition (id : TypeId) : rules.Relates (Action.definition id) (Action.definition id) :=
  rules.bind (rules.reading (fun world => world.registry.require id) fun _ _ => rfl) rules.ofExcept

/-- A call site remembers a plan, or it makes one and records it. -/
theorem planAt (site : Nat) (callSite : CallSite) (left right : Value) :
    rules.Relates (Operator.planAt site callSite left right)
      (Operator.planAt site callSite left right) := by
  have probes : rules.Relates (Operator.probe left right) (Operator.probe left right) :=
    rules.bind (rules.definition left.typeId) fun _ =>
      rules.bind (rules.definition right.typeId) fun _ => rules.pure _
  have records : ∀ key plan, rules.Relates
      (Action.reading (fun world => world.configuration.inlineCacheCapacity) >>= fun capacity =>
        Operator.recordAt site key plan capacity >>= fun _ => Pure.pure plan)
      (Action.reading (fun world => world.configuration.inlineCacheCapacity) >>= fun capacity =>
        Operator.recordAt site key plan capacity >>= fun _ => Pure.pure plan) := fun key plan =>
    rules.bind (rules.reading _ fun _ _ => rfl) fun capacity =>
      rules.bind (rules.changeSites _) fun _ => rules.pure plan
  refine rules.bind probes fun key => ?_
  cases callSite.lookup key with
  | some plan => exact rules.pure plan
  | none =>
      exact rules.bind (rules.entryOf left.typeId) fun leftEntry =>
        rules.bind (rules.entryOf right.typeId) fun rightEntry => records _ _

section Related

variable {rules} (related : rules.RelatesAll first second)

include related

theorem performs : rules.judgement.Performs first second where
  ask request _ := related request
  invokeCompare shows operator left right := by
    obtain rfl := shows
    exact related (.invokeCompare _ operator left right)

theorem bridges {moment : SingleMoment} {kind : SlotKind} {target other : SlotTarget}
    (shows : rules.judgement.Shows moment kind target other) :
    Invocation.Bridges rules.judgement moment (Invocation.sharedReflected first)
      (Invocation.sharedReflected second) target other :=
  Invocation.bridges_of_exact (performs related) Eq.symm shows.symm

theorem run (body : Body Host Result) : rules.Relates (body.run first) (body.run second) := by
  induction body with
  | done outcome => exact rules.ofExcept outcome
  | ask request resume inductionHypothesis =>
      exact rules.bind (rules.attempt (related request)) inductionHypothesis
  | consult update resume inductionHypothesis =>
      have consults : rules.Relates
          (Action.reading World.host >>= fun host =>
            change (fun world => { world with host := update world.host }) >>= fun _ =>
              (resume host).run first)
          (Action.reading World.host >>= fun host =>
            change (fun world => { world with host := update world.host }) >>= fun _ =>
              (resume host).run second) :=
        rules.bind (rules.reading World.host fun _ _ => rfl) fun host =>
          rules.bind (rules.changeHost update) fun _ => inductionHypothesis host
      exact consults

/-- The functions of the host and all builtin operations are related. -/
theorem answers_operation (program : Program Host) (request : Request)
    (isOperation : request.IsOperation) :
    rules.Relates (answer program first request) (answer program second request) := by
  rw [answer_eq_answerBy, answer_eq_answerBy]
  have applies : ∀ name code arguments, rules.Relates (apply program first name code arguments)
      (apply program second name code arguments) := fun name code arguments =>
    rules.noted _ _ _ (run related (program code arguments))
  have answered : rules.judgement.Relates .now
      (answerBy (Invocation.sharedReflected first) program first request)
      (answerBy (Invocation.sharedReflected second) program second request) :=
    related_answerBy (performs related) (bridges related) applies request isOperation
  exact answered

/-- Targets of all kinds are invoked in related ways. -/
theorem sideCall (target : SlotTarget) (side : Side) (left right third : Value) :
    rules.Relates (Invocation.sideCall first target side left right third)
      (Invocation.sideCall second target side left right third) := by
  have invoked : rules.judgement.Relates .now (Invocation.sideCall first target side left right third)
      (Invocation.sideCall second target side left right third) :=
    Invocation.related_sideCall (performs related) (.refl target) (.inl trivial) side left right third
      (SlotKind.power_shapes_subset third)
  exact invoked

theorem ternary (target : SlotTarget) (side : Side) (left right third : Value) :
    rules.Relates (Invocation.ternary first target side left right third)
      (Invocation.ternary second target side left right third) := by
  have shows : rules.judgement.Shows .now .power target target := rfl
  have invoked : rules.judgement.Relates .now (Invocation.ternary first target side left right third)
      (Invocation.ternary second target side left right third) :=
    Invocation.related_ternary (performs related) (.refl target) (.inl trivial) side left right third
      (SlotKind.power_shapes_subset third) (bridges related shows)
  exact invoked

theorem runPlan (left right third : Value) (plan : Plan) :
    rules.Relates (Operator.runPlan first left right third plan)
      (Operator.runPlan second left right third plan) := by
  induction plan with
  | nil => exact rules.pure none
  | cons step rest inductionHypothesis =>
      refine rules.bind (ternary related step.target step.side left right third) fun result => ?_
      split
      · exact inductionHypothesis
      · exact rules.pure _

/-- A call site evaluates its operator with its plans or without them. -/
theorem cached (site : Nat) (left right : Value) :
    rules.Relates (Operator.cached first site left right) (Operator.cached second site left right) := by
  have evaluates : ∀ callSite, rules.Relates
      (Operator.evaluateAt first site callSite left right)
      (Operator.evaluateAt second site callSite left right) := by
    intro callSite
    refine rules.bind (rules.planAt site callSite left right) fun plan =>
      rules.bind (runPlan related left right .none plan) fun result? => ?_
    cases result? with
    | some result => exact rules.pure result
    | none =>
        refine rules.bind (rules.entryOf left.typeId) fun leftEntry =>
          rules.bind (rules.entryOf right.typeId) fun rightEntry => ?_
        change rules.judgement.Relates .now _ _
        exact Operator.related_fallback (performs related) callSite.kind left right
              ⟨rfl, rfl, fun _ => rfl⟩ ⟨rfl, rfl, fun _ => rfl⟩
  have resolves : ∀ callSite capacity, rules.Relates
      (Operator.resolveAt first site callSite capacity left right)
      (Operator.resolveAt second site callSite capacity left right) := by
    intro callSite capacity
    unfold Operator.resolveAt
    split
    · rw [Operator.binary_eq_binaryBy, Operator.binary_eq_binaryBy]
      change rules.judgement.Relates .now _ _
      exact Operator.related_binaryBy (performs related) (bridges related) callSite.kind left right
    · split
      · exact rules.pure _
      · exact evaluates callSite
  let find (world : World Host) : Option CallSite × Nat :=
    (world.sites[site]?, world.configuration.inlineCacheCapacity)
  let evaluate (perform : Perform Host) (found : Option CallSite × Nat) : Action (World Host) Value :=
    found.1.elim (Action.fail (.unknownSite site)) fun callSite =>
      Operator.resolveAt perform site callSite found.2 left right
  have isCached : ∀ perform : Perform Host, Operator.cached perform site left right =
      Action.reading find >>= evaluate perform := by
    intro perform
    simp only [Operator.cached, Action.reading, bind_assoc, pure_bind, find, evaluate]
    congr 1
    funext world
    cases world.sites[site]? <;> rfl
  rw [isCached, isCached]
  refine rules.bind (rules.reading find fun _ _ => rfl) fun found => ?_
  obtain ⟨_ | callSite, capacity⟩ := found
  · exact rules.fail _
  · exact resolves callSite capacity

end Related

/-- A plan is recorded at a call site that exists. -/
theorem recordPlan (site : Nat) (key : CacheKey) (plan : Plan) (capacity : Nat) :
    rules.Relates (recordPlan site key plan capacity) (recordPlan site key plan capacity) := by
  have records : rules.Relates
      (Action.reading (fun world => world.sites.length) >>= fun count =>
        if site < count then Operator.recordAt site key plan capacity
        else Action.fail (.unknownSite site))
      (Action.reading (fun world => world.sites.length) >>= fun count =>
        if site < count then Operator.recordAt site key plan capacity
        else Action.fail (.unknownSite site)) := by
    refine rules.bind (rules.reading _ fun _ _ => rfl) fun count => ?_
    split
    · exact rules.changeSites _
    · exact rules.fail _
  exact records

theorem newSite (kind : SlotKind) : rules.Relates (newSite kind) (newSite kind) := by
  have opens : rules.Relates
      (Action.reading (fun world => world.sites.length) >>= fun count =>
        change (fun world => { world with sites := world.sites ++ [.new kind] }) >>= fun _ =>
          Pure.pure count)
      (Action.reading (fun world => world.sites.length) >>= fun count =>
        change (fun world => { world with sites := world.sites ++ [.new kind] }) >>= fun _ =>
          Pure.pure count) :=
    rules.bind (rules.reading _ fun _ _ => rfl) fun count =>
      rules.bind (rules.changeSites fun sites => sites ++ [.new kind]) fun _ => rules.pure count
  exact opens

/-- Uniform rules relate all answers of two machines when they relate all answers of the machines that
they ask. -/
theorem answers (related : rules.RelatesAll first second)
    (program : Program Host) : rules.RelatesAll (answer program first) (answer program second) := by
  intro request
  cases request with
  | newSite kind => exact rules.newSite kind
  | cached site left right => exact cached related site left right
  | recordPlan site key plan capacity => exact rules.recordPlan site key plan capacity
  | target id kind => exact rules.bind (rules.entryOf id) fun entry => rules.pure (entry.target kind)
  | createType name bases attributes =>
      exact rules.changeTypes program (.createType name bases attributes) rfl
  | setTypeAttribute id name content =>
      exact rules.changeTypes program (.setTypeAttribute id name content) rfl
  | deleteTypeAttribute id name =>
      exact rules.changeTypes program (.deleteTypeAttribute id name) rfl
  | setBases id bases => exact rules.changeTypes program (.setBases id bases) rfl
  | invalidate id => exact rules.changeTypes program (.invalidate id) rfl
  | _ =>
      change rules.judgement.Relates .now _ _
      first
        | exact answers_operation related program _ trivial
        | exact related_invocation (performs related) trivial program _ trivial

/-- Uniform rules relate all answers of a machine of any depth when they relate those of a machine of no
depth. -/
theorem perform (exhausted : ∀ {Result : Type},
      rules.Relates (Action.exhausted : Action (World Host) Result) Action.exhausted)
    (program : Program Host) (depth : Nat) :
    rules.RelatesAll (perform program depth) (perform program depth) := by
  induction depth with
  | zero => exact fun _ => exhausted
  | succ depth inductionHypothesis => exact rules.answers inductionHypothesis program

end UniformRules

end SlotDispatch
