import SlotDispatch.Proofs.Machine.Answer
import SlotDispatch.Proofs.Machine.CallSite
/-!
Machines cannot tell alike worlds apart, as long as their programs forge no plans. The main statements
say that every reachable world is alike itself, so that all kept entries and all plans at call sites
that are not forged are sound there.
-/

namespace SlotDispatch

open SlotDispatch.Action

variable {Host : Type} {forged : Nat → Prop} {known : Nat}

/-! ### Sparing programs -/

/-- A body spares the call sites that are not forged when all its requests do, whatever the replies
and the states of the host are. -/
def Body.Spares (forged : Nat → Prop) {Result : Type} : Body Host Result → Prop
  | .done _ => True
  | .ask request resume => request.Spares forged ∧ ∀ reply, (resume reply).Spares forged
  | .consult _ resume => ∀ host, (resume host).Spares forged

/-- A program spares the call sites that are not forged when all its bodies do. -/
def Program.Spares (forged : Nat → Prop) (program : Program Host) : Prop :=
  ∀ code arguments, (program code arguments).Spares forged

theorem Body.Spares.bind {Result Next : Type} {body : Body Host Result}
    {second : Result → Body Host Next} (spares : body.Spares forged)
    (sparesLater : ∀ result, (second result).Spares forged) : (body >>= second).Spares forged := by
  induction body with
  | done outcome =>
      cases outcome with
      | ok result => exact sparesLater result
      | error error => trivial
  | ask request resume inductionHypothesis =>
      exact ⟨spares.1, fun reply => inductionHypothesis reply (spares.2 reply)⟩
  | consult update resume inductionHypothesis =>
      exact fun host => inductionHypothesis host (spares host)

/-- Every request spares when all call sites may be forged. -/
theorem Request.spares_of_forall (all : ∀ site, forged site) (request : Request) :
    request.Spares forged := by
  cases request <;> first | exact all _ | trivial

/-- Every program spares when all call sites may be forged. -/
theorem Program.spares_of_forall (all : ∀ site, forged site) (program : Program Host) :
    Program.Spares forged program := by
  intro code arguments
  induction program code arguments with
  | done outcome => trivial
  | ask request resume inductionHypothesis =>
      exact ⟨request.spares_of_forall all, inductionHypothesis⟩
  | consult update resume inductionHypothesis => exact inductionHypothesis

/-! ### Operations of the machine -/

namespace Machine

/-- A new type has the same outcome in two worlds of which one registry is ahead of the other, when the
id that it takes has no lead. -/
theorem createType_cases {left right : World Host} {ahead : TypeId → Nat}
    (isAhead : right.registry = left.registry.advance ahead right.registry.entries)
    (isFresh : ahead left.registry.definitions.length = 0) (name : String) (bases : List TypeId)
    (attributes : Namespace) :
    (∃ error, createType name bases attributes left = some (.error error, left) ∧
        createType name bases attributes right = some (.error error, right)) ∨
      ∃ id next, left.registry.createType name bases attributes = .ok (id, next) ∧
        right.registry.createType name bases attributes =
          .ok (id, next.advance ahead right.registry.entries) ∧
        createType name bases attributes left = some (.ok id, { left with registry := next }) ∧
        createType name bases attributes right = some (.ok id,
          { right with registry := next.advance ahead right.registry.entries }) := by
  have rightOutcome := Registry.createType_advance left.registry ahead right.registry.entries name
    bases attributes isFresh
  rw [← isAhead] at rightOutcome
  simp only [createType, onRegistry, onPart, TypeChange.create_apply]
  cases isCreated : left.registry.createType name bases attributes with
  | error error =>
      rw [rightOutcome, isCreated]
      exact .inl ⟨error, rfl, rfl⟩
  | ok created =>
      rw [rightOutcome, isCreated]
      exact .inr ⟨created.1, created.2, rfl, rfl, rfl, rfl⟩

theorem oblivious_createType (name : String) (bases : List TypeId) (attributes : Namespace) :
    Oblivious Host forged known (createType name bases attributes) := by
  intro left right alike
  rcases createType_cases alike.registry_eq rfl name bases attributes with
    ⟨error, isLeft, isRight⟩ | ⟨id, next, isNext, isOther, isLeft, isRight⟩
  · rw [isLeft, isRight]
    exact .some ⟨rfl, alike⟩
  · rw [isLeft, isRight]
    exact .some ⟨rfl, alike.mutated (.created id name bases attributes isNext)
      (.created id name bases attributes isOther)⟩

theorem oblivious_newSite (kind : SlotKind) :
    Oblivious Host forged known (newSite kind) := by
  intro left right alike
  exact .some ⟨congrArg Except.ok alike.siteCount, alike.addSite kind⟩

theorem oblivious_recordPlan {site : Nat} (isForged : forged site) (key : CacheKey) (plan : Plan)
    (capacity : Nat) : Oblivious Host forged known (recordPlan site key plan capacity) := by
  refine Respects.current_bind fun left right alike => ?_
  rw [alike.siteCount]
  split
  · exact Operator.oblivious_recordAt isForged key plan capacity
  · exact Respects.fail _

end Machine

/-! ### Requests -/

variable {perform : Perform Host} {program : Program Host}

theorem Body.oblivious_run {Result : Type} (oblivious : perform.Oblivious forged known)
    (body : Body Host Result) (spares : body.Spares forged) :
    Oblivious Host forged known (body.run perform) := by
  induction body with
  | done outcome => exact .ofExcept outcome
  | ask request resume inductionHypothesis =>
      exact (Respects.attempt (oblivious request spares.1)).bind fun reply =>
        inductionHypothesis reply (spares.2 reply)
  | consult update resume inductionHypothesis =>
      intro left right alike
      have later := inductionHypothesis left.host (spares left.host) _ _
        (alike.withHost (update left.host))
      simpa only [Body.run, alike.host] using later

theorem Invocation.oblivious_sideCall (oblivious : perform.Oblivious forged known)
    (target : SlotTarget) (side : Side) (left right third : Value) :
    Oblivious Host forged known (sideCall perform target side left right third) :=
  have suits : (Judgement.alike Host forged known).Suits .power target := .inl trivial
  oblivious_of_respects (related_sideCall oblivious.performs (.refl target) suits side left right
    third (by split <;> decide))

namespace Machine

theorem oblivious_apply (spares : Program.Spares forged program)
    (oblivious : perform.Oblivious forged known) (name : String) (code : Nat)
    (arguments : List Value) :
    Oblivious Host forged known (apply program perform name code arguments) :=
  agrees_noted _ _ _ ((program code arguments).oblivious_run oblivious (spares code arguments))

/-- Under a lenient judgement a target is invoked in related ways, whatever it holds and whatever it is
invoked for. -/
theorem related_invocation {Moment : Type} [Preorder Moment] {judgement : Judgement Host Moment}
    {moment : Moment} {first second : Perform Host} (performs : judgement.Performs first second)
    (isLenient : judgement.IsLenient) (program : Program Host) (request : Request)
    (isInvocation : request.IsInvocation) :
    judgement.Relates moment (answer program first request) (answer program second request) := by
  have suits : ∀ kind target, judgement.Suits kind target := fun _ _ => .inl isLenient
  cases request with
  | invokeUnary target operand =>
      exact Invocation.related_unary performs (.refl target) (suits .negative target) (by decide)
        operand
  | invokeTernary target side left right third =>
      exact Invocation.related_ternary performs (.refl target) (suits .power target) side left
        right third (by split <;> decide) (Invocation.bridges_of_exact performs
          (fun shows => judgement.exact isLenient shows) rfl)
  | invokeCompare target operator left right =>
      exact Invocation.related_compare performs (.refl target) (suits .richCompare target)
        (by decide) operator left right
  | invokeLength target operand =>
      exact Invocation.related_length performs (.refl target) (suits .sqLength target) (by decide)
        operand
  | invokeInquiry target operand =>
      exact Invocation.related_inquiry performs (.refl target) (suits .bool target) (by decide)
        operand
  | invokeHash target operand =>
      exact Invocation.related_hash performs (.refl target) (suits .hash target) (by decide) operand
  | invokeSize target operand size =>
      exact Invocation.related_size performs (.refl target) (suits .sqRepeat target) (by decide)
        operand size
  | invokeStore target receiver key content? =>
      exact Invocation.related_store performs (.refl target) (suits .descrSet target) (by decide)
        receiver key content?
  | invokeGetAttribute target value name =>
      exact Invocation.related_getAttribute performs (.refl target) (suits .getAttr target)
        (by decide) value name
  | invokeSetAttribute target value name content? =>
      exact Invocation.related_setAttribute performs (.refl target) (suits .setAttr target)
        (by decide) value name content?
  | invokeDescriptorGet target descriptor instance? owner =>
      exact Invocation.related_descriptorGet performs (.refl target) (suits .descrGet target)
        (by decide) descriptor instance? owner
  | invokeCall target callee arguments =>
      exact Invocation.related_call performs (.refl target) (suits .call target) (by decide) callee
        arguments
  | _ => exact isInvocation.elim

/-- A target is invoked alike in alike worlds, whatever it holds and whatever it is invoked for. -/
theorem oblivious_invocation (oblivious : perform.Oblivious forged known) (request : Request)
    (isInvocation : request.IsInvocation) :
    Oblivious Host forged known (answer program perform request) :=
  oblivious_of_respects (related_invocation oblivious.performs trivial program request isInvocation)

/-- The answer to a sparing request is the same in alike worlds. -/
theorem oblivious_answer (spares : Program.Spares forged program)
    (oblivious : ∀ known, perform.Oblivious forged known) :
    (answer program perform).Oblivious forged known := by
  have here := oblivious known
  have operates : ∀ request : Request, request.IsOperation →
      Oblivious Host forged known (answer program perform request) := by
    intro request isOperation
    rw [answer_eq_answerBy]
    exact oblivious_of_respects (related_answerBy here.performs (Operator.bridges_of_oblivious here)
      (fun name code arguments => oblivious_apply spares here name code arguments) request
      isOperation)
  intro request isSparing
  cases request with
  | newSite kind => exact oblivious_newSite kind
  | cached site left right => exact Operator.oblivious_cached oblivious site left right
  | recordPlan site key plan capacity => exact oblivious_recordPlan isSparing key plan capacity
  | target id kind => exact (oblivious_entryOf id).bind fun entry => .pure (entry.target kind)
  | createType name bases attributes => exact oblivious_createType name bases attributes
  | setTypeAttribute id name content => exact oblivious_setAttribute id name content
  | deleteTypeAttribute id name => exact oblivious_deleteAttribute id name
  | setBases id bases => exact oblivious_setBases id bases
  | invalidate id => exact oblivious_invalidate id
  | _ => first | exact operates _ trivial | exact oblivious_invocation here _ trivial

/-- A machine of any depth cannot tell alike worlds apart. -/
theorem oblivious_perform (spares : Program.Spares forged program) (depth known : Nat) :
    (Machine.perform program depth).Oblivious forged known := by
  induction depth generalizing known with
  | zero => exact fun _ _ => Respects.exhausted
  | succ depth inductionHypothesis => exact oblivious_answer spares inductionHypothesis

end Machine

end SlotDispatch
