import SlotDispatch.Proofs.Machine.Uniform
/-!
The depth of a machine. The main statement says that a deeper machine gives the same answers, so that
the answer to a request does not depend on the depth that it is found with.
-/

namespace SlotDispatch

open SlotDispatch.Action SlotDispatch.Machine

variable {Host State Result Next : Type}

/-- The second action extends the first one when it has the same outcome wherever the first one has
any. -/
def Action.Extends (first second : Action State Result) : Prop :=
  ∀ state answer, first state = some answer → second state = some answer

namespace Action.Extends

theorem refl (action : Action State Result) : Extends action action :=
  fun _ _ isAnswer => isAnswer

theorem bind {first other : Action State Result} {second continued : Result → Action State Next}
    (isExtended : Extends first other)
    (isExtendedLater : ∀ result, Extends (second result) (continued result)) :
    Extends (first >>= second) (other >>= continued) := by
  intro state answer isAnswer
  rw [bind_apply] at isAnswer ⊢
  rcases isFirst : first state with _ | ⟨error | result, middle⟩ <;> rw [isFirst] at isAnswer
  · cases isAnswer
  · rw [isExtended _ _ isFirst]
    exact isAnswer
  · rw [isExtended _ _ isFirst]
    exact isExtendedLater result middle answer isAnswer

theorem attempt {first second : Action State Result} (isExtended : Extends first second) :
    Extends (Action.attempt first) (Action.attempt second) := by
  intro state answer isAnswer
  obtain ⟨outcome, isOutcome, rfl⟩ := Option.map_eq_some_iff.1 isAnswer
  rw [Action.attempt, isExtended _ _ isOutcome]
  rfl

theorem noted (callable : Callable) (arguments : List Value) (toValue : Result → Value)
    {first second : Action (World Host) Result} (isExtended : Extends first second) :
    Extends (Action.noted callable arguments toValue first)
      (Action.noted callable arguments toValue second) := by
  intro world answer isAnswer
  obtain ⟨outcome, isOutcome, rfl⟩ := Option.map_eq_some_iff.1 isAnswer
  rw [Action.noted, isExtended _ _ isOutcome]
  rfl

end Action.Extends

/-! ### Answers -/

/-- What one answer extends, another one does that asks it. -/
def UniformRules.extends (Host : Type) : UniformRules Host where
  Relates first second := Action.Extends first second
  pure _ := .refl _
  bind isExtended isExtendedLater := isExtended.bind isExtendedLater
  fail _ := .refl _
  attempt isExtended := isExtended.attempt
  noted callable arguments toValue isExtended := isExtended.noted callable arguments toValue
  consult related := fun world => related world world ⟨rfl, rfl, .refl _⟩ world
  reading _ _ := .refl _
  changeHeap _ _ := .refl _
  changeSites _ := .refl _
  changeHost _ := .refl _
  entryOf _ := .refl _
  changeTypes _ _ _ := .refl _

/-- A deeper machine gives the same answers. -/
theorem Machine.perform_extends (program : Program Host) {depth deeper : Nat}
    (isDeeper : depth ≤ deeper) (request : Request) :
    Extends (perform program depth request) (perform program deeper request) := by
  induction depth generalizing deeper request with
  | zero => exact fun _ _ isAnswer => nomatch isAnswer
  | succ depth inductionHypothesis =>
      obtain ⟨deeper, rfl⟩ : ∃ less, deeper = less + 1 :=
        ⟨deeper - 1, by omega⟩
      exact (UniformRules.extends Host).answers
        (fun request => inductionHypothesis (Nat.le_of_succ_le_succ isDeeper) request) program request

/-- A machine answers a request when a machine of some depth does. -/
def World.Answers (program : Program Host) (request : Request) (world : World Host)
    (outcome : Except Error request.Reply) (next : World Host) : Prop :=
  ∃ depth, perform program depth request world = some (outcome, next)

/-- A request has one answer at most. -/
theorem World.Answers.unique {program : Program Host} {request : Request} {world next other : World Host}
    {outcome otherOutcome : Except Error request.Reply}
    (left : world.Answers program request outcome next)
    (right : world.Answers program request otherOutcome other) :
    outcome = otherOutcome ∧ next = other := by
  obtain ⟨depth, isLeft⟩ := left
  obtain ⟨otherDepth, isRight⟩ := right
  have isLeft := perform_extends program (Nat.le_max_left depth otherDepth) request world _ isLeft
  have isRight := perform_extends program (Nat.le_max_right depth otherDepth) request world _ isRight
  exact Prod.mk.inj (Option.some.inj (isLeft.symm.trans isRight))

end SlotDispatch
