import Mathlib.Data.Option.Basic
import SlotDispatch.Machine.Action
/-!
Two ways to reason about actions. An action succeeds when it gives a result that fits a postcondition.
Two actions agree up to a relation when they have the same outcome in related states and leave related
states, and an action respects a relation when it agrees with itself.
-/

namespace SlotDispatch.Action

variable {State Result Next : Type}

/-! ### Success -/

/-- An action succeeds in a state when it gives a result, and the result and the state that it leaves
fit a postcondition. -/
def Succeeds (action : Action State Result) (state : State) (fits : Result → State → Prop) : Prop :=
  ∃ result next, action state = some (.ok result, next) ∧ fits result next

theorem Succeeds.pure {result : Result} {state : State} {fits : Result → State → Prop}
    (isFit : fits result state) : Succeeds (Pure.pure result) state fits :=
  ⟨result, state, rfl, isFit⟩

theorem Succeeds.bind {first : Action State Result} {second : Result → Action State Next}
    {state : State} {between : Result → State → Prop} {fits : Next → State → Prop}
    (succeeds : Succeeds first state between)
    (continues : ∀ result middle, between result middle → Succeeds (second result) middle fits) :
    Succeeds (first >>= second) state fits := by
  obtain ⟨result, middle, isFirst, isBetween⟩ := succeeds
  obtain ⟨last, next, isSecond, isFit⟩ := continues result middle isBetween
  exact ⟨last, next, by rw [bind_apply, isFirst]; exact isSecond, isFit⟩

theorem Succeeds.mono {action : Action State Result} {state : State}
    {fits weaker : Result → State → Prop} (succeeds : Succeeds action state fits)
    (implies : ∀ result next, fits result next → weaker result next) :
    Succeeds action state weaker := by
  obtain ⟨result, next, isOutcome, isFit⟩ := succeeds
  exact ⟨result, next, isOutcome, implies result next isFit⟩

/-- A sequence of two actions gives a result when both of them do. -/
theorem exists_of_bind_ok {first : Action State Result} {second : Result → Action State Next}
    {state left : State} {result : Next}
    (isOutcome : (first >>= second) state = some (.ok result, left)) :
    ∃ found middle, first state = some (.ok found, middle) ∧
      second found middle = some (.ok result, left) := by
  rw [bind_apply] at isOutcome
  rcases isFirst : first state with _ | ⟨error | found, middle⟩ <;> rw [isFirst] at isOutcome
  · cases isOutcome
  · cases isOutcome
  · exact ⟨found, middle, rfl, isOutcome⟩

section Primitive

variable {state : State} {fits : Next → State → Prop}

theorem Succeeds.current_bind {second : State → Action State Next}
    (continues : Succeeds (second state) state fits) : Succeeds (current >>= second) state fits :=
  continues

theorem Succeeds.change_bind {update : State → State} {second : Unit → Action State Next}
    (continues : Succeeds (second ()) (update state) fits) :
    Succeeds (change update >>= second) state fits :=
  continues

theorem Succeeds.ofExcept_bind {outcome : Except Error Result} {result : Result}
    {second : Result → Action State Next} (isOk : outcome = .ok result)
    (continues : Succeeds (second result) state fits) :
    Succeeds (ofExcept outcome >>= second) state fits := by
  subst isOk
  exact continues

end Primitive

/-! ### Relations between the state before and the state after -/

/-- An action follows a relation when it leaves every state in a state that is related to it, whatever
its outcome is. -/
def Follows (related : State → State → Prop) (action : Action State Result) : Prop :=
  ∀ state outcome next, action state = some (outcome, next) → related state next

theorem Follows.pure {related : State → State → Prop} (reflexive : ∀ state, related state state)
    (result : Result) : Follows related (Pure.pure result : Action State Result) := by
  intro state outcome next isOutcome
  obtain ⟨_, rfl⟩ := Prod.mk.inj (Option.some.inj isOutcome)
  exact reflexive state

theorem Follows.ofExcept {related : State → State → Prop} (reflexive : ∀ state, related state state)
    (outcome : Except Error Result) :
    Follows related (Action.ofExcept outcome : Action State Result) := by
  intro state found next isOutcome
  cases outcome <;> obtain ⟨_, rfl⟩ := Prod.mk.inj (Option.some.inj isOutcome) <;> exact reflexive state

theorem Follows.current_bind {related : State → State → Prop} {second : State → Action State Result}
    (follows : ∀ state, Follows related (second state)) :
    Follows related (current >>= second) :=
  fun state => follows state state

theorem Follows.bind {related : State → State → Prop}
    (transitive : ∀ {before middle after}, related before middle → related middle after →
      related before after)
    {first : Action State Result} {second : Result → Action State Next}
    (follows : Follows related first) (followsLater : ∀ result, Follows related (second result)) :
    Follows related (first >>= second) := by
  intro state outcome next isOutcome
  rw [bind_apply] at isOutcome
  cases isFirst : first state with
  | none =>
      rw [isFirst] at isOutcome
      cases isOutcome
  | some found =>
      obtain ⟨firstOutcome, middle⟩ := found
      have isRelated := follows state firstOutcome middle isFirst
      rw [isFirst] at isOutcome
      cases firstOutcome with
      | error error =>
          obtain ⟨_, rfl⟩ := Prod.mk.inj (Option.some.inj isOutcome)
          exact isRelated
      | ok result => exact transitive isRelated (followsLater result middle outcome next isOutcome)

/-! ### Agreement up to a relation -/

/-- Two outcomes match when both are missing, or when they are the same and leave related states. -/
abbrev Matches (related : State → State → Prop) :
    Option (Except Error Result × State) → Option (Except Error Result × State) → Prop :=
  Option.Rel fun left right => left.1 = right.1 ∧ related left.2 right.2

theorem Matches.cases {related : State → State → Prop}
    {left right : Option (Except Error Result × State)} (matched : Matches related left right) :
    (left = none ∧ right = none) ∨ ∃ outcome before after,
      left = some (outcome, before) ∧ right = some (outcome, after) ∧ related before after := by
  cases matched with
  | none => exact .inl ⟨rfl, rfl⟩
  | @some first second both =>
      obtain ⟨outcome, before⟩ := first
      obtain ⟨_, after⟩ := second
      obtain ⟨rfl, isRelated⟩ := both
      exact .inr ⟨outcome, before, after, rfl, rfl, isRelated⟩

theorem Matches.mono {related weaker : State → State → Prop}
    {left right : Option (Except Error Result × State)} (matched : Matches related left right)
    (implies : ∀ before after, related before after → weaker before after) :
    Matches weaker left right := by
  cases matched with
  | none => exact .none
  | some both => exact .some ⟨both.1, implies _ _ both.2⟩

theorem Matches.symm {related : State → State → Prop}
    (symmetric : ∀ {before after}, related before after → related after before)
    {left right : Option (Except Error Result × State)} (matched : Matches related left right) :
    Matches related right left := by
  cases matched with
  | none => exact .none
  | some both => exact .some ⟨both.1.symm, symmetric both.2⟩

theorem Matches.trans {related : State → State → Prop}
    (transitive : ∀ {before middle after}, related before middle → related middle after →
      related before after)
    {left middle right : Option (Except Error Result × State)}
    (first : Matches related left middle) (second : Matches related middle right) :
    Matches related left right := by
  cases first with
  | none =>
      cases second with
      | none => exact .none
  | some leftBoth =>
      cases second with
      | some rightBoth =>
          exact .some ⟨leftBoth.1.trans rightBoth.1, transitive leftBoth.2 rightBoth.2⟩

/-- Two actions agree when they have matching outcomes in related states. -/
def Agrees (related : State → State → Prop) (first second : Action State Result) : Prop :=
  ∀ left right, related left right → Matches related (first left) (second right)

/-- An action respects a relation when it agrees with itself. -/
def Respects (related : State → State → Prop) (action : Action State Result) : Prop :=
  Agrees related action action

variable {related : State → State → Prop}

theorem Agrees.bind {first other : Action State Result}
    {second continued : Result → Action State Next}
    (agree : Agrees related first other)
    (agreeLater : ∀ result, Agrees related (second result) (continued result)) :
    Agrees related (first >>= second) (other >>= continued) := by
  intro left right isRelated
  rw [bind_apply, bind_apply]
  rcases (agree left right isRelated).cases with
    ⟨isFirst, isOther⟩ | ⟨outcome, before, after, isFirst, isOther, stillRelated⟩
  · rw [isFirst, isOther]
    exact .none
  · rw [isFirst, isOther]
    cases outcome with
    | error error => exact .some ⟨rfl, stillRelated⟩
    | ok result => exact agreeLater result before after stillRelated

theorem Agrees.attempt {first second : Action State Result} (agree : Agrees related first second) :
    Agrees related (Action.attempt first) (Action.attempt second) := by
  intro left right isRelated
  rw [Action.attempt, Action.attempt]
  rcases (agree left right isRelated).cases with
    ⟨isLeft, isRight⟩ | ⟨outcome, before, after, isLeft, isRight, stillRelated⟩
  · rw [isLeft, isRight]
    exact .none
  · rw [isLeft, isRight]
    exact .some ⟨rfl, stillRelated⟩

namespace Respects

theorem pure (result : Result) : Respects related (Pure.pure result) :=
  fun _ _ isRelated => .some ⟨rfl, isRelated⟩

theorem fail (error : Error) : Respects related (Action.fail error : Action State Result) :=
  fun _ _ isRelated => .some ⟨rfl, isRelated⟩

theorem exhausted : Respects related (Action.exhausted : Action State Result) :=
  fun _ _ _ => .none

theorem ofExcept (outcome : Except Error Result) :
    Respects related (Action.ofExcept outcome : Action State Result) := by
  cases outcome with
  | ok result => exact .pure result
  | error error => exact .fail error

theorem bind {first : Action State Result} {second : Result → Action State Next}
    (respects : Respects related first) (respectsLater : ∀ result, Respects related (second result)) :
    Respects related (first >>= second) :=
  Agrees.bind respects respectsLater

theorem attempt {action : Action State Result} (respects : Respects related action) :
    Respects related (Action.attempt action) :=
  Agrees.attempt respects

theorem current_bind {second : State → Action State Next}
    (agree : ∀ left right, related left right → Agrees related (second left) (second right)) :
    Respects related (current >>= second) :=
  fun left right isRelated => agree left right isRelated left right isRelated

end Respects

end SlotDispatch.Action
