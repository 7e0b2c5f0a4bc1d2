import SlotDispatch.Error
/-!
Actions are the computations of the machine. An action changes a state and gives a result or an
error, and an error keeps the changes that were made before it. An action that needs more depth than
it has gives nothing at all.
-/

namespace SlotDispatch

/-- An action maps a state to its outcome and to the state that it leaves. -/
def Action (State Result : Type) : Type :=
  State → Option (Except Error Result × State)

namespace Action

variable {State Part Result Next : Type}

/-- This action gives a result and changes nothing. -/
def give (result : Result) : Action State Result :=
  fun state => some (.ok result, state)

/-- The second action runs on the result of the first, and an error skips it. -/
def andThen (first : Action State Result) (second : Result → Action State Next) :
    Action State Next :=
  fun state =>
    match first state with
    | none => none
    | some (.error error, left) => some (.error error, left)
    | some (.ok result, left) => second result left

instance : Monad (Action State) where
  pure := give
  bind := andThen

/-- This action fails with an error. -/
def fail (error : Error) : Action State Result :=
  fun state => some (.error error, state)

/-- This action has no outcome. -/
def exhausted : Action State Result :=
  fun _ => none

/-- This action gives the state. -/
def current : Action State State :=
  fun state => some (.ok state, state)

/-- This action changes the state. -/
def change (update : State → State) : Action State Unit :=
  fun state => some (.ok (), update state)

/-- This action gives the outcome of another action as its result, so that an error does not end
the computation. -/
def attempt (action : Action State Result) : Action State (Except Error Result) :=
  fun state => (action state).map fun outcome => (.ok outcome.1, outcome.2)

/-- This action gives an outcome that is already known. -/
def ofExcept : Except Error Result → Action State Result
  | .ok result => give result
  | .error error => fail error

/-- An action on a part of a state leaves the rest of the state alone. -/
def onPart (part : State → Part) (replace : State → Part → State) (action : Action Part Result) :
    Action State Result :=
  fun state => (action (part state)).map fun outcome => (outcome.1, replace state outcome.2)

/-- This action changes a part of a state as a function says that can fail without a change. -/
def tryChange (update : State → Except Error State) : Action State Unit :=
  fun state =>
    match update state with
    | .ok left => some (.ok (), left)
    | .error error => some (.error error, state)

@[simp] theorem pure_apply (result : Result) (state : State) :
    (pure result : Action State Result) state = some (.ok result, state) := rfl

@[simp] theorem bind_apply (first : Action State Result) (second : Result → Action State Next)
    (state : State) :
    (first >>= second) state =
      match first state with
      | none => none
      | some (.error error, left) => some (.error error, left)
      | some (.ok result, left) => second result left := rfl

@[simp] theorem fail_apply (error : Error) (state : State) :
    (fail error : Action State Result) state = some (.error error, state) := rfl

theorem map_id (action : Action State Result) : id <$> action = action := by
  funext state
  show andThen action (fun result => give result) state = action state
  unfold andThen give
  rcases action state with _ | ⟨_ | _, _⟩ <;> rfl

theorem bind_assoc {Last : Type} (first : Action State Result)
    (second : Result → Action State Next) (third : Next → Action State Last) :
    first >>= second >>= third = first >>= fun result => second result >>= third := by
  funext state
  simp only [bind_apply]
  rcases first state with _ | ⟨_ | _, _⟩ <;> rfl

instance : LawfulMonad (Action State) :=
  LawfulMonad.mk' _ map_id (fun _ _ => rfl) bind_assoc

end Action

end SlotDispatch
