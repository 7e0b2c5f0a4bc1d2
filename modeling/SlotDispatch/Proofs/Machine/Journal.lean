import SlotDispatch.Proofs.Machine.Uniform
/-!
The journal under the answers of a machine. The main statement says that no answer depends on the calls
that the journal holds already, and that these stay behind the calls that the answer adds.
-/

namespace SlotDispatch

open SlotDispatch.Action SlotDispatch.Machine

variable {Host Result Next : Type}

/-- In this world some earlier calls stand behind the calls of the journal. -/
def World.withEarlier (earlier : Journal) (world : World Host) : World Host :=
  { world with journal := world.journal ++ earlier }

theorem World.withEarlier_nil (world : World Host) : world.withEarlier [] = world := by
  rw [withEarlier, List.append_nil]

theorem World.resembles_withEarlier (earlier : Journal) (world : World Host) :
    World.Resembles world (world.withEarlier earlier) :=
  ⟨rfl, rfl, .refl _⟩

/-- The second action carries earlier calls along when it does with them what the first action does
without them. -/
def Action.Carries (first second : Action (World Host) Result) : Prop :=
  ∀ world earlier, second (world.withEarlier earlier) =
    (first world).map fun answer => (answer.1, answer.2.withEarlier earlier)

namespace Action.Carries

theorem pure (result : Result) :
    Carries (Pure.pure result : Action (World Host) Result) (Pure.pure result) :=
  fun _ _ => rfl

theorem fail (error : Error) :
    Carries (Action.fail error : Action (World Host) Result) (Action.fail error) :=
  fun _ _ => rfl

theorem bind {first other : Action (World Host) Result}
    {second continued : Result → Action (World Host) Next} (carries : Carries first other)
    (carriesLater : ∀ result, Carries (second result) (continued result)) :
    Carries (first >>= second) (other >>= continued) := by
  intro world earlier
  rw [bind_apply, bind_apply, carries]
  rcases first world with _ | ⟨_ | result, next⟩
  · rfl
  · rfl
  · exact carriesLater result next earlier

theorem attempt {first second : Action (World Host) Result} (carries : Carries first second) :
    Carries (Action.attempt first) (Action.attempt second) := by
  intro world earlier
  rw [Action.attempt, Action.attempt, carries]
  cases first world <;> rfl

theorem noted (callable : Callable) (arguments : List Value) (toValue : Result → Value)
    {first second : Action (World Host) Result} (carries : Carries first second) :
    Carries (Action.noted callable arguments toValue first)
      (Action.noted callable arguments toValue second) := by
  intro world earlier
  have isCall := carries { world with journal := [] } []
  simp only [World.withEarlier_nil] at isCall
  have isCall : second { world.withEarlier earlier with journal := [] } =
      first { world with journal := [] } := by
    rw [show first { world with journal := [] } =
      (first { world with journal := [] }).map (fun answer => (answer.1, answer.2)) by simp, ← isCall]
    rfl
  rw [Action.noted, Action.noted, isCall]
  cases first { world with journal := [] } <;> rfl

theorem onRegistry (action : Action Registry Result) :
    Carries (Action.onRegistry action : Action (World Host) Result) (Action.onRegistry action) := by
  intro world earlier
  show (action world.registry).map _ = Option.map _ ((action world.registry).map _)
  cases action world.registry <;> rfl

/-- A change of the world is carried along when it leaves the journal alone. -/
theorem change {update : World Host → World Host}
    (isQuiet : ∀ world earlier,
      update (world.withEarlier earlier) = (update world).withEarlier earlier) :
    Carries (Action.change update) (Action.change update) := by
  intro world earlier
  rw [Action.change, Action.change, isQuiet]
  rfl

theorem current_bind {first second : World Host → Action (World Host) Result}
    (carries : ∀ world earlier, Carries (first world) (second (world.withEarlier earlier))) :
    Carries (current >>= first) (current >>= second) :=
  fun world earlier => carries world earlier world earlier

end Action.Carries

/-! ### Requests -/

/-- What one answer carries along, another one does that asks it. -/
def UniformRules.carries (Host : Type) : UniformRules Host where
  Relates first second := Action.Carries first second
  pure result := .pure result
  bind carries carriesLater := carries.bind carriesLater
  fail error := .fail error
  attempt carries := carries.attempt
  noted callable arguments toValue carries := carries.noted callable arguments toValue
  consult related := .current_bind fun world earlier =>
    related world _ (world.resembles_withEarlier earlier)
  reading read isQuiet := .current_bind fun world earlier => by
    have sameRead : read (world.withEarlier earlier) = read world := isQuiet world _
    rw [sameRead]
    exact .pure (read world)
  changeHeap _ _ := .change fun _ _ => rfl
  changeSites _ := .change fun _ _ => rfl
  changeHost _ := .change fun _ _ => rfl
  entryOf id := .onRegistry (Registry.entryOf id)
  changeTypes program request changesTypes := by
    cases request with
    | createType name bases attributes => exact .onRegistry (TypeChange.create name bases attributes)
    | setTypeAttribute id name content => exact .onRegistry (TypeChange.assign id name content)
    | deleteTypeAttribute id name => exact .onRegistry (TypeChange.delete id name)
    | setBases id bases => exact .onRegistry (TypeChange.rebase id bases)
    | invalidate id => exact .onRegistry (TypeChange.invalidate id)
    | _ => cases changesTypes

/-- No answer depends on the calls that the journal holds already, and these stay behind the calls that
the answer adds. -/
theorem Machine.carries_perform (program : Program Host) (depth : Nat) (request : Request) :
    Carries (Machine.perform program depth request) (Machine.perform program depth request) :=
  (UniformRules.carries Host).perform (fun _ _ => rfl) program depth request

/-! ### Worlds apart from their journals -/

/-- Two worlds are parallel when they are alike apart from their journals. -/
def World.Parallel (left right : World Host) : Prop :=
  World.Alike (fun _ => True) 0 left { right with journal := left.journal }

namespace World.Parallel

variable {left middle right : World Host}

theorem of_alike (alike : World.Alike (fun _ => True) 0 left right) : Parallel left right :=
  alike.withJournal left.journal

theorem trans (first : Parallel left middle) (second : Parallel middle right) :
    Parallel left right :=
  World.Alike.trans first (World.Alike.withJournal second left.journal)

theorem symm (parallel : Parallel left right) : Parallel right left :=
  World.Alike.withJournal (World.Alike.symm parallel) right.journal

/-- A world that is parallel to another one is alike itself. -/
theorem alike (parallel : Parallel left right) : World.Alike (fun _ => True) 0 left left :=
  World.Alike.trans parallel (World.Alike.symm parallel)

theorem withJournals (parallel : Parallel left right) (journal other : Journal) :
    Parallel { left with journal := journal } { right with journal := other } :=
  World.Alike.withJournal parallel journal

/-- An action that is oblivious and carries earlier calls along has the same outcome in parallel
worlds. -/
theorem matches_of_oblivious {action : Action (World Host) Result}
    (oblivious : Oblivious Host (fun _ => True) 0 action) (carries : Carries action action)
    (parallel : Parallel left right) : Matches Parallel (action left) (action right) := by
  have isLeft := carries { left with journal := [] } left.journal
  have isRight := carries { right with journal := [] } right.journal
  rw [show World.withEarlier left.journal { left with journal := [] } = left from rfl] at isLeft
  rw [show World.withEarlier right.journal { right with journal := [] } = right from rfl] at isRight
  rw [isLeft, isRight]
  rcases (oblivious _ _ (World.Alike.withJournal parallel [])).cases with
    ⟨isNone, isOther⟩ | ⟨outcome, before, after, isSome, isOther, stillAlike⟩
  · rw [isNone, isOther]
    exact .none
  · rw [isSome, isOther]
    exact .some ⟨rfl, (of_alike stillAlike).withJournals _ _⟩

/-- A machine of any depth answers alike in parallel worlds. -/
theorem respects_perform (program : Program Host) (depth : Nat) (request : Request) :
    Respects Parallel (perform program depth request) := fun _ _ parallel =>
  parallel.matches_of_oblivious
    (oblivious_perform (Program.spares_of_forall (fun _ => trivial) program) depth 0 request
      (request.spares_of_forall fun _ => trivial))
    (carries_perform program depth request)

end World.Parallel

end SlotDispatch
