import SlotDispatch.Proofs.Machine.Ending
import SlotDispatch.Proofs.Machine.Uniform
/-!
Iteration. The main statement says that the steps of an iterator give its items in order, whatever the
machine does between them, and that an iterator that has come to its end stays there.
-/

namespace SlotDispatch

open SlotDispatch.Action SlotDispatch.Machine

variable {Host Result Next : Type}

/-! ### The course of a computation -/

/-- An action goes forward when the heap that it finds precedes the heap that it leaves. -/
def Action.GoesForward (action : Action (World Host) Result) : Prop :=
  ∀ world outcome next, action world = some (outcome, next) → world.heap.Precedes next.heap

namespace Action.GoesForward

theorem pure (result : Result) :
    (Pure.pure result : Action (World Host) Result).GoesForward := by
  intro world outcome next isOutcome
  obtain ⟨_, rfl⟩ := Prod.mk.inj (Option.some.inj isOutcome)
  exact .refl world.heap

theorem fail (error : Error) : (Action.fail error : Action (World Host) Result).GoesForward := by
  intro world outcome next isOutcome
  obtain ⟨_, rfl⟩ := Prod.mk.inj (Option.some.inj isOutcome)
  exact .refl world.heap

theorem bind {first : Action (World Host) Result} {second : Result → Action (World Host) Next}
    (forward : first.GoesForward) (forwardLater : ∀ result, (second result).GoesForward) :
    (first >>= second).GoesForward := by
  intro world outcome next isOutcome
  rw [bind_apply] at isOutcome
  rcases isFirst : first world with _ | ⟨error | result, middle⟩ <;> rw [isFirst] at isOutcome
  · cases isOutcome
  · obtain ⟨_, rfl⟩ := Prod.mk.inj (Option.some.inj isOutcome)
    exact forward world _ middle isFirst
  · exact (forward world _ middle isFirst).trans (forwardLater result middle outcome next isOutcome)

theorem current_bind {second : World Host → Action (World Host) Result}
    (forward : ∀ world, (second world).GoesForward) : (current >>= second).GoesForward :=
  fun world => forward world world

theorem attempt {action : Action (World Host) Result} (forward : action.GoesForward) :
    (Action.attempt action).GoesForward := by
  intro world outcome next isOutcome
  obtain ⟨⟨inner, last⟩, isInner, isLast⟩ := Option.map_eq_some_iff.1 isOutcome
  obtain ⟨_, rfl⟩ := Prod.mk.inj isLast
  exact forward world inner last isInner

theorem noted (callable : Callable) (arguments : List Value) (toValue : Result → Value)
    {call : Action (World Host) Result} (forward : call.GoesForward) :
    (Action.noted callable arguments toValue call).GoesForward := by
  intro world outcome next isOutcome
  obtain ⟨⟨inner, last⟩, isInner, isLast⟩ := Option.map_eq_some_iff.1 isOutcome
  obtain ⟨_, rfl⟩ := Prod.mk.inj isLast
  exact forward { world with journal := [] } inner last isInner

theorem change {update : World Host → World Host}
    (forward : ∀ world : World Host, world.heap.Precedes (update world).heap) :
    (Action.change update).GoesForward := by
  intro world outcome next isOutcome
  obtain ⟨_, rfl⟩ := Prod.mk.inj (Option.some.inj isOutcome)
  exact forward world

/-- An action on the registry leaves the heap as it is. -/
theorem onRegistry (action : Action Registry Result) :
    (Action.onRegistry action : Action (World Host) Result).GoesForward := by
  intro world outcome next isOutcome
  obtain ⟨⟨inner, registry⟩, _, isNext⟩ := Option.map_eq_some_iff.1 isOutcome
  obtain ⟨_, rfl⟩ := Prod.mk.inj isNext
  exact .refl world.heap

end Action.GoesForward

/-- What one answer moves forward, another one does that asks it. -/
def UniformRules.goesForward (Host : Type) : UniformRules Host where
  Relates first _ := first.GoesForward
  pure result := .pure result
  bind forward forwardLater := forward.bind forwardLater
  fail error := .fail error
  attempt forward := forward.attempt
  noted callable arguments toValue forward := forward.noted callable arguments toValue
  consult related := .current_bind fun world => related world world ⟨rfl, rfl, .refl _⟩
  reading _ _ := .current_bind fun _ => .pure _
  changeHeap _ isForward := .change fun world => isForward world.heap
  changeSites _ := .change fun world => .refl world.heap
  changeHost _ := .change fun world => .refl world.heap
  entryOf id := .onRegistry (Registry.entryOf id)
  changeTypes program request changesTypes := by
    intro world outcome next isOutcome
    rcases World.mutation_of_changesTypes changesTypes isOutcome with
      ⟨_, _, rfl⟩ | ⟨registry, _, rfl⟩
    · exact .refl _
    · exact .refl world.heap

/-- Every answer goes forward. -/
theorem Machine.goesForward_perform (program : Program Host) (depth : Nat) (request : Request) :
    (perform program depth request).GoesForward :=
  (UniformRules.goesForward Host).perform (fun _ _ _ isOutcome => nomatch isOutcome) program depth
    request

/-- A world leads to another one by answers of machines of any depth with any programs. Between two
answers the caller may change the journal and the state of the host. -/
inductive World.Leads (before : World Host) : World Host → Prop where
  | refl : Leads before before
  | answered {world next : World Host} {program : Program Host} {depth : Nat} {request : Request}
      {outcome : Except Error request.Reply} (leads : Leads before world)
      (isOutcome : perform program depth request world = some (outcome, next)) : Leads before next
  | resumed {world : World Host} (leads : Leads before world) (journal : Journal) (host : Host) :
      Leads before { world with journal := journal, host := host }

namespace World

variable {before world : World Host}

theorem steady_of_outcome {next : World Host} {program : Program Host} {depth : Nat}
    {request : Request} {outcome : Except Error request.Reply} (steady : world.Steady)
    (isOutcome : perform program depth request world = some (outcome, next)) : next.Steady := by
  have matched := oblivious_perform (Program.spares_of_forall (fun _ => trivial) program) depth 0
    request (request.spares_of_forall fun _ => trivial) world world steady
  rw [isOutcome] at matched
  cases matched with
  | some both => exact both.2

namespace Leads

theorem steady (leads : before.Leads world) (steady : before.Steady) : world.Steady := by
  induction leads with
  | refl => exact steady
  | answered _ isOutcome inductionHypothesis => exact steady_of_outcome inductionHypothesis isOutcome
  | resumed _ journal host inductionHypothesis =>
      exact (Alike.withJournal inductionHypothesis journal).withHost host

/-- The heap of a world precedes the heaps of all worlds that it leads to. -/
theorem precedes (leads : before.Leads world) : before.heap.Precedes world.heap := by
  induction leads with
  | refl => exact .refl _
  | answered _ isOutcome inductionHypothesis =>
      exact inductionHypothesis.trans (goesForward_perform _ _ _ _ _ _ isOutcome)
  | resumed _ _ _ inductionHypothesis => exact inductionHypothesis

end Leads

end World

/-! ### Steps of an iterator -/

/-- An iterator in a place has some items to give, and the rest of the heap is as it is. -/
def Heap.withRemaining (heap : Heap) (place : Nat) (items : List Value) : Heap :=
  { heap with remaining := heap.remaining.insert place items }

/-- An object without a dictionary takes the next place of a heap. -/
def Heap.withNextPlace (heap : Heap) : Heap :=
  { heap with nextPlace := heap.nextPlace + 1 }

namespace Protocol

/-- This is an iterator of the usual type in a place. -/
def iteratorAt (place : Nat) (all : List Value) : Value :=
  .object ⟨.allocated place, .iterator⟩ (.iterator all)

theorem remainingOf_iteratorAt (heap : Heap) (place : Nat) (all items : List Value) :
    (heap.withRemaining place items).remainingOf (iteratorAt place all) = items := by
  simp [Heap.remainingOf, Heap.withRemaining, iteratorAt, Value.place?]

theorem advance_iteratorAt (heap : Heap) (place : Nat) (all items : List Value) :
    (heap.withRemaining place items).advance (iteratorAt place all) =
      heap.withRemaining place items.tail := by
  rw [Heap.advance, remainingOf_iteratorAt]
  cases items with
  | nil => rfl
  | cons item rest =>
      simp [Heap.setRemaining, Heap.withRemaining, iteratorAt, Value.place?, Table.insert_insert]

variable {world : World Host} (steady : world.Steady) {heap : Heap} (isHeap : world.heap = heap)
  (perform : Perform Host) (place : Nat) (all : List Value)

include steady isHeap

theorem stepIterator_ends :
    (Builtin.stepIterator (iteratorAt place all)).Ends world
      ((heap.remainingOf (iteratorAt place all)).head?.elim (.error .stopIteration) .ok)
      (heap.advance (iteratorAt place all)) := by
  subst isHeap
  rw [iteratorAt, stepIterator_eq]
  refine Ends.current_bind ?_
  cases isRemaining : world.heap.remainingOf (.object _ (.iterator all)) with
  | nil =>
      rw [Heap.advance, isRemaining]
      exact .fail steady .stopIteration
  | cons item rest =>
      refine (Ends.changeHeap steady _).bind fun next turns => ?_
      rw [← turns.heap_eq]
      exact .pure turns.steady item

/-- A step of an iterator gives the first of the remaining items, and the other items remain. -/
theorem next_ends :
    (next perform (iteratorAt place all)).Ends world
      (.ok (heap.remainingOf (iteratorAt place all)).head?)
      (heap.advance (iteratorAt place all)) := by
  have isListed : builtinTypes[(iteratorAt place all).typeId]? = some _ := rfl
  refine (Ends.targetOf steady isListed .iterNext).bind fun middle turns => ?_
  have steps : (Invocation.unary perform (.builtin .iteratorNext) (iteratorAt place all)).Ends middle
      ((heap.remainingOf (iteratorAt place all)).head?.elim (.error .stopIteration) .ok)
      (heap.advance (iteratorAt place all)) :=
    .noted turns.steady fun later turnsLater => stepIterator_ends turnsLater.steady
      (turnsLater.heap_eq.trans (turns.heap_eq.trans isHeap)) place all
  refine steps.attempt.bind fun last turnsLast => ?_
  rw [← turnsLast.heap_eq]
  cases (heap.remainingOf (iteratorAt place all)).head? with
  | none => exact .pure turnsLast.steady none
  | some item => exact .pure turnsLast.steady (some item)

omit isHeap place all in
/-- An iterator gives all remaining items to a machine that is deep enough. Every item takes one step,
and a machine of less depth drains the others. -/
theorem drain_ends {place : Nat} {all : List Value} (items : List Value) (program : Program Host)
    {depth : Nat} (isDeep : items.length ≤ depth)
    (isRemaining : world.heap = heap.withRemaining place items) :
    (drain (Machine.perform program depth) (iteratorAt place all)).Ends world (.ok items)
      (heap.withRemaining place []) := by
  induction items generalizing world depth with
  | nil =>
      have steps := next_ends steady isRemaining (Machine.perform program depth) place all
      rw [remainingOf_iteratorAt, advance_iteratorAt, List.tail_nil] at steps
      refine steps.bind fun next turns => ?_
      rw [← turns.heap_eq]
      exact .pure turns.steady []
  | cons item rest inductionHypothesis =>
      cases depth with
      | zero => exact absurd isDeep (Nat.not_succ_le_zero _)
      | succ depth =>
          have steps := next_ends steady isRemaining (Machine.perform program (depth + 1)) place all
          rw [remainingOf_iteratorAt, advance_iteratorAt, List.tail_cons] at steps
          refine steps.bind fun next turns => ?_
          have drains : ((Machine.perform program (depth + 1)).drain (iteratorAt place all)).Ends next
              (.ok rest) (heap.withRemaining place []) :=
            inductionHypothesis turns.steady (Nat.le_of_succ_le_succ isDeep) turns.heap_eq
          refine drains.bind fun last turnsLast => ?_
          rw [← turnsLast.heap_eq]
          exact .pure turnsLast.steady (item :: rest)

omit isHeap place all in
/-- A value is iterated by the iterator that its slot gives. -/
theorem iter_ends {value : Value} {builtinType : BuiltinType}
    (isListed : builtinTypes[value.typeId]? = some builtinType) {target : SlotTarget}
    (isTarget : builtinTarget .iter ((Registry.initial 0).linearizationOf value.typeId) = target)
    (isThere : target.isAbsent = false) {place : Nat} {values : List Value} {heap : Heap}
    (ends : (Invocation.unary perform target value).EndsFrom world
      (.ok (iteratorAt place values)) heap) :
    (iter perform value).Ends world (.ok (iteratorAt place values)) heap := by
  have iteratorListed : builtinTypes[(iteratorAt place values).typeId]? = some _ := rfl
  refine (Ends.targetOf steady isListed .iter).bind fun middle turns => ?_
  rw [isTarget, isThere, if_neg Bool.false_ne_true]
  refine (ends middle turns).bind fun next turnsNext => ?_
  refine (Ends.hasSlot turnsNext.steady iteratorListed .iterNext).bind fun last turnsLast => ?_
  rw [← turnsNext.heap_eq, ← turnsLast.heap_eq]
  exact .pure turnsLast.steady _

omit isHeap place all in
/-- The iteration slot of a tuple makes an iterator in the next place. -/
theorem iter_tuple {header : Header} (isUsual : header.typeId = .tuple) (items : List Value) :
    (iter perform (.object header (.tuple items))).Ends world
      (.ok (iteratorAt world.heap.nextPlace items))
      (world.heap.withNextPlace.withRemaining world.heap.nextPlace items) := by
  obtain ⟨reference, typeId⟩ := header
  obtain rfl : typeId = .tuple := isUsual
  have ends : (Invocation.unary perform (.builtin .tupleIter)
      (.object ⟨reference, .tuple⟩ (.tuple items))).EndsFrom world _ _ :=
    .noted (.allocate .iterator (.iterator items) false)
  exact iter_ends steady perform rfl rfl rfl ends

end Protocol

/-! ### All steps of an iterator -/

namespace World

/-- This relation says what the steps of an iterator gave since a world. Between two steps the machine may
do anything that leaves the remaining items of the iterator alone. -/
inductive Draws (iterator : Value) (start : World Host) : List (Option Value) → World Host → Prop where
  | start : Draws iterator start [] start
  | step {drawn : List (Option Value)} {world next : World Host} {program : Program Host}
      {depth : Nat} {item? : Option Value} (draws : Draws iterator start drawn world)
      (isStep : perform program depth (.next iterator) world = some (.ok item?, next)) :
      Draws iterator start (drawn ++ [item?]) next
  | meanwhile {drawn : List (Option Value)} {world next : World Host}
      (draws : Draws iterator start drawn world) (leads : world.Leads next)
      (isAlone : next.heap.remainingOf iterator = world.heap.remainingOf iterator) :
      Draws iterator start drawn next

/-- An iterator has some values to give when its steps give them in order and then report the end, and
when it stays at the end whatever the machine does later. -/
structure Iterates (start : World Host) (iterator : Value) (values : List Value) : Prop where
  gives : ∀ drawn world, Draws iterator start drawn world →
    drawn = (List.range drawn.length).map (values[·]?) ∧
      ∀ program depth, ∃ heap, (perform program (depth + 1) (.next iterator)).Ends world
        (.ok (values[drawn.length]? : Option Value)) heap
  stops : ∀ drawn world, Draws iterator start drawn world → none ∈ drawn →
    ∀ later, world.Leads later → ∀ program depth,
      (perform program (depth + 1) (.next iterator)).Ends later (.ok (none : Option Value)) later.heap

variable {start world : World Host} {place : Nat} {all : List Value}

/-- After some steps, an iterator has given its first items, and the other ones remain. -/
theorem Draws.given {drawn : List (Option Value)}
    (draws : Draws (Protocol.iteratorAt place all) start drawn world) (steady : start.Steady)
    (has : start.heap.Has (Protocol.iteratorAt place all)) {values : List Value}
    (isStart : start.heap.remainingOf (Protocol.iteratorAt place all) = values) :
    world.Steady ∧ world.heap.Has (Protocol.iteratorAt place all) ∧
      world.heap.remainingOf (Protocol.iteratorAt place all) = values.drop drawn.length ∧
      drawn = (List.range drawn.length).map (values[·]?) := by
  induction draws with
  | start => exact ⟨steady, has, isStart, rfl⟩
  | @step drawn world next program depth item? draws isStep inductionHypothesis =>
      obtain ⟨steadyHere, hasHere, remains, isGiven⟩ := inductionHypothesis
      cases depth with
      | zero => cases isStep
      | succ depth =>
          have ends := Protocol.next_ends steadyHere rfl (perform program depth) place all
          obtain ⟨isItem, turns⟩ := ends.of_outcome isStep
          obtain rfl : item? = values[drawn.length]? := by
            rw [Except.ok.inj isItem, remains, List.head?_drop]
          refine ⟨turns.steady, (goesForward_perform _ _ _ _ _ _ isStep).has hasHere, ?_, ?_⟩
          · rw [turns.heap_eq, Heap.remainingOf_advance, remains, List.tail_drop,
              List.length_append, List.length_singleton]
          · rw [List.length_append, List.length_singleton, List.range_succ, List.map_append,
              ← isGiven]
            rfl
  | meanwhile draws leads isAlone inductionHypothesis =>
      obtain ⟨steadyHere, hasHere, remains, isGiven⟩ := inductionHypothesis
      exact ⟨leads.steady steadyHere, leads.precedes.has hasHere, isAlone.trans remains, isGiven⟩

/-- An iterator gives its remaining items in order and then stays at its end. -/
theorem iterates_of_remainingOf (steady : start.Steady)
    (has : start.heap.Has (Protocol.iteratorAt place all)) {values : List Value}
    (isStart : start.heap.remainingOf (Protocol.iteratorAt place all) = values) :
    start.Iterates (Protocol.iteratorAt place all) values where
  gives := by
    intro drawn world draws
    obtain ⟨steadyHere, _, remains, isGiven⟩ := draws.given steady has isStart
    refine ⟨isGiven, fun program depth => ?_⟩
    have steps := Protocol.next_ends steadyHere rfl (perform program depth) place all
    rw [remains, List.head?_drop] at steps
    exact ⟨_, steps⟩
  stops := by
    intro drawn world draws isEnd later leads program depth
    obtain ⟨steadyHere, hasHere, remains, isGiven⟩ := draws.given steady has isStart
    rw [isGiven] at isEnd
    obtain ⟨count, isCount, isNone⟩ := List.mem_map.1 isEnd
    have isOver : values.length ≤ drawn.length :=
      Nat.le_trans (List.getElem?_eq_none_iff.1 isNone) (Nat.le_of_lt (List.mem_range.1 isCount))
    obtain ⟨lost, remainsLater⟩ := leads.precedes.remainingOf hasHere
    rw [remains, List.drop_of_length_le isOver, List.drop_nil] at remainsLater
    have steps := Protocol.next_ends (leads.steady steadyHere) rfl (perform program depth) place all
    rw [Heap.advance, remainsLater] at steps
    exact steps

end World

end SlotDispatch
