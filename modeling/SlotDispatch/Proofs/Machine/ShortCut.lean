import SlotDispatch.Proofs.Machine.Iteration
import SlotDispatch.Proofs.Machine.Journal
import SlotDispatch.Proofs.Machine.Reachable
/-!
Short cuts past the slots. The main statement says that the builtin types have the slots that they had
in the first world, so that every short cut which the machine takes for builtin values does what their
slots do.
-/

namespace SlotDispatch

open SlotDispatch.Action SlotDispatch.Machine

variable {Host Result : Type} {forged : Nat → Prop}

/-! ### The ways through the slots -/

namespace Protocol

variable (perform : Perform Host)

/-- A value is called through its call slot. -/
def callBySlot (callee : Value) (arguments : List Value) : Action (World Host) Value := do
  let target ← targetOf callee .call
  Invocation.call perform target callee arguments

/-- The truth of a value is taken from its slots. -/
def truthBySlot (value : Value) : Action (World Host) Bool := do
  let entry ← entryOf value.typeId
  let target := entry.target .bool
  let lengthTarget := firstTarget entry lengthOrder
  if !target.isAbsent then Invocation.inquiry perform target value
  else if !lengthTarget.isAbsent then
    return (← Invocation.length perform lengthTarget value) ≠ 0
  else return true

/-- A value is converted to an index by its index slot. -/
def indexBySlot (value : Value) : Action (World Host) Int64 := do
  let target ← targetOf value .index
  if target.isAbsent then failFor Error.notInteger value
  else
    let result ← Invocation.unary perform target value
    match result.integer? with
    | some number => return number
    | none => failFor Error.indexResultNotInteger result

/-- A value is converted to an integer by its slots. -/
def integerBySlot (value : Value) : Action (World Host) Int64 := do
  let target ← targetOf value .int
  if target.isAbsent then
    if ← hasSlot value .index then index perform value
    else failFor Error.integerArgument value
  else
    let result ← Invocation.unary perform target value
    match result.integer? with
    | some number => return number
    | none => failFor Error.integerResultNotInteger result

/-- A value is converted to a number by its slots. -/
def floatBySlot (value : Value) : Action (World Host) Binary64 := do
  let target ← targetOf value .float
  if target.isAbsent then
    if ← hasSlot value .index then
      return Binary64.ofInt (← index perform value).toInt
    else failFor Error.floatArgument value
  else
    let result ← Invocation.unary perform target value
    match result.ownNumber? with
    | some number => return number
    | none => do
        let typeName ← typeName value
        failFor (Error.floatResultNotFloat typeName) result

/-- The items of a value are collected by an iterator of the value. -/
def collectBySlot (value : Value) : Action (World Host) (List Value) := do
  drain perform (← iter perform value)

section Equal

variable (perform : Perform Host)

end Equal

end Protocol

/-! ### Runs that are alike -/

/-- Two actions run alike in a world when they have the same outcome there and leave worlds that are
alike but for their journals. -/
def World.RunsAlike (world : World Host) (first second : Action (World Host) Result) : Prop :=
  Matches (fun left right =>
      World.Alike (fun _ => True) 0 left { right with journal := left.journal })
    (first world) (second world)

namespace World.RunsAlike

variable {world next : World Host}

theorem of_oblivious {action : Action (World Host) Result}
    (alike : World.Alike (fun _ => True) 0 world world)
    (oblivious : Oblivious Host (fun _ => True) 0 action) : world.RunsAlike action action := by
  rw [RunsAlike]
  exact (oblivious world world alike).mono fun left _ stillAlike =>
    stillAlike.withJournal left.journal

/-- An action that makes no call runs like one that has the same outcome and only adds to the
journal. -/
theorem of_quiet {first second : Action (World Host) Result} {outcome : Except Error Result}
    (alike : World.Alike (fun _ => True) 0 world next)
    (isFirst : first world = some (outcome, world))
    (isSecond : ∃ journal, second world = some (outcome, { next with journal := journal })) :
    world.RunsAlike first second := by
  obtain ⟨journal, isSecond⟩ := isSecond
  rw [RunsAlike, isFirst, isSecond]
  exact .some ⟨rfl, alike.withJournal world.journal⟩

/-- An action runs like the same action inside a call that is noted. -/
theorem of_noted {action second : Action (World Host) Result}
    (oblivious : Oblivious Host (fun _ => True) 0 action) (carries : Carries action action)
    (alike : World.Alike (fun _ => True) 0 world next)
    (isSecond : ∃ callable arguments toValue,
      second world = noted callable arguments toValue action next) :
    world.RunsAlike action second := by
  obtain ⟨callable, arguments, toValue, isSecond⟩ := isSecond
  have starts : World.Parallel world { next with journal := [] } :=
    (World.Parallel.of_alike alike).withJournals world.journal []
  rw [RunsAlike, isSecond, noted]
  rcases (starts.matches_of_oblivious oblivious carries).cases with
    ⟨isLeft, isRight⟩ | ⟨outcome, before, after, isLeft, isRight, stillParallel⟩
  · rw [isLeft, isRight]
    exact .none
  · rw [isLeft, isRight]
    exact .some ⟨rfl, stillParallel⟩

theorem reading_bind {Next : Type} {read : World Host → Result}
    {second : Result → Action (World Host) Next} {action : Action (World Host) Next}
    (runsAlike : world.RunsAlike (second (read world)) action) :
    world.RunsAlike (reading read >>= second) action :=
  runsAlike

section Respects

variable {Next : Type} {action : Action (World Host) Next} (respects : Respects World.Parallel action)

include respects

theorem of_respects (steady : world.Steady) : world.RunsAlike action action :=
  respects world world (.of_alike steady)

/-- An action that ends, and after which another one runs like a third, runs like the third one. -/
theorem ends_bind {first : Action (World Host) Result} {second : Result → Action (World Host) Next}
    {result : Result} (ends : first.Ends world (.ok result) world.heap)
    (runsAlike : ∀ next, world.Turns world.heap next → next.RunsAlike (second result) action) :
    world.RunsAlike (first >>= second) action := by
  obtain ⟨next, isFirst, turns⟩ := ends
  have isSecond : (first >>= second) world = second result next := by rw [bind_apply, isFirst]
  have parallel : World.Parallel next world := World.Parallel.symm turns
  rw [RunsAlike, isSecond]
  have matched : Matches World.Parallel (second result next) (action next) := runsAlike next turns
  exact matched.trans (fun first second => first.trans second) (respects next world parallel)

/-- A call that is noted runs like the action that it runs like with an empty journal. -/
theorem noted {callable : Callable} {arguments : List Value} {toValue : Next → Value}
    {call : Action (World Host) Next} (steady : world.Steady)
    (runsAlike : World.RunsAlike { world with journal := [] } call action) :
    world.RunsAlike (Action.noted callable arguments toValue call) action := by
  have parallel : World.Parallel { world with journal := [] } world :=
    (World.Parallel.of_alike steady).withJournals [] world.journal
  have matched : Matches World.Parallel (call { world with journal := [] })
      (action { world with journal := [] }) := runsAlike
  have matched := matched.trans (fun first second => first.trans second) (respects _ world parallel)
  rw [RunsAlike, Action.noted]
  rcases matched.cases with ⟨isCall, isAction⟩ | ⟨outcome, before, after, isCall, isAction, isParallel⟩
  · rw [isCall, isAction]
    exact .none
  · rw [isCall, isAction]
    exact .some ⟨rfl, isParallel.withJournals _ _⟩

end Respects

end World.RunsAlike

/-! ### Operators on integers -/

namespace Operator

/-- Sums, differences, and products of integers have a short cut. -/
inductive IsWordOperator : SlotKind → (Int → Int → Int) → Prop
  | add : IsWordOperator .add (· + ·)
  | subtract : IsWordOperator .subtract (· - ·)
  | multiply : IsWordOperator .multiply (· * ·)

theorem integerResult?_cases (kind : SlotKind) (left right : Value) :
    (∃ operation leftNumber rightNumber, IsWordOperator kind operation ∧ left = .int leftNumber ∧
      right = .int rightNumber) ∨ integerResult? kind left right = none := by
  unfold integerResult?
  split
  · rename_i leftNumber rightNumber
    dsimp only
    split
    · exact .inl ⟨_, leftNumber, rightNumber, .add, rfl, rfl⟩
    · exact .inl ⟨_, leftNumber, rightNumber, .subtract, rfl, rfl⟩
    · exact .inl ⟨_, leftNumber, rightNumber, .multiply, rfl, rfl⟩
    · exact .inr rfl
  · exact .inr rfl

namespace IsWordOperator

variable {kind : SlotKind} {operation : Int → Int → Int}

theorem isBinary (isOperator : IsWordOperator kind operation) : kind.isBinary = true := by
  cases isOperator <;> rfl

theorem integerResult?_eq (isOperator : IsWordOperator kind operation) (left right : Int64) :
    integerResult? kind (.int left) (.int right) =
      (Word.ofInt? (operation left.toInt right.toInt)).map .int := by
  cases isOperator <;> rfl

theorem target_eq (isOperator : IsWordOperator kind operation) :
    (builtinTarget kind ((Registry.initial 0).linearizationOf .int)).isAbsent = false := by
  cases isOperator <;> rfl

/-- The operation in the slot of integers computes the exact result and checks that it fits. -/
theorem ternary_eq (isOperator : IsWordOperator kind operation) (perform : Perform Host)
    (left right : Int64) (world : World Host) :
    ∃ journal, Invocation.ternary perform
        (builtinTarget kind ((Registry.initial 0).linearizationOf .int)) .left (.int left)
        (.int right) .none world =
      some (Builtin.Integer.checked kind.symbol (Word.ofInt? (operation left.toInt right.toInt)),
        { world with journal := journal }) := by
  have isQuiet : ∀ (callable : Callable) (arguments : List Value) (outcome : Except Error Value),
      ∃ journal, noted callable arguments id (Action.ofExcept outcome) world =
        some (outcome, { world with journal := journal }) := by
    intro callable arguments outcome
    cases outcome <;> exact ⟨_, rfl⟩
  cases isOperator with
  | add => exact isQuiet (.builtin .intAdd) [.int left, .int right] _
  | subtract => exact isQuiet (.builtin .intSubtract) [.int left, .int right] _
  | multiply => exact isQuiet (.builtin .intMultiply) [.int left, .int right] _

end IsWordOperator

end Operator

/-! ### Slots of builtin values -/

section Alike

variable {world : World Host} (alike : World.Alike (fun _ => True) 0 world world)

include alike

namespace Protocol

variable (perform : Perform Host)

/-- A truth that is known agrees with the truth slot of a builtin value. -/
theorem runsAlike_truth_of_isListed {value : Value} (flag : Bool) {builtinType : BuiltinType}
    (operation : Builtin) (isListed : builtinTypes[value.typeId]? = some builtinType)
    (isTarget : builtinTarget .bool ((Registry.initial 0).linearizationOf value.typeId) =
      .builtin operation)
    (inquires : ∀ world : World Host, ∃ journal,
      Invocation.inquiry perform (.builtin operation) value world =
        some (.ok flag, { world with journal := journal }))
    (isTruth : truth perform value = pure flag) :
    world.RunsAlike (truth perform value) (truthBySlot perform value) := by
  obtain ⟨entry, next, isEntry, _, areTargets, nextAlike⟩ := World.entryOf_isListed alike isListed
  rw [isTruth]
  refine .of_quiet nextAlike rfl ?_
  rw [truthBySlot, bind_apply, isEntry]
  dsimp only
  rw [areTargets, isTarget]
  exact inquires next

/-- The truth of every value is what its slots say. -/
theorem runsAlike_truth (oblivious : perform.Oblivious (fun _ => True) 0) (value : Value) :
    world.RunsAlike (truth perform value) (truthBySlot perform value) := by
  cases value with
  | int number =>
      exact runsAlike_truth_of_isListed alike perform (number ≠ 0) .intBool rfl rfl
        (fun _ => ⟨_, rfl⟩) rfl
  | bool flag =>
      refine runsAlike_truth_of_isListed alike perform flag .intBool rfl rfl (fun _ => ?_) rfl
      cases flag <;> exact ⟨_, rfl⟩
  | none =>
      exact runsAlike_truth_of_isListed alike perform false .noneBool rfl rfl
        (fun _ => ⟨_, rfl⟩) rfl
  | float | notImplemented | object =>
      exact .of_oblivious alike (oblivious_of_respects (related_truth oblivious.performs _))

/-- A result that is known agrees with a slot of a builtin value whose operation has that result. -/
theorem runsAlike_pure {value : Value} {builtinType : BuiltinType}
    (isListed : builtinTypes[value.typeId]? = some builtinType) (kind : SlotKind) (result : Result)
    {invoke : SlotTarget → Action (World Host) Result}
    (invokes : ∀ next : World Host, ∃ journal,
      invoke (builtinTarget kind ((Registry.initial 0).linearizationOf value.typeId)) next =
        some (.ok result, { next with journal := journal })) :
    world.RunsAlike (pure result) (targetOf value kind >>= invoke) := by
  obtain ⟨next, isTarget, nextAlike⟩ := World.targetOf_isListed alike rfl isListed kind
  refine .of_quiet nextAlike rfl ?_
  rw [bind_apply, isTarget]
  exact invokes next

/-- The index of every value is what its index slot gives. -/
theorem runsAlike_index (oblivious : perform.Oblivious (fun _ => True) 0) (value : Value) :
    world.RunsAlike (index perform value) (indexBySlot perform value) := by
  cases value with
  | int number =>
      have isListed : builtinTypes[(Value.int number).typeId]? = some _ := rfl
      exact runsAlike_pure alike isListed .index number fun _ => ⟨_, rfl⟩
  | _ => exact .of_oblivious alike (oblivious_of_respects (related_index oblivious.performs _))

/-- The integer of every value is what its slots give. -/
theorem runsAlike_integer (oblivious : perform.Oblivious (fun _ => True) 0) (value : Value) :
    world.RunsAlike (integer perform value) (integerBySlot perform value) := by
  cases value with
  | int number =>
      have isListed : builtinTypes[(Value.int number).typeId]? = some _ := rfl
      exact runsAlike_pure alike isListed .int number fun _ => ⟨_, rfl⟩
  | _ => exact .of_oblivious alike (oblivious_of_respects (related_integer oblivious.performs _))

/-- The number of every value is what its slots give. -/
theorem runsAlike_float (oblivious : perform.Oblivious (fun _ => True) 0) (value : Value) :
    world.RunsAlike (float perform value) (floatBySlot perform value) := by
  cases value with
  | float number =>
      have isListed : builtinTypes[(Value.float number).typeId]? = some _ := rfl
      exact runsAlike_pure alike isListed .float number fun _ => ⟨_, rfl⟩
  | _ => exact .of_oblivious alike (oblivious_of_respects (related_float oblivious.performs _))

/-! ### Calls -/

section Calls

variable (program : Program Host) (depth : Nat) (arguments : List Value)

/-- A function is called as its slot calls it. -/
theorem runsAlike_function {header : Header} (isUsual : header.typeId = .function) (name : String)
    (code : Nat) :
    world.RunsAlike
      (call (Machine.perform program depth) (.object header (.function name code)) arguments)
      (callBySlot (Machine.perform program depth) (.object header (.function name code))
        arguments) := by
  obtain ⟨next, isTarget, nextAlike⟩ := World.targetOf_isListed alike
    (show (Value.object header (.function name code)).typeId = .function from isUsual) rfl .call
  have oblivious := oblivious_perform (Program.spares_of_forall (fun _ => trivial) program) depth 0
    (.apply name code arguments) trivial
  refine .of_noted oblivious (carries_perform program depth (.apply name code arguments)) nextAlike ?_
  rw [callBySlot, bind_apply, isTarget]
  exact ⟨_, _, _, rfl⟩

/-- A bound method is called as its slot calls it, by a machine of one more depth. -/
theorem runsAlike_method {header : Header} (isUsual : header.typeId = .method)
    (function receiver : Value) :
    world.RunsAlike
      (call (Machine.perform program depth) (.object header (.boundMethod function receiver))
        arguments)
      (callBySlot (Machine.perform program (depth + 1))
        (.object header (.boundMethod function receiver)) arguments) := by
  obtain ⟨next, isTarget, nextAlike⟩ := World.targetOf_isListed alike
    (show (Value.object header (.boundMethod function receiver)).typeId = .method from isUsual) rfl
    .call
  have oblivious := oblivious_perform (Program.spares_of_forall (fun _ => trivial) program)
    (depth + 1) 0 (.call function (receiver :: arguments)) trivial
  refine .of_noted oblivious (carries_perform program (depth + 1) (.call function
    (receiver :: arguments))) nextAlike ?_
  rw [callBySlot, bind_apply, isTarget]
  exact ⟨_, _, _, rfl⟩

end Calls

end Protocol

namespace Operator

/-- Through the slots, two integers give the exact result or an overflow. -/
theorem evaluate_integers (perform : Perform Host) {kind : SlotKind} {operation : Int → Int → Int}
    (isOperator : IsWordOperator kind operation) (left right : Int64) :
    ∃ next journal, World.Alike (fun _ => True) 0 world next ∧
      evaluate perform kind (.int left) (.int right) world =
        some (Builtin.Integer.checked kind.symbol
          (Word.ofInt? (operation left.toInt right.toInt)), { next with journal := journal }) := by
  have isListed : builtinTypes[TypeId.int]? = some _ := rfl
  obtain ⟨leftEntry, middle, isLeft, leftId, leftTargets, leftAlike⟩ :=
    World.entryOf_isListed alike isListed
  obtain ⟨rightEntry, next, isRight, rightId, _, rightAlike⟩ :=
    World.entryOf_isListed (leftAlike.symm.trans leftAlike) isListed
  have isPlan : Plan.binary kind leftEntry rightEntry =
      [⟨.left, builtinTarget kind ((Registry.initial 0).linearizationOf .int)⟩] := by
    rw [Plan.binary, if_pos (leftId.trans rightId.symm), leftTargets, Plan.stepOf,
      isOperator.target_eq, if_neg Bool.false_ne_true]
  obtain ⟨journal, isResult⟩ := isOperator.ternary_eq perform left right next
  refine ⟨next, journal, leftAlike.trans rightAlike, ?_⟩
  simp only [evaluate, Value.typeId, bind_apply, isLeft, isRight, isPlan, runPlan, isResult]
  cases Word.ofInt? (operation left.toInt right.toInt) <;> rfl

/-- Every operator on two operands does what the plan through the slots does. -/
theorem runsAlike_binary {perform : Perform Host} (oblivious : perform.Oblivious (fun _ => True) 0)
    {kind : SlotKind} (isBinary : kind.isBinary = true) (left right : Value) :
    world.RunsAlike (binary perform kind left right) (evaluate perform kind left right) := by
  have isSlow : integerResult? kind left right = none →
      world.RunsAlike (binary perform kind left right) (evaluate perform kind left right) := by
    intro hasNoShortCut
    rw [← binary_eq_evaluate isBinary hasNoShortCut]
    exact .of_oblivious alike (oblivious_binary oblivious kind left right)
  rcases integerResult?_cases kind left right with
    ⟨operation, leftNumber, rightNumber, isOperator, rfl, rfl⟩ | hasNoShortCut
  · cases isWord : Word.ofInt? (operation leftNumber.toInt rightNumber.toInt) with
    | none => exact isSlow (by rw [isOperator.integerResult?_eq, isWord, Option.map_none])
    | some number =>
        have isFast : integerResult? kind (.int leftNumber) (.int rightNumber) =
            some (.int number) := by
          rw [isOperator.integerResult?_eq, isWord, Option.map_some]
        obtain ⟨next, journal, nextAlike, isResult⟩ :=
          evaluate_integers alike perform isOperator leftNumber rightNumber
        rw [binary_of_integerResult? isBinary isFast]
        refine .of_quiet nextAlike rfl ⟨journal, ?_⟩
        rw [isResult, isWord]
        rfl
  · exact isSlow hasNoShortCut

end Operator

end Alike

/-! ### Tuples -/

namespace Protocol

/-- A tuple is collected without a step of an iterator. -/
theorem collect_tuple (perform : Perform Host) {header : Header} (isUsual : header.typeId = .tuple)
    (items : List Value) (world : World Host) :
    collect perform (.object header (.tuple items)) world = some (.ok items, world) := by
  have isTaken : ((Value.object header (.tuple items)).items?.filter fun _ =>
      (Value.object header (.tuple items)).typeId = .tuple) = some items := by
    simp [Value.items?, Value.typeId, isUsual]
  rw [collect, isTaken]
  rfl

/-- Through the slots, a tuple is iterated by a new iterator that gives the same items. -/
theorem collectBySlot_tuple {world : World Host} (alike : World.Alike (fun _ => True) 0 world world)
    (program : Program Host) {depth : Nat} {header : Header} (isUsual : header.typeId = .tuple)
    {items : List Value} (isDeep : items.length ≤ depth) :
    ∃ last journal, World.Alike (fun _ => True) 0 world last ∧
      collectBySlot (Machine.perform program depth) (.object header (.tuple items)) world =
        some (.ok items, { last with
          heap := world.heap.withNextPlace.withRemaining world.heap.nextPlace []
          journal := journal }) := by
  have ends : (collectBySlot (Machine.perform program depth) (.object header (.tuple items))).Ends world
      (.ok items) (world.heap.withNextPlace.withRemaining world.heap.nextPlace []) :=
    (iter_tuple alike (Machine.perform program depth) isUsual items).bind fun next turns =>
      drain_ends turns.steady items program isDeep turns.heap_eq
  exact ends.exists_alike

end Protocol

/-! ### Reachable worlds -/

namespace World

/-- The short cuts agree with the slots in a world when the builtin types have the slots of the first
world, and every answer that is given past the slots is the answer of the slots. -/
structure ShortCutsAgree (world : World Host) : Prop where
  slots : ∀ id < builtinTypes.length, ∀ (configuration : Configuration) (host : Host),
    (entryOf id).Succeeds world fun entry _ =>
      (entryOf id).Succeeds (initial configuration host) fun first _ =>
        entry.linearization = first.linearization ∧ entry.table = first.table
  binary : ∀ program depth kind, kind.isBinary = true → ∀ left right,
    world.RunsAlike (Operator.binary (Machine.perform program depth) kind left right)
      (Operator.evaluate (Machine.perform program depth) kind left right)
  integers : ∀ program depth kind operation, Operator.IsWordOperator kind operation →
    ∀ left right : Int64, ∃ outcome next last,
      Operator.binary (Machine.perform program depth) kind (.int left) (.int right) world =
        some (outcome, next) ∧
      Operator.evaluate (Machine.perform program depth) kind (.int left) (.int right) world =
        some (outcome, last) ∧
      (∀ number : Int64, number.toInt = operation left.toInt right.toInt →
        outcome = .ok (.int number)) ∧
      (¬Word.Fits (operation left.toInt right.toInt) →
        outcome = .error (.integerOverflow kind.symbol))
  truth : ∀ program depth value,
    world.RunsAlike (Protocol.truth (Machine.perform program depth) value)
      (Protocol.truthBySlot (Machine.perform program depth) value)
  index : ∀ program depth value,
    world.RunsAlike (Protocol.index (Machine.perform program depth) value)
      (Protocol.indexBySlot (Machine.perform program depth) value)
  integer : ∀ program depth value,
    world.RunsAlike (Protocol.integer (Machine.perform program depth) value)
      (Protocol.integerBySlot (Machine.perform program depth) value)
  float : ∀ program depth value,
    world.RunsAlike (Protocol.float (Machine.perform program depth) value)
      (Protocol.floatBySlot (Machine.perform program depth) value)
  function : ∀ program depth (header : Header) name code arguments, header.typeId = .function →
    world.RunsAlike
      (Protocol.call (Machine.perform program depth) (.object header (.function name code))
        arguments)
      (Protocol.callBySlot (Machine.perform program depth) (.object header (.function name code))
        arguments)
  /-- The slot of a bound method asks for the call of its function, so it takes one more depth. -/
  method : ∀ program depth (header : Header) function receiver arguments,
    header.typeId = .method →
    world.RunsAlike
      (Protocol.call (Machine.perform program depth)
        (.object header (.boundMethod function receiver)) arguments)
      (Protocol.callBySlot (Machine.perform program (depth + 1))
        (.object header (.boundMethod function receiver)) arguments)
  /-- The iteration leaves a used iterator behind, and each of its steps takes one depth. -/
  tuple : ∀ program depth (header : Header) items, header.typeId = .tuple →
    items.length ≤ depth →
    Protocol.collect (Machine.perform program depth) (.object header (.tuple items)) world =
        some (.ok items, world) ∧
      ∃ last journal, Alike (fun _ => True) 0 world last ∧
        Protocol.collectBySlot (Machine.perform program depth) (.object header (.tuple items))
            world =
          some (.ok items, { last with
            heap := world.heap.withNextPlace.withRemaining world.heap.nextPlace []
            journal := journal })

section Agree

variable {world : World Host} (alike : World.Alike (fun _ => True) 0 world world)

include alike

/-- Builtin types have the slots of the first world. -/
theorem entryOf_eq_initial {id : TypeId} (isBuiltin : id < builtinTypes.length)
    (configuration : Configuration) (host : Host) :
    (entryOf id).Succeeds world fun entry _ =>
      (entryOf id).Succeeds (initial configuration host) fun first _ =>
        entry.linearization = first.linearization ∧ entry.table = first.table := by
  have isListed := List.getElem?_eq_getElem isBuiltin
  have firstAlike : Alike (fun _ => True) 0 (initial configuration host) _ :=
    alike_initial configuration host
  obtain ⟨definition, found⟩ := alike.coherent.keepsBuiltins.definition?_of_isListed isListed
  obtain ⟨firstDefinition, firstFound⟩ :=
    firstAlike.coherent.keepsBuiltins.definition?_of_isListed isListed
  refine (entryOf_succeeds alike found).mono fun entry _ ⟨isEntry, _⟩ => ?_
  refine (entryOf_succeeds firstAlike firstFound).mono fun first _ ⟨isFirst, _⟩ => ?_
  exact isFirst.table_eq_of_isListed isListed firstAlike.coherent firstFound alike.coherent found
    isEntry

/-- An operator on two integers gives the exact result if it fits, as it does through the slots. -/
theorem binary_integers {perform : Perform Host} (oblivious : perform.Oblivious (fun _ => True) 0)
    {kind : SlotKind} {operation : Int → Int → Int}
    (isOperator : Operator.IsWordOperator kind operation) (left right : Int64) :
    ∃ outcome next last,
      Operator.binary perform kind (.int left) (.int right) world = some (outcome, next) ∧
      Operator.evaluate perform kind (.int left) (.int right) world = some (outcome, last) ∧
      (∀ number : Int64, number.toInt = operation left.toInt right.toInt →
        outcome = .ok (.int number)) ∧
      (¬Word.Fits (operation left.toInt right.toInt) →
        outcome = .error (.integerOverflow kind.symbol)) := by
  obtain ⟨last, journal, _, isResult⟩ :=
    Operator.evaluate_integers alike perform isOperator left right
  have agree : world.RunsAlike (Operator.binary perform kind (.int left) (.int right))
      (Operator.evaluate perform kind (.int left) (.int right)) :=
    Operator.runsAlike_binary alike oblivious isOperator.isBinary _ _
  rw [RunsAlike] at agree
  rcases agree.cases with ⟨_, isNone⟩ | ⟨outcome, next, other, isBinary, isOther, _⟩
  · cases isNone.symm.trans isResult
  · cases isOther.symm.trans isResult
    refine ⟨_, next, _, isBinary, isResult, fun number isExact => ?_, fun isTooLarge => ?_⟩
    · rw [← isExact, Word.ofInt?_toInt]
      rfl
    · rw [Word.ofInt?_eq_none_iff.2 isTooLarge]
      rfl

end Agree

/-- In every reachable world the builtin types have the slots of the first world, and every answer that
is given past the slots is the answer of the slots. -/
theorem shortCuts_agree {world : World Host} (reachable : World.Reachable forged world) :
    world.ShortCutsAgree := by
  have alike : Alike (fun _ => True) 0 world world := reachable.forgeAll.alike
  have oblivious : ∀ program depth,
      (Machine.perform program depth : Perform Host).Oblivious (fun _ => True) 0 :=
    fun program depth =>
      oblivious_perform (Program.spares_of_forall (fun _ => trivial) program) depth 0
  exact
    { slots := fun id isBuiltin => entryOf_eq_initial alike isBuiltin
      binary := fun program depth kind isBinary left right =>
        Operator.runsAlike_binary alike (oblivious program depth) isBinary left right
      integers := fun program depth kind operation isOperator =>
        binary_integers alike (oblivious program depth) isOperator
      truth := fun program depth =>
        Protocol.runsAlike_truth alike _ (oblivious program depth)
      index := fun program depth =>
        Protocol.runsAlike_index alike _ (oblivious program depth)
      integer := fun program depth =>
        Protocol.runsAlike_integer alike _ (oblivious program depth)
      float := fun program depth =>
        Protocol.runsAlike_float alike _ (oblivious program depth)
      function := fun program depth _ name code arguments isUsual =>
        Protocol.runsAlike_function alike program depth arguments isUsual name code
      method := fun program depth _ function receiver arguments isUsual =>
        Protocol.runsAlike_method alike program depth arguments isUsual function receiver
      tuple := fun program depth _ items isUsual isDeep =>
        ⟨Protocol.collect_tuple _ isUsual items world,
          Protocol.collectBySlot_tuple alike program isUsual isDeep⟩ }

/-- The short cuts agree after a type was made from integers and the entry of integers was given
up. -/
theorem shortCuts_agree_meter :
    ∃ world : World Unit, World.Reachable (fun _ => True) world ∧
      (world.registry.definition? 13).map TypeDefinition.name = some "Meter" ∧
      (world.registry.definition? .int).map TypeDefinition.generation = some 1 ∧
      world.ShortCutsAgree := by
  let program : Program Unit := fun _ _ => do
    let _ ← Body.request (.createType "Meter" [.int] ⟨[("__add__", .none)]⟩)
    Body.request (.invalidate .int)
    return .none
  have isMade :
      ((perform program 2 (.apply "make" 0 []) (.initial .default ())).map fun answer =>
        ((answer.2.registry.definition? 13).map TypeDefinition.name,
          (answer.2.registry.definition? .int).map TypeDefinition.generation)) =
        some (some "Meter", some 1) := by
    decide +kernel
  obtain ⟨⟨outcome, world⟩, isOutcome, isFound⟩ := Option.map_eq_some_iff.1 isMade
  have reachable := World.Reachable.of_outcome isOutcome
  exact ⟨world, reachable, congrArg Prod.fst isFound, congrArg Prod.snd isFound,
    World.shortCuts_agree reachable⟩

end World

end SlotDispatch
