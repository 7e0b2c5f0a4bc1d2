import SlotDispatch.Protocol.Conversion
/-!
Operators on one, two, and three operands. An operator tries the steps of its plan until one does
not decline, and then falls back to the sequence slots.
-/

namespace SlotDispatch.Operator

open Invocation (operandArguments)

variable {Host : Type} (perform : Perform Host)

/-- An operator on one operand uses the slot of its kind. -/
def unary (kind : SlotKind) (operand : Value) : Action (World Host) Value :=
  if kind.arity ≠ 1 then Action.fail (.notUnary kind.name)
  else do
    let target ← Action.targetOf operand kind
    if target.isAbsent then Action.failFor (Error.badOperand kind.symbol) operand
    else Invocation.unary perform target operand

/-! ### Two operands -/

/-- The result of a plan is the result of its first step that does not decline. -/
def runPlan (left right third : Value) : Plan → Action (World Host) (Option Value)
  | [] => return none
  | step :: rest => do
      let result ← Invocation.ternary perform step.target step.side left right third
      if result.isNotImplemented then runPlan left right third rest else return some result

/-- The sum, difference, or product of two integers is computed at once when it fits a word. -/
def integerResult? (kind : SlotKind) (left right : Value) : Option Value :=
  match left, right with
  | .int leftNumber, .int rightNumber =>
      let result? : Option Int := match kind with
        | .add => some (leftNumber.toInt + rightNumber.toInt)
        | .subtract => some (leftNumber.toInt - rightNumber.toInt)
        | .multiply => some (leftNumber.toInt * rightNumber.toInt)
        | _ => none
      (result?.bind Word.ofInt?).map Value.int
  | _, _ => none

/-- No slot took the operands. -/
def unsupported (operation : String) (operands : List Value) : Action (World Host) Value := do
  let typeNames ← Action.reading fun world => operands.map world.typeName
  Action.fail (.unsupportedOperands operation typeNames)

/-- A sequence is repeated by a value of any type with an index slot. -/
def repeatSequence (target : SlotTarget) (sequence count : Value) : Action (World Host) Value := do
  if ← Action.hasSlot count .index then
    Invocation.size perform sequence (← Protocol.index perform count) target
  else Action.failFor Error.cannotRepeat count

/-- When all steps have declined, a sum concatenates the left operand, and a product repeats the
left or else the right operand. -/
def fallback (kind : SlotKind) (left right : Value) (leftEntry rightEntry : SlotEntry) :
    Action (World Host) Value :=
  match kind.sequenceFallback? with
  | some .sqConcat =>
      let target := leftEntry.target .sqConcat
      if target.isAbsent then unsupported kind.symbol [left, right]
      else Invocation.binary perform target .left left right
  | some .sqRepeat =>
      let leftTarget := leftEntry.target .sqRepeat
      let rightTarget := rightEntry.target .sqRepeat
      if !leftTarget.isAbsent then repeatSequence perform leftTarget left right
      else if !rightTarget.isAbsent then repeatSequence perform rightTarget right left
      else unsupported kind.symbol [left, right]
  | _ => unsupported kind.symbol [left, right]

/-- An operator on three operands runs its plan, and a third operand `None` counts as no operand. -/
def ternary (kind : SlotKind) (left right third : Value) : Action (World Host) Value :=
  if !kind.isTernary then Action.fail (.notTernary kind.name)
  else do
    let leftEntry ← Action.entryOf left.typeId
    let rightEntry ← Action.entryOf right.typeId
    let thirdEntry? ←
      if third.isNone then pure none else some <$> Action.entryOf third.typeId
    let plan := Plan.ternary kind leftEntry rightEntry thirdEntry?
    match ← runPlan perform left right third plan with
    | some result => return result
    | none => unsupported kind.symbol (left :: operandArguments right third)

/-- An operator on two operands runs its plan and then falls back. -/
def binary (kind : SlotKind) (left right : Value) : Action (World Host) Value :=
  if kind.isTernary then ternary perform kind left right .none
  else if !kind.isBinaryNumber then Action.fail (.notBinary kind.name)
  else
    match integerResult? kind left right with
    | some result => return result
    | none => do
        let leftEntry ← Action.entryOf left.typeId
        let rightEntry ← Action.entryOf right.typeId
        match ← runPlan perform left right .none (Plan.binary kind leftEntry rightEntry) with
        | some result => return result
        | none => fallback perform kind left right leftEntry rightEntry

/-! ### Call sites -/

/-- This is the key of two operands at a call site. -/
def probe (left right : Value) : Action (World Host) CacheKey := do
  let leftDefinition ← Action.definition left.typeId
  let rightDefinition ← Action.definition right.typeId
  return ⟨left.typeId, right.typeId, leftDefinition.generation, rightDefinition.generation⟩

/-- A call site records a plan, where a capacity bounds what it remembers. -/
def recordAt (site : Nat) (key : CacheKey) (plan : Plan) (capacity : Nat) :
    Action (World Host) Unit :=
  Action.change fun world =>
    { world with sites := world.sites.modify site fun callSite =>
        callSite.record key plan capacity }

/-- A plan that a call site does not remember is made and recorded. -/
def planAt (site : Nat) (callSite : CallSite) (left right : Value) :
    Action (World Host) Plan := do
  let key ← probe left right
  match callSite.lookup key with
  | some plan => return plan
  | none => do
      let leftEntry ← Action.entryOf left.typeId
      let rightEntry ← Action.entryOf right.typeId
      let plan := Plan.binary callSite.kind leftEntry rightEntry
      let key : CacheKey :=
        ⟨leftEntry.typeId, rightEntry.typeId, leftEntry.generation, rightEntry.generation⟩
      let world ← Action.current
      recordAt site key plan world.configuration.inlineCacheCapacity
      return plan

/-- A call site runs the plan that it remembers for the types of the operands. A site that may
remember nothing, or that has given up, evaluates the operator anew. -/
def cached (site : Nat) (left right : Value) : Action (World Host) Value := do
  let world ← Action.current
  match world.sites[site]? with
  | none => Action.fail (.unknownSite site)
  | some callSite =>
      let kind := callSite.kind
      if world.configuration.inlineCacheCapacity = 0 || callSite.isMegamorphic || !kind.isBinary
      then binary perform kind left right
      else
        match integerResult? kind left right with
        | some result => return result
        | none => do
            let plan ← planAt site callSite left right
            match ← runPlan perform left right .none plan with
            | some result => return result
            | none => do
                let leftEntry ← Action.entryOf left.typeId
                let rightEntry ← Action.entryOf right.typeId
                fallback perform kind left right leftEntry rightEntry

/-! ### Augmented assignment -/

/-- The special method of an augmented assignment is tried first, when the left type has one. -/
def inPlaceResult (kind : SlotKind) (left right : Value) : Action (World Host) Value := do
  let method? ← match kind.inPlaceDunder? with
    | none => pure none
    | some dunder => Action.lookup left.typeId dunder
  match method?.filter (!·.isNone) with
  | none => return .notImplemented
  | some method => Invocation.callSpecial perform method left [right]

/-- An augmented assignment falls back to the operator, and it reports unsupported operands of that
operator under its own symbol. -/
def inPlace (kind : SlotKind) (left right : Value) : Action (World Host) Value :=
  match kind.inPlaceSymbol? with
  | none => Action.fail (.notInPlace kind.name)
  | some symbol => do
      let result ← inPlaceResult perform kind left right
      if !result.isNotImplemented then return result
      else
        match ← Action.attempt (binary perform kind left right) with
        | .ok result => return result
        | .error error =>
            match error.kind with
            | .unsupportedOperandTypes operation _ =>
                if operation = kind.symbol then unsupported symbol [left, right]
                else Action.fail error
            | _ => Action.fail error

/-! ### Comparison -/

/-- One attempt asks one target with an operator. -/
structure Attempt where
  target : SlotTarget
  operator : Comparison
  left : Value
  right : Value

/-- A comparison tries both comparison slots, the right one with the reflected operator. The slot of
a proper subtype on the right goes first. -/
def attempts (operator : Comparison) (left right : Value) (leftEntry rightEntry : SlotEntry) :
    List Attempt :=
  let forward : Attempt := ⟨leftEntry.target .richCompare, operator, left, right⟩
  let reverse : Attempt := ⟨rightEntry.target .richCompare, operator.reflected, right, left⟩
  let inOrder :=
    if leftEntry.typeId ≠ rightEntry.typeId && rightEntry.isSubtypeOf leftEntry.typeId then
      [reverse, forward]
    else [forward, reverse]
  inOrder.filter fun attempt => !attempt.target.isAbsent

/-- The result of attempts is the result of the first one that does not decline. -/
def runAttempts : List Attempt → Action (World Host) (Option Value)
  | [] => return none
  | attempt :: rest => do
      let result ←
        Invocation.compare perform attempt.target attempt.operator attempt.left attempt.right
      if result.isNotImplemented then runAttempts rest else return some result

/-- When both slots decline, equality is identity and there is no order. -/
def compare (operator : Comparison) (left right : Value) : Action (World Host) Value := do
  let leftEntry ← Action.entryOf left.typeId
  let rightEntry ← Action.entryOf right.typeId
  match ← runAttempts perform (attempts operator left right leftEntry rightEntry) with
  | some result => return result
  | none =>
      match operator with
      | .eq => return .bool (left.isSame right)
      | .ne => return .bool (!left.isSame right)
      | _ => do
          let leftName ← Action.typeName left
          Action.failFor (Error.unsupportedComparison operator.symbol leftName) right

/-- A value is equal to itself without a comparison. -/
def compareTruth (operator : Comparison) (left right : Value) : Action (World Host) Bool :=
  match left.isSame right, operator with
  | true, .eq => return true
  | true, .ne => return false
  | _, _ => do Protocol.truth perform (← compare perform operator left right)

end SlotDispatch.Operator
