import SlotDispatch.Proofs.Machine.Builtins
import SlotDispatch.Protocol.Attribute
import SlotDispatch.Protocol.Container
import SlotDispatch.Protocol.Iteration
/-!
The invocation of targets and the protocols above it under a judgement. The main statements say that
invocations of targets that resemble each other are related, as long as the targets fit the slot that
they are invoked for.
-/

namespace SlotDispatch

open SlotDispatch.Action

/-! ### Shapes that can be invoked -/

/-- These are the shapes that the form of invocation for a kind can run. -/
def SlotKind.shapes : SlotKind → List Shape
  | .negative | .positive | .absolute | .invert | .index | .int | .float | .bool | .hash | .iter
  | .iterNext | .repr => [.unary, .inquiry, .length]
  | .sqLength | .mpLength => [.unary, .length]
  | .add | .subtract | .multiply | .remainder | .divmod | .lshift | .rshift | .and | .xor | .or
  | .floorDivide | .trueDivide | .matrixMultiply | .sqConcat | .mpSubscript => [.binary, .ternary]
  | .power => [.ternary]
  | .sqRepeat | .sqItem => [.size]
  | .sqAssItem | .mpAssSubscript | .descrSet => [.store]
  | .getAttr => [.getAttr]
  | .setAttr => [.setAttr]
  | .descrGet => [.simpleDescrGet, .descrGet]
  | .richCompare => [.compare]
  | .call => [.call]

/-- Every operation has a shape that can be invoked for the slot that it fills. -/
theorem Builtin.shape_mem_shapes (operation : Builtin) : operation.shape ∈ operation.kind.shapes := by
  cases operation <;> decide

namespace Judgement

variable {Host Moment : Type} [Preorder Moment] {judgement : Judgement Host Moment}
  {kind : SlotKind} {target : SlotTarget} {operation : Builtin} (suits : judgement.Suits kind target)

theorem Suits.inherited {definition : Override} {inherited : SlotTarget}
    (suits : judgement.Suits kind (.override definition inherited)) :
    judgement.Suits kind inherited :=
  suits.imp_right And.right

theorem Suits.mem_shapes (suits : judgement.Suits kind (.builtin operation)) :
    judgement.IsLenient ∨ operation.shape ∈ kind.shapes := by
  rcases suits with isLenient | rfl
  · exact .inl isLenient
  · exact .inr operation.shape_mem_shapes

include suits

theorem Suits.mem_shapes_of_reach {dunder : String}
    (reaches : target.reach dunder = .builtin operation) :
    judgement.IsLenient ∨ operation.shape ∈ kind.shapes := by
  rcases suits with isLenient | fits
  · exact .inl isLenient
  · exact .inr (fits.kind_of_reach reaches ▸ operation.shape_mem_shapes)

theorem Suits.mem_shapes_of_reachBy {dunder? : SlotKind → Option String}
    (reaches : target.reachBy dunder? = .builtin operation) :
    judgement.IsLenient ∨ operation.shape ∈ kind.shapes := by
  rcases suits with isLenient | fits
  · exact .inl isLenient
  · exact .inr (fits.kind_of_reachBy reaches ▸ operation.shape_mem_shapes)

end Judgement

end SlotDispatch

namespace SlotDispatch.Invocation

open SlotDispatch.Action

variable {Host Moment Result : Type} [Preorder Moment] {judgement : Judgement Host Moment}
  {moment : Moment} {first second : Perform Host} {kind : SlotKind} {target other : SlotTarget}

/-- An operation is not invoked in a shape that its slot has none of. -/
theorem related_mismatch {shapes : List Shape} {shape : Shape}
    (accepted : judgement.IsLenient ∨ shape ∈ shapes) (isOther : shape ∉ shapes)
    (operation : Builtin) (kind : SlotKind) :
    judgement.Respects moment (mismatch operation kind : Action (World Host) Result) :=
  accepted.elim (fun isLenient => judgement.fail (.inl isLenient))
    fun isMember => absurd isMember isOther

/-- Two machines run an operation by related implementations, in a shape that the slot accepts. -/
theorem exists_implementations (performs : judgement.Performs first second) {operation : Builtin}
    {shapes : List Shape} (accepted : judgement.IsLenient ∨ operation.shape ∈ shapes) :
    ∃ run otherRun, operation.implementation first = run ∧
      operation.implementation second = otherRun ∧ judgement.Implements run otherRun ∧
      (judgement.IsLenient ∨ run.shape ∈ shapes) :=
  ⟨_, _, rfl, rfl, operation.implements performs,
    (Builtin.shape_implementation first operation).symm ▸ accepted⟩

theorem related_lengthOf (result : Value) : judgement.Respects moment (lengthOf result) := by
  rw [lengthOf]
  split
  · exact related_failFor (by grind) result
  · split
    · exact .fail (by grind)
    · exact .pure _

/-- A bridge says what happens when an override has declined from the left, and the right operand may
have the same override. -/
abbrev Bridge (Host : Type) : Type :=
  Override → Value → Value → Action (World Host) Value

/-- A target is invoked for one side, and a bridge follows its forward method. -/
def ternaryBy (bridge : Bridge Host) (perform : Perform Host) (target : SlotTarget) (side : Side)
    (left right third : Value) : Action (World Host) Value :=
  match target with
  | .override definition _ =>
      if side = .right && !third.isNone then return .notImplemented
      else do
        let result ← sideCall perform target side left right third
        if result.isNotImplemented && side = .left && third.isNone then bridge definition left right
        else return result
  | _ => sideCall perform target side left right third

theorem ternary_eq_ternaryBy (perform : Perform Host) :
    ternary perform = ternaryBy (sharedReflected perform) perform := rfl

/-- Two bridges are related between two targets when they are for the overrides of the targets. -/
def Bridges (judgement : Judgement Host Moment) (moment : Moment) (bridge next : Bridge Host)
    (target other : SlotTarget) : Prop :=
  ∀ definition inherited otherDefinition otherInherited, target = .override definition inherited →
    other = .override otherDefinition otherInherited → ∀ left right,
      judgement.Relates moment (bridge definition left right) (next otherDefinition left right)

/-- Only operators have a reflected method. -/
theorem sharedReflected_of_not_isBinary (perform : Perform Host) {definition : Override}
    (notBinary : definition.kind.isBinary = false) (left right : Value) :
    sharedReflected perform definition left right = return .notImplemented := by
  rw [sharedReflected, notBinary, if_pos (by simp)]

section Performs

variable (performs : judgement.Performs first second)

include performs

theorem related_callSpecial (method receiver : Value) (arguments : List Value) :
    judgement.Relates moment (callSpecial first method receiver arguments)
      (callSpecial second method receiver arguments) := by
  unfold callSpecial
  split
  · exact performs.ask (.apply _ _ _) trivial
  · exact (performs.ask (.descriptorGet _ _ _) trivial).bind fun bound =>
      performs.ask (.call bound arguments) trivial

/-! ### Operators -/

theorem related_builtinUnary {operation : Builtin}
    (accepted : judgement.IsLenient ∨ operation.shape ∈ [.unary, .inquiry, .length])
    (operand : Value) :
    judgement.Relates moment (builtinUnary first operation operand)
      (builtinUnary second operation operand) := by
  obtain ⟨run, otherRun, isRun, isOther, implements, accepted⟩ :=
    exists_implementations performs accepted
  rw [builtinUnary, builtinUnary, isRun, isOther]
  cases implements with
  | unary related => exact judgement.noted _ _ _ (related moment operand)
  | inquiry | length => exact judgement.noted _ _ _ (.pure _)
  | _ => exact related_mismatch accepted (by simp [Implementation.shape]) _ _

theorem related_builtinTernary {operation : Builtin} (left right third : Value)
    (accepted : judgement.IsLenient ∨
      operation.shape ∈ if third.isNone then [.binary, .ternary] else [.ternary]) :
    judgement.Relates moment (builtinTernary first operation left right third)
      (builtinTernary second operation left right third) := by
  obtain ⟨run, otherRun, isRun, isOther, implements, accepted⟩ :=
    exists_implementations performs accepted
  rw [builtinTernary, builtinTernary, isRun, isOther]
  cases implements with
  | ternary related => exact judgement.noted _ _ _ (related moment left right third)
  | binary related =>
      cases isNone : third.isNone with
      | true => exact judgement.noted _ _ _ (related moment left right)
      | false =>
          exact related_mismatch accepted (by simp [Implementation.shape, isNone]) _ _
  | _ =>
      refine related_mismatch accepted ?_ _ _
      split <;> simp [Implementation.shape]

section Target

variable (resembles : target.Resembles other) (suits : judgement.Suits kind target)

include resembles suits

theorem related_unary (isUnary : kind.shapes ⊆ [.unary, .inquiry, .length]) (operand : Value) :
    judgement.Relates moment (unary first target operand) (unary second other operand) := by
  unfold unary
  rw [resembles.forward]
  cases reaches : target.forward with
  | method method => exact related_callSpecial performs method operand []
  | builtin operation =>
      exact related_builtinUnary performs
        ((suits.mem_shapes_of_reachBy reaches).imp_right fun isMember => isUnary isMember) operand
  | blocked | absent => exact .pure _

/-- The right side has a reflected implementation, and the other sides have a forward one. -/
theorem related_sideCall (side : Side) (left right third : Value)
    (isTernary : kind.shapes ⊆ if third.isNone then [.binary, .ternary] else [.ternary]) :
    judgement.Relates moment (sideCall first target side left right third)
      (sideCall second other side left right third) := by
  have operates : ∀ {dunder? : SlotKind → Option String} {operation : Builtin},
      target.reachBy dunder? = .builtin operation →
      judgement.Relates moment (builtinTernary first operation left right third)
        (builtinTernary second operation left right third) := fun reaches =>
    related_builtinTernary performs left right third
      ((suits.mem_shapes_of_reachBy reaches).imp_right fun isMember => isTernary isMember)
  unfold sideCall
  rw [resembles.forward, resembles.reflected]
  cases side with
  | right =>
      dsimp only
      cases reaches : target.reflected with
      | method method => exact related_callSpecial performs method right _
      | builtin operation => exact operates reaches
      | blocked | absent => exact .pure _
  | left | third =>
      dsimp only
      cases reaches : target.forward with
      | method method => exact related_callSpecial performs method left _
      | builtin operation => exact operates reaches
      | blocked | absent => exact .pure _

theorem related_ternaryBy {bridge next : Bridge Host} (side : Side) (left right third : Value)
    (isTernary : kind.shapes ⊆ if third.isNone then [.binary, .ternary] else [.ternary])
    (bridges : Bridges judgement moment bridge next target other) :
    judgement.Relates moment (ternaryBy bridge first target side left right third)
      (ternaryBy next second other side left right third) := by
  have called : judgement.Relates moment _ _ :=
    related_sideCall performs resembles suits side left right third isTernary
  cases resembles with
  | absent => exact called
  | builtin => exact called
  | override =>
      simp only [ternaryBy]
      by_cases isUnanswered : (side = .right && !third.isNone) = true
      · simp only [if_pos isUnanswered]
        exact .pure _
      · simp only [if_neg isUnanswered]
        refine called.bind fun result => ?_
        by_cases isBridged : (result.isNotImplemented && side = .left && third.isNone) = true
        · simp only [if_pos isBridged]
          exact bridges _ _ _ _ rfl rfl left right
        · simp only [if_neg isBridged]
          exact .pure _

theorem related_ternary (side : Side) (left right third : Value)
    (isTernary : kind.shapes ⊆ if third.isNone then [.binary, .ternary] else [.ternary])
    (bridges : Bridges judgement moment (sharedReflected first) (sharedReflected second) target
      other) :
    judgement.Relates moment (ternary first target side left right third)
      (ternary second other side left right third) :=
  related_ternaryBy performs resembles suits side left right third isTernary bridges

theorem related_compare (isCompare : kind.shapes ⊆ [.compare]) (operator : Comparison)
    (left right : Value) :
    judgement.Relates moment (compare first target operator left right)
      (compare second other operator left right) := by
  unfold compare
  rw [resembles.reach]
  cases reaches : target.reach operator.dunder with
  | method method => exact related_callSpecial performs method left [right]
  | builtin operation =>
      obtain ⟨run, otherRun, isRun, isOther, implements, accepted⟩ := exists_implementations performs
        ((suits.mem_shapes_of_reach reaches).imp_right fun isMember => isCompare isMember)
      dsimp only
      rw [isRun, isOther]
      cases implements with
      | compare related => exact judgement.noted _ _ _ (related moment operator left right)
      | _ => exact related_mismatch accepted (by simp [Implementation.shape]) _ _
  | blocked | absent => exact .pure _

/-! ### Results of a fixed type -/

theorem related_length (isLength : kind.shapes ⊆ [.unary, .length]) (operand : Value) :
    judgement.Relates moment (length first target operand) (length second other operand) := by
  unfold length
  rw [resembles.reach]
  cases reaches : target.reach "__len__" with
  | method method =>
      exact (related_callSpecial performs method operand []).bind fun result =>
        related_lengthOf result
  | builtin operation =>
      obtain ⟨run, otherRun, isRun, isOther, implements, accepted⟩ := exists_implementations performs
        ((suits.mem_shapes_of_reach reaches).imp_right fun isMember => isLength isMember)
      dsimp only
      rw [isRun, isOther]
      cases implements with
      | length run => exact judgement.noted _ _ _ (.pure _)
      | unary related =>
          exact Judgement.Relates.bind (judgement.noted _ _ _ (related moment operand))
            fun result => related_lengthOf result
      | _ => exact related_mismatch accepted (by simp [Implementation.shape]) _ _
  | blocked | absent => exact related_failFor (by grind) operand

theorem related_inquiry (isUnary : kind.shapes ⊆ [.unary, .inquiry, .length]) (operand : Value) :
    judgement.Relates moment (inquiry first target operand) (inquiry second other operand) := by
  refine (related_unary performs resembles suits isUnary operand).bind fun result => ?_
  split
  · exact .pure _
  · exact related_failFor (by grind) result

theorem related_hash (isUnary : kind.shapes ⊆ [.unary, .inquiry, .length]) (operand : Value) :
    judgement.Relates moment (hash first target operand) (hash second other operand) := by
  refine (related_unary performs resembles suits isUnary operand).bind fun result => ?_
  split
  · exact .pure _
  · exact .fail (by grind)

/-! ### Sequences and stores -/

theorem related_size (isSize : kind.shapes ⊆ [.size]) (operand : Value) (count : Int64) :
    judgement.Relates moment (size first operand count target)
      (size second operand count other) := by
  induction resembles with
  | absent => exact .pure _
  | builtin operation =>
      obtain ⟨run, otherRun, isRun, isOther, implements, accepted⟩ := exists_implementations performs
        (suits.mem_shapes.imp_right fun isMember => isSize isMember)
      rw [size, size, isRun, isOther]
      cases implements with
      | size related => exact judgement.noted _ _ _ (related moment operand count)
      | _ => exact related_mismatch accepted (by simp [Implementation.shape]) _ _
  | override _ _ _ _ inductionHypothesis => exact inductionHypothesis suits.inherited

theorem related_store (isStore : kind.shapes ⊆ [.store]) (receiver key : Value)
    (content? : Option Value) :
    judgement.Relates moment (store first target receiver key content?)
      (store second other receiver key content?) := by
  unfold store
  rw [resembles.reachBy]
  cases reaches : target.reachBy (storeDunder? content?.isNone) with
  | method method =>
      exact (related_callSpecial performs method receiver _).bind fun _ => .pure _
  | builtin operation =>
      obtain ⟨run, otherRun, isRun, isOther, implements, accepted⟩ := exists_implementations performs
        ((suits.mem_shapes_of_reachBy reaches).imp_right fun isMember => isStore isMember)
      dsimp only
      rw [isRun, isOther]
      cases implements with
      | store related =>
          exact Judgement.Relates.bind
            (judgement.noted _ _ _ (related moment receiver key content?)) fun _ => .pure _
      | _ => exact related_mismatch accepted (by simp [Implementation.shape]) _ _
  | blocked | absent => exact .pure _

/-! ### Attributes, descriptors, and calls -/

theorem related_getAttribute (isGetAttr : kind.shapes ⊆ [.getAttr]) (value : Value)
    (name : String) :
    judgement.Relates moment (getAttribute first value name target)
      (getAttribute second value name other) := by
  have called : ∀ method : Value, judgement.Relates moment
      (do callSpecial first method value [← Action.text name])
      (do callSpecial second method value [← Action.text name]) := fun method =>
    (related_text name).bind fun text => related_callSpecial performs method value [text]
  induction resembles with
  | absent => exact related_failFor (by grind) value
  | builtin operation =>
      obtain ⟨run, otherRun, isRun, isOther, implements, accepted⟩ := exists_implementations performs
        (suits.mem_shapes.imp_right fun isMember => isGetAttr isMember)
      rw [getAttribute, getAttribute, isRun, isOther]
      cases implements with
      | getAttr related => exact judgement.noted _ _ _ (related moment value name)
      | _ => exact related_mismatch accepted (by simp [Implementation.shape]) _ _
  | @override definition otherDefinition inherited otherInherited _ _ sameMethods _
      inductionHypothesis =>
      have sameBinding : ∀ dunder, otherDefinition.binding dunder = definition.binding dunder := by
        intro dunder
        rw [Override.binding, sameMethods, Override.binding]
      rw [getAttribute, getAttribute]
      simp only [sameBinding]
      refine judgement.rescue ?_ (fun result => ?_) fun error => ?_
      · split
        · exact called _
        · exact inductionHypothesis suits.inherited
        · exact inductionHypothesis suits.inherited
      · exact .pure result
      · cases definition.binding "__getattr__" with
        | method hook =>
            dsimp only
            split
            · exact .inr (called hook)
            · exact .inl ⟨rfl, rfl⟩
        | blocked | inherited => exact .inl ⟨rfl, rfl⟩

theorem related_setAttribute (isSetAttr : kind.shapes ⊆ [.setAttr]) (value : Value)
    (name : String) (content? : Option Value) :
    judgement.Relates moment (setAttribute first target value name content?)
      (setAttribute second other value name content?) := by
  unfold setAttribute
  rw [resembles.reach]
  cases reaches : target.reach (if content?.isSome then "__setattr__" else "__delattr__") with
  | method method =>
      exact (related_text name).bind fun text =>
        (related_callSpecial performs method value _).bind fun _ => .pure _
  | builtin operation =>
      obtain ⟨run, otherRun, isRun, isOther, implements, accepted⟩ := exists_implementations performs
        ((suits.mem_shapes_of_reach reaches).imp_right fun isMember => isSetAttr isMember)
      dsimp only
      rw [isRun, isOther]
      cases implements with
      | setAttr related => exact judgement.noted _ _ _ (related moment value name content?)
      | _ => exact related_mismatch accepted (by simp [Implementation.shape]) _ _
  | blocked | absent => exact related_failFor (by grind) value

theorem related_descriptorGet (isDescrGet : kind.shapes ⊆ [.simpleDescrGet, .descrGet])
    (descriptor : Value) (instance? : Option Value) (owner : TypeId) :
    judgement.Relates moment (descriptorGet first target descriptor instance? owner)
      (descriptorGet second other descriptor instance? owner) := by
  unfold descriptorGet
  rw [resembles.reach]
  cases reaches : target.reach "__get__" with
  | method method =>
      exact (related_typeObject owner).bind fun ownerObject =>
        related_callSpecial performs method descriptor _
  | builtin operation =>
      obtain ⟨run, otherRun, isRun, isOther, implements, accepted⟩ := exists_implementations performs
        ((suits.mem_shapes_of_reach reaches).imp_right fun isMember => isDescrGet isMember)
      dsimp only
      rw [isRun, isOther]
      cases implements with
      | simpleDescrGet related =>
          exact judgement.noted _ _ _ (related moment descriptor instance?)
      | descrGet related =>
          exact judgement.noted _ _ _ (related moment descriptor instance? owner)
      | _ => exact related_mismatch accepted (by simp [Implementation.shape]) _ _
  | blocked | absent => exact .pure _

theorem related_call (isCall : kind.shapes ⊆ [.call]) (callee : Value) (arguments : List Value) :
    judgement.Relates moment (call first target callee arguments)
      (call second other callee arguments) := by
  unfold call
  rw [resembles.reach]
  cases reaches : target.reach "__call__" with
  | method method => exact related_callSpecial performs method callee arguments
  | builtin operation =>
      obtain ⟨run, otherRun, isRun, isOther, implements, accepted⟩ := exists_implementations performs
        ((suits.mem_shapes_of_reach reaches).imp_right fun isMember => isCall isMember)
      dsimp only
      rw [isRun, isOther]
      cases implements with
      | call related => exact judgement.noted _ _ _ (related moment callee arguments)
      | _ => exact related_mismatch accepted (by simp [Implementation.shape]) _ _
  | blocked | absent => exact related_failFor (by grind) callee

end Target

/-! ### Bridges -/

/-- A judgement under which both runs show equal targets relates the shared reflected methods. -/
theorem related_sharedReflected
    (isExact : ∀ {moment kind left right}, judgement.Shows moment kind left right → right = left)
    (definition : Override) (left right : Value) :
    judgement.Relates moment (sharedReflected first definition left right)
      (sharedReflected second definition left right) := by
  unfold sharedReflected
  split
  · exact .pure _
  · refine related_targetOf_bind right definition.kind fun later _ target other shows => ?_
    obtain rfl := isExact shows
    dsimp only
    split
    · exact related_callSpecial performs _ right [left]
    · exact .pure _

theorem bridges_of_exact
    (isExact : ∀ {moment kind left right}, judgement.Shows moment kind left right → right = left)
    (isSame : other = target) :
    Bridges judgement moment (sharedReflected first) (sharedReflected second) target other := by
  rintro definition inherited otherDefinition otherInherited rfl rfl left right
  obtain ⟨rfl, rfl⟩ := SlotTarget.override.inj isSame
  exact related_sharedReflected performs isExact otherDefinition left right

/-- A slot without a reflected method has nothing to bridge, unless its target may be of another
kind. -/
theorem bridges_of_not_isBinary (shows : judgement.Shows moment kind target other)
    (notBinary : kind.isBinary = false) :
    Bridges judgement moment (sharedReflected first) (sharedReflected second) target other := by
  rcases judgement.suits shows with isLenient | fits
  · exact bridges_of_exact performs (fun shown => judgement.exact isLenient shown)
      (judgement.exact isLenient shows)
  · rintro definition inherited otherDefinition otherInherited rfl rfl left right
    have sameKind : otherDefinition.kind = definition.kind := by
      cases judgement.resembles shows with
      | override _ sameKind _ _ => exact sameKind
    rw [sharedReflected_of_not_isBinary first (fits.1 ▸ notBinary),
      sharedReflected_of_not_isBinary second (sameKind ▸ fits.1 ▸ notBinary)]
    exact .pure _

end Performs

end SlotDispatch.Invocation

namespace SlotDispatch.Protocol

open SlotDispatch.Action

variable {Host Moment : Type} [Preorder Moment] {judgement : Judgement Host Moment}
  {moment : Moment} {first second : Perform Host}

/-- The slot that gives the length is shown for one of the two kinds that may give it. -/
theorem firstTarget_shows {entry other : SlotEntry}
    (shows : SlotEntry.Shows (judgement.Shows moment) entry other) :
    (firstTarget entry lengthOrder).Resembles (firstTarget other lengthOrder) ∧
      ∃ kind ∈ lengthOrder, judgement.Suits kind (firstTarget entry lengthOrder) := by
  have sequence := judgement.resembles (shows.target .sqLength)
  have mapping := judgement.resembles (shows.target .mpLength)
  simp only [firstTarget, lengthOrder, List.map_cons, List.map_nil, List.find?_cons,
    sequence.isAbsent, mapping.isAbsent]
  cases (entry.target .sqLength).isAbsent with
  | false => exact ⟨sequence, .sqLength, by simp, judgement.suits (shows.target .sqLength)⟩
  | true =>
      cases (entry.target .mpLength).isAbsent with
      | false => exact ⟨mapping, .mpLength, by simp, judgement.suits (shows.target .mpLength)⟩
      | true => exact ⟨.absent, .mpLength, by simp, .inr trivial⟩

theorem shapes_of_mem_lengthOrder {kind : SlotKind} (isMember : kind ∈ lengthOrder) :
    kind.shapes ⊆ [.unary, .length] := by
  revert kind
  decide

variable (performs : judgement.Performs first second)

include performs

/-! ### Conversions -/

theorem related_hash (value : Value) :
    judgement.Relates moment (hash first value) (hash second value) :=
  related_unlessAbsent value .hash (fun _ _ => related_failFor (by grind) value)
    fun _ _ _ _ resembles suits =>
      Invocation.related_hash performs resembles suits (by decide) value

theorem related_truth (value : Value) :
    judgement.Relates moment (truth first value) (truth second value) := by
  unfold truth
  split
  · exact .pure _
  · exact .pure _
  · exact .pure _
  · refine judgement.entryOf value.typeId fun later _ entry other shows => ?_
    obtain ⟨resembles, kind, isMember, suits⟩ := firstTarget_shows shows
    have truths := shows.target .bool
    dsimp only
    rw [(judgement.resembles truths).isAbsent, resembles.isAbsent]
    split
    · exact Invocation.related_inquiry performs (judgement.resembles truths)
        (judgement.suits truths) (by decide) value
    · split
      · exact (Invocation.related_length performs resembles suits
          (shapes_of_mem_lengthOrder isMember) value).bind fun _ => .pure _
      · exact .pure _

theorem related_index (value : Value) :
    judgement.Relates moment (index first value) (index second value) := by
  unfold index
  split
  · exact .pure _
  · refine related_unlessAbsent value .index (fun _ _ => related_failFor (by grind) value)
      fun _ _ _ _ resembles suits => ?_
    refine (Invocation.related_unary performs resembles suits (by decide) value).bind
      fun result => ?_
    split
    · exact .pure _
    · exact related_failFor (by grind) result

theorem related_integer (value : Value) :
    judgement.Relates moment (integer first value) (integer second value) := by
  unfold integer
  split
  · exact .pure _
  · refine related_unlessAbsent value .int (fun _ _ => ?_) fun _ _ _ _ resembles suits => ?_
    · refine (related_hasSlot value .index).bind fun hasIndex => ?_
      split
      · exact related_index performs value
      · exact related_failFor (by grind) value
    · refine (Invocation.related_unary performs resembles suits (by decide) value).bind
        fun result => ?_
      split
      · exact .pure _
      · exact related_failFor (by grind) result

theorem related_float (value : Value) :
    judgement.Relates moment (float first value) (float second value) := by
  unfold float
  split
  · exact .pure _
  · refine related_unlessAbsent value .float (fun _ _ => ?_) fun _ _ _ _ resembles suits => ?_
    · refine (related_hasSlot value .index).bind fun hasIndex => ?_
      split
      · exact (related_index performs value).bind fun _ => .pure _
      · exact related_failFor (by grind) value
    · refine (Invocation.related_unary performs resembles suits (by decide) value).bind
        fun result => ?_
      split
      · exact .pure _
      · exact (related_typeName value).bind fun _ => related_failFor (by grind) result

theorem related_repr (value : Value) :
    judgement.Relates moment (repr first value) (repr second value) := by
  refine related_targetOf_bind value .repr fun later _ target other shows => ?_
  refine (Invocation.related_unary performs (judgement.resembles shows) (judgement.suits shows)
    (by decide) value).bind fun result => ?_
  split
  · exact .pure _
  · exact related_failFor (by grind) result

/-! ### Attributes, descriptors, and calls -/

theorem related_call (callee : Value) (arguments : List Value) :
    judgement.Relates moment (call first callee arguments) (call second callee arguments) := by
  fun_induction call first callee arguments with
  | case1 =>
      rw [call]
      exact performs.ask (.apply _ _ _) trivial
  | case2 _ _ _ _ inductionHypothesis =>
      rw [call]
      exact inductionHypothesis
  | case3 callee arguments notFunction notMethod =>
      rw [call]
      · exact related_targetOf_bind callee .call fun later _ target other shows =>
          Invocation.related_call performs (judgement.resembles shows) (judgement.suits shows)
            (by decide) callee arguments
      · exact notFunction
      · exact notMethod

theorem related_newInstance (id : TypeId) (arguments : List Value) :
    judgement.Relates moment (newInstance first id arguments) (newInstance second id arguments) :=
  (related_typeObject id).bind fun object => related_call performs object arguments

theorem related_getAttribute (value : Value) (name : String) :
    judgement.Relates moment (getAttribute first value name) (getAttribute second value name) :=
  related_targetOf_bind value .getAttr fun _ _ _ _ shows =>
    Invocation.related_getAttribute performs (judgement.resembles shows) (judgement.suits shows)
      (by decide) value name

theorem related_setAttribute (value : Value) (name : String) (content? : Option Value) :
    judgement.Relates moment (setAttribute first value name content?)
      (setAttribute second value name content?) :=
  related_targetOf_bind value .setAttr fun _ _ _ _ shows =>
    Invocation.related_setAttribute performs (judgement.resembles shows) (judgement.suits shows)
      (by decide) value name content?

theorem related_descriptorGet (descriptor : Value) (instance? : Option Value) (owner : TypeId) :
    judgement.Relates moment (descriptorGet first descriptor instance? owner)
      (descriptorGet second descriptor instance? owner) :=
  related_targetOf_bind descriptor .descrGet fun _ _ _ _ shows =>
    Invocation.related_descriptorGet performs (judgement.resembles shows) (judgement.suits shows)
      (by decide) descriptor instance? owner

theorem related_descriptorSet (descriptor receiver : Value) (content? : Option Value) :
    judgement.Relates moment (descriptorSet first descriptor receiver content?)
      (descriptorSet second descriptor receiver content?) := by
  refine related_targetOf_bind descriptor .descrSet fun later _ target other shows => ?_
  refine (Invocation.related_store performs (judgement.resembles shows) (judgement.suits shows)
    (by decide) descriptor receiver content?).bind fun handled => ?_
  split
  · exact .pure _
  · exact related_failFor (by grind) descriptor

/-! ### Containers -/

theorem related_length (value : Value) :
    judgement.Relates moment (length first value) (length second value) := by
  refine judgement.entryOf value.typeId fun later _ entry other shows => ?_
  obtain ⟨resembles, kind, isMember, suits⟩ := firstTarget_shows shows
  dsimp only
  rw [resembles.isAbsent]
  split
  · exact related_failFor (by grind) value
  · exact Invocation.related_length performs resembles suits (shapes_of_mem_lengthOrder isMember)
      value

theorem related_sequenceIndex (value key : Value) :
    judgement.Relates moment (sequenceIndex first value key) (sequenceIndex second value key) := by
  refine (related_hasSlot key .index).bind fun hasIndex => ?_
  split
  · exact related_index performs key
  · exact (related_typeName value).bind fun _ => related_failFor (by grind) key

theorem related_getItem (value key : Value) :
    judgement.Relates moment (getItem first value key) (getItem second value key) := by
  refine judgement.entryOf value.typeId fun later _ entry other shows => ?_
  have mapping := shows.target .mpSubscript
  have sequence := shows.target .sqItem
  dsimp only
  rw [(judgement.resembles mapping).isAbsent, (judgement.resembles sequence).isAbsent]
  split
  · exact Invocation.related_ternary performs (judgement.resembles mapping)
      (judgement.suits mapping) .left value key .none (by decide)
      (Invocation.bridges_of_not_isBinary performs mapping rfl)
  · split
    · exact (related_sequenceIndex performs value key).bind fun place =>
        Invocation.related_size performs (judgement.resembles sequence)
          (judgement.suits sequence) (by decide) value place
    · exact related_failFor (by grind) value

theorem related_storeItem (value key : Value) (content? : Option Value) :
    judgement.Relates moment (storeItem first value key content?)
      (storeItem second value key content?) := by
  refine judgement.entryOf value.typeId fun later _ entry other shows => ?_
  have mapping := shows.target .mpAssSubscript
  have sequence := shows.target .sqAssItem
  dsimp only
  rw [(judgement.resembles sequence).isAbsent]
  refine (Invocation.related_store performs (judgement.resembles mapping)
    (judgement.suits mapping) (by decide) value key content?).bind fun handled => ?_
  split
  · exact .pure _
  · exact (related_sequenceIndex performs value key).bind fun place =>
      Invocation.related_store performs (judgement.resembles sequence)
        (judgement.suits sequence) (by decide) value (.int place) content?

theorem related_setItem (value key content : Value) :
    judgement.Relates moment (setItem first value key content)
      (setItem second value key content) := by
  refine (related_storeItem performs value key (some content)).bind fun handled => ?_
  split
  · exact .pure _
  · exact related_failFor (by grind) value

theorem related_deleteItem (value key : Value) :
    judgement.Relates moment (deleteItem first value key) (deleteItem second value key) := by
  refine (related_storeItem performs value key none).bind fun handled => ?_
  split
  · exact .pure _
  · exact related_failFor (by grind) value

/-! ### Iteration -/

theorem related_iter (value : Value) :
    judgement.Relates moment (iter first value) (iter second value) := by
  refine related_unlessAbsent value .iter (fun _ _ => related_failFor (by grind) value)
    fun _ _ _ _ resembles suits => ?_
  refine (Invocation.related_unary performs resembles suits (by decide) value).bind
    fun iterator => ?_
  refine (related_hasSlot iterator .iterNext).bind fun isIterator => ?_
  split
  · exact .pure _
  · exact related_failFor (by grind) iterator

theorem related_next (iterator : Value) :
    judgement.Relates moment (next first iterator) (next second iterator) := by
  refine related_unlessAbsent iterator .iterNext (fun _ _ => related_failFor (by grind) iterator)
    fun _ _ _ _ resembles suits => ?_
  refine judgement.rescue (Invocation.related_unary performs resembles suits (by decide) iterator)
    (fun item => .pure (some item)) fun error => ?_
  dsimp only
  split
  · exact .inr (.pure none)
  · exact .inl ⟨rfl, rfl⟩

theorem related_drain (iterator : Value) :
    judgement.Relates moment (drain first iterator) (drain second iterator) := by
  refine (related_next performs iterator).bind fun item? => ?_
  split
  · exact .pure _
  · exact (performs.ask (.drain iterator) trivial).bind fun _ => .pure _

theorem related_collect (value : Value) :
    judgement.Relates moment (collect first value) (collect second value) := by
  unfold collect
  split
  · exact .pure _
  · exact (related_iter performs value).bind fun iterator => related_drain performs iterator

end SlotDispatch.Protocol
