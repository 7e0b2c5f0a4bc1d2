import SlotDispatch.Proofs.Datum.Order
import SlotDispatch.Proofs.Machine.Ending
import SlotDispatch.Proofs.Machine.Reachable
/-!
Comparisons of data by the machine. The main statement says that a comparison of two values that denote
data has the outcome that the data have, in every reachable world.
-/

namespace SlotDispatch

open SlotDispatch.Action SlotDispatch.Machine

variable {Host : Type} {contents : Reference → Datum}

namespace Datum

/-! ### Answers of comparison slots -/

/-- This is the operation in the comparison slot of a datum. -/
def comparison : Datum → Builtin
  | .none | .notImplemented => .objectRichCompare
  | .bool _ | .int _ => .intRichCompare
  | .text _ => .strRichCompare
  | .tuple _ => .tupleRichCompare

theorem target_richCompare (datum : Datum) :
    builtinTarget .richCompare ((Registry.initial 0).linearizationOf datum.typeId) =
      .builtin datum.comparison := by
  cases datum <;> rfl

/-- The comparison of objects knows equality and inequality of a value with itself only. -/
def identityAnswer (operator : Comparison) (isSame : Bool) : Value :=
  match operator, isSame with
  | .eq, true => .bool true
  | .ne, true => .bool false
  | _, _ => .notImplemented

/-- This test tells the datum of the single value `None`. -/
def isNone : Datum → Bool
  | .none => true
  | _ => false

/-- This test tells the datum of the single value with which a slot declines. -/
def isNotImplemented : Datum → Bool
  | .notImplemented => true
  | _ => false

/-- This is what the comparison slot of a datum answers for another datum, when one of the two is no
tuple. -/
def slotAnswer (operator : Comparison) (left right : Datum) : Value :=
  match left with
  | .none => identityAnswer operator right.isNone
  | .notImplemented => identityAnswer operator right.isNotImplemented
  | .bool _ | .int _ =>
      match left.number?, right.number? with
      | some leftNumber, some rightNumber =>
          .bool (operator.holds (Ord.compare leftNumber.toInt rightNumber.toInt))
      | _, _ => .notImplemented
  | .text content =>
      match right.text? with
      | some other => .bool (operator.holds (Builtin.Text.order content other))
      | Option.none => .notImplemented
  | .tuple _ => .notImplemented

/-- Two data of which one is no tuple are two numbers, two texts, one single value, or strangers, which
are not equal and have no order. -/
inductive Kinship : Datum → Datum → Prop
  | numbers {left right : Datum} {leftNumber rightNumber : Int64}
      (isLeft : left.number? = some leftNumber) (isRight : right.number? = some rightNumber) :
      Kinship left right
  | texts (left right : String) : Kinship (.text left) (.text right)
  | single {datum : Datum} (isSingle : datum = .none ∨ datum = .notImplemented) : Kinship datum datum
  | strangers {left right : Datum} (isUnequal : ¬left.Equal right) (hasNoOrder : ¬left.HasOrder right) :
      Kinship left right

theorem kinship_of_no_tuple {left right : Datum}
    (isNoTuple : left.items? = Option.none ∨ right.items? = Option.none) : Kinship left right := by
  by_cases hasOrder : left.HasOrder right
  · rcases hasOrder with ⟨isLeft, isRight⟩ | ⟨isLeft, isRight⟩ | ⟨isLeft, isRight⟩
    · obtain ⟨leftNumber, isLeft⟩ := Option.isSome_iff_exists.1 isLeft
      obtain ⟨rightNumber, isRight⟩ := Option.isSome_iff_exists.1 isRight
      exact .numbers isLeft isRight
    · cases left with
      | text left =>
          cases right with
          | text right => exact .texts left right
          | _ => cases isRight
      | _ => cases isLeft
    · rcases isNoTuple with isNone | isNone
      · simp [isNone] at isLeft
      · simp [isNone] at isRight
  · by_cases isEqual : left.Equal right
    · cases left <;> cases right <;>
        simp_all [Equal, counted, HasOrder, number?, text?, items?, Kinship.single]
    · exact .strangers isEqual hasOrder

section Answer

variable {operator : Comparison} {left right : Datum}

theorem slotAnswer_of_numbers {leftNumber rightNumber : Int64}
    (isLeft : left.number? = some leftNumber) (isRight : right.number? = some rightNumber) :
    slotAnswer operator left right =
      .bool (operator.holds (Ord.compare leftNumber.toInt rightNumber.toInt)) := by
  cases left with
  | bool | int =>
      rw [slotAnswer, isLeft, isRight]
  | _ => cases isLeft

theorem slotAnswer_of_strangers (isUnequal : ¬left.Equal right) (hasNoOrder : ¬left.HasOrder right) :
    slotAnswer operator left right = .notImplemented := by
  cases left <;> cases right <;>
    simp_all [slotAnswer, HasOrder, number?, text?, items?, Equal, identityAnswer, isNone,
      isNotImplemented]

theorem order_swap (left right : String) :
    Builtin.Text.order right left = (Builtin.Text.order left right).swap :=
  Std.OrientedOrd.eq_swap

/-- Both comparison slots answer alike. -/
theorem slotAnswer_reflected (kinship : Kinship left right) :
    slotAnswer operator.reflected right left = slotAnswer operator left right := by
  cases kinship with
  | numbers isLeft isRight =>
      rw [slotAnswer_of_numbers isLeft isRight, slotAnswer_of_numbers isRight isLeft,
        Comparison.holds_reflected, ← Std.OrientedOrd.eq_swap]
  | texts left right =>
      show Value.bool _ = Value.bool _
      rw [Comparison.holds_reflected, ← order_swap]
  | single isSingle =>
      rcases isSingle with rfl | rfl <;> cases operator <;> rfl
  | strangers isUnequal hasNoOrder =>
      rw [slotAnswer_of_strangers isUnequal hasNoOrder, slotAnswer_of_strangers]
      · exact fun isEqual => isUnequal isEqual.symm
      · unfold HasOrder at hasNoOrder ⊢
        tauto

/-- A comparison slot decides the comparison, or it declines data without an order that are not equal if
equality is asked for. -/
theorem Kinship.answer_cases (kinship : Kinship left right) (operator : Comparison) :
    (∃ flag, slotAnswer operator left right = .bool flag ∧
      Compares operator left right (.ok (.bool flag))) ∨
    (slotAnswer operator left right = .notImplemented ∧
      (operator = .eq ∨ operator = .ne → ¬left.Equal right) ∧ ¬left.HasOrder right) := by
  cases kinship with
  | numbers isLeft isRight =>
      exact .inl ⟨_, slotAnswer_of_numbers isLeft isRight, compares_numbers isLeft isRight⟩
  | texts left right => exact .inl ⟨_, rfl, compares_texts left right⟩
  | single isSingle =>
      have hasNoOrder : ¬left.HasOrder left := by
        rcases isSingle with rfl | rfl <;> simp [HasOrder, number?, text?, items?]
      have isAnswer : slotAnswer operator left left = identityAnswer operator true := by
        rcases isSingle with rfl | rfl <;> rfl
      rw [isAnswer]
      cases operator with
      | eq => exact .inl ⟨true, rfl, .equal rfl (iff_of_true rfl rfl)⟩
      | ne => exact .inl ⟨false, rfl, .unequal rfl (by simp [Equal])⟩
      | lt | le | gt | ge => exact .inr ⟨rfl, by simp, hasNoOrder⟩
  | strangers isUnequal hasNoOrder =>
      exact .inr ⟨slotAnswer_of_strangers isUnequal hasNoOrder, fun _ => isUnequal, hasNoOrder⟩

/-- A comparison that does not fail has a truth value as its result. -/
theorem Orders.exists_flag {outcome : Except Error Value}
    (orders : Orders operator left right outcome) {result : Value} (isOk : outcome = .ok result) :
    ∃ flag, result = .bool flag := by
  induction orders with
  | numbers | texts | lengths => exact ⟨_, (Except.ok.inj isOk).symm⟩
  | items _ _ inductionHypothesis => exact inductionHypothesis isOk
  | unordered => cases isOk

theorem Compares.exists_flag {result : Value} (compares : Compares operator left right (.ok result)) :
    ∃ flag, result = .bool flag := by
  cases compares with
  | equal => exact ⟨_, rfl⟩
  | unequal => exact ⟨_, rfl⟩
  | ordered _ orders => exact orders.exists_flag rfl

end Answer

/-! ### Attempts of the machine -/

section Attempts

variable {perform : Perform Host} {operator : Comparison} {value other : Value} {left right : Datum}

/-- When all attempts have the same answer, it decides unless they decline. -/
theorem gives_runAttempts {answer : Value} {attempts : List Operator.Attempt}
    (agree : ∀ attempt ∈ attempts, (Invocation.compare perform attempt.target attempt.operator
      attempt.left attempt.right).Gives (.ok answer))
    (isAsked : attempts ≠ [] ∨ answer.isNotImplemented = true) :
    (Operator.runAttempts perform attempts).Gives
      (.ok (if answer.isNotImplemented then Option.none else some answer)) := by
  induction attempts with
  | nil =>
      rw [if_pos (isAsked.resolve_left fun isAsked => isAsked rfl)]
      exact .pure _
  | cons attempt rest inductionHypothesis =>
      refine (agree attempt (List.mem_cons_self ..)).bind ?_
      by_cases declines : answer.isNotImplemented = true
      · rw [if_pos declines]
        exact inductionHypothesis (fun later isLater => agree later (List.mem_cons_of_mem _ isLater))
          (.inr declines)
      · rw [if_neg declines, if_neg declines]
        exact .pure _

/-- The first attempt decides when it does not decline. -/
theorem gives_runAttempts_cons {attempt : Operator.Attempt} {rest : List Operator.Attempt}
    {outcome : Except Error Value}
    (gives : (Invocation.compare perform attempt.target attempt.operator attempt.left
      attempt.right).Gives outcome)
    (decides : ∀ result, outcome = .ok result → result.isNotImplemented = false) :
    (Operator.runAttempts perform (attempt :: rest)).Gives (outcome.map some) := by
  cases outcome with
  | error error => exact gives.bind_error
  | ok result =>
      refine gives.bind ?_
      rw [if_neg (by simp [decides result rfl])]
      exact .pure _

/-- When no attempt decides, equality is identity, and there is no order. -/
def unsettled (operator : Comparison) (isSame : Bool) (left right : Datum) : Except Error Value :=
  match operator with
  | .eq => .ok (.bool isSame)
  | .ne => .ok (.bool !isSame)
  | _ => .error (.unsupportedComparison operator.symbol left.typeName right.typeName)

theorem compares_unsettled {isSame : Bool} (isIdentity : isSame = true → left = right)
    (isUnequal : operator = .eq ∨ operator = .ne → ¬left.Equal right)
    (hasNoOrder : ¬left.HasOrder right) :
    Compares operator left right (unsettled operator isSame left right) := by
  have isDifferent : operator = .eq ∨ operator = .ne → isSame = false := by
    intro isAsked
    refine Bool.eq_false_iff.2 fun isSame => isUnequal isAsked ?_
    rw [isIdentity isSame]
    exact rfl
  cases operator with
  | eq =>
      rw [isDifferent (.inl rfl)]
      exact .equal rfl (iff_of_false Bool.false_ne_true (isUnequal (.inl rfl)))
  | ne =>
      rw [isDifferent (.inr rfl)]
      exact .unequal rfl (iff_of_true rfl (isUnequal (.inr rfl)))
  | lt | le | gt | ge => exact .ordered (by decide) (.unordered hasNoOrder)

/-- A comparison attempts the slot of its left operand and the slot of its right operand. -/
theorem mem_attempts {leftEntry rightEntry : SlotEntry} {attempt : Operator.Attempt}
    (isAttempt : attempt ∈ Operator.attempts operator value other leftEntry rightEntry) :
    attempt = ⟨leftEntry.target .richCompare, operator, value, other⟩ ∨
      attempt = ⟨rightEntry.target .richCompare, operator.reflected, other, value⟩ := by
  have isMember := (List.mem_filter.1 isAttempt).1
  split at isMember <;> simp only [List.mem_cons, List.not_mem_nil, or_false] at isMember
  · exact isMember.symm
  · exact isMember

theorem attempts_ne_nil {leftEntry rightEntry : SlotEntry} {operation : Builtin}
    (isTarget : leftEntry.target .richCompare = .builtin operation) :
    Operator.attempts operator value other leftEntry rightEntry ≠ [] := by
  refine List.ne_nil_of_mem (List.mem_filter.2
    ⟨(?_ : Operator.Attempt.mk (leftEntry.target .richCompare) operator value other ∈ _), ?_⟩)
  · split <;> simp
  · rw [isTarget]
    rfl

/-- A comparison has the outcome of its attempts, and the operator settles what they do not. -/
theorem gives_compare (operator : Comparison) (isValue : value.Denotes contents left)
    (isOther : other.Denotes contents right) (decided : Except Error (Option Value))
    (gives : ∀ leftEntry rightEntry : SlotEntry,
      leftEntry.typeId = value.typeId → rightEntry.typeId = other.typeId →
      leftEntry.target .richCompare = .builtin left.comparison →
      rightEntry.target .richCompare = .builtin right.comparison →
      (Operator.runAttempts perform
        (Operator.attempts operator value other leftEntry rightEntry)).Gives decided) :
    (Operator.compare perform operator value other).Gives
      (decided.bind fun result? => result?.elim (unsettled operator (value.isSame other) left right)
        .ok) := by
  obtain ⟨leftType, leftListed, leftName⟩ := isValue.exists_isListed
  obtain ⟨rightType, rightListed, rightName⟩ := isOther.exists_isListed
  refine Gives.entryOf_bind leftListed fun leftEntry leftId leftTargets => ?_
  refine Gives.entryOf_bind rightListed fun rightEntry rightId rightTargets => ?_
  have gives := gives leftEntry rightEntry leftId rightId
    (by rw [leftTargets, isValue.typeId_eq, target_richCompare])
    (by rw [rightTargets, isOther.typeId_eq, target_richCompare])
  rcases decided with error | _ | result
  · exact gives.bind_error
  · refine gives.bind ?_
    cases operator with
    | eq => exact .pure _
    | ne => exact .pure _
    | lt | le | gt | ge =>
        show Gives _ (.error (.unsupportedComparison _ left.typeName right.typeName))
        rw [← leftName, ← rightName]
        exact (Gives.typeName leftListed).bind (.failFor rightListed _)
  · exact gives.bind (.pure _)

end Attempts

/-! ### One tuple at most -/

section NoTuple

variable {program : Program Host} {depth : Nat} {operator : Comparison} {value other : Value}
  {left right : Datum}

/-- The comparison of objects tells a single value from all others. -/
theorem gives_identityAnswer (isValue : value.Denotes contents left)
    (isObject : left.comparison = .objectRichCompare) (operator : Comparison) (other : Value) :
    (Builtin.Object.compare (perform program (depth + 1)) operator value other).Gives
      (.ok (identityAnswer operator (value.isSame other))) := by
  have isEquality : ∀ perform : Perform Host,
      (Builtin.Object.compare perform .eq value other).Gives
        (.ok (identityAnswer .eq (value.isSame other))) := by
    intro perform
    rw [Builtin.Object.compare]
    cases value.isSame other <;> exact .pure _
  cases operator with
  | eq => exact isEquality _
  | ne =>
      obtain ⟨builtinType, isListed, _⟩ := isValue.exists_isListed
      refine (Gives.targetOf isListed .richCompare).bind ?_
      rw [isValue.typeId_eq, target_richCompare, isObject]
      have isEqual : ((perform program (depth + 1)).invokeCompare (.builtin .objectRichCompare) .eq
          value other).Gives (.ok (identityAnswer .eq (value.isSame other))) :=
        (isEquality (perform program depth)).noted
      refine isEqual.bind ?_
      cases value.isSame other with
      | false => exact .pure _
      | true =>
          have isTrue : ((perform program (depth + 1)).truth (.bool true)).Gives (.ok true) := .pure _
          exact isTrue.bind (.pure _)
  | lt | le | gt | ge => exact .pure _

/-- The comparison slot of a value answers as its datum does. -/
theorem gives_slotAnswer (isValue : value.Denotes contents left) (isOther : other.Denotes contents right)
    (isNoTuple : left.items? = Option.none ∨ right.items? = Option.none) (operator : Comparison) :
    (Invocation.compare (perform program (depth + 1)) (.builtin left.comparison) operator value
      other).Gives (.ok (slotAnswer operator left right)) := by
  cases isValue with
  | none =>
      have isSame : Value.none.isSame other = right.isNone := by
        cases isOther <;> rfl
      rw [slotAnswer, ← isSame]
      exact (gives_identityAnswer (.none : Value.none.Denotes contents .none) rfl operator other).noted
  | notImplemented =>
      have isSame : Value.notImplemented.isSame other = right.isNotImplemented := by
        cases isOther <;> rfl
      rw [slotAnswer, ← isSame]
      exact (gives_identityAnswer (.notImplemented : Value.notImplemented.Denotes contents _) rfl
        operator other).noted
  | bool | int =>
      refine Gives.noted ?_
      rw [Builtin.Integer.withIntegers, isOther.integer?_eq, slotAnswer]
      cases right.number? <;> exact .ofExcept _
  | text =>
      refine Gives.noted ?_
      rw [Builtin.Text.compare, isOther.text?_eq, slotAnswer]
      cases right.text? <;> exact .ofExcept _
  | tuple =>
      refine Gives.noted ?_
      have isMissing : other.items? = Option.none :=
        isOther.items?_eq_none (isNoTuple.resolve_left fun isNone => by cases isNone)
      rw [Builtin.Tuple.compare, isMissing]
      exact .pure _

/-- Two values of which one is no tuple are compared as their data are. -/
theorem exists_compares_of_no_tuple (isValue : value.Denotes contents left)
    (isOther : other.Denotes contents right)
    (isNoTuple : left.items? = Option.none ∨ right.items? = Option.none) :
    ∃ outcome, Compares operator left right outcome ∧
      (Operator.compare (perform program (depth + 1)) operator value other).Gives outcome := by
  have kinship := kinship_of_no_tuple isNoTuple
  have gives : (Operator.compare (perform program (depth + 1)) operator value other).Gives _ :=
    gives_compare operator isValue isOther (.ok (if (slotAnswer operator left right).isNotImplemented
      then Option.none else some (slotAnswer operator left right))) ?_
  · rcases kinship.answer_cases operator with
      ⟨flag, isAnswer, compares⟩ | ⟨isAnswer, isUnequal, hasNoOrder⟩
    · rw [isAnswer] at gives
      exact ⟨_, compares, gives⟩
    · rw [isAnswer] at gives
      exact ⟨_, compares_unsettled (isValue.eq_of_isSame isOther) isUnequal hasNoOrder, gives⟩
  · intro leftEntry rightEntry _ _ leftTarget rightTarget
    refine gives_runAttempts (fun attempt isAttempt => ?_) (.inl (attempts_ne_nil leftTarget))
    rcases mem_attempts isAttempt with rfl | rfl
    · dsimp only
      rw [leftTarget]
      exact gives_slotAnswer isValue isOther isNoTuple operator
    · dsimp only
      rw [rightTarget, ← slotAnswer_reflected kinship]
      exact gives_slotAnswer isOther isValue isNoTuple.symm operator.reflected

end NoTuple

/-! ### Two tuples -/

/-- A machine settles data up to a depth when it compares all values that denote such data as the data
are compared, and tells whether they are equal. -/
structure Settles (contents : Reference → Datum) (perform : Perform Host) (depth : Nat) : Prop where
  compare {left right : Datum} {value other : Value} (isValue : value.Denotes contents left)
    (isOther : other.Denotes contents right) (isShallow : left.depth ≤ depth)
    (operator : Comparison) :
    ∃ outcome, Compares operator left right outcome ∧
      (perform.compare operator value other).Gives outcome
  isEqual {left right : Datum} {value other : Value} (isValue : value.Denotes contents left)
    (isOther : other.Denotes contents right) (isShallow : left.depth ≤ depth) :
    ∃ flag, (flag = true ↔ left.Equal right) ∧
      (perform.compareTruth .eq value other).Gives (.ok flag)

section Tuple

variable {perform : Perform Host} {depth : Nat} {operator : Comparison}

/-- The items of two tuples are compared as the tuples of their data are. -/
theorem exists_compares_items (settles : Settles contents perform depth) (operator : Comparison)
    {values others : List Value} {lefts rights : List Datum}
    (areValues : List.Forall₂ (Value.Denotes contents) values lefts)
    (areOthers : List.Forall₂ (Value.Denotes contents) others rights)
    (isShallow : depthOfItems lefts ≤ depth) :
    ∃ outcome, Compares operator (.tuple lefts) (.tuple rights) outcome ∧
      (Builtin.Tuple.compareItems perform operator values others).Gives outcome := by
  induction areValues generalizing others rights with
  | nil =>
      refine ⟨_, compares_lengths (.inl List.nil_prefix), ?_⟩
      rw [← areOthers.length_eq]
      cases others <;> exact .pure _
  | @cons value left values lefts isValue areValues inductionHypothesis =>
      have isShallow := Nat.max_le.1 isShallow
      cases areOthers with
      | nil => exact ⟨_, compares_lengths (.inr List.nil_prefix), by
          rw [List.length_cons, ← areValues.length_eq]
          exact .pure _⟩
      | @cons other right others rights isOther areOthers =>
          obtain ⟨flag, isFlag, gives⟩ := settles.isEqual isValue isOther isShallow.1
          cases flag with
          | true =>
              obtain ⟨outcome, compares, givesRest⟩ := inductionHypothesis areOthers isShallow.2
              exact ⟨outcome, compares.cons (isFlag.1 rfl), gives.bind givesRest⟩
          | false =>
              have isUnequal : ¬left.Equal right := fun isEqual => nomatch isFlag.2 isEqual
              have areUnequal := not_equal_tuple_cons lefts rights isUnequal
              cases operator with
              | eq =>
                  exact ⟨_, .equal rfl (iff_of_false Bool.false_ne_true areUnequal),
                    gives.bind (.pure _)⟩
              | ne => exact ⟨_, .unequal rfl (iff_of_true rfl areUnequal), gives.bind (.pure _)⟩
              | lt | le | gt | ge =>
                  obtain ⟨outcome, compares, givesItem⟩ :=
                    settles.compare isValue isOther isShallow.1 _
                  exact ⟨outcome, compares.head isUnequal (by decide), gives.bind givesItem⟩

/-- Two tuples are compared as their data are. -/
theorem exists_compares_tuples (settles : Settles contents perform depth) (operator : Comparison)
    {value other : Value} {lefts rights : List Datum} (isValue : value.Denotes contents (.tuple lefts))
    (isOther : other.Denotes contents (.tuple rights)) (isShallow : depthOfItems lefts ≤ depth) :
    ∃ outcome, Compares operator (.tuple lefts) (.tuple rights) outcome ∧
      (Operator.compare perform operator value other).Gives outcome := by
  have sameType : value.typeId = other.typeId := isValue.typeId_eq.trans isOther.typeId_eq.symm
  have isCompared : ∃ outcome, Compares operator (.tuple lefts) (.tuple rights) outcome ∧
      (Builtin.Tuple.compare perform operator value other).Gives outcome := by
    cases isValue with
    | tuple _ areValues =>
        cases isOther with
        | tuple _ areOthers =>
            exact exists_compares_items settles operator areValues areOthers isShallow
  obtain ⟨outcome, compares, gives⟩ := isCompared
  have decides : ∀ result, outcome = .ok result → result.isNotImplemented = false := by
    rintro result rfl
    obtain ⟨flag, rfl⟩ := compares.exists_flag
    rfl
  refine ⟨outcome, compares, ?_⟩
  have givesAll : (Operator.compare perform operator value other).Gives _ :=
    gives_compare operator isValue isOther (outcome.map some) ?_
  · cases outcome <;> exact givesAll
  · intro leftEntry rightEntry leftId rightId leftTarget rightTarget
    have sameId : leftEntry.typeId = rightEntry.typeId := by rw [leftId, rightId, sameType]
    have inOrder : Operator.attempts operator value other leftEntry rightEntry =
        [⟨.builtin .tupleRichCompare, operator, value, other⟩,
          ⟨.builtin .tupleRichCompare, operator.reflected, other, value⟩] := by
      simp [Operator.attempts, sameId, leftTarget, rightTarget, comparison, SlotTarget.isAbsent]
    rw [inOrder]
    exact gives_runAttempts_cons gives.noted decides

end Tuple

/-! ### All data -/

/-- A comparison that decides equality decides it as a truth value, and identical values are equal
without it. -/
theorem exists_isEqual {perform : Perform Host} {left right : Datum} {value other : Value}
    (isValue : value.Denotes contents left) (isOther : other.Denotes contents right)
    (isCompared : ∃ outcome, Compares .eq left right outcome ∧
      (Operator.compare perform .eq value other).Gives outcome) :
    ∃ flag, (flag = true ↔ left.Equal right) ∧
      (Operator.compareTruth perform .eq value other).Gives (.ok flag) := by
  cases isSame : value.isSame other with
  | true =>
      obtain rfl := isValue.eq_of_isSame isOther isSame
      refine ⟨true, iff_of_true rfl (equal_equivalence.refl left), ?_⟩
      unfold Operator.compareTruth
      rw [isSame]
      exact .pure true
  | false =>
      obtain ⟨outcome, compares, gives⟩ := isCompared
      cases compares with
      | @equal _ flag isFlag =>
          refine ⟨flag, isFlag, ?_⟩
          unfold Operator.compareTruth
          rw [isSame]
          exact gives.bind (.pure flag)
      | unequal isInequality => cases isInequality
      | ordered isOrder => exact absurd rfl isOrder.1

/-- A machine settles all data that have less depth than the machine. A tuple takes one depth, and its
items are settled by the machine below. -/
theorem settles_perform (contents : Reference → Datum) (program : Program Host) (depth : Nat) :
    Settles contents (perform program (depth + 1)) depth := by
  induction depth with
  | zero =>
      exact
        { compare := fun _ _ isShallow => absurd isShallow (Nat.not_le_of_lt (depth_pos _))
          isEqual := fun _ _ isShallow => absurd isShallow (Nat.not_le_of_lt (depth_pos _)) }
  | succ depth inductionHypothesis =>
      have compares : ∀ {left right : Datum} {value other : Value}, value.Denotes contents left →
          other.Denotes contents right → left.depth ≤ depth + 1 → ∀ operator,
          ∃ outcome, Compares operator left right outcome ∧
            (Operator.compare (perform program (depth + 1)) operator value other).Gives outcome := by
        intro left right value other isValue isOther isShallow operator
        cases hasLeft : left.items? with
        | none => exact exists_compares_of_no_tuple isValue isOther (.inl hasLeft)
        | some lefts =>
            cases hasRight : right.items? with
            | none => exact exists_compares_of_no_tuple isValue isOther (.inr hasRight)
            | some rights =>
                obtain rfl := eq_tuple_of_items? hasLeft
                obtain rfl := eq_tuple_of_items? hasRight
                exact exists_compares_tuples inductionHypothesis operator isValue isOther
                  (Nat.le_of_succ_le_succ isShallow)
      exact
        { compare := compares
          isEqual := fun isValue isOther isShallow =>
            exists_isEqual isValue isOther (compares isValue isOther isShallow .eq) }

end Datum

/-- In every reachable world, a comparison of two values that denote data ends with the one outcome that
the data have, and equality of data is an equivalence. -/
theorem World.compares_data {forged : Nat → Prop} {world : World Host}
    (reachable : World.Reachable forged world) (program : Program Host) {left right : Value}
    {leftDatum rightDatum : Datum} (isLeft : left.Denotes contents leftDatum)
    (isRight : right.Denotes contents rightDatum) :
    Equivalence Datum.Equal ∧ ∀ operator, ∃ outcome,
      (∀ other, Datum.Compares operator leftDatum rightDatum other ↔ other = outcome) ∧
      ∀ depth, leftDatum.depth < depth →
        (perform program depth (.compare operator left right)).Ends world outcome world.heap := by
  refine ⟨Datum.equal_equivalence, fun operator => ?_⟩
  obtain ⟨outcome, compares, -⟩ := (Datum.settles_perform contents program leftDatum.depth).compare
    isLeft isRight (Nat.le_refl _) operator
  refine ⟨outcome, fun other => ⟨fun otherCompares => otherCompares.unique compares, ?_⟩, ?_⟩
  · rintro rfl
    exact compares
  · intro depth isDeep
    obtain ⟨less, rfl⟩ : ∃ less, depth = less + 1 := ⟨depth - 1, by omega⟩
    obtain ⟨deepOutcome, deepCompares, gives⟩ := (Datum.settles_perform contents program less).compare
      isLeft isRight (Nat.le_of_lt_succ isDeep) operator
    rw [compares.unique deepCompares]
    exact gives world reachable.forgeAll.alike

/-- After a change of types, two nested tuples are found different in their last items, which have no
order. -/
theorem World.compares_data_nested :
    ∃ (program : Program Unit) (world : World Unit), World.Reachable (fun _ => True) world ∧
      (world.registry.definition? .int).map TypeDefinition.generation = some 1 ∧
      ∃ contents left right leftDatum rightDatum, left.Denotes contents leftDatum ∧
        right.Denotes contents rightDatum ∧ leftDatum.depth < 4 ∧
        Datum.Compares .lt leftDatum rightDatum
          (.error (.unsupportedComparison "<" "bool" "NoneType")) ∧
        (perform program 4 (.compare .lt left right)).Ends world
          (.error (.unsupportedComparison "<" "bool" "NoneType")) world.heap := by
  let program : Program Unit := fun _ _ => do
    let text ← Body.request (.allocate .str (.text "é") false)
    let inner ← Body.request (.allocate .tuple (.tuple [text, .bool true]) false)
    let _ ← Body.request (.allocate .tuple (.tuple [.bool true, inner]) false)
    let other ← Body.request (.allocate .tuple (.tuple [text, .none]) false)
    let _ ← Body.request (.allocate .tuple (.tuple [.int 1, other]) false)
    let _ ← Body.request (.createType "Meter" [.int] ⟨[("__lt__", .none)]⟩)
    Body.request (.invalidate .int)
    return .none
  let text : Value := .object ⟨.allocated 0, .str⟩ (.text "é")
  let leftInner : Value := .object ⟨.allocated 1, .tuple⟩ (.tuple [text, .bool true])
  let left : Value := .object ⟨.allocated 2, .tuple⟩ (.tuple [.bool true, leftInner])
  let rightInner : Value := .object ⟨.allocated 3, .tuple⟩ (.tuple [text, .none])
  let right : Value := .object ⟨.allocated 4, .tuple⟩ (.tuple [.int 1, rightInner])
  let leftItem : Datum := .tuple [.text "é", .bool true]
  let rightItem : Datum := .tuple [.text "é", .none]
  let contents : Reference → Datum := Datum.contentsOfPlaces
    [.text "é", leftItem, .tuple [.bool true, leftItem], rightItem, .tuple [.int 1, rightItem]]
  have isMade :
      ((perform program 2 (.apply "make" 0 []) (.initial .default ())).map fun answer =>
        (answer.2.registry.definition? .int).map TypeDefinition.generation) = some (some 1) := by
    decide +kernel
  obtain ⟨⟨outcome, world⟩, isOutcome, isGeneration⟩ := Option.map_eq_some_iff.1 isMade
  have reachable := World.Reachable.of_outcome isOutcome
  have isText : text.Denotes contents (.text "é") := .text rfl
  have isLeft : left.Denotes contents (.tuple [.bool true, leftItem]) :=
    .tuple rfl (.cons (.bool true) (.cons
      (.tuple rfl (.cons isText (.cons (.bool true) .nil))) .nil))
  have isRight : right.Denotes contents (.tuple [.int 1, rightItem]) :=
    .tuple rfl (.cons (.int 1) (.cons (.tuple rfl (.cons isText (.cons .none .nil))) .nil))
  have differ : Datum.DifferFirst [.bool true, leftItem] [.int 1, rightItem] leftItem rightItem := by
    refine ⟨1, rfl, rfl, ?_, rfl⟩
    simp [leftItem, rightItem, Datum.Equal, Datum.counted, Datum.countedItems]
  have itemsDiffer : Datum.DifferFirst [.text "é", .bool true] [.text "é", .none] (.bool true)
      .none := by
    refine ⟨1, rfl, rfl, ?_, rfl⟩
    simp [Datum.Equal, Datum.counted]
  have hasNoOrder : ¬Datum.HasOrder (.bool true) .none := by
    simp [Datum.HasOrder, Datum.number?, Datum.text?, Datum.items?]
  have compares : Datum.Compares .lt (.tuple [.bool true, leftItem]) (.tuple [.int 1, rightItem])
      (.error (.unsupportedComparison "<" "bool" "NoneType")) :=
    .ordered (by decide) (.items differ (.items itemsDiffer (.unordered hasNoOrder)))
  obtain ⟨outcome, isUnique, ends⟩ := (World.compares_data reachable program isLeft isRight).2 .lt
  obtain rfl := (isUnique _).1 compares
  exact ⟨program, world, reachable, isGeneration, contents, left, right, _, _, isLeft, isRight,
    by decide, compares, ends 4 (by decide)⟩

end SlotDispatch
