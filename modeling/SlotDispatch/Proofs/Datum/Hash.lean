import SlotDispatch.Proofs.Datum.Comparison
/-!
Hashes of data. The main statement says that the machine hashes a value as its datum says, in every
reachable world, and that values which it finds equal have the same hash.
-/

namespace SlotDispatch

open SlotDispatch.Action SlotDispatch.Machine

variable {Host : Type} {contents : Reference → Datum}

namespace Datum

mutual

/-- This is the hash of a datum before the reserved hash is replaced. -/
def ownHash : Datum → Int64
  | .none => 0x5f3759df
  | .notImplemented => 0x2545f491
  | .bool flag => if flag then 1 else 0
  | .int number => number
  | .text content => Hash.text content
  | .tuple items => Hash.tuple (hashItems items)
termination_by structural datum => datum

/-- These are the hashes of the items of a tuple, where the reserved hash is replaced. -/
def hashItems : List Datum → List Int64
  | [] => []
  | item :: rest => Hash.reserve item.ownHash :: hashItems rest
termination_by structural items => items

end

/-- This is the hash of a datum. -/
def hash (datum : Datum) : Int64 :=
  Hash.reserve datum.ownHash

theorem hash_ne (datum : Datum) : datum.hash ≠ -1 :=
  Hash.reserve_ne datum.ownHash

/-! ### Equal data -/

mutual

/-- A truth value has the hash of the number that it counts as. -/
theorem ownHash_counted (datum : Datum) : datum.counted.ownHash = datum.ownHash := by
  cases datum with
  | tuple items => rw [counted, ownHash, ownHash, hashItems_counted items]
  | _ => rfl
termination_by structural datum

theorem hashItems_counted (items : List Datum) : hashItems (countedItems items) = hashItems items := by
  cases items with
  | nil => rfl
  | cons item rest =>
      rw [countedItems, hashItems, hashItems, ownHash_counted item, hashItems_counted rest]
termination_by structural items

end

/-- Equal data have the same hash. -/
theorem hash_eq_of_equal {left right : Datum} (isEqual : left.Equal right) :
    left.hash = right.hash := by
  calc left.hash = left.counted.hash := by rw [hash, hash, ownHash_counted]
    _ = right.counted.hash := congrArg hash isEqual
    _ = right.hash := by rw [hash, hash, ownHash_counted]

/-! ### The machine -/

/-- This is the operation in the hash slot of a datum. -/
def hashing : Datum → Builtin
  | .none | .notImplemented => .objectHash
  | .bool _ | .int _ => .intHash
  | .text _ => .strHash
  | .tuple _ => .tupleHash

theorem target_hash (datum : Datum) :
    builtinTarget .hash ((Registry.initial 0).linearizationOf datum.typeId) =
      .builtin datum.hashing := by
  cases datum <;> rfl

/-- A machine that hashes the items of a tuple gives their hashes in order. -/
theorem gives_hashItems {perform : Perform Host} {depth : Nat}
    (gives : ∀ {value : Value} {datum : Datum}, value.Denotes contents datum → datum.depth ≤ depth →
      (perform.hash value).Gives (.ok datum.hash))
    {values : List Value} {items : List Datum}
    (denote : List.Forall₂ (Value.Denotes contents) values items)
    (isShallow : depthOfItems items ≤ depth) :
    (values.mapM perform.hash).Gives (.ok (hashItems items)) := by
  refine Gives.mapM ?_
  induction denote with
  | nil => exact .nil
  | cons isValue _ inductionHypothesis =>
      have isShallow := Nat.max_le.1 isShallow
      exact .cons (gives isValue isShallow.1) (inductionHypothesis isShallow.2)

/-- The hash of a value is its own hash, where the reserved hash is replaced. -/
theorem gives_protocolHash {perform : Perform Host} {value : Value} {datum : Datum}
    (isValue : value.Denotes contents datum)
    (gives : (Invocation.unary perform (.builtin datum.hashing) value).Gives
      (.ok (.int datum.ownHash))) :
    (Protocol.hash perform value).Gives (.ok datum.hash) := by
  obtain ⟨builtinType, isListed, _⟩ := isValue.exists_isListed
  refine (Gives.targetOf isListed .hash).bind ?_
  rw [isValue.typeId_eq, target_hash]
  exact gives.bind (.pure datum.hash)

/-- A machine hashes all data that have at most the depth of the machine. -/
theorem gives_hash (program : Program Host) {depth : Nat} {value : Value} {datum : Datum}
    (isValue : value.Denotes contents datum) (isShallow : datum.depth ≤ depth) :
    ((perform program depth).hash value).Gives (.ok datum.hash) := by
  induction depth generalizing value datum with
  | zero => exact absurd isShallow (Nat.not_le_of_lt datum.depth_pos)
  | succ depth inductionHypothesis =>
      apply gives_protocolHash isValue
      cases isValue with
      | tuple _ denote =>
          exact Gives.noted ((gives_hashItems inductionHypothesis denote
            (Nat.le_of_succ_le_succ isShallow)).bind (.pure _))
      | _ => exact Gives.noted (.pure _)

end Datum

/-- In every reachable world, two values that denote data have the hashes of their data, and they have the
same hash if they are found equal. -/
theorem World.hashes_data {forged : Nat → Prop} {world : World Host}
    (reachable : World.Reachable forged world) (program : Program Host) {left right : Value}
    {leftDatum rightDatum : Datum} (isLeft : left.Denotes contents leftDatum)
    (isRight : right.Denotes contents rightDatum) :
    leftDatum.hash ≠ -1 ∧ rightDatum.hash ≠ -1 ∧ ∃ isEqual,
      (isEqual = true → leftDatum.hash = rightDatum.hash) ∧
      ∀ depth, leftDatum.depth < depth → rightDatum.depth < depth →
        (perform program depth (.hash left)).Ends world (.ok leftDatum.hash) world.heap ∧
        (perform program depth (.hash right)).Ends world (.ok rightDatum.hash) world.heap ∧
        (perform program depth (.compareTruth .eq left right)).Ends world (.ok isEqual)
          world.heap := by
  have steady : world.Steady := reachable.forgeAll.alike
  obtain ⟨isEqual, isFlag, -⟩ := (Datum.settles_perform contents program leftDatum.depth).isEqual
    isLeft isRight (Nat.le_refl _)
  refine ⟨leftDatum.hash_ne, rightDatum.hash_ne, isEqual,
    fun isTrue => Datum.hash_eq_of_equal (isFlag.1 isTrue), fun depth isDeep isDeepRight => ?_⟩
  refine ⟨Datum.gives_hash program isLeft (Nat.le_of_lt isDeep) world steady,
    Datum.gives_hash program isRight (Nat.le_of_lt isDeepRight) world steady, ?_⟩
  obtain ⟨less, rfl⟩ : ∃ less, depth = less + 1 := ⟨depth - 1, by omega⟩
  obtain ⟨otherIsEqual, otherIsFlag, gives⟩ := (Datum.settles_perform contents program less).isEqual
    isLeft isRight (Nat.le_of_lt_succ isDeep)
  rw [Bool.eq_iff_iff.2 (isFlag.trans otherIsFlag.symm)]
  exact gives world steady

/-- After a change of types, a tuple with a truth value and the reserved hash among its items has the hash
of an equal tuple with a number. -/
theorem World.hashes_data_pair :
    ∃ (program : Program Unit) (world : World Unit), World.Reachable (fun _ => True) world ∧
      (world.registry.definition? .int).map TypeDefinition.generation = some 1 ∧
      ∃ contents left right leftDatum rightDatum, left.Denotes contents leftDatum ∧
        right.Denotes contents rightDatum ∧ leftDatum.depth < 3 ∧ rightDatum.depth < 3 ∧
        leftDatum ≠ rightDatum ∧ ∃ hash : Int64, hash ≠ -1 ∧
          (perform program 3 (.compareTruth .eq left right)).Ends world (.ok true) world.heap ∧
          (perform program 3 (.hash left)).Ends world (.ok hash) world.heap ∧
          (perform program 3 (.hash right)).Ends world (.ok hash) world.heap := by
  let program : Program Unit := fun _ _ => do
    let text ← Body.request (.allocate .str (.text "é") false)
    let _ ← Body.request (.allocate .tuple (.tuple [.bool true, .int (-1), text]) false)
    let _ ← Body.request (.allocate .tuple (.tuple [.int 1, .int (-1), text]) false)
    let _ ← Body.request (.createType "Meter" [.int] ⟨[("__hash__", .none)]⟩)
    Body.request (.invalidate .int)
    return .none
  let text : Value := .object ⟨.allocated 0, .str⟩ (.text "é")
  let left : Value := .object ⟨.allocated 1, .tuple⟩ (.tuple [.bool true, .int (-1), text])
  let right : Value := .object ⟨.allocated 2, .tuple⟩ (.tuple [.int 1, .int (-1), text])
  let leftDatum : Datum := .tuple [.bool true, .int (-1), .text "é"]
  let rightDatum : Datum := .tuple [.int 1, .int (-1), .text "é"]
  let contents : Reference → Datum := Datum.contentsOfPlaces [.text "é", leftDatum, rightDatum]
  have isMade :
      ((perform program 2 (.apply "make" 0 []) (.initial .default ())).map fun answer =>
        ((answer.2.registry.definition? .int).map TypeDefinition.generation,
          ((perform program 3).compareTruth .eq left right answer.2).map fun compared =>
            compared.1.toOption)) = some (some 1, some (some true)) := by
    decide +kernel
  obtain ⟨⟨outcome, world⟩, isOutcome, isFound⟩ := Option.map_eq_some_iff.1 isMade
  obtain ⟨isGeneration, isCompared⟩ := Prod.mk.inj isFound
  have reachable := World.Reachable.of_outcome isOutcome
  have isText : text.Denotes contents (.text "é") := .text rfl
  have isLeft : left.Denotes contents leftDatum :=
    .tuple rfl (.cons (.bool true) (.cons (.int (-1)) (.cons isText .nil)))
  have isRight : right.Denotes contents rightDatum :=
    .tuple rfl (.cons (.int 1) (.cons (.int (-1)) (.cons isText .nil)))
  obtain ⟨isReserved, _, isEqual, sameHash, ends⟩ :=
    World.hashes_data reachable program isLeft isRight
  obtain ⟨hashesLeft, hashesRight, compares⟩ := ends 3 (by decide) (by decide)
  have isTrue : isEqual = true := by
    obtain ⟨next, isNext, _⟩ := compares
    rw [Perform.compareTruth, isNext] at isCompared
    exact Option.some.inj (Option.some.inj isCompared)
  subst isTrue
  refine ⟨program, world, reachable, isGeneration, contents, left, right, leftDatum, rightDatum,
    isLeft, isRight, by decide, by decide, by simp [leftDatum, rightDatum], leftDatum.hash,
    isReserved, compares, hashesLeft, ?_⟩
  rw [sameHash rfl]
  exact hashesRight

end SlotDispatch
