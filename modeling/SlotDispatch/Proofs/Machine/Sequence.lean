import SlotDispatch.Proofs.Machine.ShortCut
import SlotDispatch.Proofs.Sequence
/-!
Sequences of the machine. The main statement says that texts and tuples are lists of items for all
operations on sequences, although these go through different slots.
-/

namespace SlotDispatch

open SlotDispatch.Action SlotDispatch.Machine

variable {Host Item : Type}

/-! ### New sequences -/

namespace SequenceKind

variable (kind : SequenceKind Item)

/-- A new sequence takes the next place of a heap, and an error takes none. -/
def made (heap : Heap) : Except Error (List Item) → Except Error Value × Heap
  | .ok items => (.ok (kind.object items (.allocated heap.nextPlace)), heap.withNextPlace)
  | .error error => (.error error, heap)

/-- An action makes a sequence when it ends with a new object that holds the items, or with an error. -/
def Makes (action : Action (World Host) Value) (world : World Host)
    (outcome : Except Error (List Item)) : Prop :=
  action.Ends world (kind.made world.heap outcome).1 (kind.made world.heap outcome).2

variable {kind} {world : World Host}

theorem Makes.endsFrom {action : Action (World Host) Value} {outcome : Except Error (List Item)}
    (makes : ∀ next, world.Turns world.heap next → kind.Makes action next outcome) :
    action.EndsFrom world (kind.made world.heap outcome).1 (kind.made world.heap outcome).2 := by
  intro next turns
  rw [← turns.heap_eq]
  exact makes next turns

theorem Makes.noted {callable : Callable} {arguments : List Value} {toValue : Value → Value}
    {call : Action (World Host) Value} {outcome : Except Error (List Item)} (steady : world.Steady)
    (makes : ∀ next, world.Turns world.heap next → kind.Makes call next outcome) :
    kind.Makes (Action.noted callable arguments toValue call) world outcome :=
  Ends.noted steady (endsFrom makes)

/-- A sequence is made after a check of its length, when the memory for it can be reserved. -/
theorem makes_of_check (steady : world.Steady) (check : Except Error Nat)
    (reserve : Nat → Except Error Unit) {allocation : Action (World Host) Value} {items : List Item}
    (reserves : ∀ total, check = .ok total → reserve total = .ok ())
    (allocates : kind.Makes allocation world (.ok items)) :
    kind.Makes
      (Action.ofExcept check >>= fun total => Action.ofExcept (reserve total) >>= fun _ => allocation)
      world (check.map fun _ => items) := by
  cases check with
  | error error => exact .fail steady error
  | ok total =>
      change kind.Makes (Action.ofExcept (reserve total) >>= fun _ => allocation) world (.ok items)
      rw [reserves total rfl]
      exact allocates

/-! ### Texts -/

theorem makes_text (steady : world.Steady) (content : String) :
    text.Makes (Action.text content) world (.ok content.toList) := by
  have isContent : String.ofList content.toList = content := String.ofList_toList
  have ends : (Action.text content).Ends world _ _ :=
    Ends.allocate steady .str (.text content) false
  rw [← isContent] at ends ⊢
  rwa [String.toList_ofList]

theorem makes_concat_text (steady : world.Steady) (left right : List Char)
    (leftReference rightReference : Reference) :
    text.Makes (Builtin.Text.concat (text.object left leftReference)
      (text.object right rightReference)) world (.ok (left ++ right)) := by
  have makes := makes_text steady (String.ofList left ++ String.ofList right)
  rwa [String.toList_append, String.toList_ofList, String.toList_ofList] at makes

theorem makes_repetition_text (steady : world.Steady) (characters : List Char)
    (reference : Reference) (count : Int64)
    (hasRoom : Sequence.HasRoom world.configuration (text.size characters * count.toInt.toNat)) :
    text.Makes (Builtin.Text.repetition (text.object characters reference) count) world
      (text.repetition characters world.configuration.maxSequenceBytes count.toInt) := by
  change text.Makes (if count.toInt ≤ 0 then Action.text "" else current >>= fun world => _) world _
  by_cases isNone : count.toInt ≤ 0
  · rw [if_pos isNone, repetition_of_empty _ (.inl isNone)]
    exact makes_text steady ""
  · have isSize : text.size characters = (String.ofList characters).utf8ByteSize * 1 :=
      (Nat.mul_one _).symm
    have isEmpty : characters = [] → (String.ofList characters).utf8ByteSize = 0 := by
      rintro rfl
      rfl
    have allocates :=
      makes_text steady (Builtin.Text.repeated (String.ofList characters) count.toInt.toNat)
    rw [Builtin.Text.toList_repeated, String.toList_ofList] at allocates
    rw [isSize] at hasRoom
    rw [if_neg isNone, repetition_of_pos _ (Int.not_le.1 isNone) isSize (by decide) isEmpty]
    refine Ends.current_bind (makes_of_check steady
      (Sequence.repeatLength _ _ count.toInt.toNat 1 "string")
      (fun total => Sequence.reserve world.configuration.hasMemory total "string") ?_ allocates)
    intro total isOk
    have reserves := hasRoom.reserve_eq (by decide) isOk
    rwa [Nat.mul_one] at reserves

/-! ### Tuples -/

theorem makes_tuple (steady : world.Steady) (items : List Value) :
    tuple.Makes (Action.tuple items) world (.ok items) :=
  Ends.allocate steady .tuple (.tuple items) false

theorem makes_repetition_tuple (steady : world.Steady) (items : List Value) (reference : Reference)
    (count : Int64)
    (hasRoom : Sequence.HasRoom world.configuration (tuple.size items * count.toInt.toNat)) :
    tuple.Makes (Builtin.Tuple.repetition (tuple.object items reference) count) world
      (tuple.repetition items world.configuration.maxSequenceBytes count.toInt) := by
  change tuple.Makes (if count.toInt ≤ 0 || items.isEmpty then Action.tuple [] else
    current >>= fun world => _) world _
  by_cases isEmpty : count.toInt ≤ 0 ∨ items = []
  · rw [if_pos (by simpa using isEmpty), repetition_of_empty _ isEmpty]
    exact makes_tuple steady []
  · obtain ⟨isMore, hasItems⟩ := not_or.1 isEmpty
    have hasLength : items = [] → items.length = 0 := fun isNil => absurd isNil hasItems
    rw [if_neg (by simpa using isEmpty),
      repetition_of_pos _ (Int.not_le.1 isMore) rfl (by decide) hasLength]
    exact Ends.current_bind (makes_of_check steady
      (Sequence.repeatLength _ items.length count.toInt.toNat Sequence.itemSize "tuple")
      (fun total => Sequence.reserve world.configuration.hasMemory (total * Sequence.itemSize) "tuple")
      (fun _ isOk => hasRoom.reserve_eq (by decide) isOk) (makes_tuple steady _))

end SequenceKind

/-! ### Operators -/

namespace Operator

variable {world : World Host} {perform : Perform Host} {kind : SlotKind} {left right : Value}
  {leftType rightType : BuiltinType} {outcome : Except Error Value} {heap : Heap}

/-- A plan has no result when all its steps decline. -/
theorem runPlan_endsFrom {plan : Plan}
    (declines : ∀ step ∈ plan, (Invocation.ternary perform step.target step.side left right
      .none).EndsFrom world (.ok .notImplemented) world.heap) :
    (runPlan perform left right .none plan).EndsFrom world (.ok none) world.heap := by
  induction plan with
  | nil => exact .pure none
  | cons step rest inductionHypothesis =>
      refine (declines step (List.mem_cons_self ..)).bind ?_
      exact inductionHypothesis fun later isLater => declines later (List.mem_cons_of_mem step isLater)

/-- An operator falls back when the slots of both operands decline. -/
theorem binary_endsFrom (isBinary : kind.isBinary = true)
    (isSlow : integerResult? kind left right = none)
    (leftListed : builtinTypes[left.typeId]? = some leftType)
    (rightListed : builtinTypes[right.typeId]? = some rightType)
    (leftDeclines : ∀ side, (Invocation.ternary perform
      (builtinTarget kind ((Registry.initial 0).linearizationOf left.typeId)) side left right
      .none).EndsFrom world (.ok .notImplemented) world.heap)
    (rightDeclines : ∀ side, (Invocation.ternary perform
      (builtinTarget kind ((Registry.initial 0).linearizationOf right.typeId)) side left right
      .none).EndsFrom world (.ok .notImplemented) world.heap)
    (fallsBack : ∀ leftEntry rightEntry : SlotEntry,
      (∀ kind, leftEntry.target kind =
        builtinTarget kind ((Registry.initial 0).linearizationOf left.typeId)) →
      (∀ kind, rightEntry.target kind =
        builtinTarget kind ((Registry.initial 0).linearizationOf right.typeId)) →
      (fallback perform kind left right leftEntry rightEntry).EndsFrom world outcome heap) :
    (binary perform kind left right).EndsFrom world outcome heap := by
  rw [binary_eq_evaluate isBinary isSlow, evaluate]
  refine EndsFrom.entryOf_bind leftListed fun leftEntry leftTargets => ?_
  refine EndsFrom.entryOf_bind rightListed fun rightEntry rightTargets => ?_
  refine (runPlan_endsFrom fun step isStep => ?_).bind (fallsBack _ _ leftTargets rightTargets)
  obtain ⟨entry, isEntry, isTarget⟩ :=
    Plan.target_of_mem_ternary (show step ∈ Plan.ternary kind leftEntry rightEntry none from isStep)
  rw [isTarget]
  rcases List.mem_cons.1 isEntry with rfl | isEntry
  · rw [leftTargets]
    exact leftDeclines step.side
  · obtain rfl : entry = rightEntry := by simpa using isEntry
    rw [rightTargets]
    exact rightDeclines step.side

/-- An empty slot declines. -/
theorem ternary_absent (side : Side) :
    (Invocation.ternary perform .absent side left right .none).EndsFrom world (.ok .notImplemented)
      world.heap := by
  cases side <;> exact .pure Value.notImplemented

/-- The product of integers declines a value that is no integer. -/
theorem ternary_intMultiply (isNoInteger : left.integer? = none ∨ right.integer? = none)
    (side : Side) :
    (Invocation.ternary perform (.builtin .intMultiply) side left right .none).EndsFrom world
      (.ok .notImplemented) world.heap := by
  have declines : Builtin.Integer.withIntegers left right Builtin.Integer.multiply =
      .ok .notImplemented := by
    unfold Builtin.Integer.withIntegers
    split
    · rename_i isLeft isRight
      rw [isLeft, isRight] at isNoInteger
      simp at isNoInteger
    · rfl
  rw [← declines]
  cases side <;> exact .noted (.ofExcept _)

end Operator

/-! ### Sums and products -/

namespace SequenceKind

/-- This is the target of a slot of the sequences of a kind. -/
def target (kind : SequenceKind Item) (slot : SlotKind) : SlotTarget :=
  builtinTarget slot ((Registry.initial 0).linearizationOf kind.typeId)

/-- A kind of sequence is builtin when its type has slots to concatenate and to repeat, but none to
compute with numbers. -/
structure IsBuiltin (kind : SequenceKind Item) : Prop where
  isListed : ∃ builtinType, builtinTypes[kind.typeId]? = some builtinType
  isNoInteger : ∀ items reference, (kind.object items reference).integer? = none
  hasNoSum : kind.target .add = .absent
  hasNoProduct : kind.target .multiply = .absent
  concatenates : (kind.target .sqConcat).isAbsent = false
  repeats : (kind.target .sqRepeat).isAbsent = false

theorem isBuiltin_text : text.IsBuiltin :=
  ⟨⟨_, rfl⟩, fun _ _ => rfl, rfl, rfl, rfl, rfl⟩

theorem isBuiltin_tuple : tuple.IsBuiltin :=
  ⟨⟨_, rfl⟩, fun _ _ => rfl, rfl, rfl, rfl, rfl⟩

/-- A kind concatenates two sequences of the kind to one that has the items of both. -/
def Concatenates (Host : Type) (kind : SequenceKind Item) : Prop :=
  ∀ (perform : Perform Host) {world : World Host}, world.Steady →
    ∀ left right leftReference rightReference, kind.Makes
      (Invocation.binary perform (kind.target .sqConcat) .left (kind.object left leftReference)
        (kind.object right rightReference)) world (.ok (left ++ right))

/-- A kind repeats a sequence within the configured limit when there is room. -/
def Repeats (Host : Type) (kind : SequenceKind Item) : Prop :=
  ∀ (perform : Perform Host) {world : World Host}, world.Steady → ∀ items reference (count : Int64),
    Sequence.HasRoom world.configuration (kind.size items * count.toInt.toNat) →
    kind.Makes (Invocation.size perform (kind.object items reference) count (kind.target .sqRepeat))
      world (kind.repetition items world.configuration.maxSequenceBytes count.toInt)

theorem concatenates_text : text.Concatenates Host :=
  fun _ _ steady left right leftReference rightReference => .noted steady fun _ turns =>
    makes_concat_text turns.steady left right leftReference rightReference

theorem concatenates_tuple : tuple.Concatenates Host :=
  fun _ _ steady left right _ _ => .noted steady fun _ turns =>
    makes_tuple turns.steady (left ++ right)

theorem repeats_text : text.Repeats Host := by
  refine fun _ _ steady characters reference count hasRoom => .noted steady fun next turns => ?_
  rw [← turns.configuration_eq] at hasRoom ⊢
  exact makes_repetition_text turns.steady characters reference count hasRoom

theorem repeats_tuple : tuple.Repeats Host := by
  refine fun _ _ steady items reference count hasRoom => .noted steady fun next turns => ?_
  rw [← turns.configuration_eq] at hasRoom ⊢
  exact makes_repetition_tuple turns.steady items reference count hasRoom

namespace IsBuiltin

variable {kind : SequenceKind Item} (isBuiltin : kind.IsBuiltin) {world : World Host}
  (steady : world.Steady) (perform : Perform Host)

include isBuiltin steady

/-- A sum of sequences is their concatenation. -/
theorem makes_sum (concatenates : kind.Concatenates Host) (left right : List Item)
    (leftReference rightReference : Reference) :
    kind.Makes (Operator.binary perform .add (kind.object left leftReference)
      (kind.object right rightReference)) world (.ok (left ++ right)) := by
  obtain ⟨builtinType, isListed⟩ := isBuiltin.isListed
  have declines : ∀ side, (Invocation.ternary perform (kind.target .add) side
      (kind.object left leftReference) (kind.object right rightReference) .none).EndsFrom world
      (.ok .notImplemented) world.heap := by
    rw [isBuiltin.hasNoSum]
    exact Operator.ternary_absent
  refine EndsFrom.ends ?_ steady
  refine Operator.binary_endsFrom rfl rfl isListed isListed declines declines ?_
  intro leftEntry rightEntry leftTargets _
  have isTarget : leftEntry.target .sqConcat = kind.target .sqConcat := leftTargets .sqConcat
  change EndsFrom (if (leftEntry.target .sqConcat).isAbsent then _ else _) world _ _
  rw [isTarget, isBuiltin.concatenates, if_neg Bool.false_ne_true]
  exact Makes.endsFrom fun next turns =>
    concatenates perform turns.steady left right leftReference rightReference

section Products

variable (repeats : kind.Repeats Host) (items : List Item) (reference : Reference) (count : Int64)
  (hasRoom : Sequence.HasRoom world.configuration (kind.size items * count.toInt.toNat))

include repeats hasRoom

omit isBuiltin steady in
theorem repeatSequence_endsFrom :
    (Operator.repeatSequence perform (kind.target .sqRepeat) (kind.object items reference)
      (.int count)).EndsFrom world
        (kind.made world.heap
          (kind.repetition items world.configuration.maxSequenceBytes count.toInt)).1
        (kind.made world.heap
          (kind.repetition items world.configuration.maxSequenceBytes count.toInt)).2 := by
  have isListed : builtinTypes[(Value.int count).typeId]? = some _ := rfl
  refine (EndsFrom.hasSlot isListed .index).bind (Makes.endsFrom fun next turns => ?_)
  rw [← turns.configuration_eq] at hasRoom ⊢
  exact repeats perform turns.steady items reference count hasRoom

/-- A product of a sequence and an integer is a repetition. -/
theorem makes_product :
    kind.Makes (Operator.binary perform .multiply (kind.object items reference) (.int count)) world
      (kind.repetition items world.configuration.maxSequenceBytes count.toInt) := by
  obtain ⟨builtinType, isListed⟩ := isBuiltin.isListed
  have integerListed : builtinTypes[(Value.int count).typeId]? = some _ := rfl
  have declines : ∀ side, (Invocation.ternary perform (kind.target .multiply) side
      (kind.object items reference) (.int count) .none).EndsFrom world (.ok .notImplemented)
      world.heap := by
    rw [isBuiltin.hasNoProduct]
    exact Operator.ternary_absent
  refine EndsFrom.ends ?_ steady
  refine Operator.binary_endsFrom rfl rfl isListed integerListed declines
    (Operator.ternary_intMultiply (.inl (isBuiltin.isNoInteger items reference))) ?_
  intro leftEntry rightEntry leftTargets _
  have isTarget : leftEntry.target .sqRepeat = kind.target .sqRepeat := leftTargets .sqRepeat
  change EndsFrom (if !(leftEntry.target .sqRepeat).isAbsent then _ else _) world _ _
  rw [isTarget, isBuiltin.repeats]
  exact repeatSequence_endsFrom perform repeats items reference count hasRoom

/-- A product of an integer and a sequence is the same repetition. -/
theorem makes_product_swapped :
    kind.Makes (Operator.binary perform .multiply (.int count) (kind.object items reference)) world
      (kind.repetition items world.configuration.maxSequenceBytes count.toInt) := by
  obtain ⟨builtinType, isListed⟩ := isBuiltin.isListed
  have integerListed : builtinTypes[(Value.int count).typeId]? = some _ := rfl
  have declines : ∀ side, (Invocation.ternary perform (kind.target .multiply) side (.int count)
      (kind.object items reference) .none).EndsFrom world (.ok .notImplemented) world.heap := by
    rw [isBuiltin.hasNoProduct]
    exact Operator.ternary_absent
  refine EndsFrom.ends ?_ steady
  refine Operator.binary_endsFrom rfl rfl integerListed isListed
    (Operator.ternary_intMultiply (.inr (isBuiltin.isNoInteger items reference))) declines ?_
  intro leftEntry rightEntry leftTargets rightTargets
  have isAbsent : leftEntry.target .sqRepeat = .absent := leftTargets .sqRepeat
  have isTarget : rightEntry.target .sqRepeat = kind.target .sqRepeat := rightTargets .sqRepeat
  change EndsFrom (if !(leftEntry.target .sqRepeat).isAbsent then _ else
    if !(rightEntry.target .sqRepeat).isAbsent then _ else _) world _ _
  rw [isAbsent, isTarget, isBuiltin.repeats]
  exact repeatSequence_endsFrom perform repeats items reference count hasRoom

end Products

end IsBuiltin

/-! ### Lengths and items -/

variable {world : World Host} (perform : Perform Host)

theorem length_text (steady : world.Steady) (characters : List Char) (reference : Reference) :
    (Protocol.length perform (text.object characters reference)).Ends world
      (.ok characters.length) world.heap := by
  have isListed : builtinTypes[(text.object characters reference).typeId]? = some _ := rfl
  have isLength : Builtin.Text.length (text.object characters reference) = characters.length :=
    String.length_ofList
  refine EndsFrom.ends (EndsFrom.entryOf_bind isListed fun entry areTargets => ?_) steady
  have isTarget : Protocol.firstTarget entry Protocol.lengthOrder = .builtin .strLen := by
    rw [Protocol.firstTarget, Protocol.lengthOrder, List.map_cons, areTargets]
    rfl
  rw [isTarget, ← isLength]
  exact .noted (.pure _)

theorem length_tuple (steady : world.Steady) (items : List Value) (reference : Reference)
    (fits : tuple.Fits items) :
    (Protocol.length perform (tuple.object items reference)).Ends world (.ok items.length)
      world.heap := by
  have isListed : builtinTypes[(tuple.object items reference).typeId]? = some _ := rfl
  have isWord : (Int64.ofNat items.length).toInt = items.length :=
    Int64.toInt_ofNat_of_lt (Nat.lt_of_le_of_lt (length_le_size_tuple items) fits)
  refine EndsFrom.ends (EndsFrom.entryOf_bind isListed fun entry areTargets => ?_) steady
  have isTarget : Protocol.firstTarget entry Protocol.lengthOrder = .builtin .tupleLen := by
    rw [Protocol.firstTarget, Protocol.lengthOrder, List.map_cons, areTargets]
    rfl
  rw [isTarget]
  refine EndsFrom.bind (.noted (.pure (Value.int (Int64.ofNat items.length)))) ?_
  change EndsFrom (if (Int64.ofNat items.length).toInt < 0 then _ else
    pure (Int64.ofNat items.length).toInt.toNat) world _ _
  rw [isWord, if_neg (by omega), Int.toNat_natCast]
  exact .pure items.length

theorem getItem_text {program : Program Host} {depth : Nat} {outcome : Except Error Value} {heap : Heap}
    {characters : List Char} {reference : Reference} {index : Int64}
    (ends : (Builtin.Text.item (text.object characters reference) index).EndsFrom world outcome heap) :
    (Protocol.getItem (Machine.perform program (depth + 1)) (text.object characters reference)
      (.int index)).EndsFrom world outcome heap := by
  have isListed : builtinTypes[(text.object characters reference).typeId]? = some _ := rfl
  have integerListed : builtinTypes[(Value.int index).typeId]? = some _ := rfl
  refine EndsFrom.entryOf_bind isListed fun entry areTargets => ?_
  have isTarget : entry.target .mpSubscript = .builtin .strSubscript := areTargets .mpSubscript
  rw [isTarget]
  exact .noted ((EndsFrom.hasSlot integerListed .index).bind ends)

theorem getItem_tuple {outcome : Except Error Value} {heap : Heap} {items : List Value}
    {reference : Reference} {index : Int64}
    (ends : (Builtin.Tuple.item (tuple.object items reference) index).EndsFrom world outcome heap) :
    (Protocol.getItem perform (tuple.object items reference) (.int index)).EndsFrom world outcome
      heap := by
  have isListed : builtinTypes[(tuple.object items reference).typeId]? = some _ := rfl
  have integerListed : builtinTypes[(Value.int index).typeId]? = some _ := rfl
  refine EndsFrom.entryOf_bind isListed fun entry areTargets => ?_
  have hasNoMapping : entry.target .mpSubscript = .absent := areTargets .mpSubscript
  have isTarget : entry.target .sqItem = .builtin .tupleItem := areTargets .sqItem
  have selects : (Protocol.sequenceIndex perform (tuple.object items reference)
      (.int index)).EndsFrom world (.ok index) world.heap :=
    (EndsFrom.hasSlot integerListed .index).bind (.pure index)
  rw [hasNoMapping, isTarget]
  exact selects.bind (.noted ends)

theorem item_text (characters : List Char) (reference : Reference) (index : Int64) :
    (Builtin.Text.item (text.object characters reference) index : Action (World Host) Value) =
      match Sequence.itemAt? characters index.toInt with
      | some character => Action.text (String.singleton character)
      | none => Action.fail (.indexOutOfRange "string") := by
  have isContent : (String.ofList characters).toList = characters := String.toList_ofList
  change (match Sequence.itemAt? (String.ofList characters).toList index.toInt with
    | some character => Action.text (String.singleton character)
    | none => Action.fail (.indexOutOfRange "string")) = _
  rw [isContent]

theorem item_tuple (items : List Value) (reference : Reference) (index : Int64) :
    (Builtin.Tuple.item (tuple.object items reference) index : Action (World Host) Value) =
      match Sequence.itemAt? items index.toInt with
      | some item => return item
      | none => Action.fail (.indexOutOfRange "tuple") :=
  rfl

/-! ### Iteration -/

/-- A kind unfolds to items when every sequence of the kind gets a new iterator over values that stand
for its items. The values may be new objects, too. -/
def Unfolds (Host : Type) (kind : SequenceKind Item) : Prop :=
  ∀ items reference (heap : Heap), ∃ (values : List Value) (later : Heap),
    List.Forall₂ kind.IsItem items values ∧ ∀ (perform : Perform Host) (world : World Host),
      world.Steady → world.heap = heap →
      (Protocol.iter perform (kind.object items reference)).Ends world
        (.ok (Protocol.iteratorAt later.nextPlace values))
        (later.withNextPlace.withRemaining later.nextPlace values)

omit perform in
theorem characters_ends (characters : List Char) (heap : Heap) :
    ∃ values later, List.Forall₂ text.IsItem characters values ∧
      ∀ world : World Host, world.Steady → world.heap = heap →
        (Builtin.Text.characters characters).Ends world (.ok values) later := by
  induction characters generalizing heap with
  | nil =>
      refine ⟨[], heap, .nil, ?_⟩
      rintro world steady rfl
      exact .pure steady []
  | cons character rest inductionHypothesis =>
      obtain ⟨values, later, areItems, ends⟩ := inductionHypothesis heap.withNextPlace
      refine ⟨_, later, .cons ⟨.allocated heap.nextPlace, rfl⟩ areItems, ?_⟩
      rintro world steady rfl
      refine (Ends.allocate steady .str (.text (String.singleton character)) false).bind
        fun middle turns => ?_
      refine (ends middle turns.steady turns.heap_eq).bind fun last turnsLast => ?_
      rw [← turnsLast.heap_eq]
      exact .pure turnsLast.steady _

theorem unfolds_text : text.Unfolds Host := by
  intro characters reference heap
  obtain ⟨values, later, areItems, ends⟩ := @characters_ends Host characters heap
  refine ⟨values, later, areItems, fun perform world steady isHeap => ?_⟩
  refine Protocol.iter_ends steady perform rfl rfl rfl (.noted fun next turns => ?_)
  change (Builtin.Text.characters (String.ofList characters).toList >>= Action.iterator).Ends next _ _
  rw [String.toList_ofList]
  refine (ends next turns.steady (turns.heap_eq.trans isHeap)).bind fun last turnsLast => ?_
  rw [← turnsLast.heap_eq]
  exact .allocate turnsLast.steady .iterator (.iterator values) false

theorem unfolds_tuple : tuple.Unfolds Host := by
  intro items reference heap
  refine ⟨items, heap, List.forall₂_same.2 fun _ _ => rfl, fun perform world steady isHeap => ?_⟩
  subst isHeap
  exact Protocol.iter_tuple steady perform rfl items

/-- A kind that unfolds gives an iterator that gives the items. -/
theorem Unfolds.iterates {kind : SequenceKind Item} (unfolds : kind.Unfolds Host)
    (steady : world.Steady) (items : List Item) (reference : Reference) :
    ∃ values iterator heap, List.Forall₂ kind.IsItem items values ∧
      (∀ perform : Perform Host,
        (Protocol.iter perform (kind.object items reference)).Ends world (.ok iterator) heap) ∧
      ∀ start, world.Turns heap start → start.Iterates iterator values := by
  obtain ⟨values, later, areItems, ends⟩ := unfolds items reference world.heap
  refine ⟨values, _, _, areItems, fun perform => ends perform world steady rfl, ?_⟩
  intro start turns
  refine World.iterates_of_remainingOf turns.steady ?_ ?_
  · rintro place isPlace
    obtain rfl := Option.some.inj isPlace
    rw [turns.heap_eq]
    exact Nat.lt_succ_self _
  · rw [turns.heap_eq]
    exact Protocol.remainingOf_iteratorAt later.withNextPlace later.nextPlace values values

/-- The items of a kind that unfolds are collected by an iterator. -/
theorem Unfolds.collects {kind : SequenceKind Item} (unfolds : kind.Unfolds Host)
    (steady : world.Steady) (items : List Item) (reference : Reference) :
    ∃ values heap, List.Forall₂ kind.IsItem items values ∧
      ∀ (program : Program Host) depth, items.length ≤ depth →
        (Protocol.collectBySlot (Machine.perform program depth) (kind.object items reference)).Ends
          world (.ok values) heap := by
  obtain ⟨values, later, areItems, ends⟩ := unfolds items reference world.heap
  refine ⟨values, later.withNextPlace.withRemaining later.nextPlace [], areItems,
    fun program depth isDeep => ?_⟩
  refine (ends _ world steady rfl).bind fun next turns => ?_
  exact Protocol.drain_ends turns.steady values program
    (areItems.length_eq ▸ isDeep) turns.heap_eq

end SequenceKind

/-! ### Sequences as lists -/

/-- The sequences of a kind act as lists in a world when every operation on sequences ends there with
what the lists of items say. A machine has to be deep enough for the steps of an iterator. -/
structure SequenceKind.ActsAsList (kind : SequenceKind Item) (world : World Host) : Prop where
  length : ∀ program depth items reference, kind.Fits items →
    (perform program (depth + 1) (.length (kind.object items reference))).Ends world
      (.ok items.length) world.heap
  item : ∀ program depth items reference (index : Int64) (place : Nat) item, kind.Fits items →
    items[place]? = some item → (index.toInt = place ∨ index.toInt = place - items.length) →
    ∃ result heap, kind.IsItem item result ∧
      (perform program (depth + 2) (.getItem (kind.object items reference) (.int index))).Ends world
        (.ok result) heap
  noItem : ∀ program depth items reference (index : Int64),
    (index.toInt < -items.length ∨ items.length ≤ index.toInt) →
    (perform program (depth + 2) (.getItem (kind.object items reference) (.int index))).Ends world
      (.error (.indexOutOfRange kind.noun)) world.heap
  collect : ∀ items reference, ∃ values heap, List.Forall₂ kind.IsItem items values ∧
    ∀ program depth, items.length ≤ depth →
      (perform program (depth + 1) (.collect (kind.object items reference))).Ends world (.ok values)
        heap
  iterate : ∀ items reference, ∃ values iterator heap, List.Forall₂ kind.IsItem items values ∧
    (∀ program depth,
      (perform program (depth + 1) (.iter (kind.object items reference))).Ends world (.ok iterator)
        heap) ∧
    ∀ start, world.Turns heap start → start.Iterates iterator values
  sum : ∀ program depth left right leftReference rightReference,
    kind.Makes (perform program (depth + 1) (.binary .add (kind.object left leftReference)
      (kind.object right rightReference))) world (.ok (left ++ right))
  product : ∀ program depth items reference (count : Int64),
    Sequence.HasRoom world.configuration (kind.size items * count.toInt.toNat) →
    kind.Makes (perform program (depth + 1) (.binary .multiply (kind.object items reference)
      (.int count))) world
      (kind.repetition items world.configuration.maxSequenceBytes count.toInt)
  productSwapped : ∀ program depth items reference (count : Int64),
    Sequence.HasRoom world.configuration (kind.size items * count.toInt.toNat) →
    kind.Makes (perform program (depth + 1) (.binary .multiply (.int count)
      (kind.object items reference))) world
      (kind.repetition items world.configuration.maxSequenceBytes count.toInt)

namespace World

variable {forged : Nat → Prop} {world : World Host}

/-- Texts act as lists of characters. -/
theorem Steady.actsAsList_text (steady : world.Steady) : SequenceKind.text.ActsAsList world where
  length _ _ characters reference _ := SequenceKind.length_text _ steady characters reference
  item := by
    intro program depth characters reference index place character fits isItem isIndex
    have isWord : characters.length < 0x8000000000000000 :=
      Nat.lt_of_le_of_lt (SequenceKind.length_le_size_text characters) fits
    refine ⟨_, world.heap.withNextPlace, ⟨.allocated world.heap.nextPlace, rfl⟩, ?_⟩
    refine EndsFrom.ends (SequenceKind.getItem_text ?_) steady
    rw [SequenceKind.item_text, Sequence.itemAt?_eq_some isWord isItem isIndex]
    exact .allocate .str (.text (String.singleton character)) false
  noItem := by
    intro program depth characters reference index isOutside
    refine EndsFrom.ends (SequenceKind.getItem_text ?_) steady
    rw [SequenceKind.item_text, Sequence.itemAt?_eq_none isOutside]
    exact .fail _
  collect characters reference :=
    SequenceKind.unfolds_text.collects steady characters reference
  iterate characters reference := by
    obtain ⟨values, iterator, heap, areItems, ends, iterates⟩ :=
      SequenceKind.unfolds_text.iterates steady characters reference
    exact ⟨values, iterator, heap, areItems, fun _ _ => ends _, iterates⟩
  sum _ _ := SequenceKind.isBuiltin_text.makes_sum steady _ SequenceKind.concatenates_text
  product _ _ := SequenceKind.isBuiltin_text.makes_product steady _ SequenceKind.repeats_text
  productSwapped _ _ :=
    SequenceKind.isBuiltin_text.makes_product_swapped steady _ SequenceKind.repeats_text

/-- Tuples act as lists of values. -/
theorem Steady.actsAsList_tuple (steady : world.Steady) : SequenceKind.tuple.ActsAsList world where
  length _ _ items reference fits := SequenceKind.length_tuple _ steady items reference fits
  item := by
    intro program depth items reference index place item fits isItem isIndex
    have isWord : items.length < 0x8000000000000000 :=
      Nat.lt_of_le_of_lt (SequenceKind.length_le_size_tuple items) fits
    refine ⟨item, world.heap, rfl, EndsFrom.ends (SequenceKind.getItem_tuple _ ?_) steady⟩
    rw [SequenceKind.item_tuple, Sequence.itemAt?_eq_some isWord isItem isIndex]
    exact .pure item
  noItem := by
    intro program depth items reference index isOutside
    refine EndsFrom.ends (SequenceKind.getItem_tuple _ ?_) steady
    rw [SequenceKind.item_tuple, Sequence.itemAt?_eq_none isOutside]
    exact .fail _
  collect := by
    intro items reference
    refine ⟨items, world.heap, List.forall₂_same.2 fun _ _ => rfl, fun program depth _ => ?_⟩
    have isCollected : Protocol.collect (perform program depth) (.object ⟨reference, .tuple⟩
        (.tuple items)) world = some (.ok items, world) := Protocol.collect_tuple _ rfl items world
    exact ⟨world, isCollected, .refl steady⟩
  iterate items reference := by
    obtain ⟨values, iterator, heap, areItems, ends, iterates⟩ :=
      SequenceKind.unfolds_tuple.iterates steady items reference
    exact ⟨values, iterator, heap, areItems, fun _ _ => ends _, iterates⟩
  sum _ _ := SequenceKind.isBuiltin_tuple.makes_sum steady _ SequenceKind.concatenates_tuple
  product _ _ := SequenceKind.isBuiltin_tuple.makes_product steady _ SequenceKind.repeats_tuple
  productSwapped _ _ :=
    SequenceKind.isBuiltin_tuple.makes_product_swapped steady _ SequenceKind.repeats_tuple

/-- In every reachable world the texts and the tuples act as lists of their items. -/
theorem sequences_actAsLists (reachable : World.Reachable forged world) :
    SequenceKind.text.ActsAsList world ∧ SequenceKind.tuple.ActsAsList world :=
  ⟨Steady.actsAsList_text reachable.forgeAll.alike, Steady.actsAsList_tuple reachable.forgeAll.alike⟩

/-- After a change of types, texts and tuples act as lists. Two copies of a text of two bytes fill a limit
of four bytes, and three copies are more than the limit. -/
theorem sequences_actAsLists_limited :
    ∃ world : World Unit, World.Reachable (fun _ => True) world ∧
      (world.registry.definition? .int).map TypeDefinition.generation = some 1 ∧
      world.configuration.maxSequenceBytes = 4 ∧
      SequenceKind.text.ActsAsList world ∧ SequenceKind.tuple.ActsAsList world ∧
      ∀ program : Program Unit,
        SequenceKind.text.Makes (perform program 1 (.binary .multiply (.int 2)
          (SequenceKind.text.object ['é'] (.allocated 0)))) world (.ok ['é', 'é']) ∧
        SequenceKind.text.Makes (perform program 1 (.binary .multiply (.int 3)
          (SequenceKind.text.object ['é'] (.allocated 0)))) world
          (.error (.outOfMemory 6 "string")) := by
  let program : Program Unit := fun _ _ => do
    let _ ← Body.request (.createType "Meter" [.int] ⟨[("__mul__", .none)]⟩)
    Body.request (.invalidate .int)
    return .none
  let configuration : Configuration := { Configuration.default with maxSequenceBytes := 4 }
  have isMade :
      ((perform program 2 (.apply "make" 0 []) (.initial configuration ())).map fun answer =>
        ((answer.2.registry.definition? .int).map TypeDefinition.generation,
          answer.2.configuration.maxSequenceBytes, answer.2.configuration.hasMemory 4)) =
        some (some 1, 4, true) := by
    decide +kernel
  obtain ⟨⟨outcome, world⟩, isOutcome, isFound⟩ := Option.map_eq_some_iff.1 isMade
  simp only [Prod.mk.injEq] at isFound
  obtain ⟨isGeneration, isLimit, hasMemory⟩ := isFound
  have reachable := World.Reachable.of_outcome isOutcome
  obtain ⟨texts, tuples⟩ := World.sequences_actAsLists reachable
  refine ⟨world, reachable, isGeneration, isLimit, texts, tuples, fun program => ⟨?_, ?_⟩⟩
  · have makes := texts.productSwapped program 0 ['é'] (.allocated 0) 2 fun _ _ _ => hasMemory
    rw [isLimit] at makes
    exact makes
  · have isTooLarge : ¬ 6 ≤ world.configuration.maxSequenceBytes := by
      rw [isLimit]
      decide
    have makes := texts.productSwapped program 0 ['é'] (.allocated 0) 3 fun _ _ fits =>
      absurd fits isTooLarge
    rw [isLimit] at makes
    exact makes

end World

end SlotDispatch
