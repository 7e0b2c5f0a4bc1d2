import SlotDispatch.Builtin.Tuple
import SlotDispatch.Proofs.Datum.Denotation
import SlotDispatch.Proofs.Machine.Ending
import SlotDispatch.Proofs.Machine.Reachable
import SlotDispatch.Proofs.Text.Quoted
/-!
Text forms of data. The main statement says that the machine gives every value the text form of its datum,
in every reachable world, and that two data with one text form are the same.
-/

namespace SlotDispatch

open SlotDispatch.Action SlotDispatch.Machine

variable {Host : Type}

namespace Datum

mutual

/-- This is the text form of a datum. -/
def display : Datum → String
  | .none => "None"
  | .notImplemented => "NotImplemented"
  | .bool flag => if flag then "True" else "False"
  | .int number => toString number.toInt
  | .text content => String.ofList (Text.quoted content.toList)
  | .tuple items => Builtin.Tuple.display (displayItems items)
termination_by structural datum => datum

/-- These are the text forms of the items of a tuple. -/
def displayItems : List Datum → List String
  | [] => []
  | item :: rest => item.display :: displayItems rest
termination_by structural items => items

end

/-! ### Tuples -/

/-- The items of a tuple behind its first item are separated from it, and from each other. -/
def separated (items : List String) : List Char :=
  items.flatMap fun item => ',' :: ' ' :: item.toList

/-- Behind its first item a tuple has a comma or the other items, and then its end. -/
def behind : List String → List Char
  | [] => [',', ')']
  | items => separated items ++ [')']

theorem toList_intercalate (first : String) (rest : List String) :
    (String.intercalate ", " (first :: rest)).toList = first.toList ++ separated rest := by
  induction rest generalizing first with
  | nil => rw [String.intercalate_singleton, separated, List.flatMap_nil, List.append_nil]
  | cons next rest inductionHypothesis =>
      rw [String.intercalate_cons_cons, String.toList_append, String.toList_append,
        inductionHypothesis, List.append_assoc]
      rfl

theorem toList_display_cons (first : String) (rest : List String) :
    (Builtin.Tuple.display (first :: rest)).toList = '(' :: (first.toList ++ behind rest) := by
  cases rest with
  | nil =>
      rw [Builtin.Tuple.display, String.toList_append, String.toList_append]
      rfl
  | cons next rest =>
      have isDisplay : Builtin.Tuple.display (first :: next :: rest) =
          "(" ++ String.intercalate ", " (first :: next :: rest) ++ ")" := rfl
      rw [isDisplay, String.toList_append, String.toList_append, toList_intercalate, behind,
        List.append_assoc, List.append_assoc]
      · rfl
      · exact List.cons_ne_nil next rest

/-- What stands behind the first items of two tuples is the same only if their other items are. -/
theorem separated_append_of_behind {items others : List String} {rest otherRest : List Char}
    (isSame : behind items ++ rest = behind others ++ otherRest) :
    separated items ++ ')' :: rest = separated others ++ ')' :: otherRest := by
  cases items with
  | nil =>
      cases others with
      | nil => exact (List.cons.inj isSame).2
      | cons other others => exact absurd (List.cons.inj (List.cons.inj isSame).2).1 (by decide)
  | cons item items =>
      cases others with
      | nil => exact absurd (List.cons.inj (List.cons.inj isSame).2).1 (by decide)
      | cons other others =>
          change (separated (item :: items) ++ [')']) ++ rest =
            (separated (other :: others) ++ [')']) ++ otherRest at isSame
          rwa [List.append_assoc, List.append_assoc] at isSame

/-! ### Shapes -/

/-- A text form is a word, a quoted text, or a tuple in parentheses. The other characters are marks. -/
inductive Shape where
  | word | quoted | tuple | mark
deriving DecidableEq

/-- The first character tells the shape of a text form. -/
def Shape.of (character : Char) : Shape :=
  if character = '(' then .tuple
  else if character = '\'' ∨ character = '"' then .quoted
  else if character.isAlphanum ∨ character = '-' then .word
  else .mark

/-- This is the shape of a datum. -/
def shape : Datum → Shape
  | .text _ => .quoted
  | .tuple _ => .tuple
  | _ => .word

theorem shape_ne_mark (datum : Datum) : datum.shape ≠ .mark := by
  cases datum <;> exact Shape.noConfusion

theorem Shape.of_isQuote {character : Char} (isQuote : Text.IsQuote character) :
    Shape.of character = .quoted := by
  rcases isQuote with rfl | rfl <;> rfl

theorem Shape.of_isDigit {character : Char} (isDigit : character.isDigit = true) :
    Shape.of character = .word := by
  have isOther : ∀ other : Char, other.isDigit = false → character ≠ other := by
    rintro other notDigit rfl
    exact absurd (isDigit.symm.trans notDigit) (by decide)
  have isAlphanum : character.isAlphanum = true := by
    rw [Char.isAlphanum, isDigit, Bool.or_true]
  rw [Shape.of, if_neg (isOther _ rfl), if_neg (not_or.2 ⟨isOther _ rfl, isOther _ rfl⟩),
    if_pos (.inl isAlphanum)]

/-! ### Words -/

theorem isDigit_of_mem_repr {count : Nat} {character : Char} (isMember : character ∈ count.repr.toList) :
    character.isDigit = true := by
  rw [Nat.toList_repr] at isMember
  exact Nat.isDigit_of_mem_toDigits (by decide) (by decide) isMember

/-- The text form of an integer has digits, and it may have a minus in front of them. -/
theorem isDigit_or_eq_of_mem {number : Int} {character : Char}
    (isMember : character ∈ (toString number).toList) :
    character.isDigit = true ∨ character = '-' := by
  rw [Int.toString_eq_repr, Int.repr_eq_if] at isMember
  split at isMember
  · exact .inl (isDigit_of_mem_repr isMember)
  · rw [String.toList_append] at isMember
    rcases List.mem_append.1 isMember with isMinus | isDigit
    · exact .inr (List.mem_singleton.1 isMinus)
    · exact .inl (isDigit_of_mem_repr isDigit)

/-- Digits are read as a number, and a minus in front of them negates it. -/
def readInteger : List Char → Int
  | [] => 0
  | first :: rest =>
      if first = '-' then -(Nat.ofDigitChars 10 rest 0 : Nat)
      else (Nat.ofDigitChars 10 (first :: rest) 0 : Nat)

theorem readInteger_toString (number : Int) : readInteger (toString number).toList = number := by
  have readsDigits : ∀ count : Nat, Nat.ofDigitChars 10 count.repr.toList 0 = count := by
    intro count
    rw [Nat.toList_repr, Nat.ofDigitChars_ten_toDigits]
  rw [Int.toString_eq_repr, Int.repr_eq_if]
  split
  · next isNatural =>
      have reads := readsDigits number.toNat
      cases isRepr : number.toNat.repr.toList with
      | nil =>
          rw [Nat.toList_repr] at isRepr
          exact absurd isRepr Nat.toDigits_ne_nil
      | cons first rest =>
          have isDigit : first.isDigit = true :=
            isDigit_of_mem_repr (isRepr ▸ List.mem_cons_self)
          have notMinus : first ≠ '-' := by
            rintro rfl
            exact absurd isDigit (by decide)
          rw [isRepr] at reads
          rw [readInteger, if_neg notMinus, reads, Int.toNat_of_nonneg isNatural]
  · next isNegative =>
      rw [String.toList_append]
      change -((Nat.ofDigitChars 10 (-number).toNat.repr.toList 0 : Nat) : Int) = number
      rw [readsDigits]
      omega

/-- A word is a single value, a truth value, or an integer. -/
def readWord (text : String) : Datum :=
  if text = "None" then .none
  else if text = "NotImplemented" then .notImplemented
  else if text = "True" then .bool true
  else if text = "False" then .bool false
  else .int (Int64.ofInt (readInteger text.toList))

/-- A datum is read back from a text form that is a word. -/
theorem readWord_display {datum : Datum} (isWord : datum.shape = .word) :
    readWord datum.display = datum := by
  cases datum with
  | none | notImplemented => rfl
  | bool flag => cases flag <;> rfl
  | int number =>
      have isOther : ∀ (text : String) (letter : Char), letter ∈ text.toList →
          letter.isDigit = false → letter ≠ '-' → toString number.toInt ≠ text := by
        rintro text letter isMember notDigit notMinus rfl
        rcases isDigit_or_eq_of_mem isMember with isDigit | isMinus
        · exact absurd (isDigit.symm.trans notDigit) (by decide)
        · exact notMinus isMinus
      rw [readWord, display, if_neg (isOther "None" 'N' (by decide) rfl (by decide)),
        if_neg (isOther "NotImplemented" 'N' (by decide) rfl (by decide)),
        if_neg (isOther "True" 'T' (by decide) rfl (by decide)),
        if_neg (isOther "False" 'F' (by decide) rfl (by decide)), readInteger_toString,
        Int64.ofInt_toInt]
  | text | tuple => cases isWord

/-- A word has no marks, quotes, or parentheses. -/
theorem shape_of_mem {datum : Datum} (isWord : datum.shape = .word) :
    ∀ character ∈ datum.display.toList, Shape.of character = .word := by
  cases datum with
  | none | notImplemented => simp [display, Shape.of]
  | bool flag => cases flag <;> simp [display, Shape.of]
  | int number =>
      intro character isMember
      rcases isDigit_or_eq_of_mem isMember with isDigit | rfl
      · exact Shape.of_isDigit isDigit
      · rfl
  | text | tuple => cases isWord

/-- The first character of a text form has the shape of the datum. -/
theorem exists_display_eq (datum : Datum) :
    ∃ first rest, datum.display.toList = first :: rest ∧ Shape.of first = datum.shape := by
  have ofWord : datum.shape = .word → datum.display ≠ "" →
      ∃ first rest, datum.display.toList = first :: rest ∧ Shape.of first = datum.shape := by
    intro isWord isText
    obtain ⟨first, rest, isDisplay⟩ := List.exists_cons_of_ne_nil
      (fun isNil => isText (String.toList_inj.1 isNil))
    refine ⟨first, rest, isDisplay, ?_⟩
    rw [isWord]
    exact shape_of_mem isWord first (isDisplay ▸ List.mem_cons_self)
  cases datum with
  | none | notImplemented => exact ofWord rfl (by decide)
  | bool flag => exact ofWord rfl (by cases flag <;> decide)
  | int number =>
      refine ofWord rfl fun isEmpty => ?_
      have isZero : number.toInt = 0 := by
        rw [← readInteger_toString number.toInt, show toString number.toInt = "" from isEmpty]
        rfl
      have isOther : (int number).display = "0" := by
        rw [display, isZero]
        rfl
      rw [isOther] at isEmpty
      exact absurd isEmpty (by decide)
  | text content =>
      rw [display, String.toList_ofList]
      exact ⟨_, _, rfl, Shape.of_isQuote (Text.isQuote_quoteFor _)⟩
  | tuple items =>
      cases items with
      | nil => exact ⟨_, _, rfl, rfl⟩
      | cons item rest =>
          rw [display, displayItems, toList_display_cons]
          exact ⟨_, _, rfl, rfl⟩

/-! ### Reading -/

/-- A text form ends where nothing or a mark stands behind it. -/
def EndsForm (rest : List Char) : Prop :=
  ∀ character ∈ rest.head?, Shape.of character = .mark

theorem endsForm_nil : EndsForm [] :=
  fun _ isMember => nomatch isMember

theorem endsForm_separated (items : List String) (rest : List Char) :
    EndsForm (separated items ++ ')' :: rest) := by
  cases items <;> rintro character ⟨⟩ <;> rfl

theorem endsForm_behind (items : List String) (rest : List Char) : EndsForm (behind items ++ rest) := by
  cases items with
  | nil => rintro character ⟨⟩; rfl
  | cons item items =>
      rw [behind, List.append_assoc]
      · exact endsForm_separated (item :: items) rest
      · exact List.cons_ne_nil item items

variable {left right : Datum} {rest otherRest : List Char}

/-- Text forms with one first character have one shape. -/
theorem shape_eq_of_append (isSame : left.display.toList ++ rest = right.display.toList ++ otherRest) :
    left.shape = right.shape := by
  obtain ⟨first, later, isLeft, ofLeft⟩ := left.exists_display_eq
  obtain ⟨otherFirst, otherLater, isRight, ofRight⟩ := right.exists_display_eq
  rw [isLeft, isRight] at isSame
  rw [← ofLeft, ← ofRight, (List.cons.inj isSame).1]

/-- No text form starts as a tuple ends. -/
theorem display_append_ne_mark {mark : Char} (isMark : Shape.of mark = .mark) :
    left.display.toList ++ rest ≠ mark :: otherRest := by
  intro isSame
  obtain ⟨first, later, isLeft, ofLeft⟩ := left.exists_display_eq
  rw [isLeft] at isSame
  rw [(List.cons.inj isSame).1, isMark] at ofLeft
  exact left.shape_ne_mark ofLeft.symm

/-- A word ends in one place only. -/
theorem eq_of_append_of_word (isWord : left.shape = .word) (isEnd : EndsForm rest)
    (isOtherEnd : EndsForm otherRest)
    (isSame : left.display.toList ++ rest = right.display.toList ++ otherRest) :
    left = right ∧ rest = otherRest := by
  have isOtherWord : right.shape = .word := (shape_eq_of_append isSame).symm.trans isWord
  have takesWord : ∀ {datum : Datum} {rest : List Char}, datum.shape = .word → EndsForm rest →
      (datum.display.toList ++ rest).takeWhile (Shape.of · = .word) = datum.display.toList := by
    intro datum rest isWord isEnd
    have takesNothing : rest.takeWhile (Shape.of · = .word) = [] := by
      cases rest with
      | nil => rfl
      | cons first rest =>
          have isMark : Shape.of first = .mark := isEnd first rfl
          rw [List.takeWhile_cons, isMark]
          rfl
    rw [List.takeWhile_append_of_pos (fun character isMember =>
      decide_eq_true (shape_of_mem isWord character isMember)), takesNothing, List.append_nil]
  have sameForm : left.display = right.display := by
    rw [← String.toList_inj, ← takesWord isWord isEnd, isSame, takesWord isOtherWord isOtherEnd]
  refine ⟨?_, ?_⟩
  · rw [← readWord_display isWord, sameForm, readWord_display isOtherWord]
  · rw [sameForm] at isSame
    exact List.append_cancel_left isSame

mutual

/-- A text form ends in one place only, and it is the form of one datum. -/
theorem eq_of_append (left right : Datum) (rest otherRest : List Char) (isEnd : EndsForm rest)
    (isOtherEnd : EndsForm otherRest)
    (isSame : left.display.toList ++ rest = right.display.toList ++ otherRest) :
    left = right ∧ rest = otherRest := by
  have sameShape := shape_eq_of_append isSame
  cases left with
  | none | notImplemented | bool | int => exact eq_of_append_of_word rfl isEnd isOtherEnd isSame
  | text content =>
      cases right with
      | text other =>
          rw [display, display, String.toList_ofList, String.toList_ofList] at isSame
          obtain ⟨sameContent, sameRest⟩ := Text.quoted_append_inj isSame
          rw [String.toList_inj.1 sameContent]
          exact ⟨rfl, sameRest⟩
      | _ => cases sameShape
  | tuple items =>
      cases right with
      | tuple others =>
          obtain ⟨sameItems, sameRest⟩ := eq_of_append_items items others rest otherRest isSame
          exact ⟨congrArg tuple sameItems, sameRest⟩
      | _ => cases sameShape
termination_by structural left

/-- The text form of a tuple ends in one place only, and it is the form of one tuple. -/
theorem eq_of_append_items (items others : List Datum) (rest otherRest : List Char)
    (isSame : (tuple items).display.toList ++ rest = (tuple others).display.toList ++ otherRest) :
    items = others ∧ rest = otherRest := by
  cases items with
  | nil =>
      cases others with
      | nil => exact ⟨rfl, List.append_cancel_left isSame⟩
      | cons other others =>
          rw [display, display, displayItems, displayItems, toList_display_cons, List.cons_append,
            List.append_assoc] at isSame
          exact absurd (List.cons.inj isSame).2.symm (display_append_ne_mark rfl)
  | cons item items =>
      rw [display, displayItems, toList_display_cons, List.cons_append, List.append_assoc] at isSame
      cases others with
      | nil => exact absurd (List.cons.inj isSame).2 (display_append_ne_mark rfl)
      | cons other others =>
          rw [display, displayItems, toList_display_cons, List.cons_append, List.append_assoc] at isSame
          obtain ⟨sameItem, sameRest⟩ := eq_of_append item other _ _
            (endsForm_behind (displayItems items) rest)
            (endsForm_behind (displayItems others) otherRest) (List.cons.inj isSame).2
          obtain ⟨sameItems, sameRest⟩ := eq_of_append_separated items others rest otherRest
            (separated_append_of_behind sameRest)
          rw [sameItem, sameItems]
          exact ⟨rfl, sameRest⟩
termination_by structural items

/-- The items behind the first item of a tuple end in one place only. -/
theorem eq_of_append_separated (items others : List Datum) (rest otherRest : List Char)
    (isSame : separated (displayItems items) ++ ')' :: rest =
      separated (displayItems others) ++ ')' :: otherRest) :
    items = others ∧ rest = otherRest := by
  cases items with
  | nil =>
      cases others with
      | nil => exact ⟨rfl, (List.cons.inj isSame).2⟩
      | cons other others => exact absurd (List.cons.inj isSame).1 (by decide)
  | cons item items =>
      cases others with
      | nil => exact absurd (List.cons.inj isSame).1 (by decide)
      | cons other others =>
          simp only [displayItems, separated, List.flatMap_cons, List.cons_append, List.append_assoc,
            List.cons.injEq, true_and] at isSame
          obtain ⟨sameItem, sameRest⟩ := eq_of_append item other _ _
            (endsForm_separated (displayItems items) rest)
            (endsForm_separated (displayItems others) otherRest) isSame
          obtain ⟨sameItems, sameRest⟩ := eq_of_append_separated items others rest otherRest sameRest
          rw [sameItem, sameItems]
          exact ⟨rfl, sameRest⟩
termination_by structural items

end

/-- Two data with one text form are the same. -/
theorem display_inj : left.display = right.display ↔ left = right := by
  refine ⟨fun isSame => ?_, congrArg display⟩
  exact (eq_of_append left right [] [] endsForm_nil endsForm_nil (by rw [isSame])).1

/-! ### The machine -/

variable {contents : Reference → Datum}

/-- This is the operation in the text form slot of a datum. -/
def displaying : Datum → Builtin
  | .none => .noneRepr
  | .notImplemented => .notImplementedRepr
  | .bool _ => .boolRepr
  | .int _ => .intRepr
  | .text _ => .strRepr
  | .tuple _ => .tupleRepr

theorem target_repr (datum : Datum) :
    builtinTarget .repr ((Registry.initial 0).linearizationOf datum.typeId) =
      .builtin datum.displaying := by
  cases datum <;> rfl

/-- A machine that displays the items of a tuple delivers their text forms in order. -/
theorem delivers_displayItems {perform : Perform Host} {depth : Nat}
    (delivers : ∀ {value : Value} {datum : Datum}, value.Denotes contents datum →
      datum.depth ≤ depth → (perform.repr value).Delivers (· = datum.display))
    {values : List Value} {items : List Datum}
    (denote : List.Forall₂ (Value.Denotes contents) values items)
    (isShallow : depthOfItems items ≤ depth) :
    (values.mapM perform.repr).Delivers (· = displayItems items) := by
  refine Delivers.mapM ?_
  induction denote with
  | nil => exact .nil
  | cons isValue _ inductionHypothesis =>
      have isShallow := Nat.max_le.1 isShallow
      exact .cons (delivers isValue isShallow.1) (inductionHypothesis isShallow.2)

/-- The text form of a value is the content of the text that its slot makes. -/
theorem delivers_protocolRepr {perform : Perform Host} {value : Value} {datum : Datum}
    (isValue : value.Denotes contents datum)
    (delivers : (Invocation.unary perform (.builtin datum.displaying) value).Delivers
      (·.text? = some datum.display)) :
    (Protocol.repr perform value).Delivers (· = datum.display) := by
  obtain ⟨builtinType, isListed, _⟩ := isValue.exists_isListed
  refine (Delivers.of_gives (Gives.targetOf isListed .repr)).bind fun target isTarget => ?_
  rw [isTarget, isValue.typeId_eq, target_repr]
  refine delivers.bind fun result isText => ?_
  rw [isText]
  exact .pure rfl

/-- A machine displays all data that have at most the depth of the machine. -/
theorem delivers_repr (program : Program Host) {depth : Nat} {value : Value} {datum : Datum}
    (isValue : value.Denotes contents datum) (isShallow : datum.depth ≤ depth) :
    ((perform program depth).repr value).Delivers (· = datum.display) := by
  induction depth generalizing value datum with
  | zero => exact absurd isShallow (Nat.not_le_of_lt datum.depth_pos)
  | succ depth inductionHypothesis =>
      apply delivers_protocolRepr isValue
      cases isValue with
      | tuple _ denote =>
          refine Delivers.noted ((delivers_displayItems inductionHypothesis denote
            (Nat.le_of_succ_le_succ isShallow)).bind fun _ areItems => ?_)
          rw [areItems]
          exact .text _
      | bool flag => cases flag <;> exact Delivers.noted (.text _)
      | _ => exact Delivers.noted (.text _)

end Datum

/-- In every reachable world two values that denote data are displayed in the text forms of their data. These
forms are the same only for the same data, and a text is recovered from its form. -/
theorem World.displays_data {forged : Nat → Prop} {world : World Host}
    (reachable : World.Reachable forged world) (program : Program Host)
    {contents otherContents : Reference → Datum} {left right : Value} {leftDatum rightDatum : Datum}
    (isLeft : left.Denotes contents leftDatum) (isRight : right.Denotes otherContents rightDatum) :
    (∀ depth, leftDatum.depth ≤ depth → ∃ heap,
      (perform program depth (.repr left)).Ends world (.ok leftDatum.display) heap) ∧
    (∀ depth, rightDatum.depth ≤ depth → ∃ heap,
      (perform program depth (.repr right)).Ends world (.ok rightDatum.display) heap) ∧
    (leftDatum.display = rightDatum.display ↔ leftDatum = rightDatum) ∧
    ∀ content, leftDatum = .text content →
      Text.unquoted? leftDatum.display.toList = some content.toList := by
  have steady : world.Steady := reachable.forgeAll.alike
  refine ⟨fun depth isShallow => (Datum.delivers_repr program isLeft isShallow).ends steady,
    fun depth isShallow => (Datum.delivers_repr program isRight isShallow).ends steady,
    Datum.display_inj, ?_⟩
  rintro content rfl
  rw [Datum.display, String.toList_ofList, Text.unquoted?_quoted]

/-- After a change of types, a tuple of one text with both quotes is displayed unlike the tuple of two texts
that it looks like. -/
theorem World.displays_data_quotes :
    ∃ (program : Program Unit) (world : World Unit), World.Reachable (fun _ => True) world ∧
      (world.registry.definition? .str).map TypeDefinition.generation = some 1 ∧
      ∃ left right text : Value,
        (∃ heap, (perform program 2 (.repr left)).Ends world (.ok "('x\\', \\'y\"',)") heap) ∧
        (∃ heap, (perform program 2 (.repr right)).Ends world (.ok "('x', 'y')") heap) ∧
        (∃ heap, (perform program 1 (.repr text)).Ends world (.ok "'x\\', \\'y\"'") heap) ∧
        Text.unquoted? "'x\\', \\'y\"'".toList = some "x', 'y\"".toList := by
  let program : Program Unit := fun _ _ => do
    let text ← Body.request (.allocate .str (.text "x', 'y\"") false)
    let _ ← Body.request (.allocate .tuple (.tuple [text]) false)
    let first ← Body.request (.allocate .str (.text "x") false)
    let second ← Body.request (.allocate .str (.text "y") false)
    let _ ← Body.request (.allocate .tuple (.tuple [first, second]) false)
    let _ ← Body.request (.createType "Label" [.object] ⟨[("__repr__", .none)]⟩)
    Body.request (.invalidate .str)
    return .none
  let textDatum : Datum := .text "x', 'y\""
  let leftDatum : Datum := .tuple [textDatum]
  let rightDatum : Datum := .tuple [.text "x", .text "y"]
  let contents : Reference → Datum :=
    Datum.contentsOfPlaces [textDatum, leftDatum, .text "x", .text "y", rightDatum]
  let text : Value := .object ⟨.allocated 0, .str⟩ (.text "x', 'y\"")
  have isMade :
      ((perform program 2 (.apply "make" 0 []) (.initial .default ())).map fun answer =>
        (answer.2.registry.definition? .str).map TypeDefinition.generation) = some (some 1) := by
    decide +kernel
  obtain ⟨⟨outcome, world⟩, isOutcome, isGeneration⟩ := Option.map_eq_some_iff.1 isMade
  have reachable := World.Reachable.of_outcome isOutcome
  have isText : text.Denotes contents textDatum := .text rfl
  have isLeft : (Value.object ⟨.allocated 1, .tuple⟩ (.tuple [text])).Denotes contents leftDatum :=
    .tuple rfl (.cons isText .nil)
  have isRight : (Value.object ⟨.allocated 4, .tuple⟩ (.tuple
      [.object ⟨.allocated 2, .str⟩ (.text "x"), .object ⟨.allocated 3, .str⟩ (.text "y")])).Denotes
      contents rightDatum :=
    .tuple rfl (.cons (.text rfl) (.cons (.text rfl) .nil))
  have isLeftForm : leftDatum.display = "('x\\', \\'y\"',)" := by decide +kernel
  have isRightForm : rightDatum.display = "('x', 'y')" := by decide +kernel
  have isTextForm : textDatum.display = "'x\\', \\'y\"'" := by decide +kernel
  obtain ⟨displaysLeft, displaysRight, _, _⟩ :=
    World.displays_data reachable program isLeft isRight
  obtain ⟨displaysText, _, _, isRead⟩ := World.displays_data reachable program isText isText
  have endsLeft := displaysLeft 2 (by decide)
  have endsRight := displaysRight 2 (by decide)
  have endsText := displaysText 1 (by decide)
  have reads := isRead _ rfl
  rw [isLeftForm] at endsLeft
  rw [isRightForm] at endsRight
  rw [isTextForm] at endsText reads
  exact ⟨program, world, reachable, isGeneration, _, _, _, endsLeft, endsRight, endsText, reads⟩

end SlotDispatch
