import SlotDispatch.Text.Quoted
/-!
Reading quoted texts. The main statements say that a quoted text is read back, and that it ends in one
place only, whatever stands behind it.
-/

namespace SlotDispatch.Text

/-- A text is quoted with a single or a double quote. -/
def IsQuote (character : Char) : Prop :=
  character = '\'' ∨ character = '"'

theorem isQuote_quoteFor (characters : List Char) : IsQuote (quoteFor characters) := by
  unfold quoteFor
  split
  · exact .inr rfl
  · exact .inl rfl

/-- This is the character that a character behind a backslash stands for. -/
def unescape (character : Char) : Char :=
  if character = 'n' then '\n'
  else if character = 't' then '\t'
  else if character = 'r' then '\r'
  else character

/-- A quoted text is read up to its quote, and what stands behind the quote is left. -/
def readQuoted (quote : Char) : List Char → Option (List Char × List Char)
  | [] => none
  | first :: rest =>
      if first = quote then some ([], rest)
      else if first = '\\' then
        match rest with
        | [] => none
        | second :: rest => (readQuoted quote rest).map (Prod.map (unescape second :: ·) id)
      else (readQuoted quote rest).map (Prod.map (first :: ·) id)

theorem readQuoted_quote (quote : Char) (rest : List Char) :
    readQuoted quote (quote :: rest) = some ([], rest) := by
  rw [readQuoted.eq_def]
  exact if_pos rfl

theorem readQuoted_of_plain {quote first : Char} (isOther : first ≠ quote) (isPlain : first ≠ '\\')
    (rest : List Char) :
    readQuoted quote (first :: rest) = (readQuoted quote rest).map (Prod.map (first :: ·) id) := by
  rw [readQuoted.eq_def]
  exact (if_neg isOther).trans (if_neg isPlain)

/-- A character is read back from its form inside quotes. -/
theorem readQuoted_escape {quote : Char} (isQuote : IsQuote quote) (character : Char)
    (rest : List Char) :
    readQuoted quote (escape quote character ++ rest) =
      (readQuoted quote rest).map (Prod.map (character :: ·) id) := by
  have isNoBackslash : '\\' ≠ quote := by
    rcases isQuote with rfl | rfl <;> decide
  have isLetter : unescape quote = quote := by
    rcases isQuote with rfl | rfl <;> decide
  have readsPair : ∀ letter, readQuoted quote ('\\' :: letter :: rest) =
      (readQuoted quote rest).map (Prod.map (unescape letter :: ·) id) := by
    intro letter
    rw [readQuoted, if_neg isNoBackslash, if_pos rfl]
  unfold escape
  split
  · next isBackslash =>
      subst isBackslash
      exact readsPair '\\'
  split
  · next isNewline =>
      subst isNewline
      exact readsPair 'n'
  split
  · next isTab =>
      subst isTab
      exact readsPair 't'
  split
  · next isReturn =>
      subst isReturn
      exact readsPair 'r'
  split
  · next isQuoteHere =>
      subst isQuoteHere
      rw [List.cons_append, List.cons_append, List.nil_append, readsPair, isLetter]
  · next isPlain _ _ _ isOther =>
      exact readQuoted_of_plain isOther isPlain rest

/-- The characters of a text are read back from their forms in front of the quote. -/
theorem readQuoted_escaped {quote : Char} (isQuote : IsQuote quote) (characters rest : List Char) :
    readQuoted quote (characters.flatMap (escape quote) ++ quote :: rest) =
      some (characters, rest) := by
  induction characters with
  | nil => exact readQuoted_quote quote rest
  | cons character characters inductionHypothesis =>
      rw [List.flatMap_cons, List.append_assoc, readQuoted_escape isQuote, inductionHypothesis]
      rfl

/-- A text is read from its quoted form when nothing stands behind the quote. -/
def unquoted? : List Char → Option (List Char)
  | [] => none
  | quote :: rest =>
      match readQuoted quote rest with
      | some (characters, []) => some characters
      | _ => none

/-- A text is recovered from its quoted form. -/
theorem unquoted?_quoted (characters : List Char) : unquoted? (quoted characters) = some characters := by
  rw [quoted, List.cons_append, unquoted?, readQuoted_escaped (isQuote_quoteFor characters)]

/-- Two quoted texts that start the same are the same, and so is what stands behind them. -/
theorem quoted_append_inj {left right rest otherRest : List Char}
    (isSame : quoted left ++ rest = quoted right ++ otherRest) : left = right ∧ rest = otherRest := by
  simp only [quoted, List.cons_append, List.append_assoc, List.nil_append] at isSame
  obtain ⟨sameQuote, sameRest⟩ := List.cons.inj isSame
  have isLeft := readQuoted_escaped (isQuote_quoteFor left) left rest
  rw [sameRest, sameQuote, readQuoted_escaped (isQuote_quoteFor right)] at isLeft
  obtain ⟨isRight, isRest⟩ := Prod.mk.inj (Option.some.inj isLeft)
  exact ⟨isRight.symm, isRest.symm⟩

end SlotDispatch.Text
