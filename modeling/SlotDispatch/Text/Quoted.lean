/-!
A quoted text stands between two quotes. A backslash marks the quote, the backslash itself, and
three control characters inside it.
-/

namespace SlotDispatch.Text

/-- A text is quoted with the double quote when it has a single quote and no double quote. -/
def quoteFor (characters : List Char) : Char :=
  if characters.contains '\'' && !characters.contains '"' then '"' else '\''

/-- This is one character inside a quoted text. -/
def escape (quote character : Char) : List Char :=
  if character = '\\' then ['\\', '\\']
  else if character = '\n' then ['\\', 'n']
  else if character = '\t' then ['\\', 't']
  else if character = '\r' then ['\\', 'r']
  else if character = quote then ['\\', character]
  else [character]

/-- This is the quoted form of a text. -/
def quoted (characters : List Char) : List Char :=
  let quote := quoteFor characters
  quote :: characters.flatMap (escape quote) ++ [quote]

end SlotDispatch.Text
