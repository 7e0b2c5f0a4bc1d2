import SlotDispatch.Number.Literal
/-!
The scalars of a TOML document: integers in four bases, decimal numbers, truth values, and texts
that stand on one line.
-/

namespace SlotDispatch.Toml

/-- A scalar is a content that is neither a table nor an array. -/
inductive Scalar where
  | text (content : String)
  | integer (number : Int)
  | float (number : Binary64)
  | boolean (flag : Bool)

/-- Spaces and tabs separate the parts of a line. -/
def isBlank (character : Char) : Bool :=
  character = ' ' || character = '\t'

/-- Texts and comments have no control characters but the tab. -/
def isPrintable (character : Char) : Bool :=
  character = '\t' || (' ' ≤ character && character.toNat ≠ 0x7F)

/-! ### Numbers -/

/-- This is the value of a digit in some radix. -/
def digit? (radix : Nat) (character : Char) : Option Nat :=
  let value? :=
    if '0' ≤ character && character ≤ '9' then some (character.toNat - '0'.toNat)
    else if 'a' ≤ character && character ≤ 'f' then some (10 + character.toNat - 'a'.toNat)
    else if 'A' ≤ character && character ≤ 'F' then some (10 + character.toNat - 'A'.toNat)
    else none
  value?.filter fun value => value < radix

/-- An underscore may stand between two digits. -/
def digits? (radix : Nat) : List Char → Option (List Nat)
  | [] => none
  | [last] => return [← digit? radix last]
  | first :: '_' :: rest | first :: rest =>
      return (← digit? radix first) :: (← digits? radix rest)

/-- Decimal digits do not begin with a zero that could be left out. -/
def decimalDigits? (characters : List Char) : Option (List Nat) :=
  (digits? 10 characters).filter fun digits => digits.length = 1 || digits.head? ≠ some 0

/-- An integer has a sign and decimal digits, or a radix mark and digits. -/
def unboundedInteger? : List Char → Option Int
  | '0' :: 'x' :: rest => return Digits.value 16 (← digits? 16 rest)
  | '0' :: 'o' :: rest => return Digits.value 8 (← digits? 8 rest)
  | '0' :: 'b' :: rest => return Digits.value 2 (← digits? 2 rest)
  | characters => do
      let (negative, rest) := Literal.splitSign characters
      let value := Digits.value 10 (← decimalDigits? rest)
      return if negative then -value else value

/-- An integer fits a signed or an unsigned word of 128 bits. -/
def integer? (characters : List Char) : Option Int :=
  (unboundedInteger? characters).filter fun number =>
    -(1 <<< 127) ≤ number && number < 1 <<< 128

/-- A fraction is a point and digits, and it may be left out. -/
def isFraction : List Char → Bool
  | [] => true
  | point :: digits => point = '.' && (digits? 10 digits).isSome

/-- An exponent is a letter, an optional sign, and digits, and it may be left out. -/
def isExponent : List Char → Bool
  | [] => true
  | letter :: rest =>
      letter.toLower = 'e' && (digits? 10 (Literal.splitSign rest).2).isSome

/-- A decimal number has a fraction or an exponent, and it is finite. -/
def decimal? (negative : Bool) (characters : List Char) : Option Binary64 :=
  let mantissa := characters.takeWhile fun character => character.toLower ≠ 'e'
  let exponent := characters.dropWhile fun character => character.toLower ≠ 'e'
  let whole := mantissa.takeWhile (· ≠ '.')
  let fraction := mantissa.dropWhile (· ≠ '.')
  if (decimalDigits? whole).isSome && isFraction fraction && isExponent exponent &&
      !(fraction ++ exponent).isEmpty then
    (Literal.decimal? negative (characters.filter (· ≠ '_'))).filter Binary64.isFinite
  else none

/-- A float is a decimal number or one of two names, after an optional sign. -/
def float? (characters : List Char) : Option Binary64 :=
  let (negative, rest) := Literal.splitSign characters
  if rest = "inf".toList || rest = "nan".toList then Literal.number? (String.ofList characters)
  else decimal? negative rest

/-! ### Texts -/

/-- This is the character of a code point in hexadecimal digits. -/
def codePoint? (digits : List Char) : Option Char := do
  let value := Digits.value 16 (← digits.mapM (digit? 16))
  if value.isValidChar then some (.ofNat value) else none

/-- These are the characters that have a letter of their own after a backslash. -/
def escaped? : Char → Option Char
  | '"' => some '"'
  | '\\' => some '\\'
  | 'b' => some '\x08'
  | 't' => some '\t'
  | 'n' => some '\n'
  | 'f' => some '\x0C'
  | 'r' => some '\r'
  | 'e' => some '\x1B'
  | _ => none

/-- A basic text ends at a double quote, and a backslash begins an escape. The result is the text
and what follows it. -/
def basicText? : List Char → Option (List Char × List Char)
  | [] => none
  | '"' :: rest => some ([], rest)
  | '\\' :: 'x' :: a :: b :: rest => do
      let character ← codePoint? [a, b]
      let (content, following) ← basicText? rest
      return (character :: content, following)
  | '\\' :: 'u' :: a :: b :: c :: d :: rest => do
      let character ← codePoint? [a, b, c, d]
      let (content, following) ← basicText? rest
      return (character :: content, following)
  | '\\' :: 'U' :: a :: b :: c :: d :: e :: f :: g :: h :: rest => do
      let character ← codePoint? [a, b, c, d, e, f, g, h]
      let (content, following) ← basicText? rest
      return (character :: content, following)
  | '\\' :: letter :: rest => do
      let character ← escaped? letter
      let (content, following) ← basicText? rest
      return (character :: content, following)
  | character :: rest => do
      let (content, following) ← basicText? rest
      if isPrintable character && character ≠ '\\' then
        return (character :: content, following)
      else none

/-- A literal text ends at a single quote and has no escapes. -/
def literalText? (characters : List Char) : Option (List Char × List Char) :=
  let content := characters.takeWhile (· ≠ '\'')
  match characters.dropWhile (· ≠ '\'') with
  | _ :: following => if content.all isPrintable then some (content, following) else none
  | [] => none

/-! ### Scalars -/

/-- A word is a scalar without quotes. -/
def word? (characters : List Char) : Option Scalar :=
  if characters = "true".toList then some (.boolean true)
  else if characters = "false".toList then some (.boolean false)
  else ((integer? characters).map .integer).or ((float? characters).map .float)

/-- A word ends at a blank or at a comment. The result is the scalar and what follows it. -/
def scalar? : List Char → Option (Scalar × List Char)
  | '"' :: rest => do
      let (content, following) ← basicText? rest
      return (.text (String.ofList content), following)
  | '\'' :: rest => do
      let (content, following) ← literalText? rest
      return (.text (String.ofList content), following)
  | characters => do
      let isInside (character : Char) : Bool := !isBlank character && character ≠ '#'
      return (← word? (characters.takeWhile isInside), characters.dropWhile isInside)

end SlotDispatch.Toml
