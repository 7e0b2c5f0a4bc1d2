import SlotDispatch.Number.Binary64
import SlotDispatch.Number.Digits
import SlotDispatch.Text.Blank
/-!
The literals of integers and of binary64 numbers in a text. Blanks around a literal do not count.
-/

namespace SlotDispatch.Literal

/-- This test tells the ten digits. -/
def isDigit (character : Char) : Bool :=
  '0' ≤ character && character ≤ '9'

/-- This is the value of one digit. -/
def digitValue (digit : Char) : Nat :=
  digit.toNat - '0'.toNat

/-- Digits are read from the first to the last. -/
def digitsValue (digits : List Char) : Nat :=
  Digits.value 10 (digits.map digitValue)

/-- A literal may begin with one sign, and the sign tells a negative literal. -/
def splitSign : List Char → Bool × List Char
  | '+' :: rest => (false, rest)
  | '-' :: rest => (true, rest)
  | rest => (false, rest)

/-- An integer literal is one optional sign and at least one digit. -/
def integer? (text : String) : Option Int :=
  let (negative, digits) := splitSign (Text.trim text.toList)
  if digits ≠ [] && digits.all isDigit then
    some (if negative then -digitsValue digits else digitsValue digits)
  else none

/-- A decimal literal that is this many places above one is infinite, and one that is this many
places below one is zero. -/
def placeBound : Int := 400

/-- This is the nearest number to `coefficient * 10 ^ exponent`, where `places` is the number of
digits of the coefficient. -/
def ofDecimal (negative : Bool) (coefficient places : Nat) (exponent : Int) : Binary64 :=
  if coefficient = 0 || places + exponent < -placeBound then .ofMagnitude negative 0
  else if placeBound < places + exponent then .infinity negative
  else .ofQuotient negative (coefficient * Nat.pow 10 exponent.toNat)
    (Nat.pow 10 (-exponent).toNat)

/-- An exponent that reaches this bound takes no further digits. -/
def exponentBound : Nat := 0x10000

/-- The digits of an exponent are read until it reaches its bound, and the digits after that do not
count. -/
def exponentValue (digits : List Char) : Nat :=
  digits.foldl
    (fun value digit =>
      if value < exponentBound then 10 * value + digitValue digit else value)
    0

/-- An exponent is the letter `e`, one optional sign, and at least one digit, and a literal without
an exponent has the exponent zero. -/
def exponent? : List Char → Option Int
  | [] => some 0
  | letter :: rest =>
      let (negative, digits) := splitSign rest
      if letter.toLower = 'e' && digits ≠ [] && digits.all isDigit then
        some (if negative then -exponentValue digits else exponentValue digits)
      else none

/-- A decimal literal has digits with at most one point among them, and then its exponent. -/
def decimal? (negative : Bool) (characters : List Char) : Option Binary64 := do
  let whole := characters.takeWhile isDigit
  let afterWhole := characters.dropWhile isDigit
  let (fraction, rest) := match afterWhole with
    | '.' :: places => (places.takeWhile isDigit, places.dropWhile isDigit)
    | rest => ([], rest)
  let exponent ← exponent? rest
  if whole ++ fraction = [] then none
  else
    let significant := (whole ++ fraction).dropWhile (· = '0')
    return ofDecimal negative (digitsValue significant) significant.length
      (exponent - fraction.length)

/-- A number literal is one optional sign and then a name of infinity, the name of the datum that is
not a number, or a decimal literal. -/
def number? (text : String) : Option Binary64 :=
  let (negative, rest) := splitSign (Text.trim text.toList)
  let word := String.ofList (rest.map Char.toLower)
  if word = "inf" || word = "infinity" then some (.infinity negative)
  else if word = "nan" then
    some (.ofMagnitude negative (Binary64.infinityMagnitude + Binary64.quietBit))
  else decimal? negative rest

end SlotDispatch.Literal
