import SlotDispatch.Error
/-!
Indexes and lengths of sequences.
-/

namespace SlotDispatch.Sequence

/-- A negative index counts from the end, and an index outside the sequence is nothing. A sequence
has no places when its length does not fit a word with a sign. -/
def normalizeIndex (index : Int) (length : Nat) : Option Nat :=
  let place := if index < 0 then index + length else index
  if length < 0x8000000000000000 ∧ 0 ≤ place ∧ place < length then some place.toNat else none

/-- An item in a tuple takes this number of bytes. -/
def itemSize : Nat := 16

/-- A repetition has a length that fits a word without a sign, a size that fits a word with a sign,
and not more bytes than the limit. -/
def repeatLength (limit length count elementSize : Nat) (what : String) : Except Error Nat :=
  let total := length * count
  let bytes := total * elementSize
  if 0x10000000000000000 ≤ total ∨ 0x8000000000000000 ≤ bytes then .error (.repeatTooLong what)
  else if limit < bytes then .error (.outOfMemory bytes what)
  else .ok total

/-- A sequence needs memory for all its bytes at once, and no bytes need no memory. -/
def reserve (hasMemory : Nat → Bool) (bytes : Nat) (what : String) : Except Error Unit :=
  if bytes = 0 ∨ hasMemory bytes then .ok () else .error (.outOfMemory bytes what)

/-- A call takes exactly the expected number of arguments. -/
def checkArity {Element : Type} (name : String) (arguments : List Element) (expected : Nat) :
    Except Error Unit :=
  if arguments.length = expected then .ok ()
  else .error (.wrongArity name expected arguments.length)

end SlotDispatch.Sequence
