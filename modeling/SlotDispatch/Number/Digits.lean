/-!
Digits in a radix and the number that they write. A long number is put together from pairs of
digits, then from pairs of pairs, so that most products are of small factors.
-/

namespace SlotDispatch.Digits

/-- Two neighbours are one digit in the square of the radix, when the lowest digit stands first. -/
def paired (radix : Nat) : List Nat → List Nat
  | low :: high :: rest => (low + radix * high) :: paired radix rest
  | digits => digits

theorem length_paired_le (radix : Nat) (digits : List Nat) :
    (paired radix digits).length ≤ digits.length := by
  fun_induction paired with
  | case1 low high rest inductionHypothesis =>
      simp only [List.length_cons]
      omega
  | case2 => exact Nat.le_refl _

/-- This is the number of digits whose lowest one stands first. -/
def reversedValue (radix : Nat) : List Nat → Nat
  | [] => 0
  | [digit] => digit
  | low :: high :: rest =>
      reversedValue (radix * radix) ((low + radix * high) :: paired radix rest)
termination_by digits => digits.length
decreasing_by
  have bound := length_paired_le radix rest
  simp only [List.length_cons]
  omega

/-- This is the number of digits whose highest one stands first. -/
def value (radix : Nat) (digits : List Nat) : Nat :=
  reversedValue radix digits.reverse

end SlotDispatch.Digits
