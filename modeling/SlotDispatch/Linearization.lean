/-!
A linearization merges the orders of several bases into one order. A merge takes, at each step, the
first head that no sequence holds in its tail, and it reports the heads of all sequences when every
head is held back.
-/

namespace SlotDispatch.Linearization

variable {Id : Type} [DecidableEq Id]

/-- A head is free when no sequence holds it behind its own head. -/
def isFree (sequences : List (List Id)) (head : Id) : Bool :=
  sequences.all fun sequence => !sequence.tail.contains head

/-- These are the heads of the sequences, from the first sequence to the last. -/
def heads (sequences : List (List Id)) : List Id :=
  sequences.filterMap List.head?

/-- The next element of a merge is the first free head. -/
def next? (sequences : List (List Id)) : Option Id :=
  (heads sequences).find? (isFree sequences)

/-- A sequence gives up its head when the merge has taken that head. -/
def advance (taken : Id) : List Id → List Id
  | [] => []
  | head :: tail => if head = taken then tail else head :: tail

theorem length_advance_le (taken : Id) (sequence : List Id) :
    (advance taken sequence).length ≤ sequence.length := by
  cases sequence with
  | nil => simp [advance]
  | cons head tail =>
      simp only [advance]
      split <;> simp

theorem length_advance_lt {taken : Id} {sequence : List Id} (isHead : sequence.head? = some taken) :
    (advance taken sequence).length < sequence.length := by
  cases sequence with
  | nil => simp at isHead
  | cons head tail => simp_all [advance]

/-- All sequences give up the element that the merge has taken. -/
def advanceAll (taken : Id) (sequences : List (List Id)) : List (List Id) :=
  sequences.map (advance taken)

/-- This is the number of places in all sequences, which bounds the steps of a merge. -/
def size (sequences : List (List Id)) : Nat :=
  sequences.flatten.length

theorem size_advance_le (taken : Id) (sequences : List (List Id)) :
    size (advanceAll taken sequences) ≤ size sequences := by
  induction sequences with
  | nil => simp [size, advanceAll]
  | cons sequence rest inductionHypothesis =>
      have first := length_advance_le taken sequence
      simp only [size, advanceAll, List.map_cons, List.flatten_cons, List.length_append] at *
      omega

theorem size_advance_lt {taken : Id} {sequences : List (List Id)}
    (isHead : taken ∈ heads sequences) :
    size (advanceAll taken sequences) < size sequences := by
  induction sequences with
  | nil => simp [heads] at isHead
  | cons sequence rest inductionHypothesis =>
      have first := length_advance_le taken sequence
      have others := size_advance_le taken rest
      rcases List.mem_filterMap.1 isHead with ⟨origin, isMember, hasHead⟩
      rcases List.mem_cons.1 isMember with rfl | later
      · have shorter := length_advance_lt hasHead
        simp only [size, advanceAll, List.map_cons, List.flatten_cons, List.length_append] at *
        omega
      · have shorter := inductionHypothesis (List.mem_filterMap.2 ⟨origin, later, hasHead⟩)
        simp only [size, advanceAll, List.map_cons, List.flatten_cons, List.length_append] at *
        omega

theorem next?_mem_heads {sequences : List (List Id)} {taken : Id}
    (isNext : next? sequences = some taken) : taken ∈ heads sequences :=
  List.mem_of_find?_eq_some isNext

/-- A merge ends when all sequences are used up, and it fails with the heads that hold each other
back. -/
def merge (sequences : List (List Id)) : Except (List Id) (List Id) :=
  if heads sequences = [] then
    .ok []
  else
    match _isNext : next? sequences with
    | none => .error (heads sequences).eraseDups
    | some taken => do
        let rest ← merge (advanceAll taken sequences)
        return taken :: rest
termination_by size sequences
decreasing_by exact size_advance_lt (next?_mem_heads (by assumption))

/-- This is the order of a type: the type itself, then the merge of the orders of its bases and of
the bases in their declared order. -/
def linearize (id : Id) (bases : List (Id × List Id)) : Except (List Id) (List Id) := do
  let rest ← merge (bases.map Prod.snd ++ [bases.map Prod.fst])
  return id :: rest

end SlotDispatch.Linearization
