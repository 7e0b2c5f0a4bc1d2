import Mathlib.Data.List.Basic
import Mathlib.Data.List.Nodup
import SlotDispatch.Linearization
/-!
Merges are sound and complete. The main statement says that a linearization exists exactly when some
order without duplicates respects the bases, and that the linearization that is found is such an
order of exactly the given types.
-/

namespace SlotDispatch.Linearization

variable {Id : Type}

/-! ### Orders -/

/-- An order respects bases when it has no duplicates and keeps the linearization of each base and
the declared order of the bases. -/
structure Respects (order : List Id) (bases : List (Id × List Id)) : Prop where
  nodup : order.Nodup
  linearizations : ∀ base ∈ bases, base.2.Sublist order
  declared : (bases.map Prod.fst).Sublist order

theorem respects_iff (order : List Id) (bases : List (Id × List Id)) :
    Respects order bases ↔ order.Nodup ∧
      ∀ sequence ∈ bases.map Prod.snd ++ [bases.map Prod.fst], sequence.Sublist order := by
  constructor
  · intro respects
    refine ⟨respects.nodup, fun sequence isMember => ?_⟩
    rcases List.mem_append.1 isMember with isLinearization | isDeclared
    · obtain ⟨base, isBase, rfl⟩ := List.mem_map.1 isLinearization
      exact respects.linearizations base isBase
    · rw [List.mem_singleton.1 isDeclared]
      exact respects.declared
  · rintro ⟨nodup, respected⟩
    exact ⟨nodup,
      fun base isBase => respected _ (List.mem_append_left _ (List.mem_map_of_mem isBase)),
      respected _ (List.mem_append_right _ (List.mem_singleton_self _))⟩

/-! ### Heads and free heads -/

theorem heads_eq_nil_iff (sequences : List (List Id)) :
    heads sequences = [] ↔ ∀ sequence ∈ sequences, sequence = [] := by
  simp [heads, List.filterMap_eq_nil_iff]

theorem mem_heads_iff (sequences : List (List Id)) (head : Id) :
    head ∈ heads sequences ↔ ∃ tail, head :: tail ∈ sequences := by
  simp only [heads, List.mem_filterMap, List.head?_eq_some_iff]
  constructor
  · rintro ⟨_, isMember, tail, rfl⟩
    exact ⟨tail, isMember⟩
  · rintro ⟨tail, isMember⟩
    exact ⟨head :: tail, isMember, tail, rfl⟩

variable [DecidableEq Id]

theorem isFree_iff (sequences : List (List Id)) (head : Id) :
    isFree sequences head = true ↔ ∀ sequence ∈ sequences, head ∉ sequence.tail := by
  simp [isFree]

theorem next?_isFree {sequences : List (List Id)} {taken : Id}
    (isNext : next? sequences = some taken) : isFree sequences taken = true :=
  List.find?_some isNext

/-! ### One step of a merge -/

theorem advance_eq_erase {taken : Id} {sequence : List Id} (notBehind : taken ∉ sequence.tail) :
    advance taken sequence = sequence.erase taken := by
  cases sequence with
  | nil => rfl
  | cons head tail =>
      by_cases isTaken : head = taken
      · simp [advance, isTaken]
      · have unchanged : tail.erase taken = tail := List.erase_of_not_mem notBehind
        simp [advance, isTaken, unchanged]

theorem notMem_advance {taken : Id} {sequence : List Id} (notBehind : taken ∉ sequence.tail) :
    taken ∉ advance taken sequence := by
  cases sequence with
  | nil => simp [advance]
  | cons head tail =>
      by_cases isTaken : head = taken
      · simpa [advance, isTaken] using notBehind
      · have different : taken ≠ head := fun same => isTaken same.symm
        simpa [advance, isTaken, different] using notBehind

/-- A sequence has the taken element, if at all, in front of what it keeps. -/
theorem sublist_cons_of_advance {taken : Id} {sequence order : List Id}
    (kept : (advance taken sequence).Sublist order) : sequence.Sublist (taken :: order) := by
  cases sequence with
  | nil => exact List.nil_sublist _
  | cons head tail =>
      by_cases isTaken : head = taken
      · subst isTaken
        simp only [advance, if_true] at kept
        exact kept.cons_cons head
      · simp only [advance, isTaken, if_false] at kept
        exact kept.cons taken

theorem advance_sublist (taken : Id) (sequence : List Id) :
    (advance taken sequence).Sublist sequence := by
  cases sequence with
  | nil => exact List.Sublist.refl _
  | cons head tail =>
      simp only [advance]
      split
      · exact List.sublist_cons_self head tail
      · exact List.Sublist.refl _

theorem mem_advanceAll {taken : Id} {sequences : List (List Id)} {sequence : List Id} :
    sequence ∈ advanceAll taken sequences ↔
      ∃ origin ∈ sequences, advance taken origin = sequence :=
  List.mem_map

/-! ### Merges -/

theorem merge_of_heads_eq_nil {sequences : List (List Id)} (finished : heads sequences = []) :
    merge sequences = .ok [] := by
  rw [merge, if_pos finished]

theorem merge_of_next?_eq_some {sequences : List (List Id)} {taken : Id}
    (isNext : next? sequences = some taken) :
    merge sequences = (merge (advanceAll taken sequences)).map (taken :: ·) := by
  have unfinished : heads sequences ≠ [] := List.ne_nil_of_mem (next?_mem_heads isNext)
  rw [merge, if_neg unfinished]
  split
  · simp_all
  · rename_i other isOther
    obtain rfl : other = taken := Option.some.inj (isOther.symm.trans isNext)
    cases merge (advanceAll other sequences) <;> rfl

/-- A merge without elements has no heads left. -/
theorem merge_eq_ok_nil {sequences : List (List Id)} (merged : merge sequences = .ok []) :
    heads sequences = [] := by
  by_contra unfinished
  rw [merge, if_neg unfinished] at merged
  split at merged
  · cases merged
  · rename_i taken isNext
    cases rest : merge (advanceAll taken sequences) <;>
      simp [rest, bind, Except.bind, pure, Except.pure] at merged

/-- A merge with a first element takes that element and goes on with what is left. -/
theorem merge_eq_ok_cons {sequences : List (List Id)} {taken : Id} {later : List Id}
    (merged : merge sequences = .ok (taken :: later)) :
    next? sequences = some taken ∧ merge (advanceAll taken sequences) = .ok later := by
  by_cases finished : heads sequences = []
  · simp [merge_of_heads_eq_nil finished] at merged
  · cases isNext : next? sequences with
    | none =>
        rw [merge, if_neg finished] at merged
        split at merged <;> simp_all
    | some other =>
        rw [merge_of_next?_eq_some isNext] at merged
        cases rest : merge (advanceAll other sequences) with
        | error stuck => simp [rest, Except.map] at merged
        | ok order =>
            obtain ⟨rfl, rfl⟩ : other = taken ∧ order = later := by
              simpa [rest, Except.map] using merged
            exact ⟨rfl, rest⟩

/-- Every sequence keeps its order in a merge. -/
theorem merge_sublist {sequences : List (List Id)} {order : List Id}
    (merged : merge sequences = .ok order) {sequence : List Id} (isMember : sequence ∈ sequences) :
    sequence.Sublist order := by
  induction order generalizing sequences sequence with
  | nil =>
      have finished := (heads_eq_nil_iff sequences).1 (merge_eq_ok_nil merged)
      rw [finished sequence isMember]
  | cons taken later inductionHypothesis =>
      obtain ⟨_, rest⟩ := merge_eq_ok_cons merged
      have kept := inductionHypothesis rest (mem_advanceAll.2 ⟨sequence, isMember, rfl⟩)
      exact sublist_cons_of_advance kept

/-- A merge has no other elements than its sequences. -/
theorem mem_merge_iff {sequences : List (List Id)} {order : List Id}
    (merged : merge sequences = .ok order) (element : Id) :
    element ∈ order ↔ ∃ sequence ∈ sequences, element ∈ sequence := by
  constructor
  · intro isElement
    induction order generalizing sequences with
    | nil => simp at isElement
    | cons taken later inductionHypothesis =>
        obtain ⟨isNext, rest⟩ := merge_eq_ok_cons merged
        rcases List.mem_cons.1 isElement with rfl | isLater
        · obtain ⟨tail, isMember⟩ := (mem_heads_iff _ _).1 (next?_mem_heads isNext)
          exact ⟨_, isMember, List.mem_cons_self⟩
        · obtain ⟨_, isAdvanced, contains⟩ := inductionHypothesis rest isLater
          obtain ⟨origin, isMember, rfl⟩ := mem_advanceAll.1 isAdvanced
          exact ⟨origin, isMember, (advance_sublist taken origin).subset contains⟩
  · rintro ⟨sequence, isMember, contains⟩
    exact (merge_sublist merged isMember).subset contains

/-- A merge has no duplicates, because a taken head is behind no other head. -/
theorem merge_nodup {sequences : List (List Id)} {order : List Id}
    (merged : merge sequences = .ok order) : order.Nodup := by
  induction order generalizing sequences with
  | nil => exact List.nodup_nil
  | cons taken later inductionHypothesis =>
      obtain ⟨isNext, rest⟩ := merge_eq_ok_cons merged
      refine List.nodup_cons.2 ⟨fun isLater => ?_, inductionHypothesis rest⟩
      obtain ⟨_, isAdvanced, contains⟩ := (mem_merge_iff rest taken).1 isLater
      obtain ⟨origin, isMember, rfl⟩ := mem_advanceAll.1 isAdvanced
      have notBehind := (isFree_iff sequences taken).1 (next?_isFree isNext) origin isMember
      exact notMem_advance notBehind contains

/-! ### Completeness -/

/-- In an order that all sequences respect, the first element that is a head is a free head. An element
before it heads no sequence, so no sequence has that element at all. -/
theorem exists_free_head {sequences : List (List Id)} {order : List Id} (nodup : order.Nodup)
    (respected : ∀ sequence ∈ sequences, sequence.Sublist order)
    (unfinished : heads sequences ≠ []) :
    ∃ head ∈ heads sequences, isFree sequences head = true := by
  induction order with
  | nil =>
      refine absurd ((heads_eq_nil_iff sequences).2 fun sequence isMember => ?_) unfinished
      exact List.sublist_nil.1 (respected sequence isMember)
  | cons first rest inductionHypothesis =>
      obtain ⟨notLater, restNodup⟩ := List.nodup_cons.1 nodup
      by_cases isHead : first ∈ heads sequences
      · refine ⟨first, isHead, (isFree_iff sequences first).2 fun sequence isMember => ?_⟩
        cases respected sequence isMember with
        | cons _ later => exact fun behind => notLater (later.subset (List.mem_of_mem_tail behind))
        | cons_cons _ later => exact fun behind => notLater (later.subset behind)
      · refine inductionHypothesis restNodup fun sequence isMember => ?_
        cases respected sequence isMember with
        | cons _ later => exact later
        | cons_cons _ later => exact absurd ((mem_heads_iff _ _).2 ⟨_, isMember⟩) isHead

/-- A merge succeeds when some order without duplicates respects all sequences. The head that is
taken leaves that order, and the other elements of the order respect what is left. -/
theorem merge_complete {sequences : List (List Id)} {order : List Id} (nodup : order.Nodup)
    (respected : ∀ sequence ∈ sequences, sequence.Sublist order) :
    ∃ merged, merge sequences = .ok merged := by
  induction measured : size sequences using Nat.strongRecOn generalizing sequences order with
  | ind places inductionHypothesis =>
      by_cases finished : heads sequences = []
      · exact ⟨[], merge_of_heads_eq_nil finished⟩
      · obtain ⟨head, isHead, isFreeHead⟩ := exists_free_head nodup respected finished
        obtain ⟨taken, isNext⟩ : ∃ taken, next? sequences = some taken :=
          Option.isSome_iff_exists.1 (List.find?_isSome.2 ⟨head, isHead, isFreeHead⟩)
        have left : ∀ sequence ∈ advanceAll taken sequences,
            sequence.Sublist (order.erase taken) := by
          intro sequence isAdvanced
          obtain ⟨origin, isMember, rfl⟩ := mem_advanceAll.1 isAdvanced
          have notBehind := (isFree_iff sequences taken).1 (next?_isFree isNext) origin isMember
          rw [advance_eq_erase notBehind]
          exact (respected origin isMember).erase taken
        have fewer : size (advanceAll taken sequences) < places :=
          measured ▸ size_advance_lt (next?_mem_heads isNext)
        obtain ⟨later, rest⟩ := inductionHypothesis _ fewer (nodup.erase taken) left rfl
        exact ⟨taken :: later, by rw [merge_of_next?_eq_some isNext, rest]; rfl⟩

/-! ### Linearizations -/

theorem linearize_eq_ok_iff {id : Id} {bases : List (Id × List Id)} {result : List Id} :
    linearize id bases = .ok result ↔
      ∃ order, merge (bases.map Prod.snd ++ [bases.map Prod.fst]) = .ok order ∧
        result = id :: order := by
  simp only [linearize]
  cases merge (bases.map Prod.snd ++ [bases.map Prod.fst]) with
  | error stuck => simp [bind, Except.bind]
  | ok order => simp [bind, Except.bind, pure, Except.pure, eq_comm]

/-- A linearization starts with the type and goes on with an order that respects the bases and has
exactly the bases and the types of their linearizations. -/
theorem linearize_ok {id : Id} {bases : List (Id × List Id)} {result : List Id}
    (linearized : linearize id bases = .ok result) :
    ∃ order, result = id :: order ∧ Respects order bases ∧
      ∀ element, element ∈ order ↔ ∃ base ∈ bases, element = base.1 ∨ element ∈ base.2 := by
  obtain ⟨order, merged, rfl⟩ := linearize_eq_ok_iff.1 linearized
  refine ⟨order, rfl, ?_, fun element => ?_⟩
  · exact (respects_iff order bases).2 ⟨merge_nodup merged, fun _ => merge_sublist merged⟩
  · rw [mem_merge_iff merged]
    constructor
    · rintro ⟨sequence, isMember, contains⟩
      rcases List.mem_append.1 isMember with isLinearization | isDeclared
      · obtain ⟨base, isBase, rfl⟩ := List.mem_map.1 isLinearization
        exact ⟨base, isBase, .inr contains⟩
      · rw [List.mem_singleton.1 isDeclared] at contains
        obtain ⟨base, isBase, rfl⟩ := List.mem_map.1 contains
        exact ⟨base, isBase, .inl rfl⟩
    · rintro ⟨base, isBase, rfl | contains⟩
      · exact ⟨_, List.mem_append_right _ (List.mem_singleton_self _),
          List.mem_map_of_mem isBase⟩
      · exact ⟨base.2, List.mem_append_left _ (List.mem_map_of_mem isBase), contains⟩

/-- A linearization exists when some order respects the bases. -/
theorem linearize_complete (id : Id) {bases : List (Id × List Id)} {order : List Id}
    (respects : Respects order bases) : ∃ result, linearize id bases = .ok result := by
  obtain ⟨nodup, respected⟩ := (respects_iff order bases).1 respects
  obtain ⟨merged, isMerge⟩ := merge_complete nodup respected
  exact ⟨id :: merged, linearize_eq_ok_iff.2 ⟨merged, isMerge, rfl⟩⟩

/-- Linearization is sound and complete, and every turn of a merge leaves fewer places, so that a
merge ends on all sequences. -/
theorem linearize_isOk_iff_exists_respects (id : Id) (bases : List (Id × List Id)) :
    ((∃ result, linearize id bases = .ok result) ↔ ∃ order, Respects order bases) ∧
      (∀ result, linearize id bases = .ok result →
        ∃ order, result = id :: order ∧ Respects order bases ∧
          ∀ element, element ∈ order ↔ ∃ base ∈ bases, element = base.1 ∨ element ∈ base.2) ∧
      ∀ (sequences : List (List Id)) (taken : Id), next? sequences = some taken →
        size (advanceAll taken sequences) < size sequences := by
  refine ⟨⟨?_, ?_⟩, fun result => linearize_ok, fun sequences taken isNext => ?_⟩
  · rintro ⟨result, linearized⟩
    obtain ⟨order, _, respects, _⟩ := linearize_ok linearized
    exact ⟨order, respects⟩
  · rintro ⟨order, respects⟩
    exact linearize_complete id respects
  · exact size_advance_lt (next?_mem_heads isNext)

end SlotDispatch.Linearization
