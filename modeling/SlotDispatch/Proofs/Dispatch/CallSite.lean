import Mathlib.Data.List.Dedup
import Mathlib.Data.List.Induction
import SlotDispatch.Dispatch.CallSite
/-!
Call sites and their histories. The main statement says what a call site remembers after any history of
recordings: the last plan of every pair of types, until there are more pairs than its capacity.
-/

namespace SlotDispatch

/-- This is the pair of types of a key, whatever their generations are. -/
def CacheKey.pair (key : CacheKey) : TypeId × TypeId :=
  (key.left, key.right)

theorem CacheKey.samePair_eq (first second : CacheKey) :
    first.samePair second = decide (first.pair = second.pair) := by
  simp [samePair, pair]

namespace CallSite

/-- A history lists the plans that were recorded, the first recording first. -/
abbrev History := List CachedPlan

namespace History

/-- These are the pairs of types that a history names, each of them once. -/
def pairs (history : History) : List (TypeId × TypeId) :=
  (history.map fun cached => cached.key.pair).dedup

/-- This is the last recording of a pair of types. -/
def last? (history : History) (pair : TypeId × TypeId) : Option CachedPlan :=
  history.reverse.find? fun cached => cached.key.pair = pair

theorem mem_pairs {history : History} {pair : TypeId × TypeId} :
    pair ∈ history.pairs ↔ ∃ cached ∈ history, cached.key.pair = pair := by
  rw [pairs, List.mem_dedup, List.mem_map]

theorem last?_concat (history : History) (cached : CachedPlan) (pair : TypeId × TypeId) :
    last? (history ++ [cached]) pair =
      if cached.key.pair = pair then some cached else history.last? pair := by
  simp only [last?, List.reverse_concat, List.find?_cons]
  by_cases isPair : cached.key.pair = pair <;> simp [isPair]

theorem last?_isSome_iff {history : History} {pair : TypeId × TypeId} :
    (history.last? pair).isSome = true ↔ pair ∈ history.pairs := by
  simp [last?, mem_pairs]

/-- A longer history names at least as many pairs. -/
theorem length_pairs_le (history later : History) :
    history.pairs.length ≤ (pairs (history ++ later)).length := by
  refine (List.nodup_dedup _).length_le_of_subset fun pair isPair => ?_
  obtain ⟨cached, isMember, isPair⟩ := mem_pairs.1 isPair
  exact mem_pairs.2 ⟨cached, List.mem_append_left later isMember, isPair⟩

/-- A history that goes on with pairs that it has already named names no more of them. -/
theorem length_pairs_append {history later : History}
    (areNamed : ∀ cached ∈ later, cached.key.pair ∈ history.pairs) :
    (pairs (history ++ later)).length = history.pairs.length := by
  refine Nat.le_antisymm ?_ (length_pairs_le history later)
  refine (List.nodup_dedup _).length_le_of_subset fun pair isPair => ?_
  obtain ⟨cached, isMember, rfl⟩ := mem_pairs.1 isPair
  rcases List.mem_append.1 isMember with isOld | isLater
  · exact mem_pairs.2 ⟨cached, isOld, rfl⟩
  · exact areNamed cached isLater

/-! ### The last plan of every pair -/

/-- A recording takes the place of the earlier recordings of its pair. -/
def replace (plans : List CachedPlan) (cached : CachedPlan) : List CachedPlan :=
  (plans.filter fun other => !other.key.samePair cached.key) ++ [cached]

/-- These are the recordings of a history that no later one has taken the place of. -/
def latest (history : History) : List CachedPlan :=
  history.foldl replace []

theorem latest_concat (history : History) (cached : CachedPlan) :
    latest (history ++ [cached]) = replace history.latest cached :=
  List.foldl_concat ..

theorem find?_replace (plans : List CachedPlan) (cached : CachedPlan) (pair : TypeId × TypeId) :
    (replace plans cached).find? (fun other => other.key.pair = pair) =
      if cached.key.pair = pair then some cached
      else plans.find? fun other => other.key.pair = pair := by
  rw [replace, List.find?_append]
  by_cases isPair : cached.key.pair = pair
  · have noOther : (plans.filter fun other => !other.key.samePair cached.key).find?
        (fun other => other.key.pair = pair) = none := by
      simp [CacheKey.samePair_eq, isPair]
    rw [noOther]
    simp [isPair]
  · have sameFind : (plans.filter fun other => !other.key.samePair cached.key).find?
        (fun other => other.key.pair = pair) = plans.find? fun other => other.key.pair = pair := by
      rw [List.find?_filter]
      congr 1
      funext other
      by_cases isOther : other.key.pair = pair
      · simp [CacheKey.samePair_eq, isOther, Ne.symm isPair]
      · simp [isOther]
    rw [sameFind]
    simp [isPair]

/-- The latest recording of a pair is its last one. -/
theorem find?_latest (history : History) (pair : TypeId × TypeId) :
    history.latest.find? (fun cached => cached.key.pair = pair) = history.last? pair := by
  induction history using List.reverseRecOn with
  | nil => rfl
  | append_singleton history cached inductionHypothesis =>
      rw [latest_concat, find?_replace, last?_concat, inductionHypothesis]

theorem nodup_latest (history : History) :
    (history.latest.map fun cached => cached.key.pair).Nodup := by
  induction history using List.reverseRecOn with
  | nil => exact List.nodup_nil
  | append_singleton history cached inductionHypothesis =>
      rw [latest_concat, replace, List.map_append, List.map_singleton]
      refine List.Nodup.append (inductionHypothesis.sublist (List.filter_sublist.map _))
        (List.nodup_singleton _) ?_
      simp [CacheKey.samePair_eq]

/-- The latest recordings have every pair of the history once. -/
theorem perm_latest (history : History) :
    (history.latest.map fun cached => cached.key.pair).Perm history.pairs := by
  refine (List.perm_ext_iff_of_nodup history.nodup_latest (List.nodup_dedup _)).2 fun pair => ?_
  change _ ↔ pair ∈ history.pairs
  have isNamed : (history.last? pair).isSome = true ↔ pair ∈ history.pairs := last?_isSome_iff
  rw [← isNamed, ← find?_latest, List.find?_isSome]
  simp

theorem length_latest (history : History) : history.latest.length = history.pairs.length := by
  rw [← history.perm_latest.length_eq, List.length_map]

/-- A key is found among the latest recordings when the last recording of its pair was made under it. No
two of these recordings are of one pair, so only the first of the pair can have the key. -/
theorem find?_key_latest (history : History) (key : CacheKey) :
    history.latest.find? (fun cached => cached.key = key) =
      (history.last? key.pair).filter fun cached => cached.key = key := by
  rw [← find?_latest]
  generalize isLatest : history.latest = plans
  have nodup := isLatest ▸ history.nodup_latest
  clear isLatest
  induction plans with
  | nil => rfl
  | cons cached rest inductionHypothesis =>
      obtain ⟨isNew, nodup⟩ := List.nodup_cons.1 nodup
      rw [List.find?_cons, List.find?_cons]
      by_cases isPair : cached.key.pair = key.pair
      · by_cases isKey : cached.key = key
        · simp [isKey, Option.filter_some]
        · have noOther : rest.find? (fun other => other.key = key) = none := by
            rw [List.find?_eq_none]
            intro other isOther hasKey
            refine isNew (List.mem_map.2 ⟨other, isOther, ?_⟩)
            rw [of_decide_eq_true hasKey]
            exact isPair.symm
          simp [isKey, isPair, noOther, Option.filter_some]
      · have isOther : cached.key ≠ key := fun isKey => isPair (by rw [isKey])
        simp [isPair, isOther, inductionHypothesis nodup]

end History

open History (latest)

/-- A call site records the plans of a history one after the other. -/
def recordAll (site : CallSite) (capacity : Nat) (history : History) : CallSite :=
  history.foldl (fun site cached => site.record cached.key cached.plan capacity) site

theorem recordAll_concat (site : CallSite) (capacity : Nat) (history : History)
    (cached : CachedPlan) :
    site.recordAll capacity (history ++ [cached]) =
      (site.recordAll capacity history).record cached.key cached.plan capacity :=
  List.foldl_concat ..

theorem recordAll_append (site : CallSite) (capacity : Nat) (history later : History) :
    site.recordAll capacity (history ++ later) =
      (site.recordAll capacity history).recordAll capacity later :=
  List.foldl_append ..

/-- A megamorphic site records nothing. -/
theorem recordAll_of_megamorphic {site : CallSite} (isState : site.state = .megamorphic)
    (capacity : Nat) (history : History) : site.recordAll capacity history = site := by
  induction history with
  | nil => rfl
  | cons cached rest inductionHypothesis =>
      have isSame : site.record cached.key cached.plan capacity = site := by
        rw [record, isState]
      rw [recordAll, List.foldl_cons, isSame]
      exact inductionHypothesis

/-- One recording keeps the latest plans, and it gives up when there is no room for its pair. -/
theorem state_record {site : CallSite} {history : History} (isState : site.state =
    .remembering history.latest) (cached : CachedPlan) (capacity : Nat) :
    (site.record cached.key cached.plan capacity).state =
      if (History.pairs (history ++ [cached])).length ≤ capacity then
        .remembering (latest (history ++ [cached]))
      else .megamorphic := by
  rw [← History.length_latest, History.latest_concat, History.replace, List.length_append,
    List.length_singleton]
  simp only [record, isState]
  split <;> rename_i isFull
  · rw [if_neg (by omega)]
  · rw [if_pos (by omega)]

/-- A call site remembers the latest plans of its history, unless the history names more pairs than the
capacity. -/
theorem state_recordAll (kind : SlotKind) (capacity : Nat) (history : History) :
    ((new kind).recordAll capacity history).state =
      if history.pairs.length ≤ capacity then .remembering history.latest else .megamorphic := by
  induction history using List.reverseRecOn with
  | nil => rfl
  | append_singleton history cached inductionHypothesis =>
      rw [recordAll_concat]
      by_cases isRoom : (History.pairs history).length ≤ capacity
      · rw [if_pos isRoom] at inductionHypothesis
        exact state_record inductionHypothesis cached capacity
      · have isFull := Nat.lt_of_lt_of_le (Nat.lt_of_not_le isRoom)
          (History.length_pairs_le history [cached])
        rw [if_neg isRoom] at inductionHypothesis
        rw [if_neg (Nat.not_le_of_lt isFull), record, inductionHypothesis]
        exact inductionHypothesis

theorem isMegamorphic_recordAll (kind : SlotKind) (capacity : Nat) (history : History) :
    ((new kind).recordAll capacity history).isMegamorphic =
      decide (capacity < history.pairs.length) := by
  rw [isMegamorphic, state_recordAll]
  by_cases isRoom : history.pairs.length ≤ capacity
  · simp [isRoom]
  · simp [isRoom, Nat.lt_of_not_le isRoom]

/-- A call site remembers a history when it has one entry for each pair of the history, and when a key
gives the last plan of its pair, if that plan was recorded under exactly this key. -/
structure Remembers (site : CallSite) (history : History) : Prop where
  isPolymorphic : site.isMegamorphic = false
  size : site.size = history.pairs.length
  entries : ∃ plans, site.state = .remembering plans ∧
    (plans.map fun cached => cached.key.pair).Perm history.pairs
  lookup : ∀ key, site.lookup key =
    ((history.last? key.pair).filter fun cached => cached.key = key).map CachedPlan.plan

/-- A call site has given up when it is megamorphic, has no entries, and finds nothing. -/
structure HasGivenUp (site : CallSite) : Prop where
  isMegamorphic : site.isMegamorphic = true
  size : site.size = 0
  lookup : ∀ key, site.lookup key = none

theorem remembers_of_state {site : CallSite} {history : History}
    (isState : site.state = .remembering history.latest) : site.Remembers history where
  isPolymorphic := by rw [isMegamorphic, isState]
  size := by
    rw [size, isState]
    exact history.length_latest
  entries := ⟨history.latest, isState, history.perm_latest⟩
  lookup key := by
    rw [lookup, isState, ← History.find?_key_latest]

theorem hasGivenUp_of_state {site : CallSite} (isState : site.state = .megamorphic) :
    site.HasGivenUp where
  isMegamorphic := by rw [CallSite.isMegamorphic, isState]
  size := by rw [CallSite.size, isState]
  lookup key := by rw [CallSite.lookup, isState]

/-- A call site follows its history when it remembers the history as long as that names no more pairs
than the capacity, when it has given up for ever after that, and when naming known pairs again in
whatever generations makes no difference to this. -/
structure Follows (site : CallSite) (capacity : Nat) (history : History) : Prop where
  remembers : history.pairs.length ≤ capacity → site.Remembers history
  givesUp : capacity < history.pairs.length →
    ∀ (otherCapacity : Nat) (later : History), (site.recordAll otherCapacity later).HasGivenUp
  renews : ∀ later : History, (∀ cached ∈ later, cached.key.pair ∈ history.pairs) →
    (site.recordAll capacity later).isMegamorphic = site.isMegamorphic

/-- A new call site follows every history of recordings with every capacity. -/
theorem follows_recordAll (kind : SlotKind) (capacity : Nat) (history : History) :
    ((new kind).recordAll capacity history).Follows capacity history where
  remembers isRoom := by
    refine remembers_of_state ?_
    rw [state_recordAll, if_pos isRoom]
  givesUp isFull otherCapacity later := by
    have isState : ((new kind).recordAll capacity history).state = .megamorphic := by
      rw [state_recordAll, if_neg (Nat.not_le_of_lt isFull)]
    rw [recordAll_of_megamorphic isState]
    exact hasGivenUp_of_state isState
  renews later areNamed := by
    rw [← recordAll_append, isMegamorphic_recordAll, isMegamorphic_recordAll,
      History.length_pairs_append areNamed]

end CallSite

end SlotDispatch
