import SlotDispatch.Proofs.Type.WellFormed
/-!
The search for the descendants of a type. The main statements say that, in a well-formed registry,
the search finds every type that has the given type as an ancestor, and finds it once, so that a
family begins exactly one new generation.
-/

namespace SlotDispatch.Registry

theorem nodup_eraseDups (ids : List TypeId) : ids.eraseDups.Nodup := by
  induction length : ids.length using Nat.strongRecOn generalizing ids with
  | ind size inductionHypothesis =>
      cases ids with
      | nil => exact List.nodup_nil
      | cons first rest =>
          have shorter : (rest.filter fun other => !other == first).length < size :=
            length ▸ Nat.lt_succ_of_le (List.length_filter_le _ rest)
          rw [List.eraseDups_cons]
          refine List.nodup_cons.2 ⟨?_, inductionHypothesis _ shorter _ rfl⟩
          simp [List.mem_eraseDups]

section Search

variable {registry : Registry} (wellFormed : registry.WellFormed) {root : TypeId}

/-- A search knows every type it found as a descendant of the root, and it found all subclasses of
the types that have left the queue. -/
structure Searching (registry : Registry) (root : TypeId) (queue found : List TypeId) : Prop where
  nodup : found.Nodup
  sound : ∀ id ∈ found, id ≠ root ∧ root ∈ registry.linearizationOf id
  queued : ∀ id ∈ queue, id ∈ root :: found
  closed : ∀ id ∈ root :: found, id ∉ queue → ∀ subclass,
    registry.HasBase subclass id → subclass ∈ found

theorem searching_start (registry : Registry) (root : TypeId) :
    Searching registry root [root] [] where
  nodup := List.nodup_nil
  sound := by simp
  queued := by simp
  closed := by
    intro id isRoot isDone
    exact absurd isRoot isDone

theorem nodup_newSubclasses (registry : Registry) (found : List TypeId) (id : TypeId) :
    (registry.newSubclasses found id).Nodup := by
  rw [newSubclasses]
  cases registry.definition? id with
  | none => exact List.nodup_nil
  | some definition => exact nodup_eraseDups _

include wellFormed

theorem mem_newSubclasses {found : List TypeId} {id subclass : TypeId} :
    subclass ∈ registry.newSubclasses found id ↔ id < registry.definitions.length ∧
      subclass ∉ found ∧ registry.HasBase subclass id := by
  rw [newSubclasses, ← definition?_isSome_iff]
  cases isFound : registry.definition? id with
  | none => simp
  | some definition =>
      rw [List.mem_eraseDups, List.mem_filter, wellFormed.subclassesExact isFound]
      simp [and_comm]

theorem Searching.step {id : TypeId} {queue found : List TypeId}
    (searching : Searching registry root (id :: queue) found) :
    Searching registry root (queue ++ registry.newSubclasses found id)
      (found ++ registry.newSubclasses found id) where
  nodup := by
    refine List.nodup_append.2 ⟨searching.nodup, nodup_newSubclasses registry found id, ?_⟩
    intro old isOld new isNew same
    exact ((mem_newSubclasses wellFormed).1 isNew).2.1 (same ▸ isOld)
  sound := by
    intro other isFound
    rcases List.mem_append.1 isFound with isOld | isNew
    · exact searching.sound other isOld
    obtain ⟨isRegistered, _, definition, found, isBase⟩ := (mem_newSubclasses wellFormed).1 isNew
    obtain ⟨baseDefinition, baseFound⟩ := definition?_isSome_iff.2 isRegistered
    have isAncestor : root ∈ registry.linearizationOf id := by
      rcases List.mem_cons.1 (searching.queued id (List.mem_cons_self ..)) with rfl | isOld
      · rw [linearizationOf_of_definition? baseFound]
        exact wellFormed.self_mem_linearization baseFound
      · exact (searching.sound id isOld).2
    constructor
    · rintro rfl
      exact wellFormed.notMem_base found isBase isAncestor
    · rw [linearizationOf_of_definition? found]
      exact (wellFormed.mem_linearization_iff found root).2 (.inr ⟨id, isBase, isAncestor⟩)
  queued := by
    intro other isQueued
    rcases List.mem_append.1 isQueued with isOld | isNew
    · have isQueuedBefore := searching.queued other (List.mem_cons_of_mem id isOld)
      rcases List.mem_cons.1 isQueuedBefore with rfl | isFound
      · exact List.mem_cons_self ..
      · exact List.mem_cons_of_mem root (List.mem_append_left _ isFound)
    · exact List.mem_cons_of_mem root (List.mem_append_right _ isNew)
  closed := by
    intro other isFound isDone subclass hasBase
    rw [List.mem_append, not_or] at isDone
    by_cases isTaken : other = id
    · subst isTaken
      by_cases isOld : subclass ∈ found
      · exact List.mem_append_left _ isOld
      · have ⟨definition, subclassFound, isBase⟩ := hasBase
        obtain ⟨baseDefinition, baseFound, _⟩ :=
          wellFormed.basesOpen subclassFound other isBase
        exact List.mem_append_right _ ((mem_newSubclasses wellFormed).2
          ⟨lt_length_of_definition? baseFound, isOld, hasBase⟩)
    · have isOld : other ∈ root :: found := by
        rcases List.mem_cons.1 isFound with rfl | isFound
        · exact List.mem_cons_self ..
        · rcases List.mem_append.1 isFound with isOld | isNew
          · exact List.mem_cons_of_mem root isOld
          · exact absurd isNew isDone.2
      have isDoneBefore : other ∉ id :: queue := by
        rw [List.mem_cons, not_or]
        exact ⟨isTaken, isDone.1⟩
      exact List.mem_append_left _
        (searching.closed other isOld isDoneBefore subclass hasBase)

omit wellFormed in
/-- No search finds more types than the registry has. -/
theorem Searching.length_le {queue found : List TypeId}
    (searching : Searching registry root queue found) :
    found.length ≤ registry.definitions.length := by
  have inside : found ⊆ List.range registry.definitions.length := by
    intro id isFound
    obtain ⟨definition, isRegistered, _⟩ :=
      definition?_of_mem_linearizationOf (searching.sound id isFound).2
    exact List.mem_range.2 (lt_length_of_definition? isRegistered)
  have shorter := (List.subperm_of_subset searching.nodup inside).length_le
  rwa [List.length_range] at shorter

/-- A search with enough steps ends with an empty queue. -/
theorem descendantsWithin_done {steps : Nat} {queue found : List TypeId}
    (searching : Searching registry root queue found)
    (enough : queue.length + registry.definitions.length ≤ steps + found.length) :
    Searching registry root [] (registry.descendantsWithin steps queue found) := by
  induction steps generalizing queue found with
  | zero =>
      have isBounded := searching.length_le
      have isEmpty : queue = [] := List.eq_nil_of_length_eq_zero (by omega)
      exact isEmpty ▸ searching
  | succ steps inductionHypothesis =>
      cases queue with
      | nil => exact searching
      | cons id queue =>
          refine inductionHypothesis (searching.step wellFormed) ?_
          simp only [List.length_cons, List.length_append] at enough ⊢
          omega

theorem searching_descendants (root : TypeId) :
    Searching registry root [] (registry.descendants root) := by
  refine descendantsWithin_done wellFormed (searching_start registry root) ?_
  simp only [List.length_singleton, List.length_nil]
  omega

/-- The descendants of a type are the other types that have it as an ancestor. -/
theorem mem_descendants_iff (root id : TypeId) :
    id ∈ registry.descendants root ↔ id ≠ root ∧ root ∈ registry.linearizationOf id := by
  have searching := searching_descendants wellFormed root
  refine ⟨searching.sound id, ?_⟩
  rintro ⟨isOther, isAncestor⟩
  obtain ⟨definition, found, listed⟩ := definition?_of_mem_linearizationOf isAncestor
  clear isAncestor
  induction id, definition, found using wellFormed.induction with
  | step id definition found inductionHypothesis =>
      rcases wellFormed.ancestor_cases found listed with
        isSelf | ⟨base, isBase, baseDefinition, baseFound, isBaseAncestor⟩
      · exact absurd isSelf.symm isOther
      · refine searching.closed base ?_ List.not_mem_nil id ⟨definition, found, isBase⟩
        by_cases isRoot : base = root
        · exact List.mem_cons.2 (.inl isRoot)
        · exact List.mem_cons_of_mem root
            (inductionHypothesis base isBase baseDefinition baseFound isRoot isBaseAncestor)

/-- A family is a type with its descendants, and it lists every member once. -/
theorem count_family {root : TypeId} {definition : TypeDefinition}
    (found : registry.definition? root = some definition) (id : TypeId) :
    (root :: registry.descendants root).count id =
      if root ∈ registry.linearizationOf id then 1 else 0 := by
  have nodup : (root :: registry.descendants root).Nodup := by
    refine List.nodup_cons.2 ⟨fun isOwn => ?_, (searching_descendants wellFormed root).nodup⟩
    exact ((mem_descendants_iff wellFormed root root).1 isOwn).1 rfl
  have isMember : id ∈ root :: registry.descendants root ↔ root ∈ registry.linearizationOf id := by
    rw [List.mem_cons, mem_descendants_iff wellFormed]
    by_cases same : id = root
    · subst same
      simp [found, wellFormed.self_mem_linearization found]
    · simp [same]
  simp only [← isMember]
  exact nodup.count

/-- A new generation of a family is one new generation of every type that has the root as an
ancestor, and of no other type. -/
theorem definition?_raiseFamily {root : TypeId} {definition : TypeDefinition}
    (found : registry.definition? root = some definition) (id : TypeId) :
    (registry.raiseFamily root).definition? id =
      (registry.definition? id).map fun definition =>
        { definition with
          generation := definition.generation + if root ∈ definition.linearization then 1 else 0 } := by
  rw [raiseFamily, definition?_raiseGenerations, count_family wellFormed found]
  cases isFound : registry.definition? id with
  | none => rfl
  | some other => simp [isFound]

end Search

end SlotDispatch.Registry
