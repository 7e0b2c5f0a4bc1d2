import SlotDispatch.Proofs.Type.Descendants
/-!
The checks of bases and the staging of linearizations. The main statements say what holds when new
bases are accepted, and that staging gives every type of a family a linearization over its bases in
which the staged linearizations have replaced the old ones.
-/

namespace SlotDispatch.Registry

variable {registry : Registry}

/-! ### Accepted bases -/

/-- Accepted bases are open for inheritance and differ from each other. -/
theorem validateBases_ok {seen bases : List TypeId}
    (accepted : registry.validateBases seen bases = .ok ()) :
    (∀ base ∈ bases, base ∉ seen ∧ ∃ definition,
      registry.definition? base = some definition ∧ definition.isBase = true) ∧ bases.Nodup := by
  induction bases generalizing seen with
  | nil => simp
  | cons base rest inductionHypothesis =>
      obtain ⟨definition, found, checked⟩ := bind_eq_ok_iff.1 accepted
      split at checked
      · cases checked
      · rename_i isNew
        split at checked
        · cases checked
        · rename_i isOpen
          obtain ⟨others, nodup⟩ := inductionHypothesis checked
          have isFirst : base ∉ rest := fun isLater =>
            (others base isLater).1 (List.mem_cons_self ..)
          refine ⟨?_, List.nodup_cons.2 ⟨isFirst, nodup⟩⟩
          intro other isOther
          rcases List.mem_cons.1 isOther with rfl | isLater
          · exact ⟨by simpa using isNew, definition, require_eq_ok_iff.1 found, by simpa using isOpen⟩
          · obtain ⟨notSeen, isRegistered⟩ := others other isLater
            exact ⟨fun isSeen => notSeen (List.mem_cons_of_mem base isSeen), isRegistered⟩

/-- Bases without a cycle do not have the type as an ancestor. -/
theorem rejectCycles_ok {id : TypeId} {bases : List TypeId}
    (accepted : registry.rejectCycles id bases = .ok ()) :
    ∀ base ∈ bases, id ∉ registry.linearizationOf base := by
  induction bases with
  | nil => simp
  | cons base rest inductionHypothesis =>
      obtain ⟨definition, found, checked⟩ := bind_eq_ok_iff.1 accepted
      split at checked
      · cases checked
      · rename_i notAncestor
        intro other isOther
        rcases List.mem_cons.1 isOther with rfl | isLater
        · rw [linearizationOf_of_definition? (require_eq_ok_iff.1 found)]
          simpa using notAncestor
        · exact inductionHypothesis checked other isLater

/-! ### Linearizations over staged ones -/

/-- A staged linearization takes the place of the registered one. -/
def stagedLinearization (registry : Registry) (staged : Staged) (id : TypeId) : List TypeId :=
  (staged.get? id).getD (registry.linearizationOf id)

theorem baseLinearization_ok {staged : Staged} {base : TypeId} {linearization : List TypeId}
    (isOk : registry.baseLinearization staged base = .ok linearization) :
    linearization = registry.stagedLinearization staged base := by
  simp only [baseLinearization] at isOk
  simp only [stagedLinearization]
  split at isOk
  · rename_i found
    rw [found]
    exact (Except.ok.inj isOk).symm
  · rename_i absent
    obtain ⟨definition, found, same⟩ := bind_eq_ok_iff.1 isOk
    rw [absent, linearizationOf_of_definition? (require_eq_ok_iff.1 found)]
    exact (Except.ok.inj same).symm

theorem mapM_baseLinearization_ok {staged : Staged} {bases : List TypeId}
    {linearizations : List (List TypeId)}
    (isOk : bases.mapM (registry.baseLinearization staged) = .ok linearizations) :
    linearizations = bases.map (registry.stagedLinearization staged) := by
  induction bases generalizing linearizations with
  | nil => exact (Except.ok.inj isOk).symm
  | cons base rest inductionHypothesis =>
      rw [List.mapM_cons] at isOk
      obtain ⟨first, isFirst, continued⟩ := bind_eq_ok_iff.1 isOk
      obtain ⟨others, areOthers, same⟩ := bind_eq_ok_iff.1 continued
      rw [List.map_cons, ← baseLinearization_ok isFirst, ← inductionHypothesis areOthers]
      exact (Except.ok.inj same).symm

/-- A successful linearization is the merge over the bases, and it keeps the limit. -/
theorem linearize_ok {id : TypeId} {bases : List TypeId} {staged : Staged}
    {linearization : List TypeId}
    (isOk : registry.linearize id bases staged = .ok linearization) :
    Linearization.linearize id
        (bases.map fun base => (base, registry.stagedLinearization staged base)) =
      .ok linearization ∧ linearization.length ≤ registry.linearizationLimit := by
  obtain ⟨linearizations, areLinearizations, merged⟩ := bind_eq_ok_iff.1 isOk
  rw [mapM_baseLinearization_ok areLinearizations, ← List.map_prod_left_eq_zip] at merged
  split at merged
  · cases merged
  · rename_i order isOrder
    split at merged
    · cases merged
    · rename_i isShort
      obtain rfl := Except.ok.inj merged
      exact ⟨isOrder, Nat.le_of_not_lt isShort⟩

/-! ### Staging a family -/

/-- These are the bases of a type when the root of a family has got new bases. -/
def movedBases (root : TypeId) (bases : List TypeId) (id : TypeId) (definition : TypeDefinition) :
    List TypeId :=
  if id = root then bases else definition.bases

/-- A family is being staged: every member is pending or staged, and each staged linearization is a
merge over bases that are outside of the family or staged themselves. -/
structure Staging (registry : Registry) (family : List TypeId) (root : TypeId)
    (bases pending : List TypeId) (staged : Staged) : Prop where
  unambiguous : staged.Unambiguous
  nodup : pending.Nodup
  members : ∀ id, id ∈ family ↔ id ∈ pending ∨ staged.contains id = true
  notStaged : ∀ id ∈ pending, staged.get? id = none
  linearized : ∀ id linearization, staged.get? id = some linearization → ∃ definition,
    registry.definition? id = some definition ∧
    Linearization.linearize id ((movedBases root bases id definition).map fun base =>
        (base, registry.stagedLinearization staged base)) = .ok linearization ∧
    linearization.length ≤ registry.linearizationLimit ∧
    ∀ base ∈ movedBases root bases id definition, base ∈ family → staged.contains base = true

section Staging

variable {family bases : List TypeId} {root : TypeId}

theorem stagedLinearization_insert {staged : Staged} {id other : TypeId} (isOther : other ≠ id)
    (linearization : List TypeId) :
    registry.stagedLinearization (staged.insert id linearization) other =
      registry.stagedLinearization staged other := by
  simp [stagedLinearization, Table.get?_insert, isOther]

/-- A pending type becomes staged as soon as its bases inside of the family are. A base of a staged type
is not the new one: it is staged already or outside of the family. -/
theorem Staging.insert {before after : List TypeId} {id : TypeId} {staged : Staged}
    (staging : Staging registry family root bases (before ++ id :: after) staged)
    {definition : TypeDefinition} (found : registry.definition? id = some definition)
    (isReady : ∀ base ∈ movedBases root bases id definition, base ∈ family →
      staged.contains base = true)
    {linearization : List TypeId}
    (isOk : registry.linearize id (movedBases root bases id definition) staged =
      .ok linearization) :
    Staging registry family root bases (before ++ after) (staged.insert id linearization) := by
  have isPending : id ∈ before ++ id :: after := by simp
  have isMember : id ∈ family := (staging.members id).2 (.inl isPending)
  have notStaged : staged.contains id = false := by
    simp [Table.contains, staging.notStaged id isPending]
  have unchanged : ∀ {others : List TypeId},
      (∀ base ∈ others, base ∈ family → staged.contains base = true) →
      (others.map fun base =>
          (base, registry.stagedLinearization (staged.insert id linearization) base)) =
        others.map fun base => (base, registry.stagedLinearization staged base) := by
    intro others areReady
    refine List.map_congr_left fun base isBase => ?_
    have isOther : base ≠ id := by
      rintro rfl
      rw [areReady base isBase isMember] at notStaged
      cases notStaged
    rw [stagedLinearization_insert isOther]
  have stillReady : ∀ {others : List TypeId},
      (∀ base ∈ others, base ∈ family → staged.contains base = true) →
      ∀ base ∈ others, base ∈ family →
        (staged.insert id linearization).contains base = true := by
    intro others areReady base isBase isInside
    rw [Table.contains_insert, areReady base isBase isInside, Bool.or_true]
  have nodup := staging.nodup
  rw [List.nodup_middle] at nodup
  obtain ⟨notPending, rest⟩ := List.nodup_cons.1 nodup
  refine ⟨Table.unambiguous_insert staging.unambiguous id linearization, rest, ?_, ?_, ?_⟩
  · intro other
    rw [staging.members other, Table.contains_insert]
    by_cases same : other = id
    · simp [same]
    · simp [same]
  · intro other isOther
    have different : other ≠ id := fun same => notPending (same ▸ isOther)
    rw [Table.get?_insert, if_neg different]
    refine staging.notStaged other ?_
    rcases List.mem_append.1 isOther with isBefore | isAfter
    · exact List.mem_append_left _ isBefore
    · exact List.mem_append_right _ (List.mem_cons_of_mem id isAfter)
  · intro other order isStaged
    rw [Table.get?_insert] at isStaged
    split at isStaged
    · rename_i same
      subst same
      obtain rfl := Option.some.inj isStaged
      obtain ⟨merged, isShort⟩ := linearize_ok isOk
      exact ⟨definition, found, unchanged isReady ▸ merged, isShort, stillReady isReady⟩
    · obtain ⟨otherDefinition, otherFound, merged, isShort, areReady⟩ :=
        staging.linearized other order isStaged
      exact ⟨otherDefinition, otherFound, unchanged areReady ▸ merged, isShort, stillReady areReady⟩

/-- A pass keeps what is known about staging. The types that it gives back are pending still. -/
theorem stagePass_ok (held : List TypeId) {todo waiting : List TypeId} {staged passed : Staged}
    (staging : Staging registry family root bases (held ++ todo) staged)
    (isRoot : root ∉ held ++ todo)
    (isOk : registry.stagePass family todo staged = .ok (passed, waiting)) :
    Staging registry family root bases (held ++ waiting) passed ∧ root ∉ held ++ waiting := by
  induction todo generalizing held staged waiting with
  | nil =>
      obtain ⟨rfl, rfl⟩ := Prod.mk.inj (Except.ok.inj isOk)
      exact ⟨staging, isRoot⟩
  | cons id later inductionHypothesis =>
      obtain ⟨definition, found, continued⟩ := bind_eq_ok_iff.1 isOk
      have isOther : id ≠ root := by
        rintro rfl
        exact isRoot (by simp)
      have sameBases : movedBases root bases id definition = definition.bases := if_neg isOther
      split at continued
      · rename_i isReady
        obtain ⟨linearization, linearized, passedOn⟩ := bind_eq_ok_iff.1 continued
        have areReady : ∀ base ∈ movedBases root bases id definition, base ∈ family →
            staged.contains base = true := by
          rw [sameBases]
          intro base isBase isInside
          simpa [isInside] using List.all_eq_true.1 isReady base isBase
        refine inductionHypothesis held
          (staging.insert (require_eq_ok_iff.1 found) areReady (sameBases ▸ linearized)) ?_ passedOn
        intro isPending
        rcases List.mem_append.1 isPending with isHeld | isLater
        · exact isRoot (List.mem_append_left _ isHeld)
        · exact isRoot (List.mem_append_right _ (List.mem_cons_of_mem id isLater))
      · obtain ⟨⟨passed, others⟩, passedOn, same⟩ := bind_eq_ok_iff.1 continued
        obtain ⟨rfl, rfl⟩ := Prod.mk.inj (Except.ok.inj same)
        have regrouped : ∀ rest : List TypeId, held ++ id :: rest = (held ++ [id]) ++ rest := by
          simp
        rw [regrouped] at staging isRoot ⊢
        exact inductionHypothesis (held ++ [id]) staging isRoot passedOn

/-- When all passes succeed, no type of the family is pending. -/
theorem stageAll_ok {pending : List TypeId} {staged result : Staged}
    (staging : Staging registry family root bases pending staged) (isRoot : root ∉ pending)
    (isOk : registry.stageAll family pending staged = .ok result) :
    Staging registry family root bases [] result := by
  induction pending, staged using stageAll.induct registry family with
  | case1 staged =>
      rw [stageAll, if_pos rfl] at isOk
      exact Except.ok.inj isOk ▸ staging
  | case2 pending staged isPending error failed =>
      rw [stageAll, if_neg isPending, failed] at isOk
      cases isOk
  | case3 pending staged isPending passed waiting isPass isShorter inductionHypothesis =>
      rw [stageAll, if_neg isPending, isPass] at isOk
      simp only [isShorter, if_true] at isOk
      obtain ⟨next, notWaiting⟩ := stagePass_ok [] staging isRoot isPass
      exact inductionHypothesis next notWaiting isOk
  | case4 pending staged isPending passed waiting isPass isStuck =>
      rw [stageAll, if_neg isPending, isPass] at isOk
      simp only [isStuck, if_false] at isOk
      cases isOk

/-- Before anything is staged, the whole family is pending. -/
theorem staging_start (wellFormed : registry.WellFormed) {definition : TypeDefinition}
    (found : registry.definition? root = some definition) (bases : List TypeId) :
    Staging registry (registry.descendants root ++ [root]) root bases
      (registry.descendants root ++ [root]) .empty where
  unambiguous := Table.unambiguous_empty
  nodup := by
    refine (List.nodup_append_comm.1 ?_)
    refine List.nodup_iff_count_le_one.2 fun id => ?_
    rw [List.singleton_append, count_family wellFormed found]
    split <;> omega
  members := by
    intro id
    simp [Table.contains]
  notStaged := by
    intro id _
    rfl
  linearized := by
    intro id linearization isStaged
    cases isStaged

theorem mem_family_iff (wellFormed : registry.WellFormed) {definition : TypeDefinition}
    (found : registry.definition? root = some definition) (id : TypeId) :
    id ∈ registry.descendants root ++ [root] ↔ root ∈ registry.linearizationOf id := by
  rw [List.mem_append, mem_descendants_iff wellFormed, List.mem_singleton]
  by_cases same : id = root
  · subst same
    simp [found, wellFormed.self_mem_linearization found]
  · simp [same]

/-- The staged types of a successful change of bases are the family of the type. -/
theorem stageBases_ok (wellFormed : registry.WellFormed) {definition : TypeDefinition}
    (found : registry.definition? root = some definition)
    (noCycle : ∀ base ∈ bases, root ∉ registry.linearizationOf base) {staged : Staged}
    (isOk : registry.stageBases root bases = .ok staged) :
    Staging registry (registry.descendants root ++ [root]) root bases [] staged := by
  obtain ⟨own, isOwn, continued⟩ := bind_eq_ok_iff.1 isOk
  have ownBases : movedBases root bases root definition = bases := if_pos rfl
  have outside : ∀ base ∈ movedBases root bases root definition,
      base ∈ registry.descendants root ++ [root] → (Table.empty : Staged).contains base = true := by
    rw [ownBases]
    intro base isBase isInside
    exact absurd ((mem_family_iff wellFormed found base).1 isInside) (noCycle base isBase)
  have merged : registry.linearize root (movedBases root bases root definition) .empty = .ok own := by
    rw [ownBases]
    exact isOwn
  have staging : Staging registry (registry.descendants root ++ [root]) root bases
      (registry.descendants root ++ []) (Table.empty.insert root own) :=
    (staging_start wellFormed found bases).insert found outside merged
  rw [List.append_nil] at staging
  have notOwn : root ∉ registry.descendants root := fun isMember =>
    ((mem_descendants_iff wellFormed root root).1 isMember).1 rfl
  exact stageAll_ok staging notOwn continued

end Staging

end SlotDispatch.Registry
