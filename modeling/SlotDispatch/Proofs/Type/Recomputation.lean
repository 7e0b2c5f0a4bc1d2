import Mathlib.Data.Finset.Max
import Mathlib.Logic.Relation
import SlotDispatch.Proofs.Type.Builtins
/-!
The recomputation of linearizations when a type gets new bases. The main statements say that new bases
are accepted exactly when a recomputation from the bottom of the changed graph gives every type of the
family a linearization within the limit, that these linearizations do not depend on the order in which
the family is visited, and that every pass of the staging loop makes progress.
-/

namespace SlotDispatch

/-- A graph of bases gives a type an order when it gives an order to each of its bases, and the order
of the type is the linearization over these. -/
inductive Recomputes (basesOf : TypeId → Option (List TypeId)) : TypeId → List TypeId → Prop
  | intro {id : TypeId} {bases order : List TypeId} (orderOf : TypeId → List TypeId)
      (hasBases : basesOf id = some bases)
      (below : ∀ base ∈ bases, Recomputes basesOf base (orderOf base))
      (isOrder : Linearization.linearize id (bases.map fun base => (base, orderOf base)) =
        .ok order) : Recomputes basesOf id order

/-- A graph gives a type at most one order. -/
theorem Recomputes.unique {basesOf : TypeId → Option (List TypeId)} {id : TypeId}
    {first second : List TypeId} (left : Recomputes basesOf id first)
    (right : Recomputes basesOf id second) : first = second := by
  induction left generalizing second with
  | intro orderOf hasBases _ isOrder inductionHypothesis =>
      cases right with
      | intro otherOf alsoBases below alsoOrder =>
          obtain rfl := Option.some.inj (hasBases.symm.trans alsoBases)
          have sameOrders : (_ : List TypeId).map (fun base => (base, orderOf base)) =
              (_ : List TypeId).map fun base => (base, otherOf base) :=
            List.map_congr_left fun base isBase => by
              rw [inductionHypothesis base isBase (below base isBase)]
          rw [sameOrders] at isOrder
          exact Except.ok.inj (isOrder.symm.trans alsoOrder)

namespace Registry

variable {registry next : Registry}

/-- This is the graph of the bases of all types. -/
def graph (registry : Registry) (id : TypeId) : Option (List TypeId) :=
  (registry.definition? id).map TypeDefinition.bases

/-- This is the graph of bases when a root has got new bases. -/
def rebasedGraph (registry : Registry) (root : TypeId) (bases : List TypeId) (id : TypeId) :
    Option (List TypeId) :=
  (registry.definition? id).map (movedBases root bases id)

/-- The registered linearizations are those that the graph gives. -/
theorem WellFormed.recomputes (wellFormed : registry.WellFormed) {id : TypeId}
    {definition : TypeDefinition} (found : registry.definition? id = some definition) :
    Recomputes registry.graph id definition.linearization := by
  induction id, definition, found using wellFormed.induction with
  | step id definition found inductionHypothesis =>
      refine .intro registry.linearizationOf (by rw [graph, found, Option.map_some]) ?_
        (wellFormed.linearized found)
      intro base isBase
      obtain ⟨baseDefinition, baseFound, _⟩ := wellFormed.basesOpen found base isBase
      rw [linearizationOf_of_definition? baseFound]
      exact inductionHypothesis base isBase baseDefinition baseFound

/-- New bases of a root leave the linearizations of all types that do not inherit from it alone. -/
theorem WellFormed.recomputes_of_unrelated (wellFormed : registry.WellFormed) (root : TypeId)
    (bases : List TypeId) {id : TypeId} {definition : TypeDefinition}
    (found : registry.definition? id = some definition)
    (isUnrelated : root ∉ definition.linearization) :
    Recomputes (registry.rebasedGraph root bases) id definition.linearization := by
  induction id, definition, found using wellFormed.induction with
  | step id definition found inductionHypothesis =>
      have isOther : id ≠ root := by
        rintro rfl
        exact isUnrelated (wellFormed.self_mem_linearization found)
      have sameBases : registry.rebasedGraph root bases id = some definition.bases := by
        rw [rebasedGraph, found, Option.map_some, movedBases, if_neg isOther]
      refine .intro registry.linearizationOf sameBases ?_ (wellFormed.linearized found)
      intro base isBase
      obtain ⟨baseDefinition, baseFound, _⟩ := wellFormed.basesOpen found base isBase
      rw [linearizationOf_of_definition? baseFound]
      refine inductionHypothesis base isBase baseDefinition baseFound fun isAncestor => ?_
      refine isUnrelated ((wellFormed.mem_linearization_iff found root).2 (.inr ⟨base, isBase, ?_⟩))
      rwa [linearizationOf_of_definition? baseFound]

/-! ### Complete checks -/

theorem validateBases_complete {seen bases : List TypeId}
    (areOpen : ∀ base ∈ bases, registry.IsOpen base) (areNew : ∀ base ∈ bases, base ∉ seen)
    (nodup : bases.Nodup) : registry.validateBases seen bases = .ok () := by
  induction bases generalizing seen with
  | nil => rfl
  | cons base rest inductionHypothesis =>
      obtain ⟨definition, found, isBase⟩ := areOpen base (List.mem_cons_self ..)
      obtain ⟨isFirst, restNodup⟩ := List.nodup_cons.1 nodup
      have isNew : base ∉ seen := areNew base (List.mem_cons_self ..)
      have stayNew : ∀ other ∈ rest, other ∉ base :: seen := by
        intro other isOther
        rw [List.mem_cons, not_or]
        exact ⟨fun same => isFirst (same ▸ isOther),
          areNew other (List.mem_cons_of_mem base isOther)⟩
      have later : registry.validateBases (base :: seen) rest = .ok () :=
        inductionHypothesis (fun other isOther => areOpen other (List.mem_cons_of_mem base isOther))
          stayNew restNodup
      exact bind_eq_ok_iff.2 ⟨definition, require_eq_ok_iff.2 found, by simp [isNew, isBase, later]⟩

theorem rejectCycles_complete {id : TypeId} {bases : List TypeId}
    (areOpen : ∀ base ∈ bases, registry.IsOpen base)
    (noCycle : ∀ base ∈ bases, id ∉ registry.linearizationOf base) :
    registry.rejectCycles id bases = .ok () := by
  induction bases with
  | nil => rfl
  | cons base rest inductionHypothesis =>
      obtain ⟨definition, found, _⟩ := areOpen base (List.mem_cons_self ..)
      have notAncestor := noCycle base (List.mem_cons_self ..)
      rw [linearizationOf_of_definition? found] at notAncestor
      have later := inductionHypothesis
        (fun other isOther => areOpen other (List.mem_cons_of_mem base isOther))
        fun other isOther => noCycle other (List.mem_cons_of_mem base isOther)
      exact bind_eq_ok_iff.2 ⟨definition, require_eq_ok_iff.2 found, by simp [notAncestor, later]⟩

theorem mapM_baseLinearization_complete (staged : Staged) {bases : List TypeId}
    (areOpen : ∀ base ∈ bases, registry.IsOpen base) :
    bases.mapM (registry.baseLinearization staged) =
      .ok (bases.map (registry.stagedLinearization staged)) := by
  induction bases with
  | nil => rfl
  | cons base rest inductionHypothesis =>
      obtain ⟨definition, found, _⟩ := areOpen base (List.mem_cons_self ..)
      have isFirst : registry.baseLinearization staged base =
          .ok (registry.stagedLinearization staged base) := by
        rw [baseLinearization, stagedLinearization]
        cases staged.get? base with
        | some linearization => rfl
        | none =>
            rw [linearizationOf_of_definition? found]
            exact bind_eq_ok_iff.2 ⟨definition, require_eq_ok_iff.2 found, rfl⟩
      have areOthers := inductionHypothesis fun other isOther =>
        areOpen other (List.mem_cons_of_mem base isOther)
      rw [List.mapM_cons]
      exact bind_eq_ok_iff.2 ⟨_, isFirst, bind_eq_ok_iff.2 ⟨_, areOthers, rfl⟩⟩

/-- A linearization over registered bases fails only with a conflict, which may be one of length. -/
theorem linearize_cases {id : TypeId} {bases : List TypeId} {staged : Staged}
    (areOpen : ∀ base ∈ bases, registry.IsOpen base) :
    (∃ order, registry.linearize id bases staged = .ok order ∧
      Linearization.linearize id
          (bases.map fun base => (base, registry.stagedLinearization staged base)) = .ok order ∧
      order.length ≤ registry.linearizationLimit) ∨
    ∃ error, registry.linearize id bases staged = .error error ∧
      error.kind = .linearizationConflict ∧ ∀ order,
        Linearization.linearize id
            (bases.map fun base => (base, registry.stagedLinearization staged base)) = .ok order →
          registry.linearizationLimit < order.length := by
  have areLinearizations := mapM_baseLinearization_complete staged areOpen
  cases isMerge : Linearization.linearize id
      (bases.map fun base => (base, registry.stagedLinearization staged base)) with
  | error heads =>
      refine .inr ⟨.linearizationConflict (heads.map registry.nameOf), ?_, rfl, nofun⟩
      simp only [linearize, areLinearizations, ← List.map_prod_left_eq_zip, isMerge, bind, Except.bind]
  | ok order =>
      simp only [linearize, areLinearizations, ← List.map_prod_left_eq_zip, isMerge, bind, Except.bind]
      by_cases isLong : registry.linearizationLimit < order.length
      · exact .inr ⟨_, if_pos isLong, rfl, fun other same => Except.ok.inj same ▸ isLong⟩
      · exact .inl ⟨order, if_neg isLong, rfl, Nat.le_of_not_lt isLong⟩

/-! ### Staging is recomputation -/

/-- New bases of a root give a type an order that keeps the limit. -/
def HasRebasedOrder (registry : Registry) (root : TypeId) (bases : List TypeId) (id : TypeId) : Prop :=
  ∃ order, Recomputes (registry.rebasedGraph root bases) id order ∧
    order.length ≤ registry.linearizationLimit

/-- A type is ready when its bases inside of the family are staged. -/
def IsReady (registry : Registry) (family : List TypeId) (staged : Staged) (id : TypeId) : Prop :=
  ∃ definition, registry.definition? id = some definition ∧
    ∀ base ∈ definition.bases, base ∈ family → staged.contains base = true

section Staging

variable {family bases pending : List TypeId} {root : TypeId} {staged : Staged}

theorem Staging.perm {order : List TypeId}
    (staging : Staging registry family root bases pending staged) (isPerm : order.Perm pending) :
    Staging registry family root bases order staged where
  unambiguous := staging.unambiguous
  nodup := isPerm.nodup_iff.2 staging.nodup
  members id := by rw [staging.members id, isPerm.mem_iff]
  notStaged id isPending := staging.notStaged id (isPerm.mem_iff.1 isPending)
  linearized := staging.linearized

theorem Staging.mem_family (staging : Staging registry family root bases pending staged)
    {id : TypeId} (isStaged : staged.contains id = true) : id ∈ family :=
  (staging.members id).2 (.inr isStaged)

variable (wellFormed : registry.WellFormed)
  (isFamily : ∀ id, id ∈ family ↔ root ∈ registry.linearizationOf id)
  (areOpen : ∀ base ∈ bases, registry.IsOpen base)
  (noCycle : ∀ base ∈ bases, root ∉ registry.linearizationOf base)

include wellFormed in
theorem isOpen_movedBases {id : TypeId} {definition : TypeDefinition}
    (areOpen : ∀ base ∈ bases, registry.IsOpen base)
    (found : registry.definition? id = some definition) :
    ∀ base ∈ movedBases root bases id definition, registry.IsOpen base := by
  rw [movedBases]
  split
  · exact areOpen
  · exact wellFormed.basesOpen found

include wellFormed isFamily

/-- The linearization that staging reads for a base is the recomputed one as soon as it is staged or
nothing about it changes. -/
theorem Staging.recomputes_base (staging : Staging registry family root bases pending staged)
    {base : TypeId} (isOpen : registry.IsOpen base)
    (isReady : base ∈ family → staged.contains base = true)
    (below : base ∈ family → ∀ order, staged.get? base = some order →
      Recomputes (registry.rebasedGraph root bases) base order) :
    Recomputes (registry.rebasedGraph root bases) base (registry.stagedLinearization staged base) := by
  by_cases isInside : base ∈ family
  · obtain ⟨order, isStaged⟩ := Option.isSome_iff_exists.1 (isReady isInside)
    rw [stagedLinearization, isStaged, Option.getD_some]
    exact below isInside order isStaged
  · obtain ⟨definition, found, _⟩ := isOpen
    have notStaged : staged.get? base = none := by
      refine Option.eq_none_iff_forall_ne_some.2 fun order isStaged => isInside ?_
      exact staging.mem_family (by rw [Table.contains, isStaged, Option.isSome_some])
    have isUnrelated := mt (isFamily base).2 isInside
    rw [stagedLinearization, notStaged, Option.getD_none]
    rw [linearizationOf_of_definition? found] at isUnrelated ⊢
    exact wellFormed.recomputes_of_unrelated root bases found isUnrelated

include areOpen noCycle

/-- Staged linearizations are the recomputed ones. The bases of the root are outside of the family, so a
base inside of it is a base of before. -/
theorem Staging.recomputes (staging : Staging registry family root bases pending staged) {id : TypeId}
    {order : List TypeId} (isStaged : staged.get? id = some order) :
    Recomputes (registry.rebasedGraph root bases) id order := by
  have ⟨definition, found, _⟩ := staging.linearized id order isStaged
  clear * - wellFormed isFamily areOpen noCycle staging isStaged found
  induction id, definition, found using wellFormed.induction generalizing order with
  | step id definition found inductionHypothesis =>
      obtain ⟨same, sameFound, isOrder, _, areReady⟩ := staging.linearized id order isStaged
      obtain rfl := Option.some.inj (found.symm.trans sameFound)
      refine .intro (registry.stagedLinearization staged)
        (by rw [rebasedGraph, found, Option.map_some]) (fun base isBase => ?_) isOrder
      have isOpen := isOpen_movedBases wellFormed areOpen found base isBase
      refine staging.recomputes_base wellFormed isFamily isOpen (areReady base isBase) ?_
      intro isInside baseOrder isBaseStaged
      have isOther : id ≠ root := by
        rintro rfl
        rw [movedBases, if_pos rfl] at isBase
        exact noCycle base isBase ((isFamily base).1 isInside)
      rw [movedBases, if_neg isOther] at isBase
      obtain ⟨baseDefinition, baseFound, _⟩ := isOpen
      exact inductionHypothesis base isBase baseDefinition baseFound isBaseStaged

/-- A ready type gets its recomputed order, and it gets none only if the new bases give it none. -/
theorem Staging.linearize_cases (staging : Staging registry family root bases pending staged)
    {id : TypeId} {definition : TypeDefinition} (found : registry.definition? id = some definition)
    (areReady : ∀ base ∈ movedBases root bases id definition, base ∈ family →
      staged.contains base = true) :
    (∃ order, registry.linearize id (movedBases root bases id definition) staged = .ok order) ∨
    ∃ error, registry.linearize id (movedBases root bases id definition) staged = .error error ∧
      error.kind = .linearizationConflict ∧ ¬ registry.HasRebasedOrder root bases id := by
  have areBasesOpen : ∀ base ∈ movedBases root bases id definition, registry.IsOpen base :=
    isOpen_movedBases wellFormed areOpen found
  have cases := @Registry.linearize_cases registry id _ staged areBasesOpen
  rcases cases with ⟨order, isOk, _⟩ | ⟨error, isError, isConflict, isLong⟩
  · exact .inl ⟨order, isOk⟩
  · refine .inr ⟨error, isError, isConflict, ?_⟩
    rintro ⟨order, recomputes, isShort⟩
    obtain ⟨orderOf, hasBases, below, isOrder⟩ := recomputes
    rw [rebasedGraph, found, Option.map_some] at hasBases
    obtain rfl := Option.some.inj hasBases
    have sameOrders : (movedBases root bases id definition).map (fun base => (base, orderOf base)) =
        (movedBases root bases id definition).map fun base =>
          (base, registry.stagedLinearization staged base) :=
      List.map_congr_left fun base isBase => by
        have isRecomputed := staging.recomputes_base wellFormed isFamily (areBasesOpen base isBase)
          (areReady base isBase) fun _ _ =>
            staging.recomputes wellFormed isFamily areOpen noCycle
        rw [(below base isBase).unique isRecomputed]
    exact absurd (isLong order (sameOrders ▸ isOrder)) (Nat.not_lt.2 isShort)

/-! ### Passes -/

omit wellFormed isFamily areOpen noCycle in
/-- A pass gives back no more types than it gets, and fewer when one of them is ready. -/
theorem stagePass_waits {todo waiting : List TypeId} {passed : Staged}
    (isOk : registry.stagePass family todo staged = .ok (passed, waiting)) :
    waiting ⊆ todo ∧ waiting.length ≤ todo.length ∧
      ((∃ id ∈ todo, registry.IsReady family staged id) → waiting.length < todo.length) := by
  induction todo generalizing staged waiting with
  | nil =>
      obtain ⟨_, rfl⟩ := Prod.mk.inj (Except.ok.inj isOk)
      simp
  | cons id later inductionHypothesis =>
      obtain ⟨definition, found, continued⟩ := bind_eq_ok_iff.1 isOk
      split at continued
      · obtain ⟨linearization, _, passedOn⟩ := bind_eq_ok_iff.1 continued
        obtain ⟨areLater, isShorter, _⟩ := inductionHypothesis passedOn
        have isStaged : waiting.length < (id :: later).length := Nat.lt_succ_of_le isShorter
        exact ⟨List.subset_cons_of_subset id areLater, Nat.le_of_lt isStaged, fun _ => isStaged⟩
      · rename_i isWaiting
        obtain ⟨⟨passed, others⟩, passedOn, same⟩ := bind_eq_ok_iff.1 continued
        obtain ⟨rfl, rfl⟩ := Prod.mk.inj (Except.ok.inj same)
        obtain ⟨areLater, isShorter, progress⟩ := inductionHypothesis passedOn
        refine ⟨List.cons_subset_cons id areLater, Nat.succ_le_succ isShorter, ?_⟩
        rintro ⟨other, isTodo, otherDefinition, otherFound, areReady⟩
        have isLater : other ∈ later := by
          refine (List.mem_cons.1 isTodo).resolve_left ?_
          rintro rfl
          obtain rfl := Option.some.inj (otherFound.symm.trans (require_eq_ok_iff.1 found))
          refine isWaiting (List.all_eq_true.2 fun base isBase => ?_)
          by_cases isInside : base ∈ family
          · rw [areReady base isBase isInside, Bool.or_true]
          · simp [isInside]
        exact Nat.succ_lt_succ (progress ⟨other, isLater, otherDefinition, otherFound, areReady⟩)

omit areOpen noCycle in
/-- As long as a type is pending, one of the pending types is ready: a pending base stands closer to the
root, so looking for a type that is not ready ends. -/
theorem Staging.exists_ready (staging : Staging registry family root bases pending staged)
    {id : TypeId} (isPending : id ∈ pending) :
    ∃ other ∈ pending, registry.IsReady family staged other := by
  have isInside := (staging.members id).2 (.inl isPending)
  have ⟨definition, found, _⟩ :=
    definition?_of_mem_linearizationOf ((isFamily id).1 isInside)
  clear * - wellFormed isFamily staging isPending found
  induction id, definition, found using wellFormed.induction with
  | step id definition found inductionHypothesis =>
      by_cases isReady : ∀ base ∈ definition.bases, base ∈ family → staged.contains base = true
      · exact ⟨id, isPending, definition, found, isReady⟩
      · push Not at isReady
        obtain ⟨base, isBase, isInside, notStaged⟩ := isReady
        obtain ⟨baseDefinition, baseFound, _⟩ := wellFormed.basesOpen found base isBase
        have isBasePending : base ∈ pending :=
          ((staging.members base).1 isInside).resolve_right notStaged
        exact inductionHypothesis base isBase baseDefinition baseFound isBasePending

/-- A pass fails only with a conflict of a type that has no order over the new bases. -/
theorem Staging.stagePass_cases (held : List TypeId) {todo : List TypeId}
    (staging : Staging registry family root bases (held ++ todo) staged)
    (isRoot : root ∉ held ++ todo) :
    (∃ passed waiting, registry.stagePass family todo staged = .ok (passed, waiting)) ∨
    ∃ error, registry.stagePass family todo staged = .error error ∧
      error.kind = .linearizationConflict ∧
      ∃ id ∈ todo, ¬ registry.HasRebasedOrder root bases id := by
  induction todo generalizing held staged with
  | nil => exact .inl ⟨_, _, rfl⟩
  | cons id later inductionHypothesis =>
      have isPending : id ∈ held ++ id :: later := by simp
      have isOther : id ≠ root := fun same => isRoot (same ▸ isPending)
      have isInside := (isFamily id).1 ((staging.members id).2 (.inl isPending))
      obtain ⟨definition, found, _⟩ := definition?_of_mem_linearizationOf isInside
      have sameBases : movedBases root bases id definition = definition.bases := if_neg isOther
      have isRequired : registry.require id = .ok definition := require_eq_ok_iff.2 found
      by_cases isReady : (definition.bases.all fun base =>
          !family.contains base || staged.contains base) = true
      · have areReady : ∀ base ∈ movedBases root bases id definition, base ∈ family →
            staged.contains base = true := by
          rw [sameBases]
          intro base isBase isInside
          simpa [isInside] using List.all_eq_true.1 isReady base isBase
        rcases staging.linearize_cases wellFormed isFamily areOpen noCycle found areReady with
          ⟨order, isOk⟩ | ⟨error, isError, isConflict, hasNoOrder⟩
        · have stillNoRoot : root ∉ held ++ later := by
            intro isPending
            rcases List.mem_append.1 isPending with isHeld | isLater
            · exact isRoot (List.mem_append_left _ isHeld)
            · exact isRoot (List.mem_append_right _ (List.mem_cons_of_mem id isLater))
          have isStep : registry.stagePass family (id :: later) staged =
              registry.stagePass family later (staged.insert id order) := by
            rw [sameBases] at isOk
            simp only [stagePass, isRequired, isReady, isOk, bind, Except.bind, if_true]
          rw [isStep]
          rcases inductionHypothesis held (staging.insert found areReady isOk) stillNoRoot with
            isOk | ⟨error, isError, isConflict, other, isLater, hasNoOrder⟩
          · exact .inl isOk
          · exact .inr ⟨error, isError, isConflict, other, List.mem_cons_of_mem id isLater, hasNoOrder⟩
        · refine .inr ⟨error, ?_, isConflict, id, List.mem_cons_self .., hasNoOrder⟩
          rw [sameBases] at isError
          simp only [stagePass, isRequired, isReady, isError, bind, Except.bind, if_true]
      · have isStep : registry.stagePass family (id :: later) staged =
            (registry.stagePass family later staged).bind fun result =>
              .ok (result.1, id :: result.2) := by
          simp only [stagePass, isRequired, isReady, bind, Except.bind]
          rfl
        rw [isStep]
        have regrouped : held ++ id :: later = (held ++ [id]) ++ later := by simp
        rcases inductionHypothesis (held ++ [id]) (regrouped ▸ staging) (regrouped ▸ isRoot) with
          ⟨passed, waiting, isOk⟩ | ⟨error, isError, isConflict, other, isLater, hasNoOrder⟩
        · rw [isOk]
          exact .inl ⟨_, _, rfl⟩
        · rw [isError]
          exact .inr ⟨error, rfl, isConflict, other, List.mem_cons_of_mem id isLater, hasNoOrder⟩

/-- The passes end with all types staged, or with a conflict of a type that has no order over the new
bases. They never end because nothing was ready. -/
theorem Staging.stageAll_cases (staging : Staging registry family root bases pending staged)
    (isRoot : root ∉ pending) :
    (∃ result, registry.stageAll family pending staged = .ok result) ∨
    ∃ error, registry.stageAll family pending staged = .error error ∧
      error.kind = .linearizationConflict ∧
      ∃ id ∈ family, ¬ registry.HasRebasedOrder root bases id := by
  induction pending, staged using stageAll.induct registry family with
  | case1 staged =>
      rw [stageAll, if_pos rfl]
      exact .inl ⟨_, rfl⟩
  | case2 pending staged isPending error failed =>
      rw [stageAll, if_neg isPending, failed]
      rcases staging.stagePass_cases wellFormed isFamily areOpen noCycle [] isRoot with
        ⟨passed, waiting, isOk⟩ | ⟨other, isError, isConflict, id, isMember, hasNoOrder⟩
      · rw [isOk] at failed
        cases failed
      · obtain rfl := Except.error.inj (isError.symm.trans failed)
        exact .inr ⟨_, rfl, isConflict, id, (staging.members id).2 (.inl isMember), hasNoOrder⟩
  | case3 pending staged isPending passed waiting isPass isShorter inductionHypothesis =>
      rw [stageAll, if_neg isPending, isPass]
      simp only [isShorter, if_true]
      obtain ⟨next, notWaiting⟩ := stagePass_ok [] staging isRoot isPass
      exact inductionHypothesis next notWaiting
  | case4 pending staged isPending passed waiting isPass isStuck =>
      obtain ⟨id, isMember⟩ := List.exists_mem_of_ne_nil pending isPending
      obtain ⟨_, _, progress⟩ := stagePass_waits isPass
      exact absurd (progress (staging.exists_ready wellFormed isFamily isMember)) isStuck

omit areOpen noCycle in
/-- A pass with pending types stages one of them, because a pass that stages none gives all of them
back. -/
theorem Staging.stagePass_progresses (staging : Staging registry family root bases pending staged)
    (isRoot : root ∉ pending) (isPending : pending ≠ []) {waiting : List TypeId} {passed : Staged}
    (isPass : registry.stagePass family pending staged = .ok (passed, waiting)) :
    ∃ id ∈ pending, id ∉ waiting ∧ staged.contains id = false ∧ passed.contains id = true := by
  obtain ⟨next, _⟩ := stagePass_ok [] staging isRoot isPass
  obtain ⟨first, isMember⟩ := List.exists_mem_of_ne_nil pending isPending
  obtain ⟨_, _, progress⟩ := stagePass_waits isPass
  have isShorter := progress (staging.exists_ready wellFormed isFamily isMember)
  obtain ⟨id, isMember, isStaged⟩ : ∃ id ∈ pending, id ∉ waiting := by
    by_contra noneStaged
    push Not at noneStaged
    exact absurd (List.subperm_of_subset staging.nodup noneStaged).length_le (Nat.not_le.2 isShorter)
  have isInside := (staging.members id).2 (.inl isMember)
  refine ⟨id, isMember, isStaged, ?_, ((next.members id).1 isInside).resolve_left isStaged⟩
  rw [Table.contains, staging.notStaged id isMember, Option.isSome_none]

/-- With nothing pending, the whole family has orders over the new bases. -/
theorem Staging.hasRebasedOrder (staging : Staging registry family root bases [] staged)
    {id : TypeId} (isInside : id ∈ family) : registry.HasRebasedOrder root bases id := by
  have isStaged := ((staging.members id).1 isInside).resolve_left List.not_mem_nil
  obtain ⟨order, isOrder⟩ := Option.isSome_iff_exists.1 isStaged
  obtain ⟨_, _, _, isShort, _⟩ := staging.linearized id order isOrder
  exact ⟨order, staging.recomputes wellFormed isFamily areOpen noCycle isOrder, isShort⟩

end Staging

/-! ### Any order -/

/-- One pass leads from pending types and staged linearizations to others. -/
def Passes (registry : Registry) (family : List TypeId) (before after : List TypeId × Staged) :
    Prop :=
  registry.stagePass family before.1 before.2 = .ok (after.2, after.1)

theorem Staging.passes {family bases : List TypeId} {root : TypeId}
    {before after : List TypeId × Staged}
    (staging : Staging registry family root bases before.1 before.2) (isRoot : root ∉ before.1)
    (isReached : Relation.ReflTransGen (registry.Passes family) before after) :
    Staging registry family root bases after.1 after.2 ∧ root ∉ after.1 := by
  induction isReached with
  | refl => exact ⟨staging, isRoot⟩
  | tail _ isPass inductionHypothesis =>
      exact stagePass_ok [] inductionHypothesis.1 inductionHypothesis.2 isPass

/-- When the descendants of a root are staged in an order, every pass stages a type as long as one is
pending, only a conflict makes the passes fail, and they succeed exactly when the new bases give an
order to the whole family. The result is that order for each of its types. -/
structure StagesIn (registry : Registry) (root : TypeId) (bases own order : List TypeId) : Prop where
  progresses : ∀ pending staged waiting passed,
    Relation.ReflTransGen (registry.Passes (registry.descendants root ++ [root]))
      (order, Table.empty.insert root own) (pending, staged) → pending ≠ [] →
    registry.Passes (registry.descendants root ++ [root]) (pending, staged) (waiting, passed) →
    ∃ id ∈ pending, id ∉ waiting ∧ staged.contains id = false ∧ passed.contains id = true
  conflicts : ∀ error, registry.stageAll (registry.descendants root ++ [root]) order
      (Table.empty.insert root own) = .error error → error.kind = .linearizationConflict
  succeeds : (∃ staged, registry.stageAll (registry.descendants root ++ [root]) order
      (Table.empty.insert root own) = .ok staged) ↔
    ∀ id, root ∈ registry.linearizationOf id → registry.HasRebasedOrder root bases id
  recomputes : ∀ staged, registry.stageAll (registry.descendants root ++ [root]) order
      (Table.empty.insert root own) = .ok staged → ∀ id linearization,
    staged.get? id = some linearization ↔ root ∈ registry.linearizationOf id ∧
      Recomputes (registry.rebasedGraph root bases) id linearization

/-- New bases are allowed when they are registered types that are open for inheritance, differ from
each other, and do not inherit from the type. -/
structure AllowsBases (registry : Registry) (id : TypeId) (bases : List TypeId) : Prop where
  areOpen : ∀ base ∈ bases, registry.IsOpen base
  nodup : bases.Nodup
  noCycle : ∀ base ∈ bases, id ∉ registry.linearizationOf base

/-- New bases are acceptable when they are allowed and give an order to the type and to every type that
inherits from it. -/
structure AcceptsBases (registry : Registry) (id : TypeId) (bases : List TypeId) : Prop
    extends registry.AllowsBases id bases where
  hasOrders : ∀ other, id ∈ registry.linearizationOf other → registry.HasRebasedOrder id bases other

section Allowed

variable {root : TypeId} {bases : List TypeId} {definition : TypeDefinition}
  (wellFormed : registry.WellFormed) (found : registry.definition? root = some definition)
  (allowed : registry.AllowsBases root bases)

include wellFormed found allowed

/-- Allowed bases are outside of the family, so the root is ready when nothing is staged. -/
theorem AllowsBases.outside : ∀ base ∈ movedBases root bases root definition,
    base ∈ registry.descendants root ++ [root] → (Table.empty : Staged).contains base = true := by
  rw [movedBases, if_pos rfl]
  intro base isBase isInside
  exact absurd ((mem_family_iff wellFormed found base).1 isInside) (allowed.noCycle base isBase)

/-- The order of the root over allowed bases is found first, and then its descendants are pending in
any order. -/
theorem AllowsBases.staging {own order : List TypeId}
    (isOwn : registry.linearize root bases .empty = .ok own)
    (isPerm : order.Perm (registry.descendants root)) :
    Staging registry (registry.descendants root ++ [root]) root bases order
        (Table.empty.insert root own) ∧ root ∉ order := by
  have ownBases : movedBases root bases root definition = bases := if_pos rfl
  have outside := allowed.outside wellFormed found
  have staging : Staging registry (registry.descendants root ++ [root]) root bases
      (registry.descendants root ++ []) (Table.empty.insert root own) :=
    (staging_start wellFormed found bases).insert found outside (ownBases.symm ▸ isOwn)
  rw [List.append_nil] at staging
  refine ⟨staging.perm isPerm, fun isMember => ?_⟩
  exact ((mem_descendants_iff wellFormed root root).1 (isPerm.mem_iff.1 isMember)).1 rfl

/-- The order in which the descendants of a root are staged does not matter. -/
theorem AllowsBases.stagesIn {own order : List TypeId}
    (isOwn : registry.linearize root bases .empty = .ok own)
    (isPerm : order.Perm (registry.descendants root)) :
    registry.StagesIn root bases own order := by
  have isFamily := mem_family_iff wellFormed found
  obtain ⟨staging, isRoot⟩ := allowed.staging wellFormed found isOwn isPerm
  have cases := staging.stageAll_cases wellFormed isFamily allowed.areOpen allowed.noCycle isRoot
  refine ⟨?_, ?_, ⟨?_, ?_⟩, ?_⟩
  · intro pending staged waiting passed isReached isPending isPass
    obtain ⟨stillStaging, notPending⟩ := staging.passes isRoot isReached
    exact stillStaging.stagePass_progresses wellFormed isFamily notPending isPending isPass
  · intro error isError
    rcases cases with ⟨result, isOk⟩ | ⟨other, isOther, isConflict, _⟩
    · rw [isOk] at isError
      cases isError
    · exact Except.error.inj (isOther.symm.trans isError) ▸ isConflict
  · rintro ⟨result, isOk⟩ id isAncestor
    exact (stageAll_ok staging isRoot isOk).hasRebasedOrder wellFormed isFamily allowed.areOpen
      allowed.noCycle ((isFamily id).2 isAncestor)
  · intro hasOrders
    rcases cases with isOk | ⟨_, _, _, id, isInside, hasNoOrder⟩
    · exact isOk
    · exact absurd (hasOrders id ((isFamily id).1 isInside)) hasNoOrder
  · intro result isOk id linearization
    have done := stageAll_ok staging isRoot isOk
    constructor
    · intro isStaged
      have isInside : id ∈ registry.descendants root ++ [root] :=
        done.mem_family (by rw [Table.contains, isStaged, Option.isSome_some])
      exact ⟨(isFamily id).1 isInside,
        done.recomputes wellFormed isFamily allowed.areOpen allowed.noCycle isStaged⟩
    · rintro ⟨isAncestor, recomputes⟩
      have isStaged := ((done.members id).1 ((isFamily id).2 isAncestor)).resolve_left List.not_mem_nil
      obtain ⟨order, isOrder⟩ := Option.isSome_iff_exists.1 isStaged
      rw [isOrder, recomputes.unique
        (done.recomputes wellFormed isFamily allowed.areOpen allowed.noCycle isOrder)]

/-- The family is staged over allowed bases, or there is a conflict because a type of the family has no
order. -/
theorem AllowsBases.stageBases_cases :
    (∃ staged, registry.stageBases root bases = .ok staged ∧ registry.AcceptsBases root bases) ∨
    ∃ error, registry.stageBases root bases = .error error ∧
      error.kind = .linearizationConflict ∧ ¬ registry.AcceptsBases root bases := by
  have isFamily := mem_family_iff wellFormed found
  have ownBases : movedBases root bases root definition = bases := if_pos rfl
  have outside := allowed.outside wellFormed found
  rcases (staging_start wellFormed found bases).linearize_cases wellFormed isFamily allowed.areOpen
    allowed.noCycle found outside with ⟨own, isOwn⟩ | ⟨error, isError, isConflict, hasNoOrder⟩
  · rw [ownBases] at isOwn
    have isStep : registry.stageBases root bases =
        registry.stageAll (registry.descendants root ++ [root]) (registry.descendants root)
          (Table.empty.insert root own) := by
      simp only [stageBases, isOwn, bind, Except.bind]
    have stages := allowed.stagesIn wellFormed found isOwn (List.Perm.refl _)
    rw [isStep]
    cases isResult : registry.stageAll (registry.descendants root ++ [root])
        (registry.descendants root) (Table.empty.insert root own) with
    | ok staged => exact .inl ⟨staged, rfl, allowed, stages.succeeds.1 ⟨staged, isResult⟩⟩
    | error error =>
        refine .inr ⟨error, rfl, stages.conflicts error isResult, fun accepts => ?_⟩
        obtain ⟨staged, isOk⟩ := stages.succeeds.2 accepts.hasOrders
        rw [isOk] at isResult
        cases isResult
  · rw [ownBases] at isError
    refine .inr ⟨error, by simp only [stageBases, isError, bind, Except.bind], isConflict, ?_⟩
    intro accepts
    refine hasNoOrder (accepts.hasOrders root ?_)
    rw [linearizationOf_of_definition? found]
    exact wellFormed.self_mem_linearization found

omit wellFormed in
/-- Allowed bases pass all checks, so the new linearizations decide. -/
theorem AllowsBases.setBases_eq (isMutable : definition.isImmutable = false) (hasBases : bases ≠ []) :
    registry.setBases root bases = (registry.stageBases root bases).map fun staged =>
      ((registry.moveSubclass root definition.bases bases).update root fun definition =>
        { definition with bases := bases }).publish staged := by
  have isRequired : registry.require root = .ok definition := require_eq_ok_iff.2 found
  have isValid : registry.validateBases [] bases = .ok () :=
    validateBases_complete allowed.areOpen (by simp) allowed.nodup
  have isAcyclic : registry.rejectCycles root bases = .ok () :=
    rejectCycles_complete allowed.areOpen allowed.noCycle
  have passesGuard : definition.ensureMutable "__bases__" = .ok () := by
    rw [TypeDefinition.ensureMutable, isMutable]
    rfl
  simp only [setBases, isRequired, passesGuard, if_neg hasBases, isValid, isAcyclic, bind, Except.bind]
  cases registry.stageBases root bases <;> rfl

end Allowed

/-- Bases that a type gets are allowed. -/
theorem allowsBases_of_setBases {id : TypeId} {bases : List TypeId}
    (isOk : registry.setBases id bases = .ok next) : registry.AllowsBases id bases := by
  obtain ⟨definition, _, continued⟩ := bind_eq_ok_iff.1 isOk
  obtain ⟨_, _, checked⟩ := bind_eq_ok_iff.1 continued
  split at checked
  · cases checked
  · obtain ⟨_, validated, unchecked⟩ := bind_eq_ok_iff.1 checked
    obtain ⟨_, isAcyclic, _⟩ := bind_eq_ok_iff.1 unchecked
    obtain ⟨areOpen, nodup⟩ := validateBases_ok validated
    exact ⟨fun base isBase => (areOpen base isBase).2, nodup, rejectCycles_ok isAcyclic⟩

/-- A mutable type gets new bases exactly when they are acceptable, and over allowed bases only a
conflict is an obstacle. -/
theorem WellFormed.setBases_cases (wellFormed : registry.WellFormed) {id : TypeId}
    {definition : TypeDefinition} (found : registry.definition? id = some definition)
    (isMutable : definition.isImmutable = false) {bases : List TypeId} (hasBases : bases ≠ []) :
    (∃ next, registry.setBases id bases = .ok next ∧ registry.AcceptsBases id bases) ∨
    ∃ error, registry.setBases id bases = .error error ∧ ¬ registry.AcceptsBases id bases ∧
      (registry.AllowsBases id bases → error.kind = .linearizationConflict) := by
  by_cases allowed : registry.AllowsBases id bases
  · rw [allowed.setBases_eq found isMutable hasBases]
    rcases allowed.stageBases_cases wellFormed found with
      ⟨staged, isOk, accepts⟩ | ⟨error, isError, isConflict, accepts⟩
    · rw [isOk]
      exact .inl ⟨_, rfl, accepts⟩
    · rw [isError]
      exact .inr ⟨error, rfl, accepts, fun _ => isConflict⟩
  · cases isResult : registry.setBases id bases with
    | ok next => exact absurd (allowsBases_of_setBases isResult) allowed
    | error error =>
        exact .inr ⟨error, rfl, fun accepts => allowed accepts.toAllowsBases,
          fun isAllowed => absurd isAllowed allowed⟩

/-! ### The new hierarchy -/

/-- A registry is recomputed when one type has got new bases, every type has the linearization that the
new graph gives from the bottom, and types that do not inherit from the one have kept theirs. -/
structure IsRecomputed (before after : Registry) (id : TypeId) (bases : List TypeId) : Prop where
  graph : after.graph = before.rebasedGraph id bases
  recomputes : ∀ other new, after.definition? other = some new →
    Recomputes (before.rebasedGraph id bases) other new.linearization
  unrelated : ∀ other, id ∉ before.linearizationOf other →
    after.linearizationOf other = before.linearizationOf other

theorem Rebased.isRecomputed {id : TypeId} {bases : List TypeId} {definition : TypeDefinition}
    {staged : Staged} (rebased : Rebased registry next id bases definition staged)
    (wellFormed : registry.WellFormed) : registry.IsRecomputed next id bases := by
  have sameGraph : next.graph = registry.rebasedGraph id bases := by
    funext other
    rw [graph, rebasedGraph, rebased.definitions, Option.map_map]
    rfl
  refine ⟨sameGraph, fun other new found => ?_, fun other isUnrelated => ?_⟩
  · rw [← sameGraph]
    exact (rebased.wellFormed wellFormed).recomputes found
  · have notStaged : staged.get? other = none := by
      have notContained := mt (rebased.contains_iff wellFormed other).1 isUnrelated
      rwa [Table.contains, Option.not_isSome_iff_eq_none] at notContained
    rw [rebased.linearizationOf, stagedLinearization, notStaged, Option.getD_none]

end Registry

end SlotDispatch
