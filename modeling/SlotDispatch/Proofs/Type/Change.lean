import SlotDispatch.Proofs.Type.Staging
import SlotDispatch.Type.Change
/-!
The changes of types as actions and as functions. The main statements say that each action does what
the function of the same change says: it gives the registry of the function when the function
succeeds, and it has written nothing when the function fails.
-/

namespace SlotDispatch

open SlotDispatch.Action

/-- The removal of a name that a table does not have changes nothing. -/
theorem Table.erase_of_contains_eq_false {Key Content : Type} [DecidableEq Key]
    {table : Table Key Content} {key : Key} (isAbsent : table.contains key = false) :
    table.erase key = table := by
  have notKey : ∀ entry ∈ table.entries, ¬ entry.1 = key := by
    simpa [contains, get?] using isAbsent
  obtain ⟨entries⟩ := table
  exact congrArg Table.mk (List.filter_eq_self.2 fun entry isEntry => by
    simpa using notKey entry isEntry)

namespace Registry

/-- Two registries with the same definitions and the same frame are the same. -/
theorem SameFrame.eq_of_definition? {before after : Registry} (frame : SameFrame before after)
    (same : ∀ id, after.definition? id = before.definition? id) : after = before := by
  obtain ⟨definitions, entries, limit⟩ := before
  obtain ⟨_, _, _⟩ := after
  obtain ⟨rfl, rfl, _⟩ := frame
  obtain rfl := List.ext_getElem? same
  rfl

/-- A search for descendants sees only the subclasses of types. -/
theorem descendants_congr {before after : Registry}
    (length : after.definitions.length = before.definitions.length)
    (same : ∀ id, (after.definition? id).map TypeDefinition.subclasses =
      (before.definition? id).map TypeDefinition.subclasses) (id : TypeId) :
    after.descendants id = before.descendants id := by
  have fresh : ∀ found id, after.newSubclasses found id = before.newSubclasses found id := by
    intro found id
    have subclasses := same id
    simp only [newSubclasses]
    cases isBefore : before.definition? id <;> cases isAfter : after.definition? id <;>
      simp_all
  have within : ∀ steps queue found,
      after.descendantsWithin steps queue found = before.descendantsWithin steps queue found := by
    intro steps
    induction steps with
    | zero => exact fun _ _ => rfl
    | succ steps inductionHypothesis =>
        intro queue found
        cases queue with
        | nil => rfl
        | cons first rest => simp only [descendantsWithin, fresh, inductionHypothesis]
  rw [descendants, descendants, length, within]

/-! ### Staged types -/

/-- A pass keeps staged what was staged, and lists every staged type once. -/
theorem stagePass_keeps {registry : Registry} {affected pending waiting : List TypeId}
    {staged passed : Staged} (isOk : registry.stagePass affected pending staged = .ok (passed, waiting))
    (unambiguous : staged.Unambiguous) :
    passed.Unambiguous ∧ ∀ id, staged.contains id = true → passed.contains id = true := by
  induction pending generalizing staged waiting with
  | nil =>
      obtain ⟨rfl, rfl⟩ := Prod.mk.inj (Except.ok.inj isOk)
      exact ⟨unambiguous, fun _ isStaged => isStaged⟩
  | cons first later inductionHypothesis =>
      obtain ⟨definition, _, continued⟩ := bind_eq_ok_iff.1 isOk
      split at continued
      · obtain ⟨linearization, _, isLater⟩ := bind_eq_ok_iff.1 continued
        obtain ⟨stillUnambiguous, keeps⟩ :=
          inductionHypothesis isLater (Table.unambiguous_insert unambiguous first linearization)
        refine ⟨stillUnambiguous, fun id isStaged => keeps id ?_⟩
        rw [Table.contains_insert, isStaged, Bool.or_true]
      · obtain ⟨⟨passedLater, waitingLater⟩, isLater, same⟩ := bind_eq_ok_iff.1 continued
        obtain ⟨rfl, rfl⟩ := Prod.mk.inj (Except.ok.inj same)
        exact inductionHypothesis isLater unambiguous

theorem stageAll_keeps {registry : Registry} {affected pending : List TypeId} {staged all : Staged}
    (isOk : registry.stageAll affected pending staged = .ok all) (unambiguous : staged.Unambiguous) :
    all.Unambiguous ∧ ∀ id, staged.contains id = true → all.contains id = true := by
  induction pending, staged using stageAll.induct registry affected with
  | case1 staged =>
      rw [stageAll, if_pos rfl] at isOk
      obtain rfl := Except.ok.inj isOk
      exact ⟨unambiguous, fun _ isStaged => isStaged⟩
  | case2 pending staged isPending error isError =>
      rw [stageAll, if_neg isPending, isError] at isOk
      cases isOk
  | case3 pending staged isPending passed waiting isPass isShorter inductionHypothesis =>
      rw [stageAll, if_neg isPending, isPass] at isOk
      simp only [isShorter, if_true] at isOk
      obtain ⟨passedUnambiguous, keeps⟩ := stagePass_keeps isPass unambiguous
      obtain ⟨allUnambiguous, keepsLater⟩ := inductionHypothesis isOk passedUnambiguous
      exact ⟨allUnambiguous, fun id isStaged => keepsLater id (keeps id isStaged)⟩
  | case4 pending staged isPending passed waiting isPass notShorter =>
      rw [stageAll, if_neg isPending, isPass] at isOk
      simp only [notShorter, if_false] at isOk
      cases isOk

/-- The type that moves is staged, and every staged type is listed once. -/
theorem stageBases_lists {registry : Registry} {id : TypeId} {bases : List TypeId} {staged : Staged}
    (isOk : registry.stageBases id bases = .ok staged) :
    staged.Unambiguous ∧ staged.contains id = true := by
  obtain ⟨own, _, isStaged⟩ := bind_eq_ok_iff.1 isOk
  obtain ⟨unambiguous, keeps⟩ :=
    stageAll_keeps isStaged (Table.unambiguous_insert Table.unambiguous_empty id own)
  exact ⟨unambiguous, keeps id (by simp [Table.contains_insert])⟩

end Registry

namespace TypeChange

variable {registry : Registry}

/-! ### Single steps -/

@[simp] theorem definition_apply (id : TypeId) :
    definition id registry = ofExcept (registry.require id) registry := rfl

@[simp] theorem amend_apply (id : TypeId) (change : TypeDefinition → TypeDefinition) :
    amend id change registry = some (.ok (), registry.update id change) := rfl

/-- Amendments one after the other are a sequence of updates. -/
theorem forM_amend_apply {Item : Type} (place : Item → TypeId)
    (change : Item → TypeDefinition → TypeDefinition) (items : List Item) (registry : Registry) :
    (items.forM fun item => amend (place item) (change item)) registry =
      some (.ok (),
        items.foldl (fun registry item => registry.update (place item) (change item)) registry) := by
  induction items generalizing registry with
  | nil => rfl
  | cons item rest inductionHypothesis => exact inductionHypothesis _

theorem renewDescendants_apply (id : TypeId) :
    renewDescendants id registry =
      some (.ok (), registry.raiseGenerations (registry.descendants id)) :=
  forM_amend_apply (fun id => id) _ (registry.descendants id) registry

/-- The descendants are the same after the type itself has begun a new generation. -/
theorem renewFamily_apply (id : TypeId) :
    (do renew id; renewDescendants id : Action Registry Unit) registry =
      some (.ok (), registry.raiseFamily id) := by
  have same : (registry.raiseGenerations [id]).descendants id = registry.descendants id := by
    refine Registry.descendants_congr (Registry.sameFrame_raiseGenerations registry [id]).length
      (fun other => ?_) id
    rw [Registry.definition?_raiseGenerations, Option.map_map]
    rfl
  calc (do renew id; renewDescendants id : Action Registry Unit) registry
      = renewDescendants id (registry.raiseGenerations [id]) := rfl
    _ = some (.ok (), registry.raiseFamily id) := by rw [renewDescendants_apply, same]; rfl

theorem renewSlots_apply (id : TypeId) (name : String) :
    renewSlots id name registry =
      some (.ok (), if SlotKind.isSlotDunder name then registry.raiseFamily id else registry) := by
  rw [renewSlots]
  split
  · rw [renewFamily_apply]
  · rfl

/-! ### Changes -/

/-- A check that changes nothing comes first in the action and in the function. -/
theorem check_bind_apply {Checked : Type} {check : Except Error Checked}
    {continued : Checked → Action Registry Unit} {change : Checked → Except Error Registry}
    (same : ∀ checked, check = .ok checked →
      continued checked registry = tryChange (fun _ => change checked) registry) :
    (ofExcept check >>= continued) registry = tryChange (fun _ => check >>= change) registry := by
  cases isChecked : check with
  | error error => rfl
  | ok checked => exact same checked isChecked

theorem assign_eq (id : TypeId) (name : String) (content : Value) :
    assign id name content = tryChange fun registry => registry.setAttribute id name content := by
  funext registry
  refine check_bind_apply fun definition _ => check_bind_apply fun _ _ => ?_
  exact renewSlots_apply id name

/-- A deletion that fails has removed nothing. -/
theorem delete_eq (id : TypeId) (name : String) :
    delete id name = tryChange fun registry => registry.deleteAttribute id name := by
  funext registry
  refine check_bind_apply fun definition found => check_bind_apply fun _ _ => ?_
  rw [bind_apply, amend_apply]
  dsimp only
  split
  · exact renewSlots_apply id name
  · rename_i notThere
    have same : ∀ other, (registry.update id fun definition =>
        { definition with attributes := definition.attributes.erase name }).definition? other =
          registry.definition? other := by
      intro other
      rw [Registry.definition?_update]
      by_cases isOther : id = other
      · rw [← isOther, Registry.require_eq_ok_iff.1 found, Option.map_some, if_pos rfl,
          Table.erase_of_contains_eq_false (Bool.eq_false_iff.2 notThere)]
      · simp [isOther]
    rw [(Registry.sameFrame_update registry id _).eq_of_definition? same]
    rfl

theorem invalidate_eq (id : TypeId) :
    invalidate id = tryChange fun registry => registry.invalidate id := by
  funext registry
  exact check_bind_apply fun _ _ => renewFamily_apply id

/-- The bases of a type that moves are still registered when it joins them. -/
theorem forM_join_apply {id : TypeId} {bases : List TypeId}
    (areRegistered : ∀ base ∈ bases, base < registry.definitions.length) :
    (bases.forM fun base => do
      let _ ← definition base
      join id base : Action Registry Unit) registry =
      some (.ok (), registry.joinSubclasses id bases) := by
  induction bases generalizing registry with
  | nil => rfl
  | cons first rest inductionHypothesis =>
      obtain ⟨found, isFound⟩ :=
        Registry.definition?_isSome_iff.2 (areRegistered first List.mem_cons_self)
      let joined := registry.update first fun definition =>
        { definition with subclasses := definition.subclasses ++ [id] }
      have frame : registry.SameFrame joined := Registry.sameFrame_update registry first _
      have isHead : (do let _ ← definition first; join id first : Action Registry Unit) registry =
          some (.ok (), joined) := by
        rw [bind_apply, definition_apply, Registry.require_eq_ok_iff.2 isFound]
        rfl
      change ((do let _ ← definition first; join id first : Action Registry Unit) >>= _) registry = _
      rw [bind_apply, isHead]
      exact inductionHypothesis fun base isLater =>
        frame.length ▸ areRegistered base (List.mem_cons_of_mem _ isLater)

/-- The staged types settle as if the type had got its bases before all linearizations are
published. -/
theorem forM_settle_apply {id : TypeId} (bases : List TypeId) {staged : Registry.Staged}
    (unambiguous : staged.Unambiguous) (isStaged : staged.contains id = true) :
    staged.entries.forM (settle id bases) registry =
      some (.ok (), (registry.update id fun definition => { definition with bases := bases }).publish
        staged) := by
  refine (forM_amend_apply Prod.fst _ staged.entries registry).trans ?_
  congr 2
  have frame := (Registry.sameFrame_update registry id fun definition =>
    { definition with bases := bases }).trans (Registry.sameFrame_publish _ staged)
  have settled := Registry.sameFrame_foldl_update staged.entries Prod.fst (fun entry definition =>
    { definition with
      bases := if entry.1 = id then bases else definition.bases
      linearization := entry.2
      generation := definition.generation + 1 }) registry
  refine (frame.symm.trans settled).eq_of_definition? fun other => ?_
  rw [Registry.definition?_publish _ unambiguous, Registry.definition?_update, Option.map_map,
    Registry.definition?_foldl_update staged.entries Prod.fst]
  congr 1
  funext definition
  rw [Registry.foldl_staged unambiguous]
  simp only [Function.comp_apply]
  by_cases isMoved : other = id
  · subst isMoved
    obtain ⟨linearization, isFound⟩ := Option.isSome_iff_exists.1 isStaged
    simp [isFound]
  · simp [isMoved, Ne.symm isMoved]

/-- A move that fails has written nothing, because the linearizations are found first. -/
theorem rebase_eq (id : TypeId) (bases : List TypeId) :
    rebase id bases = tryChange fun registry => registry.setBases id bases := by
  funext registry
  refine check_bind_apply fun moved _ => check_bind_apply fun _ _ => ?_
  dsimp only
  split
  · rfl
  · refine check_bind_apply fun _ validated => check_bind_apply fun _ _ =>
      check_bind_apply fun staged isStaged => ?_
    obtain ⟨unambiguous, isListed⟩ := Registry.stageBases_lists isStaged
    let left := moved.bases.foldl (fun registry base => registry.update base fun definition =>
      { definition with subclasses := definition.subclasses.filter fun other => other ≠ id }) registry
    have hasLeft : moved.bases.forM (leave id) registry = some (.ok (), left) :=
      forM_amend_apply (fun base => base) _ moved.bases registry
    have areRegistered : ∀ base ∈ bases, base < left.definitions.length := by
      intro base isBase
      obtain ⟨found, isFound, _⟩ := ((Registry.validateBases_ok validated).1 base isBase).2
      rw [(Registry.sameFrame_foldl_update moved.bases (fun base => base) _ registry).length]
      exact Registry.lt_length_of_definition? isFound
    rw [bind_apply, hasLeft]
    dsimp only
    rw [bind_apply, forM_join_apply areRegistered]
    exact forM_settle_apply bases unambiguous isListed

/-- A creation that fails has written nothing. -/
theorem create_apply (name : String) (bases : List TypeId) (attributes : Namespace) :
    create name bases attributes registry =
      match registry.createType name bases attributes with
      | .ok (id, next) => some (.ok id, next)
      | .error error => some (.error error, registry) := by
  have joins (id : TypeId) (bases : List TypeId) (registry : Registry) :
      bases.forM (join id) registry = some (.ok (), registry.joinSubclasses id bases) :=
    forM_amend_apply (fun base => base) _ bases registry
  simp only [create, Registry.createType, bind_apply, current]
  generalize (if bases = [] then [TypeId.object] else bases) = bases
  cases registry.validateBases [] bases with
  | error error => rfl
  | ok _ =>
      cases isNew : registry.newId with
      | error error => rfl
      | ok id =>
          obtain ⟨rfl, _⟩ := Registry.newId_eq_ok_iff.1 isNew
          simp only [Action.ofExcept, Action.give, bind, Except.bind]
          cases registry.linearize registry.definitions.length bases .empty with
          | error error => rfl
          | ok linearization =>
              simp only [Action.change, joins]
              rfl

end TypeChange

end SlotDispatch
