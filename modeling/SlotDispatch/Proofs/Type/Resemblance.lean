import SlotDispatch.Proofs.Type.Mutation
/-!
Registries that differ in generations and kept entries only. Nothing but the slot entries depends on
either of them. The main statements say that every mutation has the same outcome in a registry that is
some generations ahead, and leaves it as many generations ahead.
-/

namespace SlotDispatch

/-- The definition is in another generation. -/
def TypeDefinition.inGeneration (definition : TypeDefinition) (generation : Nat) : TypeDefinition :=
  { definition with generation := generation }

namespace Registry

/-- Two registries resemble each other when their types differ in their generations only. -/
structure Resembles (left right : Registry) : Prop where
  definition? : ∀ id, Option.Rel (fun definition other => ∃ generation,
    other = definition.inGeneration generation) (left.definition? id) (right.definition? id)
  limit : right.linearizationLimit = left.linearizationLimit

namespace Resembles

variable {left right : Registry}

theorem refl (registry : Registry) : Resembles registry registry := by
  refine ⟨fun id => ?_, rfl⟩
  cases registry.definition? id with
  | none => exact .none
  | some definition => exact .some ⟨definition.generation, rfl⟩

theorem symm (resembles : Resembles left right) : Resembles right left := by
  refine ⟨fun id => ?_, resembles.limit.symm⟩
  generalize isLeft : left.definition? id = leftFound
  generalize isRight : right.definition? id = rightFound
  have both := resembles.definition? id
  rw [isLeft, isRight] at both
  cases both with
  | none => exact .none
  | @some definition _ isOther =>
      obtain ⟨_, rfl⟩ := isOther
      exact .some ⟨definition.generation, rfl⟩

theorem trans {other : Registry} (first : Resembles left right) (second : Resembles right other) :
    Resembles left other := by
  refine ⟨fun id => ?_, second.limit.trans first.limit⟩
  generalize isLeft : left.definition? id = leftFound
  generalize isRight : right.definition? id = rightFound
  generalize isOther : other.definition? id = otherFound
  have leftRight := first.definition? id
  have rightOther := second.definition? id
  rw [isLeft, isRight] at leftRight
  rw [isRight, isOther] at rightOther
  cases leftRight with
  | none =>
      cases rightOther with
      | none => exact .none
  | some isNext =>
      cases rightOther with
      | some isLast =>
          obtain ⟨_, rfl⟩ := isNext
          obtain ⟨generation, rfl⟩ := isLast
          exact .some ⟨generation, rfl⟩

/-! ### Readings -/

section Reading

variable (resembles : Resembles left right)

include resembles

/-- Both registries have a definition of a type, or neither has. -/
theorem definition_cases (id : TypeId) :
    (left.definition? id = none ∧ right.definition? id = none) ∨
      ∃ definition generation, left.definition? id = some definition ∧
        right.definition? id = some (definition.inGeneration generation) := by
  have related := resembles.definition? id
  generalize left.definition? id = leftDefinition?, right.definition? id = rightDefinition? at related
  cases related with
  | none => exact .inl ⟨rfl, rfl⟩
  | some isOther =>
      obtain ⟨generation, rfl⟩ := isOther
      exact .inr ⟨_, generation, rfl, rfl⟩

theorem length_eq : right.definitions.length = left.definitions.length := by
  refine Nat.le_antisymm ?_ ?_ <;> refine Nat.le_of_not_lt fun isShorter => ?_
  · rcases resembles.definition_cases left.definitions.length with
      ⟨_, isRight⟩ | ⟨_, _, isLeft, _⟩
    · exact absurd (List.getElem?_eq_none_iff.1 isRight) (Nat.not_le.2 isShorter)
    · exact absurd (lt_length_of_definition? isLeft) (Nat.lt_irrefl _)
  · rcases resembles.definition_cases right.definitions.length with
      ⟨isLeft, _⟩ | ⟨_, _, _, isRight⟩
    · exact absurd (List.getElem?_eq_none_iff.1 isLeft) (Nat.not_le.2 isShorter)
    · exact absurd (lt_length_of_definition? isRight) (Nat.lt_irrefl _)

/-- What is read of the definition of a type is the same, if it is not the generation. -/
theorem require_bind {Result : Type} (id : TypeId) (read : TypeDefinition → Except Error Result)
    (same : ∀ definition generation, read (definition.inGeneration generation) = read definition) :
    (right.require id >>= read) = left.require id >>= read := by
  rcases resembles.definition_cases id with ⟨isLeft, isRight⟩ | ⟨_, generation, isLeft, isRight⟩
  · simp only [require, isLeft, isRight]
  · simp only [require, isLeft, isRight]
    exact same _ generation

theorem nameOf (id : TypeId) : right.nameOf id = left.nameOf id := by
  rcases resembles.definition_cases id with ⟨isLeft, isRight⟩ | ⟨_, _, isLeft, isRight⟩ <;>
    simp only [Registry.nameOf, isLeft, isRight, TypeDefinition.inGeneration]

theorem linearizationOf (id : TypeId) : right.linearizationOf id = left.linearizationOf id := by
  rcases resembles.definition_cases id with ⟨isLeft, isRight⟩ | ⟨_, _, isLeft, isRight⟩ <;>
    simp only [Registry.linearizationOf, isLeft, isRight, TypeDefinition.inGeneration]

theorem isSubtype (sub base : TypeId) : right.isSubtype sub base = left.isSubtype sub base := by
  rw [Registry.isSubtype, Registry.isSubtype, resembles.linearizationOf]

theorem lookupAlong (name : String) (ids : List TypeId) :
    right.lookupAlong name ids = left.lookupAlong name ids := by
  induction ids with
  | nil => rfl
  | cons id rest inductionHypothesis =>
      rcases resembles.definition_cases id with ⟨isLeft, isRight⟩ | ⟨_, _, isLeft, isRight⟩ <;>
        simp only [Registry.lookupAlong, isLeft, isRight, inductionHypothesis,
          TypeDefinition.inGeneration]

theorem lookup (id : TypeId) (name : String) : right.lookup id name = left.lookup id name := by
  rw [Registry.lookup, Registry.lookup, resembles.linearizationOf, resembles.lookupAlong]

theorem linearize (id : TypeId) (bases : List TypeId) (staged : Staged) :
    right.linearize id bases staged = left.linearize id bases staged := by
  have sameBase : right.baseLinearization staged = left.baseLinearization staged := by
    funext base
    rw [baseLinearization, baseLinearization]
    cases staged.get? base with
    | some linearization => rfl
    | none => exact resembles.require_bind base _ fun _ _ => rfl
  have sameNames : right.nameOf = left.nameOf := funext resembles.nameOf
  rw [Registry.linearize, Registry.linearize, sameBase, sameNames, resembles.limit]

theorem validateBases (seen bases : List TypeId) :
    right.validateBases seen bases = left.validateBases seen bases := by
  induction bases generalizing seen with
  | nil => rfl
  | cons base rest inductionHypothesis =>
      simp only [Registry.validateBases, inductionHypothesis]
      exact resembles.require_bind base _ fun _ _ => rfl

theorem rejectCycles (id : TypeId) (bases : List TypeId) :
    right.rejectCycles id bases = left.rejectCycles id bases := by
  induction bases with
  | nil => rfl
  | cons base rest inductionHypothesis =>
      simp only [Registry.rejectCycles, inductionHypothesis]
      exact resembles.require_bind base _ fun _ _ => rfl

theorem descendants (id : TypeId) : right.descendants id = left.descendants id := by
  have sameSubclasses : right.newSubclasses = left.newSubclasses := by
    funext found id
    rcases resembles.definition_cases id with ⟨isLeft, isRight⟩ | ⟨_, _, isLeft, isRight⟩ <;>
      simp only [newSubclasses, isLeft, isRight, TypeDefinition.inGeneration]
  have sameSearch : ∀ steps queue found, right.descendantsWithin steps queue found =
      left.descendantsWithin steps queue found := by
    intro steps
    induction steps with
    | zero => exact fun _ _ => rfl
    | succ steps inductionHypothesis =>
        intro queue found
        cases queue with
        | nil => rfl
        | cons id queue => simp only [descendantsWithin, sameSubclasses, inductionHypothesis]
  rw [Registry.descendants, Registry.descendants, sameSearch, resembles.length_eq]

theorem stagePass (affected todo : List TypeId) (staged : Staged) :
    right.stagePass affected todo staged = left.stagePass affected todo staged := by
  induction todo generalizing staged with
  | nil => rfl
  | cons id later inductionHypothesis =>
      simp only [Registry.stagePass, resembles.linearize, inductionHypothesis]
      exact resembles.require_bind id _ fun _ _ => rfl

theorem stageAll (affected pending : List TypeId) (staged : Staged) :
    right.stageAll affected pending staged = left.stageAll affected pending staged := by
  induction pending, staged using stageAll.induct left affected with
  | case1 staged => rw [Registry.stageAll, Registry.stageAll, if_pos rfl, if_pos rfl]
  | case2 pending staged isPending error failed =>
      rw [Registry.stageAll, Registry.stageAll, if_neg isPending, if_neg isPending,
        resembles.stagePass, failed]
  | case3 pending staged isPending passed waiting isPass isShorter inductionHypothesis =>
      rw [Registry.stageAll, Registry.stageAll, if_neg isPending, if_neg isPending,
        resembles.stagePass, isPass]
      simp only [isShorter, if_true, inductionHypothesis]
  | case4 pending staged isPending passed waiting isPass isStuck =>
      rw [Registry.stageAll, Registry.stageAll, if_neg isPending, if_neg isPending,
        resembles.stagePass, isPass]
      simp only [isStuck, if_false]

theorem stageBases (id : TypeId) (bases : List TypeId) :
    right.stageBases id bases = left.stageBases id bases := by
  simp only [Registry.stageBases, resembles.descendants, resembles.linearize, resembles.stageAll]

end Reading

end Resembles

/-! ### Registries that are ahead -/

/-- Every type is some generations ahead, and other entries are kept. -/
def advance (registry : Registry) (ahead : TypeId → Nat) (entries : SlotCache) :
    Registry where
  definitions := registry.definitions.mapIdx fun id definition =>
    definition.inGeneration (definition.generation + ahead id)
  entries := entries
  linearizationLimit := registry.linearizationLimit

variable (registry : Registry) (ahead : TypeId → Nat) (entries : SlotCache)

theorem definition?_advance (id : TypeId) : (registry.advance ahead entries).definition? id =
    (registry.definition? id).map fun definition =>
      definition.inGeneration (definition.generation + ahead id) :=
  List.getElem?_mapIdx

theorem length_advance :
    (registry.advance ahead entries).definitions.length = registry.definitions.length :=
  List.length_mapIdx

theorem resembles_advance : Resembles registry (registry.advance ahead entries) := by
  refine ⟨fun id => ?_, rfl⟩
  rw [definition?_advance]
  cases registry.definition? id with
  | none => exact .none
  | some definition => exact .some ⟨_, rfl⟩

/-- A registry that is nothing ahead differs in its kept entries only. -/
theorem advance_zero : registry.advance (fun _ => 0) entries = { registry with entries := entries } := by
  have same : registry.definitions.mapIdx (fun _ definition =>
      definition.inGeneration (definition.generation + 0)) = registry.definitions := by
    refine List.ext_getElem? fun id => ?_
    rw [List.getElem?_mapIdx]
    cases registry.definitions[id]? <;> rfl
  rw [advance, same]

/-- A change of definitions moves along with the generation when it keeps every lead. -/
def MovesAlong (change : TypeDefinition → TypeDefinition) : Prop :=
  ∀ definition lead, change (definition.inGeneration (definition.generation + lead)) =
    (change definition).inGeneration ((change definition).generation + lead)

theorem update_advance {change : TypeDefinition → TypeDefinition} (moves : MovesAlong change)
    (id : TypeId) : (registry.advance ahead entries).update id change =
      (registry.update id change).advance ahead entries := by
  have same : (registry.advance ahead entries).definitions.modify id change =
      ((registry.definitions.modify id change).mapIdx fun id definition =>
        definition.inGeneration (definition.generation + ahead id)) := by
    refine List.ext_getElem? fun place => ?_
    rw [advance, List.getElem?_modify, List.getElem?_mapIdx, List.getElem?_mapIdx,
      List.getElem?_modify]
    cases registry.definitions[place]? with
    | none => rfl
    | some definition =>
        by_cases isHere : id = place
        · simpa [isHere] using moves definition (ahead place)
        · simp [isHere]
  rw [update, same]
  rfl

theorem foldl_update_advance {Item : Type} (items : List Item) (place : Item → TypeId)
    {change : Item → TypeDefinition → TypeDefinition} (moves : ∀ item, MovesAlong (change item)) :
    items.foldl (fun registry item => registry.update (place item) (change item))
        (registry.advance ahead entries) =
      (items.foldl (fun registry item => registry.update (place item) (change item))
        registry).advance ahead entries := by
  induction items generalizing registry with
  | nil => rfl
  | cons item rest inductionHypothesis =>
      rw [List.foldl_cons, List.foldl_cons, update_advance registry ahead entries (moves item)]
      exact inductionHypothesis (registry.update (place item) (change item))

/-- A new generation keeps every lead. -/
theorem movesAlong_renewal (change : TypeDefinition → TypeDefinition)
    (moves : MovesAlong change)
    (keeps : ∀ definition, (change definition).generation = definition.generation) :
    MovesAlong fun definition =>
      (change definition).inGeneration (definition.generation + 1) := by
  intro definition lead
  have moved := moves definition lead
  rw [keeps] at moved
  calc (change (definition.inGeneration (definition.generation + lead))).inGeneration
        (definition.generation + lead + 1)
    _ = (change definition).inGeneration (definition.generation + lead + 1) := by
        rw [moved]
        rfl
    _ = (change definition).inGeneration (definition.generation + 1 + lead) := by
        rw [Nat.add_right_comm]

theorem raiseFamily_advance (id : TypeId) :
    (registry.advance ahead entries).raiseFamily id =
      (registry.raiseFamily id).advance ahead entries := by
  simp only [raiseFamily, (resembles_advance registry ahead entries).descendants]
  exact foldl_update_advance registry ahead entries _ (fun id => id) fun _ =>
    movesAlong_renewal (fun definition => definition) (fun _ _ => rfl) fun _ => rfl

theorem changeAttributes_advance (id : TypeId) (name : String) (change : Namespace → Namespace) :
    (registry.advance ahead entries).changeAttributes id name change =
      (registry.changeAttributes id name change).advance ahead entries := by
  have moves : MovesAlong fun definition =>
      { definition with attributes := change definition.attributes } := fun _ _ => rfl
  simp only [changeAttributes, update_advance registry ahead entries moves]
  split
  · exact raiseFamily_advance (registry.update id _) ahead entries id
  · rfl

theorem moveSubclass_advance (id : TypeId) (old new : List TypeId) :
    (registry.advance ahead entries).moveSubclass id old new =
      (registry.moveSubclass id old new).advance ahead entries := by
  simp only [moveSubclass]
  rw [foldl_update_advance registry ahead entries old (fun base => base) fun _ _ _ => rfl]
  exact foldl_update_advance _ ahead entries new (fun base => base) fun _ _ _ => rfl

theorem publish_advance (staged : Staged) : (registry.advance ahead entries).publish staged =
    (registry.publish staged).advance ahead entries :=
  foldl_update_advance registry ahead entries staged.entries Prod.fst fun stagedType =>
    movesAlong_renewal (fun definition => { definition with linearization := stagedType.2 })
      (fun _ _ => rfl) fun _ => rfl

/-- A new type is nowhere ahead. -/
theorem append_advance (new : TypeDefinition) (isFresh : ahead registry.definitions.length = 0) :
    (registry.advance ahead entries).append new = (registry.append new).advance ahead entries := by
  have extended : (registry.advance ahead entries).definitions ++ [new] =
      (registry.definitions ++ [new]).mapIdx fun id definition =>
        definition.inGeneration (definition.generation + ahead id) := by
    rw [List.mapIdx_append]
    simp only [advance, List.mapIdx_singleton, Nat.zero_add, isFresh]
    rfl
  simp only [append, extended, length_advance]
  exact foldl_update_advance { registry with definitions := registry.definitions ++ [new] } ahead
    entries new.bases (fun base => base) fun _ _ _ => rfl

/-! ### Mutations -/

/-- A change of a registry moves along when it has the same outcome in every registry that is ahead,
and leaves it as far ahead, whatever entries are kept. -/
def Advances (change : Registry → Except Error Registry) : Prop :=
  ∀ registry ahead entries, change (advance registry ahead entries) =
    (fun next => next.advance ahead entries) <$> change registry

theorem require_advance_bind {Result : Type} (id : TypeId)
    (read : TypeDefinition → Except Error Result)
    (same : ∀ definition generation, read (definition.inGeneration generation) = read definition) :
    ((registry.advance ahead entries).require id >>= read) = registry.require id >>= read :=
  (resembles_advance registry ahead entries).require_bind id read same

theorem setAttribute_advances (id : TypeId) (name : String) (value : Value) :
    Advances fun registry => registry.setAttribute id name value := by
  intro registry ahead entries
  simp only [setAttribute, changeAttributes_advance, map_bind, map_pure]
  exact require_advance_bind registry ahead entries id _ fun _ _ => rfl

theorem deleteAttribute_advances (id : TypeId) (name : String) :
    Advances fun registry => registry.deleteAttribute id name := by
  intro registry ahead entries
  simp only [deleteAttribute, changeAttributes_advance, map_bind]
  rw [require_advance_bind registry ahead entries id _ fun _ _ => rfl]
  refine bind_congr fun definition => bind_congr fun _ => ?_
  split
  · rfl
  · rfl

theorem setBases_advances (id : TypeId) (bases : List TypeId) :
    Advances fun registry => registry.setBases id bases := by
  intro registry ahead entries
  have resembles := resembles_advance registry ahead entries
  simp only [setBases, resembles.validateBases, resembles.rejectCycles, resembles.stageBases,
    moveSubclass_advance, map_bind]
  rw [require_advance_bind registry ahead entries id _ fun _ _ => rfl]
  refine bind_congr fun definition => bind_congr fun _ => ?_
  split
  · rfl
  · simp only [map_bind, map_pure]
    refine bind_congr fun _ => bind_congr fun _ => bind_congr fun staged => ?_
    rw [← publish_advance, ← update_advance _ ahead entries fun _ _ => rfl]

theorem invalidate_advances (id : TypeId) : Advances fun registry => registry.invalidate id := by
  intro registry ahead entries
  simp only [invalidate, raiseFamily_advance, map_bind, map_pure]
  exact require_advance_bind registry ahead entries id _ fun _ _ => rfl

theorem newId_advance : (registry.advance ahead entries).newId = registry.newId := by
  rw [newId, newId, length_advance]

theorem createType_advance (name : String) (bases : List TypeId) (attributes : Namespace)
    (isFresh : ahead registry.definitions.length = 0) :
    (registry.advance ahead entries).createType name bases attributes =
      (fun created => (created.1, created.2.advance ahead entries)) <$>
        registry.createType name bases attributes := by
  have resembles := resembles_advance registry ahead entries
  simp only [createType, resembles.validateBases, resembles.linearize, newId_advance,
    append_advance registry ahead entries _ isFresh, map_bind, map_pure]

end Registry

end SlotDispatch
