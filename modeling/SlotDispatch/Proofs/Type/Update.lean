import Mathlib.Data.List.Nodup
import SlotDispatch.Type.Mutation
/-!
The definitions of a registry after updates. The main statements say, for every type, which
definition it has after an update, an addition of a type, a new generation of some types, a move
between subclass lists, and a publication of linearizations.
-/

namespace SlotDispatch

namespace Table

variable {Key Content : Type}

/-- A table is unambiguous when it lists every key once. -/
def Unambiguous (table : Table Key Content) : Prop :=
  (table.entries.map Prod.fst).Nodup

theorem unambiguous_empty : (empty : Table Key Content).Unambiguous := List.nodup_nil

variable [DecidableEq Key]

theorem unambiguous_insert {table : Table Key Content} (unambiguous : table.Unambiguous) (key : Key)
    (content : Content) : (table.insert key content).Unambiguous := by
  simp only [Unambiguous, insert, erase, List.map_append, List.map_cons, List.map_nil]
  rw [List.nodup_append]
  refine ⟨List.Nodup.sublist (List.filter_sublist.map _) unambiguous, List.nodup_singleton _, ?_⟩
  intro first isFirst second isSecond
  obtain ⟨entry, isEntry, rfl⟩ := List.mem_map.1 isFirst
  rw [List.mem_singleton.1 isSecond]
  simpa using (List.mem_filter.1 isEntry).2

/-- The later of two insertions under a key counts. -/
theorem insert_insert (table : Table Key Content) (key : Key) (first second : Content) :
    (table.insert key first).insert key second = table.insert key second := by
  simp [insert, erase]

theorem contains_insert (table : Table Key Content) (inserted key : Key) (content : Content) :
    (table.insert inserted content).contains key =
      (decide (key = inserted) || table.contains key) := by
  simp only [contains, get?_insert]
  by_cases same : key = inserted <;> simp [same]

end Table

theorem mem_replicate_count {Item : Type} [DecidableEq Item] (items : List Item)
    (item copied other : Item) :
    other ∈ List.replicate (items.count item) copied ↔ other = copied ∧ item ∈ items := by
  rw [List.mem_replicate, and_comm, ← List.count_pos_iff, Nat.pos_iff_ne_zero]

/-- Two computations in sequence succeed when both of them succeed. -/
theorem bind_eq_ok_iff {First Second : Type} {first : Except Error First}
    {second : First → Except Error Second} {result : Second} :
    (first >>= second) = .ok result ↔ ∃ middle, first = .ok middle ∧ second middle = .ok result := by
  cases first with
  | error error => simp [bind, Except.bind]
  | ok middle => simp [bind, Except.bind]

namespace Registry

variable {registry : Registry}

theorem require_eq_ok_iff {id : TypeId} {definition : TypeDefinition} :
    registry.require id = .ok definition ↔ registry.definition? id = some definition := by
  simp only [require]
  cases registry.definition? id <;> simp

theorem definition?_isSome_iff {id : TypeId} :
    (∃ definition, registry.definition? id = some definition) ↔
      id < registry.definitions.length := by
  rw [← Option.isSome_iff_exists]
  simp [definition?]

theorem lt_length_of_definition? {id : TypeId} {definition : TypeDefinition}
    (found : registry.definition? id = some definition) : id < registry.definitions.length :=
  definition?_isSome_iff.1 ⟨definition, found⟩

@[simp] theorem linearizationOf_of_definition? {id : TypeId} {definition : TypeDefinition}
    (found : registry.definition? id = some definition) :
    registry.linearizationOf id = definition.linearization := by
  simp [linearizationOf, found]

theorem definition?_of_mem_linearizationOf {id ancestor : TypeId}
    (isAncestor : ancestor ∈ registry.linearizationOf id) :
    ∃ definition, registry.definition? id = some definition ∧
      ancestor ∈ definition.linearization := by
  cases found : registry.definition? id with
  | none => simp [linearizationOf, found] at isAncestor
  | some definition => exact ⟨definition, rfl, by simpa [linearizationOf, found] using isAncestor⟩

/-! ### Updates of several types -/

theorem definition?_update (registry : Registry) (id other : TypeId)
    (change : TypeDefinition → TypeDefinition) :
    (registry.update id change).definition? other =
      (registry.definition? other).map fun definition =>
        if id = other then change definition else definition := by
  simp [update, definition?, List.getElem?_modify]

/-- A registry differs from another one in its definitions only, and has as many of them. -/
structure SameFrame (before after : Registry) : Prop where
  entries : after.entries = before.entries
  limit : after.linearizationLimit = before.linearizationLimit
  length : after.definitions.length = before.definitions.length

theorem SameFrame.refl (registry : Registry) : SameFrame registry registry := ⟨rfl, rfl, rfl⟩

theorem SameFrame.symm {before after : Registry} (same : SameFrame before after) :
    SameFrame after before :=
  ⟨same.entries.symm, same.limit.symm, same.length.symm⟩

theorem SameFrame.trans {first second third : Registry} (left : SameFrame first second)
    (right : SameFrame second third) : SameFrame first third :=
  ⟨right.entries.trans left.entries, right.limit.trans left.limit,
    right.length.trans left.length⟩

theorem sameFrame_update (registry : Registry) (id : TypeId)
    (change : TypeDefinition → TypeDefinition) : SameFrame registry (registry.update id change) :=
  ⟨rfl, rfl, by simp [update]⟩

section Fold

variable {Item : Type} (items : List Item) (place : Item → TypeId)
  (change : Item → TypeDefinition → TypeDefinition)

/-- A sequence of updates changes a definition by those updates that are made at its type. -/
theorem definition?_foldl_update (registry : Registry) (other : TypeId) :
    (items.foldl (fun registry item => registry.update (place item) (change item))
        registry).definition? other =
      (registry.definition? other).map fun definition =>
        items.foldl
          (fun definition item => if place item = other then change item definition else definition)
          definition := by
  induction items generalizing registry with
  | nil => simp
  | cons item rest inductionHypothesis =>
      simp only [List.foldl_cons, inductionHypothesis, definition?_update, Option.map_map]
      rfl

theorem sameFrame_foldl_update (registry : Registry) :
    SameFrame registry
      (items.foldl (fun registry item => registry.update (place item) (change item)) registry) := by
  induction items generalizing registry with
  | nil => exact .refl registry
  | cons item rest inductionHypothesis =>
      exact (sameFrame_update registry _ _).trans (inductionHypothesis _)

end Fold

/-! ### New generations -/

/-- A type begins as many new generations as it is listed. -/
theorem definition?_raiseGenerations (registry : Registry) (ids : List TypeId) (other : TypeId) :
    (registry.raiseGenerations ids).definition? other =
      (registry.definition? other).map fun definition =>
        { definition with generation := definition.generation + ids.count other } := by
  rw [raiseGenerations, definition?_foldl_update ids (fun id => id) fun _ definition =>
    { definition with generation := definition.generation + 1 }]
  congr 1
  funext definition
  induction ids generalizing definition with
  | nil => rfl
  | cons first rest inductionHypothesis =>
      rw [List.foldl_cons, inductionHypothesis]
      by_cases same : first = other
      · simp [same, Nat.add_assoc, Nat.add_comm 1]
      · simp [same]

theorem sameFrame_raiseGenerations (registry : Registry) (ids : List TypeId) :
    SameFrame registry (registry.raiseGenerations ids) :=
  sameFrame_foldl_update ids (fun id => id) _ registry

/-! ### Subclass lists -/

/-- A type joins the subclasses of every listed base. -/
def joinSubclasses (id : TypeId) (bases : List TypeId) (registry : Registry) : Registry :=
  bases.foldl
    (fun registry base =>
      registry.update base fun definition =>
        { definition with subclasses := definition.subclasses ++ [id] })
    registry

theorem definition?_joinSubclasses (registry : Registry) (id : TypeId) (bases : List TypeId)
    (other : TypeId) :
    (registry.joinSubclasses id bases).definition? other =
      (registry.definition? other).map fun definition =>
        { definition with
          subclasses := definition.subclasses ++ List.replicate (bases.count other) id } := by
  rw [joinSubclasses, definition?_foldl_update bases (fun base => base) fun _ definition =>
    { definition with subclasses := definition.subclasses ++ [id] }]
  congr 1
  funext definition
  induction bases generalizing definition with
  | nil => simp
  | cons first rest inductionHypothesis =>
      rw [List.foldl_cons, inductionHypothesis]
      by_cases same : first = other
      · simp [same, List.replicate_succ]
      · simp [same]

theorem sameFrame_joinSubclasses (registry : Registry) (id : TypeId) (bases : List TypeId) :
    SameFrame registry (registry.joinSubclasses id bases) :=
  sameFrame_foldl_update bases (fun base => base) _ registry

/-- A type leaves the subclasses of its old bases before it joins those of its new bases. -/
theorem definition?_moveSubclass (registry : Registry) (id : TypeId) (old new : List TypeId)
    (other : TypeId) :
    (registry.moveSubclass id old new).definition? other =
      (registry.definition? other).map fun definition =>
        { definition with
          subclasses :=
            (if other ∈ old then definition.subclasses.filter fun subclass => subclass ≠ id
              else definition.subclasses) ++ List.replicate (new.count other) id } := by
  have left : ∀ definition : TypeDefinition,
      old.foldl (fun definition base =>
          if base = other then
            { definition with subclasses := definition.subclasses.filter fun subclass => subclass ≠ id }
          else definition) definition =
        { definition with
          subclasses := if other ∈ old then definition.subclasses.filter fun subclass => subclass ≠ id
            else definition.subclasses } := by
    intro definition
    induction old generalizing definition with
    | nil => rfl
    | cons first rest inductionHypothesis =>
        rw [List.foldl_cons, inductionHypothesis]
        by_cases same : first = other
        · simp [same]
        · have different : other ≠ first := fun equal => same equal.symm
          simp [same, different]
  change (joinSubclasses id new _).definition? other = _
  rw [definition?_joinSubclasses,
    definition?_foldl_update old (fun base => base) fun _ definition =>
      { definition with subclasses := definition.subclasses.filter fun subclass => subclass ≠ id },
    Option.map_map]
  congr 1
  funext definition
  simp only [Function.comp_apply, left]

theorem sameFrame_moveSubclass (registry : Registry) (id : TypeId) (old new : List TypeId) :
    SameFrame registry (registry.moveSubclass id old new) :=
  (sameFrame_foldl_update old (fun base => base) _ registry).trans
    (sameFrame_joinSubclasses _ id new)

/-! ### New types -/

/-- A new type comes after all others, and every other type may get it as a subclass. -/
theorem definition?_append (registry : Registry) (new : TypeDefinition) (other : TypeId) :
    (registry.append new).definition? other =
      if other = registry.definitions.length then
        some { new with
          subclasses := new.subclasses ++ List.replicate (new.bases.count other) other }
      else
        (registry.definition? other).map fun definition =>
          { definition with
            subclasses := definition.subclasses ++
              List.replicate (new.bases.count other) registry.definitions.length } := by
  change (joinSubclasses registry.definitions.length new.bases
    { registry with definitions := registry.definitions ++ [new] }).definition? other = _
  rw [definition?_joinSubclasses]
  by_cases isNew : other = registry.definitions.length
  · subst isNew
    simp [definition?]
  · simp only [definition?, isNew, if_false]
    congr 1
    rcases Nat.lt_or_gt_of_ne isNew with isOld | isBeyond
    · exact List.getElem?_append_left isOld
    · rw [List.getElem?_eq_none (Nat.le_of_lt isBeyond)]
      exact List.getElem?_eq_none (by simpa using Nat.succ_le_of_lt isBeyond)

theorem entries_append (registry : Registry) (new : TypeDefinition) :
    (registry.append new).entries = registry.entries :=
  (sameFrame_joinSubclasses { registry with definitions := registry.definitions ++ [new] }
    registry.definitions.length new.bases).entries

theorem linearizationLimit_append (registry : Registry) (new : TypeDefinition) :
    (registry.append new).linearizationLimit = registry.linearizationLimit :=
  (sameFrame_joinSubclasses { registry with definitions := registry.definitions ++ [new] }
    registry.definitions.length new.bases).limit

theorem length_append (registry : Registry) (new : TypeDefinition) :
    (registry.append new).definitions.length = registry.definitions.length + 1 := by
  have same := (sameFrame_joinSubclasses { registry with definitions := registry.definitions ++ [new] }
    registry.definitions.length new.bases).length
  exact same.trans (by simp)

/-! ### Published linearizations -/

/-- A definition is changed once by the entry of its type, if a table that lists every type once has
one. -/
theorem foldl_staged {staged : Staged} (unambiguous : staged.Unambiguous)
    (change : TypeId × List TypeId → TypeDefinition → TypeDefinition) (other : TypeId)
    (definition : TypeDefinition) :
    staged.entries.foldl
        (fun definition entry => if entry.1 = other then change entry definition else definition)
        definition =
      match staged.get? other with
      | none => definition
      | some linearization => change (other, linearization) definition := by
  obtain ⟨entries⟩ := staged
  simp only [Table.get?, Table.Unambiguous] at unambiguous ⊢
  induction entries generalizing definition with
  | nil => rfl
  | cons first rest inductionHypothesis =>
      obtain ⟨notLater, restUnambiguous⟩ := List.nodup_cons.1 unambiguous
      rw [List.foldl_cons, inductionHypothesis _ restUnambiguous, List.find?_cons]
      by_cases same : first.1 = other
      · have absent : (rest.find? fun entry => entry.1 = other) = none := by
          refine List.find?_eq_none.2 fun entry isEntry isKey => notLater ?_
          have sameKey : entry.1 = first.1 := by simpa [same] using isKey
          exact sameKey ▸ List.mem_map_of_mem isEntry
        have isEntry : (other, first.2) = first := Prod.ext same.symm rfl
        simp [same, absent, isEntry]
      · simp [same]

/-- A staged type gets its staged linearization and begins a new generation. -/
theorem definition?_publish (registry : Registry) {staged : Staged}
    (unambiguous : staged.Unambiguous) (other : TypeId) :
    (registry.publish staged).definition? other =
      (registry.definition? other).map fun definition =>
        match staged.get? other with
        | none => definition
        | some linearization =>
            { definition with
              linearization := linearization
              generation := definition.generation + 1 } := by
  rw [publish, definition?_foldl_update staged.entries Prod.fst fun stagedType definition =>
    { definition with
      linearization := stagedType.2
      generation := definition.generation + 1 }]
  congr 1
  funext definition
  exact foldl_staged unambiguous _ other definition

theorem sameFrame_publish (registry : Registry) (staged : Staged) :
    SameFrame registry (registry.publish staged) :=
  sameFrame_foldl_update staged.entries Prod.fst _ registry

end Registry

end SlotDispatch
