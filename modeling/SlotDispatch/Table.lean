/-!
A table maps keys to values and holds each key at most once. The main statements say what a reading
returns after an insertion and after a removal.
-/

namespace SlotDispatch

/-- A table lists its entries, and a reading takes the first entry of the key. -/
structure Table (Key Content : Type) where
  entries : List (Key × Content)

namespace Table

variable {Key Content : Type} [DecidableEq Key]

/-- The empty table has no entry. -/
def empty : Table Key Content := ⟨[]⟩

instance : Inhabited (Table Key Content) := ⟨empty⟩

/-- This is the content under the key, if the table has the key. -/
def get? (table : Table Key Content) (key : Key) : Option Content :=
  (table.entries.find? fun entry => entry.1 = key).map Prod.snd

/-- This test tells whether the table has the key. -/
def contains (table : Table Key Content) (key : Key) : Bool :=
  (table.get? key).isSome

/-- A removal leaves the entries of all other keys. -/
def erase (table : Table Key Content) (key : Key) : Table Key Content :=
  ⟨table.entries.filter fun entry => entry.1 ≠ key⟩

/-- An insertion replaces the entry of the key, or adds one at the end. -/
def insert (table : Table Key Content) (key : Key) (content : Content) : Table Key Content :=
  ⟨(table.erase key).entries ++ [(key, content)]⟩

/-- This table is filled from a list, where a later pair replaces an earlier pair of its key. -/
def ofList (pairs : List (Key × Content)) : Table Key Content :=
  pairs.foldl (fun table pair => table.insert pair.1 pair.2) empty

@[simp] theorem get?_empty (key : Key) : (empty : Table Key Content).get? key = none := rfl

theorem get?_erase (table : Table Key Content) (removed key : Key) :
    (table.erase removed).get? key = if key = removed then none else table.get? key := by
  simp only [get?, erase]
  rw [List.find?_filter]
  by_cases same : key = removed
  · subst same
    simp
  · simp only [same, if_false]
    congr 2
    funext entry
    by_cases isKey : entry.1 = key <;> simp_all

theorem get?_insert (table : Table Key Content) (inserted key : Key) (content : Content) :
    (table.insert inserted content).get? key =
      if key = inserted then some content else table.get? key := by
  have erased := get?_erase table inserted key
  simp only [get?] at erased
  simp only [get?, insert, List.find?_append, Option.map_or, erased]
  by_cases same : key = inserted
  · simp [same]
  · have different : inserted ≠ key := fun equal => same equal.symm
    simp [same, different]

@[simp] theorem get?_insert_self (table : Table Key Content) (key : Key) (content : Content) :
    (table.insert key content).get? key = some content := by
  simp [get?_insert]

end Table

end SlotDispatch
