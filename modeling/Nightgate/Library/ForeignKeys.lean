import Mathlib.Data.List.Basic

/-!
# Rows that refer to a key

The rows of a child table name the key of the row they belong to. A statement deletes the rows
of some keys, replaces the rows of one key or changes rows in place. Deleting the rows of a set of
keys absorbs what was written for those keys before, and commutes with what was written for the
others.
-/

namespace Nightgate.Library

section References

variable {Row Key : Type*} (owner : Row → Key)

/-- Every row belongs to one of the keys. -/
def RefersTo (keys : List Key) (rows : List Row) : Prop :=
  ∀ row ∈ rows, owner row ∈ keys

variable {owner} {keys other : List Key} {rows : List Row}

theorem RefersTo.map {change : Row → Row} (refers : RefersTo owner keys rows)
    (keeps : ∀ row, owner (change row) = owner row) : RefersTo owner keys (rows.map change) := by
  intro row stored
  rcases List.mem_map.mp stored with ⟨source, listed, rfl⟩
  exact keeps source ▸ refers source listed

theorem RefersTo.append {first second : List Row} (left : RefersTo owner keys first)
    (right : RefersTo owner keys second) : RefersTo owner keys (first ++ second) := by
  intro row stored
  rcases List.mem_append.mp stored with old | new
  · exact left row old
  · exact right row new

theorem RefersTo.mono (refers : RefersTo owner keys rows) (more : keys ⊆ other) :
    RefersTo owner other rows :=
  fun row stored => more (refers row stored)

end References

section Rows

variable {Row Key : Type*} [DecidableEq Key] (owner : Row → Key)

/-- `DELETE … WHERE owner IN (…)`. -/
def deleteOf (gone : List Key) (rows : List Row) : List Row :=
  rows.filter fun row => owner row ∉ gone

/-- `DELETE … WHERE owner = key`, then `INSERT`. -/
def replaceOf (key : Key) (new rows : List Row) : List Row :=
  deleteOf owner [key] rows ++ new

/-- `UPDATE … WHERE owner = key`. -/
def updateOf (key : Key) (change : Row → Row) (rows : List Row) : List Row :=
  rows.map fun row => if owner row = key then change row else row

variable {owner} {gone other keys : List Key} {key : Key} {new rows : List Row}

theorem mem_deleteOf {row : Row} :
    row ∈ deleteOf owner gone rows ↔ row ∈ rows ∧ owner row ∉ gone := by
  simp [deleteOf]

@[simp] theorem deleteOf_append (first second : List Row) :
    deleteOf owner gone (first ++ second) =
      deleteOf owner gone first ++ deleteOf owner gone second :=
  List.filter_append ..

theorem deleteOf_congr (same : ∀ row ∈ rows, owner row ∈ gone ↔ owner row ∈ other) :
    deleteOf owner gone rows = deleteOf owner other rows := by
  apply List.filter_congr
  intro row stored
  simp only [same row stored]

/-- Nothing is deleted when no row belongs to the keys. -/
theorem deleteOf_eq_self (none : ∀ row ∈ rows, owner row ∉ gone) :
    deleteOf owner gone rows = rows := by
  rw [deleteOf, List.filter_eq_self]
  exact fun row stored => decide_eq_true (none row stored)

/-- Everything is deleted when every row belongs to the keys. -/
theorem deleteOf_eq_nil (all : ∀ row ∈ rows, owner row ∈ gone) :
    deleteOf owner gone rows = [] := by
  rw [deleteOf, List.filter_eq_nil_iff]
  exact fun row stored => by simpa using all row stored

theorem deleteOf_comm {Part : Type*} [DecidableEq Part] {part : Row → Part} {parts : List Part} :
    deleteOf owner gone (deleteOf part parts rows) =
      deleteOf part parts (deleteOf owner gone rows) := by
  simp only [deleteOf, List.filter_filter, Bool.and_comm]

/-- Rows deleted before that are deleted anyway. -/
theorem deleteOf_deleteOf {Part : Type*} [DecidableEq Part] {part : Row → Part}
    {parts : List Part} (fewer : ∀ row, part row ∈ parts → owner row ∈ gone) :
    deleteOf owner gone (deleteOf part parts rows) = deleteOf owner gone rows := by
  rw [deleteOf, deleteOf, List.filter_filter, deleteOf]
  apply List.filter_congr
  intro row _
  by_cases removed : owner row ∈ gone
  · simp [removed]
  · have outside : part row ∉ parts := fun listed => removed (fewer row listed)
    simp [removed, outside]

/-- A change in place that keeps the owners commutes with a deletion. -/
theorem deleteOf_map {change : Row → Row} (keeps : ∀ row, owner (change row) = owner row) :
    deleteOf owner gone (rows.map change) = (deleteOf owner gone rows).map change := by
  simp only [deleteOf, List.filter_map, Function.comp_def, keeps]

/-- A change of rows that are deleted afterwards does not matter. -/
theorem deleteOf_map_gone {change : Row → Row} (keeps : ∀ row, owner (change row) = owner row)
    (others : ∀ row ∈ rows, owner row ∉ gone → change row = row) :
    deleteOf owner gone (rows.map change) = deleteOf owner gone rows := by
  rw [deleteOf_map keeps]
  have unchanged : ∀ row ∈ deleteOf owner gone rows, change row = id row := by
    intro row kept
    exact others row (mem_deleteOf.mp kept).1 (mem_deleteOf.mp kept).2
  rw [List.map_congr_left unchanged, List.map_id]

section Replace

variable {Part : Type*} [DecidableEq Part] {part : Row → Part} {name : Part}
variable (owned : ∀ row ∈ new, owner row = key)

include owned

theorem deleteOf_replaceOf_kept (kept : key ∉ gone) :
    deleteOf owner gone (replaceOf part name new rows) =
      replaceOf part name new (deleteOf owner gone rows) := by
  have stays : deleteOf owner gone new = new :=
    deleteOf_eq_self fun row stored => owned row stored ▸ kept
  rw [replaceOf, deleteOf_append, stays, deleteOf_comm, replaceOf]

theorem deleteOf_replaceOf_gone (named : ∀ row, part row = name → owner row = key)
    (removed : key ∈ gone) :
    deleteOf owner gone (replaceOf part name new rows) = deleteOf owner gone rows := by
  have goes : deleteOf owner gone new = [] :=
    deleteOf_eq_nil fun row stored => owned row stored ▸ removed
  rw [replaceOf, deleteOf_append, goes, List.append_nil]
  apply deleteOf_deleteOf
  intro row listed
  rw [named row (List.mem_singleton.mp listed)]
  exact removed

end Replace

omit [DecidableEq Key] in
theorem RefersTo.replaceOf {Part : Type*} [DecidableEq Part] {part : Row → Part} {name : Part}
    (refers : RefersTo owner keys rows) (added : RefersTo owner keys new) :
    RefersTo owner keys (replaceOf part name new rows) := by
  intro row stored
  rcases List.mem_append.mp stored with old | inserted
  · exact refers row (mem_deleteOf.mp old).1
  · exact added row inserted

section Update

variable {change : Row → Row} (keeps : ∀ row, owner (change row) = owner row)

include keeps

theorem owner_updateOf (row : Row) :
    owner (if owner row = key then change row else row) = owner row := by
  split
  · exact keeps row
  · rfl

/-- The keys of the rows stay. -/
theorem map_updateOf : (updateOf owner key change rows).map owner = rows.map owner := by
  rw [updateOf, List.map_map]
  exact List.map_congr_left fun row _ => owner_updateOf keeps row

end Update

/-- The rows left refer to the keys left. -/
theorem RefersTo.deleteOf (refers : RefersTo owner keys rows)
    (left : ∀ key ∈ keys, key ∉ gone → key ∈ other) :
    RefersTo owner other (deleteOf owner gone rows) := by
  intro row stored
  rcases mem_deleteOf.mp stored with ⟨listed, kept⟩
  exact left _ (refers row listed) kept

omit [DecidableEq Key] in
/-- Rows of new keys beside those of the keys before. -/
theorem RefersTo.insert {fresh : List Key} (old : RefersTo owner keys rows)
    (added : RefersTo owner fresh new) : RefersTo owner (keys ++ fresh) (rows ++ new) :=
  (old.mono (List.subset_append_left ..)).append (added.mono (List.subset_append_right ..))

omit [DecidableEq Key] in
/-- Rows that are made for one key. -/
theorem refersTo_map {Item : Type*} {items : List Item} {row : Item → Row}
    (own : ∀ item, owner (row item) = key) (known : items ≠ [] → key ∈ keys) :
    RefersTo owner keys (items.map row) := by
  intro made listed
  obtain ⟨item, isItem, rfl⟩ := List.mem_map.mp listed
  rw [own item]
  exact known (List.ne_nil_of_mem isItem)

section Parents

variable {Parent ParentKey : Type*} {parents : List Parent} {ID : Parent → ParentKey}
  (parentOwner : Parent → Key) (via : ParentKey → Key)
  (same : ∀ parent, via (ID parent) = parentOwner parent)

include same

omit [DecidableEq Key] in
/-- Rows that refer to others refer to what those refer to. -/
theorem RefersTo.trans {parentKey : Row → ParentKey}
    (refers : RefersTo parentKey (parents.map ID) rows)
    (known : RefersTo parentOwner keys parents) :
    RefersTo (fun row => via (parentKey row)) keys rows := by
  intro row stored
  obtain ⟨parent, isParent, isKey⟩ := List.mem_map.mp (refers row stored)
  show via (parentKey row) ∈ keys
  rw [← isKey, same]
  exact known parent isParent

/-- A stored parent is one of those removed if its own parent is. -/
theorem mem_map_removed {parentKey : ParentKey} (known : parentKey ∈ parents.map ID) :
    parentKey ∈ (parents.filter fun parent => parentOwner parent ∈ gone).map ID ↔
      via parentKey ∈ gone := by
  constructor
  · intro removed
    obtain ⟨parent, listed, rfl⟩ := List.mem_map.mp removed
    rw [same]
    exact of_decide_eq_true (List.mem_filter.mp listed).2
  · intro removed
    obtain ⟨parent, stored, rfl⟩ := List.mem_map.mp known
    rw [same] at removed
    exact List.mem_map_of_mem (List.mem_filter.mpr ⟨stored, decide_eq_true removed⟩)

end Parents

/-- Rows of new keys go with their keys, and the rows before them as they would without. -/
theorem deleteOf_new {fresh : List Key} (old : RefersTo owner keys rows)
    (added : RefersTo owner fresh new) (disjoint : ∀ key ∈ keys, key ∉ fresh) :
    deleteOf owner (gone ++ fresh) (rows ++ new) = deleteOf owner gone rows := by
  have goes : deleteOf owner (gone ++ fresh) new = [] :=
    deleteOf_eq_nil fun row listed => List.mem_append_right _ (added row listed)
  rw [deleteOf_append, goes, List.append_nil]
  apply deleteOf_congr
  intro row stored
  rw [List.mem_append, or_iff_left (disjoint _ (old row stored))]

end Rows

/-! ## Writes for one key -/

section ActsOn

variable {State Key : Type*} (cut : List Key → State → State)

/-- A write that only concerns the rows of a key: a deletion of that key's rows absorbs it, and
it commutes with the deletion of other keys' rows. -/
structure ActsOn (key : Key) (write : State → State) : Prop where
  gone : ∀ state gone, key ∈ gone → cut gone (write state) = cut gone state
  kept : ∀ state gone, key ∉ gone → cut gone (write state) = write (cut gone state)

variable {cut} {key : Key}

theorem ActsOn.id : ActsOn cut key (fun state => state) where
  gone _ _ _ := rfl
  kept _ _ _ := rfl

theorem ActsOn.comp {first second : State → State} (left : ActsOn cut key first)
    (right : ActsOn cut key second) : ActsOn cut key (fun state => second (first state)) where
  gone state gone removed := by rw [right.gone _ _ removed, left.gone _ _ removed]
  kept state gone kept := by rw [right.kept _ _ kept, left.kept _ _ kept]

theorem ActsOn.foldl {Item : Type*} {write : State → Item → State} {items : List Item}
    (each : ∀ item ∈ items, ActsOn cut key fun state => write state item) :
    ActsOn cut key fun state => items.foldl write state := by
  induction items with
  | nil => exact .id
  | cons item rest ih =>
    rcases List.forall_mem_cons.mp each with ⟨now, later⟩
    exact now.comp (ih later)

/-- A write that is one of several, by what it reads of the key's own rows. -/
theorem ActsOn.choosing {Read : Type*} {write : State → State} (read : State → Read)
    (own : ∀ state gone, key ∉ gone → read (cut gone state) = read state)
    (each : ∀ state, ∃ chosen, ActsOn cut key chosen ∧
      ∀ other, read other = read state → write other = chosen other) : ActsOn cut key write where
  gone state gone removed := by
    rcases each state with ⟨chosen, acts, same⟩
    rw [same state rfl, acts.gone state gone removed]
  kept state gone kept := by
    rcases each state with ⟨chosen, acts, same⟩
    rw [same state rfl, same _ (own state gone kept), acts.kept state gone kept]

/-- A write chosen by what it reads of the key's own rows. -/
theorem ActsOn.reading {Read : Type*} (read : State → Read) (write : Read → State → State)
    (own : ∀ state gone, key ∉ gone → read (cut gone state) = read state)
    (each : ∀ state, ActsOn cut key (write (read state))) :
    ActsOn cut key fun state => write (read state) state :=
  .choosing read own fun state => ⟨_, each state, fun other same => by rw [same]⟩

/-- A change in place that leaves the rows of other keys alone. -/
theorem ActsOn.map {Row : Type*} [DecidableEq Key] {owner : Row → Key} {change : Row → Row}
    (keeps : ∀ row, owner (change row) = owner row)
    (others : ∀ row, owner row ≠ key → change row = row) :
    ActsOn (deleteOf owner) key (List.map change) where
  gone _ _ removed := deleteOf_map_gone keeps fun row _ kept =>
    others row fun same => kept (same ▸ removed)
  kept _ _ _ := deleteOf_map keeps

theorem ActsOn.updateOf {Row : Type*} [DecidableEq Key] {owner : Row → Key}
    {change : Row → Row} (keeps : ∀ row, owner (change row) = owner row) :
    ActsOn (deleteOf owner) key (updateOf owner key change) :=
  .map (owner_updateOf keeps) fun _ other => if_neg other

/-- The rows replaced can be some of the key's rows only. -/
theorem ActsOn.replaceOf {Row Part : Type*} [DecidableEq Key] [DecidableEq Part] {owner : Row → Key}
    {part : Row → Part} {name : Part} {new : List Row} (owned : ∀ row ∈ new, owner row = key)
    (named : ∀ row, part row = name → owner row = key) :
    ActsOn (deleteOf owner) key (replaceOf part name new) where
  gone _ _ removed := deleteOf_replaceOf_gone owned named removed
  kept _ _ kept := deleteOf_replaceOf_kept owned kept

/-- One table of a state whose rows name the key they belong to. -/
structure ChildTable [DecidableEq Key] (cut : List Key → State → State) (Row : Type*) where
  owner : Row → Key
  rows : State → List Row
  put : List Row → State → State
  put_rows : ∀ state, put (rows state) state = state := by intros; rfl
  rows_cut : ∀ gone state, rows (cut gone state) = deleteOf owner gone (rows state) := by
    intros; rfl
  cut_put : ∀ gone listed state,
    cut gone (put listed state) = put (deleteOf owner gone listed) (cut gone state) := by
    intros; rfl

/-- A write to one table for a key, as a write to the state. -/
theorem ActsOn.onTable {Row : Type*} [DecidableEq Key] (table : ChildTable cut Row)
    {write : List Row → List Row} (acts : ActsOn (deleteOf table.owner) key write) :
    ActsOn cut key fun state => table.put (write (table.rows state)) state where
  gone state gone removed := by
    rw [table.cut_put, acts.gone _ _ removed, ← table.cut_put, table.put_rows]
  kept state gone kept := by
    rw [table.cut_put, acts.kept _ _ kept, table.rows_cut]

end ActsOn

end Nightgate.Library
