import Mathlib.Data.List.Basic

/-!
# Tables of a relational database

A row gives each column name a value, and NULL to the names that are no column of its table. An
update computes every row anew; what it gives to other names is dropped.
-/

namespace Nightgate.Library

inductive SqlValue where
  | null
  | integer (value : Int)
  /-- A REAL, by the bits of its double. -/
  | real (bits : UInt64)
  | text (value : String)
  | blob (bytes : List Nat)
  deriving DecidableEq

abbrev SqlRow : Type := String → SqlValue

/-- A column, as the database describes it. -/
structure TableColumn where
  name : String
  notnull : Bool
  pk : Bool

structure StoredTable where
  columns : List TableColumn
  uniqueKeys : List (List String)
  rows : List SqlRow
  blank : ∀ row ∈ rows, ∀ name, name ∉ columns.map TableColumn.name → row name = .null

/-- The part of a row that belongs to some columns. -/
def SqlRow.within (row : SqlRow) (names : List String) : SqlRow :=
  fun name => if name ∈ names then row name else .null

theorem SqlRow.within_of_mem {row : SqlRow} {names : List String} {name : String}
    (listed : name ∈ names) : row.within names name = row name :=
  if_pos listed

theorem SqlRow.within_of_not_mem {row : SqlRow} {names : List String} {name : String}
    (missing : name ∉ names) : row.within names name = .null :=
  if_neg missing

/-- A row that is NULL outside the columns belongs to them. -/
theorem SqlRow.within_eq_self {row : SqlRow} {names : List String}
    (blank : ∀ name, name ∉ names → row name = .null) : row.within names = row := by
  funext name
  by_cases listed : name ∈ names
  · exact within_of_mem listed
  · rw [within_of_not_mem listed, blank name listed]

namespace StoredTable

def names (table : StoredTable) : List String := table.columns.map TableColumn.name

def column? (table : StoredTable) (name : String) : Option TableColumn :=
  table.columns.find? fun column => column.name = name

/-- Columns, keys and rows that may have values beside the columns. -/
def ofRows (columns : List TableColumn) (uniqueKeys : List (List String)) (rows : List SqlRow) :
    StoredTable where
  columns := columns
  uniqueKeys := uniqueKeys
  rows := rows.map fun row => row.within (columns.map TableColumn.name)
  blank := by
    intro row listed name missing
    rcases List.mem_map.1 listed with ⟨other, _, rfl⟩
    exact SqlRow.within_of_not_mem missing

def update (table : StoredTable) (change : SqlRow → SqlRow) : StoredTable :=
  ofRows table.columns table.uniqueKeys (table.rows.map change)

/-- `DELETE FROM` without a condition. -/
def clear (table : StoredTable) : StoredTable := ofRows table.columns table.uniqueKeys []

/-- What the rows of a table have to meet. -/
def schema (table : StoredTable) : List TableColumn × List (List String) :=
  (table.columns, table.uniqueKeys)

variable {table : StoredTable} {change : SqlRow → SqlRow}

theorem blank_of_not_mem {row : SqlRow} (stored : row ∈ table.rows) {name : String}
    (missing : name ∉ table.names) : row name = .null :=
  table.blank row stored name missing

theorem rows_update :
    (table.update change).rows = table.rows.map fun row => (change row).within table.names := by
  show (table.rows.map change).map _ = _
  rw [List.map_map]
  rfl

/-- An update that changes no row. -/
theorem rows_update_eq_self (same : ∀ row ∈ table.rows, change row = row) :
    (table.update change).rows = table.rows := by
  rw [rows_update]
  have unchanged : ∀ row ∈ table.rows, (change row).within table.names = id row := by
    intro row stored
    rw [same row stored]
    exact SqlRow.within_eq_self fun name missing => blank_of_not_mem stored missing
  rw [List.map_congr_left unchanged, List.map_id]

theorem column?_isSome_iff {name : String} :
    (table.column? name).isSome ↔ name ∈ table.names := by
  unfold column? names
  rw [List.find?_isSome, List.mem_map]
  constructor
  · intro found
    rcases found with ⟨column, listed, named⟩
    exact ⟨column, listed, of_decide_eq_true named⟩
  · intro found
    rcases found with ⟨column, listed, named⟩
    exact ⟨column, listed, decide_eq_true named⟩

end StoredTable

/-- Two rows that a unique key forbids: NULLs are distinct. -/
def SqlRow.clash (key : List String) (first second : SqlRow) : Bool :=
  key.all fun name => first name ≠ .null && first name = second name

/-- The rows meet the NOT NULL marks and the keys. -/
def rowsFit (columns : List TableColumn) (keys : List (List String)) (rows : List SqlRow) :
    Bool :=
  (rows.all fun row => columns.all fun column => !column.notnull || row column.name ≠ .null) &&
    keys.all fun key => decide (rows.Pairwise fun first second => first.clash key second = false)

/-! ## Databases -/

abbrev Database : Type := String → Option StoredTable

namespace Database

/-- Changes a table, where there is one. -/
def updateTable (db : Database) (name : String) (change : StoredTable → StoredTable) : Database :=
  Function.update db name ((db name).map change)

@[simp] theorem updateTable_self (db : Database) (name : String)
    (change : StoredTable → StoredTable) :
    db.updateTable name change name = (db name).map change :=
  Function.update_self ..

theorem updateTable_ne (db : Database) {name other : String}
    (change : StoredTable → StoredTable) (different : other ≠ name) :
    db.updateTable name change other = db other :=
  Function.update_of_ne different ..

/-- The rows of a table; none where there is no table. -/
def rowsOf (db : Database) (name : String) : List SqlRow := (db name).elim [] StoredTable.rows

/-- The tables, columns and keys are the same; the rows may be others. -/
def SameSchema (first second : Database) : Prop :=
  ∀ name, (first name).map StoredTable.schema = (second name).map StoredTable.schema

/-- Every table has the same rows. -/
def SameRows (first second : Database) : Prop := ∀ name, second.rowsOf name = first.rowsOf name

theorem SameSchema.trans {first second third : Database} (before : SameSchema first second)
    (after : SameSchema second third) : SameSchema first third :=
  fun name => (before name).trans (after name)

theorem sameSchema_updateTable (db : Database) (name : String) {change : StoredTable → StoredTable}
    (keeps : ∀ table, (change table).schema = table.schema) :
    SameSchema db (db.updateTable name change) := by
  intro other
  by_cases own : other = name
  · rw [own, updateTable_self, Option.map_map]
    congr 1
    funext table
    exact (keeps table).symm
  · rw [updateTable_ne db change own]

theorem SameRows.trans {first second third : Database} (before : SameRows first second)
    (after : SameRows second third) : SameRows first third :=
  fun name => (after name).trans (before name)

theorem sameRows_updateTable (db : Database) (name : String) {change : StoredTable → StoredTable}
    (keeps : ∀ table, db name = some table → (change table).rows = table.rows) :
    SameRows db (db.updateTable name change) := by
  intro other
  simp only [rowsOf]
  by_cases own : other = name
  · rw [own, updateTable_self]
    cases stored : db name with
    | none => rfl
    | some table => exact keeps table stored
  · rw [updateTable_ne db change own]

end Database

end Nightgate.Library
