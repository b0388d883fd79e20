import Mathlib.Data.List.Perm.Basic
import Mathlib.Data.List.Nodup
import Nightgate.Library.SqlTables

/-!
# The schema delta

The migration walks over the tables of the model. A table that is missing is created, one with
other unique keys or NOT NULL marks is built anew and its rows are copied, and every other one
gets the columns it lacks. A database that has been walked over needs none of this again, whatever
rows it holds by then.
-/

namespace Nightgate.Scripts

open Library

structure ModelColumn where
  name : String
  notNull : Bool
  /-- `DEFAULT`. -/
  fallback : Option SqlValue

structure ModelTable where
  name : String
  columns : List ModelColumn
  primaryKey : List String
  uniqueKeys : List (List String)

namespace ModelTable

def names (target : ModelTable) : List String := target.columns.map ModelColumn.name

def column? (target : ModelTable) (name : String) : Option ModelColumn :=
  target.columns.find? fun column => column.name = name

end ModelTable

/-- A column as the rebuilt table has it: one without values to copy loses a bare NOT NULL. -/
def ModelColumn.shaped (column : ModelColumn) (primaryKey : List String) (copied : Bool) :
    TableColumn :=
  ⟨column.name, column.notNull && (copied || column.fallback.isSome), column.name ∈ primaryKey⟩

/-- The `CREATE TABLE` of the model. -/
def ModelTable.create (target : ModelTable) : StoredTable :=
  .ofRows (target.columns.map fun column => column.shaped target.primaryKey true)
    target.uniqueKeys []

section OneTable

variable (table : StoredTable) (target : ModelTable)

/-- SQLite cannot alter a constraint. -/
def uniqueKeysChanged : Bool := !table.uniqueKeys.isPerm target.uniqueKeys

/-- Columns whose NOT NULL was relaxed. -/
def relaxedColumns : List ModelColumn :=
  target.columns.filter fun column =>
    (table.column? column.name).any fun current =>
      current.notnull && !column.notNull && !current.pk

/-- Columns made NOT NULL with a DEFAULT. -/
def tightenedColumns : List ModelColumn :=
  target.columns.filter fun column =>
    (table.column? column.name).any fun current =>
      !current.notnull && !current.pk && column.fallback.isSome && column.notNull

def fillRow (row : SqlRow) : SqlRow := fun name =>
  match (tightenedColumns table target).find? fun column => column.name = name with
  | some column => if row name = .null then column.fallback.getD .null else row name
  | none => row name

/-- The NULL rows of the tightened columns take the default. -/
def fillDefaults : StoredTable := table.update (fillRow table target)

/-- The row of a table with the columns of the model, copied as far as the old one has them. -/
def copyRow (names : List String) (row : SqlRow) : SqlRow :=
  fun name => if name ∈ names then row name
    else ((target.column? name).bind ModelColumn.fallback).getD .null

/-- Throws when a row does not fit the constraints of the model. -/
def rebuildTable : Option StoredTable :=
  let rebuilt := StoredTable.ofRows (target.columns.map fun column =>
      column.shaped target.primaryKey (column.name ∈ table.names))
    target.uniqueKeys (table.rows.map (copyRow target table.names))
  if rowsFit rebuilt.columns (target.primaryKey :: target.uniqueKeys) rebuilt.rows then some rebuilt
  else none

def missingColumns : List ModelColumn :=
  target.columns.filter fun column => column.name ∉ table.names

/-- Every missing column is added; a bare NOT NULL is dropped. -/
def addColumns : StoredTable :=
  .ofRows (table.columns ++ (missingColumns table target).map fun column =>
      column.shaped [] false)
    table.uniqueKeys
    (table.rows.map fun row name =>
      if name ∈ (missingColumns table target).map ModelColumn.name then
        copyRow target table.names row name
      else row name)

def needsRebuild : Bool :=
  (relaxedColumns table target) ≠ [] || (tightenedColumns table target) ≠ [] ||
    uniqueKeysChanged table target

/-- What becomes of a table. -/
def migrateTable (stored : Option StoredTable) : Option StoredTable :=
  match stored with
  | none => some target.create
  | some table =>
    if needsRebuild table target then rebuildTable (fillDefaults table target) target
    else some (addColumns table target)

end OneTable

/-- The walk over the tables of the model. -/
def migrateTables (targets : List ModelTable) (db : Database) : Option Database :=
  targets.foldlM (fun db target =>
    (migrateTable target (db target.name)).map fun table =>
      Function.update db target.name (some table)) db

/-! ## What becomes of the rows -/

section Rows

variable {table after : StoredTable} {target : ModelTable}

variable {column : ModelColumn}

/-- Among columns of distinct names, a column is found by its name. -/
theorem find?_named {columns : List ModelColumn} (distinct : (columns.map ModelColumn.name).Nodup)
    (listed : column ∈ columns) :
    (columns.find? fun other => other.name = column.name) = some column := by
  cases found : columns.find? fun other => other.name = column.name with
  | none =>
    have missed := List.find?_eq_none.1 found column listed
    rw [decide_eq_true_eq] at missed
    exact (missed rfl).elim
  | some other =>
    have named := List.find?_some found
    rw [List.inj_on_of_nodup_map distinct (List.mem_of_find?_eq_some found) listed
      (of_decide_eq_true named)]

theorem ModelTable.column?_of_mem (distinct : target.names.Nodup)
    (listed : column ∈ target.columns) : target.column? column.name = some column :=
  find?_named distinct listed

/-- A NULL that takes the default of its column. -/
def TakesDefault (target : ModelTable) (name : String) (value taken : SqlValue) : Prop :=
  value = .null ∧
    ∃ column ∈ target.columns, column.name = name ∧ column.notNull ∧ column.fallback = some taken

/-- A row as the walk leaves it: the columns of the model keep their values or take a default,
and those without a default are NULL where they were not stored. -/
structure CarriedRow (table : StoredTable) (target : ModelTable) (row carried : SqlRow) :
    Prop where
  stored : ∀ name ∈ table.names, name ∈ target.names →
    carried name = row name ∨ TakesDefault target name (row name) (carried name)
  plain : ∀ column ∈ target.columns, column.fallback = none → carried column.name = row column.name

/-- The table holds the rows of the old one, carried over. -/
def Carries (table : StoredTable) (target : ModelTable) (after : StoredTable) : Prop :=
  ∃ carry : SqlRow → SqlRow, after.rows = table.rows.map carry ∧
    ∀ row ∈ table.rows, CarriedRow table target row (carry row)

theorem fillRow_spec (row : SqlRow) (name : String) :
    fillRow table target row name = row name ∨
      TakesDefault target name (row name) (fillRow table target row name) := by
  unfold fillRow
  split
  next column found =>
    split
    next isNull =>
      right
      have named := List.find?_some found
      have tightened := (List.mem_filter.1 (List.mem_of_find?_eq_some found)).2
      rcases (Option.any_eq_true _ _).1 tightened with ⟨current, _, marks⟩
      simp only [Bool.and_eq_true] at marks
      rcases Option.isSome_iff_exists.1 marks.1.2 with ⟨value, isFallback⟩
      refine ⟨isNull, column, List.mem_of_mem_filter (List.mem_of_find?_eq_some found),
        of_decide_eq_true named, marks.2, ?_⟩
      rw [isFallback]
      rfl
    · exact Or.inl rfl
  · exact Or.inl rfl

theorem fillRow_plain (distinct : target.names.Nodup) (row : SqlRow)
    (listed : column ∈ target.columns) (plain : column.fallback = none) :
    fillRow table target row column.name = row column.name := by
  rcases fillRow_spec row column.name with same | takes
  · exact same
  · rcases takes.2 with ⟨other, isListed, named, _, isFallback⟩
    rw [List.inj_on_of_nodup_map distinct isListed listed named, plain] at isFallback
    cases isFallback

theorem copyRow_of_mem {names : List String} {row : SqlRow} {name : String}
    (listed : name ∈ names) : copyRow target names row name = row name :=
  if_pos listed

/-- A column that is not copied and has no default is NULL. -/
theorem copyRow_plain (distinct : target.names.Nodup) {row : SqlRow}
    (blank : ∀ name, name ∉ table.names → row name = .null)
    (listed : column ∈ target.columns) (plain : column.fallback = none) :
    copyRow target table.names row column.name = row column.name := by
  unfold copyRow
  split
  · rfl
  next missing =>
    rw [target.column?_of_mem distinct listed, blank column.name missing]
    dsimp only [Option.bind]
    rw [plain]
    rfl

/-- A table built anew holds the old rows. -/
theorem carries_rebuildTable (distinct : target.names.Nodup)
    (rebuilt : rebuildTable (fillDefaults table target) target = some after) :
    Carries table target after := by
  unfold rebuildTable at rebuilt
  dsimp only at rebuilt
  split at rebuilt
  · cases rebuilt
    have names : (target.columns.map fun column => column.shaped target.primaryKey
        (column.name ∈ (fillDefaults table target).names)).map TableColumn.name = target.names := by
      rw [List.map_map]
      rfl
    refine ⟨fun row => (copyRow target table.names
      ((fillRow table target row).within table.names)).within target.names, ?_, ?_⟩
    · unfold StoredTable.ofRows
      dsimp only
      rw [names, fillDefaults, StoredTable.rows_update, List.map_map, List.map_map]
      rfl
    · intro row stored
      have blank : ∀ name, name ∉ table.names →
          (fillRow table target row).within table.names name = .null :=
        fun name missing => SqlRow.within_of_not_mem missing
      constructor
      · intro name isStored isTarget
        dsimp only
        rw [SqlRow.within_of_mem isTarget, copyRow_of_mem isStored, SqlRow.within_of_mem isStored]
        exact fillRow_spec row name
      · intro column listed plain
        have isTarget : column.name ∈ target.names := List.mem_map_of_mem listed
        dsimp only
        rw [SqlRow.within_of_mem isTarget, copyRow_plain distinct blank listed plain]
        by_cases isStored : column.name ∈ table.names
        · rw [SqlRow.within_of_mem isStored, fillRow_plain distinct row listed plain]
        · rw [SqlRow.within_of_not_mem isStored, StoredTable.blank_of_not_mem stored isStored]
  · cases rebuilt

theorem mem_missingColumns :
    column ∈ missingColumns table target ↔ column ∈ target.columns ∧ column.name ∉ table.names := by
  unfold missingColumns
  rw [List.mem_filter, decide_eq_true_eq]

theorem names_addColumns :
    (addColumns table target).names =
      table.names ++ (missingColumns table target).map ModelColumn.name := by
  show (table.columns ++ _).map TableColumn.name = _
  rw [List.map_append, List.map_map]
  rfl

/-- A table that gets the missing columns keeps its rows. -/
theorem carries_addColumns (distinct : target.names.Nodup) :
    Carries table target (addColumns table target) := by
  have notMissing : ∀ name ∈ table.names,
      name ∉ (missingColumns table target).map ModelColumn.name := by
    intro name isStored listed
    rcases List.mem_map.1 listed with ⟨column, isMissing, rfl⟩
    exact (mem_missingColumns.1 isMissing).2 isStored
  refine ⟨fun row => SqlRow.within (fun name =>
    if name ∈ (missingColumns table target).map ModelColumn.name then
      copyRow target table.names row name
    else row name) (addColumns table target).names, ?_, ?_⟩
  · show (table.rows.map _).map _ = _
    rw [List.map_map]
    rfl
  · intro row stored
    constructor
    · intro name isStored _
      dsimp only
      rw [SqlRow.within_of_mem (by rw [names_addColumns]; exact List.mem_append_left _ isStored),
        if_neg (notMissing name isStored)]
      exact Or.inl rfl
    · intro column listed plain
      dsimp only
      by_cases isStored : column.name ∈ table.names
      · rw [SqlRow.within_of_mem (by rw [names_addColumns]; exact List.mem_append_left _ isStored),
          if_neg (notMissing column.name isStored)]
      · have isMissing : column.name ∈ (missingColumns table target).map ModelColumn.name :=
          List.mem_map_of_mem (mem_missingColumns.2 ⟨listed, isStored⟩)
        rw [SqlRow.within_of_mem (by
          rw [names_addColumns]
          exact List.mem_append_right _ isMissing), if_pos isMissing]
        exact copyRow_plain distinct
          (fun name missing => StoredTable.blank_of_not_mem stored missing) listed plain

theorem carries_migrateTable (distinct : target.names.Nodup)
    (migrated : migrateTable target (some table) = some after) : Carries table target after := by
  unfold migrateTable at migrated
  dsimp only at migrated
  split at migrated
  · exact carries_rebuildTable distinct migrated
  · cases migrated
    exact carries_addColumns distinct

end Rows

/-! ## A second walk -/

section Settled

variable {table after : StoredTable} {target : ModelTable}

/-- A table that the walk leaves as it is. -/
structure Settled (table : StoredTable) (target : ModelTable) : Prop where
  complete : missingColumns table target = []
  rebuilt : needsRebuild table target = false

theorem Settled.names_subset (settled : Settled table target) {name : String}
    (isColumn : name ∈ target.names) : name ∈ table.names := by
  rcases List.mem_map.1 isColumn with ⟨column, listed, rfl⟩
  by_contra missing
  have isMissing := mem_missingColumns.2 ⟨listed, missing⟩
  rw [settled.complete] at isMissing
  cases isMissing

/-- Whether a table is settled is seen from its columns and keys. -/
theorem Settled.of_schema {other : StoredTable} (settled : Settled table target)
    (same : other.schema = table.schema) : Settled other target := by
  unfold StoredTable.schema at same
  rw [Prod.mk.injEq] at same
  have names : other.names = table.names := congrArg (List.map TableColumn.name) same.1
  have column? : other.column? = table.column? := by
    funext name
    unfold StoredTable.column?
    rw [same.1]
  constructor
  · have complete := settled.complete
    unfold missingColumns at complete ⊢
    rw [names]
    exact complete
  · have rebuilt := settled.rebuilt
    unfold needsRebuild relaxedColumns tightenedColumns uniqueKeysChanged at rebuilt ⊢
    rw [column?, same.2]
    exact rebuilt

/-- A column neither relaxed nor tightened. -/
def MarksAgree (column : ModelColumn) (current : TableColumn) : Prop :=
  (current.notnull && !column.notNull && !current.pk) = false ∧
    (!current.notnull && !current.pk && column.fallback.isSome && column.notNull) = false

theorem marksAgree_shaped (column : ModelColumn) (primaryKey : List String) (copied : Bool) :
    MarksAgree column (column.shaped primaryKey copied) := by
  unfold MarksAgree ModelColumn.shaped
  cases column.notNull <;> cases column.fallback <;> cases copied <;> simp

/-- A table without missing columns, whose marks and keys are those of the model. -/
theorem settled_of_marks
    (columns : ∀ column ∈ target.columns, ∃ current,
      table.column? column.name = some current ∧ MarksAgree column current)
    (keys : table.uniqueKeys.isPerm target.uniqueKeys) : Settled table target := by
  constructor
  · rw [List.eq_nil_iff_forall_not_mem]
    intro column isMissing
    rcases mem_missingColumns.1 isMissing with ⟨listed, missing⟩
    rcases columns column listed with ⟨current, found, _⟩
    apply missing
    rw [← StoredTable.column?_isSome_iff, found]
    rfl
  · have relaxed : relaxedColumns table target = [] := by
      rw [List.eq_nil_iff_forall_not_mem]
      intro column isRelaxed
      rcases List.mem_filter.1 isRelaxed with ⟨listed, marked⟩
      rcases columns column listed with ⟨current, found, agree⟩
      rw [found, Option.any_some, agree.1] at marked
      cases marked
    have tightened : tightenedColumns table target = [] := by
      rw [List.eq_nil_iff_forall_not_mem]
      intro column isTightened
      rcases List.mem_filter.1 isTightened with ⟨listed, marked⟩
      rcases columns column listed with ⟨current, found, agree⟩
      rw [found, Option.any_some, agree.2] at marked
      cases marked
    unfold needsRebuild uniqueKeysChanged
    rw [relaxed, tightened, keys]
    rfl

/-- A table that was created or built anew. -/
theorem settled_of_shaped (distinct : target.names.Nodup) (copied : ModelColumn → Bool)
    (columns : table.columns =
      target.columns.map fun column => column.shaped target.primaryKey (copied column))
    (keys : table.uniqueKeys = target.uniqueKeys) : Settled table target := by
  apply settled_of_marks
  · intro column listed
    refine ⟨column.shaped target.primaryKey (copied column), ?_, marksAgree_shaped ..⟩
    unfold StoredTable.column?
    rw [columns, List.find?_map]
    show Option.map _ (target.columns.find? fun other => other.name = column.name) = _
    rw [find?_named distinct listed]
    rfl
  · rw [keys]
    exact List.isPerm_iff.2 (List.Perm.refl _)

theorem settled_addColumns (distinct : target.names.Nodup)
    (kept : needsRebuild table target = false) : Settled (addColumns table target) target := by
  unfold needsRebuild at kept
  simp only [Bool.or_eq_false_iff, decide_eq_false_iff_not, not_not,
    uniqueKeysChanged, Bool.not_eq_false'] at kept
  rcases kept with ⟨⟨relaxed, tightened⟩, keys⟩
  apply settled_of_marks
  · intro column listed
    have append : (addColumns table target).column? column.name = (table.column? column.name).or
          (((missingColumns table target).map fun column => column.shaped [] false).find?
            fun other => other.name = column.name) :=
      List.find?_append
    cases found : table.column? column.name with
    | some current =>
      rw [found, Option.some_or] at append
      refine ⟨current, append, ?_, ?_⟩
      · have unmarked := List.filter_eq_nil_iff.1 relaxed column listed
        rw [found, Option.any_some, Bool.not_eq_true] at unmarked
        exact unmarked
      · have unmarked := List.filter_eq_nil_iff.1 tightened column listed
        rw [found, Option.any_some, Bool.not_eq_true] at unmarked
        exact unmarked
    | none =>
      have missing : column.name ∉ table.names := by
        rw [← StoredTable.column?_isSome_iff, found]
        exact Bool.false_ne_true
      have isMissing := mem_missingColumns.2 ⟨listed, missing⟩
      have distinctMissing : ((missingColumns table target).map ModelColumn.name).Nodup :=
        distinct.sublist (List.filter_sublist.map ModelColumn.name)
      rw [found, Option.none_or, List.find?_map] at append
      refine ⟨column.shaped [] false, ?_, marksAgree_shaped ..⟩
      rw [append]
      show Option.map _
        ((missingColumns table target).find? fun other => other.name = column.name) = _
      rw [find?_named distinctMissing isMissing]
      rfl
  · exact keys

/-- What the walk leaves behind is settled. -/
theorem settled_migrateTable (distinct : target.names.Nodup) {stored : Option StoredTable}
    (migrated : migrateTable target stored = some after) : Settled after target := by
  unfold migrateTable at migrated
  split at migrated
  · cases migrated
    exact settled_of_shaped distinct (fun _ => true) rfl rfl
  next table =>
    split at migrated
    · unfold rebuildTable at migrated
      dsimp only at migrated
      split at migrated
      · cases migrated
        exact settled_of_shaped distinct
          (fun column => column.name ∈ (fillDefaults table target).names) rfl rfl
      · cases migrated
    next kept =>
      cases migrated
      rw [Bool.not_eq_true] at kept
      exact settled_addColumns distinct kept

/-- A settled table is left as it is. -/
theorem migrateTable_of_settled (settled : Settled table target) :
    ∃ after, migrateTable target (some table) = some after ∧ after.rows = table.rows := by
  refine ⟨addColumns table target, ?_, ?_⟩
  · unfold migrateTable
    dsimp only
    rw [settled.rebuilt]
    rfl
  · unfold addColumns
    rw [settled.complete]
    simp only [List.map_nil, List.append_nil, List.not_mem_nil, if_false, List.map_id']
    have unchanged : ∀ row ∈ table.rows, row.within table.names = id row := by
      intro row stored
      exact SqlRow.within_eq_self fun name missing => StoredTable.blank_of_not_mem stored missing
    exact (List.map_congr_left unchanged).trans (List.map_id table.rows)

end Settled

section Walk

variable {targets : List ModelTable} {db after : Database}

/-- Every table of the model is migrated on its own, and no other table is touched. -/
theorem migrateTables_spec (distinct : (targets.map ModelTable.name).Nodup)
    (migrated : migrateTables targets db = some after) :
    (∀ target ∈ targets, ∃ table, migrateTable target (db target.name) = some table ∧
      after target.name = some table) ∧
      ∀ name, name ∉ targets.map ModelTable.name → after name = db name := by
  induction targets generalizing db with
  | nil =>
    cases migrated
    exact ⟨(fun target listed => nomatch listed), fun name missing => rfl⟩
  | cons target rest ih =>
    rw [List.map_cons, List.nodup_cons] at distinct
    unfold migrateTables at migrated
    rw [List.foldlM_cons] at migrated
    rcases Option.bind_eq_some_iff.1 migrated with ⟨next, isNext, later⟩
    rcases Option.map_eq_some_iff.1 isNext with ⟨table, isTable, rfl⟩
    rcases ih distinct.2 later with ⟨each, others⟩
    have same : ∀ name, name ≠ target.name →
        Function.update db target.name (some table) name = db name :=
      fun name different => Function.update_of_ne different ..
    constructor
    · intro other listed
      rcases List.mem_cons.1 listed with rfl | listed
      · refine ⟨table, isTable, ?_⟩
        rw [others other.name distinct.1, Function.update_self]
      · have different : other.name ≠ target.name := by
          intro equal
          apply distinct.1
          rw [← equal]
          exact List.mem_map_of_mem listed
        rcases each other listed with ⟨found, isFound, stored⟩
        rw [same other.name different] at isFound
        exact ⟨found, isFound, stored⟩
    · intro name missing
      rw [List.map_cons, List.mem_cons, not_or] at missing
      rw [others name missing.2, same name missing.1]

end Walk

end Nightgate.Scripts
