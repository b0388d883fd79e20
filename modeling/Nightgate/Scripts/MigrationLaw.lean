import Nightgate.Scripts.SchemaRepairs

/-!
# What a migration keeps

A run that succeeds keeps every row, and every value of a column that the model still has. It may
give a NULL the default of its column, move a state root out of the ledger parameters, and, in a
database that holds extrinsic bytes as `0x` text, drop those bytes and what was derived from them.
A database that was migrated before keeps all its rows as they are. Both hold exactly when the
repairs find nothing but old data.
-/

namespace Nightgate.Scripts

open Library

/-- Text that begins with `0x`. -/
def hexText : SqlValue → Bool
  | .text value =>
    match value.toList with
    | '0' :: 'x' :: _ => true
    | _ => false
  | _ => false

/-- The database holds extrinsic bytes as `0x` text. -/
def HoldsHexText (db : Database) : Prop :=
  ∃ row ∈ db.rowsOf "midnight_Transactions", hexText (row "raw")

/-- The columns derived from the bytes or the envelope of an extrinsic. -/
def derivedColumns : List (String × String) := [
  ("midnight_Transactions", "contractAddress"), ("midnight_Transactions", "senderAddress"),
  ("midnight_Transactions", "receiverAddress"), ("midnight_Transactions", "nightAmount"),
  ("midnight_ContractActions", "state"), ("midnight_ContractActions", "address")]

/-- The state root of a block moved out of its ledger parameters. -/
def StateRootMoved (tableName : String) (row kept : SqlRow) : Prop :=
  tableName = "midnight_Blocks" ∧ row "stateRoot" = .null ∧
    kept "stateRoot" = row "ledgerParameters" ∧ kept "ledgerParameters" = .null

/-- A value that a re-index restores. -/
def Reindexed (db : Database) (tableName : String) (row kept : SqlRow) (name : String) : Prop :=
  HoldsHexText db ∧ kept name = .null ∧
    ((tableName = "midnight_Transactions" ∧ name = "raw" ∧ hexText (row "raw")) ∨
      (tableName, name) ∈ derivedColumns)

def ValueKept (db : Database) (target : ModelTable) (row kept : SqlRow) (name : String) : Prop :=
  kept name = row name ∨ TakesDefault target name (row name) (kept name) ∨
    ((name = "stateRoot" ∨ name = "ledgerParameters") ∧ StateRootMoved target.name row kept) ∨
    Reindexed db target.name row kept name

/-- The same rows in the same order, each with its values. -/
def RowsKept (db : Database) (target : ModelTable) (table kept : StoredTable) : Prop :=
  List.Forall₂ (fun row keptRow =>
    ∀ name ∈ table.names, name ∈ target.names → ValueKept db target row keptRow name)
    table.rows kept.rows

/-- Every row of a table of the model is kept, or belongs to what a re-index restores. -/
def Keeps (model : SchemaModel) (db after : Database) : Prop :=
  ∀ target ∈ model.tables, ∀ table, db target.name = some table →
    ∃ kept, after target.name = some kept ∧ (RowsKept db target table kept ∨
        HoldsHexText db ∧ target.name ∈ derivedTables ∧ kept.rows = [])

/-- A run has succeeded on the database before, and rows have been written since. -/
def Migrated (model : SchemaModel) (db : Database) : Prop :=
  ∃ before first, migrate model before = some first ∧ Database.SameSchema first db

/-- What is asked of a run. -/
def Law (model : SchemaModel) (db : Database) : DeltaOutcome → Prop
  | .failed after => after = db
  | .done after => Keeps model db after ∧ (Migrated model db → Database.SameRows db after)

/-- The repairs find nothing but old data. -/
structure OnlyOldData (model : SchemaModel) (db : Database) : Prop where
  /-- No bytes are stored as text that only the repair takes for `0x` text. -/
  written : ∀ row ∈ db.rowsOf "midnight_Transactions", likeHex (row "raw") → hexText (row "raw")
  /-- A contract state is held only beside bytes stored as `0x` text. -/
  states : HoldsHexText db ∨ ∀ row ∈ db.rowsOf "midnight_ContractActions", row "state" = .null
  /-- After a migration there is no such text, no contract state is held, and every block with
  ledger parameters has its state root. -/
  again : Migrated model db →
    (∀ row ∈ db.rowsOf "midnight_Transactions", likeHex (row "raw") = false) ∧
    (∀ row ∈ db.rowsOf "midnight_ContractActions", row "state" = .null) ∧
    ∀ row ∈ db.rowsOf "midnight_Blocks", row "stateRoot" = .null → row "ledgerParameters" = .null

/-! ## The rows after a run -/

section Rows

variable {model : SchemaModel} {db middle after : Database}

/-- A repaired column in the model. -/
theorem SchemaModel.target_of_repaired (model : SchemaModel) {name column : String}
    (repaired : (name, column) ∈ repairedColumns) :
    ∃ target ∈ model.tables, target.name = name ∧
      ∃ found ∈ target.columns, found.name = column ∧ found.fallback = none :=
  model.repaired (name, column) repaired

theorem SchemaModel.target_unique (model : SchemaModel) {first second : ModelTable}
    (isFirst : first ∈ model.tables) (isSecond : second ∈ model.tables)
    (same : first.name = second.name) : first = second :=
  List.inj_on_of_nodup_map model.distinct isFirst isSecond same

/-- The walk keeps the values of the repaired columns. -/
theorem rowsOf_middle (walked : migrateTables model.tables db = some middle)
    {target : ModelTable} (listed : target ∈ model.tables) :
    ∃ carry : SqlRow → SqlRow, middle.rowsOf target.name = (db.rowsOf target.name).map carry ∧
      ∀ row ∈ db.rowsOf target.name, ∀ column ∈ target.columns, column.fallback = none →
        carry row column.name = row column.name := by
  rcases (migrateTables_spec model.distinct walked).1 target listed with
    ⟨found, isFound, stored⟩
  unfold Database.rowsOf
  rw [stored]
  cases before : db target.name with
  | none =>
    rw [before] at isFound
    cases isFound
    exact ⟨id, rfl, fun row impossible => nomatch impossible⟩
  | some table =>
    rw [before] at isFound
    rcases carries_migrateTable (model.distinctColumns target listed) isFound with
      ⟨carry, isCarry, carried⟩
    exact ⟨carry, isCarry, fun row isRow => (carried row isRow).plain⟩

/-- A repair finds the same values in the walked database. -/
theorem values_middle (walked : migrateTables model.tables db = some middle)
    {name column : String} (repaired : (name, column) ∈ repairedColumns) :
    ((middle.rowsOf name).map fun row => row column) =
      (db.rowsOf name).map fun row => row column := by
  rcases model.target_of_repaired repaired with ⟨target, listed, rfl, found, isColumn, rfl, plain⟩
  rcases rowsOf_middle walked listed with ⟨carry, isCarry, same⟩
  rw [isCarry, List.map_map]
  apply List.map_congr_left
  intro row stored
  exact same row stored found isColumn plain

theorem clears_middle (walked : migrateTables model.tables db = some middle) :
    clears middle = clears db := by
  have raw := values_middle walked
    (show ("midnight_Transactions", "raw") ∈ repairedColumns by decide)
  have state := values_middle walked
    (show ("midnight_ContractActions", "state") ∈ repairedColumns by decide)
  have lossy : ∀ db : Database, lossyRaw db =
      ((db.rowsOf "midnight_Transactions").map fun row => row "raw").any likeHex := by
    intro db
    rw [List.any_map]
    rfl
  have held : ∀ db : Database, heldStates db =
      ((db.rowsOf "midnight_ContractActions").map fun row => row "state").any
        fun value => value ≠ .null := by
    intro db
    rw [List.any_map]
    rfl
  unfold clears
  rw [lossy, lossy, held, held, raw, state]

/-- A row as a run leaves it: carried over by the walk, then repaired. -/
def FinalRow (cleared : Bool) (table : StoredTable) (target : ModelTable) (row final : SqlRow) :
    Prop :=
  ∃ carried, CarriedRow table target row carried ∧
    ∀ name ∈ target.names, final name = repairRow cleared target.name carried name

/-- The walk leaves a table that a repair reads. -/
theorem middle_isSome (walked : migrateTables model.tables db = some middle)
    {name column : String} (repaired : (name, column) ∈ repairedColumns) :
    (middle name).isSome := by
  rcases model.target_of_repaired repaired with ⟨target, listed, rfl, _⟩
  rcases (migrateTables_spec model.distinct walked).1 target listed with ⟨found, _, stored⟩
  rw [stored]
  rfl

/-- What a run makes of a table of the model. -/
theorem migrate_rows (ran : migrate model db = some after) {target : ModelTable}
    (listed : target ∈ model.tables) {table : StoredTable} (stored : db target.name = some table) :
    ∃ kept, after target.name = some kept ∧
      ((clears db = true ∧ target.name ∈ derivedTables ∧ kept.rows = []) ∨
        ∃ finish : SqlRow → SqlRow, kept.rows = table.rows.map finish ∧
          ∀ row ∈ table.rows, FinalRow (clears db) table target row (finish row)) := by
  rcases Option.map_eq_some_iff.1 ran with ⟨middle, walked, rfl⟩
  rcases (migrateTables_spec model.distinct walked).1 target listed with
    ⟨found, isFound, isMiddle⟩
  have settled := settled_migrateTable (model.distinctColumns target listed) isFound
  rw [stored] at isFound
  rcases carries_migrateTable (model.distinctColumns target listed) isFound with
    ⟨carry, isCarry, carried⟩
  have transactions := middle_isSome walked
    (show ("midnight_Transactions", "raw") ∈ repairedColumns by decide)
  rw [← clears_middle walked]
  -- A table that is repaired row by row.
  have byRow : ∀ kept, RepairedFrom (clears middle) target.name found kept →
      ∃ finish : SqlRow → SqlRow, kept.rows = table.rows.map finish ∧
        ∀ row ∈ table.rows, FinalRow (clears middle) table target row (finish row) := by
    intro kept repaired
    refine ⟨fun row => (repairRow (clears middle) target.name (carry row)).within found.names,
      ?_, ?_⟩
    · rw [repaired, isCarry, List.map_map]
      rfl
    · intro row isRow
      refine ⟨carry row, carried row isRow, ?_⟩
      intro name isColumn
      exact SqlRow.within_of_mem (settled.names_subset isColumn)
  by_cases isTransactions : target.name = "midnight_Transactions"
  · rw [isTransactions] at isMiddle byRow ⊢
    rcases repaired_transactions isMiddle with ⟨kept, isKept, repaired⟩
    exact ⟨kept, isKept, Or.inr (byRow kept repaired)⟩
  · by_cases isActions : target.name = "midnight_ContractActions"
    · rw [isActions] at isMiddle byRow ⊢
      rcases repaired_contractActions transactions isMiddle with ⟨kept, isKept, repaired⟩
      exact ⟨kept, isKept, Or.inr (byRow kept repaired)⟩
    · by_cases isBlocks : target.name = "midnight_Blocks"
      · have columnOf : ∀ column, ("midnight_Blocks", column) ∈ repairedColumns →
            column ∈ found.names := by
          intro column repaired
          rcases model.target_of_repaired repaired with
            ⟨other, isOther, named, isColumn, isListed, rfl, _⟩
          rw [model.target_unique isOther listed (named.trans isBlocks.symm)] at isListed
          exact settled.names_subset (List.mem_map_of_mem isListed)
        rw [isBlocks] at isMiddle byRow ⊢
        rcases repaired_blocks transactions isMiddle (columnOf "stateRoot" (by decide))
          (columnOf "ledgerParameters" (by decide)) with ⟨kept, isKept, repaired⟩
        exact ⟨kept, isKept, Or.inr (byRow kept repaired)⟩
      · have unrepaired : ∀ row, repairRow (clears middle) target.name row = row := by
          intro row
          unfold repairRow
          rw [if_neg isTransactions, if_neg isActions, if_neg isBlocks]
        have same : RepairedFrom (clears middle) target.name found found := by
          have unchanged : ∀ row ∈ found.rows,
              (repairRow (clears middle) target.name row).within found.names = id row := by
            intro row isRow
            rw [unrepaired]
            exact SqlRow.within_eq_self fun name missing =>
              StoredTable.blank_of_not_mem isRow missing
          exact ((List.map_congr_left unchanged).trans (List.map_id found.rows)).symm
        by_cases isDerived : target.name ∈ derivedTables
        · rcases repaired_derived transactions isDerived isMiddle with ⟨kept, isKept, rows⟩
          refine ⟨kept, isKept, ?_⟩
          cases cleared : clears middle with
          | true =>
            rw [cleared, if_pos rfl] at rows
            exact Or.inl ⟨rfl, isDerived, rows⟩
          | false =>
            rw [cleared, if_neg Bool.false_ne_true] at rows
            right
            rw [rows, ← cleared]
            exact byRow found same
        · refine ⟨found, ?_, Or.inr (byRow found same)⟩
          rw [repaired_other isTransactions isActions isBlocks isDerived, isMiddle]

end Rows

/-! ## A second run -/

section SecondRun

variable {model : SchemaModel} {db middle after : Database}

/-- After a migration every table of the model is settled. -/
theorem settled_of_migrated (migrated : Migrated model db) {target : ModelTable}
    (listed : target ∈ model.tables) :
    ∃ table, db target.name = some table ∧ Settled table target := by
  rcases migrated with ⟨before, first, ran, same⟩
  rcases Option.map_eq_some_iff.1 ran with ⟨walkedTo, walked, rfl⟩
  rcases (migrateTables_spec model.distinct walked).1 target listed with
    ⟨found, isFound, stored⟩
  have settled := settled_migrateTable (model.distinctColumns target listed) isFound
  have schema := ((sameSchema_repairs walkedTo).trans same) target.name
  rw [stored] at schema
  cases isTable : db target.name with
  | none =>
    rw [isTable] at schema
    cases schema
  | some table =>
    rw [isTable, Option.map_some, Option.map_some] at schema
    exact ⟨table, rfl, settled.of_schema (Option.some.inj schema).symm⟩

/-- A second walk changes no row. -/
theorem sameRows_walk (migrated : Migrated model db)
    (walked : migrateTables model.tables db = some middle) : Database.SameRows db middle := by
  have spec := migrateTables_spec model.distinct walked
  intro name
  by_cases isTarget : name ∈ model.tables.map ModelTable.name
  · rcases List.mem_map.1 isTarget with ⟨target, listed, rfl⟩
    rcases settled_of_migrated migrated listed with ⟨table, isTable, settled⟩
    rcases spec.1 target listed with ⟨found, isFound, stored⟩
    rcases migrateTable_of_settled settled with ⟨kept, isKept, rows⟩
    rw [isTable, isKept] at isFound
    cases isFound
    simp only [Database.rowsOf, stored, isTable]
    exact rows
  · simp only [Database.rowsOf, spec.2 name isTarget]

theorem setNull_eq_self {names : List String} {row : SqlRow}
    (null : ∀ name ∈ names, row name = .null) : setNull names row = row := by
  funext name
  by_cases listed : name ∈ names
  · exact (if_pos listed).trans (null name listed).symm
  · exact if_neg listed

/-- The repairs find nothing. -/
theorem sameRows_repairs
    (raw : ∀ row ∈ db.rowsOf "midnight_Transactions", likeHex (row "raw") = false)
    (states : ∀ row ∈ db.rowsOf "midnight_ContractActions", row "state" = .null)
    (roots : ∀ row ∈ db.rowsOf "midnight_Blocks", row "stateRoot" = .null →
      row "ledgerParameters" = .null) :
    Database.SameRows db (moveStateRoots (clearLossy db)) := by
  have notLossy : lossyRaw db = false := by
    rw [lossyRaw, List.any_eq_false]
    intro row stored
    rw [raw row stored]
    exact Bool.false_ne_true
  have noState : heldStates db = false := by
    rw [heldStates, List.any_eq_false]
    intro row stored
    rw [decide_eq_true_eq]
    exact fun held => held (states row stored)
  have keepsRaw : Database.SameRows db (clearRaw db) := by
    apply Database.sameRows_updateTable
    intro table stored
    apply StoredTable.rows_update_eq_self
    intro row isRow
    have isStored : row ∈ db.rowsOf "midnight_Transactions" := by
      rw [Database.rowsOf, stored]
      exact isRow
    rw [raw row isStored]
    exact if_neg Bool.false_ne_true
  have keepsStates : Database.SameRows db (clearStates (clearRaw db)) := by
    apply keepsRaw.trans
    apply Database.sameRows_updateTable
    intro table stored
    apply StoredTable.rows_update_eq_self
    intro row isRow
    have isStored : row ∈ db.rowsOf "midnight_ContractActions" := by
      rw [← keepsRaw, Database.rowsOf, stored]
      exact isRow
    apply setNull_eq_self
    intro name listed
    rw [List.mem_singleton.1 listed]
    exact states row isStored
  have keepsLossy : Database.SameRows db (clearLossy db) := by
    rw [clearLossy, clears, notLossy, noState]
    split
    · exact keepsStates
    · exact fun name => rfl
  apply keepsLossy.trans
  apply Database.sameRows_updateTable
  intro table stored
  split
  · apply StoredTable.rows_update_eq_self
    intro row isRow
    have isStored : row ∈ db.rowsOf "midnight_Blocks" := by
      rw [← keepsLossy, Database.rowsOf, stored]
      exact isRow
    rw [moveStateRoot, if_neg]
    intro misplaced
    exact misplaced.2 (roots row isStored misplaced.1)
  · rfl

end SecondRun

/-! ## When the law holds -/

section Iff

variable {model : SchemaModel} {db after : Database}

variable {target : ModelTable} {table : StoredTable}

/-- A repaired column reaches the repairs with its stored value. -/
theorem carried_repaired (listed : target ∈ model.tables) (column : String)
    (repaired : (target.name, column) ∈ repairedColumns)
    {row carried : SqlRow} (isCarried : CarriedRow table target row carried) :
    column ∈ target.names ∧ carried column = row column := by
  rcases model.target_of_repaired repaired with ⟨other, isOther, named, found, isColumn, rfl, plain⟩
  rw [model.target_unique isOther listed named] at isColumn
  exact ⟨List.mem_map_of_mem isColumn, isCarried.plain found isColumn plain⟩

theorem rowsKept_iff {table kept : StoredTable} {finish : SqlRow → SqlRow}
    (rows : kept.rows = table.rows.map finish) :
    RowsKept db target table kept ↔ ∀ row ∈ table.rows, ∀ name ∈ table.names,
      name ∈ target.names → ValueKept db target row (finish row) name := by
  rw [RowsKept, rows, List.forall₂_map_right_iff, List.forall₂_same]

variable {row : SqlRow}

/-- What a run makes of a stored row of a repaired table. -/
theorem repaired_row (ran : migrate model db = some after) {name column : String}
    (repaired : (name, column) ∈ repairedColumns) (notDerived : name ∉ derivedTables)
    (stored : row ∈ db.rowsOf name) :
    ∃ target table kept finish, target ∈ model.tables ∧ target.name = name ∧
      db target.name = some table ∧ row ∈ table.rows ∧ after target.name = some kept ∧
      kept.rows = table.rows.map finish ∧ FinalRow (clears db) table target row (finish row) := by
  rcases model.target_of_repaired repaired with ⟨target, listed, rfl, _⟩
  cases isTable : db target.name with
  | none =>
    rw [Database.rowsOf, isTable] at stored
    cases stored
  | some table =>
    rw [Database.rowsOf, isTable] at stored
    rcases migrate_rows ran listed isTable with ⟨kept, isKept, emptied | ⟨finish, rows, final⟩⟩
    · exact (notDerived emptied.2.1).elim
    · exact ⟨target, table, kept, finish, listed, rfl, isTable, stored, isKept, rows,
        final row stored⟩

/-- Where a value of a repaired column is stored, a run that keeps the rows keeps it. -/
theorem valueKept_of_keeps (ran : migrate model db = some after) (keeps : Keeps model db after)
    {name column : String} (repaired : (name, column) ∈ repairedColumns)
    (notDerived : name ∉ derivedTables) (stored : row ∈ db.rowsOf name)
    (held : row column ≠ .null) :
    ∃ target table carried final, target ∈ model.tables ∧ target.name = name ∧
      CarriedRow table target row carried ∧
      final column = repairRow (clears db) name carried column ∧ carried column = row column ∧
      ValueKept db target row final column := by
  obtain ⟨target, table, kept, finish, listed, rfl, isTable, isRow, isKept, rows, carried,
    isCarried, isFinal⟩ := repaired_row ran repaired notDerived stored
  rcases keeps target listed table isTable with ⟨other, isOther, rowsKept | emptied⟩
  · rw [isKept] at isOther
    cases isOther
    rcases carried_repaired listed column repaired isCarried with ⟨isTarget, same⟩
    have isColumn : column ∈ table.names := by
      by_contra missing
      exact held (table.blank_of_not_mem isRow missing)
    exact ⟨target, table, carried, finish row, listed, rfl, isCarried,
      isFinal column isTarget, same,
      (rowsKept_iff rows).1 rowsKept row isRow column isColumn isTarget⟩
  · exact (notDerived emptied.2.1).elim

/-- A stored value that a repair drops is one that a re-index restores. -/
theorem reindexed_of_dropped {row final : SqlRow} {column : String} (held : row column ≠ .null)
    (dropped : final column = .null) (notMoved : column ≠ "stateRoot" ∧ column ≠ "ledgerParameters")
    (kept : ValueKept db target row final column) :
    Reindexed db target.name row final column := by
  rcases kept with same | takes | ⟨moved, _⟩ | reindexed
  · exact (held (same.symm.trans dropped)).elim
  · exact (held takes.1).elim
  · rcases moved with isRoot | isParameters
    · exact (notMoved.1 isRoot).elim
    · exact (notMoved.2 isParameters).elim
  · exact reindexed

theorem repairRow_raw (cleared : Bool) (like : likeHex (row "raw")) :
    repairRow cleared "midnight_Transactions" row "raw" = .null := by
  rw [repairRow, if_pos rfl, if_pos like]
  simp [setNull]

theorem repairRow_state (cleared : Bool) (row : SqlRow) :
    repairRow cleared "midnight_ContractActions" row "state" = .null := by
  cases cleared <;> simp [repairRow, setNull]

/-- What the rows tell when a run keeps them. -/
theorem written_of_keeps (ran : migrate model db = some after) (keeps : Keeps model db after)
    (stored : row ∈ db.rowsOf "midnight_Transactions")
    (like : likeHex (row "raw")) : hexText (row "raw") := by
  have held : row "raw" ≠ .null := by
    intro null
    rw [null] at like
    cases like
  rcases valueKept_of_keeps ran keeps
    (show ("midnight_Transactions", "raw") ∈ repairedColumns by decide) (by decide) stored held with
    ⟨target, table, carried, final, _, named, _, isFinal, same, kept⟩
  have dropped : final "raw" = .null := by
    rw [isFinal]
    apply repairRow_raw
    rw [same]
    exact like
  rcases reindexed_of_dropped held dropped (by decide) kept with ⟨_, _, bytes | derived⟩
  · exact bytes.2.2
  · have notDerived : ("midnight_Transactions", "raw") ∉ derivedColumns := by decide
    rw [named] at derived
    exact (notDerived derived).elim

theorem states_of_keeps (ran : migrate model db = some after) (keeps : Keeps model db after) :
    HoldsHexText db ∨ ∀ row ∈ db.rowsOf "midnight_ContractActions", row "state" = .null := by
  by_contra neither
  rw [not_or] at neither
  apply neither.2
  intro row stored
  by_contra held
  rcases valueKept_of_keeps ran keeps
    (show ("midnight_ContractActions", "state") ∈ repairedColumns by decide) (by decide) stored
    held with ⟨target, table, carried, final, _, _, _, isFinal, _, kept⟩
  have dropped : final "state" = .null := by
    rw [isFinal]
    exact repairRow_state (clears db) carried
  exact neither.1 (reindexed_of_dropped held dropped (by decide) kept).1

/-- The values derived from the envelopes are dropped only beside bytes stored as `0x` text. -/
theorem holdsHexText_of_clears
    (written : ∀ row ∈ db.rowsOf "midnight_Transactions", likeHex (row "raw") → hexText (row "raw"))
    (states : HoldsHexText db ∨ ∀ row ∈ db.rowsOf "midnight_ContractActions", row "state" = .null)
    (cleared : clears db) : HoldsHexText db := by
  rw [clears, Bool.or_eq_true] at cleared
  rcases cleared with lossy | held
  · rw [lossyRaw, List.any_eq_true] at lossy
    rcases lossy with ⟨row, stored, like⟩
    exact ⟨row, stored, written row stored like⟩
  · rcases states with holds | null
    · exact holds
    · rw [heldStates, List.any_eq_true] at held
      rcases held with ⟨row, stored, isHeld⟩
      rw [decide_eq_true_eq] at isHeld
      exact (isHeld (null row stored)).elim

variable {row carried final : SqlRow} {name : String}

/-- A value that the repairs leave as the walk carried it. -/
theorem valueKept_of_carried (isCarried : CarriedRow table target row carried)
    (isColumn : name ∈ table.names) (isTarget : name ∈ target.names)
    (unrepaired : final name = carried name) : ValueKept db target row final name := by
  rcases isCarried.stored name isColumn isTarget with same | takes
  · exact Or.inl (unrepaired.trans same)
  · right
    left
    rw [unrepaired]
    exact takes

theorem transaction_kept (named : target.name = "midnight_Transactions")
    (isCarried : CarriedRow table target row carried) (raw : carried "raw" = row "raw")
    (stored : row ∈ db.rowsOf "midnight_Transactions")
    (written : likeHex (row "raw") → hexText (row "raw")) (holds : clears db → HoldsHexText db)
    (isColumn : name ∈ table.names) (isTarget : name ∈ target.names)
    (isFinal : final name = repairRow (clears db) target.name carried name) :
    ValueKept db target row final name := by
  rw [named, repairRow, if_pos rfl] at isFinal
  by_cases isEnvelope : clears db ∧ name ∈ envelopeColumns
  · have null : final name = .null := by
      rw [isFinal, if_pos isEnvelope.1]
      exact if_pos isEnvelope.2
    have derived : ∀ column ∈ envelopeColumns,
        ("midnight_Transactions", column) ∈ derivedColumns := by decide
    right; right; right
    refine ⟨holds isEnvelope.1, null, Or.inr ?_⟩
    rw [named]
    exact derived name isEnvelope.2
  · have untouched : final name =
        (if likeHex (carried "raw") then setNull ["raw"] carried else carried) name := by
      rw [isFinal]
      apply if_neg
      intro listed
      split at listed
      next cleared => exact isEnvelope ⟨cleared, listed⟩
      · cases listed
    by_cases isBytes : likeHex (row "raw") ∧ name = "raw"
    · rw [raw, if_pos isBytes.1] at untouched
      have null : final name = .null := by
        rw [untouched, isBytes.2]
        exact if_pos (List.mem_singleton.2 rfl)
      right; right; right
      exact ⟨⟨row, stored, written isBytes.1⟩, null, Or.inl ⟨named, isBytes.2, written isBytes.1⟩⟩
    · apply valueKept_of_carried isCarried isColumn isTarget
      rw [untouched, raw]
      split
      next like =>
        apply if_neg
        intro listed
        exact isBytes ⟨like, List.mem_singleton.1 listed⟩
      · rfl

theorem contractAction_kept (named : target.name = "midnight_ContractActions")
    (isCarried : CarriedRow table target row carried)
    (states : HoldsHexText db ∨ row "state" = .null) (holds : clears db → HoldsHexText db)
    (isColumn : name ∈ table.names) (isTarget : name ∈ target.names)
    (isFinal : final name = repairRow (clears db) target.name carried name) :
    ValueKept db target row final name := by
  have other : "midnight_ContractActions" ≠ "midnight_Transactions" := by decide
  rw [named, repairRow, if_neg other, if_pos rfl] at isFinal
  by_cases isState : name = "state"
  · have null : final name = .null := by
      rw [isFinal, isState]
      cases clears db <;> simp [setNull]
    rcases states with holdsText | isNull
    · right; right; right
      refine ⟨holdsText, null, Or.inr ?_⟩
      rw [named, isState]
      decide
    · left
      rw [null, isState, isNull]
  · by_cases isAddress : clears db ∧ name = "address"
    · have null : final name = .null := by
        rw [isFinal, if_pos isAddress.1, isAddress.2]
        simp [setNull]
      right; right; right
      refine ⟨holds isAddress.1, null, Or.inr ?_⟩
      rw [named, isAddress.2]
      decide
    · apply valueKept_of_carried isCarried isColumn isTarget
      rw [isFinal]
      apply if_neg
      intro listed
      split at listed
      next cleared =>
        rcases List.mem_cons.1 listed with state | rest
        · exact isState state
        · exact isAddress ⟨cleared, List.mem_singleton.1 rest⟩
      · exact isState (List.mem_singleton.1 listed)

theorem block_kept
    (named : target.name = "midnight_Blocks") (isCarried : CarriedRow table target row carried)
    (root : "stateRoot" ∈ target.names ∧ carried "stateRoot" = row "stateRoot")
    (parameters : "ledgerParameters" ∈ target.names ∧
      carried "ledgerParameters" = row "ledgerParameters")
    (isFinal : ∀ name ∈ target.names, final name = repairRow (clears db) target.name carried name)
    (isColumn : name ∈ table.names) (isTarget : name ∈ target.names) :
    ValueKept db target row final name := by
  have repaired : repairRow (clears db) target.name carried = moveStateRoot carried := by
    rw [named, repairRow, if_neg (by decide), if_neg (by decide), if_pos rfl]
  rw [repaired] at isFinal
  by_cases misplaced : carried "stateRoot" = .null ∧ carried "ledgerParameters" ≠ .null
  · rw [moveStateRoot, if_pos misplaced] at isFinal
    by_cases isMoved : name = "stateRoot" ∨ name = "ledgerParameters"
    · right; right; left
      refine ⟨isMoved, named, root.2.symm.trans misplaced.1, ?_, ?_⟩
      · rw [isFinal "stateRoot" root.1, if_pos rfl, parameters.2]
      · rw [isFinal "ledgerParameters" parameters.1, if_neg (by decide), if_pos rfl]
    · rw [not_or] at isMoved
      apply valueKept_of_carried isCarried isColumn isTarget
      rw [isFinal name isTarget, if_neg isMoved.1, if_neg isMoved.2]
  · apply valueKept_of_carried isCarried isColumn isTarget
    rw [isFinal name isTarget, moveStateRoot, if_neg misplaced]

section Ran

variable (ran : migrate model db = some after)

include ran

/-- A run over old data keeps what it has to keep. -/
theorem keeps_of_oldData
    (written : ∀ row ∈ db.rowsOf "midnight_Transactions", likeHex (row "raw") → hexText (row "raw"))
    (states : HoldsHexText db ∨ ∀ row ∈ db.rowsOf "midnight_ContractActions", row "state" = .null) :
    Keeps model db after := by
  have holds : clears db → HoldsHexText db := holdsHexText_of_clears written states
  intro target listed table isTable
  rcases migrate_rows ran listed isTable with ⟨kept, isKept, emptied | ⟨finish, rows, final⟩⟩
  · exact ⟨kept, isKept, Or.inr ⟨holds emptied.1, emptied.2⟩⟩
  · refine ⟨kept, isKept, Or.inl ((rowsKept_iff rows).2 ?_)⟩
    intro row isRow name isColumn isTarget
    rcases final row isRow with ⟨carried, isCarried, isFinal⟩
    have stored : ∀ tableName, target.name = tableName → row ∈ db.rowsOf tableName := by
      intro tableName named
      rw [← named, Database.rowsOf, isTable]
      exact isRow
    by_cases isTransactions : target.name = "midnight_Transactions"
    · have raw := carried_repaired listed "raw" (by rw [isTransactions]; decide) isCarried
      exact transaction_kept isTransactions isCarried raw.2 (stored _ isTransactions)
        (written row (stored _ isTransactions)) holds isColumn isTarget (isFinal name isTarget)
    · by_cases isActions : target.name = "midnight_ContractActions"
      · have state : HoldsHexText db ∨ row "state" = .null := by
          rcases states with holdsText | null
          · exact Or.inl holdsText
          · exact Or.inr (null row (stored _ isActions))
        exact contractAction_kept isActions isCarried state holds isColumn isTarget
          (isFinal name isTarget)
      · by_cases isBlocks : target.name = "midnight_Blocks"
        · have root := carried_repaired listed "stateRoot" (by rw [isBlocks]; decide) isCarried
          have parameters := carried_repaired listed "ledgerParameters"
            (by rw [isBlocks]; decide) isCarried
          exact block_kept isBlocks isCarried root parameters isFinal isColumn isTarget
        · apply valueKept_of_carried isCarried isColumn isTarget
          rw [isFinal name isTarget, repairRow, if_neg isTransactions, if_neg isActions,
            if_neg isBlocks]

/-- A run that changes no row leaves every row of a table of the model final. -/
theorem final_eq_self (same : Database.SameRows db after)
    {name column : String} (repaired : (name, column) ∈ repairedColumns)
    (notDerived : name ∉ derivedTables) (stored : row ∈ db.rowsOf name) :
    ∃ target table carried, target ∈ model.tables ∧ target.name = name ∧
      CarriedRow table target row carried ∧
      ∀ column ∈ target.names, row column = repairRow (clears db) name carried column := by
  obtain ⟨target, table, kept, finish, listed, rfl, isTable, isRow, isKept, rows, carried,
    isCarried, isFinal⟩ := repaired_row ran repaired notDerived stored
  have unchanged : table.rows.map finish = table.rows.map id := by
    have sameTable := same target.name
    simp only [Database.rowsOf, isKept, isTable, Option.elim_some] at sameTable
    rw [← rows, sameTable, List.map_id]
  have finishes : finish row = row := List.map_inj_left.1 unchanged row isRow
  rw [finishes] at isFinal
  exact ⟨target, table, carried, listed, rfl, isCarried, isFinal⟩

/-- A run that changes no row has found nothing to repair. -/
theorem nothing_to_repair (same : Database.SameRows db after) :
    (∀ row ∈ db.rowsOf "midnight_Transactions", likeHex (row "raw") = false) ∧
      (∀ row ∈ db.rowsOf "midnight_ContractActions", row "state" = .null) ∧
      ∀ row ∈ db.rowsOf "midnight_Blocks", row "stateRoot" = .null →
        row "ledgerParameters" = .null := by
  have rawRepaired : ("midnight_Transactions", "raw") ∈ repairedColumns := by decide
  have stateRepaired : ("midnight_ContractActions", "state") ∈ repairedColumns := by decide
  have rootRepaired : ("midnight_Blocks", "stateRoot") ∈ repairedColumns := by decide
  have parametersRepaired : ("midnight_Blocks", "ledgerParameters") ∈ repairedColumns := by decide
  refine ⟨?_, ?_, ?_⟩
  · intro row stored
    rcases final_eq_self ran same rawRepaired (by decide) stored with
      ⟨target, table, carried, listed, named, isCarried, isFinal⟩
    rcases carried_repaired listed "raw" (by rw [named]; exact rawRepaired) isCarried with
      ⟨isTarget, raw⟩
    by_contra like
    rw [Bool.not_eq_false] at like
    have null := isFinal "raw" isTarget
    rw [repairRow_raw (clears db) (by rw [raw]; exact like)] at null
    rw [null] at like
    cases like
  · intro row stored
    rcases final_eq_self ran same stateRepaired (by decide) stored with
      ⟨target, table, carried, listed, named, isCarried, isFinal⟩
    rcases carried_repaired listed "state" (by rw [named]; exact stateRepaired) isCarried with
      ⟨isTarget, _⟩
    rw [isFinal "state" isTarget, repairRow_state]
  · intro row stored noRoot
    rcases final_eq_self ran same rootRepaired (by decide) stored with
      ⟨target, table, carried, listed, named, isCarried, isFinal⟩
    rcases carried_repaired listed "stateRoot" (by rw [named]; exact rootRepaired) isCarried with
      ⟨isRoot, root⟩
    rcases carried_repaired listed "ledgerParameters"
      (by rw [named]; exact parametersRepaired) isCarried with
      ⟨isParameters, parameters⟩
    by_contra held
    have misplaced : carried "stateRoot" = .null ∧ carried "ledgerParameters" ≠ .null := by
      rw [root, parameters]
      exact ⟨noRoot, held⟩
    have moved := isFinal "stateRoot" isRoot
    rw [repairRow, if_neg (by decide), if_neg (by decide), if_pos rfl, moveStateRoot,
      if_pos misplaced, if_pos rfl, noRoot] at moved
    exact misplaced.2 moved.symm

/-- A second run finds nothing to repair and changes no row. -/
theorem sameRows_of_migrated (migrated : Migrated model db)
    (raw : ∀ row ∈ db.rowsOf "midnight_Transactions", likeHex (row "raw") = false)
    (states : ∀ row ∈ db.rowsOf "midnight_ContractActions", row "state" = .null)
    (roots : ∀ row ∈ db.rowsOf "midnight_Blocks", row "stateRoot" = .null →
      row "ledgerParameters" = .null) : Database.SameRows db after := by
  rcases Option.map_eq_some_iff.1 ran with ⟨middle, walked, rfl⟩
  have walks := sameRows_walk migrated walked
  rw [← walks] at raw states roots
  exact walks.trans (sameRows_repairs raw states roots)

end Ran

/-- A run meets the law just if, where it succeeds, its repairs find nothing but old data. -/
theorem schema_delta_law_iff (model : SchemaModel) (db : Database) (statementFails : Bool) :
    Law model db (applySchemaDelta model db statementFails) ↔
      ((applySchemaDelta model db statementFails).succeeds → OnlyOldData model db) := by
  cases ended : applySchemaDelta model db statementFails with
  | done after =>
    have ran := migrate_of_done ended
    constructor
    · intro law _
      refine ⟨fun row stored like => written_of_keeps ran law.1 stored like,
        states_of_keeps ran law.1, ?_⟩
      intro migrated
      exact nothing_to_repair ran (law.2 migrated)
    · intro oldData
      have only := oldData rfl
      refine ⟨keeps_of_oldData ran only.written only.states, ?_⟩
      intro migrated
      rcases only.again migrated with ⟨raw, states, roots⟩
      exact sameRows_of_migrated ran migrated raw states roots
  | failed after =>
    constructor
    · nofun
    · intro _
      exact unchanged_of_failed ended

end Iff

/-- A nullable column without a default. -/
def plainColumn (name : String) : ModelColumn := ⟨name, false, none⟩

/-- A table keyed by one column. -/
def keyedTable (name key : String) (columns : List String) : ModelTable :=
  ⟨name, ⟨key, true, none⟩ :: columns.map plainColumn, [key], []⟩

/-- The tables that a repair reads or writes, with the columns it reads or writes. -/
def repairedModel : SchemaModel where
  tables := [
    keyedTable "midnight_Blocks" "ID" ["stateRoot", "ledgerParameters"],
    keyedTable "midnight_Transactions" "ID" ("raw" :: envelopeColumns),
    keyedTable "midnight_ContractActions" "ID" ["address", "state"],
    keyedTable "midnight_UnshieldedUtxos" "ID" ["owner", "value"],
    keyedTable "midnight_NightBalances" "address" ["balance"]]
  distinct := by decide
  distinctColumns := by decide
  repaired := by decide

/-- A call whose contract state the server keeps. -/
def keptAction : SqlRow
  | "ID" => .text "action"
  | "address" => .text "contract"
  | "state" => .blob [1, 2, 3]
  | _ => .null

/-- A database of the current server that keeps the history of contract states. -/
def currentDatabase : Database := fun name =>
  (repairedModel.tables.find? fun target => target.name = name).map fun target =>
    .ofRows target.create.columns target.create.uniqueKeys
      (if name = "midnight_ContractActions" then [keptAction] else [])

/-- A run drops the contract states that the server keeps, and what it reads from the chain. -/
theorem schema_delta_drops_kept_states :
    ¬ ∀ (model : SchemaModel) (db : Database) (statementFails : Bool),
      Law model db (applySchemaDelta model db statementFails) := by
  intro always
  have law := always repairedModel currentDatabase false
  have runs : (migrate repairedModel currentDatabase).isSome := by decide +kernel
  rcases Option.isSome_iff_exists.1 runs with ⟨after, ran⟩
  rw [done_of_migrate ran] at law
  rcases states_of_keeps ran law.1 with ⟨row, stored, _⟩ | null
  · have none : currentDatabase.rowsOf "midnight_Transactions" = [] := by rfl
    rw [none] at stored
    cases stored
  · have held := null (keptAction.within ["ID", "address", "state"]) (List.mem_singleton.2 rfl)
    cases held

end Nightgate.Scripts
