import Nightgate.Scripts.SchemaDelta

/-!
# The repairs of a migration

After the walk over the tables three repairs tell old data by its shape: extrinsic bytes that were
stored as text, the copies of contract states, and state roots in the column of the ledger
parameters. The whole run is one transaction.

The first two are one: whenever a contract state is held, the values derived from the extrinsic
envelopes are dropped as well. Nothing but the first repair is about old data, since the server
keeps contract states by configuration.
-/

namespace Nightgate.Scripts

open Library

/-- `LIKE '0x%'`, which does not tell the case of a letter. -/
def likeHex : SqlValue → Bool
  | .text value =>
    match value.toList with
    | '0' :: letter :: _ => letter = 'x' || letter = 'X'
    | _ => false
  | _ => false

def setNull (names : List String) (row : SqlRow) : SqlRow :=
  fun name => if name ∈ names then .null else row name

def lossyRaw (db : Database) : Bool :=
  (db.rowsOf "midnight_Transactions").any fun row => likeHex (row "raw")

def heldStates (db : Database) : Bool :=
  (db.rowsOf "midnight_ContractActions").any fun row => row "state" ≠ .null

def clearRaw (db : Database) : Database :=
  db.updateTable "midnight_Transactions" fun transactions =>
    transactions.update fun row => if likeHex (row "raw") then setNull ["raw"] row else row

def clearStates (db : Database) : Database :=
  db.updateTable "midnight_ContractActions" fun actions => actions.update (setNull ["state"])

def envelopeColumns : List String :=
  ["contractAddress", "senderAddress", "receiverAddress", "nightAmount"]

/-- Values derived from the extrinsic envelope. -/
def clearEnvelope (db : Database) : Database :=
  let addresses := db.updateTable "midnight_ContractActions" fun actions =>
    actions.update (setNull ["address"])
  let parties := addresses.updateTable "midnight_Transactions" fun transactions =>
    transactions.update (setNull envelopeColumns)
  let outputs := parties.updateTable "midnight_UnshieldedUtxos" StoredTable.clear
  outputs.updateTable "midnight_NightBalances" StoredTable.clear

/-- Whether the values derived from the envelopes are dropped. -/
def clears (db : Database) : Bool := lossyRaw db || heldStates db

def clearLossy (db : Database) : Database :=
  if (db "midnight_Transactions").isSome then
    if clears db then clearEnvelope (clearStates (clearRaw db)) else clearStates (clearRaw db)
  else db

/-- The value is good, the column was wrong. -/
def moveStateRoot (row : SqlRow) : SqlRow :=
  if row "stateRoot" = .null ∧ row "ledgerParameters" ≠ .null then
    fun name =>
      if name = "stateRoot" then row "ledgerParameters"
      else if name = "ledgerParameters" then .null
      else row name
  else row

def moveStateRoots (db : Database) : Database :=
  db.updateTable "midnight_Blocks" fun blocks =>
    if "stateRoot" ∈ blocks.names ∧ "ledgerParameters" ∈ blocks.names then
      blocks.update moveStateRoot
    else blocks

/-! ## A run -/

/-- The columns that a repair reads or writes. -/
def repairedColumns : List (String × String) := [
  ("midnight_Transactions", "raw"), ("midnight_Transactions", "contractAddress"),
  ("midnight_Transactions", "senderAddress"), ("midnight_Transactions", "receiverAddress"),
  ("midnight_Transactions", "nightAmount"), ("midnight_ContractActions", "state"),
  ("midnight_ContractActions", "address"), ("midnight_Blocks", "stateRoot"),
  ("midnight_Blocks", "ledgerParameters")]

/-- The tables of the compiled model. The repaired columns have no default. -/
structure SchemaModel where
  tables : List ModelTable
  distinct : (tables.map ModelTable.name).Nodup
  distinctColumns : ∀ target ∈ tables, target.names.Nodup
  repaired : ∀ repair ∈ repairedColumns, ∃ target ∈ tables, target.name = repair.1 ∧
    ∃ column ∈ target.columns, column.name = repair.2 ∧ column.fallback = none

def migrate (model : SchemaModel) (db : Database) : Option Database :=
  (migrateTables model.tables db).map fun db => moveStateRoots (clearLossy db)

inductive DeltaOutcome where
  | done (after : Database)
  | failed (after : Database)

def DeltaOutcome.succeeds : DeltaOutcome → Bool
  | .done _ => true
  | .failed _ => false

/-- One transaction: it is rolled back when a statement fails, of the walk or about an index, a
trigger or a view. -/
def applySchemaDelta (model : SchemaModel) (db : Database) (statementFails : Bool) :
    DeltaOutcome :=
  match statementFails, migrate model db with
  | false, some after => .done after
  | _, _ => .failed db

theorem done_of_migrate {model : SchemaModel} {db after : Database}
    (ran : migrate model db = some after) : applySchemaDelta model db false = .done after := by
  simp only [applySchemaDelta, ran]

theorem migrate_of_done {model : SchemaModel} {db after : Database} {statementFails : Bool}
    (ended : applySchemaDelta model db statementFails = .done after) :
    migrate model db = some after := by
  cases ran : migrate model db with
  | none => cases statementFails <;> simp [applySchemaDelta, ran] at ended
  | some other =>
    cases statementFails with
    | true => simp [applySchemaDelta] at ended
    | false =>
      rw [done_of_migrate ran] at ended
      cases ended
      rfl

theorem unchanged_of_failed {model : SchemaModel} {db after : Database} {statementFails : Bool}
    (ended : applySchemaDelta model db statementFails = .failed after) : after = db := by
  cases ran : migrate model db with
  | none | some => cases statementFails <;> simp_all [applySchemaDelta]

/-- What the repairs make of a row of a table. -/
def repairRow (cleared : Bool) (name : String) (row : SqlRow) : SqlRow :=
  if name = "midnight_Transactions" then
    setNull (if cleared then envelopeColumns else [])
      (if likeHex (row "raw") then setNull ["raw"] row else row)
  else if name = "midnight_ContractActions" then
    setNull (if cleared then ["state", "address"] else ["state"]) row
  else if name = "midnight_Blocks" then moveStateRoot row
  else row

theorem sameSchema_clearEnvelope (db : Database) : Database.SameSchema db (clearEnvelope db) := by
  have keeps : ∀ (names : List String) (table : StoredTable),
      (table.update (setNull names)).schema = table.schema := fun _ _ => rfl
  have empties : ∀ table : StoredTable, table.clear.schema = table.schema := fun _ => rfl
  exact (((Database.sameSchema_updateTable db _ (keeps ["address"])).trans
    (Database.sameSchema_updateTable _ _ (keeps envelopeColumns))).trans
    (Database.sameSchema_updateTable _ _ empties)).trans
    (Database.sameSchema_updateTable _ _ empties)

theorem sameSchema_clearStates (db : Database) :
    Database.SameSchema db (clearStates (clearRaw db)) := by
  have raw : Database.SameSchema db (clearRaw db) :=
    Database.sameSchema_updateTable db _ fun _ => rfl
  exact raw.trans (Database.sameSchema_updateTable _ _ fun _ => rfl)

/-- The repairs change rows only. -/
theorem sameSchema_repairs (db : Database) :
    Database.SameSchema db (moveStateRoots (clearLossy db)) := by
  have cleared : Database.SameSchema db (clearLossy db) := by
    rw [clearLossy]
    split
    · split
      · exact (sameSchema_clearStates db).trans (sameSchema_clearEnvelope _)
      · exact sameSchema_clearStates db
    · exact fun name => rfl
  apply cleared.trans
  apply Database.sameSchema_updateTable
  intro blocks
  split
  · rfl
  · rfl

/-- The tables whose rows are read anew from the chain. -/
def derivedTables : List String := ["midnight_UnshieldedUtxos", "midnight_NightBalances"]

/-- The rows of a table after the repairs. -/
def RepairedFrom (cleared : Bool) (name : String) (table after : StoredTable) : Prop :=
  after.rows = table.rows.map fun row => (repairRow cleared name row).within table.names

theorem within_setNull (names columns : List String) (row : SqlRow) :
    (setNull names (row.within columns)).within columns = (setNull names row).within columns := by
  funext name
  by_cases listed : name ∈ columns
  · rw [SqlRow.within_of_mem listed, SqlRow.within_of_mem listed]
    unfold setNull
    rw [SqlRow.within_of_mem listed]
  · rw [SqlRow.within_of_not_mem listed, SqlRow.within_of_not_mem listed]

theorem rows_update_update (table : StoredTable) (names : List String) (change : SqlRow → SqlRow) :
    ((table.update change).update (setNull names)).rows =
      table.rows.map fun row => (setNull names (change row)).within table.names := by
  rw [StoredTable.rows_update, StoredTable.rows_update, List.map_map]
  apply List.map_congr_left
  intro row _
  exact within_setNull names table.names (change row)

@[simp] theorem setNull_nil (row : SqlRow) : setNull [] row = row := by
  funext name
  exact if_neg (List.not_mem_nil)

theorem setNull_setNull (first second : List String) (row : SqlRow) :
    setNull second (setNull first row) = setNull (first ++ second) row := by
  funext name
  unfold setNull
  by_cases inSecond : name ∈ second
  · simp [inSecond]
  · by_cases inFirst : name ∈ first <;> simp [inFirst, inSecond]

section Repairs

variable {db : Database} {table : StoredTable}

theorem clearLossy_of_clears (transactions : (db "midnight_Transactions").isSome)
    (cleared : clears db = true) :
    clearLossy db = clearEnvelope (clearStates (clearRaw db)) := by
  unfold clearLossy
  rw [if_pos transactions, if_pos cleared]

theorem clearLossy_of_not_clears (transactions : (db "midnight_Transactions").isSome)
    (cleared : clears db = false) : clearLossy db = clearStates (clearRaw db) := by
  unfold clearLossy
  rw [if_pos transactions, if_neg (by rw [cleared]; exact Bool.false_ne_true)]

theorem repaired_transactions (stored : db "midnight_Transactions" = some table) :
    ∃ after, moveStateRoots (clearLossy db) "midnight_Transactions" = some after ∧
      RepairedFrom (clears db) "midnight_Transactions" table after := by
  have transactions : (db "midnight_Transactions").isSome := by rw [stored]; rfl
  cases cleared : clears db with
  | true =>
    refine ⟨(table.update fun row =>
      if likeHex (row "raw") then setNull ["raw"] row else row).update
        (setNull envelopeColumns), ?_, ?_⟩
    · rw [clearLossy_of_clears transactions cleared]
      simp [moveStateRoots, clearEnvelope, clearStates, clearRaw, Database.updateTable,
        Function.update, stored]
    · exact rows_update_update ..
  | false =>
    refine ⟨table.update fun row =>
      if likeHex (row "raw") then setNull ["raw"] row else row, ?_, ?_⟩
    · rw [clearLossy_of_not_clears transactions cleared]
      simp [moveStateRoots, clearStates, clearRaw, Database.updateTable, Function.update, stored]
    · unfold RepairedFrom repairRow
      rw [StoredTable.rows_update]
      simp only [if_true, Bool.false_eq_true, if_false, setNull_nil]

theorem repaired_contractActions (transactions : (db "midnight_Transactions").isSome)
    (stored : db "midnight_ContractActions" = some table) :
    ∃ after, moveStateRoots (clearLossy db) "midnight_ContractActions" = some after ∧
      RepairedFrom (clears db) "midnight_ContractActions" table after := by
  cases cleared : clears db with
  | true =>
    refine ⟨(table.update (setNull ["state"])).update (setNull ["address"]), ?_, ?_⟩
    · rw [clearLossy_of_clears transactions cleared]
      simp [moveStateRoots, clearEnvelope, clearStates, clearRaw, Database.updateTable,
        Function.update, stored]
    · unfold RepairedFrom repairRow
      rw [rows_update_update]
      simp [setNull_setNull]
  | false =>
    refine ⟨table.update (setNull ["state"]), ?_, ?_⟩
    · rw [clearLossy_of_not_clears transactions cleared]
      simp [moveStateRoots, clearStates, clearRaw, Database.updateTable, Function.update, stored]
    · unfold RepairedFrom repairRow
      rw [StoredTable.rows_update]
      simp

theorem repaired_blocks (transactions : (db "midnight_Transactions").isSome)
    (stored : db "midnight_Blocks" = some table) (stateRoot : "stateRoot" ∈ table.names)
    (ledgerParameters : "ledgerParameters" ∈ table.names) :
    ∃ after, moveStateRoots (clearLossy db) "midnight_Blocks" = some after ∧
      RepairedFrom (clears db) "midnight_Blocks" table after := by
  refine ⟨table.update moveStateRoot, ?_, ?_⟩
  · have kept : clearLossy db "midnight_Blocks" = some table := by
      cases cleared : clears db with
      | true =>
        rw [clearLossy_of_clears transactions cleared]
        simp [clearEnvelope, clearStates, clearRaw, Database.updateTable, Function.update, stored]
      | false =>
        rw [clearLossy_of_not_clears transactions cleared]
        simp [clearStates, clearRaw, Database.updateTable, Function.update, stored]
    unfold moveStateRoots
    rw [Database.updateTable_self, kept, Option.map_some, if_pos ⟨stateRoot, ledgerParameters⟩]
  · unfold RepairedFrom repairRow
    rw [StoredTable.rows_update]
    simp

/-- The tables whose rows are read anew are emptied or left alone. -/
theorem repaired_derived (transactions : (db "midnight_Transactions").isSome) {name : String}
    (derived : name ∈ derivedTables) (stored : db name = some table) :
    ∃ after, moveStateRoots (clearLossy db) name = some after ∧
      after.rows = if clears db then [] else table.rows := by
  unfold derivedTables at derived
  cases cleared : clears db with
  | true =>
    refine ⟨table.clear, ?_, rfl⟩
    rw [clearLossy_of_clears transactions cleared]
    simp only [List.mem_cons, List.not_mem_nil, or_false] at derived
    rcases derived with rfl | rfl <;>
      simp [moveStateRoots, clearEnvelope, clearStates, clearRaw, Database.updateTable,
        Function.update, stored]
  | false =>
    refine ⟨table, ?_, rfl⟩
    rw [clearLossy_of_not_clears transactions cleared]
    simp only [List.mem_cons, List.not_mem_nil, or_false] at derived
    rcases derived with rfl | rfl <;>
      simp [moveStateRoots, clearStates, clearRaw, Database.updateTable, Function.update, stored]

/-- The repairs leave every other table alone. -/
theorem repaired_other {name : String} (notTransactions : name ≠ "midnight_Transactions")
    (notActions : name ≠ "midnight_ContractActions") (notBlocks : name ≠ "midnight_Blocks")
    (notDerived : name ∉ derivedTables) : moveStateRoots (clearLossy db) name = db name := by
  unfold derivedTables at notDerived
  simp only [List.mem_cons, List.not_mem_nil, or_false, not_or] at notDerived
  have cleared : ∀ db : Database, clearStates (clearRaw db) name = db name := by
    intro db
    simp [clearStates, clearRaw, Database.updateTable, Function.update, notTransactions, notActions]
  have envelope : ∀ db : Database, clearEnvelope db name = db name := by
    intro db
    simp [clearEnvelope, Database.updateTable, Function.update, notTransactions, notActions,
      notDerived.1, notDerived.2]
  unfold moveStateRoots
  rw [Database.updateTable_ne _ _ notBlocks]
  unfold clearLossy
  split
  · split
    · rw [envelope, cleared]
    · exact cleared db
  · rfl

end Repairs

end Nightgate.Scripts
