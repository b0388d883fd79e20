import Nightgate.Crawler.RollbackUndo

/-!
# Orphans of the trailing passes

A pass reads rows, decodes or fetches for a while, and then writes by ID. The crawler's blocks and
rollbacks come in between, and only the cursor is compared at the end.
-/

namespace Nightgate.Crawler

open Library

/-- The supplement within one block. -/
inductive SupplementWork where
  | idle
  /-- The indexer answered; its transactions are looked up next. -/
  | fetched (height : Nat) (transactions : List SupplementTransaction)
  /-- The transactions found, one database transaction each. -/
  | writing (height : Nat) (todo : List (Nat × SupplementTransaction))

/-- A transaction with the identifiers of its JSON list. -/
abbrev ListedIdentifiers := Nat × List Hash

/-- The identifier backfill between two statements. -/
inductive Backfill where
  /-- The batch at the offset is read next. -/
  | reading (offset : Nat)
  /-- A batch was read; the rows that have their identifiers are looked up next. -/
  | batch (offset : Nat) (rows : List ListedIdentifiers)
  /-- The rows to fill in: old rows are deleted next. -/
  | filling (offset : Nat) (rows : List ListedIdentifiers)
  /-- The rows of the first transaction are inserted next. -/
  | inserting (offset : Nat) (row : ListedIdentifiers) (rest : List ListedIdentifiers)
  | done

structure Trailing where
  tables : IndexTables
  runs : PassCursorColumn → PassRun
  /-- The rows of the block being decoded. -/
  decoding : Option (List TransactionColumns)
  supplement : SupplementWork
  backfill : Backfill

def Trailing.initial : Trailing where
  tables := .empty
  runs := fun _ => .idle
  decoding := none
  supplement := .idle
  backfill := .reading 0

inductive TrailingEvent where
  | persist (block : IndexedBlock) (requireParent : Bool)
  | rollback (fromHeight : Nat)
  | begin (column : PassCursorColumn)
  | range (column : PassCursorColumn)
  /-- `decodeBlock` reads the rows of the next block. -/
  | readBlock
  /-- The payloads are decoded, and the block's updates are written. -/
  | writeBlock (payload : Nat → LedgerPayload)
  /-- The indexer answers for the next block. -/
  | answer (transactions : List SupplementTransaction)
  | lookUp
  /-- The database transaction of the next transaction found. -/
  | writeTransaction
  /-- The supplement stops, or the indexer has not reached the next block. -/
  | endBefore
  | save (column : PassCursorColumn)
  | fail (column : PassCursorColumn)
  | redecode (height : Nat)
  | backfillBatch
  | backfillLookUp
  | backfillDelete
  | backfillInsert
  | backfillFails

namespace Trailing

def setRun (state : Trailing) (column : PassCursorColumn) (run : PassRun) : Trailing :=
  { state with runs := Function.update state.runs column run }

/-- The run after its next block was processed. -/
def finishBlock (state : Trailing) (column : PassCursorColumn) : Trailing :=
  match state.runs column with
  | .working start done (block :: todo) =>
    state.setRun column (processRun start done block todo)
  | _ => state

/-- The rows of `decodeBlock`. -/
def rowsOfBlock (tables : IndexTables) (blockID : Nat) : List TransactionColumns :=
  tables.derived.columns.filter fun row => tables.db.transactions.any fun transaction =>
    transaction.ID = row.transactionID ∧ transaction.blockID = blockID

/-- The updates of a block, in one database transaction. -/
def writeUpdates (updates : List DecodeUpdate) (rows : DerivedRows) : DerivedRows :=
  updates.foldl (fun rows update => applyFacts update rows) rows

def decodedUpdates (rows : List TransactionColumns) (payload : Nat → LedgerPayload) :
    List DecodeUpdate :=
  rows.map fun row => decodeUpdate row (payload row.transactionID)

/-- The lookup of `applyBlock`. A later row of the same hash replaces an earlier one in the map. -/
def byHash (tables : IndexTables) (ledgerTxHash : Hash) : Option Nat :=
  (tables.derived.columns.reverse.find? fun row => row.ledgerTxHash = some ledgerTxHash).map
    TransactionColumns.transactionID

/-- The supplement goes on with the transactions found, or with the next block. -/
def continueBlock (state : Trailing) (height : Nat) (todo : List (Nat × SupplementTransaction)) :
    Trailing :=
  match todo with
  | [] => { state with supplement := .idle }.finishBlock .lastSupplementedHeight
  | _ :: _ => { state with supplement := .writing height todo }

/-- The rows of a batch with a JSON list, in the order of their IDs. -/
def listedIdentifiers (tables : IndexTables) : List ListedIdentifiers :=
  (tables.derived.columns.insertionSort fun left right =>
    left.transactionID ≤ right.transactionID).filterMap fun row =>
      row.identifiers.map fun list => (row.transactionID, list)

def backfillNext (state : Trailing) (offset : Nat) (rows : List ListedIdentifiers) : Trailing :=
  match rows with
  | [] => { state with backfill := .reading offset }
  | _ :: _ => { state with backfill := .filling offset rows }

/-- `INSERT` of the identifiers of a transaction. -/
def insertIdentifiers (row : ListedIdentifiers) (rows : DerivedRows) : DerivedRows :=
  { rows with
    identifiers := rows.identifiers ++ row.2.eraseDups.map fun identifier =>
      { identifier, transactionID := row.1 } }

/-- The key of `TransactionIdentifiers` refuses a row it has. -/
def takenIdentifiers (row : ListedIdentifiers) (rows : DerivedRows) : Bool :=
  rows.identifiers.any fun stored => stored.transactionID = row.1 && stored.identifier ∈ row.2

end Trailing

/-- One event. An event that does not fit changes nothing. -/
def trailingStep (config : SupplementConfig) (passConfig : PassCursorColumn → PassConfig)
    (batchSize : Nat) (state : Trailing) : TrailingEvent → Trailing
  | .persist block requireParent =>
    { state with tables := tableStep config state.tables (.persist block requireParent) }
  | .rollback fromHeight => { state with tables := rollbackTables state.tables fromHeight }
  | .begin column =>
    match state.runs column with
    | .idle =>
      state.setRun column (beginRun (passConfig column) state.tables.db.syncState column)
    | _ => state
  | .range column =>
    match state.runs column with
    | .ranging window =>
      state.setRun column (rangeRun (passConfig column) state.tables.db window)
    | _ => state
  | .readBlock =>
    match state.decoding, state.runs .lastDecodedHeight with
    | none, .working _ _ (block :: _) =>
      { state with decoding := some (Trailing.rowsOfBlock state.tables block.ID) }
    | _, _ => state
  | .writeBlock payload =>
    match state.decoding with
    | some rows =>
      { state with
        tables := state.tables.onRows (Trailing.writeUpdates (Trailing.decodedUpdates rows payload))
        decoding := none }.finishBlock .lastDecodedHeight
    | none => state
  | .answer transactions =>
    match state.supplement, state.runs .lastSupplementedHeight with
    | .idle, .working _ _ (block :: _) =>
      { state with supplement := .fetched block.height transactions }
    | _, _ => state
  | .lookUp =>
    match state.supplement with
    | .fetched height transactions =>
      state.continueBlock height (transactions.filterMap fun transaction =>
        (Trailing.byHash state.tables transaction.ledgerTxHash).map (·, transaction))
    | _ => state
  | .writeTransaction =>
    match state.supplement with
    | .writing height ((txID, transaction) :: todo) =>
      { state with
        tables := supplementTransaction config txID height transaction state.tables
        }.continueBlock height todo
    | _ => state
  | .endBefore =>
    match state.supplement, state.runs .lastSupplementedHeight with
    | .idle, .working start done (block :: _) =>
      state.setRun .lastSupplementedHeight (endBefore start done block)
    | _, _ => state
  | .save column =>
    match state.runs column with
    | .saving start height =>
      { state with
        tables := state.tables.setSync
          (advancePassCursor state.tables.db.syncState column start height)
        }.setRun column .idle
    | _ => state
  | .fail .lastDecodedHeight =>
    { state with decoding := none }.setRun .lastDecodedHeight .idle
  | .fail .lastSupplementedHeight =>
    { state with supplement := .idle }.setRun .lastSupplementedHeight .idle
  | .redecode height =>
    { state with
      tables := state.tables.setSync (redecodeFromHeight state.tables.db.syncState height) }
  | .backfillBatch =>
    match state.backfill with
    | .reading offset =>
      match ((Trailing.listedIdentifiers state.tables).drop offset).take batchSize with
      | [] => { state with backfill := .done }
      | row :: rows =>
        { state with backfill := .batch (offset + (row :: rows).length) (row :: rows) }
    | _ => state
  | .backfillLookUp =>
    match state.backfill with
    | .batch offset rows =>
      state.backfillNext offset (rows.filter fun row => row.2 ≠ [] ∧
        ¬ state.tables.derived.identifiers.any fun stored => stored.transactionID = row.1)
    | _ => state
  | .backfillDelete =>
    match state.backfill with
    | .filling offset (row :: rest) =>
      { state with
        tables := state.tables.onRows fun rows => { rows with
          identifiers := deleteOf TransactionIdentifier.transactionID [row.1] rows.identifiers }
        backfill := .inserting offset row rest }
    | _ => state
  | .backfillInsert =>
    match state.backfill with
    | .inserting offset row rest =>
      if Trailing.takenIdentifiers row state.tables.derived then
        { state with backfill := .done }
      else
        { state with
          tables := state.tables.onRows (Trailing.insertIdentifiers row)
          }.backfillNext offset rest
    | _ => state
  | .backfillFails => { state with backfill := .done }

/-! ## The claim -/

/-- Every row below the transactions refers to a stored transaction, result or action, and the
current state of a contract to a stored action. -/
structure NoOrphans (tables : IndexTables) : Prop where
  derived : tables.derived.Intact tables.txIDs
  contractStates : ∀ state ∈ tables.contractStates,
    state.contractActionID ∈ tables.derived.actions.map ContractAction.ID

/-- A write that inserts rows finds its transaction stored, and the current state of a contract is
not filed below the block of its action. -/
def WritesStored (state : Trailing) : TrailingEvent → Prop
  | .writeBlock payload => ∀ rows, state.decoding = some rows →
      ∀ update ∈ Trailing.decodedUpdates rows payload, ∀ facts, update.facts = some facts →
        facts.identifiers ≠ [] → update.id ∈ state.tables.txIDs
  | .writeTransaction => ∀ height txID transaction todo,
      state.supplement = .writing height ((txID, transaction) :: todo) →
        (transaction.zswapEvents ≠ [] → txID ∈ state.tables.txIDs) ∧
        (transaction.dustEvents ≠ [] → txID ∈ state.tables.txIDs) ∧
        (recordsState state.tables.contractStates height
            (pairedActions (actionsOf state.tables.derived txID) transaction.contractActions) →
          TransactionUpTo state.tables.db txID height)
  | .backfillInsert => ∀ offset row rest, state.backfill = .inserting offset row rest →
      Trailing.takenIdentifiers row state.tables.derived = false → row.2 ≠ [] →
        row.1 ∈ state.tables.txIDs
  | _ => True

section Writes

variable {txIDs : List Nat} {rows : DerivedRows}

theorem nameCalls_columns_identifiers (txID : Nat) (declared : List DeclaredContractAction)
    (rows : DerivedRows) :
    (nameCalls txID declared rows).columns = rows.columns ∧
      (nameCalls txID declared rows).identifiers = rows.identifiers := by
  unfold nameCalls
  generalize namedCalls (callsOf rows txID) declared = calls
  induction calls generalizing rows with
  | nil => exact ⟨rfl, rfl⟩
  | cons call rest ih => exact ih (setEntryPoint rows call)

theorem applyFacts_columns (update : DecodeUpdate) (rows : DerivedRows) :
    (applyFacts update rows).columns.map TransactionColumns.transactionID =
      rows.columns.map TransactionColumns.transactionID := by
  unfold applyFacts
  split
  · exact map_updateOf fun _ => rfl
  · rw [(nameCalls_columns_identifiers ..).1]
    exact map_updateOf fun _ => rfl

/-- The identifier rows of other transactions stay. -/
theorem applyFacts_keeps {update : DecodeUpdate} {row : TransactionIdentifier}
    (stored : row ∈ rows.identifiers) (other : row.transactionID ≠ update.id) :
    row ∈ (applyFacts update rows).identifiers := by
  unfold applyFacts
  split
  · exact stored
  · rw [(nameCalls_columns_identifiers ..).2]
    exact List.mem_append_left _ (mem_deleteOf.mpr ⟨stored, by simpa using other⟩)

/-- The identifier rows of a decoded transaction. -/
theorem applyFacts_inserts {update : DecodeUpdate} {facts : LedgerPayloadFacts}
    (decoded : update.facts = some facts) (some : facts.identifiers ≠ []) (rows : DerivedRows) :
    ∃ row ∈ (applyFacts update rows).identifiers, row.transactionID = update.id := by
  rcases List.exists_mem_of_ne_nil _ some with ⟨identifier, listed⟩
  refine ⟨{ identifier, transactionID := update.id }, ?_, rfl⟩
  unfold applyFacts
  rw [decoded]
  rw [(nameCalls_columns_identifiers ..).2]
  exact List.mem_append_right _ (List.mem_map_of_mem (List.mem_eraseDups.mpr listed))

theorem writeUpdates_columns (updates : List DecodeUpdate) (rows : DerivedRows) :
    (Trailing.writeUpdates updates rows).columns.map TransactionColumns.transactionID =
      rows.columns.map TransactionColumns.transactionID := by
  induction updates generalizing rows with
  | nil => rfl
  | cons update rest ih => exact (ih _).trans (applyFacts_columns update rows)

theorem writeUpdates_actionIDs (updates : List DecodeUpdate) (rows : DerivedRows) :
    (Trailing.writeUpdates updates rows).actions.map ContractAction.ID =
      rows.actions.map ContractAction.ID := by
  induction updates generalizing rows with
  | nil => rfl
  | cons update rest ih => exact (ih _).trans (applyFacts_actionIDs update rows)

variable {updates : List DecodeUpdate}

theorem writeUpdates_intact (intact : rows.Intact txIDs)
    (stored : ∀ update ∈ updates, ∀ facts, update.facts = some facts → facts.identifiers ≠ [] →
      update.id ∈ txIDs) : (Trailing.writeUpdates updates rows).Intact txIDs := by
  induction updates generalizing rows with
  | nil => exact intact
  | cons update rest ih =>
    rcases List.forall_mem_cons.mp stored with ⟨now, later⟩
    exact ih (intact.applyFacts now) later

theorem writeUpdates_keeps {row : TransactionIdentifier}
    (stored : row ∈ rows.identifiers) (other : ∀ update ∈ updates, row.transactionID ≠ update.id) :
    row ∈ (Trailing.writeUpdates updates rows).identifiers := by
  induction updates generalizing rows with
  | nil => exact stored
  | cons update rest ih =>
    rcases List.forall_mem_cons.mp other with ⟨now, later⟩
    exact ih (applyFacts_keeps stored now) later

/-- Updates of different transactions that leave no orphan were for stored ones. -/
theorem stored_of_writeUpdates (distinct : (updates.map DecodeUpdate.id).Nodup)
    (intact : (Trailing.writeUpdates updates rows).Intact txIDs) :
    ∀ update ∈ updates, ∀ facts, update.facts = some facts → facts.identifiers ≠ [] →
      update.id ∈ txIDs := by
  intro update listed facts decoded some
  rcases List.append_of_mem listed with ⟨before, after, rfl⟩
  rw [List.map_append, List.map_cons, List.nodup_append] at distinct
  have others : update.id ∉ after.map DecodeUpdate.id := (List.nodup_cons.mp distinct.2.1).1
  have split : Trailing.writeUpdates (before ++ update :: after) rows =
      Trailing.writeUpdates after (applyFacts update (Trailing.writeUpdates before rows)) := by
    simp only [Trailing.writeUpdates, List.foldl_append, List.foldl_cons]
  rcases applyFacts_inserts decoded some (Trailing.writeUpdates before rows) with
    ⟨row, inserted, named⟩
  rw [split] at intact
  rw [← named]
  apply intact.identifiers row
  apply writeUpdates_keeps inserted
  intro other later same
  exact others (List.mem_map.mpr ⟨other, later, (named.symm.trans same).symm⟩)

end Writes

/-! ## Steps -/

section Steps

variable (config : SupplementConfig) (passConfig : PassCursorColumn → PassConfig) (batchSize : Nat)

namespace Trailing

variable (state : Trailing)

section Column

variable (column : PassCursorColumn)

@[simp] theorem setRun_tables (run : PassRun) :
    (state.setRun column run).tables = state.tables := rfl

@[simp] theorem setRun_decoding (run : PassRun) :
    (state.setRun column run).decoding = state.decoding := rfl

@[simp] theorem finishBlock_tables :
    (state.finishBlock column).tables = state.tables := by
  unfold finishBlock
  split <;> rfl

@[simp] theorem finishBlock_decoding :
    (state.finishBlock column).decoding = state.decoding := by
  unfold finishBlock
  split <;> rfl

end Column

@[simp] theorem continueBlock_tables (height : Nat) (todo : List (Nat × SupplementTransaction)) :
    (state.continueBlock height todo).tables = state.tables := by
  unfold continueBlock
  split
  · exact finishBlock_tables ..
  · rfl

@[simp] theorem continueBlock_decoding (height : Nat) (todo : List (Nat × SupplementTransaction)) :
    (state.continueBlock height todo).decoding = state.decoding := by
  unfold continueBlock
  split
  · exact finishBlock_decoding ..
  · rfl

@[simp] theorem backfillNext_tables (offset : Nat) (rows : List ListedIdentifiers) :
    (state.backfillNext offset rows).tables = state.tables := by
  unfold backfillNext
  split <;> rfl

@[simp] theorem backfillNext_decoding (offset : Nat) (rows : List ListedIdentifiers) :
    (state.backfillNext offset rows).decoding = state.decoding := by
  unfold backfillNext
  split <;> rfl

end Trailing

/-- The tables after an event. -/
def tablesAfter (config : SupplementConfig) (state : Trailing) : TrailingEvent → IndexTables
  | .persist block requireParent => tableStep config state.tables (.persist block requireParent)
  | .rollback fromHeight => rollbackTables state.tables fromHeight
  | .writeBlock payload =>
    match state.decoding with
    | some rows => state.tables.onRows
        (Trailing.writeUpdates (Trailing.decodedUpdates rows payload))
    | none => state.tables
  | .writeTransaction =>
    match state.supplement with
    | .writing height ((txID, transaction) :: _) =>
      supplementTransaction config txID height transaction state.tables
    | _ => state.tables
  | .save column =>
    match state.runs column with
    | .saving start height => state.tables.setSync
        (advancePassCursor state.tables.db.syncState column start height)
    | _ => state.tables
  | .redecode height => state.tables.setSync (redecodeFromHeight state.tables.db.syncState height)
  | .backfillDelete =>
    match state.backfill with
    | .filling _ (row :: _) => state.tables.onRows fun rows => { rows with
        identifiers := deleteOf TransactionIdentifier.transactionID [row.1] rows.identifiers }
    | _ => state.tables
  | .backfillInsert =>
    match state.backfill with
    | .inserting _ row _ =>
      if Trailing.takenIdentifiers row state.tables.derived then state.tables
      else state.tables.onRows (Trailing.insertIdentifiers row)
    | _ => state.tables
  | _ => state.tables

theorem trailingStep_tables (state : Trailing) (event : TrailingEvent) :
    (trailingStep config passConfig batchSize state event).tables =
      tablesAfter config state event := by
  cases event with
  | fail column => cases column <;> rfl
  | backfillBatch =>
    simp only [trailingStep, tablesAfter]
    split
    · split <;> rfl
    · rfl
  | backfillInsert =>
    simp only [trailingStep, tablesAfter]
    split
    · split
      · rfl
      · simp
    · rfl
  | _ => simp only [trailingStep, tablesAfter] <;> (try split) <;> simp

/-- Rows are read for decoding from the stored ones, all at once. -/
theorem trailingStep_decoding (state : Trailing) (event : TrailingEvent) :
    (trailingStep config passConfig batchSize state event).decoding = state.decoding ∨
      (trailingStep config passConfig batchSize state event).decoding = none ∨
      ∃ blockID, (trailingStep config passConfig batchSize state event).decoding =
        some (Trailing.rowsOfBlock state.tables blockID) := by
  cases event with
  | readBlock =>
    simp only [trailingStep]
    split
    · exact .inr (.inr ⟨_, rfl⟩)
    · exact .inl rfl
  | writeBlock payload =>
    simp only [trailingStep]
    split
    · exact .inr (.inl (by simp))
    · exact .inl rfl
  | fail column => cases column <;> [exact .inr (.inl rfl); exact .inl rfl]
  | backfillBatch =>
    simp only [trailingStep]
    split
    · split <;> exact .inl rfl
    · exact .inl rfl
  | backfillInsert =>
    simp only [trailingStep]
    split
    · split
      · exact .inl rfl
      · exact .inl (by simp)
    · exact .inl rfl
  | _ =>
    left
    simp only [trailingStep]
    try split
    all_goals simp

/-- What every state keeps: references, and one row of columns for a transaction. -/
structure TrailingSound (state : Trailing) : Prop where
  intact : state.tables.Intact
  columns : (state.tables.derived.columns.map TransactionColumns.transactionID).Nodup
  decoding : ∀ rows, state.decoding = some rows → (rows.map TransactionColumns.transactionID).Nodup

theorem TrailingSound.initial : TrailingSound .initial where
  intact := IndexTables.empty_intact
  columns := List.nodup_nil
  decoding := nofun

variable {tables : IndexTables}

theorem rowsOfBlock_nodup (blockID : Nat)
    (columns : (tables.derived.columns.map TransactionColumns.transactionID).Nodup) :
    ((Trailing.rowsOfBlock tables blockID).map TransactionColumns.transactionID).Nodup :=
  (List.filter_sublist.map _).nodup columns

theorem zip_fst_sublist {Left Right : Type*} (left : List Left) (right : List Right) :
    ((left.zip right).map Prod.fst).Sublist left := by
  induction left generalizing right with
  | nil => exact List.Sublist.refl []
  | cons first rest ih =>
    cases right with
    | nil => exact List.nil_sublist _
    | cons other others => exact (ih others).cons_cons first

theorem columns_derivedRows (txIDs : List Nat) (extrinsics : List IndexedExtrinsic) :
    ((derivedRows txIDs extrinsics).columns.map TransactionColumns.transactionID).Sublist
      txIDs := by
  have named : (derivedRows txIDs extrinsics).columns.map TransactionColumns.transactionID =
      (txIDs.zip extrinsics).map Prod.fst := by
    apply List.ext_getElem?
    intro position
    simp only [derivedRows, List.getElem?_map, List.getElem?_mapIdx, Option.map_map]
    rfl
  rw [named]
  exact zip_fst_sublist txIDs extrinsics

/-- A new block adds one row of columns for each of its transactions. -/
theorem columns_withBlock (block : IndexedBlock) (intact : tables.Intact)
    (columns : (tables.derived.columns.map TransactionColumns.transactionID).Nodup) :
    ((tables.withBlock block).derived.columns.map TransactionColumns.transactionID).Nodup := by
  have fresh := columns_derivedRows ((newRows tables.db block.prep).txRows.map Transaction.ID)
    block.extrinsics
  show ((tables.derived.columns ++ (derivedRows _ _).columns).map _).Nodup
  rw [List.map_append, List.nodup_append]
  refine ⟨columns, fresh.nodup (newRows_sound tables.db block.prep).txDistinct, ?_⟩
  intro old listed new added
  rcases List.mem_map.mp listed with ⟨row, stored, rfl⟩
  have below := lt_of_oldTx intact.wellFormed (intact.derived.columns row stored)
  have above := lt_of_newTx block.prep (fresh.subset added)
  omega

theorem columns_rollback (fromHeight : Nat)
    (columns : (tables.derived.columns.map TransactionColumns.transactionID).Nodup) :
    ((rollbackTables tables fromHeight).derived.columns.map
      TransactionColumns.transactionID).Nodup := by
  unfold rollbackTables
  split
  · exact columns
  · exact (List.filter_sublist.map _).nodup columns

theorem supplementRows_columns (config : SupplementConfig) (txID : Nat)
    (answer : SupplementTransaction) (rows : DerivedRows) :
    (supplementRows config txID answer rows).columns = rows.columns := by
  have folded : ∀ (pairs : List (ContractAction × SupplementContractAction)) (rows : DerivedRows),
      (pairs.foldl (assignRows config) rows).columns = rows.columns := by
    intro pairs
    induction pairs with
    | nil => exact fun _ => rfl
    | cons pair rest ih => exact fun rows => ih _
  have fee : (applyFee txID answer.fee rows).columns = rows.columns := by
    unfold applyFee
    split <;> rfl
  refine (folded _ _).trans (Eq.trans ?_ fee)
  unfold applySegments
  split
  · rfl
  split <;> rfl

/-- An allowed event keeps the references. -/
theorem tablesAfter_intact {state : Trailing} (sound : TrailingSound state)
    {event : TrailingEvent} (stored : WritesStored state event) :
    (tablesAfter config state event).Intact := by
  have intact := sound.intact
  cases event with
  | persist block requireParent =>
    show (tableStep config state.tables (.persist block requireParent)).Intact
    rw [tableStep_persist]
    split
    · exact intact.withBlock block
    · exact intact
  | rollback fromHeight => exact intact.rollback fromHeight
  | writeBlock payload =>
    simp only [tablesAfter]
    split
    next rows reading =>
      exact intact.onRows (writeUpdates_intact intact.derived (stored rows reading))
        (writeUpdates_actionIDs ..)
    · exact intact
  | writeTransaction =>
    simp only [tablesAfter]
    split
    next height txID transaction todo working =>
      rcases stored height txID transaction todo working with ⟨zswap, dust, located⟩
      exact intact.supplement config zswap dust located
    · exact intact
  | save column =>
    simp only [tablesAfter]
    split
    · exact intact.setSync _
    · exact intact
  | redecode height => exact intact.setSync _
  | backfillDelete =>
    simp only [tablesAfter]
    split
    · refine intact.onRows { intact.derived with identifiers := ?_ } rfl
      exact fun row listed => intact.derived.identifiers row (mem_deleteOf.mp listed).1
    · exact intact
  | backfillInsert =>
    simp only [tablesAfter]
    split
    next offset row rest filling =>
      split
      · exact intact
      next free =>
        refine intact.onRows { intact.derived with identifiers := ?_ } rfl
        apply intact.derived.identifiers.append
        intro inserted listed
        rcases List.mem_map.mp listed with ⟨identifier, known, rfl⟩
        exact stored offset row rest filling (Bool.eq_false_iff.mpr free)
          (List.ne_nil_of_mem (List.mem_eraseDups.mp known))
    · exact intact
  | _ => exact intact

theorem tablesAfter_columns {state : Trailing} (sound : TrailingSound state)
    (event : TrailingEvent) :
    ((tablesAfter config state event).derived.columns.map
      TransactionColumns.transactionID).Nodup := by
  have columns := sound.columns
  cases event with
  | persist block requireParent =>
    show ((tableStep config state.tables (.persist block requireParent)).derived.columns.map
      _).Nodup
    rw [tableStep_persist]
    split
    · exact columns_withBlock block sound.intact columns
    · exact columns
  | rollback fromHeight => exact columns_rollback fromHeight columns
  | writeBlock payload =>
    simp only [tablesAfter]
    split
    · show ((Trailing.writeUpdates _ state.tables.derived).columns.map _).Nodup
      rw [writeUpdates_columns]
      exact columns
    · exact columns
  | writeTransaction =>
    simp only [tablesAfter]
    split
    · rw [supplementTransaction_eq]
      rw [supplementRows_columns]
      exact columns
    · exact columns
  | save | backfillDelete =>
    simp only [tablesAfter]
    split <;> exact columns
  | backfillInsert =>
    simp only [tablesAfter]
    split
    · split <;> exact columns
    · exact columns
  | _ => exact columns

theorem trailingStep_sound (state : Trailing) (event : TrailingEvent)
    (sound : TrailingSound state) (stored : WritesStored state event) :
    TrailingSound (trailingStep config passConfig batchSize state event) where
  intact := by
    rw [trailingStep_tables]
    exact tablesAfter_intact config sound stored
  columns := by
    rw [trailingStep_tables]
    exact tablesAfter_columns config sound event
  decoding := by
    intro rows reading
    rcases trailingStep_decoding config passConfig batchSize state event with
      same | none | ⟨blockID, read⟩
    · exact sound.decoding rows (same ▸ reading)
    · rw [none] at reading
      cases reading
    · rw [read] at reading
      cases reading
      exact rowsOfBlock_nodup blockID sound.columns

/-! ## Orphans -/

/-- No row is left without the one it refers to, nor will a rollback leave one. -/
def StaysIntact (tables : IndexTables) : Prop :=
  NoOrphans tables ∧ ∀ fromHeight, NoOrphans (rollbackTables tables fromHeight)

theorem IndexTables.Intact.noOrphans (intact : tables.Intact) :
    NoOrphans tables where
  derived := intact.derived
  contractStates := fun state stored => (intact.contractStates state stored).1

theorem decodedUpdates_ids (rows : List TransactionColumns) (payload : Nat → LedgerPayload) :
    (Trailing.decodedUpdates rows payload).map DecodeUpdate.id =
      rows.map TransactionColumns.transactionID := by
  rw [Trailing.decodedUpdates, List.map_map]
  exact List.map_congr_left fun row _ => decodeUpdate_id row _

/-- Events inserted without an orphan are those of a stored transaction. -/
theorem stored_of_supplementRows {txIDs : List Nat} {txID : Nat} {answer : SupplementTransaction}
    {rows : DerivedRows} (intact : (supplementRows config txID answer rows).Intact txIDs) :
    (answer.zswapEvents ≠ [] → txID ∈ txIDs) ∧ (answer.dustEvents ≠ [] → txID ∈ txIDs) := by
  constructor
  · intro some
    rcases List.exists_mem_of_ne_nil _ some with ⟨event, reported⟩
    exact intact.zswapEvents _ (List.mem_append_right _ (List.mem_map_of_mem reported))
  · intro some
    rcases List.exists_mem_of_ne_nil _ some with ⟨event, reported⟩
    exact intact.dustEvents _ (List.mem_append_right _ (List.mem_map_of_mem reported))

/-- A current state filed below the block of its action is left behind by the rollback to that
block. -/
theorem located_of_supplement (intact : tables.Intact) {txID height : Nat}
    {answer : SupplementTransaction}
    (stays : ∀ fromHeight, NoOrphans
      (rollbackTables (supplementTransaction config txID height answer tables) fromHeight))
    (recorded : recordsState tables.contractStates height
      (pairedActions (actionsOf tables.derived txID) answer.contractActions)) :
    TransactionUpTo tables.db txID height := by
  have left : ∃ state ∈ (pairedActions (actionsOf tables.derived txID)
      answer.contractActions).foldl (assignCurrentState config height) tables.contractStates,
      state.height = height ∧
        state.contractActionID ∈ (actionsOf tables.derived txID).map ContractAction.ID :=
    exists_recorded (fun pair paired => List.mem_map_of_mem (mem_pairedActions paired).1) recorded
  rcases left with ⟨state, listed, atHeight, called⟩
  rcases List.mem_map.mp called with ⟨action, inTransaction, isAction⟩
  rcases mem_actionsOf.mp inTransaction with ⟨actionStored, own⟩
  rcases List.mem_map.mp (intact.derived.actions action actionStored) with
    ⟨transaction, stored, isTransaction⟩
  rcases List.mem_map.mp (intact.wellFormed.transactions transaction stored).2 with
    ⟨block, known, isBlock⟩
  refine ⟨transaction, stored, isTransaction.trans own, block, known, isBlock, ?_⟩
  by_contra above
  have removed : transaction.ID ∈ removedTxs tables.db block.height := by
    rw [mem_removedTxs block.height intact.wellFormed stored, ← isBlock]
    exact (mem_removedBlocks block.height intact.wellFormed known).mpr le_rfl
  have rolled := stays block.height
  rw [supplementTransaction_eq] at rolled
  rcases rollbackTables_cases { db := applyDustFlags tables.db answer.dustRegisteredOutputs
                                derived := supplementRows config txID answer tables.derived
                                contractStates := _ } block.height with ⟨low, _⟩ | ⟨_, after⟩
  · exact absurd (low block known) (lt_irrefl _)
  rw [after] at rolled
  have kept : state.height < block.height := by omega
  have orphan := rolled.contractStates state (List.mem_filter.mpr ⟨listed, decide_eq_true kept⟩)
  rcases List.mem_map.mp orphan with ⟨other, otherKept, same⟩
  refine (mem_deleteOf.mp otherKept).2 ?_
  have sameTransaction : other.transactionID = transaction.ID := by
    rw [isTransaction]
    exact congrArg Prod.fst (same.trans isAction.symm)
  rw [sameTransaction]
  exact removed

/-- An event that leaves no orphan, now or after a rollback, was allowed. -/
theorem writesStored_of_stays (state : Trailing) (event : TrailingEvent)
    (sound : TrailingSound state)
    (stays : StaysIntact (trailingStep config passConfig batchSize state event).tables) :
    WritesStored state event := by
  rw [trailingStep_tables] at stays
  cases event with
  | writeBlock payload =>
    intro rows reading
    simp only [tablesAfter, reading] at stays
    apply stored_of_writeUpdates _ stays.1.derived
    rw [decodedUpdates_ids]
    exact sound.decoding rows reading
  | writeTransaction =>
    intro height txID transaction todo working
    simp only [tablesAfter, working] at stays
    have derived := stays.1.derived
    rw [supplementTransaction_eq] at derived
    rcases stored_of_supplementRows config derived with ⟨zswap, dust⟩
    exact ⟨zswap, dust, located_of_supplement config sound.intact stays.2⟩
  | backfillInsert =>
    intro offset row rest filling free some
    simp only [tablesAfter, filling, free] at stays
    rcases List.exists_mem_of_ne_nil _ some with ⟨identifier, listed⟩
    exact stays.1.derived.identifiers _ (List.mem_append_right _
      (List.mem_map_of_mem (List.mem_eraseDups.mpr listed)))
  | _ => trivial

/-- In every interleaving of the passes with blocks, rollbacks and the backfill: no row is left
without the one it refers to, in any state and after any rollback that follows, exactly when every
write that inserts rows finds its transaction stored and no current state of a contract is filed
below the block of its action. -/
theorem trailingPasses_leave_no_orphans_iff (events : List TrailingEvent) :
    Along (trailingStep config passConfig batchSize) WritesStored .initial events ↔
      ∀ earlier, earlier <+: events →
        NoOrphans (run (trailingStep config passConfig batchSize) .initial earlier).tables ∧
        ∀ fromHeight, NoOrphans (run (trailingStep config passConfig batchSize) .initial
          (earlier ++ [.rollback fromHeight])).tables := by
  have implied : ∀ state, TrailingSound state → StaysIntact state.tables :=
    fun state sound => ⟨sound.intact.noOrphans,
      fun fromHeight => (sound.intact.rollback fromHeight).noOrphans⟩
  have law := along_iff_law implied (trailingStep_sound config passConfig batchSize)
    (writesStored_of_stays config passConfig batchSize) TrailingSound.initial events
  refine law.trans (forall₂_congr fun earlier _ => and_congr_right fun _ =>
    forall_congr' fun fromHeight => ?_)
  rw [run_append]
  rfl

end Steps

/-- Passes over batches of 25 blocks up to the tip. -/
def tipPass (_ : PassCursorColumn) : PassConfig where
  lagBlocks := 0
  batchSize := 25
  batchSize_pos := Nat.succ_pos 24

/-- Genesis and a block with one transaction; the supplement finds it, a rollback removes it, and
its events are written. -/
def lateWriteRun : List TrailingEvent := [
  .persist { blockHash := 100, height := 0, parentHash := 0, extrinsics := [] } true,
  .persist {
    blockHash := 101
    height := 1
    parentHash := 100
    extrinsics := [{
      projection := .none
      classification := ⟨.contractCall, false, false, some "5:0"⟩
      events := some ⟨some .SUCCESS, some 301, true, false, false, []⟩ }] } true,
  .begin .lastSupplementedHeight,
  .range .lastSupplementedHeight,
  .answer [],
  .lookUp,
  .answer [{
    ledgerTxHash := 301
    fee := some 3
    segments := [⟨0, true⟩]
    contractActions := []
    zswapEvents := [⟨1, 1, none⟩]
    dustEvents := []
    dustRegisteredOutputs := [] }],
  .lookUp,
  .rollback 1,
  .writeTransaction]

theorem trailingPasses_leave_orphan :
    ¬ NoOrphans (run (trailingStep sampleSupplement tipPass 500) .initial lateWriteRun).tables := by
  intro none
  have stored := none.derived.zswapEvents
    { transactionID := 2, eventId := 1, maxId := 1, raw := .none } (by decide)
  revert stored
  decide

end Nightgate.Crawler
