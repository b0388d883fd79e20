import Nightgate.Crawler.TrailingOrphans
import Nightgate.Crawler.PassProgress

/-!
# Decoding again

`redecodeFromHeight` lowers the decode cursor, and the pass goes over transactions an earlier
version of the decoder went over. A decode only writes rows of its transaction, so what becomes of
one transaction is followed on its own rows.
-/

namespace Nightgate.Crawler

open Library

/-- `decodeBlock`, with nothing else in between. -/
def decodeBlock (payload : Nat → LedgerPayload) (tables : IndexTables) (block : Block) :
    IndexTables :=
  tables.onRows (Trailing.writeUpdates
    (Trailing.decodedUpdates (Trailing.rowsOfBlock tables block.ID) payload))

/-- The blocks the next pass goes over. -/
def passBlocks (config : PassConfig) (tables : IndexTables) : List Block :=
  let window := readPassWindow tables.db.syncState .lastDecodedHeight config.lagBlocks
  if windowIsEmpty window then []
  else blocksInRange tables.db window.start.next window.ceiling config.batchSize

/-- `runOnce` of the decoder, with nothing else in between. Without a block in the range the cursor
moves past it. -/
def runOnce (config : PassConfig) (payload : Nat → LedgerPayload) (tables : IndexTables) :
    IndexTables :=
  let window := readPassWindow tables.db.syncState .lastDecodedHeight config.lagBlocks
  if windowIsEmpty window then tables
  else
    let blocks := passBlocks config tables
    let height := match blocks.getLast? with
      | none => min (window.start.next + config.batchSize - 1) window.ceiling.toNat
      | some last => last.height
    let written := blocks.foldl (decodeBlock payload) tables
    written.setSync (advancePassCursor written.db.syncState .lastDecodedHeight window.start height)

def passes (config : PassConfig) (payload : Nat → LedgerPayload) (count : Nat)
    (tables : IndexTables) : IndexTables :=
  (runOnce config payload)^[count] tables

/-- One of the passes goes over the block of the transaction. -/
def GoneOver (config : PassConfig) (payload : Nat → LedgerPayload) (count : Nat)
    (tables : IndexTables) (txID : Nat) : Prop :=
  ∃ before < count, ∃ block ∈ passBlocks config (passes config payload before tables),
    ∃ transaction ∈ tables.db.transactions, transaction.ID = txID ∧ transaction.blockID = block.ID

/-! ## One transaction -/

/-- The rows of a transaction that a decode reads or writes. -/
structure OwnRows where
  columns : Option TransactionColumns
  identifiers : List TransactionIdentifier
  /-- In their order. -/
  actions : List ContractAction

def ownRows (rows : DerivedRows) (txID : Nat) : OwnRows where
  columns := columnsOf rows txID
  identifiers := rows.identifiers.filter fun row => row.transactionID = txID
  actions := actionsOf rows txID

/-- The circuit name the calls of a payload give an action. -/
def circuitOf (names : List (ContractAction × String)) (actionID : ActionID) : Option String :=
  (names.reverse.find? fun call => call.1.ID = actionID).map Prod.snd

def ContractAction.rename (names : List (ContractAction × String)) (action : ContractAction) :
    ContractAction :=
  { action with entryPoint := (circuitOf names action.ID).or action.entryPoint }

namespace OwnRows

/-- The names of the calls, where the payload lists as many calls of the contract. -/
def names (own : OwnRows) (facts : LedgerPayloadFacts) : List (ContractAction × String) :=
  namedCalls (own.actions.filter fun action => action.actionType = .CALL) facts.contractActions

def apply (own : OwnRows) (update : DecodeUpdate) : OwnRows :=
  match update.facts with
  | none => { own with
      columns := own.columns.map (·.undecoded update.state update.unknownFlags) }
  | some facts => {
      columns := own.columns.map (·.decoded facts update.state update.txType)
      identifiers := facts.identifiers.eraseDups.map fun identifier =>
        { identifier, transactionID := update.id }
      actions := own.actions.map (ContractAction.rename (own.names facts)) }

/-- The rows after a decode of the transaction. -/
def decode (own : OwnRows) (payload : LedgerPayload) : OwnRows :=
  match own.columns with
  | none => own
  | some row => own.apply (decodeUpdate row payload)

/-- No decode went over the transaction yet. -/
structure Undecoded (own : OwnRows) : Prop where
  identifiers : own.identifiers = []
  columns : ∀ row ∈ own.columns, row.payloadDecode = none ∧ row.identifiers = none ∧
    row.zswapInputCount = none ∧ row.zswapOutputCount = none ∧ row.zswapTransientCount = none ∧
    row.dustSpendCount = none ∧ row.dustRegistrationCount = none ∧ row.dustConsumed = none

end OwnRows

theorem circuitOf_cons (call : ContractAction × String) (rest : List (ContractAction × String))
    (actionID : ActionID) :
    circuitOf (call :: rest) actionID =
      (circuitOf rest actionID).or (if call.1.ID = actionID then some call.2 else none) := by
  rw [circuitOf, List.reverse_cons, List.find?_append, Option.map_or, circuitOf]
  congr 1
  by_cases same : call.1.ID = actionID
  · simp [same]
  · simp [same]

@[simp] theorem rename_ID (names : List (ContractAction × String)) (action : ContractAction) :
    (action.rename names).ID = action.ID :=
  rfl

theorem foldl_setEntryPoint (names : List (ContractAction × String)) (rows : DerivedRows) :
    names.foldl setEntryPoint rows =
      { rows with actions := rows.actions.map (ContractAction.rename names) } := by
  induction names generalizing rows with
  | nil =>
    have same : rows.actions.map (ContractAction.rename []) = rows.actions :=
      List.map_id _
    rw [List.foldl_nil, same]
  | cons call rest ih =>
    rw [List.foldl_cons, ih]
    simp only [setEntryPoint, updateOf, List.map_map]
    congr 1
    apply List.map_congr_left
    intro action _
    simp only [Function.comp_apply, ContractAction.rename, circuitOf_cons, Option.or_assoc]
    by_cases same : action.ID = call.1.ID
    · have sameID : ({ action with entryPoint := some call.2 } : ContractAction).ID = action.ID :=
        rfl
      simp [same, sameID]
    · simp [same, Ne.symm same]

variable {change : ContractAction → ContractAction}

theorem actionsOf_map
    (keeps : ∀ action, (change action).ID = action.ID) (rows : DerivedRows) (txID : Nat) :
    actionsOf { rows with actions := rows.actions.map change } txID =
      (actionsOf rows txID).map change := by
  have txIDs : ∀ action, (change action).transactionID = action.transactionID :=
    fun action => congrArg Prod.fst (keeps action)
  have indices : ∀ action, (change action).actionIndex = action.actionIndex :=
    fun action => congrArg Prod.snd (keeps action)
  have ordered : ∀ listed : List ContractAction, (listed.insertionSort fun left right =>
      left.actionIndex ≤ right.actionIndex).map change =
        (listed.map change).insertionSort fun left right =>
          left.actionIndex ≤ right.actionIndex := by
    intro listed
    apply List.map_insertionSort
    intro left _ right _
    rw [indices, indices]
  rw [actionsOf, actionsOf, ordered, List.filter_map]
  simp only [Function.comp_def, txIDs]

/-- Renamed calls are named alike. -/
theorem namedCalls_map (keeps : ∀ action, (change action).address = action.address)
    (calls : List ContractAction) (declared : List DeclaredContractAction) :
    namedCalls (calls.map change) declared =
      (namedCalls calls declared).map (Prod.map change id) := by
  have addresses : (calls.map change).map ContractAction.address =
      calls.map ContractAction.address := by
    rw [List.map_map]
    exact List.map_congr_left fun action _ => keeps action
  unfold namedCalls
  rw [addresses, List.map_flatMap]
  apply List.flatMap_congr
  intro address _
  have mine : (calls.map change).filter (fun action => action.address = address) =
      (calls.filter fun action => action.address = address).map change := by
    rw [List.filter_map]
    simp only [Function.comp_def, keeps]
  dsimp only
  rw [mine, List.length_map]
  split
  · exact List.zip_map_left
  · rfl

theorem circuitOf_map (keeps : ∀ action, (change action).ID = action.ID)
    (names : List (ContractAction × String)) (actionID : ActionID) :
    circuitOf (names.map (Prod.map change id)) actionID = circuitOf names actionID := by
  rw [circuitOf, ← List.map_reverse, List.find?_map, Option.map_map, circuitOf]
  simp only [Function.comp_def, Prod.map_fst, Prod.map_snd, keeps, id]

theorem columnsOf_setColumns (change : TransactionColumns → TransactionColumns)
    (keeps : ∀ row, (change row).transactionID = row.transactionID) (rows : DerivedRows)
    (txID : Nat) :
    columnsOf (setColumns txID change rows) txID = (columnsOf rows txID).map change := by
  rw [columnsOf, setColumns, updateOf, List.find?_map]
  have alike : ((fun row : TransactionColumns => decide (row.transactionID = txID)) ∘
      fun row => if row.transactionID = txID then change row else row) =
        fun row => decide (row.transactionID = txID) := by
    funext row
    simp only [Function.comp_apply]
    split
    · rw [keeps]
    · rfl
  rw [alike, columnsOf]
  cases found : rows.columns.find? fun row => row.transactionID = txID with
  | none => rfl
  | some row =>
    have own : row.transactionID = txID := by simpa using List.find?_some found
    rw [Option.map_some, Option.map_some, if_pos own]

section Writes

variable {txID : Nat} {rows : DerivedRows}

@[simp] theorem ownRows_cut {gone : List Nat} (rows : DerivedRows) (kept : txID ∉ gone) :
    ownRows (rows.cut gone) txID = ownRows rows txID := by
  have identifiers : (rows.cut gone).identifiers.filter (fun row => row.transactionID = txID) =
      rows.identifiers.filter fun row => row.transactionID = txID := by
    show (deleteOf TransactionIdentifier.transactionID gone rows.identifiers).filter _ = _
    rw [deleteOf, List.filter_filter]
    apply List.filter_congr
    intro row _
    by_cases same : row.transactionID = txID
    · simp [same, kept]
    · simp [same]
  rw [ownRows, identifiers, columnsOf_cut rows kept, actionsOf_cut rows kept, ownRows]

/-- A write for another transaction. -/
theorem ownRows_writesFor {other : Nat} {write : DerivedRows → DerivedRows}
    (acts : WritesFor other write) (different : txID ≠ other) :
    ownRows (write rows) txID = ownRows rows txID := by
  have kept : txID ∉ [other] := fun listed => different (List.mem_singleton.mp listed)
  calc ownRows (write rows) txID
      = ownRows ((write rows).cut [other]) txID := (ownRows_cut _ kept).symm
    _ = ownRows (rows.cut [other]) txID := by rw [acts.gone _ _ (List.mem_singleton_self other)]
    _ = ownRows rows txID := ownRows_cut rows kept

/-- A decode writes the rows of its transaction as `OwnRows.apply` says. -/
theorem ownRows_applyFacts {update : DecodeUpdate} (own : update.id = txID) :
    ownRows (applyFacts update rows) txID = (ownRows rows txID).apply update := by
  subst own
  unfold applyFacts OwnRows.apply
  cases update.facts with
  | none =>
    have columns := columnsOf_setColumns (fun row =>
      row.undecoded update.state update.unknownFlags) (fun _ => rfl) rows update.id
    exact congrArg (fun found => OwnRows.mk found _ _) columns
  | some facts =>
    have columns := columnsOf_setColumns (fun row =>
      row.decoded facts update.state update.txType) (fun _ => rfl) rows update.id
    have identifiers : (replaceOf TransactionIdentifier.transactionID update.id
        (facts.identifiers.eraseDups.map fun identifier =>
          { identifier, transactionID := update.id }) rows.identifiers).filter
        (fun row => row.transactionID = update.id) =
        facts.identifiers.eraseDups.map fun identifier =>
          { identifier, transactionID := update.id } := by
      rw [replaceOf, deleteOf, List.filter_append, List.filter_filter]
      simp [List.filter_map, Function.comp_def]
    have actions := actionsOf_map (rename_ID (namedCalls (callsOf rows update.id)
      facts.contractActions)) rows update.id
    simp only [nameCalls]
    rw [foldl_setEntryPoint]
    exact congr (congr (congrArg OwnRows.mk columns) identifiers) actions

theorem ownRows_writeUpdates_others {updates : List DecodeUpdate}
    (others : ∀ update ∈ updates, update.id ≠ txID) :
    ownRows (Trailing.writeUpdates updates rows) txID = ownRows rows txID := by
  induction updates generalizing rows with
  | nil => rfl
  | cons update rest ih =>
    rcases List.forall_mem_cons.mp others with ⟨now, later⟩
    exact (ih later).trans (ownRows_writesFor (applyFacts_writesFor rfl) now.symm)

end Writes

/-- The facts read for a transaction of this type. -/
def factsOf (transactionType : TransactionType) (payload : LedgerPayload) :
    Option LedgerPayloadFacts :=
  match transactionType, payload with
  | .REGULAR, .facts facts => some facts
  | _, _ => none

/-- The columns after a decode without facts. The flags of a regular transaction are unknown
then. -/
def TransactionColumns.unread (row : TransactionColumns) (transactionType : TransactionType)
    (state : DecodeState) : TransactionColumns :=
  { row with
    payloadDecode := some state
    isShielded := if transactionType = .REGULAR then none else row.isShielded
    hasProof := if transactionType = .REGULAR then none else row.hasProof }

namespace OwnRows

variable {own : OwnRows} {row : TransactionColumns} {transactionType : TransactionType}
  {payload : LedgerPayload}

theorem apply_of_none (nothing : factsOf transactionType payload = none) :
    ∃ state, ∀ {own : OwnRows} {row}, own.columns = some row →
      own.apply (decodeUpdate { row with transactionType } payload) =
        { own with columns := some (row.unread transactionType state) } := by
  have flags : ∀ (row : TransactionColumns) (state : DecodeState),
      row.undecoded state (row.isShielded.isSome || row.hasProof.isSome) =
        row.unread .REGULAR state := by
    intro row state
    rcases row with ⟨_, _, _, _, _, isShielded, hasProof⟩
    cases isShielded <;> cases hasProof <;> rfl
  cases transactionType with
  | SYSTEM =>
    refine ⟨.absent, ?_⟩
    intro own row found
    rw [OwnRows.apply, found]
    rfl
  | REGULAR =>
    cases payload with
    | absent =>
      refine ⟨.absent, ?_⟩
      intro own row found
      rw [OwnRows.apply, found, ← flags]
      rfl
    | undecodable =>
      refine ⟨.failed, ?_⟩
      intro own row found
      rw [OwnRows.apply, found, ← flags]
      rfl
    | facts facts => cases nothing

theorem apply_of_facts {facts : LedgerPayloadFacts}
    (read : factsOf transactionType payload = some facts) (found : own.columns = some row) :
    own.apply (decodeUpdate { row with transactionType } payload) = {
      columns := some (row.decoded facts .decoded (some row.txType))
      identifiers := facts.identifiers.eraseDups.map fun identifier =>
        { identifier, transactionID := row.transactionID }
      actions := own.actions.map (ContractAction.rename (own.names facts)) } := by
  cases transactionType with
  | SYSTEM => cases read
  | REGULAR =>
    cases payload with
    | absent | undecodable => cases read
    | facts facts =>
      cases read
      rw [OwnRows.apply, found]
      rfl

theorem decode_eq (found : own.columns = some row) :
    own.decode payload = own.apply (decodeUpdate row payload) := by
  rw [decode, found]

/-- Entry points do not matter for the names. -/
theorem circuitOf_names (own : OwnRows) (names : List (ContractAction × String))
    (facts : LedgerPayloadFacts) (actionID : ActionID) :
    circuitOf ({ own with actions := own.actions.map (ContractAction.rename names) }.names facts)
      actionID = circuitOf (own.names facts) actionID := by
  have keeps : ∀ action : ContractAction, (action.rename names).address = action.address :=
    fun _ => rfl
  have calls : (own.actions.map (ContractAction.rename names)).filter
      (fun action => action.actionType = .CALL) =
        (own.actions.filter fun action => action.actionType = .CALL).map
          (ContractAction.rename names) :=
    List.filter_map
  rw [OwnRows.names, calls, namedCalls_map keeps, circuitOf_map (rename_ID names), OwnRows.names]

/-- The names of two payloads, the later one's over those of the earlier one. -/
theorem rename_rename_iff (own : OwnRows) (before facts : LedgerPayloadFacts) :
    (own.actions.map (ContractAction.rename (own.names before))).map (ContractAction.rename
        ({ own with
          actions := own.actions.map (ContractAction.rename (own.names before)) }.names facts)) =
        own.actions.map (ContractAction.rename (own.names facts)) ↔
      ∀ action ∈ own.actions, ∀ name ∈ circuitOf (own.names before) action.ID,
        circuitOf (own.names facts) action.ID ≠ none ∨ action.entryPoint = some name := by
  rw [List.map_map, List.map_inj_left]
  refine forall₂_congr fun action _ => ?_
  simp only [Function.comp_apply, ContractAction.rename, ContractAction.mk.injEq, true_and,
    and_true]
  rw [show ({ action with
      entryPoint := (circuitOf (own.names before) action.ID).or action.entryPoint } :
      ContractAction).ID = action.ID from rfl, circuitOf_names]
  cases circuitOf (own.names facts) action.ID with
  | some name => simp
  | none =>
    cases circuitOf (own.names before) action.ID with
    | none => simp
    | some name => simp [eq_comm]

end OwnRows

theorem callFreeTxType_ne (facts : LedgerPayloadFacts) :
    callFreeTxType facts ≠ some .contractCall := by
  unfold callFreeTxType
  split
  · nofun
  split
  · nofun
  split
  · nofun
  · nofun

/-- Only the flags an earlier version took from an inherent are missing after. -/
theorem unread_unread_iff (row : TransactionColumns) (before after : TransactionType)
    (first second : DecodeState) :
    (row.unread before first).unread after second = row.unread after second ↔
      (after = .SYSTEM → before = .REGULAR → row.isShielded = none ∧ row.hasProof = none) := by
  simp only [TransactionColumns.unread, TransactionColumns.mk.injEq, true_and, and_true]
  cases after with
  | REGULAR => simp
  | SYSTEM =>
    cases before with
    | REGULAR => simp [eq_comm]
    | SYSTEM => simp

/-- The columns of a later decode over those of an earlier one. A type the earlier payload gave
looks like one derived from the block events. -/
theorem decoded_decoded_iff (row : TransactionColumns) (before facts : LedgerPayloadFacts) :
    (row.decoded before .decoded (some row.txType)).decoded facts .decoded
        (some (row.decoded before .decoded (some row.txType)).txType) =
        row.decoded facts .decoded (some row.txType) ↔
      (row.txType = .contractCall →
        ∀ txType ∈ callFreeTxType before, callFreeTxType facts = some txType) := by
  simp only [TransactionColumns.decoded, TransactionColumns.mk.injEq, true_and, and_true,
    Option.some.injEq]
  by_cases isDefault : row.txType = .contractCall
  · have other := callFreeTxType_ne before
    simp only [isDefault, if_true, true_imp_iff]
    cases earlier : callFreeTxType before with
    | none => simp
    | some txType =>
      have derived : txType ≠ .contractCall := fun same => other (same ▸ earlier)
      cases callFreeTxType facts with
      | none => simp [derived]
      | some later => simp [derived, eq_comm]
  · simp [isDefault]

namespace OwnRows

@[simp] theorem decode_decode (own : OwnRows) (payload : LedgerPayload) :
    (own.decode payload).decode payload = own.decode payload := by
  cases found : own.columns with
  | none =>
    have same : own.decode payload = own := by rw [decode, found]
    rw [same, same]
  | some row =>
    cases read : factsOf row.transactionType payload with
    | none =>
      rcases apply_of_none read with ⟨state, applied⟩
      have once := (decode_eq found).trans (applied found)
      have listed : (own.decode payload).columns =
          some (row.unread row.transactionType state) := by rw [once]
      rw [decode_eq listed]
      refine (applied listed).trans ?_
      have columns := (unread_unread_iff row row.transactionType _ state state).mpr
        fun isSystem isRegular => by cases isRegular.symm.trans isSystem
      rw [once, columns]
    | some facts =>
      have once := (decode_eq found).trans (apply_of_facts read found)
      have listed : (own.decode payload).columns =
          some (row.decoded facts .decoded (some row.txType)) := by rw [once]
      have columns := (decoded_decoded_iff row facts facts).mpr fun _ _ given => given
      have actions := (own.rename_rename_iff facts facts).mpr fun _ _ name given =>
        Or.inl fun nothing => by cases nothing.symm.trans given
      rw [decode_eq listed]
      refine (apply_of_facts read listed).trans ?_
      rw [once]
      exact congr (congr (congrArg OwnRows.mk (congrArg some columns)) rfl) actions

end OwnRows

/-! ## What passes leave -/

section Passes

variable {config : PassConfig} {payload : Nat → LedgerPayload} {tables : IndexTables} {txID : Nat}

abbrev DistinctColumns (tables : IndexTables) : Prop :=
  (tables.derived.columns.map TransactionColumns.transactionID).Nodup

theorem columnsOf_eq_some (distinct : DistinctColumns tables) {row : TransactionColumns}
    (stored : row ∈ tables.derived.columns) :
    columnsOf tables.derived row.transactionID = some row := by
  cases found : columnsOf tables.derived row.transactionID with
  | none =>
    have other := List.find?_eq_none.mp found row stored
    simp at other
  | some first =>
    have listed := List.mem_of_find?_eq_some found
    rw [List.inj_on_of_nodup_map distinct listed stored (columnsOf_id found)]

theorem mem_rowsOfBlock {blockID : Nat} {row : TransactionColumns} :
    row ∈ Trailing.rowsOfBlock tables blockID ↔ row ∈ tables.derived.columns ∧
      ∃ transaction ∈ tables.db.transactions,
        transaction.ID = row.transactionID ∧ transaction.blockID = blockID := by
  simp [Trailing.rowsOfBlock]

theorem decodeBlock_distinct (distinct : DistinctColumns tables) (block : Block) :
    DistinctColumns (decodeBlock payload tables block) := by
  have same := writeUpdates_columns (Trailing.decodedUpdates
    (Trailing.rowsOfBlock tables block.ID) payload) tables.derived
  exact (congrArg List.Nodup same).mpr distinct

/-- A block is decoded as if its transactions were decoded one at a time. -/
theorem ownRows_decodeBlock (distinct : DistinctColumns tables) {row : TransactionColumns}
    {block : Block} (listed : row ∈ Trailing.rowsOfBlock tables block.ID) :
    ownRows (decodeBlock payload tables block).derived row.transactionID =
      (ownRows tables.derived row.transactionID).decode (payload row.transactionID) := by
  have once := rowsOfBlock_nodup block.ID distinct
  have found := columnsOf_eq_some distinct (mem_rowsOfBlock.mp listed).1
  have ids : ∀ other : TransactionColumns,
      (decodeUpdate other (payload other.transactionID)).id = other.transactionID :=
    fun other => decodeUpdate_id other _
  rcases List.append_of_mem listed with ⟨before, after, isBlock⟩
  rw [isBlock, List.map_append, List.map_cons, List.nodup_append] at once
  have laterOthers : ∀ update ∈ Trailing.decodedUpdates after payload,
      update.id ≠ row.transactionID := by
    intro update isLater same
    rcases List.mem_map.mp isLater with ⟨other, isOther, rfl⟩
    exact (List.nodup_cons.mp once.2.1).1
      (List.mem_map.mpr ⟨other, isOther, (ids other).symm.trans same⟩)
  have earlierOthers : ∀ update ∈ Trailing.decodedUpdates before payload,
      update.id ≠ row.transactionID := by
    intro update isEarlier same
    rcases List.mem_map.mp isEarlier with ⟨other, isOther, rfl⟩
    exact once.2.2 _ (List.mem_map_of_mem isOther) _ List.mem_cons_self
      ((ids other).symm.trans same)
  have written : (decodeBlock payload tables block).derived =
      Trailing.writeUpdates (Trailing.decodedUpdates after payload)
        (applyFacts (decodeUpdate row (payload row.transactionID))
          (Trailing.writeUpdates (Trailing.decodedUpdates before payload) tables.derived)) := by
    simp only [decodeBlock, IndexTables.onRows, isBlock, Trailing.decodedUpdates,
      Trailing.writeUpdates, List.map_append, List.map_cons, List.foldl_append, List.foldl_cons]
  rw [written, ownRows_writeUpdates_others laterOthers, ownRows_applyFacts (ids row),
    ownRows_writeUpdates_others earlierOthers]
  exact (OwnRows.decode_eq found).symm

theorem ownRows_decodeBlock_other {block : Block}
    (absent : ∀ row ∈ Trailing.rowsOfBlock tables block.ID, row.transactionID ≠ txID) :
    ownRows (decodeBlock payload tables block).derived txID = ownRows tables.derived txID := by
  apply ownRows_writeUpdates_others
  intro update listed
  rcases List.mem_map.mp listed with ⟨row, isRow, rfl⟩
  exact (decodeUpdate_id row _).symm ▸ absent row isRow

/-- The blocks a transaction is of. -/
abbrev InBlock (tables : IndexTables) (txID : Nat) (block : Block) : Prop :=
  ∃ transaction ∈ tables.db.transactions, transaction.ID = txID ∧ transaction.blockID = block.ID

/-- The rows of a transaction after some decodes of it with one payload: those before, or those
after one decode. -/
def Redecoded (payload : LedgerPayload) (before after : OwnRows) : Prop :=
  after = before ∨ after = before.decode payload

theorem Redecoded.decode {payload : LedgerPayload} {before after : OwnRows}
    (redecoded : Redecoded payload before after) :
    after.decode payload = before.decode payload := by
  rcases redecoded with rfl | rfl
  · rfl
  · exact OwnRows.decode_decode before payload

theorem Redecoded.trans {payload : LedgerPayload} {first second third : OwnRows}
    (earlier : Redecoded payload first second) (later : Redecoded payload second third) :
    Redecoded payload first third := by
  rcases later with rfl | rfl
  · exact earlier
  · exact Or.inr earlier.decode

theorem Redecoded.of_decoded {payload : LedgerPayload} {first second third : OwnRows}
    (decoded : second = first.decode payload) (later : Redecoded payload second third) :
    third = first.decode payload := by
  rcases later with rfl | rfl
  · exact decoded
  · rw [decoded, OwnRows.decode_decode]

theorem decodeBlock_redecoded (distinct : DistinctColumns tables) (block : Block) :
    Redecoded (payload txID) (ownRows tables.derived txID)
        (ownRows (decodeBlock payload tables block).derived txID) ∧
      (InBlock tables txID block → ownRows (decodeBlock payload tables block).derived txID =
        (ownRows tables.derived txID).decode (payload txID)) := by
  by_cases read : ∃ row ∈ Trailing.rowsOfBlock tables block.ID, row.transactionID = txID
  · rcases read with ⟨row, listed, rfl⟩
    have decoded := @ownRows_decodeBlock payload _ distinct _ _ listed
    exact ⟨Or.inr decoded, fun _ => decoded⟩
  · have same := @ownRows_decodeBlock_other payload tables txID block
      fun row listed isRow => read ⟨row, listed, isRow⟩
    refine ⟨Or.inl same, ?_⟩
    rintro ⟨transaction, stored, isTx, inBlock⟩
    have nothing : columnsOf tables.derived txID = none := by
      refine List.find?_eq_none.mpr fun row isStored isRow => read ⟨row, ?_, by simpa using isRow⟩
      have isRow : row.transactionID = txID := by simpa using isRow
      exact mem_rowsOfBlock.mpr ⟨isStored, transaction, stored, isTx.trans isRow.symm, inBlock⟩
    rw [same, OwnRows.decode]
    show _ = match columnsOf tables.derived txID with
      | none => ownRows tables.derived txID
      | some row => (ownRows tables.derived txID).apply (decodeUpdate row (payload txID))
    rw [nothing]

theorem foldl_decodeBlock_redecoded (distinct : DistinctColumns tables) (blocks : List Block) :
    Redecoded (payload txID) (ownRows tables.derived txID)
        (ownRows (blocks.foldl (decodeBlock payload) tables).derived txID) ∧
      ((∃ block ∈ blocks, InBlock tables txID block) →
        ownRows (blocks.foldl (decodeBlock payload) tables).derived txID =
          (ownRows tables.derived txID).decode (payload txID)) := by
  induction blocks generalizing tables with
  | nil =>
    refine ⟨Or.inl rfl, ?_⟩
    rintro ⟨_, listed, _⟩
    cases listed
  | cons block rest ih =>
    rcases @decodeBlock_redecoded payload _ txID distinct block with
      ⟨now, inNow⟩
    rcases ih (@decodeBlock_distinct payload _ distinct block) with ⟨later, inLater⟩
    refine ⟨now.trans later, ?_⟩
    rintro ⟨found, listed, inFound⟩
    cases List.mem_cons.mp listed with
    | inl isFirst => exact later.of_decoded (inNow (isFirst ▸ inFound))
    | inr isLater => exact (inLater ⟨found, isLater, inFound⟩).trans now.decode

theorem runOnce_cases (config : PassConfig) (payload : Nat → LedgerPayload)
    (tables : IndexTables) : ∃ sync, runOnce config payload tables =
        ((passBlocks config tables).foldl (decodeBlock payload) tables).setSync sync := by
  simp only [runOnce, passBlocks]
  split
  · exact ⟨tables.db.syncState, rfl⟩
  · exact ⟨_, rfl⟩

@[simp] theorem foldl_decodeBlock_db (blocks : List Block) :
    (blocks.foldl (decodeBlock payload) tables).db = tables.db := by
  induction blocks generalizing tables with
  | nil => rfl
  | cons block rest ih => exact ih

theorem foldl_decodeBlock_distinct (distinct : DistinctColumns tables) (blocks : List Block) :
    DistinctColumns (blocks.foldl (decodeBlock payload) tables) := by
  induction blocks generalizing tables with
  | nil => exact distinct
  | cons block rest ih => exact ih (decodeBlock_distinct distinct block)

theorem runOnce_distinct (distinct : DistinctColumns tables) :
    DistinctColumns (runOnce config payload tables) := by
  rcases runOnce_cases config payload tables with ⟨sync, isNext⟩
  rw [isNext]
  exact foldl_decodeBlock_distinct distinct _

theorem runOnce_transactions :
    (runOnce config payload tables).db.transactions = tables.db.transactions := by
  rcases runOnce_cases config payload tables with ⟨sync, isNext⟩
  have same := congrArg Db.transactions
    (@foldl_decodeBlock_db payload tables (passBlocks config tables))
  exact isNext ▸ same

theorem runOnce_redecoded (distinct : DistinctColumns tables) :
    Redecoded (payload txID) (ownRows tables.derived txID)
        (ownRows (runOnce config payload tables).derived txID) ∧
      ((∃ block ∈ passBlocks config tables, InBlock tables txID block) →
        ownRows (runOnce config payload tables).derived txID =
          (ownRows tables.derived txID).decode (payload txID)) := by
  rcases runOnce_cases config payload tables with ⟨sync, isNext⟩
  rw [isNext]
  exact foldl_decodeBlock_redecoded distinct _

theorem passes_redecoded (distinct : DistinctColumns tables) (count : Nat) :
    Redecoded (payload txID) (ownRows tables.derived txID)
      (ownRows (passes config payload count tables).derived txID) := by
  induction count generalizing tables with
  | zero => exact Or.inl rfl
  | succ count ih =>
    exact (runOnce_redecoded distinct).1.trans (ih (runOnce_distinct distinct))

/-- However many passes went over a transaction, it is as after one decode. -/
theorem ownRows_passes (distinct : DistinctColumns tables) {count : Nat}
    (gone : GoneOver config payload count tables txID) :
    ownRows (passes config payload count tables).derived txID =
      (ownRows tables.derived txID).decode (payload txID) := by
  induction count generalizing tables with
  | zero =>
    rcases gone with ⟨_, before, _⟩
    cases before
  | succ count ih =>
    have next := @runOnce_redecoded config payload _ txID distinct
    have later := @runOnce_distinct config payload _ distinct
    rcases gone with ⟨before, isBefore, block, listed, inBlock⟩
    cases before with
    | zero => exact (passes_redecoded later count).of_decoded (next.2 ⟨block, listed, inBlock⟩)
    | succ before =>
      refine (ih later ⟨before, Nat.lt_of_succ_lt_succ isBefore, block, listed, ?_⟩).trans
        next.1.decode
      rw [runOnce_transactions]
      exact inBlock

end Passes

/-- What an earlier version of the decoder made of a transaction. Earlier versions also read the
arguments of inherents. -/
structure EarlierDecode where
  payload : LedgerPayload
  readsInherents : Bool

namespace EarlierDecode

/-- The type the version goes by. -/
def transactionType (earlier : EarlierDecode) (row : TransactionColumns) : TransactionType :=
  if earlier.readsInherents then .REGULAR else row.transactionType

def update (earlier : EarlierDecode) (row : TransactionColumns) : DecodeUpdate :=
  decodeUpdate { row with transactionType := earlier.transactionType row } earlier.payload

def write (earlier : EarlierDecode) (txID : Nat) (rows : DerivedRows) : DerivedRows :=
  match columnsOf rows txID with
  | none => rows
  | some row => applyFacts (earlier.update row) rows

def facts (earlier : EarlierDecode) (row : TransactionColumns) : Option LedgerPayloadFacts :=
  factsOf (earlier.transactionType row) earlier.payload

end EarlierDecode

/-- When a decode overwrites all that an earlier one wrote. Without facts it overwrites no facts,
and of an inherent no flags. With facts it gives the type and every circuit name the earlier facts
gave. -/
def Overwrites (own : OwnRows) (row : TransactionColumns) (earlier : EarlierDecode)
    (payload : LedgerPayload) : Prop :=
  match factsOf row.transactionType payload with
  | none => earlier.facts row = none ∧
      (row.transactionType = .SYSTEM → earlier.readsInherents = true →
        row.isShielded = none ∧ row.hasProof = none)
  | some facts => ∀ before ∈ earlier.facts row,
      (row.txType = .contractCall →
        ∀ txType ∈ callFreeTxType before, callFreeTxType facts = some txType) ∧
      ∀ action ∈ own.actions, ∀ name ∈ circuitOf (own.names before) action.ID,
        circuitOf (own.names facts) action.ID ≠ none ∨ action.entryPoint = some name

namespace OwnRows

variable {own : OwnRows} {row : TransactionColumns} {earlier : EarlierDecode}
  {payload : LedgerPayload}

/-- Neither decode gave facts. -/
theorem unread_again_iff (found : own.columns = some row)
    (nothing : factsOf row.transactionType payload = none) (before : earlier.facts row = none) :
    (own.apply (earlier.update row)).decode payload = own.decode payload ↔
      (row.transactionType = .SYSTEM → earlier.readsInherents = true →
        row.isShielded = none ∧ row.hasProof = none) := by
  rcases apply_of_none nothing with ⟨state, applied⟩
  rcases apply_of_none before with ⟨old, wrote⟩
  have first : own.apply (earlier.update row) =
      { own with columns := some (row.unread (earlier.transactionType row) old) } := wrote found
  have listed : (own.apply (earlier.update row)).columns =
      some (row.unread (earlier.transactionType row) old) := congrArg OwnRows.columns first
  have again : (own.apply (earlier.update row)).decode payload = { own with
      columns := some
        ((row.unread (earlier.transactionType row) old).unread row.transactionType state) } := by
    rw [decode_eq listed]
    refine (applied listed).trans ?_
    rw [first]
  have once : own.decode payload =
      { own with columns := some (row.unread row.transactionType state) } :=
    (decode_eq found).trans (applied found)
  have reads : row.transactionType = .SYSTEM →
      (earlier.transactionType row = .REGULAR ↔ earlier.readsInherents = true) := by
    intro isSystem
    rw [EarlierDecode.transactionType, isSystem]
    cases earlier.readsInherents <;> simp
  rw [again, once, OwnRows.mk.injEq, Option.some.injEq, and_iff_left ⟨rfl, rfl⟩, unread_unread_iff]
  exact imp_congr_right fun isSystem => imp_congr_left (reads isSystem)

/-- The facts of an earlier decode stay when the later one gives none. -/
theorem unread_over_facts (undecoded : own.Undecoded) (found : own.columns = some row)
    (nothing : factsOf row.transactionType payload = none) {before : LedgerPayloadFacts}
    (read : earlier.facts row = some before) :
    (own.apply (earlier.update row)).decode payload ≠ own.decode payload := by
  rcases apply_of_none nothing with ⟨state, applied⟩
  have first : (own.apply (earlier.update row)).columns =
      some (row.decoded before .decoded (some row.txType)) :=
    congrArg OwnRows.columns (apply_of_facts read found)
  intro same
  rw [decode_eq first, decode_eq found] at same
  have columns := congrArg OwnRows.columns ((applied first).symm.trans (same.trans (applied found)))
  have counts := congrArg TransactionColumns.zswapInputCount (Option.some.inj columns)
  have unknown : row.zswapInputCount = none := (undecoded.columns row found).2.2.1
  have known : some before.zswapInputCount = row.zswapInputCount := counts
  rw [unknown] at known
  cases known

/-- The later decode gives facts, the earlier one did not. -/
theorem decoded_over_unread {facts : LedgerPayloadFacts} (found : own.columns = some row)
    (read : factsOf row.transactionType payload = some facts) (before : earlier.facts row = none) :
    (own.apply (earlier.update row)).decode payload = own.decode payload := by
  rcases apply_of_none before with ⟨old, wrote⟩
  have first : own.apply (earlier.update row) =
      { own with columns := some (row.unread (earlier.transactionType row) old) } := wrote found
  have listed : (own.apply (earlier.update row)).columns =
      some (row.unread (earlier.transactionType row) old) := congrArg OwnRows.columns first
  rw [decode_eq listed, decode_eq found]
  refine (apply_of_facts read listed).trans (Eq.trans ?_ (apply_of_facts read found).symm)
  rw [first]
  rfl

/-- Both decodes give facts. -/
theorem decoded_again_iff {before facts : LedgerPayloadFacts} (found : own.columns = some row)
    (read : factsOf row.transactionType payload = some facts)
    (readBefore : earlier.facts row = some before) :
    (own.apply (earlier.update row)).decode payload = own.decode payload ↔
      (row.txType = .contractCall →
        ∀ txType ∈ callFreeTxType before, callFreeTxType facts = some txType) ∧
      ∀ action ∈ own.actions, ∀ name ∈ circuitOf (own.names before) action.ID,
        circuitOf (own.names facts) action.ID ≠ none ∨ action.entryPoint = some name := by
  have first : own.apply (earlier.update row) = _ := apply_of_facts readBefore found
  have listed : (own.apply (earlier.update row)).columns =
      some (row.decoded before .decoded (some row.txType)) := congrArg OwnRows.columns first
  rw [decode_eq listed, decode_eq found]
  have again : (own.apply (earlier.update row)).apply (decodeUpdate
      (row.decoded before .decoded (some row.txType)) payload) = _ := apply_of_facts read listed
  have once : own.apply (decodeUpdate row payload) = _ := apply_of_facts read found
  rw [again, once, first, OwnRows.mk.injEq, Option.some.injEq, decoded_decoded_iff,
    ← rename_rename_iff]
  exact and_congr_right fun _ => ⟨fun both => both.2, fun actions => ⟨rfl, actions⟩⟩

/-- A decode over what an earlier one left is as a first decode exactly when it overwrites all of
it. -/
theorem decode_again_iff (undecoded : own.Undecoded) (found : own.columns = some row) :
    (own.apply (earlier.update row)).decode payload = own.decode payload ↔
      Overwrites own row earlier payload := by
  unfold Overwrites
  cases read : factsOf row.transactionType payload with
  | none =>
    cases readBefore : earlier.facts row with
    | none => simpa using unread_again_iff found read readBefore
    | some before => simpa using unread_over_facts undecoded found read readBefore
  | some facts =>
    cases readBefore : earlier.facts row with
    | none => simpa using decoded_over_unread found read readBefore
    | some before => simpa using decoded_again_iff found read readBefore

end OwnRows

/-! ## The claim -/

section Redecoding

variable {config : PassConfig} {payload : Nat → LedgerPayload} {tables : IndexTables} {txID : Nat}

/-- The index after an earlier decode of a transaction and a call of `redecodeFromHeight`. -/
def redecoding (earlier : EarlierDecode) (txID : Nat) (sync : SyncState) (height : Nat)
    (tables : IndexTables) : IndexTables :=
  (tables.onRows (earlier.write txID)).setSync (redecodeFromHeight sync height)

theorem ownRows_earlier (distinct : DistinctColumns tables) {row : TransactionColumns}
    (stored : row ∈ tables.derived.columns) (earlier : EarlierDecode) :
    ownRows (earlier.write row.transactionID tables.derived) row.transactionID =
      (ownRows tables.derived row.transactionID).apply (earlier.update row) := by
  have isUpdate : (earlier.update row).id = row.transactionID := decodeUpdate_id _ _
  rw [EarlierDecode.write, columnsOf_eq_some distinct stored]
  exact ownRows_applyFacts isUpdate

theorem earlier_distinct (distinct : DistinctColumns tables) (earlier : EarlierDecode) :
    DistinctColumns (tables.onRows (earlier.write txID)) := by
  have same : (earlier.write txID tables.derived).columns.map TransactionColumns.transactionID =
      tables.derived.columns.map TransactionColumns.transactionID := by
    unfold EarlierDecode.write
    split
    · rfl
    · exact applyFacts_columns _ _
  exact (congrArg List.Nodup same).mpr distinct

/-- What passes leave of a transaction after an earlier decode of it is what they leave of it
without exactly when its payload overwrites all the earlier decode wrote. -/
theorem redecode_eq_first_iff (distinct : DistinctColumns tables) {row : TransactionColumns}
    (stored : row ∈ tables.derived.columns)
    (undecoded : (ownRows tables.derived row.transactionID).Undecoded) (earlier : EarlierDecode)
    (sync : SyncState) (height : Nat) {firstCount againCount : Nat}
    (first : GoneOver config payload firstCount tables row.transactionID)
    (again : GoneOver config payload againCount
      (redecoding earlier row.transactionID sync height tables) row.transactionID) :
    ownRows (passes config payload againCount
        (redecoding earlier row.transactionID sync height tables)).derived row.transactionID =
        ownRows (passes config payload firstCount tables).derived row.transactionID ↔
      Overwrites (ownRows tables.derived row.transactionID) row earlier
        (payload row.transactionID) := by
  have found := columnsOf_eq_some distinct stored
  have later : DistinctColumns (redecoding earlier row.transactionID sync height tables) :=
    earlier_distinct distinct earlier
  rw [ownRows_passes distinct first, ownRows_passes later again]
  rw [← OwnRows.decode_again_iff undecoded found, ← ownRows_earlier distinct stored]
  rfl

end Redecoding

/-- One block with one transaction, whose type is the default one. -/
def oneTransaction : IndexTables :=
  { IndexTables.empty with
    db := { Db.empty with
      blocks := [⟨0, 10, 0, none⟩]
      transactions := [⟨1, 0, none, none, none⟩] }
    derived := { DerivedRows.empty with
      columns := [⟨1, 0, none, .REGULAR, .contractCall, none, none, none, none, none, none, none,
        none, none, none, none, none⟩] } }

def registrationFacts : LedgerPayloadFacts where
  identifiers := [7]
  contractActions := []
  zswapInputCount := 0
  zswapOutputCount := 0
  zswapTransientCount := 0
  dustSpendCount := 0
  dustRegistrationCount := 1
  dustSpendValue := 0

/-- A version that counted an input the transaction does not have. -/
def shieldedDecode : EarlierDecode where
  payload := .facts { registrationFacts with zswapInputCount := 1 }
  readsInherents := false

def oneBlockPasses : PassConfig := ⟨0, 1, Nat.one_pos⟩

def decodedSync : SyncState := { SyncState.initial with lastDecodedHeight := some 0 }

theorem oneTransaction_undecoded : (ownRows oneTransaction.derived 1).Undecoded where
  identifiers := rfl
  columns := by
    rintro row ⟨⟩
    decide

theorem oneTransaction_goneOver :
    GoneOver oneBlockPasses (fun _ => .facts registrationFacts) 1 oneTransaction 1 :=
  ⟨0, Nat.one_pos, ⟨0, 10, 0, none⟩, by decide, ⟨1, 0, none, none, none⟩, by decide, rfl, rfl⟩

theorem oneTransaction_goneOver_again (earlier : EarlierDecode) :
    GoneOver oneBlockPasses (fun _ => .facts registrationFacts) 1
      (redecoding earlier 1 decodedSync 0 oneTransaction) 1 :=
  ⟨0, Nat.one_pos, ⟨0, 10, 0, none⟩, (by decide :
    (⟨0, 10, 0, none⟩ : Block) ∈ passBlocks oneBlockPasses oneTransaction),
    ⟨1, 0, none, none, none⟩, List.mem_singleton_self _, rfl, rfl⟩

/-- The type an earlier version read stays, and a first decode gives another. -/
theorem redecode_keeps_earlier_type :
    GoneOver oneBlockPasses (fun _ => .facts registrationFacts) 1 oneTransaction 1 ∧
      GoneOver oneBlockPasses (fun _ => .facts registrationFacts) 1
        (redecoding shieldedDecode 1 decodedSync 0 oneTransaction) 1 ∧
      (ownRows (passes oneBlockPasses (fun _ => .facts registrationFacts) 1
        oneTransaction).derived 1).columns.map TransactionColumns.txType = some .dustRegistration ∧
      (ownRows (passes oneBlockPasses (fun _ => .facts registrationFacts) 1
        (redecoding shieldedDecode 1 decodedSync 0 oneTransaction)).derived 1).columns.map
          TransactionColumns.txType = some .shieldedTransfer :=
  ⟨oneTransaction_goneOver, oneTransaction_goneOver_again shieldedDecode, by decide, by decide⟩

/-- Facts overwrite a decode that failed. -/
theorem redecode_eq_first_iff_failed :
    ownRows (passes oneBlockPasses (fun _ => .facts registrationFacts) 1
        (redecoding ⟨.undecodable, false⟩ 1 decodedSync 0 oneTransaction)).derived 1 =
      ownRows (passes oneBlockPasses (fun _ => .facts registrationFacts) 1
        oneTransaction).derived 1 := by
  have distinct : DistinctColumns oneTransaction := List.nodup_singleton 1
  have overwrites := redecode_eq_first_iff distinct (List.mem_singleton_self _)
    oneTransaction_undecoded ⟨.undecodable, false⟩ decodedSync 0 oneTransaction_goneOver
    (oneTransaction_goneOver_again _)
  refine overwrites.mpr ?_
  intro before read
  cases read

end Nightgate.Crawler
