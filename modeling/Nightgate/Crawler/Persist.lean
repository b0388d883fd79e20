import Nightgate.Crawler.Tables

/-!
# Persisting a block

`BlockProcessor.persistFromNode` and what it calls: one database transaction
that inserts the block with its transactions and outputs, marks the outputs its
transactions spend, adds the block's NIGHT deltas to `NightBalances` and moves
`SyncState` to the block.
-/

namespace Nightgate.Crawler

/-- An output of a block before it is stored. -/
structure PreparedUtxo where
  owner : Address
  tokenType : TokenType
  value : Nat
  intentHash : Hash
  outputIndex : Nat

/-- An output a transaction of the block spends, by its ledger key. -/
structure Spend where
  intentHash : Hash
  outputIndex : Nat

/-- What the events of one extrinsic say about unshielded tokens. -/
structure EventProjection where
  created : List PreparedUtxo
  spent : List Spend
  senderAddress : Option Address
  receiverAddress : Option Address
  nightAmount : Option Nat

/-- The projection of an extrinsic whose events say nothing about tokens. -/
def EventProjection.none : EventProjection where
  created := []
  spent := []
  senderAddress := .none
  receiverAddress := .none
  nightAmount := .none

/-- A fetched block: its header and one projection an extrinsic. -/
structure PreparedBlock where
  blockHash : Hash
  height : Nat
  parentHash : Hash
  extrinsics : List EventProjection

structure BalanceDelta where
  balance : Int
  utxoCount : Int
  totalReceived : Int
  txReceivedCount : Int
  totalSent : Int
  txSentCount : Int

def emptyBalanceDelta : BalanceDelta where
  balance := 0
  utxoCount := 0
  totalReceived := 0
  txReceivedCount := 0
  totalSent := 0
  txSentCount := 0

/-- The `balanceDeltas` map of one block. -/
abbrev BalanceDeltas := AList fun _ : Address => BalanceDelta

namespace BalanceDeltas

/-- The delta of an address, zero when the block did not touch it. -/
def of (deltas : BalanceDeltas) (address : Address) : BalanceDelta :=
  (deltas.lookup address).getD emptyBalanceDelta

/-- `deltaFor(address)` followed by an update of the delta it returns. -/
def update (deltas : BalanceDeltas) (address : Address)
    (change : BalanceDelta → BalanceDelta) : BalanceDeltas :=
  deltas.insert address (change (deltas.of address))

theorem of_update (deltas : BalanceDeltas) (address other : Address)
    (change : BalanceDelta → BalanceDelta) :
    (deltas.update address change).of other =
      if other = address then change (deltas.of address) else deltas.of other := by
  by_cases same : other = address
  · subst same
    simp [update, of]
  · simp [update, of, same]

theorem mem_update (deltas : BalanceDeltas) (address other : Address)
    (change : BalanceDelta → BalanceDelta) :
    other ∈ deltas.update address change ↔ other = address ∨ other ∈ deltas := by
  simp [update]

end BalanceDeltas

/-- A NIGHT output the block created. -/
def BalanceDelta.receive (delta : BalanceDelta) (value : Nat) : BalanceDelta :=
  { delta with
    balance := delta.balance + value
    utxoCount := delta.utxoCount + 1
    totalReceived := delta.totalReceived + value
    txReceivedCount := delta.txReceivedCount + 1 }

/-- A transaction of the block that sent NIGHT to another address. -/
def BalanceDelta.send (delta : BalanceDelta) (amount : Nat) : BalanceDelta :=
  { delta with
    totalSent := delta.totalSent + amount
    txSentCount := delta.txSentCount + 1 }

/-- A NIGHT output the block spent. -/
def BalanceDelta.spend (delta : BalanceDelta) (value : Nat) : BalanceDelta :=
  { delta with
    balance := delta.balance - value
    utxoCount := delta.utxoCount - 1 }

/-! ## Collecting the rows of a block -/

/-- A spend with the transaction it came in. -/
structure SpendRequest where
  spend : Spend
  txID : Nat

/-- The rows and deltas the loop over the extrinsics collects. -/
structure Collected where
  txRows : List Transaction
  utxoRows : List UnshieldedUtxo
  spendRequests : List SpendRequest
  balanceDeltas : BalanceDeltas
  nextID : Nat

/-- Whether a transaction counts as sent, and how much it sent. -/
def sentAmount (senderAddress receiverAddress : Option Address)
    (nightAmount : Option Nat) : Option (Address × Nat) :=
  match senderAddress, receiverAddress with
  | some sender, some receiver =>
    if receiver ≠ sender ∧ 0 < nightAmount.getD 0 then
      some (sender, nightAmount.getD 0)
    else none
  | _, _ => none

/-- One created output: its row, and a delta when it is NIGHT. -/
def collectUtxo (txID : Nat) (acc : Collected) (utxo : PreparedUtxo) : Collected where
  txRows := acc.txRows
  utxoRows := acc.utxoRows ++ [{
    ID := acc.nextID
    owner := utxo.owner
    tokenType := utxo.tokenType
    value := utxo.value
    intentHash := utxo.intentHash
    outputIndex := utxo.outputIndex
    createdAtTransactionID := txID
    spentAtTransactionID := none
    registeredForDustGeneration := false }]
  spendRequests := acc.spendRequests
  balanceDeltas :=
    if utxo.tokenType ≠ NIGHT_RAW_TOKEN_TYPE then acc.balanceDeltas
    else acc.balanceDeltas.update utxo.owner fun delta => delta.receive utxo.value
  nextID := acc.nextID + 1

/-- The row of one extrinsic. -/
def transactionRow (ID blockID : Nat) (projection : EventProjection) : Transaction where
  ID := ID
  blockID := blockID
  senderAddress := projection.senderAddress
  receiverAddress := projection.receiverAddress
  nightAmount := projection.nightAmount

/-- One extrinsic of the block. -/
def collectExtrinsic (blockID : Nat) (acc : Collected) (projection : EventProjection) : Collected :=
  let txID := acc.nextID
  let withRow := { acc with
    txRows := acc.txRows ++ [transactionRow txID blockID projection]
    nextID := acc.nextID + 1 }
  let withUtxos := projection.created.foldl (collectUtxo txID) withRow
  let withSpends := { withUtxos with
    spendRequests := withUtxos.spendRequests ++ projection.spent.map fun spend => { spend, txID } }
  match sentAmount projection.senderAddress projection.receiverAddress projection.nightAmount with
  | none => withSpends
  | some (sender, amount) =>
    { withSpends with
      balanceDeltas := withSpends.balanceDeltas.update sender fun delta =>
        delta.send amount }

/-- The loop over the extrinsics of a block. -/
def collectBlock (blockID firstID : Nat) (prep : PreparedBlock) : Collected :=
  prep.extrinsics.foldl (collectExtrinsic blockID)
    { txRows := [], utxoRows := [], spendRequests := [], balanceDeltas := ∅,
      nextID := firstID }

/-- The row a spend names. A later row of the same key replaces an earlier one
in the lookup map. -/
def findUtxo (utxos : List UnshieldedUtxo) (spend : Spend) : Option UnshieldedUtxo :=
  utxos.reverse.find? fun row =>
    row.intentHash = spend.intentHash ∧ row.outputIndex = spend.outputIndex

/-- `UPDATE UnshieldedUtxos SET spentAtTransaction_ID WHERE ID`. -/
def markSpent (rowID txID : Nat) (utxos : List UnshieldedUtxo) : List UnshieldedUtxo :=
  utxos.map fun row =>
    if row.ID = rowID then { row with spentAtTransactionID := some txID } else row

/-- One spend: an output that was never indexed or is already spent is skipped. -/
def applySpend (acc : List UnshieldedUtxo × BalanceDeltas) (request : SpendRequest) :
    List UnshieldedUtxo × BalanceDeltas :=
  match findUtxo acc.1 request.spend with
  | none => acc
  | some row =>
    if row.spentAtTransactionID.isSome then acc
    else
      (markSpent row.ID request.txID acc.1,
        if row.tokenType ≠ NIGHT_RAW_TOKEN_TYPE then acc.2
        else acc.2.update row.owner fun delta => delta.spend row.value)

def applySpends (utxos : List UnshieldedUtxo) (deltas : BalanceDeltas)
    (spends : List SpendRequest) : List UnshieldedUtxo × BalanceDeltas :=
  spends.foldl applySpend (utxos, deltas)

/-- The row `applyBalanceDelta` inserts for an address without one. -/
def insertedBalance (delta : BalanceDelta) (height : Nat) : NightBalance where
  balance := delta.balance
  utxoCount := delta.utxoCount
  totalReceived := delta.totalReceived
  txReceivedCount := delta.txReceivedCount
  totalSent := delta.totalSent
  txSentCount := delta.txSentCount
  firstSeenHeight := some height
  lastActivityHeight := some height
  dustAddress := none
  isDustRegistered := false

/-- The row `applyBalanceDelta` updates. `Number(null)` is 0, so a row without
`firstSeenHeight` counts as seen at height 0. -/
def updatedBalance (existing : NightBalance) (delta : BalanceDelta) (height : Nat) :
    NightBalance :=
  { existing with
    balance := existing.balance + delta.balance
    utxoCount := existing.utxoCount + delta.utxoCount
    totalReceived := existing.totalReceived + delta.totalReceived
    txReceivedCount := existing.txReceivedCount + delta.txReceivedCount
    totalSent := existing.totalSent + delta.totalSent
    txSentCount := existing.txSentCount + delta.txSentCount
    firstSeenHeight := some (min (existing.firstSeenHeight.getD 0) height)
    lastActivityHeight := some height }

def applyBalanceDelta (height : Nat) (balances : NightBalances) (address : Address)
    (delta : BalanceDelta) : NightBalances :=
  match balances.lookup address with
  | none => balances.insert address (insertedBalance delta height)
  | some existing => balances.insert address (updatedBalance existing delta height)

def applyBalanceDeltas (height : Nat) (balances : NightBalances)
    (deltas : BalanceDeltas) : NightBalances :=
  deltas.entries.foldl (fun acc entry => applyBalanceDelta height acc entry.1 entry.2) balances

inductive PersistError where
  /-- `Parent block … is not indexed; refusing to persist an orphan`. -/
  | parentNotIndexed (parentHash : Hash) (height : Nat)
  /-- A unique violation without the block. -/
  | uniqueViolation (blockHash : Hash) (height : Nat)

/-- The database after the block's transaction committed. -/
def writeBlock (db : Db) (prep : PreparedBlock) : Db :=
  let blockID := db.nextID
  let collected := collectBlock blockID (db.nextID + 1) prep
  let spent := applySpends (db.utxos ++ collected.utxoRows) collected.balanceDeltas
    collected.spendRequests
  { blocks := db.blocks ++ [{
      ID := blockID
      hash := prep.blockHash
      height := prep.height
      parentID := (db.blockByHash prep.parentHash).map Block.ID }]
    transactions := db.transactions ++ collected.txRows
    utxos := spent.1
    nightBalances := applyBalanceDeltas prep.height db.nightBalances spent.2
    syncState := { db.syncState with
      lastIndexedHeight := prep.height
      lastIndexedHash := some prep.blockHash }
    nextID := collected.nextID }

/-- The unique indexes of `Blocks` a new row would violate. -/
def violatesUnique (db : Db) (prep : PreparedBlock) : Bool :=
  db.blocks.any fun block => block.hash = prep.blockHash || block.height = prep.height

/-- `persistFromNode`: the database after the call, or the error it throws. A
unique violation on a block that another writer stored meanwhile is no error. -/
def persistFromNode (db : Db) (prep : PreparedBlock) (requireParent : Bool) :
    Except PersistError Db :=
  if requireParent ∧ 0 < prep.height ∧ (db.blockByHash prep.parentHash).isNone then
    .error (.parentNotIndexed prep.parentHash prep.height)
  else if violatesUnique db prep then
    if db.blockExists prep.blockHash then .ok db
    else .error (.uniqueViolation prep.blockHash prep.height)
  else .ok (writeBlock db prep)

/-- What a call of `persistFromNode` can do to the database. -/
theorem persistFromNode_cases {db after : Db} {prep : PreparedBlock}
    {requireParent : Bool} (done : persistFromNode db prep requireParent = .ok after) :
    after = db ∨ (after = writeBlock db prep ∧
        (∀ block ∈ db.blocks, block.hash ≠ prep.blockHash ∧ block.height ≠ prep.height) ∧
        (requireParent = true → 0 < prep.height →
          ∃ parent, db.blockByHash prep.parentHash = some parent)) := by
  unfold persistFromNode at done
  split at done
  · cases done
  rename_i parentCheck
  split at done
  · split at done
    · exact .inl (Except.ok.inj done).symm
    · cases done
  rename_i unique
  refine .inr ⟨(Except.ok.inj done).symm, ?_, ?_⟩
  · simpa [violatesUnique] using unique
  · intro required positive
    simpa [required, positive, Option.isNone_iff_eq_none, Option.ne_none_iff_exists']
      using parentCheck

end Nightgate.Crawler
