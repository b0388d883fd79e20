import Mathlib.Algebra.Ring.Int.Defs
import Nightgate.Crawler.Persist

/-!
# Rollback of the index

`rollbackIndexedDataFromHeight` without its submission evidence: it removes every
block from a height upwards with the rows derived from it, recomputes the NIGHT
balances of the addresses those rows named and moves `SyncState` back to the
highest block left.
-/

namespace Nightgate.Crawler

/-- The fields of a `NightBalances` row that a balance check compares. -/
structure NightBalanceFigures where
  balance : Int
  utxoCount : Int
  txSentCount : Int
  txReceivedCount : Int
  totalSent : Int
  totalReceived : Int
  firstSeenHeight : Option Nat
  lastActivityHeight : Option Nat
  deriving DecidableEq

/-- The compared fields of a stored row. -/
def NightBalance.figures (row : NightBalance) : NightBalanceFigures where
  balance := row.balance
  utxoCount := row.utxoCount
  txSentCount := row.txSentCount
  txReceivedCount := row.txReceivedCount
  totalSent := row.totalSent
  totalReceived := row.totalReceived
  firstSeenHeight := row.firstSeenHeight
  lastActivityHeight := row.lastActivityHeight

/-- The NIGHT outputs of an address. -/
def nightUtxosOf (db : Db) (address : Address) : List UnshieldedUtxo :=
  db.utxos.filter fun utxo =>
    utxo.owner = address ∧ utxo.tokenType = NIGHT_RAW_TOKEN_TYPE

/-- What a stored transaction counts as sent by an address. -/
def Transaction.sentBy (transaction : Transaction) (address : Address) : Option Nat :=
  match sentAmount transaction.senderAddress transaction.receiverAddress
      transaction.nightAmount with
  | some (sender, amount) => if sender = address then some amount else none
  | none => none

/-- The transactions that count as sent by an address. -/
def sentTxsOf (db : Db) (address : Address) : List Transaction :=
  db.transactions.filter fun transaction => (transaction.sentBy address).isSome

/-- The transactions that created or spent one of the outputs. -/
def activityTxIDs (utxos : List UnshieldedUtxo) : List Nat :=
  (utxos.map UnshieldedUtxo.createdAtTransactionID ++
    utxos.filterMap UnshieldedUtxo.spentAtTransactionID).dedup

/-- The heights of the blocks an address was active in. -/
def activityHeights (db : Db) (address : Address) : List Nat :=
  let activityIDs := activityTxIDs (nightUtxosOf db address)
  let activityTxs := db.transactions.filter fun transaction =>
    transaction.ID ∈ activityIDs
  let blockIDs := ((activityTxs ++ sentTxsOf db address).map Transaction.blockID).dedup
  (db.blocks.filter fun block => block.ID ∈ blockIDs).map Block.height

/-- `computeNightBalance`: the figures of an address from the indexed rows. -/
def computeNightBalance (db : Db) (address : Address) : Option NightBalanceFigures :=
  let utxos := nightUtxosOf db address
  let sentTxs := sentTxsOf db address
  if utxos = [] ∧ sentTxs = [] then none
  else
    let heights := activityHeights db address
    let unspent := utxos.filter fun utxo => utxo.spentAtTransactionID.isNone
    some {
      balance := (unspent.map fun utxo => (utxo.value : Int)).sum
      utxoCount := unspent.length
      txSentCount := sentTxs.length
      txReceivedCount := utxos.length
      totalSent := (sentTxs.map fun transaction =>
        (transaction.nightAmount.getD 0 : Int)).sum
      totalReceived := (utxos.map fun utxo => (utxo.value : Int)).sum
      firstSeenHeight := heights.min?
      lastActivityHeight := heights.max? }

/-- The values `recomputeNightBalance` writes over an existing row. -/
def NightBalance.withFigures (row : NightBalance) (figures : NightBalanceFigures) :
    NightBalance :=
  { row with
    balance := figures.balance
    utxoCount := figures.utxoCount
    txSentCount := figures.txSentCount
    txReceivedCount := figures.txReceivedCount
    totalSent := figures.totalSent
    totalReceived := figures.totalReceived
    firstSeenHeight := figures.firstSeenHeight
    lastActivityHeight := figures.lastActivityHeight }

/-- The figures of an address without activity whose row is kept. -/
def zeroFigures : NightBalanceFigures where
  balance := 0
  utxoCount := 0
  txSentCount := 0
  txReceivedCount := 0
  totalSent := 0
  totalReceived := 0
  firstSeenHeight := none
  lastActivityHeight := none

/-- A row without figures and without a dust registration. -/
def NightBalance.blank : NightBalance where
  balance := 0
  utxoCount := 0
  txSentCount := 0
  txReceivedCount := 0
  totalSent := 0
  totalReceived := 0
  firstSeenHeight := none
  lastActivityHeight := none
  dustAddress := none
  isDustRegistered := false

/-- The row `recomputeNightBalance` leaves for an address, if any. A row of an
address without activity is kept only for its dust registration. -/
def recomputedBalance (figures : Option NightBalanceFigures)
    (existing : Option NightBalance) : Option NightBalance :=
  match figures, existing with
  | none, none => none
  | none, some row =>
    if row.dustAddress.isSome ∨ row.isDustRegistered then
      some (row.withFigures zeroFigures)
    else none
  | some figures, none => some (NightBalance.blank.withFigures figures)
  | some figures, some row => some (row.withFigures figures)

def recomputeNightBalance (db : Db) (address : Address) : Db :=
  { db with
    nightBalances :=
      match recomputedBalance (computeNightBalance db address)
          (db.nightBalances.lookup address) with
      | none => db.nightBalances.erase address
      | some row => db.nightBalances.insert address row }

/-! ## The rollback -/

/-- The higher of two blocks. -/
def higherOf (best : Option Block) (block : Block) : Option Block :=
  match best with
  | none => some block
  | some other => if other.height < block.height then some block else some other

/-- `selectForkBlock`: the highest block below a height. -/
def selectForkBlock (blocks : List Block) (fromHeight : Nat) : Option Block :=
  (blocks.filter fun block => block.height < fromHeight).foldl higherOf none

/-- The addresses whose balances the removed transactions can have changed. -/
def affectedAddresses (db : Db) (txsToDelete : List Transaction) : List Address :=
  let txIDs := txsToDelete.map Transaction.ID
  (txsToDelete.filterMap Transaction.senderAddress ++
    txsToDelete.filterMap Transaction.receiverAddress ++
    (db.utxos.filter fun utxo => utxo.createdAtTransactionID ∈ txIDs).map UnshieldedUtxo.owner ++
    (db.utxos.filter fun utxo => utxo.spentAtTransactionID.any (· ∈ txIDs)).map
      UnshieldedUtxo.owner).dedup

/-- The output rows left once the transactions are gone: those they created are
deleted, those they spent are unspent again. -/
def utxosWithout (txIDs : List Nat) (utxos : List UnshieldedUtxo) :
    List UnshieldedUtxo :=
  (utxos.filter fun utxo => utxo.createdAtTransactionID ∉ txIDs).map fun utxo =>
    if utxo.spentAtTransactionID.any (· ∈ txIDs) then
      { utxo with spentAtTransactionID := none }
    else utxo

/-- The tables without the blocks from a height upwards. -/
def deleteFrom (db : Db) (fromHeight : Nat) : Db :=
  let blockIDs := (db.blocks.filter fun block => fromHeight ≤ block.height).map Block.ID
  let txIDs := (db.transactions.filter fun transaction =>
    transaction.blockID ∈ blockIDs).map Transaction.ID
  { db with
    blocks := db.blocks.filter fun block => block.ID ∉ blockIDs
    transactions := db.transactions.filter fun transaction =>
      transaction.blockID ∉ blockIDs
    utxos := utxosWithout txIDs db.utxos }

/-- A cursor of a trailing pass must not stay above the new tip. -/
def clampCursor (forkHeight : Nat) (value : Option Nat) : Option Nat :=
  value.map fun height => min height forkHeight

/-- `SyncState` after the rollback reached the fork block. -/
def SyncState.rolledBackTo (sync : SyncState) (forkBlock : Option Block) : SyncState :=
  let forkHeight := (forkBlock.map Block.height).getD 0
  { sync with
    lastIndexedHeight := forkHeight
    lastIndexedHash := forkBlock.map Block.hash
    lastDecodedHeight := clampCursor forkHeight sync.lastDecodedHeight
    lastSupplementedHeight := clampCursor forkHeight sync.lastSupplementedHeight }

/-- `bumpReorgGeneration`, the first write of every rollback. -/
def bumpReorgGeneration (sync : SyncState) : SyncState :=
  { sync with reorgGeneration := sync.reorgGeneration + 1 }

/-- `rollbackIndexedDataFromHeight`: without a block from the height upwards only
the generation moves. -/
def rollbackIndexedDataFromHeight (db : Db) (fromHeight : Nat) : Db :=
  let bumped := { db with syncState := bumpReorgGeneration db.syncState }
  let removed := db.blocks.filter fun block => fromHeight ≤ block.height
  if removed = [] then bumped
  else
    let txsToDelete := db.transactions.filter fun transaction =>
      transaction.blockID ∈ removed.map Block.ID
    let affected := affectedAddresses db txsToDelete
    let recomputed := affected.foldl recomputeNightBalance (deleteFrom bumped fromHeight)
    { recomputed with
      syncState := recomputed.syncState.rolledBackTo
        (selectForkBlock recomputed.blocks fromHeight) }

end Nightgate.Crawler
