import Nightgate.Crawler.WellFormed
import Nightgate.Library.ForeignKeys

/-!
# Tables below a transaction

What indexing a block stores beside its transactions and outputs, and what a rollback deletes
with them. A transaction has at most one result and numbers its contract actions, so a result is
named by its transaction and an action by its transaction and its index.
-/

namespace Nightgate.Crawler

open Library

inductive TxType where
  | nightTransfer
  | shieldedTransfer
  | contractDeploy
  | contractCall
  | contractUpdate
  | dustRegistration
  | dustGeneration
  | governance
  | system
  | unknown
  deriving DecidableEq

inductive TransactionType where
  | SYSTEM
  | REGULAR
  deriving DecidableEq

inductive DecodeState where
  | decoded
  | absent
  | failed
  deriving DecidableEq

/-- The columns of `midnight.Transactions` that the block's events and the payload fill. -/
structure TransactionColumns where
  transactionID : Nat
  /-- Position in the block. -/
  transactionId : Nat
  ledgerTxHash : Option Hash
  transactionType : TransactionType
  txType : TxType
  isShielded : Option Bool
  hasProof : Option Bool
  contractAddress : Option Hash
  circuitName : Option String
  payloadDecode : Option DecodeState
  identifiers : Option (List Hash)
  zswapInputCount : Option Nat
  zswapOutputCount : Option Nat
  zswapTransientCount : Option Nat
  dustSpendCount : Option Nat
  dustRegistrationCount : Option Nat
  dustConsumed : Option Nat

inductive TransactionStatus where
  | SUCCESS
  | PARTIAL_SUCCESS
  | FAILURE
  deriving DecidableEq

structure TransactionResult where
  transactionID : Nat
  status : TransactionStatus

def TransactionResult.ID (result : TransactionResult) : Nat := result.transactionID

structure TransactionSegment where
  transactionResultID : Nat
  segmentId : Nat
  success : Bool

structure TransactionFee where
  transactionID : Nat
  paidFees : Nat
  estimatedFees : Nat

structure TransactionIdentifier where
  identifier : Hash
  transactionID : Nat

inductive ContractActionType where
  | DEPLOY
  | CALL
  | UPDATE
  deriving DecidableEq

abbrev StateBytes := List UInt8

structure ContractAction where
  transactionID : Nat
  actionIndex : Nat
  address : Option Hash
  actionType : ContractActionType
  entryPoint : Option String
  /-- Full states, kept only for configured contracts. -/
  state : Option StateBytes
  zswapState : Option StateBytes
  stateHash : Option Hash
  stateSize : Option Nat
  zswapStateHash : Option Hash
  zswapStateSize : Option Nat

abbrev ActionID := Nat × Nat

def ContractAction.ID (action : ContractAction) : ActionID :=
  (action.transactionID, action.actionIndex)

structure ContractBalance where
  contractActionID : ActionID
  tokenType : TokenType
  amount : Nat

structure ZswapLedgerEvent where
  transactionID : Nat
  eventId : Nat
  maxId : Nat
  raw : Option StateBytes
  deriving DecidableEq

inductive DustLedgerEventType where
  | DTIME_UPDATE
  | INITIAL_UTXO
  | SPEND_PROCESSED
  | PARAM_CHANGE
  deriving DecidableEq

structure DustLedgerEvent where
  transactionID : Nat
  eventId : Nat
  maxId : Nat
  raw : Option StateBytes
  eventType : DustLedgerEventType
  dustOutputNonce : Option Hash

/-- `midnight.ContractStates`: the newest known state of a contract. -/
structure ContractState where
  address : Hash
  height : Nat
  state : Option StateBytes
  zswapState : Option StateBytes
  stateHash : Option Hash
  zswapStateHash : Option Hash
  contractActionID : ActionID

/-- The rows below the transactions. -/
structure DerivedRows where
  columns : List TransactionColumns
  results : List TransactionResult
  segments : List TransactionSegment
  fees : List TransactionFee
  identifiers : List TransactionIdentifier
  actions : List ContractAction
  balances : List ContractBalance
  zswapEvents : List ZswapLedgerEvent
  dustEvents : List DustLedgerEvent

def DerivedRows.empty : DerivedRows where
  columns := []
  results := []
  segments := []
  fees := []
  identifiers := []
  actions := []
  balances := []
  zswapEvents := []
  dustEvents := []

/-- The index with the tables below its transactions. -/
structure IndexTables where
  db : Db
  derived : DerivedRows
  contractStates : List ContractState

def IndexTables.empty : IndexTables where
  db := .empty
  derived := .empty
  contractStates := []

/-! ## Indexing -/

structure ContractEvent where
  actionType : ContractActionType
  address : Option Hash

inductive ExtrinsicOutcome where
  | SUCCESS
  | FAILURE
  deriving DecidableEq

/-- The events of an extrinsic. `movesUtxos` says whether they name an unshielded output. -/
structure ExtrinsicEvents where
  outcome : Option ExtrinsicOutcome
  ledgerTxHash : Option Hash
  applied : Bool
  partialSuccess : Bool
  movesUtxos : Bool
  contracts : List ContractEvent

structure ExtrinsicClassification where
  txType : TxType
  isShielded : Bool
  isSystem : Bool
  circuitName : Option String

/-- An extrinsic of a fetched block, with what its events say about tokens. -/
structure IndexedExtrinsic where
  projection : EventProjection
  classification : ExtrinsicClassification
  events : Option ExtrinsicEvents

structure IndexedBlock where
  blockHash : Hash
  height : Nat
  parentHash : Hash
  extrinsics : List IndexedExtrinsic

def IndexedBlock.prep (block : IndexedBlock) : PreparedBlock where
  blockHash := block.blockHash
  height := block.height
  parentHash := block.parentHash
  extrinsics := block.extrinsics.map IndexedExtrinsic.projection

def txTypeFromEvents : Option ExtrinsicEvents → Option TxType
  | none => none
  | some events =>
    if events.contracts.any fun event => event.actionType = .DEPLOY then some .contractDeploy
    else if events.contracts.any fun event => event.actionType = .UPDATE then
      some .contractUpdate
    else if events.contracts ≠ [] then some .contractCall
    else if events.movesUtxos then some .nightTransfer
    else none

/-- FAILURE beats PARTIAL_SUCCESS beats SUCCESS. -/
def outcomeFor (events : Option ExtrinsicEvents) : Option TransactionStatus :=
  events.bind fun events =>
    match events.outcome with
    | none => none
    | some .FAILURE => some .FAILURE
    | some .SUCCESS => some (if events.partialSuccess then .PARTIAL_SUCCESS else .SUCCESS)

def toContractActionType : TxType → Option ContractActionType
  | .contractDeploy => some .DEPLOY
  | .contractCall => some .CALL
  | .contractUpdate => some .UPDATE
  | _ => none

/-- The pallet map only serves an extrinsic without events. -/
def contractActionsFor (events : Option ExtrinsicEvents)
    (classification : ExtrinsicClassification) : List ContractEvent :=
  let contracts := (events.map ExtrinsicEvents.contracts).getD []
  if contracts ≠ [] then contracts
  else if events.any ExtrinsicEvents.applied then []
  else
    (toContractActionType classification.txType).toList.map fun actionType =>
      { actionType, address := none }

/-- The pallet call does not show what a ledger transaction contains. -/
def shieldedFlag (classification : ExtrinsicClassification) : Option Bool :=
  if classification.isSystem then some false
  else if classification.isShielded then some true
  else none

def columnsRow (txID position : Nat) (extrinsic : IndexedExtrinsic) : TransactionColumns where
  transactionID := txID
  transactionId := position
  ledgerTxHash := extrinsic.events.bind ExtrinsicEvents.ledgerTxHash
  transactionType := if extrinsic.classification.isSystem then .SYSTEM else .REGULAR
  txType := (txTypeFromEvents extrinsic.events).getD extrinsic.classification.txType
  isShielded := shieldedFlag extrinsic.classification
  hasProof := shieldedFlag extrinsic.classification
  contractAddress :=
    extrinsic.events.bind fun events => events.contracts.head?.bind ContractEvent.address
  circuitName := extrinsic.classification.circuitName
  payloadDecode := none
  identifiers := none
  zswapInputCount := none
  zswapOutputCount := none
  zswapTransientCount := none
  dustSpendCount := none
  dustRegistrationCount := none
  dustConsumed := none

def actionRow (txID : Nat) (classification : ExtrinsicClassification) (index : Nat)
    (event : ContractEvent) : ContractAction where
  transactionID := txID
  actionIndex := index
  address := event.address
  actionType := event.actionType
  entryPoint := classification.circuitName
  state := none
  zswapState := none
  stateHash := none
  stateSize := none
  zswapStateHash := none
  zswapStateSize := none

def actionRows (txID : Nat) (extrinsic : IndexedExtrinsic) : List ContractAction :=
  (contractActionsFor extrinsic.events extrinsic.classification).mapIdx
    (actionRow txID extrinsic.classification)

/-- The rows `persistFromNode` inserts below the transactions of a block. -/
def derivedRows (txIDs : List Nat) (extrinsics : List IndexedExtrinsic) : DerivedRows where
  columns := (txIDs.zip extrinsics).mapIdx fun position entry =>
    columnsRow entry.1 position entry.2
  results := (txIDs.zip extrinsics).flatMap fun entry =>
    (outcomeFor entry.2.events).toList.map fun status => { transactionID := entry.1, status }
  segments := []
  fees := (txIDs.zip extrinsics).map fun entry =>
    { transactionID := entry.1, paidFees := 0, estimatedFees := 0 }
  identifiers := []
  actions := (txIDs.zip extrinsics).flatMap fun entry => actionRows entry.1 entry.2
  balances := []
  zswapEvents := []
  dustEvents := []

def DerivedRows.insert (rows new : DerivedRows) : DerivedRows where
  columns := rows.columns ++ new.columns
  results := rows.results ++ new.results
  segments := rows.segments ++ new.segments
  fees := rows.fees ++ new.fees
  identifiers := rows.identifiers ++ new.identifiers
  actions := rows.actions ++ new.actions
  balances := rows.balances ++ new.balances
  zswapEvents := rows.zswapEvents ++ new.zswapEvents
  dustEvents := rows.dustEvents ++ new.dustEvents

/-- `persistFromNode` with the tables below the transactions. -/
def persistTables (tables : IndexTables) (block : IndexedBlock) (requireParent : Bool) :
    Except PersistError IndexTables :=
  match persistFromNode tables.db block.prep requireParent with
  | .error error => .error error
  | .ok after => .ok { tables with
      db := after
      derived :=
        if violatesUnique tables.db block.prep then tables.derived
        else tables.derived.insert
          (derivedRows ((newRows tables.db block.prep).txRows.map Transaction.ID)
            block.extrinsics) }

/-- The deletions of a rollback below the transactions. Segments go with their result, balances
with their action. -/
def DerivedRows.without (rows : DerivedRows) (txIDs : List Nat) : DerivedRows :=
  let actionIDs := (rows.actions.filter fun action => action.transactionID ∈ txIDs).map
    ContractAction.ID
  let resultIDs := (rows.results.filter fun result => result.transactionID ∈ txIDs).map
    TransactionResult.ID
  { columns := deleteOf TransactionColumns.transactionID txIDs rows.columns
    results := deleteOf TransactionResult.transactionID txIDs rows.results
    segments := deleteOf TransactionSegment.transactionResultID resultIDs rows.segments
    fees := deleteOf TransactionFee.transactionID txIDs rows.fees
    identifiers := deleteOf TransactionIdentifier.transactionID txIDs rows.identifiers
    actions := deleteOf ContractAction.transactionID txIDs rows.actions
    balances := deleteOf ContractBalance.contractActionID actionIDs rows.balances
    zswapEvents := deleteOf ZswapLedgerEvent.transactionID txIDs rows.zswapEvents
    dustEvents := deleteOf DustLedgerEvent.transactionID txIDs rows.dustEvents }

/-- `rollbackIndexedDataFromHeight` with the tables below the transactions. -/
def rollbackTables (tables : IndexTables) (fromHeight : Nat) : IndexTables :=
  if removedBlocks tables.db fromHeight = [] then
    { tables with db := rollbackIndexedDataFromHeight tables.db fromHeight }
  else
    { db := rollbackIndexedDataFromHeight tables.db fromHeight
      derived := tables.derived.without (removedTxs tables.db fromHeight)
      contractStates := tables.contractStates.filter fun state => state.height < fromHeight }

end Nightgate.Crawler
