import Nightgate.Crawler.DerivedTables
import Nightgate.Crawler.CursorPass
import Nightgate.Crawler.BalanceRuns

/-!
# What the trailing passes write

The database transactions of the indexer supplement and of the payload decoder, each for one
stored transaction, and the identifier backfill.
-/

namespace Nightgate.Crawler

open Library

inductive ContractStateHistory where
  | none
  | watched
  | all
  deriving DecidableEq

structure ContractStatePolicy where
  history : ContractStateHistory
  watched : List Hash

def keepsStateHistory (policy : ContractStatePolicy) (address : Option Hash) : Bool :=
  match policy.history with
  | .all => true
  | .watched => address.any (· ∈ policy.watched)
  | .none => false

/-- `sha256` is the hash of the bytes of a state. -/
structure SupplementConfig where
  contractState : ContractStatePolicy
  sha256 : StateBytes → Hash

structure StateDigest where
  hash : Option Hash
  size : Option Nat

def SupplementConfig.digestOf (config : SupplementConfig) (bytes : Option StateBytes) :
    StateDigest where
  hash := bytes.map config.sha256
  size := bytes.map List.length

/-- Stores a state unless one from a later block is stored. A state from the same block is
replaced. -/
def upsertCurrentState (states : List ContractState) (row : ContractState) :
    List ContractState :=
  match states.find? fun state => state.address = row.address with
  | none => states ++ [row]
  | some existing =>
    if row.height < existing.height then states
    else updateOf ContractState.address row.address (fun _ => row) states

structure SupplementSegment where
  segmentId : Nat
  success : Bool

structure SupplementBalance where
  tokenType : TokenType
  amount : Nat

structure SupplementContractAction where
  actionType : ContractActionType
  address : Hash
  state : Option StateBytes
  zswapState : Option StateBytes
  balances : List SupplementBalance

structure SupplementLedgerEvent where
  eventId : Nat
  maxId : Nat
  raw : Option StateBytes

structure SupplementDustEvent where
  eventId : Nat
  maxId : Nat
  raw : Option StateBytes
  eventType : DustLedgerEventType
  dustOutputNonce : Option Hash

structure SupplementTransaction where
  ledgerTxHash : Hash
  fee : Option Nat
  segments : List SupplementSegment
  contractActions : List SupplementContractAction
  zswapEvents : List SupplementLedgerEvent
  dustEvents : List SupplementDustEvent
  dustRegisteredOutputs : List Spend

def applyFee (txID : Nat) (fee : Option Nat) (rows : DerivedRows) : DerivedRows :=
  match fee with
  | none => rows
  | some paidFees => { rows with
      fees := updateOf TransactionFee.transactionID txID
        (fun stored => { stored with paidFees }) rows.fees }

def applySegments (txID : Nat) (segments : List SupplementSegment) (rows : DerivedRows) :
    DerivedRows :=
  if segments = [] then rows
  else
    match rows.results.find? fun result => result.transactionID = txID with
    | none => rows
    | some result => { rows with
        segments := replaceOf TransactionSegment.transactionResultID result.ID
          (segments.map fun segment => {
            transactionResultID := result.ID
            segmentId := segment.segmentId
            success := segment.success }) rows.segments }

/-- The actions of a transaction in their order. -/
def actionsOf (rows : DerivedRows) (txID : Nat) : List ContractAction :=
  (rows.actions.filter fun action => action.transactionID = txID).insertionSort
    fun left right => left.actionIndex ≤ right.actionIndex

/-- The key actions are paired under. -/
abbrev ActionKey := Option Hash × ContractActionType

def ContractAction.key (action : ContractAction) : ActionKey :=
  (action.address, action.actionType)

def SupplementContractAction.key (declared : SupplementContractAction) : ActionKey :=
  (some declared.address, declared.actionType)

/-- Stored and reported actions paired in order, key by key, where both sides have as many. -/
def pairedActions (mine : List ContractAction) (theirs : List SupplementContractAction) :
    List (ContractAction × SupplementContractAction) :=
  (mine.map ContractAction.key).eraseDups.flatMap fun key =>
    let ours := mine.filter fun action => action.key = key
    let matched := theirs.filter fun declared => declared.key = key
    if matched.length = ours.length then ours.zip matched else []

def setActionState (config : SupplementConfig) (action : ContractAction)
    (reported : SupplementContractAction) (rows : DerivedRows) : DerivedRows :=
  let keep := keepsStateHistory config.contractState action.address
  let state := config.digestOf reported.state
  let zswapState := config.digestOf reported.zswapState
  { rows with
    actions := updateOf ContractAction.ID action.ID (fun stored => { stored with
      state := if keep then reported.state else none
      zswapState := if keep then reported.zswapState else none
      stateHash := state.hash
      stateSize := state.size
      zswapStateHash := zswapState.hash
      zswapStateSize := zswapState.size }) rows.actions }

def replaceBalances (actionID : ActionID) (balances : List SupplementBalance)
    (rows : DerivedRows) : DerivedRows :=
  { rows with
    balances := replaceOf ContractBalance.contractActionID actionID
      (balances.map fun balance => {
        contractActionID := actionID
        tokenType := balance.tokenType
        amount := balance.amount }) rows.balances }

/-- The rows of one paired action. -/
def assignRows (config : SupplementConfig) (rows : DerivedRows)
    (pair : ContractAction × SupplementContractAction) : DerivedRows :=
  replaceBalances pair.1.ID pair.2.balances (setActionState config pair.1 pair.2 rows)

/-- The current state a paired action gives, if it gives one. -/
def givenState (config : SupplementConfig) (height : Nat)
    (pair : ContractAction × SupplementContractAction) : Option ContractState :=
  match pair.2.state, pair.1.address with
  | some state, some address => some {
      address := address
      height := height
      state := some state
      zswapState := pair.2.zswapState
      stateHash := (config.digestOf pair.2.state).hash
      zswapStateHash := (config.digestOf pair.2.zswapState).hash
      contractActionID := pair.1.ID }
  | _, _ => none

/-- The current states after one paired action. -/
def assignCurrentState (config : SupplementConfig) (height : Nat) (states : List ContractState)
    (pair : ContractAction × SupplementContractAction) : List ContractState :=
  match givenState config height pair with
  | some row => upsertCurrentState states row
  | none => states

/-- Only stored actions are updated. Those the crawler does not have, such as a failed call, are
not created. -/
def applyContractState (config : SupplementConfig) (txID height : Nat)
    (reported : List SupplementContractAction) (tables : IndexTables) : IndexTables :=
  (pairedActions (actionsOf tables.derived txID) reported).foldl (fun acc pair =>
    { acc with
      derived := assignRows config acc.derived pair
      contractStates := assignCurrentState config height acc.contractStates pair }) tables

def replaceZswapEvents (txID : Nat) (events : List SupplementLedgerEvent)
    (rows : DerivedRows) : DerivedRows :=
  { rows with
    zswapEvents := replaceOf ZswapLedgerEvent.transactionID txID
      (events.map fun event => {
        transactionID := txID
        eventId := event.eventId
        maxId := event.maxId
        raw := event.raw }) rows.zswapEvents }

def replaceDustEvents (txID : Nat) (events : List SupplementDustEvent) (rows : DerivedRows) :
    DerivedRows :=
  { rows with
    dustEvents := replaceOf DustLedgerEvent.transactionID txID
      (events.map fun event => {
        transactionID := txID
        eventId := event.eventId
        maxId := event.maxId
        raw := event.raw
        eventType := event.eventType
        dustOutputNonce := event.dustOutputNonce }) rows.dustEvents }

def IndexTables.onRows (tables : IndexTables) (write : DerivedRows → DerivedRows) :
    IndexTables :=
  { tables with derived := write tables.derived }

/-- The database transaction `applyBlock` runs for a transaction it found. -/
def supplementTransaction (config : SupplementConfig) (txID height : Nat)
    (answer : SupplementTransaction) (tables : IndexTables) : IndexTables :=
  let withFees := tables.onRows (applyFee txID answer.fee)
  let withSegments := withFees.onRows (applySegments txID answer.segments)
  let withStates := applyContractState config txID height answer.contractActions withSegments
  let withZswap := withStates.onRows (replaceZswapEvents txID answer.zswapEvents)
  let withDust := withZswap.onRows (replaceDustEvents txID answer.dustEvents)
  { withDust with db := applyDustFlags withDust.db answer.dustRegisteredOutputs }

/-! ## The decoder -/

structure DeclaredContractAction where
  address : Hash
  entryPoint : Option String

structure LedgerPayloadFacts where
  identifiers : List Hash
  contractActions : List DeclaredContractAction
  zswapInputCount : Nat
  zswapOutputCount : Nat
  zswapTransientCount : Nat
  dustSpendCount : Nat
  dustRegistrationCount : Nat
  dustSpendValue : Nat

def carriesShieldedCoins (facts : LedgerPayloadFacts) : Bool :=
  0 < facts.zswapInputCount + facts.zswapOutputCount + facts.zswapTransientCount

def carriesProof (facts : LedgerPayloadFacts) : Bool :=
  carriesShieldedCoins facts || facts.contractActions.any fun action => action.entryPoint.isSome

/-- The type of a transaction without contract actions, if the payload gives one. -/
def callFreeTxType (facts : LedgerPayloadFacts) : Option TxType :=
  if facts.contractActions ≠ [] then none
  else if carriesShieldedCoins facts then some .shieldedTransfer
  else if 0 < facts.dustRegistrationCount then some .dustRegistration
  else none

/-- What reading the ledger payload of an extrinsic gives. -/
inductive LedgerPayload where
  | absent
  | undecodable
  | facts (facts : LedgerPayloadFacts)

/-- What `decodeBlock` writes for a row. -/
structure DecodeUpdate where
  id : Nat
  facts : Option LedgerPayloadFacts
  state : DecodeState
  txType : Option TxType
  unknownFlags : Bool

/-- The update for a row `decodeBlock` read. Inherents contain no ledger transaction. -/
def decodeUpdate (row : TransactionColumns) (payload : LedgerPayload) : DecodeUpdate :=
  let unknownFlags := row.isShielded.isSome || row.hasProof.isSome
  if row.transactionType = .SYSTEM then
    { id := row.transactionID, facts := none, state := .absent, txType := none,
      unknownFlags := false }
  else
    match payload with
    | .absent =>
      { id := row.transactionID, facts := none, state := .absent, txType := none, unknownFlags }
    | .undecodable =>
      { id := row.transactionID, facts := none, state := .failed, txType := none, unknownFlags }
    | .facts facts =>
      { id := row.transactionID, facts := some facts, state := .decoded,
        txType := some row.txType, unknownFlags := false }

/-- An entry point that is neither null nor empty. -/
def DeclaredContractAction.circuit (action : DeclaredContractAction) : Option String :=
  action.entryPoint.filter fun name => name ≠ ""

def setColumns (txID : Nat) (change : TransactionColumns → TransactionColumns)
    (rows : DerivedRows) : DerivedRows :=
  { rows with columns := updateOf TransactionColumns.transactionID txID change rows.columns }

/-- The columns of a row after its payload did not give facts. -/
def TransactionColumns.undecoded (row : TransactionColumns) (state : DecodeState)
    (unknownFlags : Bool) : TransactionColumns :=
  { row with
    payloadDecode := some state
    isShielded := if unknownFlags then none else row.isShielded
    hasProof := if unknownFlags then none else row.hasProof }

/-- The columns of a row after its payload was decoded. Only the default type is replaced. -/
def TransactionColumns.decoded (row : TransactionColumns) (facts : LedgerPayloadFacts)
    (state : DecodeState) (storedTxType : Option TxType) : TransactionColumns :=
  { row with
    txType :=
      if storedTxType = some .contractCall then (callFreeTxType facts).getD row.txType
      else row.txType
    payloadDecode := some state
    identifiers := if facts.identifiers = [] then none else some facts.identifiers
    circuitName := facts.contractActions.findSome? DeclaredContractAction.circuit
    isShielded := some (carriesShieldedCoins facts)
    hasProof := some (carriesProof facts)
    zswapInputCount := some facts.zswapInputCount
    zswapOutputCount := some facts.zswapOutputCount
    zswapTransientCount := some facts.zswapTransientCount
    dustSpendCount := some facts.dustSpendCount
    dustRegistrationCount := some facts.dustRegistrationCount
    dustConsumed := some facts.dustSpendValue }

def replaceTransactionIdentifiers (txID : Nat) (identifiers : List Hash) (rows : DerivedRows) :
    DerivedRows :=
  { rows with
    identifiers := replaceOf TransactionIdentifier.transactionID txID
      (identifiers.eraseDups.map fun identifier => { identifier, transactionID := txID })
      rows.identifiers }

/-- Indexed calls with the circuit names of the payload, contract by contract, where both sides
have as many. After a partial success the payload lists calls that never ran. -/
def namedCalls (calls : List ContractAction) (declared : List DeclaredContractAction) :
    List (ContractAction × String) :=
  (calls.map ContractAction.address).eraseDups.flatMap fun address =>
    let mine := calls.filter fun action => action.address = address
    let names := (declared.filter fun entry => some entry.address = address).filterMap
      DeclaredContractAction.circuit
    if names.length = mine.length then mine.zip names else []

def setEntryPoint (rows : DerivedRows) (call : ContractAction × String) : DerivedRows :=
  { rows with
    actions := updateOf ContractAction.ID call.1.ID
      (fun stored => { stored with entryPoint := some call.2 }) rows.actions }

/-- The calls of a transaction in their order. -/
def callsOf (rows : DerivedRows) (txID : Nat) : List ContractAction :=
  (actionsOf rows txID).filter fun action => action.actionType = .CALL

def nameCalls (txID : Nat) (declared : List DeclaredContractAction) (rows : DerivedRows) :
    DerivedRows :=
  (namedCalls (callsOf rows txID) declared).foldl setEntryPoint rows

def applyFacts (update : DecodeUpdate) (rows : DerivedRows) : DerivedRows :=
  match update.facts with
  | none => setColumns update.id (·.undecoded update.state update.unknownFlags) rows
  | some facts =>
    nameCalls update.id facts.contractActions
      (replaceTransactionIdentifiers update.id facts.identifiers
        (setColumns update.id (·.decoded facts update.state update.txType) rows))

/-- The columns of a stored transaction. -/
def columnsOf (rows : DerivedRows) (txID : Nat) : Option TransactionColumns :=
  rows.columns.find? fun row => row.transactionID = txID

/-- A stored transaction read and written in one go. -/
def decodeTransaction (txID : Nat) (payload : LedgerPayload) (rows : DerivedRows) :
    DerivedRows :=
  match columnsOf rows txID with
  | none => rows
  | some row => applyFacts (decodeUpdate row payload) rows

/-- A row of `backfillTransactionIdentifiers`: filled in unless it has its identifiers. -/
def backfillIdentifiers (txID : Nat) (rows : DerivedRows) : DerivedRows :=
  match (columnsOf rows txID).bind TransactionColumns.identifiers with
  | none => rows
  | some list =>
    if rows.identifiers.any fun row => row.transactionID = txID then rows
    else if list = [] then rows
    else replaceTransactionIdentifiers txID list rows

inductive TableEvent where
  | persist (block : IndexedBlock) (requireParent : Bool)
  | rollback (fromHeight : Nat)
  | supplement (txID height : Nat) (answer : SupplementTransaction)
  | decode (txID : Nat) (payload : LedgerPayload)
  | backfill (txID : Nat)
  | advance (column : PassCursorColumn) (expected : PassPosition) (height : Nat)
  | redecode (height : Nat)

def IndexTables.setSync (tables : IndexTables) (sync : SyncState) : IndexTables :=
  { tables with db := { tables.db with syncState := sync } }

abbrev IndexTables.txIDs (tables : IndexTables) : List Nat :=
  tables.db.transactions.map Transaction.ID

/-- One event. A block that cannot be stored, or a transaction that is not stored, changes
nothing. -/
def tableStep (config : SupplementConfig) (tables : IndexTables) : TableEvent → IndexTables
  | .persist block requireParent =>
    match persistTables tables block requireParent with
    | .ok after => after
    | .error _ => tables
  | .rollback fromHeight => rollbackTables tables fromHeight
  | .supplement txID height answer =>
    if txID ∈ tables.txIDs then supplementTransaction config txID height answer tables
    else tables
  | .decode txID payload => tables.onRows (decodeTransaction txID payload)
  | .backfill txID => tables.onRows (backfillIdentifiers txID)
  | .advance column expected height =>
    tables.setSync (advancePassCursor tables.db.syncState column expected height)
  | .redecode height => tables.setSync (redecodeFromHeight tables.db.syncState height)

end Nightgate.Crawler
