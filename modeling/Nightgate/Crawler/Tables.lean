import Mathlib.Data.List.AList

/-!
# Tables of the block index

The columns of the crawler's tables that indexing, rollback and the trailing
passes read or write. Row identifiers are handed out by a counter in place of
`cds.utils.uuid()`; hashes, addresses and token types are only compared.
-/

namespace Nightgate.Crawler

abbrev Hash := Nat

/-- A Bech32m owner address. The encoder never yields an empty text, so the
truthiness tests of the source only separate an address from `null`. -/
structure Address where
  code : Nat
  deriving DecidableEq

/-- A raw token type, read as the number its 64 hex digits spell. -/
abbrev TokenType := Nat

/-- 64 zeros. -/
def NIGHT_RAW_TOKEN_TYPE : TokenType := 0

/-- `midnight.Blocks`. -/
structure Block where
  ID : Nat
  hash : Hash
  height : Nat
  parentID : Option Nat
  deriving DecidableEq

/-- `midnight.Transactions`. -/
structure Transaction where
  ID : Nat
  blockID : Nat
  senderAddress : Option Address
  receiverAddress : Option Address
  nightAmount : Option Nat
  deriving DecidableEq

/-- `midnight.UnshieldedUtxos`. -/
structure UnshieldedUtxo where
  ID : Nat
  owner : Address
  tokenType : TokenType
  value : Nat
  intentHash : Hash
  outputIndex : Nat
  createdAtTransactionID : Nat
  spentAtTransactionID : Option Nat
  registeredForDustGeneration : Bool

/-- `midnight.NightBalances` without its key and its timestamps. -/
structure NightBalance where
  balance : Int
  utxoCount : Int
  txSentCount : Int
  txReceivedCount : Int
  totalSent : Int
  totalReceived : Int
  firstSeenHeight : Option Nat
  lastActivityHeight : Option Nat
  dustAddress : Option Hash
  isDustRegistered : Bool

/-- `midnight.SyncState`, a single row. -/
structure SyncState where
  lastIndexedHeight : Nat
  lastIndexedHash : Option Hash
  lastDecodedHeight : Option Nat
  lastSupplementedHeight : Option Nat
  reorgGeneration : Nat
  deriving DecidableEq

/-- The row `ensureSyncStateSingleton` inserts. -/
def SyncState.initial : SyncState where
  lastIndexedHeight := 0
  lastIndexedHash := none
  lastDecodedHeight := none
  lastSupplementedHeight := none
  reorgGeneration := 0

/-- `NightBalances`, keyed by its primary key. -/
abbrev NightBalances := AList fun _ : Address => NightBalance

/-- The index database. -/
structure Db where
  blocks : List Block
  transactions : List Transaction
  utxos : List UnshieldedUtxo
  nightBalances : NightBalances
  syncState : SyncState
  nextID : Nat

/-- A database no block was indexed into yet. -/
def Db.empty : Db where
  blocks := []
  transactions := []
  utxos := []
  nightBalances := ∅
  syncState := .initial
  nextID := 0

namespace Db

/-- The block stored under a hash. -/
def blockByHash (db : Db) (hash : Hash) : Option Block :=
  db.blocks.find? fun block => block.hash = hash

/-- The block stored at a height. -/
def blockByHeight (db : Db) (height : Nat) : Option Block :=
  db.blocks.find? fun block => block.height = height

/-- The BlockProcessor's `blockExists`. -/
def blockExists (db : Db) (hash : Hash) : Bool :=
  (db.blockByHash hash).isSome

theorem blockByHash_mem {db : Db} {hash : Hash} {block : Block}
    (found : db.blockByHash hash = some block) : block ∈ db.blocks ∧ block.hash = hash :=
  ⟨List.mem_of_find?_eq_some found, by simpa using List.find?_some found⟩

theorem blockByHeight_mem {db : Db} {height : Nat} {block : Block}
    (found : db.blockByHeight height = some block) :
    block ∈ db.blocks ∧ block.height = height :=
  ⟨List.mem_of_find?_eq_some found, by simpa using List.find?_some found⟩

theorem blockExists_iff {db : Db} {hash : Hash} :
    db.blockExists hash ↔ ∃ block ∈ db.blocks, block.hash = hash := by
  simp [blockExists, blockByHash]

end Db

end Nightgate.Crawler
