import Nightgate.Crawler.Rollback
import Nightgate.Library.Machine

/-!
# The crawler as a state machine

Catch-up and the live handler share the index. Each is a task that moves between
its database and node calls, and the events of the two are interleaved freely: a
step is one database transaction, one read, or one answer of the node. A failing
call is an event of its own.
-/

namespace Nightgate.Crawler

/-- The chain as the node serves it. A hash commits to the header, and a block is
one higher than its parent. -/
structure BlockTree where
  number : Hash → Nat
  parentHash : Hash → Hash
  child_number : ∀ hash, 0 < number hash → number (parentHash hash) + 1 = number hash

/-- A block the node serves under its hash. -/
structure NodeBlock (tree : BlockTree) where
  prep : PreparedBlock
  height_eq : prep.height = tree.number prep.blockHash
  parent_eq : prep.parentHash = tree.parentHash prep.blockHash

/-- A finalized head as the subscription delivers it. -/
structure BlockHeader where
  number : Nat
  parentHash : Hash

/-- What the node answers during one check: the hash at a height, and the parent
hash of a header, if it serves them. -/
structure NodeView where
  getBlockHash : Nat → Option Hash
  getHeader : Hash → Option Hash

structure ReorgInfo where
  forkHeight : Nat
  oldTipHash : Hash
  newTipHash : Hash

inductive ForkError where
  /-- `No header for … during fork search`. -/
  | noHeader (hash : Hash)
  /-- `Reorg deeper than 100 blocks below …`. -/
  | tooDeep (number : Nat)

/-- The loop of `findForkPoint` at a height, for a head of the given number. -/
def findForkPointFrom (db : Db) (node : NodeView) (number : Nat) :
    Hash → Nat → Except ForkError Nat
  | _, 0 => .ok 0
  | currentHash, height + 1 =>
    if db.blockExists currentHash then .ok (height + 2)
    else
      match node.getHeader currentHash with
      | none => .error (.noHeader currentHash)
      | some parentHash =>
        if 100 < number - height then .error (.tooDeep number)
        else findForkPointFrom db node number parentHash height

def findForkPoint (db : Db) (node : NodeView) (header : BlockHeader) :
    Except ForkError Nat :=
  findForkPointFrom db node header.number header.parentHash (header.number - 1)

/-- The fork search with the hashes `checkForReorg` reports. -/
def forkedFrom (db : Db) (node : NodeView) (header : BlockHeader) (oldTipHash : Hash) :
    Except ForkError (Option ReorgInfo) := do
  let forkHeight ← findForkPoint db node header
  return some { forkHeight, oldTipHash, newTipHash := header.parentHash }

/-- `checkForReorg`: the fork a head reveals, or none when it extends or repeats
the stored chain. -/
def checkForReorg (db : Db) (node : NodeView) (header : BlockHeader) :
    Except ForkError (Option ReorgInfo) :=
  match db.syncState.lastIndexedHash with
  | none => .ok none
  | some tipHash =>
    if header.parentHash = tipHash then .ok none
    else if db.syncState.lastIndexedHeight + 1 < header.number then .ok none
    else if header.number ≤ db.syncState.lastIndexedHeight then
      if header.number = 0 then .ok none
      else if (db.blockByHeight (header.number - 1)).map Block.hash = some header.parentHash then
        match db.blockByHeight header.number with
        | none => .ok none
        | some block =>
          match node.getBlockHash header.number with
          | none => .ok none
          | some canonical =>
            if block.hash = canonical then .ok none
            else .ok (some {
              forkHeight := header.number
              oldTipHash := tipHash
              newTipHash := canonical })
      else forkedFrom db node header tipHash
    else forkedFrom db node header tipHash

structure CrawlerConfig where
  startHeight : Nat
  fetchConcurrency : Nat
  rpcBatchSize : Nat
  batchSize : Nat

/-- A block of a fetched batch, and whether it was stored when it was fetched. -/
structure FetchedBlock (tree : BlockTree) where
  block : NodeBlock tree
  alreadyIndexed : Bool

/-- A queued batch. `data` are the blocks still to store, once they are fetched. -/
structure Batch (tree : BlockTree) where
  fromHeight : Nat
  toHeight : Nat
  retried : Bool
  data : Option (List (FetchedBlock tree))

/-- `runCatchUpPipeline` between two of its awaits. -/
structure Pipeline (tree : BlockTree) where
  tipHeight : Nat
  nextHeightToFetch : Nat
  nextHeightToPersist : Nat
  processed : Nat
  queue : List (Batch tree)

/-- The one catch-up run, if any. -/
inductive CatchUp (tree : BlockTree) where
  | idle
  /-- `SyncState` was read; the finalized head is asked for. -/
  | reading (startHeight : Nat)
  /-- The index was found empty; the anchor block is fetched. -/
  | seeding (tipHeight : Nat)
  | pipeline (run : Pipeline tree)

/-- The live handler, which works on one head at a time. -/
inductive Live where
  | idle
  /-- A head was taken; `SyncState` is read next. -/
  | head (header : BlockHeader)
  /-- The head neither starts nor skips anything; the reorg check is next. -/
  | checking (header : BlockHeader)
  /-- A fork was found; the rollback is next. -/
  | reorg (info : ReorgInfo)
  /-- The block of the head is fetched and stored next. -/
  | processing (height : Nat)
  /-- The head is dealt with; a catch-up and the queued heads are next. -/
  | draining

structure Ingest (tree : BlockTree) where
  db : Db
  catchUp : CatchUp tree
  live : Live
  pendingHeights : List Nat
  poisonBlock : Option Nat
  consecutiveErrors : Nat

/-- A crawler over an empty database. -/
def Ingest.initial (tree : BlockTree) : Ingest tree where
  db := .empty
  catchUp := .idle
  live := .idle
  pendingHeights := []
  poisonBlock := none
  consecutiveErrors := 0

variable {tree : BlockTree}

/-! ## Catch-up -/

/-- `getCatchUpStartHeight`. -/
def getCatchUpStartHeight (sync : SyncState) : Nat :=
  match sync.lastIndexedHash with
  | none => 0
  | some _ => sync.lastIndexedHeight + 1

/-- `catchUp()`: joins a run in flight, and does nothing behind a poison block. -/
def startCatchUp (state : Ingest tree) : Ingest tree :=
  match state.catchUp with
  | .idle =>
    if state.poisonBlock.isSome then state
    else { state with catchUp := .reading (getCatchUpStartHeight state.db.syncState) }
  | _ => state

/-- `pumpFetches`: starts prefetches until the queue is full. -/
def pumpFetches (config : CrawlerConfig) : Nat → Pipeline tree → Pipeline tree
  | 0, run => run
  | fuel + 1, run =>
    if run.queue.length < max 1 config.fetchConcurrency ∧ run.nextHeightToFetch ≤ run.tipHeight then
      let toHeight :=
        min (run.nextHeightToFetch + max 1 config.rpcBatchSize - 1) run.tipHeight
      pumpFetches config fuel { run with
        queue := run.queue ++ [{
          fromHeight := run.nextHeightToFetch
          toHeight := toHeight
          retried := false
          data := none }]
        nextHeightToFetch := toHeight + 1 }
    else run

/-- The pipeline over a range of heights, if the range holds any. -/
def startPipeline (config : CrawlerConfig) (startHeight tipHeight : Nat) : CatchUp tree :=
  if tipHeight < startHeight then .idle
  else .pipeline (pumpFetches config (max 1 config.fetchConcurrency) {
    tipHeight := tipHeight
    nextHeightToFetch := startHeight
    nextHeightToPersist := startHeight
    processed := 0
    queue := [] })

/-- The finalized head is known: seed an empty index or start the pipeline. -/
def catchUpFrom (config : CrawlerConfig) (db : Db) (startHeight tipHeight : Nat) :
    CatchUp tree :=
  if startHeight = 0 ∧ 0 < config.startHeight then
    if db.blocks ≠ [] then startPipeline config startHeight tipHeight
    else if tipHeight < config.startHeight - 1 then .idle
    else .seeding tipHeight
  else startPipeline config startHeight tipHeight

/-- The pipeline after a block of its first batch was stored or skipped. -/
def advancePipeline (config : CrawlerConfig) (run : Pipeline tree) (height : Nat)
    (batch : Batch tree) (rest : List (FetchedBlock tree)) (queue : List (Batch tree)) :
    CatchUp tree :=
  let stored := { run with
    nextHeightToPersist := height + 1
    processed := run.processed + 1 }
  match rest with
  | _ :: _ => .pipeline { stored with queue := { batch with data := some rest } :: queue }
  | [] =>
    if height + 1 ≤ run.tipHeight ∧ (pumpFetches config (max 1 config.fetchConcurrency)
        { stored with queue }).queue ≠ [] then
      .pipeline (pumpFetches config (max 1 config.fetchConcurrency) { stored with queue })
    else .idle

/-- A batch failed: retry it once, then stop, and halt on a permanent error. -/
def failBatch (state : Ingest tree) (run : Pipeline tree) (batch : Batch tree)
    (queue : List (Batch tree)) (transient : Bool) : Ingest tree :=
  let recorded := { state with consecutiveErrors := state.consecutiveErrors + 1 }
  if 10 < recorded.consecutiveErrors then { recorded with catchUp := .idle }
  else if batch.retried then
    { recorded with
      catchUp := .idle
      poisonBlock :=
        if transient then recorded.poisonBlock else some run.nextHeightToPersist }
  else
    { recorded with
      catchUp := .pipeline { run with
        queue := { batch with retried := true, data := none } :: queue } }

/-- The heights of a batch. -/
def Batch.heights (batch : Batch tree) : List Nat :=
  (List.range (batch.toHeight + 1 - batch.fromHeight)).map (batch.fromHeight + ·)

/-- A prefetch returned: the blocks of the batch, with those stored by now marked. -/
def receiveBatch (db : Db) (blocks : List (NodeBlock tree)) (index : Nat)
    (queue : List (Batch tree)) : List (Batch tree) :=
  queue.modify index fun batch =>
    if batch.data.isNone ∧ blocks.map (fun block => block.prep.height) = batch.heights then
      { batch with
        data := some (blocks.map fun block =>
          { block, alreadyIndexed := db.blockExists block.prep.blockHash }) }
    else batch

inductive IngestEvent (tree : BlockTree) where
  /-- A start, a reconnect or the gap check calls `catchUp()`. -/
  | catchUp
  /-- The node names its finalized head. -/
  | finalizedHead (tipHeight : Nat)
  /-- The anchor block was fetched. -/
  | anchor (block : NodeBlock tree)
  /-- The prefetch of a queued batch returned. -/
  | fetched (index : Nat) (blocks : List (NodeBlock tree))
  /-- The next block of the first batch is stored. -/
  | persistNext
  /-- The first batch cannot be fetched, or its next block cannot be stored. -/
  | batchFailed (transient : Bool)
  /-- A call outside the batches failed for good. -/
  | catchUpFailed
  /-- The subscription delivers a head. -/
  | liveHead (header : BlockHeader)
  | liveRead
  /-- The reorg check, over what its reads returned. -/
  | liveCheck (view : Db) (node : NodeView)
  | liveRollback
  | livePersist (block : NodeBlock tree)
  | liveFailed (transient : Bool)
  | liveDrain
  /-- The crawler stops; running tasks settle first. -/
  | stop
  /-- `reindexFromHeight` of a stopped crawler. -/
  | reindex (fromHeight : Nat)

/-- The database after `persistFromNode`, unchanged when it throws. -/
def persisted (db : Db) (prep : PreparedBlock) (requireParent : Bool) : Db :=
  match persistFromNode db prep requireParent with
  | .ok after => after
  | .error _ => db

/-- Whether `persistFromNode` throws. -/
def persistFails (db : Db) (prep : PreparedBlock) (requireParent : Bool) : Bool :=
  match persistFromNode db prep requireParent with
  | .ok _ => false
  | .error _ => true

/-- The next block of the first batch: skipped when it was stored already, else
stored with its parent. -/
def persistNext (config : CrawlerConfig) (state : Ingest tree) : Ingest tree :=
  match state.catchUp with
  | .pipeline run =>
    match run.queue with
    | batch :: queue =>
      match batch.data with
      | some (fetched :: rest) =>
        let prep := fetched.block.prep
        if fetched.alreadyIndexed then
          { state with
            catchUp := advancePipeline config run prep.height batch rest queue }
        else if persistFails state.db prep true then
          failBatch state run batch queue false
        else
          { state with
            db := persisted state.db prep true
            catchUp := advancePipeline config run prep.height batch rest queue
            consecutiveErrors :=
              if (run.processed + 1) % max 1 config.batchSize = 0 ∨
                  prep.height = run.tipHeight then 0
              else state.consecutiveErrors }
      | _ => state
    | [] => { state with catchUp := .idle }
  | _ => state

/-- The anchor of an empty index, the only block stored without its parent. -/
def persistAnchor (config : CrawlerConfig) (state : Ingest tree) (tipHeight : Nat)
    (block : NodeBlock tree) : Ingest tree :=
  if block.prep.height ≠ config.startHeight - 1 then state
  else if state.db.blockExists block.prep.blockHash then
    { state with catchUp := startPipeline config config.startHeight tipHeight }
  else if persistFails state.db block.prep false then { state with catchUp := .idle }
  else
    { state with
      db := persisted state.db block.prep false
      catchUp := startPipeline config config.startHeight tipHeight }

/-- The first part of `processLiveBlock`: what one read of `SyncState` decides. -/
def liveRead (state : Ingest tree) (header : BlockHeader) : Ingest tree :=
  if state.poisonBlock.isSome then { state with live := .draining }
  else if state.db.syncState.lastIndexedHash.isNone ∨
      state.db.syncState.lastIndexedHeight + 1 < header.number then
    startCatchUp { state with live := .draining }
  else { state with live := .checking header }

/-- `recordError` and the halt of `processLiveBlock`. -/
def failLive (state : Ingest tree) (height : Nat) (transient : Bool) : Ingest tree :=
  { state with
    live := .draining
    consecutiveErrors := state.consecutiveErrors + 1
    poisonBlock :=
      if 10 < state.consecutiveErrors + 1 ∧ !transient then some height
      else state.poisonBlock }

/-- The head a live task works on. -/
def Live.height : Live → Nat
  | .head header => header.number
  | .checking header => header.number
  | .reorg info => info.forkHeight
  | .processing height => height
  | .idle => 0
  | .draining => 0

/-- The block of the head, stored with its parent unless it is stored already. -/
def persistLive (state : Ingest tree) (height : Nat) (block : NodeBlock tree) :
    Ingest tree :=
  if block.prep.height ≠ height then state
  else if !state.db.blockExists block.prep.blockHash ∧ persistFails state.db block.prep true then
    failLive state height false
  else
    { state with
      db :=
        if state.db.blockExists block.prep.blockHash then state.db
        else persisted state.db block.prep true
      live := .draining
      consecutiveErrors := 0 }

/-- One event. An event that does not fit the tasks changes nothing. -/
def ingestStep (config : CrawlerConfig) (state : Ingest tree) :
    IngestEvent tree → Ingest tree
  | .catchUp => startCatchUp state
  | .finalizedHead tipHeight =>
    match state.catchUp with
    | .reading startHeight =>
      { state with catchUp := catchUpFrom config state.db startHeight tipHeight }
    | _ => state
  | .anchor block =>
    match state.catchUp with
    | .seeding tipHeight => persistAnchor config state tipHeight block
    | _ => state
  | .fetched index blocks =>
    match state.catchUp with
    | .pipeline run =>
      { state with
        catchUp := .pipeline { run with
          queue := receiveBatch state.db blocks index run.queue } }
    | _ => state
  | .persistNext => persistNext config state
  | .batchFailed transient =>
    match state.catchUp with
    | .pipeline run =>
      match run.queue with
      | batch :: queue => failBatch state run batch queue transient
      | [] => state
    | _ => state
  | .catchUpFailed => { state with catchUp := .idle }
  | .liveHead header =>
    match state.catchUp, state.live with
    | .idle, .idle => { state with live := .head header }
    | .idle, _ => { state with pendingHeights := state.pendingHeights ++ [header.number] }
    | _, _ => state
  | .liveRead =>
    match state.live with
    | .head header => liveRead state header
    | _ => state
  | .liveCheck view node =>
    match state.live with
    | .checking header =>
      match checkForReorg view node header with
      | .error _ => failLive state header.number false
      | .ok none => { state with live := .processing header.number }
      | .ok (some info) => { state with live := .reorg info }
    | _ => state
  | .liveRollback =>
    match state.live with
    | .reorg info =>
      startCatchUp { state with
        db := rollbackIndexedDataFromHeight state.db info.forkHeight
        live := .draining }
    | _ => state
  | .livePersist block =>
    match state.live with
    | .processing height => persistLive state height block
    | _ => state
  | .liveFailed transient =>
    match state.live with
    | .idle => state
    | .draining => state
    | _ => failLive state state.live.height transient
  | .liveDrain =>
    match state.live with
    | .draining =>
      if state.pendingHeights = [] then { state with live := .idle }
      else startCatchUp { state with pendingHeights := [] }
    | _ => state
  | .stop =>
    { state with
      catchUp := .idle
      live := .idle
      pendingHeights := []
      poisonBlock := none }
  | .reindex fromHeight =>
    match state.catchUp, state.live with
    | .idle, .idle =>
      { state with db := rollbackIndexedDataFromHeight state.db fromHeight }
    | _, _ => state

end Nightgate.Crawler
