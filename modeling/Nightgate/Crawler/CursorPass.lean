import Nightgate.Crawler.OneChain

/-!
# The trailing passes

The payload decoder and the indexer supplement walk the stored blocks behind the
tip. Each keeps its progress in a column of `SyncState` and saves it with a
compare-and-set over that column and the rollback counter. Their reads, blocks
and saves interleave with the crawler's events and with requested re-decodes.
-/

namespace Nightgate.Crawler

open Library

inductive PassCursorColumn where
  | lastDecodedHeight
  | lastSupplementedHeight
  deriving DecidableEq

namespace SyncState

def cursor (sync : SyncState) : PassCursorColumn → Option Nat
  | .lastDecodedHeight => sync.lastDecodedHeight
  | .lastSupplementedHeight => sync.lastSupplementedHeight

def setCursor (sync : SyncState) (value : Option Nat) : PassCursorColumn → SyncState
  | .lastDecodedHeight => { sync with lastDecodedHeight := value }
  | .lastSupplementedHeight => { sync with lastSupplementedHeight := value }

section SetCursor

variable (sync : SyncState) (value : Option Nat) (column : PassCursorColumn)

@[simp] theorem cursor_setCursor_self : (sync.setCursor value column).cursor column = value := by
  cases column <;> rfl

theorem cursor_setCursor_ne {other : PassCursorColumn} (different : column ≠ other) :
    (sync.setCursor value column).cursor other = sync.cursor other := by
  cases column <;> cases other <;> first | rfl | exact absurd rfl different

@[simp] theorem setCursor_lastIndexedHeight :
    (sync.setCursor value column).lastIndexedHeight = sync.lastIndexedHeight := by
  cases column <;> rfl

@[simp] theorem setCursor_lastIndexedHash :
    (sync.setCursor value column).lastIndexedHash = sync.lastIndexedHash := by
  cases column <;> rfl

@[simp] theorem setCursor_reorgGeneration :
    (sync.setCursor value column).reorgGeneration = sync.reorgGeneration := by
  cases column <;> rfl

end SetCursor

end SyncState

/-- Cursor and rollback counter, read together. -/
structure PassPosition where
  cursor : Option Nat
  generation : Nat
  deriving DecidableEq

/-- The first height above the cursor. -/
def PassPosition.next (start : PassPosition) : Nat :=
  match start.cursor with
  | none => 0
  | some cursor => cursor + 1

/-- The ceiling lies below zero while fewer than `lagBlocks` heights are indexed. -/
structure PassWindow where
  start : PassPosition
  ceiling : Int

def readPassWindow (sync : SyncState) (column : PassCursorColumn) (lagBlocks : Nat) :
    PassWindow where
  start := { cursor := sync.cursor column, generation := sync.reorgGeneration }
  ceiling := sync.lastIndexedHeight - lagBlocks

def windowIsEmpty (window : PassWindow) : Bool :=
  window.ceiling < window.start.next

/-- Indexed blocks of a range, at most `limit`, oldest first. -/
def blocksInRange (db : Db) (bottom : Nat) (ceiling : Int) (limit : Nat) : List Block :=
  ((db.blocks.filter fun block =>
    bottom ≤ block.height ∧ (block.height : Int) ≤ ceiling).insertionSort
      fun left right => left.height ≤ right.height).take limit

/-- Saves the cursor unless cursor or rollback counter moved since the pass began. -/
def advancePassCursor (sync : SyncState) (column : PassCursorColumn)
    (expected : PassPosition) (height : Nat) : SyncState :=
  if sync.reorgGeneration ≠ expected.generation ∨ sync.cursor column ≠ expected.cursor then
    sync
  else sync.setCursor (some height) column

/-- `redecodeFromHeight`: the decode cursor moves down, never up. -/
def redecodeFromHeight (sync : SyncState) (height : Nat) : SyncState :=
  match sync.lastDecodedHeight with
  | none => sync
  | some cursor =>
    if cursor < height then sync
    else { sync with
      lastDecodedHeight := if height = 0 then none else some (height - 1) }

/-- The save goes through from the position the pass began at, else nothing changes. -/
theorem advancePassCursor_cases (sync : SyncState) (column : PassCursorColumn)
    (expected : PassPosition) (height : Nat) :
    advancePassCursor sync column expected height = sync ∨
      (advancePassCursor sync column expected height = sync.setCursor (some height) column ∧
        expected.generation = sync.reorgGeneration ∧
        expected.cursor = sync.cursor column) := by
  unfold advancePassCursor
  split
  · exact .inl rfl
  next unchanged =>
    rcases not_or.mp unchanged with ⟨generation, cursor⟩
    exact .inr ⟨rfl, (not_not.mp generation).symm, (not_not.mp cursor).symm⟩

/-- A re-decode only lowers the decode cursor. -/
theorem redecodeFromHeight_cases (sync : SyncState) (height : Nat) :
    redecodeFromHeight sync height = sync ∨ ∃ cursor lower, sync.lastDecodedHeight = some cursor ∧
        (∀ value ∈ lower, value ≤ cursor) ∧
        redecodeFromHeight sync height = sync.setCursor lower .lastDecodedHeight := by
  unfold redecodeFromHeight
  cases known : sync.lastDecodedHeight with
  | none => exact .inl rfl
  | some cursor =>
    dsimp only
    split
    · exact .inl rfl
    next notBelow =>
      refine .inr ⟨cursor, _, rfl, ?_, rfl⟩
      intro value isValue
      split at isValue
      · cases isValue
      · cases isValue
        omega

/-! ## Passes between their awaits -/

structure PassConfig where
  lagBlocks : Nat
  batchSize : Nat
  batchSize_pos : 0 < batchSize

inductive PassRun where
  | idle
  /-- The window is known; the blocks are read next. -/
  | ranging (window : PassWindow)
  /-- The blocks of the batch, those processed and those to do. -/
  | working (start : PassPosition) (done todo : List Block)
  /-- The cursor is saved next. -/
  | saving (start : PassPosition) (height : Nat)

/-- The crawler with its passes. `processed` records, for each pass, the rows of
the blocks it processed; a block indexed again is a new row. -/
structure Passes (tree : BlockTree) where
  ingest : Ingest tree
  runs : PassCursorColumn → PassRun
  processed : PassCursorColumn → List Nat

def Passes.initial (tree : BlockTree) : Passes tree where
  ingest := .initial tree
  runs := fun _ => .idle
  processed := fun _ => []

inductive PassesEvent (tree : BlockTree) where
  | ingest (event : IngestEvent tree)
  | begin (column : PassCursorColumn)
  | range (column : PassCursorColumn)
  /-- The next block of the batch is processed. -/
  | process (column : PassCursorColumn)
  /-- The supplement stops, or the indexer has not reached its next block. -/
  | endBefore
  | save (column : PassCursorColumn)
  /-- A read, a block or the save of a pass fails; the run is over. -/
  | fail (column : PassCursorColumn)
  | redecode (height : Nat)

variable {tree : BlockTree}

/-- The run after its window was read. -/
def beginRun (config : PassConfig) (sync : SyncState) (column : PassCursorColumn) : PassRun :=
  let window := readPassWindow sync column config.lagBlocks
  if windowIsEmpty window then .idle else .ranging window

/-- The run after its blocks were read. Without a block in the range the cursor
moves past it. -/
def rangeRun (config : PassConfig) (db : Db) (window : PassWindow) : PassRun :=
  match blocksInRange db window.start.next window.ceiling config.batchSize with
  | [] => .saving window.start
      (min (window.start.next + config.batchSize - 1) window.ceiling.toNat)
  | block :: rest => .working window.start [] (block :: rest)

/-- The run after a block of the batch. -/
def processRun (start : PassPosition) (done : List Block) (block : Block)
    (todo : List Block) : PassRun :=
  match todo with
  | [] => .saving start block.height
  | next :: rest => .working start (done ++ [block]) (next :: rest)

/-- `endBefore`: the run ends before a block. The block processed last lies below
it, so its height is positive. -/
def endBefore (start : PassPosition) (done : List Block) (block : Block) : PassRun :=
  match done with
  | [] => .idle
  | _ :: _ => .saving start (block.height - 1)

def Passes.setRun (state : Passes tree) (column : PassCursorColumn) (run : PassRun) :
    Passes tree :=
  { state with runs := Function.update state.runs column run }

def Passes.setSync (state : Passes tree) (sync : SyncState) : Passes tree :=
  { state with ingest := { state.ingest with db := { state.ingest.db with syncState := sync } } }

def Passes.addProcessed (state : Passes tree) (column : PassCursorColumn) (block : Block) :
    Passes tree :=
  { state with
    processed :=
      Function.update state.processed column (block.ID :: state.processed column) }

/-- One event. An event that does not fit the run of its pass changes nothing. -/
def passesStep (config : CrawlerConfig) (passConfig : PassCursorColumn → PassConfig)
    (state : Passes tree) : PassesEvent tree → Passes tree
  | .ingest event => { state with ingest := ingestStep config state.ingest event }
  | .begin column =>
    match state.runs column with
    | .idle =>
      state.setRun column (beginRun (passConfig column) state.ingest.db.syncState column)
    | _ => state
  | .range column =>
    match state.runs column with
    | .ranging window =>
      state.setRun column (rangeRun (passConfig column) state.ingest.db window)
    | _ => state
  | .process column =>
    match state.runs column with
    | .working start done (block :: todo) =>
      (state.addProcessed column block).setRun column (processRun start done block todo)
    | _ => state
  | .endBefore =>
    match state.runs .lastSupplementedHeight with
    | .working start done (block :: _) =>
      state.setRun .lastSupplementedHeight (endBefore start done block)
    | _ => state
  | .save column =>
    match state.runs column with
    | .saving start height =>
      (state.setSync (advancePassCursor state.ingest.db.syncState column start height)).setRun
          column .idle
    | _ => state
  | .fail column => state.setRun column .idle
  | .redecode height =>
    state.setSync (redecodeFromHeight state.ingest.db.syncState height)

end Nightgate.Crawler
