import Nightgate.Crawler.PassProgress
import Nightgate.Library.DeltaHistory

/-!
# Ledger parameters

The supplement stores the ledger parameters of a block only where they differ from those it
remembers, and the newest row at or below a height stands for the height. A pass that fails keeps
the parameters it remembers and the rows it wrote; asked again, the indexer can report others.
-/

namespace Nightgate.Crawler

open Library

variable {tree : BlockTree}

/-- How the writes of a block go. -/
inductive BlockOutcome where
  | processed
  /-- The parameters are dealt with, but the transactions of the block are not. -/
  | blockFails
  /-- The update of the parameters is committed, and its reply is lost. -/
  | replyLost
  | updateFails
  deriving DecidableEq

/-- The crawler with its indexer supplement. A row is never stored again under its ID. -/
structure Supplement (tree : BlockTree) where
  ingest : Ingest tree
  run : PassRun
  /-- The column of `Blocks`, in base64. -/
  ledgerParameters : Nat → Option String
  lastLedgerParameters : Option String
  /-- Rollback counter the cache belongs to. -/
  cachedGeneration : Option Nat
  /-- What the indexer reported for a row when it was asked last; no step reads it. -/
  reported : Nat → Option (Option String)

def Supplement.initial (tree : BlockTree) : Supplement tree where
  ingest := .initial tree
  run := .idle
  ledgerParameters := fun _ => none
  lastLedgerParameters := none
  cachedGeneration := none
  reported := fun _ => none

inductive SupplementEvent (tree : BlockTree) where
  | ingest (event : IngestEvent tree)
  | begin
  | range
  /-- The indexer answers for the next block, with its parameters if it has any. -/
  | answer (ledgerParameters : Option String) (outcome : BlockOutcome)
  /-- The supplement stops, or the indexer has not reached the next block. -/
  | endBefore
  | save
  | fail
  | restart

/-- The parameters of the highest block that has some, of the blocks in question. -/
def newestParameters (blocks : List Block) (column : Nat → Option String) : Option String :=
  ((blocks.filter fun block => (column block.ID).isSome).foldl higherOf none).bind
    fun block => column block.ID

namespace Supplement

def db (state : Supplement tree) : Db := state.ingest.db

def readParametersBelow (state : Supplement tree) (height : Nat) : String :=
  (newestParameters (state.db.blocks.filter fun block => block.height < height)
    state.ledgerParameters).getD ""

/-- The lookup of `withBlockOf`. -/
def inEffect (state : Supplement tree) (height : Nat) : Option String :=
  newestParameters (state.db.blocks.filter fun block => block.height ≤ height)
    state.ledgerParameters

/-- The parameters a block is compared with: the remembered ones, else those read from the index. -/
def remembered (state : Supplement tree) (height : Nat) : String :=
  state.lastLedgerParameters.getD (state.readParametersBelow height)

def store (state : Supplement tree) (block : Block) (parameters : String) : Supplement tree :=
  { state with
    ledgerParameters := Function.update state.ledgerParameters block.ID (some parameters) }

def applyBlockFields (state : Supplement tree) (block : Block) (answer : Option String)
    (outcome : BlockOutcome) : Supplement tree :=
  match answer with
  | none => state
  | some parameters =>
    if parameters = "" then state
    else
      let loaded :=
        { state with lastLedgerParameters := some (state.remembered block.height) }
      if state.remembered block.height = parameters then loaded
      else
        match outcome with
        | .updateFails => loaded
        | .replyLost => loaded.store block parameters
        | .processed | .blockFails =>
          { loaded.store block parameters with lastLedgerParameters := some parameters }

/-- The parameters an answer reports; an empty text reports none. -/
def givenParameters (answer : Option String) : Option String :=
  answer.filter fun parameters => parameters ≠ ""

/-- The next block of the batch, in one run of the loop of `runOnce`. -/
def answered (state : Supplement tree) (answer : Option String) (outcome : BlockOutcome) :
    Supplement tree :=
  match state.run with
  | .working start done (block :: todo) =>
    { state.applyBlockFields block answer outcome with
      reported := Function.update state.reported block.ID (some (givenParameters answer))
      run := if outcome = .processed then processRun start done block todo else .idle }
  | _ => state

/-- A rollback can delete the block that stored the cached parameters, so the cache is cleared. -/
def begun (config : PassConfig) (state : Supplement tree) : Supplement tree :=
  let generation := state.db.syncState.reorgGeneration
  { state with
    run := beginRun config state.db.syncState .lastSupplementedHeight
    lastLedgerParameters :=
      if state.cachedGeneration = some generation then state.lastLedgerParameters else none
    cachedGeneration := some generation }

def setSync (state : Supplement tree) (sync : SyncState) : Supplement tree :=
  { state with ingest := { state.ingest with db := { state.ingest.db with syncState := sync } } }

end Supplement

/-- One event. An event that does not fit the run changes nothing. -/
def supplementStep (config : CrawlerConfig) (passConfig : PassConfig)
    (state : Supplement tree) : SupplementEvent tree → Supplement tree
  | .ingest event => { state with ingest := ingestStep config state.ingest event }
  | .begin =>
    match state.run with
    | .idle => state.begun passConfig
    | _ => state
  | .range =>
    match state.run with
    | .ranging window => { state with run := rangeRun passConfig state.db window }
    | _ => state
  | .answer ledgerParameters outcome => state.answered ledgerParameters outcome
  | .endBefore =>
    match state.run with
    | .working start done (block :: _) => { state with run := endBefore start done block }
    | _ => state
  | .save =>
    match state.run with
    | .saving start height =>
      { state.setSync (advancePassCursor state.db.syncState .lastSupplementedHeight start
          height) with run := .idle }
    | _ => state
  | .fail => { state with run := .idle }
  | .restart =>
    { state with
      run := .idle
      lastLedgerParameters := none
      cachedGeneration := none }

/-! ## The claim -/

namespace Supplement

/-- Cursor and rollback counter as they stand. -/
def position (state : Supplement tree) : PassPosition where
  cursor := state.db.syncState.lastSupplementedHeight
  generation := state.db.syncState.reorgGeneration

/-- The height above the blocks of a batch that are done. -/
def doneBelow (start : PassPosition) (done : List Block) : Nat :=
  (done.getLast?.map fun last => last.height + 1).getD start.next

/-- Every height below this one is processed, by a pass that saved its cursor or by the one
under way; a pass that a rollback overtook no longer counts. -/
def processedBelow (state : Supplement tree) : Nat :=
  match state.run with
  | .working start done _ =>
    if start.generation = state.position.generation then doneBelow start done
    else state.position.next
  | .saving start height =>
    if start.generation = state.position.generation then height + 1 else state.position.next
  | _ => state.position.next

/-- The newest row at or below each processed block has the parameters the indexer reported. -/
def Lossless (state : Supplement tree) : Prop :=
  ∀ block ∈ state.db.blocks, block.height < state.processedBelow →
    ∀ parameters, state.reported block.ID = some (some parameters) →
      state.inEffect block.height = some parameters

/-- Nothing a failed pass left speaks against passing over a block with these parameters: the
block has no other ones, and where it has none and the remembered parameters were not just read,
the newest row below it agrees with them. -/
def NothingLeft (state : Supplement tree) (block : Block) (parameters : String) : Prop :=
  (∀ stored, state.ledgerParameters block.ID = some stored → stored = parameters) ∧
    (state.ledgerParameters block.ID = none → state.lastLedgerParameters.isSome →
      state.readParametersBelow block.height = parameters)

/-- A block is passed over, its parameters being the remembered ones, only if nothing is left. -/
def PassesOverSoundly (state : Supplement tree) : SupplementEvent tree → Prop
  | .answer answer .processed =>
    match state.run with
    | .working start _ (block :: _) =>
      start.generation = state.position.generation →
        ∀ parameters, givenParameters answer = some parameters →
          state.remembered block.height = parameters → state.NothingLeft block parameters
    | _ => True
  | _ => True

end Supplement

/-- The parameters stored at each height. -/
def parameterRows (blocks : List Block) (column : Nat → Option String) (height : Nat) :
    Option String :=
  (blocks.find? fun block => block.height = height).bind fun block => column block.ID

section Rows

variable {blocks : List Block} {column : Nat → Option String}

theorem find_height (heights : (blocks.map Block.height).Nodup) {block : Block}
    (stored : block ∈ blocks) :
    (blocks.find? fun other => other.height = block.height) = some block := by
  cases found : blocks.find? fun other => other.height = block.height with
  | none =>
    have missing := List.find?_eq_none.mp found block stored
    exact absurd (decide_eq_true rfl) missing
  | some other =>
    have same : other.height = block.height := by simpa using List.find?_some found
    rw [List.inj_on_of_nodup_map heights (List.mem_of_find?_eq_some found) stored same]

theorem parameterRows_of_stored (heights : (blocks.map Block.height).Nodup) {block : Block}
    (stored : block ∈ blocks) : parameterRows blocks column block.height = column block.ID := by
  rw [parameterRows, find_height heights stored, Option.bind_some]

/-- A height with parameters is the height of a block that has them. -/
theorem stored_of_parameterRows {height : Nat} {parameters : String}
    (isRow : parameterRows blocks column height = some parameters) :
    ∃ block ∈ blocks, block.height = height ∧ column block.ID = some parameters := by
  obtain ⟨block, found, isColumn⟩ := Option.bind_eq_some_iff.mp isRow
  refine ⟨block, List.mem_of_find?_eq_some found, ?_, isColumn⟩
  simpa using List.find?_some found

/-- The query for the highest block finds the newest row. -/
theorem newestParameters_upTo (heights : (blocks.map Block.height).Nodup) (height : Nat) :
    newestParameters (blocks.filter fun block => block.height ≤ height) column =
      newestAt (parameterRows blocks column) height := by
  have inRange {block : Block} (stored : block ∈ blocks) (low : block.height ≤ height)
      (given : (column block.ID).isSome) :
      block ∈ (blocks.filter fun block => block.height ≤ height).filter
        fun block => (column block.ID).isSome :=
    List.mem_filter.mpr ⟨List.mem_filter.mpr ⟨stored, decide_eq_true low⟩, given⟩
  have highest : Highest _ (((blocks.filter fun block => block.height ≤ height).filter
      fun block => (column block.ID).isSome).foldl higherOf none) :=
    (show Highest [] none from rfl).foldl _
  rw [List.nil_append] at highest
  rw [newestParameters]
  generalize ((blocks.filter fun block => block.height ≤ height).filter
      fun block => (column block.ID).isSome).foldl higherOf none = found at highest
  cases found with
  | none =>
    rw [Option.bind_none, newestAt_eq_none]
    intro lower low
    by_contra isRow
    obtain ⟨parameters, isRow⟩ := Option.ne_none_iff_exists'.mp isRow
    obtain ⟨block, stored, rfl, given⟩ := stored_of_parameterRows isRow
    have impossible := inRange stored low (given ▸ rfl)
    rw [show _ = [] from highest] at impossible
    cases impossible
  | some top =>
    obtain ⟨selected, above⟩ := highest
    obtain ⟨listed, given⟩ := List.mem_filter.mp selected
    obtain ⟨stored, low⟩ := List.mem_filter.mp listed
    obtain ⟨parameters, isColumn⟩ := Option.isSome_iff_exists.mp given
    have isRow : parameterRows blocks column top.height = column top.ID :=
      parameterRows_of_stored heights stored
    rw [newestAt_of_highest (of_decide_eq_true low), newestAt_of_row (isRow.trans isColumn),
      Option.bind_some, isColumn]
    intro upper beyond below
    by_contra isUpper
    obtain ⟨other, isUpper⟩ := Option.ne_none_iff_exists'.mp isUpper
    obtain ⟨block, isStored, rfl, isGiven⟩ := stored_of_parameterRows isUpper
    have under := above block (inRange isStored below (isGiven ▸ rfl))
    omega

theorem newestParameters_below (heights : (blocks.map Block.height).Nodup) (height : Nat) :
    newestParameters (blocks.filter fun block => block.height < height) column =
      newestBelow (parameterRows blocks column) height := by
  cases height with
  | zero =>
    have isNil : (blocks.filter fun block => block.height < 0) = [] :=
      List.filter_eq_nil_iff.mpr fun block _ => by simp
    rw [isNil]
    rfl
  | succ height =>
    simp only [Nat.lt_succ_iff]
    exact newestParameters_upTo heights height

end Rows

/-! ## The invariant -/

/-- The blocks below a height are in effect as the indexer reported them. -/
def LosslessBelow (db : Db) (column : Nat → Option String)
    (reported : Nat → Option (Option String)) (bound : Nat) : Prop :=
  ∀ block ∈ db.blocks, block.height < bound →
    ∀ parameters, reported block.ID = some (some parameters) →
      newestAt (parameterRows db.blocks column) block.height = some parameters

/-- Rows to come have no parameters and were not asked for. -/
structure Recorded (db : Db) (column : Nat → Option String)
    (reported : Nat → Option (Option String)) : Prop where
  wellFormed : db.WellFormed
  heights : (db.blocks.map Block.height).Nodup
  column : ∀ ID, db.nextID ≤ ID → column ID = none
  reported : ∀ ID, db.nextID ≤ ID → reported ID = none

/-- The blocks of a batch lie above the cursor it began at and keep their rows to themselves. -/
def BatchKnown (db : Db) (start : PassPosition) (batch : List Block) : Prop :=
  ∀ block ∈ batch, start.next ≤ block.height ∧ block.ID < db.nextID ∧
    ∀ stored ∈ db.blocks, stored.ID = block.ID → stored = block

/-- Until a rollback, a batch holds every block of its range that was asked for. -/
structure BatchCurrent (db : Db) (reported : Nat → Option (Option String))
    (start : PassPosition) (batch : List Block) : Prop where
  stored : ∀ block ∈ batch, block ∈ db.blocks
  ordered : batch.Pairwise fun left right => left.height < right.height
  complete : ∀ block ∈ db.blocks, start.next ≤ block.height →
    ∀ last ∈ batch, block.height ≤ last.height → block ∈ batch ∨ reported block.ID = none

def PassRun.Follows (db : Db) (reported : Nat → Option (Option String)) : PassRun → Prop
  | .ranging window => window.start.next ≤ window.ceiling
  | .working start done todo =>
    BatchKnown db start (done ++ todo) ∧ (start.generation = db.syncState.reorgGeneration →
        BatchCurrent db reported start (done ++ todo))
  | _ => True

/-- A run began at the present position, or a rollback moved it down since. -/
def StartedAt (position start : PassPosition) : Prop :=
  position.next ≤ start.next ∧ start.generation ≤ position.generation ∧
    (start.generation = position.generation → start.cursor = position.cursor)

structure SupplementInvariant (state : Supplement tree) : Prop where
  recorded : Recorded state.db state.ledgerParameters state.reported
  settled : LosslessBelow state.db state.ledgerParameters state.reported state.position.next
  lossless : LosslessBelow state.db state.ledgerParameters state.reported state.processedBelow
  start : ∀ start ∈ state.run.start, StartedAt state.position start
  follows : state.run.Follows state.db state.reported

theorem Recorded.lossless_iff {state : Supplement tree}
    (recorded : Recorded state.db state.ledgerParameters state.reported) :
    state.Lossless ↔
      LosslessBelow state.db state.ledgerParameters state.reported state.processedBelow := by
  simp only [Supplement.Lossless, LosslessBelow, Supplement.inEffect,
    newestParameters_upTo recorded.heights]

theorem SupplementInvariant.initial (tree : BlockTree) :
    SupplementInvariant (Supplement.initial tree) where
  recorded := ⟨Db.empty_wellFormed, List.nodup_nil, fun _ _ => rfl, fun _ _ => rfl⟩
  settled := by
    intro block impossible
    cases impossible
  lossless := by
    intro block impossible
    cases impossible
  start := by
    intro start impossible
    cases impossible
  follows := trivial

/-- Blocks keep their effect if the rows below the bound and what was reported stay. -/
theorem LosslessBelow.frame {db after : Db} {column column' : Nat → Option String}
    {reported reported' : Nat → Option (Option String)} {bound bound' : Nat}
    (lossless : LosslessBelow db column reported bound) (low : bound' ≤ bound)
    (kept : ∀ block ∈ after.blocks, block.height < bound' →
      (block ∈ db.blocks ∧ reported' block.ID = reported block.ID ∧
        ∀ lower ≤ block.height, parameterRows after.blocks column' lower =
          parameterRows db.blocks column lower) ∨
      reported' block.ID = none) :
    LosslessBelow after column' reported' bound' := by
  intro block stored below parameters isReported
  rcases kept block stored below with ⟨wasStored, same, rows⟩ | unasked
  · rw [newestAt_congr rows]
    exact lossless block wasStored (below.trans_le low) parameters (same ▸ isReported)
  · rw [unasked] at isReported
    cases isReported

section Runs

variable {state : Supplement tree}

/-- A run a rollback overtook has processed nothing. -/
theorem Supplement.processedBelow_overtaken
    (overtaken : ∀ start ∈ state.run.start, start.generation ≠ state.position.generation) :
    state.processedBelow = state.position.next := by
  rw [Supplement.processedBelow]
  cases phase : state.run with
  | idle | ranging => rfl
  | working start done todo =>
    rw [phase] at overtaken
    exact if_neg (overtaken start rfl)
  | saving start height =>
    rw [phase] at overtaken
    exact if_neg (overtaken start rfl)

/-- A run that is over, or has not processed a block yet. -/
theorem SupplementInvariant.setRun (invariant : SupplementInvariant state) (run : PassRun)
    (processed : { state with run := run }.processedBelow = state.position.next)
    (start : ∀ start ∈ run.start, StartedAt state.position start)
    (follows : run.Follows state.db state.reported) :
    SupplementInvariant { state with run := run } where
  recorded := invariant.recorded
  settled := invariant.settled
  lossless := by
    rw [processed]
    exact invariant.settled
  start := start
  follows := follows

theorem SupplementInvariant.idle (invariant : SupplementInvariant state) :
    SupplementInvariant { state with run := .idle } := by
  apply invariant.setRun .idle rfl
  · nofun
  · trivial

theorem SupplementInvariant.ingest_same (invariant : SupplementInvariant state)
    {after : Ingest tree} (same : after.db = state.ingest.db) :
    SupplementInvariant { state with ingest := after } := by
  have isDb : ({ state with ingest := after } : Supplement tree).db = state.db := same
  have isPosition : ({ state with ingest := after } : Supplement tree).position =
      state.position := by
    rw [Supplement.position, isDb, Supplement.position]
  have isProcessed : ({ state with ingest := after } : Supplement tree).processedBelow =
      state.processedBelow := by
    rw [Supplement.processedBelow, isPosition, Supplement.processedBelow]
  constructor
  · rw [isDb]
    exact invariant.recorded
  · rw [isDb, isPosition]
    exact invariant.settled
  · rw [isDb, isProcessed]
    exact invariant.lossless
  · rw [isPosition]
    exact invariant.start
  · rw [isDb]
    exact invariant.follows

theorem parameterRows_filter (blocks : List Block) (column : Nat → Option String)
    {fromHeight lower : Nat} (low : lower < fromHeight) :
    parameterRows (blocks.filter fun block => block.height < fromHeight) column lower =
      parameterRows blocks column lower := by
  have same : (fun block : Block => decide (decide (block.height < fromHeight) = true ∧
      decide (block.height = lower) = true)) = fun block => decide (block.height = lower) := by
    funext block
    by_cases isLower : block.height = lower
    · simp [isLower, low]
    · simp [isLower]
  rw [parameterRows, List.find?_filter, same, parameterRows]

/-- A rollback lowers the cursor, if it moves it. -/
theorem rollback_next_le {db : Db} (wellFormed : db.WellFormed) (fromHeight : Nat) :
    PassPosition.next ⟨(rollbackIndexedDataFromHeight db
        fromHeight).syncState.lastSupplementedHeight,
        (rollbackIndexedDataFromHeight db fromHeight).syncState.reorgGeneration⟩ ≤
      PassPosition.next ⟨db.syncState.lastSupplementedHeight, db.syncState.reorgGeneration⟩ := by
  rcases rollback_position wellFormed fromHeight .lastSupplementedHeight
    with ⟨_, _, ⟨_, same⟩ | clamped⟩
  · simp only [SyncState.cursor] at same
    rw [PassPosition.next, PassPosition.next, same]
  · simp only [SyncState.cursor, clampCursor] at clamped
    rw [PassPosition.next, PassPosition.next, clamped]
    cases db.syncState.lastSupplementedHeight with
    | none => exact le_rfl
    | some cursor => exact Nat.add_le_add_right (Nat.min_le_left _ _) 1

theorem rollback_nextID (db : Db) (fromHeight : Nat) :
    (rollbackIndexedDataFromHeight db fromHeight).nextID = db.nextID := by
  rcases rollback_cases db fromHeight with ⟨_, same, _⟩ | ⟨_, same, _⟩
  · exact same.nextID
  · exact same.nextID

theorem SupplementInvariant.ingest_rolledBack (invariant : SupplementInvariant state)
    {fromHeight : Nat} {after : Ingest tree}
    (rolledBack : after.db = rollbackIndexedDataFromHeight state.ingest.db fromHeight) :
    SupplementInvariant { state with ingest := after } := by
  have wellFormed := invariant.recorded.wellFormed
  have blocks :
      after.db.blocks = state.db.blocks.filter fun block => block.height < fromHeight := by
    rw [rolledBack]
    exact rollback_blocks fromHeight wellFormed
  have generation : after.db.syncState.reorgGeneration =
      state.db.syncState.reorgGeneration + 1 := by
    rw [rolledBack]
    exact (rollback_position wellFormed fromHeight .lastSupplementedHeight).1
  have nextID : after.db.nextID = state.db.nextID := by
    rw [rolledBack]
    exact rollback_nextID _ _
  have lower : ({ state with ingest := after } : Supplement tree).position.next ≤
      state.position.next := by
    have moved := rollback_next_le wellFormed fromHeight
    rw [show rollbackIndexedDataFromHeight state.db fromHeight = after.db from rolledBack.symm]
      at moved
    exact moved
  have settled : LosslessBelow after.db state.ledgerParameters state.reported
      ({ state with ingest := after } : Supplement tree).position.next := by
    apply invariant.settled.frame lower
    intro block stored _
    rw [blocks] at stored ⊢
    obtain ⟨wasStored, low⟩ := List.mem_filter.mp stored
    refine .inl ⟨wasStored, rfl, fun height isLower => ?_⟩
    exact parameterRows_filter _ _ (isLower.trans_lt (of_decide_eq_true low))
  have starts : ∀ start ∈ state.run.start,
      StartedAt ({ state with ingest := after } : Supplement tree).position start ∧
        start.generation < after.db.syncState.reorgGeneration := by
    intro start isStart
    obtain ⟨above, older, _⟩ := invariant.start start isStart
    have earlier : start.generation < after.db.syncState.reorgGeneration := by
      rw [generation]
      exact Nat.lt_succ_of_le older
    exact ⟨⟨lower.trans above, earlier.le, fun current => absurd current earlier.ne⟩, earlier⟩
  constructor
  · refine ⟨?_, ?_, ?_, ?_⟩
    · show after.db.WellFormed
      rw [rolledBack]
      exact rollback_wellFormed fromHeight wellFormed
    · show (after.db.blocks.map Block.height).Nodup
      rw [blocks]
      exact invariant.recorded.heights.sublist (List.filter_sublist.map _)
    · exact fun ID new => invariant.recorded.column ID (nextID ▸ new)
    · exact fun ID new => invariant.recorded.reported ID (nextID ▸ new)
  · exact settled
  · have overtaken : ({ state with ingest := after } : Supplement tree).processedBelow =
        ({ state with ingest := after } : Supplement tree).position.next :=
      Supplement.processedBelow_overtaken fun start isStart => (starts start isStart).2.ne
    rw [overtaken]
    exact settled
  · exact fun start isStart => (starts start isStart).1
  · have follows := invariant.follows
    show state.run.Follows after.db state.reported
    cases phase : state.run with
    | idle | saving => trivial
    | ranging window =>
      rw [phase] at follows
      exact follows
    | working start done todo =>
      rw [phase] at follows starts
      refine ⟨fun block listed => ?_, fun current => absurd current (starts start rfl).2.ne⟩
      obtain ⟨above, known, own⟩ := follows.1 block listed
      refine ⟨above, nextID ▸ known, fun stored isStored => own stored ?_⟩
      rw [blocks] at isStored
      exact List.mem_of_mem_filter isStored

/-- A new block brings no parameters with it. -/
theorem parameterRows_append {blocks : List Block} {column : Nat → Option String} {new : Block}
    (unset : column new.ID = none) (height : Nat) :
    parameterRows (blocks ++ [new]) column height = parameterRows blocks column height := by
  rw [parameterRows, parameterRows, List.find?_append]
  cases blocks.find? fun block => block.height = height with
  | some block => rfl
  | none =>
    rw [Option.none_or, List.find?_cons]
    split
    · exact unset
    · rfl

theorem SupplementInvariant.ingest_written (invariant : SupplementInvariant state)
    {prep : PreparedBlock} {after : Ingest tree}
    (written : after.db = writeBlock state.ingest.db prep)
    (unique : ∀ block ∈ state.db.blocks, block.height ≠ prep.height) :
    SupplementInvariant { state with ingest := after } := by
  have recorded := invariant.recorded
  obtain ⟨new, isNew, isHeight, blocks⟩ : ∃ new : Block, new.ID = state.db.nextID ∧
      new.height = prep.height ∧ after.db.blocks = state.db.blocks ++ [new] :=
    ⟨_, rfl, rfl, by rw [written]; rfl⟩
  have nextID : state.db.nextID < after.db.nextID := by
    rw [written]
    exact (newRows_sound state.db prep).fresh
  have unset : state.ledgerParameters new.ID = none := recorded.column _ isNew.ge
  have unasked : state.reported new.ID = none := recorded.reported _ isNew.ge
  have isPosition : ({ state with ingest := after } : Supplement tree).position =
      state.position := by
    rw [Supplement.position, show ({ state with ingest := after } : Supplement tree).db =
      writeBlock state.db prep from written]
    rfl
  have isProcessed : ({ state with ingest := after } : Supplement tree).processedBelow =
      state.processedBelow := by
    rw [Supplement.processedBelow, isPosition, Supplement.processedBelow]
  have kept {bound : Nat} (lossless : LosslessBelow state.db state.ledgerParameters
      state.reported bound) :
      LosslessBelow after.db state.ledgerParameters state.reported bound := by
    apply lossless.frame le_rfl
    intro block stored _
    rw [blocks] at stored ⊢
    rcases List.mem_append.mp stored with old | added
    · exact .inl ⟨old, rfl, fun lower _ => parameterRows_append unset lower⟩
    · rw [List.mem_singleton.mp added]
      exact .inr unasked
  constructor
  · refine ⟨?_, ?_, ?_, ?_⟩
    · show after.db.WellFormed
      rw [written]
      exact writeBlock_wellFormed prep recorded.wellFormed
    · show (after.db.blocks.map Block.height).Nodup
      rw [blocks, List.map_append, List.nodup_append]
      refine ⟨recorded.heights, List.nodup_singleton _, ?_⟩
      intro height listed other isOther same
      obtain ⟨block, stored, rfl⟩ := List.mem_map.mp listed
      rw [List.mem_singleton.mp isOther, isHeight] at same
      exact unique block stored same
    · exact fun ID isAfter => recorded.column ID (nextID.le.trans isAfter)
    · exact fun ID isAfter => recorded.reported ID (nextID.le.trans isAfter)
  · rw [isPosition]
    exact kept invariant.settled
  · rw [isProcessed]
    exact kept invariant.lossless
  · rw [isPosition]
    exact invariant.start
  · have follows := invariant.follows
    show state.run.Follows after.db state.reported
    cases phase : state.run with
    | idle | saving => trivial
    | ranging window =>
      rw [phase] at follows
      exact follows
    | working start done todo =>
      rw [phase] at follows
      constructor
      · intro block listed
        obtain ⟨above, known, own⟩ := follows.1 block listed
        refine ⟨above, known.trans nextID, fun stored isStored same => ?_⟩
        rw [blocks] at isStored
        rcases List.mem_append.mp isStored with old | added
        · exact own stored old same
        · rw [List.mem_singleton.mp added, isNew] at same
          exact absurd same known.ne'
      · intro current
        rw [written] at current
        obtain ⟨stored, ordered, complete⟩ := follows.2 current
        refine ⟨fun block listed => ?_, ordered, fun block isStored above last isLast low => ?_⟩
        · rw [blocks]
          exact List.mem_append_left _ (stored block listed)
        · rw [blocks] at isStored
          rcases List.mem_append.mp isStored with old | added
          · exact complete block old above last isLast low
          · rw [List.mem_singleton.mp added]
            exact .inr unasked

theorem SupplementInvariant.ingestStep (config : CrawlerConfig)
    (invariant : SupplementInvariant state) (event : IngestEvent tree) :
    SupplementInvariant { state with ingest := Crawler.ingestStep config state.ingest event } := by
  cases ingestStep_effect config state.ingest event with
  | same db live catchUp => exact invariant.ingest_same db
  | rolledBack fromHeight db live catchUp => exact invariant.ingest_rolledBack db
  | persisted block requireParent isOffered db anchor live catchUp =>
    unfold persisted at db
    cases done : persistFromNode state.ingest.db block.prep requireParent with
    | error _ =>
      rw [done] at db
      exact invariant.ingest_same db
    | ok after =>
      rw [done] at db
      rcases persistFromNode_cases done with same | ⟨written, unique, _⟩
      · exact invariant.ingest_same (db.trans same)
      · exact invariant.ingest_written (db.trans written) fun stored isStored =>
          (unique stored isStored).2

/-! ## Steps of the supplement -/

/-- Nothing is processed before the first block of a batch. -/
theorem Supplement.processedBelow_waiting
    (waiting : state.run = .idle ∨ ∃ window, state.run = .ranging window) :
    state.processedBelow = state.position.next := by
  rw [Supplement.processedBelow]
  rcases waiting with isIdle | ⟨window, isRanging⟩
  · rw [isIdle]
  · rw [isRanging]

theorem beginRun_cases (config : PassConfig) (sync : SyncState) (column : PassCursorColumn) :
    beginRun config sync column = .idle ∨ ∃ window, beginRun config sync column = .ranging window ∧
      window.start = ⟨sync.cursor column, sync.reorgGeneration⟩ ∧
        (window.start.next : Int) ≤ window.ceiling := by
  simp only [beginRun]
  split
  · exact .inl rfl
  next nonempty => exact .inr ⟨_, rfl, rfl, by simpa [windowIsEmpty] using nonempty⟩

theorem SupplementInvariant.begun (passConfig : PassConfig)
    (invariant : SupplementInvariant state) :
    SupplementInvariant (state.begun passConfig) := by
  have begins : (state.begun passConfig).run =
      beginRun passConfig state.db.syncState .lastSupplementedHeight := rfl
  have waiting : (state.begun passConfig).processedBelow = state.position.next := by
    apply Supplement.processedBelow_waiting
    rw [begins]
    rcases beginRun_cases passConfig state.db.syncState .lastSupplementedHeight
      with isIdle | ⟨window, isRanging, _⟩
    · exact .inl isIdle
    · exact .inr ⟨window, isRanging⟩
  constructor
  · exact invariant.recorded
  · exact invariant.settled
  · rw [waiting]
    exact invariant.settled
  · intro start isStart
    rw [begins] at isStart
    rcases beginRun_cases passConfig state.db.syncState .lastSupplementedHeight
      with isIdle | ⟨window, isRanging, isWindow, _⟩
    · rw [isIdle] at isStart
      cases isStart
    · rw [isRanging] at isStart
      cases isStart
      rw [isWindow]
      exact ⟨le_rfl, le_rfl, fun _ => rfl⟩
  · rw [begins]
    rcases beginRun_cases passConfig state.db.syncState .lastSupplementedHeight
      with isIdle | ⟨window, isRanging, _, nonempty⟩
    · rw [isIdle]
      trivial
    · rw [isRanging]
      exact nonempty

theorem StartedAt.next_eq {position start : PassPosition} (started : StartedAt position start)
    (current : start.generation = position.generation) : start.next = position.next := by
  rw [PassPosition.next, PassPosition.next, started.2.2 current]

/-- The batch of a window, or the end of an empty one. -/
theorem SupplementInvariant.ranged (passConfig : PassConfig) (invariant : SupplementInvariant state)
    {window : PassWindow} (phase : state.run = .ranging window) :
    SupplementInvariant { state with run := rangeRun passConfig state.db window } := by
  have started := invariant.start window.start (by rw [phase]; rfl)
  have nonempty : (window.start.next : Int) ≤ window.ceiling := by
    have follows := invariant.follows
    rw [phase] at follows
    exact follows
  have heights := invariant.recorded.heights
  have distinct := invariant.recorded.wellFormed.blocksDistinct
  unfold rangeRun
  split
  next none =>
    have empty : ∀ block ∈ state.db.blocks, window.start.next ≤ block.height →
        ¬ (block.height : Int) ≤ window.ceiling :=
      blocksInRange_eq_nil passConfig.batchSize_pos none
    constructor
    · exact invariant.recorded
    · exact invariant.settled
    · intro block stored below
      have low : block.height < window.start.next := by
        by_contra above
        have beyond := empty block stored (Nat.not_lt.mp above)
        rw [Supplement.processedBelow] at below
        dsimp only at below
        split at below
        · omega
        · have lower : state.position.next ≤ window.start.next := started.1
          have isLow : block.height < state.position.next := below
          omega
      rw [Supplement.processedBelow] at below
      dsimp only at below
      split at below
      next current =>
        have same := started.next_eq current
        exact invariant.settled block stored (same ▸ low)
      · exact invariant.settled block stored below
    · intro start isStart
      cases isStart
      exact started
    · trivial
  next block rest found =>
    apply invariant.setRun
    · rw [Supplement.processedBelow]
      dsimp only
      split
      next current => exact started.next_eq current
      · rfl
    · intro start isStart
      cases isStart
      exact started
    · rw [PassRun.Follows, List.nil_append, ← found]
      refine ⟨fun listed isListed => ?_, fun _ => ⟨fun listed isListed => ?_, ?_,
        fun listed stored above last isLast low => ?_⟩⟩
      · obtain ⟨stored, above, _⟩ := blocksInRange_mem isListed
        refine ⟨above, invariant.recorded.wellFormed.blocks listed stored, ?_⟩
        exact fun other isStored same => List.inj_on_of_nodup_map distinct isStored stored same
      · exact (blocksInRange_mem isListed).1
      · exact blocksInRange_ordered heights _ _ _
      · exact .inl (blocksInRange_complete heights isLast stored above low)

theorem doneBelow_append (start : PassPosition) (done : List Block) (block : Block) :
    Supplement.doneBelow start (done ++ [block]) = block.height + 1 := by
  rw [Supplement.doneBelow, List.getLast?_concat, Option.map_some, Option.getD_some]

/-- The height above the done blocks lies between them and the block to come. -/
theorem doneBelow_between {db : Db} {start : PassPosition} {done todo : List Block} {block : Block}
    (known : BatchKnown db start (done ++ block :: todo))
    (ordered : (done ++ block :: todo).Pairwise fun left right => left.height < right.height) :
    start.next ≤ Supplement.doneBelow start done ∧ Supplement.doneBelow start done ≤ block.height ∧
      ∀ earlier ∈ done, earlier.height < Supplement.doneBelow start done := by
  rcases List.eq_nil_or_concat done with rfl | ⟨rest, last, rfl⟩
  · refine ⟨le_rfl, (known block (by simp)).1, fun earlier impossible => ?_⟩
    cases impossible
  · rw [List.concat_eq_append] at known ordered ⊢
    rw [doneBelow_append]
    have isLast : last ∈ rest ++ [last] := by simp
    have apart := List.pairwise_append.mp ordered
    have above := (known last (List.mem_append_left _ isLast)).1
    refine ⟨by omega, apart.2.2 last isLast block List.mem_cons_self, fun earlier isDone => ?_⟩
    rcases List.mem_append.mp isDone with before | same
    · have lower := (List.pairwise_append.mp apart.1).2.2 earlier before last (by simp)
      exact Nat.lt_succ_of_lt lower
    · rw [List.mem_singleton.mp same]
      exact Nat.lt_succ_self _

/-! ## The answer for a block -/

section Answer

variable {block : Block} {answer : Option String} {outcome : BlockOutcome}

/-- The update concerns the row of the block alone. -/
theorem applyBlockFields_frame (state : Supplement tree) (block : Block) (answer : Option String)
    (outcome : BlockOutcome) :
    (state.applyBlockFields block answer outcome).ingest = state.ingest ∧
      ∀ ID ≠ block.ID, (state.applyBlockFields block answer outcome).ledgerParameters ID =
        state.ledgerParameters ID := by
  rw [Supplement.applyBlockFields.eq_def]
  split
  · exact ⟨rfl, fun _ _ => rfl⟩
  next parameters =>
    split
    · exact ⟨rfl, fun _ _ => rfl⟩
    · split
      · exact ⟨rfl, fun _ _ => rfl⟩
      · cases outcome with
        | updateFails => exact ⟨rfl, fun _ _ => rfl⟩
        | processed | blockFails | replyLost =>
          exact ⟨rfl, fun ID other => Function.update_of_ne other _ _⟩

/-- Where the block is processed, its parameters are stored unless they are the remembered ones. -/
theorem applyBlockFields_processed {parameters : String}
    (given : Supplement.givenParameters answer = some parameters) :
    (state.remembered block.height = parameters ∧
      (state.applyBlockFields block answer .processed).ledgerParameters = state.ledgerParameters) ∨
    (state.remembered block.height ≠ parameters ∧
      (state.applyBlockFields block answer .processed).ledgerParameters block.ID =
        some parameters) := by
  obtain ⟨isAnswer, isGiven⟩ := Option.filter_eq_some_iff.mp given
  have given : parameters ≠ "" := of_decide_eq_true isGiven
  rw [isAnswer, Supplement.applyBlockFields, if_neg given]
  by_cases same : state.remembered block.height = parameters
  · rw [if_pos same]
    exact .inl ⟨same, rfl⟩
  · rw [if_neg same]
    exact .inr ⟨same, Function.update_self _ _ _⟩

/-- What a block comes to after it was passed over. -/
theorem passedOver_iff (recorded : Recorded state.db state.ledgerParameters state.reported)
    (stored : block ∈ state.db.blocks) {parameters : String} (given : parameters ≠ "")
    (same : state.remembered block.height = parameters) :
    state.NothingLeft block parameters ↔
      newestAt (parameterRows state.db.blocks state.ledgerParameters) block.height =
        some parameters := by
  have isRow : parameterRows state.db.blocks state.ledgerParameters block.height =
      state.ledgerParameters block.ID := parameterRows_of_stored recorded.heights stored
  have below : state.readParametersBelow block.height =
      (newestBelow (parameterRows state.db.blocks state.ledgerParameters)
        block.height).getD "" := by
    rw [Supplement.readParametersBelow, newestParameters_below recorded.heights]
  have read : (newestBelow (parameterRows state.db.blocks state.ledgerParameters)
      block.height).getD "" = parameters ↔
      newestBelow (parameterRows state.db.blocks state.ledgerParameters) block.height =
        some parameters := by
    cases newestBelow (parameterRows state.db.blocks state.ledgerParameters) block.height with
    | none => simp [Ne.symm given]
    | some lower => simp
  rw [newestAt_eq, isRow, Supplement.NothingLeft, below, read]
  cases own : state.ledgerParameters block.ID with
  | some other => simp
  | none =>
    cases cached : state.lastLedgerParameters with
    | some remembered => simp
    | none =>
      rw [Supplement.remembered, cached, Option.getD_none, below, read] at same
      simp [same]

/-- Rows below a block are not touched by its answer. -/
theorem answered_rows (known : ∀ stored ∈ state.db.blocks, stored.ID = block.ID → stored = block)
    {lower : Nat} (low : lower < block.height) :
    parameterRows state.db.blocks (state.applyBlockFields block answer outcome).ledgerParameters
        lower =
      parameterRows state.db.blocks state.ledgerParameters lower := by
  have untouched := (applyBlockFields_frame state block answer outcome).2
  rw [parameterRows, parameterRows]
  cases found : state.db.blocks.find? fun other => other.height = lower with
  | none => rfl
  | some other =>
    have isLower : other.height = lower := by simpa using List.find?_some found
    apply untouched
    intro same
    rw [known other (List.mem_of_find?_eq_some found) same] at isLower
    omega

/-- Blocks below the one answered keep their effect. -/
theorem LosslessBelow.answered {bound : Nat}
    (lossless : LosslessBelow state.db state.ledgerParameters state.reported bound)
    (known : ∀ stored ∈ state.db.blocks, stored.ID = block.ID → stored = block)
    (low : bound ≤ block.height) (report : Option (Option String)) :
    LosslessBelow state.db (state.applyBlockFields block answer outcome).ledgerParameters
      (Function.update state.reported block.ID report) bound := by
  apply lossless.frame le_rfl
  intro stored isStored below
  refine .inl ⟨isStored, Function.update_of_ne ?_ _ _, fun lower isLower => ?_⟩
  · intro same
    rw [known stored isStored same] at below
    omega
  · exact answered_rows known (by omega)

variable {done todo : List Block} {start : PassPosition}

/-- A processed block is in effect as it was reported, and so is everything up to it. -/
theorem SupplementInvariant.lossless_processed (invariant : SupplementInvariant state)
    (phase : state.run = .working start done (block :: todo))
    (current : start.generation = state.position.generation)
    (sound : ∀ parameters, Supplement.givenParameters answer = some parameters →
      state.remembered block.height = parameters → state.NothingLeft block parameters) :
    LosslessBelow state.db (state.applyBlockFields block answer .processed).ledgerParameters
      (Function.update state.reported block.ID (some (Supplement.givenParameters answer)))
      (block.height + 1) := by
  have follows := invariant.follows
  have lossless := invariant.lossless
  rw [Supplement.processedBelow, phase] at lossless
  dsimp only at lossless
  rw [if_pos current] at lossless
  rw [phase] at follows
  obtain ⟨known, batch⟩ := follows
  obtain ⟨isStored, ordered, complete⟩ := batch current
  have isNext : block ∈ done ++ block :: todo := by simp
  obtain ⟨above, between, earlier⟩ := doneBelow_between known ordered
  have own := (known block isNext).2.2
  intro stored inIndex below parameters isReported
  by_cases isBlock : stored = block
  case pos =>
    subst isBlock
    rw [Function.update_self, Option.some.injEq] at isReported
    have heights := invariant.recorded.heights
    have given : parameters ≠ "" :=
      of_decide_eq_true (Option.filter_eq_some_iff.mp isReported).2
    rcases applyBlockFields_processed isReported with ⟨same, unchanged⟩ | ⟨_, isColumn⟩
    · rw [unchanged]
      exact (passedOver_iff invariant.recorded inIndex given same).mp
        (sound parameters isReported same)
    · exact newestAt_of_row ((parameterRows_of_stored heights inIndex).trans isColumn)
  case neg =>
    have unlike : stored.ID ≠ block.ID := fun same => isBlock (own stored inIndex same)
    by_cases low : stored.height < Supplement.doneBelow start done
    case pos =>
      exact lossless.answered own between _ stored inIndex low parameters isReported
    case neg =>
      rw [Function.update_of_ne unlike] at isReported
      rcases complete stored inIndex (by omega) block isNext (Nat.le_of_lt_succ below)
        with listed | unasked
      · -- a block of the batch that is not below the next one comes after it
        rcases List.mem_append.mp listed with isDone | isTodo
        · exact absurd (earlier stored isDone) low
        · rcases List.mem_cons.mp isTodo with same | later
          · exact absurd same isBlock
          · have upper :=
              (List.pairwise_cons.mp (List.pairwise_append.mp ordered).2.1).1 stored later
            omega
      · rw [unasked] at isReported
        cases isReported

/-- The fields of the state once a block is answered. -/
structure Answered (state : Supplement tree) (start : PassPosition) (done todo : List Block)
    (block : Block) (answer : Option String) (outcome : BlockOutcome) (after : Supplement tree) :
    Prop where
  db : after.db = state.db
  position : after.position = state.position
  column : after.ledgerParameters = (state.applyBlockFields block answer outcome).ledgerParameters
  reported : after.reported =
    Function.update state.reported block.ID (some (Supplement.givenParameters answer))
  run : after.run = if outcome = .processed then processRun start done block todo else .idle

theorem answered_fields (phase : state.run = .working start done (block :: todo)) :
    Answered state start done todo block answer outcome (state.answered answer outcome) := by
  have isIngest := (applyBlockFields_frame state block answer outcome).1
  constructor
  all_goals simp only [Supplement.position, Supplement.db, Supplement.answered, phase, isIngest]

/-- The processed heights end where they did, or behind the block. -/
theorem Answered.processedBelow {after : Supplement tree}
    (answered : Answered state start done todo block answer outcome after) :
    after.processedBelow =
      if outcome = .processed ∧ start.generation = state.position.generation then
        block.height + 1
      else state.position.next := by
  rw [Supplement.processedBelow, answered.position, answered.run]
  by_cases isProcessed : outcome = .processed
  case neg => simp only [isProcessed, if_false, false_and]
  case pos =>
    simp only [isProcessed, if_true, true_and]
    cases todo with
    | nil => rfl
    | cons next rest =>
      rw [processRun]
      dsimp only
      rw [doneBelow_append]

/-- The batch goes on behind the block. -/
theorem follows_processRun
    (follows : (PassRun.working start done (block :: todo)).Follows state.db state.reported)
    (report : Option (Option String)) :
    (processRun start done block todo).Follows state.db
      (Function.update state.reported block.ID report) := by
  cases todo with
  | nil => trivial
  | cons next rest =>
    obtain ⟨known, batch⟩ := follows
    have isNext : block ∈ done ++ block :: next :: rest := by simp
    have own := (known block isNext).2.2
    have shifted : done ++ block :: next :: rest = (done ++ [block]) ++ next :: rest := by simp
    refine ⟨shifted ▸ known, fun current => ?_⟩
    obtain ⟨stored, ordered, complete⟩ := batch current
    rw [← shifted]
    refine ⟨stored, ordered, fun other isStored above last isLast low => ?_⟩
    by_cases same : other.ID = block.ID
    · rw [own other isStored same]
      exact .inl isNext
    · rw [Function.update_of_ne same]
      exact complete other isStored above last isLast low

theorem start_processRun : (processRun start done block todo).start = some start := by
  cases todo <;> rfl

theorem SupplementInvariant.of_answered (invariant : SupplementInvariant state)
    (phase : state.run = .working start done (block :: todo)) {after : Supplement tree}
    (answered : Answered state start done todo block answer outcome after)
    (sound : state.PassesOverSoundly (.answer answer outcome)) : SupplementInvariant after := by
  have started := invariant.start start (by rw [phase]; rfl)
  have follows := invariant.follows
  rw [phase] at follows
  have isNext : block ∈ done ++ block :: todo := by simp
  obtain ⟨above, isRow, own⟩ := follows.1 block isNext
  have settled : LosslessBelow state.db after.ledgerParameters after.reported
      state.position.next := by
    rw [answered.column, answered.reported]
    exact invariant.settled.answered own (started.1.trans above) _
  have untouched (ID : Nat) (new : state.db.nextID ≤ ID) : ID ≠ block.ID :=
    (isRow.trans_le new).ne'
  constructor
  · rw [answered.db, answered.column, answered.reported]
    refine ⟨invariant.recorded.wellFormed, invariant.recorded.heights, fun ID new => ?_,
      fun ID new => ?_⟩
    · rw [(applyBlockFields_frame state block answer outcome).2 ID (untouched ID new)]
      exact invariant.recorded.column ID new
    · rw [Function.update_of_ne (untouched ID new)]
      exact invariant.recorded.reported ID new
  · rw [answered.db, answered.position]
    exact settled
  · rw [answered.db, answered.processedBelow]
    split
    next live =>
      obtain ⟨rfl, current⟩ := live
      rw [answered.column, answered.reported]
      apply invariant.lossless_processed phase current
      have passed := sound
      simp only [Supplement.PassesOverSoundly, phase] at passed
      exact passed current
    · exact settled
  · intro other isStart
    rw [answered.position]
    rw [answered.run] at isStart
    split at isStart
    · rw [start_processRun] at isStart
      cases isStart
      exact started
    · cases isStart
  · rw [answered.run, answered.db, answered.reported]
    split
    · exact follows_processRun follows _
    · trivial

theorem SupplementInvariant.answered (invariant : SupplementInvariant state)
    (sound : state.PassesOverSoundly (.answer answer outcome)) :
    SupplementInvariant (state.answered answer outcome) := by
  cases phase : state.run with
  | idle | ranging | saving => simpa only [Supplement.answered, phase] using invariant
  | working start done todo =>
    cases todo with
    | nil => simpa only [Supplement.answered, phase] using invariant
    | cons block todo => exact invariant.of_answered phase (answered_fields phase) sound

/-- A block passed over although something is left on it is not in effect as reported. -/
theorem SupplementInvariant.sound_of_lossless (invariant : SupplementInvariant state)
    (lossless : (state.answered answer outcome).Lossless) :
    state.PassesOverSoundly (.answer answer outcome) := by
  cases outcome with
  | blockFails | replyLost | updateFails => trivial
  | processed =>
    rw [Supplement.PassesOverSoundly]
    split
    next start done block todo phase =>
      intro current parameters given same
      have fields : Answered state start done todo block answer .processed
          (state.answered answer .processed) := answered_fields phase
      have follows := invariant.follows
      rw [phase] at follows
      have isNext : block ∈ done ++ block :: todo := by simp
      have stored := (follows.2 current).stored block isNext
      have isGiven : parameters ≠ "" :=
        of_decide_eq_true (Option.filter_eq_some_iff.mp given).2
      have effect := lossless block (by rw [fields.db]; exact stored)
        (by rw [fields.processedBelow, if_pos ⟨rfl, current⟩]; exact Nat.lt_succ_self _)
        parameters (by rw [fields.reported, Function.update_self, given])
      rcases applyBlockFields_processed given with ⟨_, unchanged⟩ | ⟨differs, _⟩
      · rw [Supplement.inEffect, fields.db, fields.column, unchanged,
          newestParameters_upTo invariant.recorded.heights] at effect
        exact (passedOver_iff invariant.recorded stored isGiven same).mpr effect
      · exact absurd same differs
    · trivial

end Answer

/-- A pass that ends before a block has dealt with everything below it. -/
theorem SupplementInvariant.endedBefore (invariant : SupplementInvariant state)
    {start : PassPosition} {done todo : List Block} {block : Block}
    (phase : state.run = .working start done (block :: todo)) :
    SupplementInvariant { state with run := endBefore start done block } := by
  have started := invariant.start start (by rw [phase]; rfl)
  cases nonempty : done with
  | nil => exact invariant.idle
  | cons first rest =>
    rw [← nonempty]
    have isRun : endBefore start done block = .saving start (block.height - 1) := by
      rw [nonempty]
      rfl
    have follows := invariant.follows
    have lossless := invariant.lossless
    rw [Supplement.processedBelow, phase] at lossless
    dsimp only at lossless
    rw [phase] at follows
    rw [isRun]
    constructor
    · exact invariant.recorded
    · exact invariant.settled
    · rw [Supplement.processedBelow]
      dsimp only
      split
      next current =>
        rw [if_pos (show start.generation = state.position.generation from current)] at lossless
        obtain ⟨stored, ordered, complete⟩ := follows.2 current
        have isNext : block ∈ done ++ block :: todo := by simp
        obtain ⟨above, between, earlier⟩ := doneBelow_between follows.1 ordered
        have isFirst := earlier first (nonempty ▸ List.mem_cons_self)
        intro other isStored below
        by_cases low : other.height < Supplement.doneBelow start done
        · exact lossless other isStored low
        · intro parameters isReported
          rcases complete other isStored (by omega) block isNext (by omega) with listed | unasked
          · rcases List.mem_append.mp listed with isDone | isTodo
            · exact absurd (earlier other isDone) low
            · -- the block itself and those behind it are not below it
              have apart := (List.pairwise_append.mp ordered).2.1
              rcases List.mem_cons.mp isTodo with same | later
              · rw [same] at below
                omega
              · have upper := (List.pairwise_cons.mp apart).1 other later
                omega
          · rw [unasked] at isReported
            cases isReported
      · exact invariant.settled
    · intro other isStart
      cases isStart
      exact started
    · trivial

/-- A cursor that is saved stands where the processed heights ended. -/
theorem SupplementInvariant.saved (invariant : SupplementInvariant state)
    {start : PassPosition} {height : Nat} (phase : state.run = .saving start height) :
    SupplementInvariant
      { state.setSync (advancePassCursor state.db.syncState .lastSupplementedHeight start height)
        with run := .idle } := by
  rcases advancePassCursor_cases state.db.syncState .lastSupplementedHeight start height
    with same | ⟨moved, current, _⟩
  · rw [same]
    exact invariant.idle
  · rw [moved]
    have lossless := invariant.lossless
    rw [Supplement.processedBelow, phase] at lossless
    dsimp only at lossless
    rw [if_pos (show start.generation = state.position.generation from current)] at lossless
    have wellFormed := invariant.recorded.wellFormed
    constructor
    · exact ⟨⟨wellFormed.blocks, wellFormed.blocksDistinct, wellFormed.transactions,
        wellFormed.transactionsDistinct, wellFormed.utxos, wellFormed.utxosDistinct⟩,
        invariant.recorded.heights, invariant.recorded.column, invariant.recorded.reported⟩
    · exact lossless
    · exact lossless
    · nofun
    · trivial

theorem SupplementInvariant.restarted (invariant : SupplementInvariant state) :
    SupplementInvariant { state with
      run := .idle
      lastLedgerParameters := none
      cachedGeneration := none } where
  recorded := invariant.recorded
  settled := invariant.settled
  lossless := invariant.settled
  start := by
    intro start impossible
    cases impossible
  follows := trivial

end Runs

/-! ## Runs -/

section Lossless

variable (config : CrawlerConfig) (passConfig : PassConfig)

theorem supplementStep_invariant (state : Supplement tree) (event : SupplementEvent tree)
    (invariant : SupplementInvariant state) (sound : state.PassesOverSoundly event) :
    SupplementInvariant (supplementStep config passConfig state event) := by
  cases event with
  | ingest event => exact invariant.ingestStep config event
  | begin =>
    rw [supplementStep]
    split
    · exact invariant.begun passConfig
    · exact invariant
  | range =>
    rw [supplementStep]
    split
    next window phase => exact invariant.ranged passConfig phase
    · exact invariant
  | answer answer outcome => exact invariant.answered sound
  | endBefore =>
    rw [supplementStep]
    split
    next start done block todo phase => exact invariant.endedBefore phase
    · exact invariant
  | save =>
    rw [supplementStep]
    split
    next start height phase => exact invariant.saved phase
    · exact invariant
  | fail => exact invariant.idle
  | restart => exact invariant.restarted

/-- Storing on change loses nothing throughout a run exactly when no block is passed over while
something a failed pass left speaks against it. -/
theorem ledgerParameters_lossless_iff (events : List (SupplementEvent tree)) :
    Along (supplementStep config passConfig) Supplement.PassesOverSoundly
        (Supplement.initial tree) events ↔
      ∀ earlier, earlier <+: events →
        (run (supplementStep config passConfig) (Supplement.initial tree) earlier).Lossless := by
  apply along_iff_law
  · intro state (invariant : SupplementInvariant state)
    exact invariant.recorded.lossless_iff.mpr invariant.lossless
  · exact supplementStep_invariant config passConfig
  · intro state event invariant lossless
    cases event with
    | answer answer outcome => exact invariant.sound_of_lossless lossless
    | _ => trivial
  · exact SupplementInvariant.initial tree

end Lossless

/-- A pass stores other parameters on block 1 and fails; the next one, told those of block 0 for
it, passes over it. -/
def leftoverRun : List (SupplementEvent sampleTree) := [
  .ingest .catchUp, .ingest (.finalizedHead 1),
  .ingest (.fetched 0 [sampleBlock 0, sampleBlock 1]), .ingest .persistNext, .ingest .persistNext,
  .begin, .range, .answer (some "AQ==") .processed, .answer (some "Ag==") .blockFails,
  .begin, .range, .answer (some "AQ==") .processed, .answer (some "AQ==") .processed, .save]

def leftoverState : Supplement sampleTree :=
  run (supplementStep (sampleConfig 0) (samplePass .lastSupplementedHeight))
    (Supplement.initial sampleTree) leftoverRun

theorem leftover_in_effect :
    leftoverState.db.syncState.lastSupplementedHeight = some 1 ∧
      (∃ block ∈ leftoverState.db.blocks, block.height = 1 ∧
        leftoverState.reported block.ID = some (some "AQ==")) ∧
      leftoverState.inEffect 1 = some "Ag==" ∧ ¬ leftoverState.Lossless := by
  have reported : ∃ block ∈ leftoverState.db.blocks, block.height = 1 ∧
      leftoverState.reported block.ID = some (some "AQ==") := by decide
  have stale : leftoverState.inEffect 1 = some "Ag==" := by decide
  refine ⟨by decide, reported, stale, fun lossless => ?_⟩
  obtain ⟨block, stored, isHeight, isReported⟩ := reported
  have processed : 1 < leftoverState.processedBelow := by decide
  have effect := lossless block stored (isHeight ▸ processed) _ isReported
  rw [isHeight, stale] at effect
  exact absurd effect (by decide)

end Nightgate.Crawler
