import Nightgate.Crawler.CursorPass

/-!
# The trailing passes skip nothing

Every stored block at or below the cursor of a pass was processed by it. A block
is indexed above every stored height, so above the cursor, and a rollback drops
the rows it uncovers and lets every run under way fail its save. The block of
height 0 is the exception: the cursor 0 stands for "genesis is done" and also for
an index without blocks.
-/

namespace Nightgate.Crawler

open Library

variable {tree : BlockTree}

/-- The stored blocks from one height up to another are processed. -/
def Covered (db : Db) (processed : List Nat) (bottom top : Nat) : Prop :=
  ∀ block ∈ db.blocks, bottom ≤ block.height → block.height ≤ top → block.ID ∈ processed

/-- Every stored block at or below the cursor is processed. -/
def SkipsNothing (column : PassCursorColumn) (state : Passes tree) : Prop :=
  ∀ height ∈ state.ingest.db.syncState.cursor column,
    Covered state.ingest.db (state.processed column) 0 height

instance (db : Db) (processed : List Nat) (bottom top : Nat) :
    Decidable (Covered db processed bottom top) :=
  inferInstanceAs (Decidable (∀ block ∈ _, _))

instance (column : PassCursorColumn) (state : Passes tree) :
    Decidable (SkipsNothing column state) :=
  inferInstanceAs (Decidable (∀ height ∈ _, _))

/-- The position a run compares against when it saves. -/
def PassRun.start : PassRun → Option PassPosition
  | .idle => none
  | .ranging window => some window.start
  | .working start _ _ => some start
  | .saving start _ => some start

/-- The next step of the run may move the cursor away from a position. -/
def PassRun.savesFrom (position : PassPosition) : PassRun → Bool
  | .saving start _ => start = position
  | _ => false

/-- The block of height 0 is stored only into an empty index whose cursor is null,
and not while the pass is about to replace that null. -/
def GenesisUnpassed (column : PassCursorColumn) (state : Passes tree) :
    PassesEvent tree → Prop
  | .ingest event =>
    ∀ offer ∈ offered state.ingest event, offer.1.prep.height = 0 →
      (state.ingest.db.blockByHeight 0).isSome ∨ (state.ingest.db.blocks = [] ∧
          state.ingest.db.syncState.cursor column = none ∧
          (state.runs column).savesFrom ⟨none, state.ingest.db.syncState.reorgGeneration⟩ = false)
  | _ => True

instance (column : PassCursorColumn) (state : Passes tree) (event : PassesEvent tree) :
    Decidable (GenesisUnpassed column state event) :=
  match event with
  | .ingest _ => inferInstanceAs (Decidable (∀ offer ∈ _, _))
  | .begin _ => isTrue trivial
  | .range _ => isTrue trivial
  | .process _ => isTrue trivial
  | .endBefore => isTrue trivial
  | .save _ => isTrue trivial
  | .fail _ => isTrue trivial
  | .redecode _ => isTrue trivial

/-! ## The invariant -/

/-- A batch under way holds every stored block from its first height to its last. -/
structure BatchSound (db : Db) (processed : List Nat) (start : PassPosition)
    (done todo : List Block) : Prop where
  ordered : (done ++ todo).Pairwise fun left right => left.height ≤ right.height
  stored : ∀ block ∈ done ++ todo, block ∈ db.blocks
  complete : ∀ block ∈ db.blocks, start.next ≤ block.height →
    ∀ last ∈ done ++ todo, block.height ≤ last.height → block ∈ done ++ todo
  processed : ∀ block ∈ done, block.ID ∈ processed

/-- What a run that began under the current generation has established. -/
def PassRun.Sound (db : Db) (processed : List Nat) : PassRun → Prop
  | .idle => True
  | .ranging window =>
    window.start.next ≤ window.ceiling ∧ window.ceiling ≤ db.syncState.lastIndexedHeight
  | .working start done todo => BatchSound db processed start done todo
  | .saving start height =>
    height ≤ db.syncState.lastIndexedHeight ∧ Covered db processed start.next height

/-- A run under way is sound unless a rollback came in between. -/
def PassRun.SoundUnless (db : Db) (processed : List Nat) (run : PassRun) : Prop :=
  ∀ start ∈ run.start, start.generation ≤ db.syncState.reorgGeneration ∧
    (start.generation = db.syncState.reorgGeneration → run.Sound db processed)

structure PassInvariant (column : PassCursorColumn) (state : Passes tree) : Prop where
  ingest : IngestInvariant state.ingest
  skipsNothing : SkipsNothing column state
  cursor_le : ∀ height ∈ state.ingest.db.syncState.cursor column,
    height ≤ state.ingest.db.syncState.lastIndexedHeight
  run : (state.runs column).SoundUnless state.ingest.db (state.processed column)

theorem PassRun.soundUnless_idle (db : Db) (processed : List Nat) :
    PassRun.idle.SoundUnless db processed := nofun

theorem PassInvariant.initial (column : PassCursorColumn) :
    PassInvariant column (Passes.initial tree) where
  ingest := IngestInvariant.initial tree
  skipsNothing := by
    intro height isCursor
    cases column <;> cases isCursor
  cursor_le := by
    intro height isCursor
    cases column <;> cases isCursor
  run := PassRun.soundUnless_idle _ _

variable {db : Db}

/-- No stored block is above `SyncState`. -/
theorem Chained.height_le_lastIndexed (chained : Chained tree db) :
    ∀ block ∈ db.blocks, block.height ≤ db.syncState.lastIndexedHeight := by
  intro block stored
  have tip := chained.tip
  cases last : db.blocks.getLast? with
  | none =>
    rw [List.getLast?_eq_none_iff.mp last] at stored
    cases stored
  | some top =>
    rw [last] at tip
    rw [tip.2]
    exact (parentOf_climbs tree).height_le_last chained.linked last stored

/-! ## Steps of a pass -/

/-- A step that leaves blocks, tip and generation alone and never raises the cursor. -/
structure Unmoved (column : PassCursorColumn) (before after : Passes tree) : Prop where
  blocks : after.ingest.db.blocks = before.ingest.db.blocks
  tip : after.ingest.db.syncState.lastIndexedHeight = before.ingest.db.syncState.lastIndexedHeight
  generation : after.ingest.db.syncState.reorgGeneration =
    before.ingest.db.syncState.reorgGeneration
  cursor : ∀ height ∈ after.ingest.db.syncState.cursor column,
    ∃ earlier ∈ before.ingest.db.syncState.cursor column, height ≤ earlier
  processed : ∀ ID ∈ before.processed column, ID ∈ after.processed column

variable {column : PassCursorColumn} {before after : Passes tree}

theorem Unmoved.covered (unmoved : Unmoved column before after) {bottom top : Nat}
    (covered : Covered before.ingest.db (before.processed column) bottom top) :
    Covered after.ingest.db (after.processed column) bottom top := by
  intro block stored above below
  rw [unmoved.blocks] at stored
  exact unmoved.processed _ (covered block stored above below)

theorem Unmoved.sound (unmoved : Unmoved column before after) {run : PassRun}
    (sound : run.SoundUnless before.ingest.db (before.processed column)) :
    run.SoundUnless after.ingest.db (after.processed column) := by
  intro start isStart
  rw [unmoved.generation]
  refine ⟨(sound start isStart).1, ?_⟩
  intro current
  have facts := (sound start isStart).2 current
  cases run with
  | idle => trivial
  | ranging window =>
    simp only [PassRun.Sound, unmoved.tip]
    exact facts
  | working start done todo =>
    constructor
    · exact facts.ordered
    · rw [unmoved.blocks]
      exact facts.stored
    · rw [unmoved.blocks]
      exact facts.complete
    · exact fun block isDone => unmoved.processed _ (facts.processed block isDone)
  | saving start height =>
    simp only [PassRun.Sound, unmoved.tip]
    exact ⟨facts.1, unmoved.covered facts.2⟩

theorem PassInvariant.unmoved (invariant : PassInvariant column before)
    (unmoved : Unmoved column before after) (ingest : IngestInvariant after.ingest)
    (run : (after.runs column).SoundUnless after.ingest.db (after.processed column)) :
    PassInvariant column after where
  ingest := ingest
  skipsNothing := by
    intro height isCursor
    rcases unmoved.cursor height isCursor with ⟨earlier, wasCursor, below⟩
    have covered := unmoved.covered (invariant.skipsNothing earlier wasCursor)
    intro block stored above low
    exact covered block stored above (low.trans below)
  cursor_le := by
    intro height isCursor
    rcases unmoved.cursor height isCursor with ⟨earlier, wasCursor, below⟩
    rw [unmoved.tip]
    exact below.trans (invariant.cursor_le earlier wasCursor)
  run := run

/-- Only the run of a pass changes. -/
theorem PassInvariant.setRun {state : Passes tree} (invariant : PassInvariant column state)
    (changed : PassCursorColumn) (run : PassRun)
    (sound : changed = column → run.SoundUnless state.ingest.db (state.processed column)) :
    PassInvariant column (state.setRun changed run) := by
  have unmoved : Unmoved column state (state.setRun changed run) :=
    ⟨rfl, rfl, rfl, fun height isCursor => ⟨height, isCursor, le_rfl⟩, fun _ => id⟩
  apply invariant.unmoved unmoved invariant.ingest
  simp only [Passes.setRun, Function.update_apply]
  split
  next same => exact sound same.symm
  · exact invariant.run

/-- Writing a cursor keeps the crawler's invariant. -/
theorem IngestInvariant.setSync {state : Ingest tree} (invariant : IngestInvariant state)
    {sync : SyncState} (hash : sync.lastIndexedHash = state.db.syncState.lastIndexedHash)
    (height : sync.lastIndexedHeight = state.db.syncState.lastIndexedHeight) :
    IngestInvariant { state with db := { state.db with syncState := sync } } where
  chained := {
    wellFormed := ⟨invariant.chained.wellFormed.blocks, invariant.chained.wellFormed.blocksDistinct,
      invariant.chained.wellFormed.transactions,
      invariant.chained.wellFormed.transactionsDistinct,
      invariant.chained.wellFormed.utxos,
      invariant.chained.wellFormed.utxosDistinct⟩
    linked := invariant.chained.linked
    heights := invariant.chained.heights
    tip := by
      have tip := invariant.chained.tip
      cases last : state.db.blocks.getLast? <;> rw [last] at tip
      · exact ⟨hash.trans tip.1, height.trans tip.2⟩
      · exact ⟨hash.trans tip.1, height.trans tip.2⟩ }
  overIndex := invariant.overIndex
  seeds := invariant.seeds

variable {ceiling : Int} {block : Block}

theorem mem_sortedRange {bottom : Nat} :
    block ∈ (db.blocks.filter fun block =>
        bottom ≤ block.height ∧ (block.height : Int) ≤ ceiling).insertionSort
          (fun left right => left.height ≤ right.height) ↔
      block ∈ db.blocks ∧ bottom ≤ block.height ∧ (block.height : Int) ≤ ceiling := by
  rw [List.mem_insertionSort, List.mem_filter, decide_eq_true_iff]

theorem blocksInRange_mem {bottom limit : Nat}
    (found : block ∈ blocksInRange db bottom ceiling limit) :
    block ∈ db.blocks ∧ bottom ≤ block.height ∧ (block.height : Int) ≤ ceiling :=
  mem_sortedRange.mp (List.mem_of_mem_take found)

theorem sortedRange_pairwise (blocks : List Block) :
    (blocks.insertionSort fun left right => left.height ≤ right.height).Pairwise
      fun left right => left.height ≤ right.height :=
  have : Std.Total fun left right : Block => left.height ≤ right.height :=
    ⟨fun left right => Nat.le_total left.height right.height⟩
  have : IsTrans Block fun left right => left.height ≤ right.height :=
    ⟨fun _ _ _ => Nat.le_trans⟩
  List.pairwise_insertionSort _ _

/-- Nothing is left out up to the highest block the query returned. -/
theorem blocksInRange_complete (distinct : (db.blocks.map Block.height).Nodup) {bottom limit : Nat}
    {last : Block} (isLast : last ∈ blocksInRange db bottom ceiling limit)
    (stored : block ∈ db.blocks) (above : bottom ≤ block.height)
    (below : block.height ≤ last.height) :
    block ∈ blocksInRange db bottom ceiling limit := by
  rcases blocksInRange_mem isLast with ⟨lastStored, _, lastLow⟩
  have sorted := sortedRange_pairwise (db.blocks.filter fun block =>
    bottom ≤ block.height ∧ (block.height : Int) ≤ ceiling)
  have inRange : block ∈ (db.blocks.filter fun block =>
      bottom ≤ block.height ∧ (block.height : Int) ≤ ceiling).insertionSort
        (fun left right => left.height ≤ right.height) :=
    mem_sortedRange.mpr ⟨stored, above, by omega⟩
  rw [← List.take_append_drop limit (List.insertionSort _ _)] at inRange sorted
  rcases List.mem_append.mp inRange with taken | dropped
  · exact taken
  · have lastFirst := (List.pairwise_append.mp sorted).2.2 last isLast block dropped
    have same := List.inj_on_of_nodup_map distinct stored lastStored
      (Nat.le_antisymm below lastFirst)
    exact same ▸ isLast

/-- The batch of a query, the lowest block first. -/
theorem blocksInRange_ordered (distinct : (db.blocks.map Block.height).Nodup)
    (bottom limit : Nat) (ceiling : Int) :
    (blocksInRange db bottom ceiling limit).Pairwise
      fun left right => left.height < right.height := by
  have sorted : (blocksInRange db bottom ceiling limit).Pairwise
      fun left right => left.height ≤ right.height :=
    (sortedRange_pairwise _).sublist (List.take_sublist _ _)
  have unlike : (blocksInRange db bottom ceiling limit).Pairwise
      fun left right => left.height ≠ right.height := by
    apply List.Pairwise.sublist (List.take_sublist _ _)
    apply List.pairwise_map.mp
    apply ((List.perm_insertionSort _ _).map Block.height).nodup_iff.mpr
    exact distinct.sublist (List.filter_sublist.map _)
  exact (sorted.and unlike).imp fun both => Nat.lt_of_le_of_ne both.1 both.2

/-- An empty answer of the query means an empty range. -/
theorem blocksInRange_eq_nil {bottom limit : Nat}
    (positive : 0 < limit) (none : blocksInRange db bottom ceiling limit = []) :
    ∀ block ∈ db.blocks, bottom ≤ block.height → ¬ (block.height : Int) ≤ ceiling := by
  intro block stored above below
  rcases List.take_eq_nil_iff.mp none with zero | empty
  · omega
  · have inRange := mem_sortedRange.mpr ⟨stored, above, below⟩
    rw [empty] at inRange
    cases inRange

section Phases

variable {db : Db} {processed : List Nat}

theorem beginRun_sound (config : PassConfig) (db : Db) (processed : List Nat)
    (column : PassCursorColumn) :
    (beginRun config db.syncState column).SoundUnless db processed := by
  simp only [beginRun]
  split
  · exact PassRun.soundUnless_idle db processed
  next nonempty =>
    intro start isStart
    cases isStart
    refine ⟨le_rfl, fun _ => ⟨?_, ?_⟩⟩
    · simpa [windowIsEmpty] using nonempty
    · simp [readPassWindow]

theorem rangeRun_sound (config : PassConfig) (chained : Chained tree db)
    {window : PassWindow} (sound : (PassRun.ranging window).SoundUnless db processed) :
    (rangeRun config db window).SoundUnless db processed := by
  unfold rangeRun
  split
  next none =>
    intro start isStart
    cases isStart
    refine ⟨(sound window.start rfl).1, ?_⟩
    intro current
    rcases (sound window.start rfl).2 current with ⟨nonempty, low⟩
    refine ⟨by omega, ?_⟩
    intro block stored above below
    have high := blocksInRange_eq_nil config.batchSize_pos none block stored above
    omega
  next block rest some =>
    intro start isStart
    cases isStart
    refine ⟨(sound window.start rfl).1, ?_⟩
    intro _
    constructor
    · rw [List.nil_append, ← some]
      exact (sortedRange_pairwise _).sublist (List.take_sublist _ _)
    · rw [List.nil_append, ← some]
      exact fun block found => (blocksInRange_mem found).1
    · rw [List.nil_append, ← some]
      exact fun block stored above last isLast below =>
        blocksInRange_complete ((parentOf_climbs tree).nodup_heights chained.linked) isLast stored
          above below
    · nofun

theorem processRun_sound (chained : Chained tree db) {start : PassPosition} {done todo : List Block}
    (sound : (PassRun.working start done (block :: todo)).SoundUnless db processed) :
    (processRun start done block todo).SoundUnless db (block.ID :: processed) := by
  have batch := sound start rfl
  cases todo with
  | nil =>
    intro other isStart
    cases isStart
    refine ⟨batch.1, ?_⟩
    intro current
    have facts := batch.2 current
    have isLast : block ∈ done ++ [block] := by simp
    refine ⟨chained.height_le_lastIndexed block (facts.stored block isLast), ?_⟩
    intro lower stored above below
    rcases List.mem_append.mp (facts.complete lower stored above block isLast below)
      with isDone | isBlock
    · exact List.mem_cons_of_mem _ (facts.processed lower isDone)
    · rw [List.mem_singleton.mp isBlock]
      exact List.mem_cons_self
  | cons next rest =>
    intro other isStart
    cases isStart
    refine ⟨batch.1, ?_⟩
    intro current
    have facts := batch.2 current
    have shifted : done ++ block :: next :: rest = (done ++ [block]) ++ next :: rest := by
      simp
    constructor
    · exact shifted ▸ facts.ordered
    · exact shifted ▸ facts.stored
    · exact shifted ▸ facts.complete
    · intro lower isDone
      rcases List.mem_append.mp isDone with earlier | isBlock
      · exact List.mem_cons_of_mem _ (facts.processed lower earlier)
      · rw [List.mem_singleton.mp isBlock]
        exact List.mem_cons_self

theorem endBefore_sound (chained : Chained tree db) {start : PassPosition} {done todo : List Block}
    (sound : (PassRun.working start done (block :: todo)).SoundUnless db processed) :
    (endBefore start done block).SoundUnless db processed := by
  have batch := sound start rfl
  cases done with
  | nil => exact PassRun.soundUnless_idle db processed
  | cons first rest =>
    intro other isStart
    cases isStart
    refine ⟨batch.1, ?_⟩
    intro current
    have facts := batch.2 current
    have isNext : block ∈ first :: rest ++ block :: todo := by simp
    have blockStored := facts.stored block isNext
    have low := chained.height_le_lastIndexed block blockStored
    refine ⟨by omega, ?_⟩
    intro lower stored above below
    have inBatch := facts.complete lower stored above block isNext (by omega)
    rcases List.mem_append.mp inBatch with isDone | isTodo
    · exact facts.processed lower isDone
    · have ordered := List.pairwise_append.mp facts.ordered
      have blockFirst : block.height ≤ lower.height := by
        rcases List.mem_cons.mp isTodo with isBlock | later
        · rw [isBlock]
        · exact (List.pairwise_cons.mp ordered.2.1).1 lower later
      -- only a block of height 0 is left, and then the block done first is it
      have firstLow := ordered.2.2 first List.mem_cons_self block List.mem_cons_self
      have firstStored := facts.stored first (by simp)
      have same := (parentOf_climbs tree).eq_of_height_eq chained.linked firstStored
        stored (by omega)
      rw [← same]
      exact facts.processed first List.mem_cons_self

end Phases

section Cursor

variable {column : PassCursorColumn} {state : Passes tree}

variable (invariant : PassInvariant column state)

include invariant

/-- A `SyncState` write of a pass that does not raise this pass's cursor. -/
theorem PassInvariant.setSync {sync : SyncState}
    (hash : sync.lastIndexedHash = state.ingest.db.syncState.lastIndexedHash)
    (tip : sync.lastIndexedHeight = state.ingest.db.syncState.lastIndexedHeight)
    (generation : sync.reorgGeneration = state.ingest.db.syncState.reorgGeneration)
    (cursor : ∀ height ∈ sync.cursor column,
      ∃ earlier ∈ state.ingest.db.syncState.cursor column, height ≤ earlier) :
    PassInvariant column (state.setSync sync) := by
  have unmoved : Unmoved column state (state.setSync sync) :=
    ⟨rfl, tip, generation, cursor, fun _ => id⟩
  exact invariant.unmoved unmoved (invariant.ingest.setSync hash tip) (unmoved.sound invariant.run)

/-- A save that goes through: the cursor the run began at covers what lies below the
run's range, and the run covers the range. -/
theorem PassInvariant.advance
    {start : PassPosition} {height : Nat} (saving : state.runs column = .saving start height)
    (generation : start.generation = state.ingest.db.syncState.reorgGeneration)
    (cursor : start.cursor = state.ingest.db.syncState.cursor column) :
    PassInvariant column ((state.setSync
        (state.ingest.db.syncState.setCursor (some height) column)).setRun column .idle) := by
  have run := invariant.run
  rw [saving] at run
  rcases (run start rfl).2 generation with ⟨low, covered⟩
  constructor
  · exact invariant.ingest.setSync (by simp) (by simp)
  · intro saved isCursor block stored _ below
    have isHeight : height = saved := by
      simpa [Passes.setRun, Passes.setSync] using isCursor
    subst isHeight
    by_cases above : start.next ≤ block.height
    · exact covered block stored above below
    · cases was : start.cursor with
      | none =>
        simp only [PassPosition.next, was] at above
        omega
      | some earlier =>
        simp only [PassPosition.next, was] at above
        exact invariant.skipsNothing earlier (cursor ▸ was) block stored (Nat.zero_le _) (by omega)
  · intro saved isCursor
    have isHeight : height = saved := by
      simpa [Passes.setRun, Passes.setSync] using isCursor
    subst isHeight
    simpa [Passes.setRun, Passes.setSync] using low
  · simp only [Passes.setRun, Function.update_self]
    exact PassRun.soundUnless_idle _ _

theorem PassInvariant.save {changed : PassCursorColumn} {start : PassPosition} {height : Nat}
    (saving : state.runs changed = .saving start height) :
    PassInvariant column ((state.setSync (advancePassCursor state.ingest.db.syncState changed start
        height)).setRun changed .idle) := by
  rcases advancePassCursor_cases state.ingest.db.syncState changed start height
    with same | ⟨saved, generation, cursor⟩
  · rw [same]
    exact invariant.setRun changed .idle fun _ => PassRun.soundUnless_idle _ _
  · rw [saved]
    by_cases own : changed = column
    · subst own
      exact invariant.advance saving generation cursor
    · have kept : PassInvariant column (state.setSync
          (state.ingest.db.syncState.setCursor (some height) changed)) := by
        apply invariant.setSync (by simp) (by simp) (by simp)
        rw [SyncState.cursor_setCursor_ne _ _ _ own]
        exact fun value isCursor => ⟨value, isCursor, le_rfl⟩
      exact kept.setRun changed .idle fun same => absurd same own

theorem PassInvariant.redecode (height : Nat) :
    PassInvariant column (state.setSync (redecodeFromHeight state.ingest.db.syncState height)) := by
  rcases redecodeFromHeight_cases state.ingest.db.syncState height
    with same | ⟨earlier, lower, wasCursor, below, lowered⟩
  · rw [same]
    exact invariant
  · rw [lowered]
    apply invariant.setSync (by simp) (by simp) (by simp)
    cases column with
    | lastDecodedHeight =>
      rw [SyncState.cursor_setCursor_self]
      exact fun value isCursor => ⟨earlier, wasCursor, below value isCursor⟩
    | lastSupplementedHeight =>
      exact fun value isCursor => ⟨value, isCursor, le_rfl⟩

theorem PassInvariant.addProcessed (changed : PassCursorColumn) (block : Block) :
    PassInvariant column (state.addProcessed changed block) := by
  have unmoved : Unmoved column state (state.addProcessed changed block) := by
    refine ⟨rfl, rfl, rfl, fun height isCursor => ⟨height, isCursor, le_rfl⟩, ?_⟩
    intro ID isProcessed
    simp only [Passes.addProcessed, Function.update_apply]
    split
    next same => exact List.mem_cons_of_mem _ (same ▸ isProcessed)
    · exact isProcessed
  exact invariant.unmoved unmoved invariant.ingest (unmoved.sound invariant.run)

end Cursor

/-! ## Steps of the crawler -/

section Crawling

variable {column : PassCursorColumn} {state : Passes tree}

/-- A new block lies above the tip, unless it is the first block of the index. -/
theorem Chained.new_above_tip {db : Db} (chained : Chained tree db) {height : Nat}
    (above : ∀ stored ∈ db.blocks, stored.height < height) :
    db.syncState.lastIndexedHeight < height ∨
      (db.blocks = [] ∧ db.syncState.lastIndexedHeight = 0) := by
  have tip := chained.tip
  cases last : db.blocks.getLast? with
  | none =>
    rw [last] at tip
    exact .inr ⟨List.getLast?_eq_none_iff.mp last, tip.2⟩
  | some top =>
    rw [last] at tip
    rw [tip.2]
    exact .inl (above top (List.mem_of_getLast? last))

/-- The new block is above everything the pass covers. -/
theorem covered_writeBlock {db : Db} {prep : PreparedBlock} {processed : List Nat}
    {bottom top : Nat} (covered : Covered db processed bottom top)
    (outside : bottom ≤ prep.height → top < prep.height) :
    Covered (writeBlock db prep) processed bottom top := by
  intro block stored above below
  rcases List.mem_append.mp stored with old | new
  · exact covered block old above below
  · rw [List.mem_singleton.mp new] at above below
    exact absurd below (Nat.not_le.mpr (outside above))

/-- The first block of the index at height 0 meets a null cursor and no save of it. -/
def FirstUnpassed (column : PassCursorColumn) (state : Passes tree) (height : Nat) : Prop :=
  height = 0 → state.ingest.db.syncState.cursor column = none ∧ (state.runs column).savesFrom
      ⟨none, state.ingest.db.syncState.reorgGeneration⟩ = false

theorem writeBlock_cursor (db : Db) (prep : PreparedBlock) (column : PassCursorColumn) :
    (writeBlock db prep).syncState.cursor column = db.syncState.cursor column := by
  cases column <;> rfl

section Write

variable {prep : PreparedBlock}

theorem PassInvariant.cursor_lt_new (invariant : PassInvariant column state)
    (above : ∀ stored ∈ state.ingest.db.blocks, stored.height < prep.height)
    (unpassed : FirstUnpassed column state prep.height) :
    ∀ height ∈ state.ingest.db.syncState.cursor column, height < prep.height := by
  intro height isCursor
  have low := invariant.cursor_le height isCursor
  rcases invariant.ingest.chained.new_above_tip above with higher | ⟨_, zero⟩
  · omega
  · rcases Nat.eq_zero_or_pos prep.height with isFirst | positive
    · rw [(unpassed isFirst).1] at isCursor
      cases isCursor
    · omega

theorem PassInvariant.run_write (invariant : PassInvariant column state)
    (above : ∀ stored ∈ state.ingest.db.blocks, stored.height < prep.height)
    (unpassed : FirstUnpassed column state prep.height) :
    (state.runs column).SoundUnless (writeBlock state.ingest.db prep) (state.processed column) := by
  have tip : state.ingest.db.syncState.lastIndexedHeight ≤ prep.height := by
    rcases invariant.ingest.chained.new_above_tip above with higher | ⟨_, zero⟩ <;> omega
  intro start isStart
  refine ⟨(invariant.run start isStart).1, ?_⟩
  intro current
  have sound := (invariant.run start isStart).2 current
  cases phase : state.runs column with
  | idle => trivial
  | ranging window =>
    rw [phase] at sound
    exact ⟨sound.1, sound.2.trans (Int.ofNat_le.mpr tip)⟩
  | working begun done todo =>
    rw [phase] at sound
    constructor
    · exact sound.ordered
    · exact fun block inBatch => List.mem_append_left _ (sound.stored block inBatch)
    · intro block stored bottom last inBatch below
      rcases List.mem_append.mp stored with old | new
      · exact sound.complete block old bottom last inBatch below
      · rw [List.mem_singleton.mp new] at below
        have lastLow := above last (sound.stored last inBatch)
        exact absurd below (Nat.not_le.mpr lastLow)
    · exact sound.processed
  | saving begun height =>
    rw [phase] at sound isStart
    cases isStart
    refine ⟨sound.1.trans tip, covered_writeBlock sound.2 ?_⟩
    intro bottom
    have low := sound.1
    rcases invariant.ingest.chained.new_above_tip above with higher | ⟨_, zero⟩
    · omega
    · rcases Nat.eq_zero_or_pos prep.height with isFirst | positive
      · -- a save over the null cursor, under way at the current generation
        have waits := (unpassed isFirst).2
        rcases start with ⟨cursor, generation⟩
        cases cursor with
        | some _ =>
          simp only [PassPosition.next] at bottom
          omega
        | none =>
          have same : generation = state.ingest.db.syncState.reorgGeneration := current
          simp [phase, PassRun.savesFrom, same] at waits
      · omega

theorem PassInvariant.write (invariant : PassInvariant column state)
    (above : ∀ stored ∈ state.ingest.db.blocks, stored.height < prep.height)
    (unpassed : FirstUnpassed column state prep.height) {after : Ingest tree}
    (db : after.db = writeBlock state.ingest.db prep) (ingest : IngestInvariant after) :
    PassInvariant column { state with ingest := after } := by
  have cursors := invariant.cursor_lt_new above unpassed
  constructor
  · exact ingest
  · intro height isCursor
    rw [db, writeBlock_cursor] at isCursor
    rw [db]
    exact covered_writeBlock (invariant.skipsNothing height isCursor)
      fun _ => cursors height isCursor
  · intro height isCursor
    rw [db, writeBlock_cursor] at isCursor
    rw [db]
    exact (cursors height isCursor).le
  · dsimp only
    rw [db]
    exact invariant.run_write above unpassed

end Write

/-- What a rollback does to a cursor, the generation and the blocks. -/
theorem rollback_position {db : Db} (wellFormed : db.WellFormed) (fromHeight : Nat)
    (column : PassCursorColumn) :
    (rollbackIndexedDataFromHeight db fromHeight).syncState.reorgGeneration =
        db.syncState.reorgGeneration + 1 ∧
      (∀ block ∈ (rollbackIndexedDataFromHeight db fromHeight).blocks, block ∈ db.blocks) ∧
      ((rollbackIndexedDataFromHeight db fromHeight).syncState.lastIndexedHeight =
          db.syncState.lastIndexedHeight ∧
        (rollbackIndexedDataFromHeight db fromHeight).syncState.cursor column =
          db.syncState.cursor column ∨
        (rollbackIndexedDataFromHeight db fromHeight).syncState.cursor column = clampCursor
            (rollbackIndexedDataFromHeight db fromHeight).syncState.lastIndexedHeight
            (db.syncState.cursor column)) := by
  have blocks := rollback_blocks fromHeight wellFormed
  have kept : ∀ block ∈ (rollbackIndexedDataFromHeight db fromHeight).blocks,
      block ∈ db.blocks := by
    rw [blocks]
    exact fun block stored => List.mem_of_mem_filter stored
  rcases rollback_cases db fromHeight with ⟨_, _, sync, _⟩ | ⟨_, _, sync, _⟩
  · rw [sync]
    exact ⟨rfl, kept, .inl ⟨rfl, by cases column <;> rfl⟩⟩
  · rw [sync]
    exact ⟨rfl, kept, .inr (by cases column <;> rfl)⟩

theorem PassInvariant.rolledBack (invariant : PassInvariant column state) {fromHeight : Nat}
    {after : Ingest tree} (db : after.db = rollbackIndexedDataFromHeight state.ingest.db fromHeight)
    (ingest : IngestInvariant after) :
    PassInvariant column { state with ingest := after } := by
  rcases rollback_position invariant.ingest.chained.wellFormed fromHeight column
    with ⟨generation, kept, cursor⟩
  rw [← db] at generation kept cursor
  have lower : ∀ height ∈ after.db.syncState.cursor column,
      height ≤ after.db.syncState.lastIndexedHeight ∧
        ∃ earlier ∈ state.ingest.db.syncState.cursor column, height ≤ earlier := by
    intro height isCursor
    rcases cursor with ⟨tip, same⟩ | clamped
    · rw [same] at isCursor
      rw [tip]
      exact ⟨invariant.cursor_le height isCursor, height, isCursor, le_rfl⟩
    · rw [clamped] at isCursor
      rcases Option.map_eq_some_iff.mp isCursor with ⟨earlier, wasCursor, isMin⟩
      exact ⟨by omega, earlier, wasCursor, by omega⟩
  constructor
  · exact ingest
  · intro height isCursor block stored above below
    rcases lower height isCursor with ⟨_, earlier, wasCursor, isLower⟩
    exact invariant.skipsNothing earlier wasCursor block (kept block stored) above
      (below.trans isLower)
  · exact fun height isCursor => (lower height isCursor).1
  · intro start isStart
    have older := (invariant.run start isStart).1
    rw [generation]
    refine ⟨by omega, ?_⟩
    intro current
    omega

/-- The condition holds for the block an event offers. -/
theorem GenesisUnpassed.genesisFirst {event : IngestEvent tree}
    (allowed : GenesisUnpassed column state (.ingest event)) :
    GenesisFirst state.ingest event := by
  intro offer isOffered isFirst
  rcases allowed offer isOffered isFirst with hasGenesis | ⟨empty, _⟩
  · exact .inr hasGenesis
  · exact .inl empty

theorem PassInvariant.ingestStep (config : CrawlerConfig) (invariant : PassInvariant column state)
    (event : IngestEvent tree) (allowed : GenesisUnpassed column state (.ingest event)) :
    PassInvariant column { state with ingest := Crawler.ingestStep config state.ingest event } := by
  have genesis := allowed.genesisFirst
  have ingest := ingestStep_invariant config state.ingest event invariant.ingest genesis
  cases ingestStep_effect config state.ingest event with
  | same db live catchUp =>
    have unmoved : Unmoved column state
        { state with ingest := Crawler.ingestStep config state.ingest event } := by
      refine ⟨?_, ?_, ?_, ?_, fun _ => id⟩
      all_goals dsimp only; rw [db]
      exact fun height isCursor => ⟨height, isCursor, le_rfl⟩
    exact invariant.unmoved unmoved ingest (unmoved.sound invariant.run)
  | rolledBack fromHeight db live catchUp => exact invariant.rolledBack db ingest
  | persisted block requireParent isOffered db anchor live catchUp =>
    rcases invariant.ingest.chained.persisted_cases block (genesis _ isOffered)
      (fun noParent => invariant.ingest.seeds (anchor noParent))
      with same | ⟨written, _, above⟩
    · have unmoved : Unmoved column state
          { state with ingest := Crawler.ingestStep config state.ingest event } := by
        refine ⟨?_, ?_, ?_, ?_, fun _ => id⟩
        all_goals dsimp only; rw [db, same]
        exact fun height isCursor => ⟨height, isCursor, le_rfl⟩
      exact invariant.unmoved unmoved ingest (unmoved.sound invariant.run)
    · have unpassed : FirstUnpassed column state block.prep.height := by
        intro isFirst
        rcases allowed _ isOffered isFirst with hasGenesis | ⟨_, waits⟩
        · rcases Option.isSome_iff_exists.mp hasGenesis with ⟨stored, found⟩
          have facts := Db.blockByHeight_mem found
          have lower := above stored facts.1
          omega
        · exact waits
      exact invariant.write above unpassed (db.trans written) ingest

end Crawling

/-! ## Runs -/

section Runs

variable (config : CrawlerConfig) (passConfig : PassCursorColumn → PassConfig)
variable (column : PassCursorColumn)

theorem passesStep_invariant (state : Passes tree) (event : PassesEvent tree)
    (invariant : PassInvariant column state) (allowed : GenesisUnpassed column state event) :
    PassInvariant column (passesStep config passConfig state event) := by
  cases event with
  | ingest event => exact invariant.ingestStep config event allowed
  | begin changed =>
    simp only [passesStep]
    split
    · exact invariant.setRun _ _ fun same => same ▸ beginRun_sound _ _ _ _
    · exact invariant
  | range changed =>
    simp only [passesStep]
    split
    next window phase =>
      apply invariant.setRun
      intro same
      subst same
      exact rangeRun_sound _ invariant.ingest.chained (phase ▸ invariant.run)
    · exact invariant
  | process changed =>
    simp only [passesStep]
    split
    next start done block todo phase =>
      apply (invariant.addProcessed changed block).setRun
      intro same
      subst same
      simp only [Passes.addProcessed, Function.update_self]
      exact processRun_sound invariant.ingest.chained (phase ▸ invariant.run)
    · exact invariant
  | endBefore =>
    simp only [passesStep]
    split
    next start done block todo phase =>
      apply invariant.setRun
      intro same
      subst same
      exact endBefore_sound invariant.ingest.chained (phase ▸ invariant.run)
    · exact invariant
  | save changed =>
    simp only [passesStep]
    split
    next start height phase => exact invariant.save phase
    · exact invariant
  | fail changed => exact invariant.setRun _ _ fun _ => PassRun.soundUnless_idle _ _
  | redecode height => exact invariant.redecode height

/-- In every run that stores genesis only before the pass has passed height 0, every
stored block at or below the cursor of the pass is processed. -/
theorem trailingPass_skips_nothing (events : List (PassesEvent tree))
    (unpassed : Along (passesStep config passConfig) (GenesisUnpassed column)
      (Passes.initial tree) events) :
    SkipsNothing column (run (passesStep config passConfig) (Passes.initial tree) events) :=
  (run_invariant (passesStep_invariant config passConfig column)
    (PassInvariant.initial column) events unpassed).skipsNothing

end Runs

def samplePass (_ : PassCursorColumn) : PassConfig where
  lagBlocks := 0
  batchSize := 25
  batchSize_pos := by decide

/-- One catch-up of the blocks 0 and 1. -/
def catchUpRun : List (PassesEvent sampleTree) := [
  .ingest .catchUp, .ingest (.finalizedHead 1),
  .ingest (.fetched 0 [sampleBlock 0, sampleBlock 1]), .ingest .persistNext,
  .ingest .persistNext]

/-- One whole pass over at most two blocks. -/
def passRun (column : PassCursorColumn) : List (PassesEvent sampleTree) :=
  [.begin column, .range column, .process column, .process column, .save column]

/-- The passes start before the crawler, and the first of them passes height 0. -/
def freshStartRun (column : PassCursorColumn) : List (PassesEvent sampleTree) :=
  passRun column ++ catchUpRun ++ passRun column

/-- A reindex from genesis leaves the cursor at 0. -/
def reindexRun (column : PassCursorColumn) : List (PassesEvent sampleTree) :=
  catchUpRun ++ passRun column ++ [.ingest (.reindex 0)] ++ catchUpRun ++ passRun column

/-- Either way genesis stays unprocessed below the cursor. -/
theorem trailingPass_skips_genesis :
    ¬ SkipsNothing .lastDecodedHeight
        (run (passesStep (sampleConfig 0) samplePass) (Passes.initial sampleTree)
          (freshStartRun .lastDecodedHeight)) ∧
      ¬ SkipsNothing .lastSupplementedHeight
        (run (passesStep (sampleConfig 0) samplePass) (Passes.initial sampleTree)
          (reindexRun .lastSupplementedHeight)) := by
  decide

/-- A pass that waits for the catch-up, fails once, loses its save to a reindex and
then walks the blocks again; the decode of block 1 is requested once more. -/
def trailingRun (column : PassCursorColumn) : List (PassesEvent sampleTree) :=
  catchUpRun ++ [.begin column, .range column, .process column, .fail column] ++
    [.begin column, .range column, .process column, .process column,
      .ingest (.reindex 1), .save column] ++ catchUpRun ++ passRun column ++
    [.redecode 1] ++ passRun column

theorem trailingPass_skips_nothing_trailing :
    SkipsNothing .lastDecodedHeight
      (run (passesStep (sampleConfig 0) samplePass) (Passes.initial sampleTree)
        (trailingRun .lastDecodedHeight)) :=
  trailingPass_skips_nothing (sampleConfig 0) samplePass .lastDecodedHeight
    (trailingRun .lastDecodedHeight) (by decide)

end Nightgate.Crawler
