import Nightgate.Crawler.Ingest
import Nightgate.Crawler.WellFormed
import Nightgate.Library.Ascent

/-!
# The index is one chain

The stored blocks, in the order they were stored, climb the chain one height at a
time, each on top of its parent, and `SyncState` names the last of them. Every
step of the crawler keeps this, except one: the block of height 0 is stored
without a parent check, so a head of height 0 on an index that starts mid-chain
stores genesis below the anchor.
-/

namespace Nightgate.Crawler

open Library

/-- Contiguous heights with one block each, every block on its parent, and
`SyncState` at the highest block. -/
structure IsOneChain (tree : BlockTree) (db : Db) : Prop where
  contiguous : ∀ low ∈ db.blocks, ∀ high ∈ db.blocks, ∀ height,
    low.height ≤ height → height ≤ high.height → ∃! block, block ∈ db.blocks ∧ block.height = height
  parents : ∀ lower ∈ db.blocks, ∀ upper ∈ db.blocks, upper.height = lower.height + 1 →
    tree.parentHash upper.hash = lower.hash ∧ upper.parentID = some lower.ID
  tip : (db.blocks = [] ∧ db.syncState.lastIndexedHash = none) ∨
    ∃ top ∈ db.blocks, (∀ block ∈ db.blocks, block.height ≤ top.height) ∧
      db.syncState.lastIndexedHeight = top.height ∧
      db.syncState.lastIndexedHash = some top.hash

/-- A block stored on top of its parent. -/
def ParentOf (tree : BlockTree) (lower upper : Block) : Prop :=
  tree.parentHash upper.hash = lower.hash ∧ upper.parentID = some lower.ID ∧
    upper.height = lower.height + 1

theorem parentOf_climbs (tree : BlockTree) : Climbs Block.height (ParentOf tree) :=
  fun _ _ parent => parent.2.2

/-- What `SyncState` says about the last stored block. -/
def SyncState.AtTip (sync : SyncState) : Option Block → Prop
  | none => sync.lastIndexedHash = none ∧ sync.lastIndexedHeight = 0
  | some top => sync.lastIndexedHash = some top.hash ∧ sync.lastIndexedHeight = top.height

/-- The stored blocks are linked in storage order. -/
structure Chained (tree : BlockTree) (db : Db) : Prop where
  wellFormed : db.WellFormed
  linked : db.blocks.IsChain (ParentOf tree)
  heights : ∀ block ∈ db.blocks, block.height = tree.number block.hash
  tip : db.syncState.AtTip db.blocks.getLast?

theorem Chained.empty (tree : BlockTree) : Chained tree Db.empty where
  wellFormed := Db.empty_wellFormed
  linked := List.isChain_nil
  heights := by
    intro block membership
    cases membership
  tip := ⟨rfl, rfl⟩

theorem Chained.isOneChain {tree : BlockTree} {db : Db} (chained : Chained tree db) :
    IsOneChain tree db where
  contiguous := by
    intro low lowMem high highMem height above below
    rcases (parentOf_climbs tree).exists_height chained.linked lowMem highMem above below
      with ⟨block, stored, same⟩
    refine ⟨block, ⟨stored, same⟩, ?_⟩
    intro other isOther
    exact (parentOf_climbs tree).eq_of_height_eq chained.linked isOther.1 stored
      (isOther.2.trans same.symm)
  parents := by
    intro lower lowerMem upper upperMem succ
    have parent := (parentOf_climbs tree).linked_of_succ chained.linked lowerMem upperMem succ
    exact ⟨parent.1, parent.2.1⟩
  tip := by
    have tip := chained.tip
    cases last : db.blocks.getLast? with
    | none =>
      rw [last] at tip
      exact .inl ⟨List.getLast?_eq_none_iff.mp last, tip.1⟩
    | some top =>
      rw [last] at tip
      exact .inr ⟨top, List.mem_of_getLast? last,
        fun block stored => (parentOf_climbs tree).height_le_last chained.linked last stored,
        tip.2, tip.1⟩

/-- An index without a tip holds no block. -/
theorem Chained.blocks_ne_nil {tree : BlockTree} {db : Db} (chained : Chained tree db)
    {hash : Hash} (known : db.syncState.lastIndexedHash = some hash) : db.blocks ≠ [] := by
  intro empty
  have tip := chained.tip
  rw [empty] at tip
  rw [tip.1] at known
  cases known

/-! ## Writes -/

section Writes

variable {tree : BlockTree} {db : Db}

variable (chained : Chained tree db)

include chained

variable {parent : Block}

/-- A stored parent of a block whose height is still free is the tip. -/
theorem Chained.parent_is_tip (stored : parent ∈ db.blocks)
    (free : ∀ block ∈ db.blocks, block.height ≠ parent.height + 1) :
    db.blocks.getLast? = some parent := by
  cases last : db.blocks.getLast? with
  | none =>
    rw [List.getLast?_eq_none_iff.mp last] at stored
    cases stored
  | some top =>
    have climbs := parentOf_climbs tree
    have topStored := List.mem_of_getLast? last
    have below := climbs.height_le_last chained.linked last stored
    have same : parent.height = top.height := by
      by_contra differ
      have gap : parent.height + 1 ≤ top.height := by omega
      rcases climbs.exists_height chained.linked stored topStored (Nat.le_succ _) gap
        with ⟨block, membership, isNext⟩
      exact free block membership isNext
    rw [climbs.eq_of_height_eq chained.linked stored topStored same]

section Block

variable (block : NodeBlock tree)

/-- A stored parent is one height below. -/
theorem Chained.parent_height (positive : 0 < block.prep.height)
    (found : db.blockByHash block.prep.parentHash = some parent) :
    parent.height + 1 = block.prep.height := by
  have parentFacts := Db.blockByHash_mem found
  rw [chained.heights parent parentFacts.1, parentFacts.2, block.parent_eq, block.height_eq]
  apply tree.child_number
  rw [← block.height_eq]
  exact positive

/-- A block with its parent stored and its height free extends the chain. -/
theorem Chained.writeBlock_child (positive : 0 < block.prep.height)
    (free : ∀ stored ∈ db.blocks, stored.height ≠ block.prep.height)
    (found : db.blockByHash block.prep.parentHash = some parent) :
    Chained tree (writeBlock db block.prep) := by
  have parentFacts := Db.blockByHash_mem found
  have numberEq := chained.parent_height block positive found
  have isTip : db.blocks.getLast? = some parent := by
    apply chained.parent_is_tip parentFacts.1
    intro stored membership
    rw [numberEq]
    exact free stored membership
  constructor
  · exact writeBlock_wellFormed block.prep chained.wellFormed
  · apply Climbs.append_last chained.linked isTip
    refine ⟨?_, ?_, numberEq.symm⟩
    · rw [← block.parent_eq, parentFacts.2]
    · rw [found]
      rfl
  · intro stored membership
    rcases List.mem_append.mp membership with old | new
    · exact chained.heights stored old
    · rw [List.mem_singleton.mp new]
      exact block.height_eq
  · simp [writeBlock, SyncState.AtTip]

/-- The first block of an empty index starts the chain. -/
theorem Chained.writeBlock_first
    (empty : db.blocks = []) : Chained tree (writeBlock db block.prep) where
  wellFormed := writeBlock_wellFormed block.prep chained.wellFormed
  linked := by
    simp [writeBlock, empty]
  heights := by
    intro stored membership
    simp only [writeBlock, empty, List.nil_append, List.mem_singleton] at membership
    subst membership
    exact block.height_eq
  tip := by
    simp [writeBlock, SyncState.AtTip]

/-- The parent of a block with a free height is below it, and so is every other
stored block. -/
theorem Chained.below_child (positive : 0 < block.prep.height)
    (free : ∀ stored ∈ db.blocks, stored.height ≠ block.prep.height)
    (found : db.blockByHash block.prep.parentHash = some parent) :
    ∀ stored ∈ db.blocks, stored.height < block.prep.height := by
  have numberEq := chained.parent_height block positive found
  have isTip := chained.parent_is_tip (Db.blockByHash_mem found).1
    (fun stored membership => numberEq ▸ free stored membership)
  intro stored membership
  have below := (parentOf_climbs tree).height_le_last chained.linked isTip membership
  omega

/-- Storing a block does nothing or puts it on top of the index, unless it is genesis
over other blocks or a block without parent check on a non-empty index. -/
theorem Chained.persisted_cases {requireParent : Bool}
    (genesis : block.prep.height = 0 → db.blocks = [] ∨ (db.blockByHeight 0).isSome)
    (anchor : requireParent = false → db.blocks = []) :
    persisted db block.prep requireParent = db ∨
      (persisted db block.prep requireParent = writeBlock db block.prep ∧
        Chained tree (writeBlock db block.prep) ∧
        ∀ stored ∈ db.blocks, stored.height < block.prep.height) := by
  unfold Crawler.persisted
  cases done : persistFromNode db block.prep requireParent with
  | error _ => exact .inl rfl
  | ok after =>
    rcases persistFromNode_cases done with same | ⟨written, unique, hasParent⟩
    · exact .inl same
    · apply Or.inr
      refine ⟨written, ?_⟩
      by_cases empty : db.blocks = []
      · exact ⟨chained.writeBlock_first block empty, by simp [empty]⟩
      · have required : requireParent = true := by
          cases requireParent with
          | true => rfl
          | false => exact absurd (anchor rfl) empty
        have positive : 0 < block.prep.height := by
          rw [Nat.pos_iff_ne_zero]
          intro zero
          rcases genesis zero with isEmpty | hasGenesis
          · exact empty isEmpty
          · rcases Option.isSome_iff_exists.mp hasGenesis with ⟨first, found⟩
            have facts := Db.blockByHeight_mem found
            exact (unique first facts.1).2 (facts.2.trans zero.symm)
        rcases hasParent required positive with ⟨parent, found⟩
        have free : ∀ stored ∈ db.blocks, stored.height ≠ block.prep.height :=
          fun stored membership => (unique stored membership).2
        exact ⟨chained.writeBlock_child block positive free found,
          chained.below_child block positive free found⟩

theorem Chained.persisted {requireParent : Bool}
    (genesis : block.prep.height = 0 → db.blocks = [] ∨ (db.blockByHeight 0).isSome)
    (anchor : requireParent = false → db.blocks = []) :
    Chained tree (Crawler.persisted db block.prep requireParent) := by
  rcases chained.persisted_cases block genesis anchor with same | ⟨written, extended, _⟩
  · rw [same]
    exact chained
  · rw [written]
    exact extended

end Block

/-- A rollback to any height keeps the chain. -/
theorem Chained.rollback (fromHeight : Nat) :
    Chained tree (rollbackIndexedDataFromHeight db fromHeight) := by
  have climbs := parentOf_climbs tree
  have blocks := rollback_blocks fromHeight chained.wellFormed
  constructor
  · exact rollback_wellFormed fromHeight chained.wellFormed
  · rw [blocks]
    exact climbs.filter_linked chained.linked fromHeight
  · intro block membership
    rw [blocks] at membership
    exact chained.heights block (List.mem_of_mem_filter membership)
  · rcases rollback_cases db fromHeight with ⟨_, same, sync, _⟩ | ⟨_, same, sync, _⟩
    · rw [sync, same.blocks]
      exact chained.tip
    · have linked := climbs.filter_linked chained.linked fromHeight
      have highest := selectForkBlock_highest
        (db.blocks.filter fun block => block.height < fromHeight) fromHeight
      rw [blocks, sync, deleteFrom_blocks fromHeight chained.wellFormed]
      simp only [List.filter_filter, Bool.and_self] at highest
      cases fork : selectForkBlock
          (db.blocks.filter fun block => block.height < fromHeight) fromHeight with
      | none =>
        rw [fork] at highest
        rw [show db.blocks.filter (fun block => block.height < fromHeight) = [] from highest]
        exact ⟨rfl, rfl⟩
      | some top =>
        rw [fork] at highest
        rcases highest with ⟨stored, above⟩
        cases last : (db.blocks.filter fun block =>
            block.height < fromHeight).getLast? with
        | none =>
          rw [List.getLast?_eq_none_iff.mp last] at stored
          cases stored
        | some final =>
          have finalStored := List.mem_of_getLast? last
          have same : final = top := by
            apply climbs.eq_of_height_eq linked finalStored stored
            exact le_antisymm (above final finalStored) (climbs.height_le_last linked last stored)
          rw [same]
          exact ⟨rfl, rfl⟩

end Writes

/-! ## Steps -/

section Steps

variable {tree : BlockTree} (config : CrawlerConfig)

/-- The block an event offers to the database, and whether its parent is required. -/
def offered (state : Ingest tree) : IngestEvent tree → Option (NodeBlock tree × Bool)
  | .anchor block =>
    match state.catchUp with
    | .seeding _ => some (block, false)
    | _ => none
  | .persistNext =>
    match state.catchUp with
    | .pipeline run =>
      match run.queue.head?.bind Batch.data with
      | some (fetched :: _) => some (fetched.block, true)
      | _ => none
    | _ => none
  | .livePersist block =>
    match state.live with
    | .processing _ => some (block, true)
    | _ => none
  | _ => none

/-- The block of height 0 is offered only to an index that is empty or holds a block
of that height. -/
def GenesisFirst (state : Ingest tree) (event : IngestEvent tree) : Prop :=
  ∀ offer ∈ offered state event, offer.1.prep.height = 0 →
    state.db.blocks = [] ∨ (state.db.blockByHeight 0).isSome

instance (state : Ingest tree) (event : IngestEvent tree) :
    Decidable (GenesisFirst state event) :=
  inferInstanceAs (Decidable (∀ offer ∈ _, _))

/-- The live phases that are only reached over a non-empty index. -/
def Live.OverIndex : Live → Prop
  | .checking _ => True
  | .processing _ => True
  | _ => False

/-- The catch-up phase that is only reached over an empty index. -/
def CatchUp.Seeds : CatchUp tree → Prop
  | .seeding _ => True
  | _ => False

/-- What a step can do to the database and to those phases. -/
inductive IngestEffect (before : Ingest tree) (event : IngestEvent tree)
    (after : Ingest tree) : Prop
  | same (db : after.db = before.db)
      (live : after.live.OverIndex →
        before.live.OverIndex ∨ before.db.syncState.lastIndexedHash.isSome)
      (catchUp : after.catchUp.Seeds → before.catchUp.Seeds ∨ before.db.blocks = [])
  | rolledBack (fromHeight : Nat)
      (db : after.db = rollbackIndexedDataFromHeight before.db fromHeight)
      (live : ¬ after.live.OverIndex) (catchUp : after.catchUp.Seeds → before.catchUp.Seeds)
  | persisted (block : NodeBlock tree) (requireParent : Bool)
      (isOffered : offered before event = some (block, requireParent))
      (db : after.db = Crawler.persisted before.db block.prep requireParent)
      (anchor : requireParent = false → before.catchUp.Seeds)
      (live : after.live.OverIndex → before.live.OverIndex)
      (catchUp : after.catchUp.Seeds → before.live.OverIndex ∧ before.catchUp.Seeds)

/-- A step that leaves the database alone and enters neither phase. -/
structure Quiet (before after : Ingest tree) : Prop where
  db : after.db = before.db
  live : after.live.OverIndex → before.live.OverIndex
  catchUp : after.catchUp.Seeds → before.catchUp.Seeds

theorem Quiet.refl (state : Ingest tree) : Quiet state state := ⟨rfl, id, id⟩

theorem Quiet.effect {before after : Ingest tree} (quiet : Quiet before after)
    (event : IngestEvent tree) : IngestEffect before event after :=
  .same quiet.db (fun isOver => .inl (quiet.live isOver)) (fun seeds => .inl (quiet.catchUp seeds))

theorem startCatchUp_quiet (state : Ingest tree) : Quiet state (startCatchUp state) := by
  unfold startCatchUp
  cases state.catchUp with
  | idle =>
    dsimp only
    split
    · exact Quiet.refl state
    · exact ⟨rfl, id, False.elim⟩
  | reading | seeding | pipeline => exact Quiet.refl state

theorem failBatch_quiet (state : Ingest tree) (run : Pipeline tree) (batch : Batch tree)
    (queue : List (Batch tree)) (transient : Bool) :
    Quiet state (failBatch state run batch queue transient) := by
  simp only [failBatch]
  split
  · exact ⟨rfl, id, False.elim⟩
  · split
    · exact ⟨rfl, id, False.elim⟩
    · exact ⟨rfl, id, False.elim⟩

theorem failLive_quiet (state : Ingest tree) (height : Nat) (transient : Bool) :
    Quiet state (failLive state height transient) :=
  ⟨rfl, False.elim, id⟩

theorem startPipeline_not_seeds (startHeight tipHeight : Nat) :
    ¬ (startPipeline config startHeight tipHeight : CatchUp tree).Seeds := by
  unfold startPipeline
  split <;> exact id

theorem advancePipeline_not_seeds (run : Pipeline tree) (height : Nat)
    (batch : Batch tree) (rest : List (FetchedBlock tree)) (queue : List (Batch tree)) :
    ¬ (advancePipeline config run height batch rest queue).Seeds := by
  unfold advancePipeline
  cases rest with
  | cons fetched rest => exact id
  | nil =>
    dsimp only
    split <;> exact id

/-- Seeding starts only over an empty index. -/
theorem catchUpFrom_seeds {db : Db} {startHeight tipHeight : Nat}
    (seeds : (catchUpFrom config db startHeight tipHeight : CatchUp tree).Seeds) :
    db.blocks = [] := by
  unfold catchUpFrom at seeds
  split at seeds
  · split at seeds
    · exact absurd seeds (startPipeline_not_seeds config _ _)
    next empty => exact not_not.mp empty
  · exact absurd seeds (startPipeline_not_seeds config _ _)

section State

variable (state : Ingest tree)

theorem persistNext_effect :
    IngestEffect state .persistNext (persistNext config state) := by
  unfold persistNext
  cases task : state.catchUp with
  | idle | reading | seeding => exact (Quiet.refl state).effect _
  | pipeline run =>
    dsimp only
    cases queued : run.queue with
    | nil => exact .same rfl .inl False.elim
    | cons batch queue =>
      dsimp only
      cases data : batch.data with
      | none => exact (Quiet.refl state).effect _
      | some blocks =>
        cases blocks with
        | nil => exact (Quiet.refl state).effect _
        | cons fetched rest =>
          have notSeeds := advancePipeline_not_seeds config run
            fetched.block.prep.height batch rest queue
          dsimp only
          split
          · exact .same rfl .inl fun seeds => absurd seeds notSeeds
          · split
            · exact (failBatch_quiet state run batch queue false).effect _
            · refine .persisted fetched.block true ?_ rfl ?_ id ?_
              · simp [offered, task, queued, data]
              · nofun
              · exact fun seeds => absurd seeds notSeeds

theorem persistAnchor_effect {tipHeight : Nat}
    (task : state.catchUp = .seeding tipHeight) (block : NodeBlock tree) :
    IngestEffect state (.anchor block) (persistAnchor config state tipHeight block) := by
  have notSeeds : ¬ (startPipeline config config.startHeight tipHeight : CatchUp tree).Seeds :=
    startPipeline_not_seeds config config.startHeight tipHeight
  unfold persistAnchor
  split
  · exact (Quiet.refl state).effect _
  · split
    · exact .same rfl .inl fun seeds => absurd seeds notSeeds
    · split
      · exact .same rfl .inl False.elim
      · refine .persisted block false ?_ rfl ?_ id ?_
        · simp [offered, task]
        · intro _
          rw [task]
          trivial
        · exact fun seeds => absurd seeds notSeeds

theorem persistLive_effect {height : Nat}
    (task : state.live = .processing height) (block : NodeBlock tree) :
    IngestEffect state (.livePersist block) (persistLive state height block) := by
  unfold persistLive
  split
  · exact (Quiet.refl state).effect _
  · split
    · exact (failLive_quiet state height false).effect _
    · by_cases known : state.db.blockExists block.prep.blockHash
      · exact .same (if_pos known) False.elim .inl
      · refine .persisted block true ?_ (if_neg known) ?_ False.elim ?_
        · simp [offered, task]
        · nofun
        · intro seeds
          rw [task]
          exact ⟨trivial, seeds⟩

theorem liveRead_effect (header : BlockHeader)
    (event : IngestEvent tree) : IngestEffect state event (liveRead state header) := by
  unfold liveRead
  split
  · exact .same rfl False.elim .inl
  · split
    · have started := startCatchUp_quiet { state with live := .draining }
      exact .same started.db (fun isOver => (started.live isOver).elim)
        (fun seeds => .inl (started.catchUp seeds))
    next known =>
      rcases not_or.mp known with ⟨hasTip, _⟩
      refine .same rfl (fun _ => .inr ?_) .inl
      simpa [Option.isSome_iff_ne_none, Option.isNone_iff_eq_none] using hasTip

theorem ingestStep_effect (event : IngestEvent tree) :
    IngestEffect state event (ingestStep config state event) := by
  have quiet := (Quiet.refl state).effect event
  cases event with
  | catchUp => exact (startCatchUp_quiet state).effect _
  | finalizedHead tipHeight =>
    simp only [ingestStep]
    split
    · exact .same rfl .inl fun seeds => .inr (catchUpFrom_seeds config seeds)
    · exact quiet
  | anchor block =>
    simp only [ingestStep]
    split
    next tipHeight task => exact persistAnchor_effect config state task block
    · exact quiet
  | fetched index blocks =>
    simp only [ingestStep]
    split
    · exact .same rfl .inl False.elim
    · exact quiet
  | persistNext => exact persistNext_effect config state
  | batchFailed transient =>
    simp only [ingestStep]
    split
    · split
      · exact (failBatch_quiet _ _ _ _ _).effect _
      · exact quiet
    · exact quiet
  | catchUpFailed => exact .same rfl .inl False.elim
  | liveHead header =>
    simp only [ingestStep]
    split
    · exact .same rfl False.elim .inl
    · exact .same rfl .inl .inl
    · exact quiet
  | liveRead =>
    simp only [ingestStep]
    split
    · exact liveRead_effect state _ _
    · exact quiet
  | liveCheck view node =>
    simp only [ingestStep]
    split
    next header task =>
      have isOver : state.live.OverIndex := by
        rw [task]
        trivial
      split
      · exact (failLive_quiet _ _ _).effect _
      · exact .same rfl (fun _ => .inl isOver) .inl
      · exact .same rfl False.elim .inl
    · exact quiet
  | liveRollback =>
    simp only [ingestStep]
    split
    next info _ =>
      have started := startCatchUp_quiet { state with
        db := rollbackIndexedDataFromHeight state.db info.forkHeight
        live := .draining }
      exact .rolledBack info.forkHeight started.db (fun isOver => started.live isOver)
        started.catchUp
    · exact quiet
  | livePersist block =>
    simp only [ingestStep]
    split
    next height task => exact persistLive_effect state task block
    · exact quiet
  | liveFailed transient =>
    simp only [ingestStep]
    split
    · exact quiet
    · exact quiet
    · exact (failLive_quiet _ _ _).effect _
  | liveDrain =>
    simp only [ingestStep]
    split
    · split
      · exact .same rfl False.elim .inl
      · have started := startCatchUp_quiet { state with pendingHeights := [] }
        exact .same started.db (fun isOver => .inl (started.live isOver))
          (fun seeds => .inl (started.catchUp seeds))
    · exact quiet
  | stop => exact .same rfl False.elim False.elim
  | reindex fromHeight =>
    simp only [ingestStep]
    split
    next _ idleLive =>
      refine .rolledBack fromHeight rfl ?_ id
      rw [idleLive]
      exact id
    · exact quiet

end State

/-! ## Runs -/

/-- What every reachable state of the crawler satisfies. -/
structure IngestInvariant (state : Ingest tree) : Prop where
  chained : Chained tree state.db
  overIndex : state.live.OverIndex → state.db.blocks ≠ []
  seeds : state.catchUp.Seeds → state.db.blocks = []

theorem IngestInvariant.initial (tree : BlockTree) :
    IngestInvariant (Ingest.initial tree) where
  chained := Chained.empty tree
  overIndex := False.elim
  seeds := False.elim

/-- Storing never empties the index. -/
theorem persisted_blocks_ne_nil {db : Db} (prep : PreparedBlock) (requireParent : Bool)
    (some : db.blocks ≠ []) : (persisted db prep requireParent).blocks ≠ [] := by
  unfold persisted
  cases done : persistFromNode db prep requireParent with
  | error _ => exact some
  | ok after =>
    rcases persistFromNode_cases done with same | ⟨written, _, _⟩
    · exact same ▸ some
    · subst written
      simp [writeBlock]

/-- Every event keeps the invariant. -/
theorem ingestStep_invariant (state : Ingest tree) (event : IngestEvent tree)
    (invariant : IngestInvariant state) (genesis : GenesisFirst state event) :
    IngestInvariant (ingestStep config state event) := by
  cases ingestStep_effect config state event with
  | same db live catchUp =>
    constructor
    · exact db ▸ invariant.chained
    · intro isOver
      rw [db]
      rcases live isOver with wasOver | hasTip
      · exact invariant.overIndex wasOver
      · rcases Option.isSome_iff_exists.mp hasTip with ⟨hash, isTip⟩
        exact invariant.chained.blocks_ne_nil isTip
    · intro seeds
      rw [db]
      rcases catchUp seeds with seeded | empty
      · exact invariant.seeds seeded
      · exact empty
  | rolledBack fromHeight db live catchUp =>
    constructor
    · exact db ▸ invariant.chained.rollback fromHeight
    · exact fun isOver => absurd isOver live
    · intro seeds
      rw [db, rollback_blocks fromHeight invariant.chained.wellFormed,
        invariant.seeds (catchUp seeds)]
      rfl
  | persisted block requireParent isOffered db anchor live catchUp =>
    constructor
    · rw [db]
      exact invariant.chained.persisted block (genesis _ isOffered)
        fun noParent => invariant.seeds (anchor noParent)
    · intro isOver
      rw [db]
      exact persisted_blocks_ne_nil _ _ (invariant.overIndex (live isOver))
    · intro seeds
      rcases catchUp seeds with ⟨wasOver, seeded⟩
      exact absurd (invariant.seeds seeded) (invariant.overIndex wasOver)

/-- In every run that stores genesis only into an index without lower blocks, every
state reached holds one chain. -/
theorem index_isOneChain (events : List (IngestEvent tree))
    (genesis : Along (ingestStep config) GenesisFirst (Ingest.initial tree) events) :
    IsOneChain tree (run (ingestStep config) (Ingest.initial tree) events).db :=
  (run_invariant (ingestStep_invariant config) (IngestInvariant.initial tree) events
    genesis).chained.isOneChain

end Steps

/-- A chain whose block of height `n` has the hash `100 + n`. -/
def sampleTree : BlockTree where
  number := fun hash => hash - 100
  parentHash := fun hash => hash - 1
  child_number := by
    intro hash positive
    omega

/-- The block of a height, without token events. -/
def sampleBlock (height : Nat) : NodeBlock sampleTree where
  prep := {
    blockHash := 100 + height
    height := height
    parentHash := 99 + height
    extrinsics := [.none] }
  height_eq := by simp [sampleTree]
  parent_eq := by simp [sampleTree]

def sampleConfig (startHeight : Nat) : CrawlerConfig where
  startHeight := startHeight
  fetchConcurrency := 2
  rpcBatchSize := 2
  batchSize := 10

/-- Reads that find nothing. -/
def silentNode : NodeView where
  getBlockHash := fun _ => none
  getHeader := fun _ => none

/-- Catch-up seeds the anchor 5 and stores block 6. -/
def seededRun : List (IngestEvent sampleTree) := [
  .catchUp, .finalizedHead 6, .anchor (sampleBlock 5), .fetched 0 [sampleBlock 6],
  .persistNext]

/-- The index of `seededRun` as the reorg check of the next head reads it. -/
def seededIndex : Db :=
  (run (ingestStep (sampleConfig 6)) (Ingest.initial sampleTree) seededRun).db

/-- A resyncing node then announces its finalized head: genesis. -/
def genesisHeadRun : List (IngestEvent sampleTree) :=
  seededRun ++ [
    .liveHead ⟨0, 99⟩, .liveRead, .liveCheck seededIndex silentNode,
    .livePersist (sampleBlock 0)]

/-- Genesis lands below the anchor: the stored heights are 5, 6 and 0. -/
theorem index_not_isOneChain :
    ¬ IsOneChain sampleTree
      (run (ingestStep (sampleConfig 6)) (Ingest.initial sampleTree) genesisHeadRun).db := by
  intro oneChain
  have blocks : (run (ingestStep (sampleConfig 6)) (Ingest.initial sampleTree)
      genesisHeadRun).db.blocks =
      [⟨0, 105, 5, none⟩, ⟨2, 106, 6, some 0⟩, ⟨4, 100, 0, none⟩] := by decide
  rcases oneChain.contiguous ⟨4, 100, 0, none⟩ (by rw [blocks]; decide)
      ⟨0, 105, 5, none⟩ (by rw [blocks]; decide) 3 (by decide) (by decide)
    with ⟨block, ⟨stored, height⟩, _⟩
  have missing : ∀ block ∈ [⟨0, 105, 5, none⟩, ⟨2, 106, 6, some 0⟩, ⟨4, 100, 0, none⟩],
      Block.height block ≠ 3 := by decide
  rw [blocks] at stored
  exact missing block stored height

/-- A catch-up from genesis, a head on top, a duplicate of it and a fork. -/
def forkedRun : List (IngestEvent sampleTree) := [
  .catchUp, .finalizedHead 1, .fetched 0 [sampleBlock 0, sampleBlock 1], .persistNext,
  .persistNext, .liveHead ⟨2, 101⟩, .liveRead, .liveCheck Db.empty silentNode,
  .livePersist (sampleBlock 2), .liveDrain, .liveHead ⟨2, 101⟩, .liveRead,
  .liveCheck Db.empty silentNode, .livePersist (sampleBlock 2), .liveDrain, .catchUp,
  .finalizedHead 2, .stop, .reindex 1]

theorem index_isOneChain_forked :
    IsOneChain sampleTree
      (run (ingestStep (sampleConfig 0)) (Ingest.initial sampleTree) forkedRun).db :=
  index_isOneChain (sampleConfig 0) forkedRun (by decide)

end Nightgate.Crawler
