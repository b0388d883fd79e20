import Nightgate.Crawler.OneChain
import Nightgate.Library.Ancestry

/-!
# The fork point

A detected reorg rolls back from one above the highest stored block that is on the chain of the
node. The walk back never looks at the block of height 0, so a fork right above genesis removes
genesis too.
-/

namespace Nightgate.Crawler

open Library

/-- The chain below a block. -/
def OnChain (tree : BlockTree) (top hash : Hash) : Prop :=
  Ancestor tree.parentHash tree.number top hash

theorem BlockTree.stepsDown (tree : BlockTree) : StepsDown tree.parentHash tree.number :=
  tree.child_number

/-- The header of a block. -/
def BlockTree.header (tree : BlockTree) (hash : Hash) : BlockHeader :=
  ⟨tree.number hash, tree.parentHash hash⟩

/-- The node answers from the chain below `top`, or not at all. -/
structure NodeView.Serves (node : NodeView) (tree : BlockTree) (top : Hash) : Prop where
  headers : ∀ hash parentHash, node.getHeader hash = some parentHash →
    parentHash = tree.parentHash hash
  hashes : ∀ height hash, node.getBlockHash height = some hash →
    OnChain tree top hash ∧ tree.number hash = height

/-- The highest stored block on the chain of the node. -/
structure HighestCommon (tree : BlockTree) (db : Db) (top : Hash) (ancestor : Block) : Prop where
  stored : ancestor ∈ db.blocks
  common : OnChain tree top ancestor.hash
  highest : ∀ block ∈ db.blocks, OnChain tree top block.hash → block.height ≤ ancestor.height

/-- Rolling back to the fork removes the stored blocks that are not on the node's chain, from one
above the highest common ancestor on, and no other. -/
structure RollsBackToFork (tree : BlockTree) (db : Db) (top : Hash) (ancestor : Block)
    (forkHeight : Nat) : Prop where
  height : forkHeight = ancestor.height + 1
  kept : ∀ block ∈ db.blocks, block ∈ (rollbackIndexedDataFromHeight db forkHeight).blocks ↔
    OnChain tree top block.hash

section Chain

variable {tree : BlockTree} {db : Db} {top head : Hash} {ancestor : Block}

theorem Chained.onChain_below (chained : Chained tree db) {low high : Block}
    (lowStored : low ∈ db.blocks) (highStored : high ∈ db.blocks)
    (common : OnChain tree top high.hash) (below : low.height ≤ high.height) :
    OnChain tree top low.hash := by
  have climbs := parentOf_climbs tree
  -- Down from the higher block, one stored parent at a time.
  obtain ⟨gap, isGap⟩ := Nat.exists_eq_add_of_le below
  induction gap generalizing high with
  | zero =>
    have same := climbs.eq_of_height_eq chained.linked highStored lowStored isGap
    exact same ▸ common
  | succ gap ih =>
    obtain ⟨middle, middleStored, isMiddle⟩ := climbs.exists_height chained.linked lowStored
      highStored (Nat.le_add_right low.height gap) (by omega)
    have link := climbs.linked_of_succ chained.linked middleStored highStored (by omega)
    have middleCommon : OnChain tree top middle.hash := by
      rw [← link.1]
      apply common.parent_of tree.stepsDown
      rw [← chained.heights high highStored]
      omega
    exact ih middleStored middleCommon (by omega) isMiddle

/-- A stored block on the node's chain, found by its height. -/
theorem Chained.hash_eq (chained : Chained tree db) {block : Block} (stored : block ∈ db.blocks)
    (common : OnChain tree top block.hash) {hash : Hash} (onChain : OnChain tree top hash)
    (same : tree.number hash = block.height) : block.hash = hash :=
  common.eq_of_level_eq tree.stepsDown onChain ((chained.heights block stored).symm.trans same.symm)

theorem HighestCommon.rollsBack (chained : Chained tree db)
    (highest : HighestCommon tree db top ancestor) :
    RollsBackToFork tree db top ancestor (ancestor.height + 1) where
  height := rfl
  kept := by
    intro block stored
    rw [rollback_blocks _ chained.wellFormed, List.mem_filter]
    constructor
    · rintro ⟨_, below⟩
      rw [decide_eq_true_eq, Nat.lt_succ_iff] at below
      exact chained.onChain_below stored highest.stored highest.common below
    · intro common
      refine ⟨stored, ?_⟩
      rw [decide_eq_true_eq, Nat.lt_succ_iff]
      exact highest.highest block stored common

/-- The walk finds the highest stored block of the chain from its height down, above genesis. -/
theorem findForkPointFrom_ok {node : NodeView} (serves : node.Serves tree top) {number : Nat}
    {hash : Hash} {height forkHeight : Nat} (onChain : OnChain tree top hash)
    (isHeight : tree.number hash = height)
    (found : findForkPointFrom db node number hash height = .ok forkHeight) :
    (∃ common, OnChain tree top common ∧ db.blockExists common = true ∧
        0 < tree.number common ∧ tree.number common ≤ height ∧
        forkHeight = tree.number common + 1 ∧
        ∀ other, OnChain tree top other → tree.number common < tree.number other →
          tree.number other ≤ height → db.blockExists other = false) ∨
      (forkHeight = 0 ∧ ∀ other, OnChain tree top other → 0 < tree.number other →
        tree.number other ≤ height → db.blockExists other = false) := by
  induction height generalizing hash with
  | zero =>
    rw [findForkPointFrom, Except.ok.injEq] at found
    exact Or.inr ⟨found.symm, fun other _ above below => by omega⟩
  | succ height ih =>
    rw [findForkPointFrom] at found
    split at found
    next stored =>
      rw [Except.ok.injEq] at found
      exact Or.inl ⟨hash, onChain, stored, by omega, by omega, by omega,
        fun other _ above below => by omega⟩
    next notStored =>
      rw [Bool.not_eq_true] at notStored
      split at found
      · cases found
      next parentHash isParent =>
        split at found
        · cases found
        · have isParentHash := serves.headers _ _ isParent
          subst isParentHash
          have positive : 0 < tree.number hash := by omega
          have lower := tree.child_number hash positive
          -- Nothing stored at this height, and the rest of the walk says so further down.
          have here : ∀ other, OnChain tree top other → tree.number other = height + 1 →
              db.blockExists other = false := by
            intro other otherOnChain same
            have isHash : other = hash :=
              otherOnChain.eq_of_level_eq tree.stepsDown onChain (same.trans isHeight.symm)
            exact isHash ▸ notStored
          cases ih (onChain.parent_of tree.stepsDown positive) (by omega) found with
          | inl foundBelow =>
            obtain ⟨common, commonOnChain, stored, above, below, isFork, unstored⟩ := foundBelow
            refine Or.inl ⟨common, commonOnChain, stored, above, by omega, isFork, ?_⟩
            intro other otherOnChain higher within
            rcases Nat.lt_or_ge (tree.number other) (height + 1) with deeper | same
            · exact unstored other otherOnChain higher (by omega)
            · exact here other otherOnChain (by omega)
          | inr nothing =>
            refine Or.inr ⟨nothing.1, ?_⟩
            intro other otherOnChain above within
            rcases Nat.lt_or_ge (tree.number other) (height + 1) with deeper | same
            · exact nothing.2 other otherOnChain above (by omega)
            · exact here other otherOnChain (by omega)

/-- What a detected reorg comes from: the block next to the stored parent of the head, or the walk
back from the parent of the head, which is not stored at its height then. -/
theorem checkForReorg_cases {node : NodeView} {header : BlockHeader} {info : ReorgInfo}
    (chained : Chained tree db) (detected : checkForReorg db node header = .ok (some info)) :
    (∃ parent block canonical, parent ∈ db.blocks ∧ parent.height + 1 = header.number ∧
        parent.hash = header.parentHash ∧ block ∈ db.blocks ∧ block.height = header.number ∧
        node.getBlockHash header.number = some canonical ∧ block.hash ≠ canonical ∧
        info.forkHeight = header.number) ∨
      (0 < header.number ∧ findForkPoint db node header = .ok info.forkHeight ∧
        ∀ block ∈ db.blocks, block.height + 1 = header.number →
          block.hash ≠ header.parentHash) := by
  have searched : ∀ {tipHash : Hash}, forkedFrom db node header tipHash = .ok (some info) →
        findForkPoint db node header = .ok info.forkHeight := by
    intro tipHash forked
    rw [forkedFrom] at forked
    cases isFork : findForkPoint db node header with
    | error failure =>
      rw [isFork] at forked
      cases forked
    | ok forkHeight =>
      rw [isFork] at forked
      have isInfo := Option.some.inj (Except.ok.inj forked)
      rw [← isInfo]
  rw [checkForReorg] at detected
  split at detected
  · cases detected
  next tipHash isTip =>
    split at detected
    · cases detected
    next notTip =>
      split at detected
      · cases detected
      next noGap =>
        split at detected
        next atOrBelow =>
          split at detected
          · cases detected
          next notGenesis =>
            split at detected
            next sameParent =>
              cases isParent : db.blockByHeight (header.number - 1) with
              | none =>
                rw [isParent] at sameParent
                cases sameParent
              | some parent =>
                rw [isParent] at sameParent
                have parentFacts := Db.blockByHeight_mem isParent
                split at detected
                · cases detected
                next block isBlock =>
                  have blockFacts := Db.blockByHeight_mem isBlock
                  split at detected
                  · cases detected
                  next canonical isCanonical =>
                    split at detected
                    · cases detected
                    next differs =>
                      cases detected
                      exact Or.inl ⟨parent, block, canonical, parentFacts.1, by omega,
                        Option.some.inj sameParent, blockFacts.1, blockFacts.2, isCanonical,
                        differs, rfl⟩
            next otherParent =>
              refine Or.inr ⟨Nat.pos_of_ne_zero notGenesis, searched detected, ?_⟩
              intro block stored isBelow isParent
              have byHeight : db.blockByHeight (header.number - 1) = some block := by
                cases isBlock : db.blockByHeight (header.number - 1) with
                | none =>
                  have missing := List.find?_eq_none.mp isBlock block stored
                  simp only [decide_eq_true_eq] at missing
                  omega
                | some found =>
                  have facts := Db.blockByHeight_mem isBlock
                  have same := (parentOf_climbs tree).eq_of_height_eq chained.linked facts.1
                    stored (by omega)
                  rw [same]
              rw [byHeight] at otherParent
              exact otherParent (congrArg some isParent)
        next aboveTip =>
          refine Or.inr ⟨by omega, searched detected, ?_⟩
          intro block stored isBelow isParent
          -- Right above the tip the parent would be the tip.
          have tip := chained.tip
          cases last : db.blocks.getLast? with
          | none =>
            rw [List.getLast?_eq_none_iff.mp last] at stored
            cases stored
          | some final =>
            rw [last] at tip
            have tipHeight := tip.2
            have same := (parentOf_climbs tree).eq_of_height_eq chained.linked stored
              (List.mem_of_getLast? last) (by omega)
            rw [tip.1, Option.some.injEq] at isTip
            rw [same] at isParent
            exact notTip (isParent.symm.trans isTip)

/-! ## The rollback -/

theorem not_exists_of_common (highest : HighestCommon tree db top ancestor)
    (missing : db.blockExists ancestor.hash = false) : False := by
  have stored : db.blockExists ancestor.hash = true :=
    Db.blockExists_iff.mpr ⟨ancestor, highest.stored, rfl⟩
  rw [missing] at stored
  cases stored

/-- A detected reorg rolls back to the fork exactly when the highest common ancestor is below the
head, and above genesis unless the head is the first block after it. -/
theorem rollsBackToFork_iff (chained : Chained tree db) {node : NodeView}
    (serves : node.Serves tree top) (onChain : OnChain tree top head)
    (highest : HighestCommon tree db top ancestor) {info : ReorgInfo}
    (detected : checkForReorg db node (tree.header head) = .ok (some info)) :
    RollsBackToFork tree db top ancestor info.forkHeight ↔
      ancestor.height < tree.number head ∧ (0 < ancestor.height ∨ tree.number head = 1) := by
  have ancestorHeight := chained.heights ancestor highest.stored
  cases checkForReorg_cases chained detected with
  | inl besides =>
    obtain ⟨parent, block, canonical, parentStored, isBelow, isParent, blockStored, isBlock,
      isCanonical, differs, isFork⟩ := besides
    dsimp only [BlockTree.header] at isBelow isParent isBlock isCanonical isFork
    have parentCommon : OnChain tree top parent.hash := by
      rw [isParent]
      exact onChain.parent_of tree.stepsDown (by omega)
    have atLeast := highest.highest parent parentStored parentCommon
    -- A higher common ancestor would make the block at the head's height canonical.
    have atMost : ancestor.height < tree.number head := by
      by_contra reaches
      have blockCommon : OnChain tree top block.hash :=
        chained.onChain_below blockStored highest.stored highest.common (by omega)
      have canonicalOn := serves.hashes _ _ isCanonical
      exact differs (chained.hash_eq blockStored blockCommon canonicalOn.1
        (canonicalOn.2.trans isBlock.symm))
    have isAncestor : info.forkHeight = ancestor.height + 1 := by omega
    rw [isAncestor]
    exact iff_of_true (highest.rollsBack chained) ⟨atMost, by omega⟩
  | inr walked =>
    obtain ⟨positive, found, notParent⟩ := walked
    dsimp only [BlockTree.header] at positive notParent
    rw [findForkPoint] at found
    have parentOn := onChain.parent_of tree.stepsDown positive
    have parentNumber := tree.child_number head positive
    have isHeight : tree.number (tree.parentHash head) = tree.number head - 1 := by omega
    cases findForkPointFrom_ok serves parentOn isHeight found with
    | inl foundBelow =>
      obtain ⟨common, commonOn, stored, above, below, isFork, unstored⟩ := foundBelow
      obtain ⟨block, blockStored, isCommon⟩ := Db.blockExists_iff.mp stored
      have blockHeight := chained.heights block blockStored
      rw [isCommon] at blockHeight
      have atLeast := highest.highest block blockStored (isCommon ▸ commonOn)
      constructor
      · intro rollsBack
        have := rollsBack.height
        exact ⟨by omega, Or.inl (by omega)⟩
      · rintro ⟨belowHead, _⟩
        have isAncestor : info.forkHeight = ancestor.height + 1 := by
          by_contra differs
          have higher : tree.number common < tree.number ancestor.hash := by omega
          exact not_exists_of_common highest
            (unstored ancestor.hash highest.common higher (by omega))
        rw [isAncestor]
        exact highest.rollsBack chained
    | inr nothing =>
      obtain ⟨isFork, unstored⟩ := nothing
      apply iff_of_false
      · intro rollsBack
        have := rollsBack.height
        omega
      · rintro ⟨belowHead, positiveAncestor | firstHead⟩
        · exact not_exists_of_common highest
            (unstored ancestor.hash highest.common (by omega) (by omega))
        · -- The common ancestor would be genesis, the stored parent of the head.
          have isGenesis : ancestor.hash = tree.parentHash head :=
            chained.hash_eq highest.stored highest.common parentOn (by omega)
          exact notParent ancestor highest.stored (by omega) isGenesis

end Chain

/-- The hashes from 100 on are a chain, and those from 200 on another that leaves it above the
block of height `fork`. -/
def branchTree (fork : Nat) : BlockTree where
  number := fun hash => hash % 100
  parentHash := fun hash => if hash = 201 + fork ∧ fork < 99 then 100 + fork else hash - 1
  child_number := by
    intro hash positive
    split
    next branches =>
      obtain ⟨rfl, small⟩ := branches
      omega
    · omega

theorem branchTree_parentHash {fork hash : Nat} (onMain : hash ≤ 200) :
    (branchTree fork).parentHash hash = hash - 1 := by
  have apart : ¬ (hash = 201 + fork ∧ fork < 99) := by omega
  exact if_neg apart

/-- The blocks 100, 101 and 102 are stored. -/
def shortIndex : Db where
  blocks := [⟨0, 100, 0, none⟩, ⟨1, 101, 1, some 0⟩, ⟨2, 102, 2, some 1⟩]
  transactions := []
  utxos := []
  nightBalances := ∅
  syncState := { SyncState.initial with lastIndexedHeight := 2, lastIndexedHash := some 102 }
  nextID := 3

/-- The node serves every header, and no hash by height. -/
def headerNode (tree : BlockTree) : NodeView where
  getBlockHash := fun _ => none
  getHeader := fun hash => some (tree.parentHash hash)

theorem headerNode_serves (tree : BlockTree) (top : Hash) : (headerNode tree).Serves tree top where
  headers := fun _ _ answered => (Option.some.inj answered).symm
  hashes := fun _ _ answered => nomatch answered

theorem shortIndex_chained (fork : Nat) : Chained (branchTree fork) shortIndex where
  wellFormed := by constructor <;> decide
  linked := by
    rw [shortIndex, List.isChain_cons_cons, List.isChain_cons_cons]
    exact ⟨⟨branchTree_parentHash (by decide), rfl, rfl⟩,
      ⟨branchTree_parentHash (by decide), rfl, rfl⟩, List.isChain_singleton _⟩
  heights := by simp [shortIndex, branchTree]
  tip := ⟨rfl, rfl⟩

/-- The highest block on both chains is the one the branch leaves. -/
theorem branch_highestCommon {fork : Nat} (low : fork < 2) {ancestor : Block}
    (isAncestor : shortIndex.blockByHeight fork = some ancestor) :
    HighestCommon (branchTree fork) shortIndex 203 ancestor := by
  interval_cases fork
  · cases isAncestor
    refine ⟨by decide, ⟨3, by decide, by decide⟩, ?_⟩
    rintro block stored ⟨steps, within, reached⟩
    have atMost : steps ≤ 3 := within
    interval_cases steps <;> revert stored reached <;> revert block <;> decide
  · cases isAncestor
    refine ⟨by decide, ⟨2, by decide, by decide⟩, ?_⟩
    rintro block stored ⟨steps, within, reached⟩
    have atMost : steps ≤ 3 := within
    interval_cases steps <;> revert stored reached <;> revert block <;> decide

/-- The branch leaves the stored chain above height 1. -/
theorem rollsBackToFork_above_one :
    RollsBackToFork (branchTree 1) shortIndex 203 ⟨1, 101, 1, some 0⟩ 2 ↔
      1 < (branchTree 1).number 203 ∧ (0 < 1 ∨ (branchTree 1).number 203 = 1) :=
  rollsBackToFork_iff (shortIndex_chained 1) (headerNode_serves _ 203) (Ancestor.refl 203)
    (branch_highestCommon (by decide) rfl)
    (rfl : checkForReorg shortIndex (headerNode (branchTree 1)) ((branchTree 1).header 203) =
      .ok (some ⟨2, 102, 202⟩))

/-- The branch leaves the stored chain at genesis, and the rollback removes genesis. -/
theorem genesis_rolled_back :
    checkForReorg shortIndex (headerNode (branchTree 0)) ((branchTree 0).header 203) =
        .ok (some ⟨0, 102, 202⟩) ∧
      HighestCommon (branchTree 0) shortIndex 203 ⟨0, 100, 0, none⟩ ∧
      (rollbackIndexedDataFromHeight shortIndex 0).blocks = [] ∧
      ¬ RollsBackToFork (branchTree 0) shortIndex 203 ⟨0, 100, 0, none⟩ 0 := by
  refine ⟨rfl, branch_highestCommon (by decide) rfl, rfl, fun rollsBack => ?_⟩
  exact absurd rollsBack.height (by decide)

end Nightgate.Crawler
