import Nightgate.Crawler.BlockDeltas

/-!
# Well-formed index databases

Row identifiers are distinct and every reference between the tables resolves.
Indexing a block and rolling back keep this.
-/

namespace Nightgate.Crawler

/-- Distinct identifiers and referential integrity. -/
structure Db.WellFormed (db : Db) : Prop where
  blocks : ∀ block ∈ db.blocks, block.ID < db.nextID
  blocksDistinct : (db.blocks.map Block.ID).Nodup
  transactions : ∀ transaction ∈ db.transactions, transaction.ID < db.nextID ∧
    transaction.blockID ∈ db.blocks.map Block.ID
  transactionsDistinct : (db.transactions.map Transaction.ID).Nodup
  utxos : ∀ utxo ∈ db.utxos, utxo.ID < db.nextID ∧
    utxo.createdAtTransactionID ∈ db.transactions.map Transaction.ID ∧
    ∀ txID, utxo.spentAtTransactionID = some txID → txID ∈ db.transactions.map Transaction.ID
  utxosDistinct : (db.utxos.map UnshieldedUtxo.ID).Nodup

theorem Db.empty_wellFormed : Db.empty.WellFormed where
  blocks := by simp [Db.empty]
  blocksDistinct := by simp [Db.empty]
  transactions := by simp [Db.empty]
  transactionsDistinct := by simp [Db.empty]
  utxos := by simp [Db.empty]
  utxosDistinct := by simp [Db.empty]

/-- The rows and deltas a block collects on this database. -/
abbrev newRows (db : Db) (prep : PreparedBlock) : Collected :=
  collectBlock db.nextID (db.nextID + 1) prep

/-- The outputs and deltas once the spends of a block are applied. -/
abbrev spentRows (db : Db) (prep : PreparedBlock) :
    List UnshieldedUtxo × BalanceDeltas :=
  applySpends (db.utxos ++ (newRows db prep).utxoRows) (newRows db prep).balanceDeltas
    (newRows db prep).spendRequests

section WriteBlock

variable {db : Db} (prep : PreparedBlock)

theorem newRows_sound (db : Db) (prep : PreparedBlock) :
    (newRows db prep).Sound db.nextID (db.nextID + 1)
    (newRows db prep).txRows :=
  collectBlock_sound db.nextID (db.nextID + 1) prep

theorem lt_of_newTx {txID : Nat}
    (new : txID ∈ (newRows db prep).txRows.map Transaction.ID) : db.nextID < txID := by
  obtain ⟨transaction, membership, rfl⟩ := List.mem_map.mp new
  exact ((newRows_sound db prep).txRows transaction membership).2.1

variable (wf : db.WellFormed)

include wf

theorem lt_of_oldTx {txID : Nat}
    (old : txID ∈ db.transactions.map Transaction.ID) : txID < db.nextID := by
  obtain ⟨transaction, membership, rfl⟩ := List.mem_map.mp old
  exact (wf.transactions transaction membership).1

private theorem allUtxos_distinct :
    ((db.utxos ++ (newRows db prep).utxoRows).map UnshieldedUtxo.ID).Nodup := by
  rw [List.map_append, List.nodup_append]
  refine ⟨wf.utxosDistinct, (newRows_sound db prep).utxoDistinct, ?_⟩
  intro oldID old newID new
  obtain ⟨utxo, membership, rfl⟩ := List.mem_map.mp old
  obtain ⟨row, added, rfl⟩ := List.mem_map.mp new
  have below := (wf.utxos utxo membership).1
  have above := ((newRows_sound db prep).utxoRows row added).1
  omega

private theorem allUtxos_unspent :
    ∀ utxo ∈ db.utxos ++ (newRows db prep).utxoRows, ∀ request ∈ (newRows db prep).spendRequests,
        utxo.spentAtTransactionID ≠ some request.txID := by
  intro utxo membership request new spent
  rcases List.mem_append.mp membership with old | added
  · have below := lt_of_oldTx wf ((wf.utxos utxo old).2.2 _ spent)
    have above := lt_of_newTx prep ((newRows_sound db prep).spends request new)
    omega
  · have unspent := ((newRows_sound db prep).utxoRows utxo added).2.2.2
    rw [unspent] at spent
    cases spent

/-- The spend loop of a block on a well-formed database. -/
theorem spentRows_applied :
    SpendsApplied (newRows db prep).spendRequests
      (db.utxos ++ (newRows db prep).utxoRows) (newRows db prep).balanceDeltas
      (spentRows db prep) :=
  applySpends_applied (allUtxos_distinct prep wf) _ (allUtxos_unspent prep wf)

/-- Where an output row of the new table comes from. -/
theorem mem_spentRows {utxo : UnshieldedUtxo} (membership : utxo ∈ (spentRows db prep).1) :
    ∃ before ∈ db.utxos ++ (newRows db prep).utxoRows,
      SpentBy (newRows db prep).spendRequests before utxo := by
  obtain ⟨spend, rows, spentBy⟩ := (spentRows_applied prep wf).rows
  rw [rows] at membership
  obtain ⟨before, stored, rfl⟩ := List.mem_map.mp membership
  exact ⟨before, stored, spentBy before stored⟩

theorem writeBlock_wellFormed : (writeBlock db prep).WellFormed := by
  have sound := newRows_sound db prep
  have grows : db.nextID + 1 ≤ (newRows db prep).nextID := sound.fresh
  constructor
  · intro block membership
    rcases List.mem_append.mp membership with old | new
    · have below := wf.blocks block old
      exact below.trans_le (by simpa [writeBlock] using (Nat.le_succ _).trans grows)
    · obtain rfl := List.mem_singleton.mp new
      simpa [writeBlock] using grows
  · have fresh : db.nextID ∉ db.blocks.map Block.ID := by
      intro membership
      obtain ⟨block, stored, same⟩ := List.mem_map.mp membership
      have below := wf.blocks block stored
      omega
    simpa [writeBlock, List.nodup_append] using ⟨wf.blocksDistinct, fun block stored same =>
      fresh (List.mem_map.mpr ⟨block, stored, same⟩)⟩
  · intro transaction membership
    rcases List.mem_append.mp membership with old | new
    · obtain ⟨below, block⟩ := wf.transactions transaction old
      refine ⟨below.trans_le ((Nat.le_succ _).trans grows), ?_⟩
      rw [writeBlock, List.map_append]
      exact List.mem_append_left _ block
    · obtain ⟨block, _, below⟩ := sound.txRows transaction new
      exact ⟨below, by simp [writeBlock, block]⟩
  · show ((db.transactions ++ (newRows db prep).txRows).map Transaction.ID).Nodup
    rw [List.map_append, List.nodup_append]
    refine ⟨wf.transactionsDistinct, sound.txDistinct, ?_⟩
    intro oldID old newID new
    have below := lt_of_oldTx wf old
    have above := lt_of_newTx prep new
    omega
  · intro utxo membership
    show utxo.ID < (newRows db prep).nextID ∧ utxo.createdAtTransactionID ∈
        (db.transactions ++ (newRows db prep).txRows).map Transaction.ID ∧
      ∀ txID, utxo.spentAtTransactionID = some txID →
        txID ∈ (db.transactions ++ (newRows db prep).txRows).map Transaction.ID
    rw [List.map_append]
    obtain ⟨before, stored, spentBy⟩ := mem_spentRows prep wf membership
    have source : before.ID < (newRows db prep).nextID ∧
        (before.createdAtTransactionID ∈ db.transactions.map Transaction.ID ∨
          before.createdAtTransactionID ∈ (newRows db prep).txRows.map Transaction.ID) ∧
        ∀ txID, before.spentAtTransactionID = some txID →
          txID ∈ db.transactions.map Transaction.ID := by
      rcases List.mem_append.mp stored with old | new
      · obtain ⟨below, created, spent⟩ := wf.utxos before old
        exact ⟨below.trans_le ((Nat.le_succ _).trans grows), .inl created, spent⟩
      · obtain ⟨_, below, created, unspent⟩ := sound.utxoRows before new
        exact ⟨below, .inr created, by simp [unspent]⟩
    obtain ⟨below, created, spent⟩ := source
    rcases spentBy with rfl | ⟨_, request, known, _, _, rfl⟩
    · exact ⟨below, List.mem_append.mpr created, fun txID isSpent =>
        List.mem_append_left _ (spent txID isSpent)⟩
    · refine ⟨below, List.mem_append.mpr created, ?_⟩
      intro other isSpent
      obtain rfl := Option.some.inj isSpent
      exact List.mem_append_right _ (sound.spends request known)
  · exact (spentRows_applied prep wf).nodup (allUtxos_distinct prep wf)

end WriteBlock

/-! ## Rollback -/

section DeleteFrom

variable {db : Db} (fromHeight : Nat)

/-- The identifiers of the blocks a rollback removes. -/
abbrev removedBlocks (db : Db) (fromHeight : Nat) : List Nat :=
  (db.blocks.filter fun block => fromHeight ≤ block.height).map Block.ID

/-- The identifiers of the transactions a rollback removes. -/
abbrev removedTxs (db : Db) (fromHeight : Nat) : List Nat :=
  (db.transactions.filter fun transaction =>
    transaction.blockID ∈ removedBlocks db fromHeight).map Transaction.ID

/-- A stored block is removed exactly when it is high enough. -/
theorem mem_removedBlocks (wf : db.WellFormed) {block : Block} (stored : block ∈ db.blocks) :
    block.ID ∈ removedBlocks db fromHeight ↔ fromHeight ≤ block.height := by
  simp only [List.mem_map, List.mem_filter, decide_eq_true_eq]
  constructor
  · rintro ⟨other, ⟨otherStored, high⟩, same⟩
    obtain rfl := List.inj_on_of_nodup_map wf.blocksDistinct otherStored stored same
    exact high
  · exact fun high => ⟨block, ⟨stored, high⟩, rfl⟩

theorem mem_removedTxs (wf : db.WellFormed) {transaction : Transaction}
    (stored : transaction ∈ db.transactions) :
    transaction.ID ∈ removedTxs db fromHeight ↔
      transaction.blockID ∈ removedBlocks db fromHeight := by
  simp only [removedTxs, List.mem_map (f := Transaction.ID), List.mem_filter,
    decide_eq_true_eq]
  constructor
  · rintro ⟨other, ⟨otherStored, removed⟩, same⟩
    obtain rfl := List.inj_on_of_nodup_map wf.transactionsDistinct otherStored stored same
    exact removed
  · exact fun removed => ⟨transaction, ⟨stored, removed⟩, rfl⟩

/-- The blocks left are those below the height. -/
theorem deleteFrom_blocks (wf : db.WellFormed) :
    (deleteFrom db fromHeight).blocks =
      db.blocks.filter fun block => block.height < fromHeight := by
  apply List.filter_congr
  intro block stored
  simpa [Nat.not_le] using not_congr (mem_removedBlocks fromHeight wf stored)

/-- A transaction is kept when no removed transaction has its identifier. -/
theorem mem_keptTxIDs (wf : db.WellFormed) {txID : Nat} :
    txID ∈ (deleteFrom db fromHeight).transactions.map Transaction.ID ↔
      txID ∈ db.transactions.map Transaction.ID ∧ txID ∉ removedTxs db fromHeight := by
  constructor
  · intro kept
    obtain ⟨transaction, membership, rfl⟩ := List.mem_map.mp kept
    obtain ⟨stored, outside⟩ := List.mem_filter.mp membership
    exact ⟨List.mem_map_of_mem stored,
      fun removed => of_decide_eq_true outside ((mem_removedTxs fromHeight wf stored).mp removed)⟩
  · rintro ⟨known, outside⟩
    obtain ⟨transaction, stored, rfl⟩ := List.mem_map.mp known
    refine List.mem_map_of_mem (List.mem_filter.mpr ⟨stored, decide_eq_true ?_⟩)
    exact fun removed => outside ((mem_removedTxs fromHeight wf stored).mpr removed)

theorem mem_utxosWithout {txIDs : List Nat} {utxos : List UnshieldedUtxo} {after : UnshieldedUtxo} :
    after ∈ utxosWithout txIDs utxos ↔ ∃ before ∈ utxos, before.createdAtTransactionID ∉ txIDs ∧
        after = if before.spentAtTransactionID.any (· ∈ txIDs) then
          { before with spentAtTransactionID := none } else before := by
  simp only [utxosWithout, List.mem_map, List.mem_filter, decide_eq_true_eq, and_assoc,
    eq_comm (a := after)]

theorem deleteFrom_wellFormed (wf : db.WellFormed) :
    (deleteFrom db fromHeight).WellFormed := by
  constructor
  · intro block membership
    exact wf.blocks block (List.mem_of_mem_filter membership)
  · exact (List.filter_sublist.map _).nodup wf.blocksDistinct
  · intro transaction membership
    obtain ⟨stored, outside⟩ := List.mem_filter.mp membership
    obtain ⟨below, block⟩ := wf.transactions transaction stored
    obtain ⟨row, rowStored, same⟩ := List.mem_map.mp block
    refine ⟨below, List.mem_map.mpr ⟨row, List.mem_filter.mpr ⟨rowStored, ?_⟩, same⟩⟩
    rw [same]
    exact outside
  · exact (List.filter_sublist.map _).nodup wf.transactionsDistinct
  · intro utxo membership
    obtain ⟨before, stored, outside, rfl⟩ := mem_utxosWithout.mp membership
    obtain ⟨below, created, spent⟩ := wf.utxos before stored
    split
    · exact ⟨below, (mem_keptTxIDs fromHeight wf).mpr ⟨created, outside⟩, by simp⟩
    next kept =>
      refine ⟨below, (mem_keptTxIDs fromHeight wf).mpr ⟨created, outside⟩, ?_⟩
      intro txID isSpent
      refine (mem_keptTxIDs fromHeight wf).mpr ⟨spent txID isSpent, ?_⟩
      simpa [isSpent] using kept
  · have sameID : (UnshieldedUtxo.ID ∘ fun utxo : UnshieldedUtxo =>
        if utxo.spentAtTransactionID.any (· ∈ removedTxs db fromHeight) then
          { utxo with spentAtTransactionID := none } else utxo) = UnshieldedUtxo.ID := by
      funext utxo
      simp only [Function.comp_apply]
      split <;> rfl
    show ((utxosWithout (removedTxs db fromHeight) db.utxos).map UnshieldedUtxo.ID).Nodup
    rw [utxosWithout, List.map_map, sameID]
    exact (List.filter_sublist.map _).nodup wf.utxosDistinct

end DeleteFrom

theorem recomputeNightBalance_lookup (db : Db) (address other : Address) :
    (recomputeNightBalance db address).nightBalances.lookup other =
      if other = address then
        recomputedBalance (computeNightBalance db address) (db.nightBalances.lookup address)
      else db.nightBalances.lookup other := by
  unfold recomputeNightBalance
  by_cases same : other = address
  · subst same
    cases recomputedBalance (computeNightBalance db other) (db.nightBalances.lookup other) <;> simp
  · cases recomputedBalance (computeNightBalance db address)
      (db.nightBalances.lookup address) <;> simp [same]

/-- Two databases whose tables besides `NightBalances` are the same. -/
structure SameTables (before after : Db) : Prop where
  blocks : after.blocks = before.blocks
  transactions : after.transactions = before.transactions
  utxos : after.utxos = before.utxos
  nextID : after.nextID = before.nextID

theorem SameTables.compute {before after : Db} (same : SameTables before after)
    (address : Address) :
    computeNightBalance after address = computeNightBalance before address := by
  unfold computeNightBalance activityHeights nightUtxosOf sentTxsOf
  rw [same.blocks, same.transactions, same.utxos]

theorem SameTables.wellFormed {before after : Db} (same : SameTables before after)
    (wf : before.WellFormed) : after.WellFormed where
  blocks := by rw [same.blocks, same.nextID]; exact wf.blocks
  blocksDistinct := by rw [same.blocks]; exact wf.blocksDistinct
  transactions := by
    rw [same.transactions, same.blocks, same.nextID]; exact wf.transactions
  transactionsDistinct := by rw [same.transactions]; exact wf.transactionsDistinct
  utxos := by rw [same.utxos, same.transactions, same.nextID]; exact wf.utxos
  utxosDistinct := by rw [same.utxos]; exact wf.utxosDistinct

theorem recomputeAll (addresses : List Address) (db : Db) :
    SameTables db (addresses.foldl recomputeNightBalance db) ∧
      (addresses.foldl recomputeNightBalance db).syncState = db.syncState ∧
      (addresses.Nodup → ∀ address,
        (addresses.foldl recomputeNightBalance db).nightBalances.lookup address =
          if address ∈ addresses then
            recomputedBalance (computeNightBalance db address) (db.nightBalances.lookup address)
          else db.nightBalances.lookup address) := by
  induction addresses generalizing db with
  | nil => exact ⟨⟨rfl, rfl, rfl, rfl⟩, rfl, by simp⟩
  | cons head addresses ih =>
    obtain ⟨same, sync, lookups⟩ := ih (recomputeNightBalance db head)
    have step : SameTables db (recomputeNightBalance db head) := ⟨rfl, rfl, rfl, rfl⟩
    refine ⟨⟨same.blocks, same.transactions, same.utxos, same.nextID⟩, sync, ?_⟩
    intro distinct address
    obtain ⟨absent, distinct⟩ := List.nodup_cons.mp distinct
    rw [List.foldl_cons, lookups distinct, recomputeNightBalance_lookup, step.compute]
    by_cases isHead : address = head
    · subst isHead
      simp [absent]
    · simp [isHead]

/-- The addresses a rollback recomputes. -/
abbrev rollbackAddresses (db : Db) (fromHeight : Nat) : List Address :=
  affectedAddresses db (db.transactions.filter fun transaction =>
    transaction.blockID ∈ removedBlocks db fromHeight)

/-- What a rollback can do: nothing but a new generation when no block is high
enough, else the deletion, the move to the fork block and the recomputed rows. -/
theorem rollback_cases (db : Db) (fromHeight : Nat) :
    ((∀ block ∈ db.blocks, block.height < fromHeight) ∧
      SameTables db (rollbackIndexedDataFromHeight db fromHeight) ∧
      (rollbackIndexedDataFromHeight db fromHeight).syncState = bumpReorgGeneration db.syncState ∧
      (rollbackIndexedDataFromHeight db fromHeight).nightBalances = db.nightBalances) ∨
    ((∃ block ∈ db.blocks, fromHeight ≤ block.height) ∧ SameTables (deleteFrom db fromHeight)
        (rollbackIndexedDataFromHeight db fromHeight) ∧
      (rollbackIndexedDataFromHeight db fromHeight).syncState =
        (bumpReorgGeneration db.syncState).rolledBackTo
          (selectForkBlock (deleteFrom db fromHeight).blocks fromHeight) ∧
      ∀ address, (rollbackIndexedDataFromHeight db fromHeight).nightBalances.lookup address =
          if address ∈ rollbackAddresses db fromHeight then
            recomputedBalance (computeNightBalance (deleteFrom db fromHeight) address)
              (db.nightBalances.lookup address)
          else db.nightBalances.lookup address) := by
  simp only [rollbackIndexedDataFromHeight]
  split
  next none =>
    apply Or.inl
    refine ⟨?_, ⟨rfl, rfl, rfl, rfl⟩, rfl, rfl⟩
    intro block stored
    have low := List.filter_eq_nil_iff.mp none block stored
    simpa using low
  next some =>
    have recomputed := recomputeAll (rollbackAddresses db fromHeight)
      (deleteFrom { db with syncState := bumpReorgGeneration db.syncState } fromHeight)
    rcases recomputed with ⟨same, sync, lookups⟩
    have deleted : SameTables (deleteFrom db fromHeight)
        (deleteFrom { db with syncState := bumpReorgGeneration db.syncState }
          fromHeight) := ⟨rfl, rfl, rfl, rfl⟩
    apply Or.inr
    refine ⟨?_, ⟨same.blocks, same.transactions, same.utxos, same.nextID⟩, ?_, ?_⟩
    · rcases List.exists_mem_of_ne_nil _ some with ⟨block, membership⟩
      rcases List.mem_filter.mp membership with ⟨stored, high⟩
      exact ⟨block, stored, of_decide_eq_true high⟩
    · exact congrArg₂ SyncState.rolledBackTo sync
        (congrArg (selectForkBlock · fromHeight) same.blocks)
    · intro address
      rw [← deleted.compute]
      exact lookups (List.nodup_dedup _) address

section WholeRollback

variable {db : Db} (fromHeight : Nat)

theorem rollback_wellFormed (wf : db.WellFormed) :
    (rollbackIndexedDataFromHeight db fromHeight).WellFormed := by
  rcases rollback_cases db fromHeight with ⟨_, same, _⟩ | ⟨_, same, _⟩
  · exact same.wellFormed wf
  · exact same.wellFormed (deleteFrom_wellFormed fromHeight wf)

/-- A rollback keeps exactly the blocks below the height. -/
theorem rollback_blocks (wf : db.WellFormed) :
    (rollbackIndexedDataFromHeight db fromHeight).blocks =
      db.blocks.filter fun block => block.height < fromHeight := by
  rcases rollback_cases db fromHeight with ⟨low, same, _⟩ | ⟨_, same, _⟩
  · rw [same.blocks, eq_comm, List.filter_eq_self]
    intro block stored
    exact decide_eq_true (low block stored)
  · rw [same.blocks, deleteFrom_blocks fromHeight wf]

/-- A highest block of a list, `none` when it has none. -/
def Highest (blocks : List Block) : Option Block → Prop
  | none => blocks = []
  | some highest => highest ∈ blocks ∧ ∀ block ∈ blocks, block.height ≤ highest.height

theorem Highest.higherOf {blocks : List Block} {best : Option Block}
    (highest : Highest blocks best) (block : Block) :
    Highest (blocks ++ [block]) (Crawler.higherOf best block) := by
  cases best with
  | none =>
    subst highest
    simp [Crawler.higherOf, Highest]
  | some other =>
    rcases highest with ⟨membership, above⟩
    simp only [Crawler.higherOf]
    split
    next higher =>
      constructor
      · simp
      · intro candidate stored
        rcases List.mem_append.mp stored with old | new
        · exact (above candidate old).trans higher.le
        · exact (List.mem_singleton.mp new) ▸ le_rfl
    next lower =>
      constructor
      · exact List.mem_append_left _ membership
      · intro candidate stored
        rcases List.mem_append.mp stored with old | new
        · exact above candidate old
        · exact (List.mem_singleton.mp new) ▸ not_lt.mp lower

theorem Highest.foldl {blocks : List Block} {best : Option Block}
    (highest : Highest blocks best) (rest : List Block) :
    Highest (blocks ++ rest) (rest.foldl Crawler.higherOf best) := by
  induction rest generalizing blocks best with
  | nil => simpa using highest
  | cons block rest ih => simpa using ih (highest.higherOf block)

/-- The fork block is a highest one below the height. -/
theorem selectForkBlock_highest (blocks : List Block) (fromHeight : Nat) :
    Highest (blocks.filter fun block => block.height < fromHeight)
      (selectForkBlock blocks fromHeight) :=
  (show Highest [] none from rfl).foldl _

end WholeRollback

end Nightgate.Crawler
