import Nightgate.Crawler.IndexReferences

/-!
# Rollback undoes indexing

The run of a chain with its passes, beside the run of the same events without the blocks from a
height upwards. Cutting the removed transactions' rows from the first gives the second, after
every event.
-/

namespace Nightgate.Crawler

open Library

section WriteBlock

variable {db : Db} {prep : PreparedBlock} {fromHeight : Nat}

theorem removedBlocks_writeBlock (high : fromHeight ≤ prep.height) :
    removedBlocks (writeBlock db prep) fromHeight = removedBlocks db fromHeight ++ [db.nextID] := by
  simp [removedBlocks, writeBlock, high]

/-- Whether a block's transactions go: those of a new block do, others go as before. -/
theorem mem_removedBlocks_writeBlock (wf : db.WellFormed) (high : fromHeight ≤ prep.height) :
    (∀ transaction ∈ db.transactions,
      transaction.blockID ∈ removedBlocks (writeBlock db prep) fromHeight ↔
        transaction.blockID ∈ removedBlocks db fromHeight) ∧
    ∀ transaction ∈ (newRows db prep).txRows,
      transaction.blockID ∈ removedBlocks (writeBlock db prep) fromHeight := by
  rw [removedBlocks_writeBlock high]
  constructor
  · intro transaction stored
    rcases List.mem_map.mp (wf.transactions transaction stored).2 with ⟨block, known, same⟩
    have older : transaction.blockID ≠ db.nextID := by
      have := wf.blocks block known
      omega
    simp [older]
  · intro transaction listed
    simp [((newRows_sound db prep).txRows transaction listed).1]

theorem keptTransactions_writeBlock (wf : db.WellFormed) (high : fromHeight ≤ prep.height) :
    (deleteFrom (writeBlock db prep) fromHeight).transactions =
      (deleteFrom db fromHeight).transactions := by
  rcases mem_removedBlocks_writeBlock wf high with ⟨old, new⟩
  show ((db.transactions ++ (newRows db prep).txRows).filter fun transaction =>
      transaction.blockID ∉ removedBlocks (writeBlock db prep) fromHeight) = _
  have gone : ((newRows db prep).txRows.filter fun transaction =>
      transaction.blockID ∉ removedBlocks (writeBlock db prep) fromHeight) = [] := by
    rw [List.filter_eq_nil_iff]
    exact fun transaction listed kept => of_decide_eq_true kept (new transaction listed)
  rw [List.filter_append, gone, List.append_nil]
  apply List.filter_congr
  intro transaction stored
  simp only [old transaction stored]

theorem removedTxs_writeBlock (wf : db.WellFormed) (high : fromHeight ≤ prep.height) :
    removedTxs (writeBlock db prep) fromHeight =
      removedTxs db fromHeight ++ (newRows db prep).txRows.map Transaction.ID := by
  rcases mem_removedBlocks_writeBlock wf high with ⟨old, new⟩
  show ((db.transactions ++ (newRows db prep).txRows).filter fun transaction =>
      transaction.blockID ∈ removedBlocks (writeBlock db prep) fromHeight).map _ = _
  have all : ((newRows db prep).txRows.filter fun transaction =>
      transaction.blockID ∈ removedBlocks (writeBlock db prep) fromHeight) =
        (newRows db prep).txRows := by
    rw [List.filter_eq_self]
    exact fun transaction listed => decide_eq_true (new transaction listed)
  rw [List.filter_append, all, List.map_append]
  congr 2
  apply List.filter_congr
  intro transaction stored
  simp only [old transaction stored]

/-- The row a rollback leaves of an output. -/
def unspentOf (txIDs : List Nat) (utxo : UnshieldedUtxo) : UnshieldedUtxo :=
  if utxo.spentAtTransactionID.any (· ∈ txIDs) then { utxo with spentAtTransactionID := none }
  else utxo

/-- A mark set by a removed transaction is taken back. -/
theorem unspentOf_spentBy (wf : db.WellFormed) {before after : UnshieldedUtxo}
    (stored : before ∈ db.utxos) (spent : SpentBy (newRows db prep).spendRequests before after) :
    unspentOf (removedTxs db fromHeight ++ (newRows db prep).txRows.map Transaction.ID) after =
      unspentOf (removedTxs db fromHeight) before := by
  rcases spent with rfl | ⟨unspent, request, known, _, _, rfl⟩
  · unfold unspentOf
    have sameMark : (after.spentAtTransactionID.any fun txID =>
        txID ∈ removedTxs db fromHeight ++ (newRows db prep).txRows.map Transaction.ID) =
          after.spentAtTransactionID.any fun txID => txID ∈ removedTxs db fromHeight := by
      cases marked : after.spentAtTransactionID with
      | none => rfl
      | some txID =>
        have older := lt_of_oldTx wf ((wf.utxos after stored).2.2 txID marked)
        have notNew : txID ∉ (newRows db prep).txRows.map Transaction.ID := by
          intro new
          have := lt_of_newTx prep new
          omega
        simp only [Option.any_some, List.mem_append, notNew, or_false]
    rw [sameMark]
  · have new := (newRows_sound db prep).spends request known
    simp only [unspentOf, Option.any_some, List.mem_append, new, or_true, decide_true, if_true,
      unspent, Option.any_none, Bool.false_eq_true, if_false]
    rw [← unspent]

/-- Rows that are changed but left the same are left the same together. -/
theorem utxosWithout_map {change : UnshieldedUtxo → UnshieldedUtxo} {more fewer : List Nat}
    {utxos : List UnshieldedUtxo}
    (created : ∀ utxo ∈ utxos, (change utxo).createdAtTransactionID ∈ more ↔
      utxo.createdAtTransactionID ∈ fewer)
    (left : ∀ utxo ∈ utxos, unspentOf more (change utxo) = unspentOf fewer utxo) :
    utxosWithout more (utxos.map change) = utxosWithout fewer utxos := by
  show ((utxos.map change).filter _).map (unspentOf more) = (utxos.filter _).map (unspentOf fewer)
  rw [List.filter_map, List.map_map]
  have same : (utxos.filter fun utxo => (change utxo).createdAtTransactionID ∉ more) =
      utxos.filter fun utxo => utxo.createdAtTransactionID ∉ fewer := by
    apply List.filter_congr
    intro utxo stored
    simp only [created utxo stored]
  show (utxos.filter fun utxo => (change utxo).createdAtTransactionID ∉ more).map _ = _
  rw [same]
  exact List.map_congr_left fun utxo stored => left utxo (List.mem_of_mem_filter stored)

theorem utxosWithout_append {txIDs : List Nat} (first second : List UnshieldedUtxo) :
    utxosWithout txIDs (first ++ second) =
      utxosWithout txIDs first ++ utxosWithout txIDs second := by
  rw [utxosWithout, List.filter_append, List.map_append]
  rfl

/-- The outputs a new block created go, the marks it set are taken back. -/
theorem keptUtxos_writeBlock (wf : db.WellFormed) (high : fromHeight ≤ prep.height) :
    (deleteFrom (writeBlock db prep) fromHeight).utxos = (deleteFrom db fromHeight).utxos := by
  have sound := newRows_sound db prep
  rcases (spentRows_applied prep wf).rows with ⟨spend, rows, spentBy⟩
  show utxosWithout (removedTxs (writeBlock db prep) fromHeight) (spentRows db prep).1 =
    utxosWithout (removedTxs db fromHeight) db.utxos
  rw [removedTxs_writeBlock wf high, rows, List.map_append, utxosWithout_append]
  have creator : ∀ utxo ∈ db.utxos ++ (newRows db prep).utxoRows,
      (spend utxo).createdAtTransactionID = utxo.createdAtTransactionID := by
    intro utxo listed
    rcases spentBy utxo listed with same | ⟨_, _, _, _, _, same⟩ <;> rw [same]
  have gone : utxosWithout (removedTxs db fromHeight ++
      (newRows db prep).txRows.map Transaction.ID) ((newRows db prep).utxoRows.map spend) = [] := by
    rw [utxosWithout, List.map_eq_nil_iff, List.filter_eq_nil_iff]
    intro utxo listed kept
    rcases List.mem_map.mp listed with ⟨row, new, rfl⟩
    refine of_decide_eq_true kept (List.mem_append_right _ ?_)
    rw [creator row (List.mem_append_right _ new)]
    exact (sound.utxoRows row new).2.2.1
  rw [gone, List.append_nil]
  apply utxosWithout_map
  · intro utxo stored
    rw [creator utxo (List.mem_append_left _ stored), List.mem_append, or_iff_left]
    intro new
    have older := lt_of_oldTx wf (wf.utxos utxo stored).2.1
    have newer := lt_of_newTx prep new
    omega
  · exact fun utxo stored => unspentOf_spentBy wf stored
      (spentBy utxo (List.mem_append_left _ stored))

end WriteBlock

section DustFlags

/-- The outputs after `applyDustFlags`. -/
def flagOutputs (outputs : List Spend) (utxos : List UnshieldedUtxo) : List UnshieldedUtxo :=
  outputs.foldl (fun utxos output => utxos.map fun utxo =>
    if utxo.intentHash = output.intentHash ∧ utxo.outputIndex = output.outputIndex then
      { utxo with registeredForDustGeneration := true }
    else utxo) utxos

/-- The output has the ledger key. -/
def UnshieldedUtxo.keyed (utxo : UnshieldedUtxo) (output : Spend) : Prop :=
  utxo.intentHash = output.intentHash ∧ utxo.outputIndex = output.outputIndex

instance (utxo : UnshieldedUtxo) (output : Spend) : Decidable (utxo.keyed output) :=
  inferInstanceAs (Decidable (_ ∧ _))

theorem utxosWithout_flagOutputs (txIDs : List Nat) (outputs : List Spend)
    (utxos : List UnshieldedUtxo) :
    utxosWithout txIDs (flagOutputs outputs utxos) =
      flagOutputs outputs (utxosWithout txIDs utxos) := by
  induction outputs generalizing utxos with
  | nil => rfl
  | cons output rest ih =>
    refine (ih _).trans (congrArg (flagOutputs rest) ?_)
    show ((utxos.map _).filter _).map (unspentOf txIDs) =
      ((utxos.filter _).map (unspentOf txIDs)).map _
    rw [List.filter_map, List.map_map, List.map_map]
    have creator : ∀ utxo : UnshieldedUtxo, (if utxo.intentHash = output.intentHash ∧
        utxo.outputIndex = output.outputIndex then
          { utxo with registeredForDustGeneration := true }
        else utxo).createdAtTransactionID = utxo.createdAtTransactionID := by
      intro utxo
      split <;> rfl
    simp only [Function.comp_def, creator]
    apply List.map_congr_left
    intro utxo _
    unfold unspentOf
    by_cases keyed : utxo.intentHash = output.intentHash ∧ utxo.outputIndex = output.outputIndex
    · by_cases marked : utxo.spentAtTransactionID.any (· ∈ txIDs) <;>
        simp [keyed, marked]
    · by_cases marked : utxo.spentAtTransactionID.any (· ∈ txIDs) <;>
        simp [keyed, marked]

/-- Flags change nothing when no output has one of the keys. -/
theorem flagOutputs_eq_self {outputs : List Spend} {utxos : List UnshieldedUtxo}
    (none : ∀ output ∈ outputs, ∀ utxo ∈ utxos, ¬ utxo.keyed output) :
    flagOutputs outputs utxos = utxos := by
  induction outputs with
  | nil => rfl
  | cons output rest ih =>
    rcases List.forall_mem_cons.mp none with ⟨now, later⟩
    have unchanged : (utxos.map fun utxo =>
        if utxo.intentHash = output.intentHash ∧ utxo.outputIndex = output.outputIndex then
          { utxo with registeredForDustGeneration := true }
        else utxo) = utxos := by
      conv_rhs => rw [← List.map_id utxos]
      exact List.map_congr_left fun utxo stored => if_neg (now utxo stored)
    show flagOutputs rest (utxos.map _) = utxos
    rw [unchanged]
    exact ih later

/-- Flags on the outputs of a removed transaction go with them. -/
theorem utxosWithout_flagOutputs_gone {txIDs : List Nat} {txID : Nat} {outputs : List Spend}
    {utxos : List UnshieldedUtxo} (removed : txID ∈ txIDs)
    (own : ∀ output ∈ outputs, ∀ utxo ∈ utxos, utxo.keyed output →
      utxo.createdAtTransactionID = txID) :
    utxosWithout txIDs (flagOutputs outputs utxos) = utxosWithout txIDs utxos := by
  rw [utxosWithout_flagOutputs]
  apply flagOutputs_eq_self
  intro output listed after kept keyed
  rcases mem_utxosWithout.mp kept with ⟨before, stored, outside, rfl⟩
  have same : before.keyed output := by
    split at keyed <;> exact keyed
  exact outside (own output listed before stored same ▸ removed)

end DustFlags

/-! ## A chain beside its lower part -/

/-- What the indexer reports of a transaction concerns it: its block does not lie above the height
asked for, and it created the outputs it registers. -/
def OwnReport (db : Db) (txID height : Nat) (answer : SupplementTransaction) : Prop :=
  TransactionUpTo db txID height ∧
    ∀ output ∈ answer.dustRegisteredOutputs, ∀ utxo ∈ db.utxos, utxo.keyed output →
      utxo.createdAtTransactionID = txID

instance (db : Db) (txID height : Nat) (answer : SupplementTransaction) :
    Decidable (OwnReport db txID height answer) :=
  inferInstanceAs (Decidable (_ ∧ ∀ output ∈ _, ∀ utxo ∈ _, _ → _))

/-- The events of a chain: its blocks in ascending order, and the passes between them. -/
def ChainEvent (tables : IndexTables) : TableEvent → Prop
  | .persist block _ => ∀ stored ∈ tables.db.blocks, stored.height < block.height
  | .rollback _ => False
  | .supplement txID height answer =>
    txID ∈ tables.txIDs → OwnReport tables.db txID height answer
  | .decode .. | .backfill .. | .advance .. | .redecode .. => True

instance : (tables : IndexTables) → (event : TableEvent) → Decidable (ChainEvent tables event)
  | _, .persist _ _ => inferInstanceAs (Decidable (∀ stored ∈ _, _))
  | _, .rollback _ => isFalse id
  | _, .supplement _ _ _ => inferInstanceAs (Decidable (_ → _))
  | _, .decode _ _ => isTrue trivial
  | _, .backfill _ => isTrue trivial
  | _, .advance _ _ _ => isTrue trivial
  | _, .redecode _ => isTrue trivial

/-- The events without the blocks from a height upwards. -/
def TableEvent.isBelow (fromHeight : Nat) : TableEvent → Bool
  | .persist block _ => block.height < fromHeight
  | _ => true

/-- The run of a chain and the run of its part below a height. -/
structure Beside (fromHeight : Nat) (full kept : IndexTables) : Prop where
  intact : full.Intact
  ascending : full.db.blocks.Pairwise fun lower upper => lower.height < upper.height
  blocks : kept.db.blocks = (deleteFrom full.db fromHeight).blocks
  transactions : kept.db.transactions = (deleteFrom full.db fromHeight).transactions
  utxos : kept.db.utxos = (deleteFrom full.db fromHeight).utxos
  derived : kept.derived = full.derived.cut (removedTxs full.db fromHeight)
  same : (∀ block ∈ full.db.blocks, block.height < fromHeight) → kept.db = full.db
  tip : kept.db.syncState.AtTip kept.db.blocks.getLast?
  balanced : BalanceInvariant full.db ∧ BalanceInvariant kept.db

section Beside

variable {fromHeight : Nat} {full kept : IndexTables} (config : SupplementConfig)

@[simp] theorem DerivedRows.cut_nil (rows : DerivedRows) : rows.cut [] = rows := by
  have all : ∀ {Row : Type} (owner : Row → Nat) (rows : List Row), deleteOf owner [] rows = rows :=
    fun _ _ => deleteOf_eq_self fun _ _ => List.not_mem_nil
  simp only [DerivedRows.cut, all]

/-- Without a block to remove, nothing is removed. -/
theorem removed_of_low {db : Db} (low : ∀ block ∈ db.blocks, block.height < fromHeight) :
    removedBlocks db fromHeight = [] ∧ removedTxs db fromHeight = [] := by
  have none : removedBlocks db fromHeight = [] := by
    rw [removedBlocks, List.map_eq_nil_iff, List.filter_eq_nil_iff]
    intro block stored
    simpa using low block stored
  refine ⟨none, ?_⟩
  rw [removedTxs, none, List.map_eq_nil_iff, List.filter_eq_nil_iff]
  simp

theorem deleteFrom_low {db : Db} (low : ∀ block ∈ db.blocks, block.height < fromHeight) :
    deleteFrom db fromHeight = db := by
  rcases removed_of_low low with ⟨blocks, txIDs⟩
  have kept : deleteFrom db fromHeight = { db with
      blocks := db.blocks.filter fun block => block.ID ∉ removedBlocks db fromHeight
      transactions := db.transactions.filter fun transaction =>
        transaction.blockID ∉ removedBlocks db fromHeight
      utxos := utxosWithout (removedTxs db fromHeight) db.utxos } := rfl
  rw [kept, blocks, txIDs]
  simp [utxosWithout]

/-- While no block is to be removed, the two runs have the same index. -/
theorem Beside.of_low (intact : full.Intact)
    (ascending : full.db.blocks.Pairwise fun lower upper => lower.height < upper.height)
    (low : ∀ block ∈ full.db.blocks, block.height < fromHeight) (db : kept.db = full.db)
    (derived : kept.derived = full.derived) (tip : full.db.syncState.AtTip full.db.blocks.getLast?)
    (balanced : BalanceInvariant full.db) : Beside fromHeight full kept where
  intact := intact
  ascending := ascending
  blocks := by rw [deleteFrom_low low, db]
  transactions := by rw [deleteFrom_low low, db]
  utxos := by rw [deleteFrom_low low, db]
  derived := by rw [(removed_of_low low).2, DerivedRows.cut_nil, derived]
  same := fun _ => db
  tip := by rw [db]; exact tip
  balanced := ⟨balanced, by rw [db]; exact balanced⟩

theorem Beside.derived_of_low (beside : Beside fromHeight full kept)
    (low : ∀ block ∈ full.db.blocks, block.height < fromHeight) :
    kept.derived = full.derived := by
  rw [beside.derived, (removed_of_low low).2, DerivedRows.cut_nil]

variable {block : IndexedBlock}

theorem ascending_withBlock
    (ascending : full.db.blocks.Pairwise fun lower upper => lower.height < upper.height)
    (above : ∀ stored ∈ full.db.blocks, stored.height < block.height) :
    (full.withBlock block).db.blocks.Pairwise fun lower upper => lower.height < upper.height := by
  refine List.pairwise_append.mpr ⟨ascending, List.pairwise_singleton .., ?_⟩
  intro stored known new listed
  rw [List.mem_singleton.mp listed]
  exact above stored known

/-- A block above the stored ones lies above all activity. -/
theorem balanced_withBlock (balanced : BalanceInvariant full.db)
    (above : ∀ stored ∈ full.db.blocks, stored.height < block.height) :
    BalanceInvariant (full.withBlock block).db where
  wellFormed := writeBlock_wellFormed block.prep balanced.wellFormed
  agree := by
    apply writeBlock_agree block.prep balanced.wellFormed balanced.agree
    intro address _ height active
    rcases mem_activityHeights.mp active with ⟨stored, known, rfl, _⟩
    exact (above stored known).le
  noDust := writeBlock_noDust block.prep balanced.noDust

/-- A block below the height is stored in both runs, or in neither. -/
theorem Beside.persist_low (beside : Beside fromHeight full kept)
    {requireParent : Bool} (above : ∀ stored ∈ full.db.blocks, stored.height < block.height)
    (low : block.height < fromHeight) :
    Beside fromHeight (tableStep config full (.persist block requireParent))
      (tableStep config kept (.persist block requireParent)) := by
  have allLow : ∀ stored ∈ full.db.blocks, stored.height < fromHeight :=
    fun stored known => (above stored known).trans low
  have db := beside.same allLow
  rw [tableStep_persist, tableStep_persist, db]
  split
  · apply Beside.of_low
    · exact beside.intact.withBlock block
    · exact ascending_withBlock beside.ascending above
    · intro stored listed
      rcases List.mem_append.mp listed with old | new
      · exact allLow stored old
      · rw [List.mem_singleton.mp new]
        exact low
    · exact congrArg (writeBlock · block.prep) db
    · show kept.derived.insert (derivedRows ((newRows kept.db block.prep).txRows.map _) _) = _
      rw [beside.derived_of_low allLow, db]
      rfl
    · show SyncState.AtTip _ (full.db.blocks ++ [_]).getLast?
      rw [List.getLast?_concat]
      exact ⟨rfl, rfl⟩
    · exact balanced_withBlock beside.balanced.1 above
  · exact beside

/-- A block from the height upwards is stored in the whole run only, and cut with its rows. -/
theorem Beside.persist_high (beside : Beside fromHeight full kept)
    {requireParent : Bool} (above : ∀ stored ∈ full.db.blocks, stored.height < block.height)
    (high : fromHeight ≤ block.height) :
    Beside fromHeight (tableStep config full (.persist block requireParent)) kept := by
  have wf := beside.intact.wellFormed
  rw [tableStep_persist]
  split
  · constructor
    · exact beside.intact.withBlock block
    · exact ascending_withBlock beside.ascending above
    · rw [beside.blocks, deleteFrom_blocks fromHeight wf]
      show _ = (deleteFrom (writeBlock full.db block.prep) fromHeight).blocks
      rw [deleteFrom_blocks fromHeight (writeBlock_wellFormed block.prep wf)]
      show _ = (full.db.blocks ++ [_]).filter _
      rw [List.filter_append, List.filter_singleton]
      have out : decide (block.prep.height < fromHeight) = false :=
        decide_eq_false (not_lt.mpr high)
      rw [out]
      exact (List.append_nil _).symm
    · exact beside.transactions.trans (keptTransactions_writeBlock wf high).symm
    · exact beside.utxos.trans (keptUtxos_writeBlock wf high).symm
    · rw [beside.derived]
      show _ = (full.derived.insert _).cut (removedTxs (writeBlock full.db block.prep) fromHeight)
      rw [removedTxs_writeBlock wf high]
      refine (beside.intact.derived.cut_insert (derivedRows_intact _ _) ?_).symm
      intro txID old new
      have older := lt_of_oldTx wf old
      have newer := lt_of_newTx block.prep new
      omega
    · intro low
      have last := low _ (List.mem_append_right _ (List.mem_singleton_self _))
      exact absurd last (not_lt.mpr high)
    · exact beside.tip
    · exact ⟨balanced_withBlock beside.balanced.1 above, beside.balanced.2⟩
  · exact beside

/-- A write for one transaction, made in both runs. The whole run's index changes at most in its
cursors and dust flags. -/
theorem Beside.onRows (beside : Beside fromHeight full kept) {txID : Nat}
    {write : DerivedRows → DerivedRows} (writes : WritesFor txID write)
    (absent : ∀ gone, txID ∈ gone → write (full.derived.cut gone) = full.derived.cut gone)
    (intact : (full.onRows write).Intact) :
    Beside fromHeight (full.onRows write) (kept.onRows write) where
  intact := intact
  ascending := beside.ascending
  blocks := beside.blocks
  transactions := beside.transactions
  utxos := beside.utxos
  derived := by
    show write kept.derived = (write full.derived).cut (removedTxs full.db fromHeight)
    rw [beside.derived]
    by_cases removed : txID ∈ removedTxs full.db fromHeight
    · rw [writes.gone _ _ removed, absent _ removed]
    · rw [writes.kept _ _ removed]
  same := beside.same
  tip := beside.tip
  balanced := beside.balanced

theorem BalanceInvariant.setSync {db : Db} (balanced : BalanceInvariant db) (sync : SyncState) :
    BalanceInvariant { db with syncState := sync } where
  wellFormed := { balanced.wellFormed with }
  agree := balanced.agree
  noDust := balanced.noDust

section Beside

variable (beside : Beside fromHeight full kept)

include beside

theorem Beside.setSync (change : SyncState → SyncState)
    (keeps : ∀ sync, (change sync).lastIndexedHash = sync.lastIndexedHash ∧
      (change sync).lastIndexedHeight = sync.lastIndexedHeight) :
    Beside fromHeight (full.setSync (change full.db.syncState))
      (kept.setSync (change kept.db.syncState)) where
  intact := beside.intact.setSync _
  ascending := beside.ascending
  blocks := beside.blocks
  transactions := beside.transactions
  utxos := beside.utxos
  derived := beside.derived
  same := by
    intro low
    have db := beside.same low
    simp only [IndexTables.setSync, db]
  tip := by
    show (change kept.db.syncState).AtTip kept.db.blocks.getLast?
    have tip := beside.tip
    cases last : kept.db.blocks.getLast? with
    | none | some => simpa only [last, SyncState.AtTip, keeps] using tip
  balanced := ⟨beside.balanced.1.setSync _, beside.balanced.2.setSync _⟩

theorem Beside.mem_txIDs {txID : Nat} :
    txID ∈ kept.txIDs ↔ txID ∈ full.txIDs ∧ txID ∉ removedTxs full.db fromHeight := by
  show txID ∈ kept.db.transactions.map Transaction.ID ↔ _
  rw [beside.transactions]
  exact mem_keptTxIDs fromHeight beside.intact.wellFormed

/-- The supplement's writes for a transaction of the lower part are made in both runs. -/
theorem Beside.supplement_kept {txID height : Nat} {answer : SupplementTransaction}
    (known : txID ∈ full.txIDs) (outside : txID ∉ removedTxs full.db fromHeight)
    (report : OwnReport full.db txID height answer) :
    Beside fromHeight (supplementTransaction config txID height answer full)
      (supplementTransaction config txID height answer kept) := by
  have intact : (supplementTransaction config txID height answer full).Intact :=
    beside.intact.supplement config (fun _ => known) (fun _ => known) fun _ => report.1
  rw [supplementTransaction_eq] at intact ⊢
  rw [supplementTransaction_eq]
  constructor
  · exact intact
  · exact beside.ascending
  · exact beside.blocks
  · exact beside.transactions
  · show flagOutputs answer.dustRegisteredOutputs kept.db.utxos =
      utxosWithout (removedTxs full.db fromHeight)
        (flagOutputs answer.dustRegisteredOutputs full.db.utxos)
    rw [utxosWithout_flagOutputs, beside.utxos]
    rfl
  · show supplementRows config txID answer kept.derived =
      (supplementRows config txID answer full.derived).cut (removedTxs full.db fromHeight)
    rw [(supplementRows_writesFor config answer).kept _ _ outside, beside.derived]
  · intro low
    exact congrArg (applyDustFlags · answer.dustRegisteredOutputs) (beside.same low)
  · exact beside.tip
  · exact ⟨applyDustFlags_invariant _ beside.balanced.1,
      applyDustFlags_invariant _ beside.balanced.2⟩

/-- Those for a removed transaction are cut. -/
theorem Beside.supplement_gone {txID height : Nat} {answer : SupplementTransaction}
    (known : txID ∈ full.txIDs) (removed : txID ∈ removedTxs full.db fromHeight)
    (report : OwnReport full.db txID height answer) :
    Beside fromHeight (supplementTransaction config txID height answer full) kept := by
  have intact : (supplementTransaction config txID height answer full).Intact :=
    beside.intact.supplement config (fun _ => known) (fun _ => known) fun _ => report.1
  rw [supplementTransaction_eq] at intact ⊢
  constructor
  · exact intact
  · exact beside.ascending
  · exact beside.blocks
  · exact beside.transactions
  · refine beside.utxos.trans ?_
    exact (utxosWithout_flagOutputs_gone removed report.2).symm
  · refine beside.derived.trans ?_
    exact ((supplementRows_writesFor config answer).gone _ _ removed).symm
  · intro low
    have none : removedTxs full.db fromHeight = [] := (removed_of_low low).2
    rw [none] at removed
    cases removed
  · exact beside.tip
  · exact ⟨applyDustFlags_invariant _ beside.balanced.1, beside.balanced.2⟩

end Beside

theorem columnsOf_cut_gone {txID : Nat} {gone : List Nat} (rows : DerivedRows)
    (removed : txID ∈ gone) : columnsOf (rows.cut gone) txID = none := by
  rw [columnsOf, List.find?_eq_none]
  intro row listed same
  exact (mem_deleteOf.mp listed).2 (of_decide_eq_true same ▸ removed)

/-- The two runs stay beside each other. -/
theorem Beside.step (beside : Beside fromHeight full kept) (event : TableEvent)
    (chained : ChainEvent full event) :
    Beside fromHeight (tableStep config full event)
      (if event.isBelow fromHeight then tableStep config kept event else kept) := by
  cases event with
  | persist block requireParent =>
    show Beside fromHeight _ (if decide (block.height < fromHeight) then _ else kept)
    by_cases low : block.height < fromHeight
    · rw [if_pos (decide_eq_true low)]
      exact beside.persist_low config chained low
    · rw [if_neg (by simpa using low)]
      exact beside.persist_high config chained (not_lt.mp low)
  | rollback height => exact absurd chained id
  | supplement txID height answer =>
    show Beside fromHeight (if txID ∈ full.txIDs then _ else full)
      (if txID ∈ kept.txIDs then _ else kept)
    by_cases known : txID ∈ full.txIDs
    · rw [if_pos known]
      by_cases removed : txID ∈ removedTxs full.db fromHeight
      · rw [if_neg fun stays => (beside.mem_txIDs.mp stays).2 removed]
        exact beside.supplement_gone config known removed (chained known)
      · rw [if_pos (beside.mem_txIDs.mpr ⟨known, removed⟩)]
        exact beside.supplement_kept config known removed (chained known)
    · rw [if_neg known, if_neg fun stays => known (beside.mem_txIDs.mp stays).1]
      exact beside
  | decode txID payload =>
    refine beside.onRows (decodeTransaction_writesFor payload) ?_
      (beside.intact.decode txID payload)
    intro gone removed
    rw [decodeTransaction, columnsOf_cut_gone _ removed]
  | backfill txID =>
    refine beside.onRows backfillIdentifiers_writesFor ?_ (beside.intact.backfill txID)
    intro gone removed
    rw [backfillIdentifiers, columnsOf_cut_gone _ removed]
    rfl
  | advance column expected height =>
    refine beside.setSync (advancePassCursor · column expected height) ?_
    intro sync
    rcases advancePassCursor_cases sync column expected height with same | ⟨same, _⟩ <;>
      simp [same]
  | redecode height =>
    refine beside.setSync (redecodeFromHeight · height) ?_
    intro sync
    rcases redecodeFromHeight_cases sync height with same | ⟨_, _, _, _, same⟩ <;> simp [same]

/-- A chain's run beside the run of its part below the height. -/
theorem run_beside (fromHeight : Nat) (chain : List TableEvent)
    (along : Along (tableStep config) ChainEvent .empty chain) :
    Beside fromHeight (run (tableStep config) .empty chain)
      (run (tableStep config) .empty (chain.filter (TableEvent.isBelow fromHeight))) := by
  refine run_filter_relates (fun _ _ event beside chained => beside.step config event chained)
    ?_ chain along
  apply Beside.of_low
  · exact IndexTables.empty_intact
  · exact List.Pairwise.nil
  · exact nofun
  · rfl
  · rfl
  · exact ⟨rfl, rfl⟩
  · exact Db.empty_balanceInvariant

end Beside

/-! ## The rollback -/

/-- The highest of ascending blocks is the last. -/
theorem Highest.eq_getLast? {blocks : List Block} {best : Option Block}
    (highest : Highest blocks best)
    (ascending : blocks.Pairwise fun lower upper => lower.height < upper.height) :
    best = blocks.getLast? := by
  cases best with
  | none =>
    rw [show blocks = [] from highest]
    rfl
  | some top =>
    rcases highest with ⟨stored, above⟩
    rcases List.eq_nil_or_concat blocks with rfl | ⟨lower, last, rfl⟩
    · cases stored
    rw [List.concat_eq_append] at stored above ascending ⊢
    rw [List.getLast?_concat]
    rcases List.mem_append.mp stored with below | isLast
    · have lt := (List.pairwise_append.mp ascending).2.2 top below last (List.mem_singleton_self _)
      have le := above last (List.mem_append_right _ (List.mem_singleton_self _))
      omega
    · rw [List.mem_singleton.mp isLast]

/-- The same rows in every chain-derived table, and the same last indexed block. -/
structure SameRows (left right : IndexTables) : Prop where
  blocks : left.db.blocks = right.db.blocks
  transactions : left.db.transactions = right.db.transactions
  utxos : left.db.utxos = right.db.utxos
  derived : left.derived = right.derived
  lastIndexedHeight : left.db.syncState.lastIndexedHeight = right.db.syncState.lastIndexedHeight
  lastIndexedHash : left.db.syncState.lastIndexedHash = right.db.syncState.lastIndexedHash

/-- What a rollback leaves of an index, beside the index of the blocks below the height. -/
structure Undone (fromHeight : Nat) (before after lower : IndexTables) : Prop where
  rows : SameRows after lower
  balances : ∀ address, (after.db.nightBalances.lookup address).map NightBalance.figures =
      (lower.db.nightBalances.lookup address).map NightBalance.figures
  intact : after.Intact
  reorgGeneration :
    after.db.syncState.reorgGeneration = before.db.syncState.reorgGeneration + 1
  /-- With a block left, the passes stand at its height at most. -/
  cursors : (∃ block ∈ before.db.blocks, fromHeight ≤ block.height) → after.db.blocks ≠ [] →
    ∀ column, after.db.syncState.cursor column =
      (before.db.syncState.cursor column).map (min · after.db.syncState.lastIndexedHeight)
  /-- The current state of a contract is dropped with its block, not set back. -/
  contractStates : (∃ block ∈ before.db.blocks, fromHeight ≤ block.height) →
    after.contractStates = before.contractStates.filter fun state => state.height < fromHeight

section Rollback

variable {fromHeight : Nat} {full kept : IndexTables}

/-- The fork block is the tip of the lower part. -/
theorem Beside.forkBlock (beside : Beside fromHeight full kept) :
    selectForkBlock (deleteFrom full.db fromHeight).blocks fromHeight =
      kept.db.blocks.getLast? := by
  have highest := selectForkBlock_highest (deleteFrom full.db fromHeight).blocks fromHeight
  have lowOnly : ((deleteFrom full.db fromHeight).blocks.filter fun block =>
      block.height < fromHeight) = (deleteFrom full.db fromHeight).blocks := by
    rw [deleteFrom_blocks fromHeight beside.intact.wellFormed, List.filter_filter]
    simp only [Bool.and_self]
  rw [lowOnly] at highest
  rw [beside.blocks]
  exact highest.eq_getLast? (beside.ascending.sublist List.filter_sublist)

theorem Beside.sameRows (beside : Beside fromHeight full kept) :
    SameRows (rollbackTables full fromHeight) kept := by
  rcases rollback_cases full.db fromHeight with ⟨low, same, sync, _⟩ | ⟨some, same, sync, _⟩
  · have db := beside.same low
    rcases rollbackTables_cases full fromHeight with ⟨_, rolled⟩ | ⟨removed, _⟩
    · rw [rolled]
      refine ⟨?_, ?_, ?_, (beside.derived_of_low low).symm, ?_, ?_⟩
      · exact same.blocks.trans (congrArg Db.blocks db.symm)
      · exact same.transactions.trans (congrArg Db.transactions db.symm)
      · exact same.utxos.trans (congrArg Db.utxos db.symm)
      · rw [sync, db]
        rfl
      · rw [sync, db]
        rfl
    · exact absurd (removed_of_low low).1 removed
  · rcases rollbackTables_cases full fromHeight with ⟨low, _⟩ | ⟨_, rolled⟩
    · rcases some with ⟨block, stored, high⟩
      exact absurd (low block stored) (not_lt.mpr high)
    have tip := beside.tip
    rw [rolled]
    refine ⟨?_, ?_, ?_, ?_, ?_, ?_⟩
    · exact same.blocks.trans beside.blocks.symm
    · exact same.transactions.trans beside.transactions.symm
    · exact same.utxos.trans beside.utxos.symm
    · exact (beside.intact.derived.without_eq_cut _).trans beside.derived.symm
    · rw [sync, beside.forkBlock]
      cases last : kept.db.blocks.getLast? <;> rw [last] at tip <;> exact tip.2.symm
    · rw [sync, beside.forkBlock]
      cases last : kept.db.blocks.getLast? <;> rw [last] at tip <;> exact tip.1.symm

theorem SameRows.figures {left right : IndexTables} (rows : SameRows left right)
    (leftBalanced : BalanceInvariant left.db) (rightBalanced : BalanceInvariant right.db)
    (address : Address) :
    (left.db.nightBalances.lookup address).map NightBalance.figures =
      (right.db.nightBalances.lookup address).map NightBalance.figures := by
  rw [leftBalanced.agree address, rightBalanced.agree address]
  unfold computeNightBalance activityHeights nightUtxosOf sentTxsOf
  rw [rows.blocks, rows.transactions, rows.utxos]

theorem rollbackTables_db (tables : IndexTables) (fromHeight : Nat) :
    (rollbackTables tables fromHeight).db = rollbackIndexedDataFromHeight tables.db fromHeight := by
  rcases rollbackTables_cases tables fromHeight with ⟨_, rolled⟩ | ⟨_, rolled⟩ <;> rw [rolled]

/-- A rollback undoes what sets the two runs apart. -/
theorem Beside.undone (beside : Beside fromHeight full kept) :
    Undone fromHeight full (rollbackTables full fromHeight) kept where
  rows := beside.sameRows
  balances := by
    apply beside.sameRows.figures
    · rw [rollbackTables_db]
      exact rollback_invariant fromHeight beside.balanced.1
    · exact beside.balanced.2
  intact := beside.intact.rollback fromHeight
  reorgGeneration := by
    rw [rollbackTables_db]
    rcases rollback_cases full.db fromHeight with ⟨_, _, sync, _⟩ | ⟨_, _, sync, _⟩ <;>
      rw [sync] <;> rfl
  cursors := by
    rintro ⟨block, stored, high⟩ _ column
    rw [rollbackTables_db]
    rcases rollback_cases full.db fromHeight with ⟨low, _⟩ | ⟨_, _, sync, _⟩
    · exact absurd (low block stored) (not_lt.mpr high)
    · rw [sync]
      cases column <;> rfl
  contractStates := by
    rintro ⟨block, stored, high⟩
    rcases rollbackTables_cases full fromHeight with ⟨low, _⟩ | ⟨_, rolled⟩
    · exact absurd (low block stored) (not_lt.mpr high)
    · rw [rolled]

end Rollback

/-- For every chain of indexed blocks, with the passes over it, and every height: a rollback
leaves the rows that indexing the blocks below the height gives, and no row without the one it
refers to. The rollback counter goes up, and the passes stand at most at the block left. -/
theorem rollback_undoes_indexing (config : SupplementConfig) (chain : List TableEvent)
    (along : Along (tableStep config) ChainEvent .empty chain) (fromHeight : Nat) :
    Undone fromHeight (run (tableStep config) .empty chain)
      (rollbackTables (run (tableStep config) .empty chain) fromHeight)
      (run (tableStep config) .empty (chain.filter (TableEvent.isBelow fromHeight))) :=
  (run_beside config fromHeight chain along).undone

/-- A supplement without history, over the bytes of one state and their digest. -/
def sampleSupplement : SupplementConfig where
  contractState := { history := .none, watched := [] }
  sha256 := fun _ => 0xba7816bf8f01cfea414140de5dae2223b00361a396177a9cb410ff61f20015ad

/-- Genesis, a deployment that pays an output, and a call that spends it, both supplemented. -/
def deployedChain : List TableEvent := [
  .persist { blockHash := 100, height := 0, parentHash := 0, extrinsics := [] } true,
  .persist {
    blockHash := 101
    height := 1
    parentHash := 100
    extrinsics := [{
      projection := { EventProjection.none with
        created := [⟨⟨1⟩, NIGHT_RAW_TOKEN_TYPE, 40, 201, 0⟩] }
      classification := ⟨.contractCall, false, false, some "5:0"⟩
      events := some ⟨some .SUCCESS, some 301, true, false, true, [⟨.DEPLOY, some 7⟩]⟩ }] } true,
  .supplement 2 1 {
    ledgerTxHash := 301
    fee := some 3
    segments := [⟨0, true⟩]
    contractActions := [⟨.DEPLOY, 7, some [97, 98, 99], none, [⟨0, 5⟩]⟩]
    zswapEvents := [⟨1, 1, none⟩]
    dustEvents := []
    dustRegisteredOutputs := [⟨201, 0⟩] },
  .persist {
    blockHash := 102
    height := 2
    parentHash := 101
    extrinsics := [{
      projection := { EventProjection.none with spent := [⟨201, 0⟩] }
      classification := ⟨.contractCall, false, false, some "5:0"⟩
      events := some ⟨some .SUCCESS, some 302, true, false, true, [⟨.CALL, some 7⟩]⟩ }] } true,
  .supplement 5 2 {
    ledgerTxHash := 302
    fee := some 4
    segments := [⟨0, true⟩]
    contractActions := [⟨.CALL, 7, some [97, 98, 99], none, []⟩]
    zswapEvents := []
    dustEvents := []
    dustRegisteredOutputs := [] }]

theorem rollback_undoes_indexing_deployed :
    Undone 2 (run (tableStep sampleSupplement) .empty deployedChain)
      (rollbackTables (run (tableStep sampleSupplement) .empty deployedChain) 2)
      (run (tableStep sampleSupplement) .empty (deployedChain.filter (TableEvent.isBelow 2))) :=
  rollback_undoes_indexing sampleSupplement deployedChain (by decide) 2

/-- The rollback counter is a column of `SyncState`, and indexing the lower blocks leaves it
alone. -/
theorem rollback_not_undone :
    ∃ chain fromHeight, Along (tableStep sampleSupplement) ChainEvent .empty chain ∧
      (rollbackTables (run (tableStep sampleSupplement) .empty chain) fromHeight).db.syncState ≠
        (run (tableStep sampleSupplement) .empty
          (chain.filter (TableEvent.isBelow fromHeight))).db.syncState :=
  ⟨deployedChain, 2, by decide, by decide⟩

end Nightgate.Crawler
