import Nightgate.Crawler.RowWrites

/-!
# The index with its references

Every row below a transaction refers to a stored one, and the current state of a contract to an
action of a block at its height or below. Blocks and rollbacks keep this; a pass that writes for a
transaction keeps it while the transaction is stored.
-/

namespace Nightgate.Crawler

open Library

/-- A stored transaction of a block at the height or below. -/
def TransactionUpTo (db : Db) (txID height : Nat) : Prop :=
  ∃ transaction ∈ db.transactions, transaction.ID = txID ∧
    ∃ block ∈ db.blocks, block.ID = transaction.blockID ∧ block.height ≤ height

instance (db : Db) (txID height : Nat) : Decidable (TransactionUpTo db txID height) :=
  inferInstanceAs (Decidable (∃ transaction ∈ _, _ ∧ ∃ block ∈ _, _))

theorem TransactionUpTo.mono {before after : Db} {txID height : Nat}
    (stored : TransactionUpTo before txID height) (blocks : before.blocks ⊆ after.blocks)
    (transactions : before.transactions ⊆ after.transactions) :
    TransactionUpTo after txID height := by
  rcases stored with ⟨transaction, known, named, block, kept, isBlock, low⟩
  exact ⟨transaction, transactions known, named, block, blocks kept, isBlock, low⟩

/-- Every row refers to a stored one, and a current state to an action of a block at its height
or below. -/
structure IndexTables.Intact (tables : IndexTables) : Prop where
  wellFormed : tables.db.WellFormed
  derived : tables.derived.Intact tables.txIDs
  contractStates : ∀ state ∈ tables.contractStates,
    state.contractActionID ∈ tables.derived.actions.map ContractAction.ID ∧
      TransactionUpTo tables.db state.contractActionID.1 state.height

theorem IndexTables.empty_intact : IndexTables.empty.Intact where
  wellFormed := Db.empty_wellFormed
  derived := by constructor <;> exact fun _ listed => by cases listed
  contractStates := nofun

/-- Whether a block is stored: its parent is there if required, and it is new. -/
def stores (db : Db) (block : IndexedBlock) (requireParent : Bool) : Bool :=
  !(requireParent && 0 < block.height && (db.blockByHash block.parentHash).isNone) &&
    !violatesUnique db block.prep

/-- The tables with a new block. -/
def IndexTables.withBlock (tables : IndexTables) (block : IndexedBlock) : IndexTables :=
  { tables with
    db := writeBlock tables.db block.prep
    derived := tables.derived.insert (derivedRows
      ((newRows tables.db block.prep).txRows.map Transaction.ID) block.extrinsics) }

theorem tableStep_persist (config : SupplementConfig) (tables : IndexTables)
    (block : IndexedBlock) (requireParent : Bool) :
    tableStep config tables (.persist block requireParent) =
      if stores tables.db block requireParent then tables.withBlock block else tables := by
  simp only [tableStep, persistTables, persistFromNode]
  by_cases orphan : requireParent ∧ 0 < block.prep.height ∧
      (tables.db.blockByHash block.prep.parentHash).isNone
  · have refused : stores tables.db block requireParent = false := by
      rcases orphan with ⟨required, positive, missing⟩
      have positive' : 0 < block.height := positive
      have missing' : (tables.db.blockByHash block.parentHash).isNone := missing
      simp only [stores, required, positive', missing', decide_true, Bool.and_self, Bool.not_true,
        Bool.false_and]
    rw [if_pos orphan, refused]
    rfl
  have parented : (requireParent && 0 < block.height &&
      (tables.db.blockByHash block.parentHash).isNone) = false := by
    rw [Bool.eq_false_iff]
    intro all
    rw [Bool.and_eq_true, Bool.and_eq_true, decide_eq_true_eq] at all
    exact orphan ⟨all.1.1, all.1.2, all.2⟩
  by_cases taken : violatesUnique tables.db block.prep
  · have refused : stores tables.db block requireParent = false := by
      simp only [stores, taken, Bool.not_true, Bool.and_false]
    by_cases known : tables.db.blockExists block.prep.blockHash
    · simp only [orphan, taken, known, refused, if_true, if_false, Bool.false_eq_true]
    · simp only [orphan, taken, known, refused, if_true, if_false, Bool.false_eq_true]
  · have accepted : stores tables.db block requireParent = true := by
      simp only [stores, parented, taken, Bool.not_false, Bool.and_self]
    simp only [orphan, taken, accepted, if_false, if_true, Bool.false_eq_true]
    rfl

/-- What a rollback does below the transactions. -/
theorem rollbackTables_cases (tables : IndexTables) (fromHeight : Nat) :
    ((∀ block ∈ tables.db.blocks, block.height < fromHeight) ∧ rollbackTables tables fromHeight =
        { tables with db := rollbackIndexedDataFromHeight tables.db fromHeight }) ∨
    (removedBlocks tables.db fromHeight ≠ [] ∧ rollbackTables tables fromHeight = {
        db := rollbackIndexedDataFromHeight tables.db fromHeight
        derived := tables.derived.without (removedTxs tables.db fromHeight)
        contractStates :=
          tables.contractStates.filter fun state => state.height < fromHeight }) := by
  by_cases none : removedBlocks tables.db fromHeight = []
  · refine .inl ⟨?_, if_pos none⟩
    intro block stored
    rw [removedBlocks, List.map_eq_nil_iff, List.filter_eq_nil_iff] at none
    simpa using none block stored
  · exact .inr ⟨none, if_neg none⟩

namespace IndexTables.Intact

variable {tables : IndexTables}

variable (intact : tables.Intact)

include intact

theorem withBlock (block : IndexedBlock) :
    (tables.withBlock block).Intact where
  wellFormed := writeBlock_wellFormed block.prep intact.wellFormed
  derived := by
    have txIDs : (writeBlock tables.db block.prep).transactions.map Transaction.ID =
        tables.txIDs ++ (newRows tables.db block.prep).txRows.map Transaction.ID :=
      List.map_append
    show DerivedRows.Intact ((writeBlock tables.db block.prep).transactions.map _) _
    rw [txIDs]
    exact intact.derived.insert (derivedRows_intact _ _)
  contractStates := by
    intro state stored
    rcases intact.contractStates state stored with ⟨action, located⟩
    constructor
    · show _ ∈ (tables.derived.actions ++ _).map _
      rw [List.map_append]
      exact List.mem_append_left _ action
    · exact located.mono (List.subset_append_left ..) (List.subset_append_left ..)

/-- The supplement's database transaction. Of a transaction that is not stored it must not report
events, and a current state it records must not be filed below its action's block. -/
theorem supplement (config : SupplementConfig) {txID height : Nat}
    {answer : SupplementTransaction}
    (zswap : answer.zswapEvents ≠ [] → txID ∈ tables.txIDs)
    (dust : answer.dustEvents ≠ [] → txID ∈ tables.txIDs)
    (located : recordsState tables.contractStates height
      (pairedActions (actionsOf tables.derived txID) answer.contractActions) →
        TransactionUpTo tables.db txID height) :
    (supplementTransaction config txID height answer tables).Intact := by
  rw [supplementTransaction_eq]
  constructor
  · exact dust_wellFormed (applyDustFlags_rows answer.dustRegisteredOutputs tables.db.utxos)
      intact.wellFormed
  · exact intact.derived.supplementRows config zswap dust
  · intro state stored
    show state.contractActionID ∈ (supplementRows config txID answer tables.derived).actions.map
      ContractAction.ID ∧ TransactionUpTo tables.db state.contractActionID.1 state.height
    rw [supplementRows_actionIDs]
    rcases mem_assignCurrentStates stored with old | ⟨same, ⟨pair, paired, named⟩, recorded⟩
    · exact intact.contractStates state old
    · rcases mem_actionsOf.mp (mem_pairedActions paired).1 with ⟨listed, own⟩
      rw [named, same]
      refine ⟨List.mem_map_of_mem listed, ?_⟩
      show TransactionUpTo tables.db pair.1.transactionID height
      rw [own]
      exact located recorded

/-- A write below the transactions that keeps the actions' names. -/
theorem onRows {write : DerivedRows → DerivedRows}
    (derived : (write tables.derived).Intact tables.txIDs)
    (names : (write tables.derived).actions.map ContractAction.ID =
      tables.derived.actions.map ContractAction.ID) : (tables.onRows write).Intact where
  wellFormed := intact.wellFormed
  derived := derived
  contractStates := by
    intro state stored
    show state.contractActionID ∈ (write tables.derived).actions.map ContractAction.ID ∧ _
    rw [names]
    exact intact.contractStates state stored

theorem setSync (sync : SyncState) : (tables.setSync sync).Intact where
  wellFormed := { intact.wellFormed with }
  derived := intact.derived
  contractStates := intact.contractStates

theorem decode (txID : Nat) (payload : LedgerPayload) :
    (tables.onRows (decodeTransaction txID payload)).Intact :=
  intact.onRows (intact.derived.decodeTransaction payload) (decodeTransaction_actionIDs ..)

theorem backfill (txID : Nat) :
    (tables.onRows (backfillIdentifiers txID)).Intact :=
  intact.onRows intact.derived.backfillIdentifiers
    (congrArg (List.map ContractAction.ID) (backfillIdentifiers_actions ..))

/-- The transactions left by a rollback. -/
theorem left_of_kept {fromHeight txID : Nat}
    (known : txID ∈ tables.txIDs) (kept : txID ∉ removedTxs tables.db fromHeight) :
    txID ∈ (deleteFrom tables.db fromHeight).transactions.map Transaction.ID :=
  (mem_keptTxIDs fromHeight intact.wellFormed).mpr ⟨known, kept⟩

/-- A transaction of a lower block is not removed. -/
theorem outsideof_transactionAt {fromHeight txID height : Nat}
    (located : TransactionUpTo tables.db txID height) (low : height < fromHeight) :
    txID ∉ removedTxs tables.db fromHeight ∧
      TransactionUpTo (deleteFrom tables.db fromHeight) txID height := by
  have wf := intact.wellFormed
  rcases located with ⟨transaction, stored, rfl, block, known, isBlock, within⟩
  have keptBlock : block.ID ∉ removedBlocks tables.db fromHeight := by
    intro removed
    have high := (mem_removedBlocks fromHeight wf known).mp removed
    omega
  have keptTx : transaction.blockID ∉ removedBlocks tables.db fromHeight := isBlock ▸ keptBlock
  constructor
  · exact fun removed => keptTx ((mem_removedTxs fromHeight wf stored).mp removed)
  · exact ⟨transaction, List.mem_filter.mpr ⟨stored, decide_eq_true keptTx⟩, rfl, block,
      List.mem_filter.mpr ⟨known, decide_eq_true keptBlock⟩, isBlock, within⟩

theorem rollback (fromHeight : Nat) :
    (rollbackTables tables fromHeight).Intact := by
  have wf := rollback_wellFormed fromHeight intact.wellFormed
  unfold rollbackTables
  rcases rollback_cases tables.db fromHeight with ⟨low, same, _⟩ | ⟨some, same, _⟩
  · have none : removedBlocks tables.db fromHeight = [] := by
      rw [removedBlocks, List.map_eq_nil_iff, List.filter_eq_nil_iff]
      intro block stored
      simpa using low block stored
    rw [if_pos none]
    refine ⟨wf, ?_, ?_⟩
    · show tables.derived.Intact
        ((rollbackIndexedDataFromHeight tables.db fromHeight).transactions.map _)
      rw [same.transactions]
      exact intact.derived
    · intro state stored
      rcases intact.contractStates state stored with ⟨action, located⟩
      exact ⟨action, located.mono (by rw [same.blocks]; exact List.Subset.refl _)
        (by rw [same.transactions]; exact List.Subset.refl _)⟩
  · have removed : removedBlocks tables.db fromHeight ≠ [] := by
      rcases some with ⟨block, stored, high⟩
      exact List.ne_nil_of_mem ((mem_removedBlocks fromHeight intact.wellFormed stored).mpr high)
    rw [if_neg removed]
    refine ⟨wf, ?_, ?_⟩
    · show (tables.derived.without _).Intact
        ((rollbackIndexedDataFromHeight tables.db fromHeight).transactions.map _)
      rw [same.transactions, intact.derived.without_eq_cut]
      exact intact.derived.cut fun txID known kept => intact.left_of_kept known kept
    · intro state listed
      rcases List.mem_filter.mp listed with ⟨stored, low⟩
      rcases intact.contractStates state stored with ⟨action, located⟩
      rcases intact.outsideof_transactionAt located (of_decide_eq_true low) with ⟨kept, left⟩
      constructor
      · show _ ∈ (tables.derived.without _).actions.map _
        rcases List.mem_map.mp action with ⟨row, rowStored, named⟩
        rw [← named] at kept ⊢
        exact List.mem_map_of_mem (mem_deleteOf.mpr ⟨rowStored, kept⟩)
      · exact left.mono (by rw [same.blocks]; exact List.Subset.refl _)
          (by rw [same.transactions]; exact List.Subset.refl _)

end IndexTables.Intact

end Nightgate.Crawler
