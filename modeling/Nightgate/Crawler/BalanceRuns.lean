import Nightgate.Crawler.NightBalances

/-!
# Balances over whole runs of the index

Blocks, rollbacks and dust registrations in any order. The invariant is that
every stored row carries the recomputed figures; a block keeps it when it is not
stored below the activity of an address it touches, and a rollback always keeps
it.
-/

namespace Nightgate.Crawler

/-- Over well-formed tables the figures are determined by the tally and by which
heights occur. -/
theorem computeNightBalance_congr {before after : Db} (wfBefore : before.WellFormed)
    (wfAfter : after.WellFormed) {address : Address}
    (tally : after.tally address = before.tally address)
    (heights : ∀ height, height ∈ activityHeights after address ↔
      height ∈ activityHeights before address) :
    computeNightBalance after address = computeNightBalance before address := by
  have quiet : NoActivity after address ↔ NoActivity before address := by
    rw [noActivity_iff wfAfter, noActivity_iff wfBefore,
      List.eq_nil_iff_forall_not_mem, List.eq_nil_iff_forall_not_mem]
    exact forall_congr' fun height => not_congr (heights height)
  rw [computeNightBalance_eq, computeNightBalance_eq, figuresOf_congr tally heights]
  simp only [quiet]

/-- The addresses whose NIGHT a block moves on this database. -/
def touchedAddresses (db : Db) (prep : PreparedBlock) : List Address :=
  prep.extrinsics.flatMap fun projection =>
    ((sentAmount projection.senderAddress projection.receiverAddress
      projection.nightAmount).map Prod.fst).toList ++
    (projection.created.filter fun utxo =>
      utxo.tokenType = NIGHT_RAW_TOKEN_TYPE).map PreparedUtxo.owner ++
    projection.spent.flatMap fun spend =>
      (db.utxos.filter fun utxo =>
        utxo.intentHash = spend.intentHash ∧ utxo.outputIndex = spend.outputIndex ∧
          utxo.tokenType = NIGHT_RAW_TOKEN_TYPE ∧
          utxo.spentAtTransactionID.isNone).map UnshieldedUtxo.owner

/-- No address the block touches was active in a higher block. -/
def AboveActivity (db : Db) (prep : PreparedBlock) : Prop :=
  ∀ address ∈ touchedAddresses db prep, ∀ height ∈ activityHeights db address, height ≤ prep.height

instance (db : Db) (prep : PreparedBlock) : Decidable (AboveActivity db prep) :=
  inferInstanceAs (Decidable (∀ address ∈ _, _))

section WriteBlock

variable {db : Db} (prep : PreparedBlock)

theorem mem_touchedAddresses (wf : db.WellFormed) {address : Address}
    (touched : address ∈ (spentRows db prep).2) : address ∈ touchedAddresses db prep := by
  have origin := collectBlock_from db.nextID (db.nextID + 1) prep
  have sound := newRows_sound db prep
  rw [touchedAddresses, List.mem_flatMap]
  simp only [List.mem_append, List.mem_map, List.mem_filter, List.mem_flatMap,
    Option.mem_toList, decide_eq_true_eq]
  have receives : ∀ utxo ∈ (newRows db prep).utxoRows, utxo.owner = address →
      utxo.tokenType = NIGHT_RAW_TOKEN_TYPE → ∃ projection ∈ prep.extrinsics,
        ∃ created ∈ projection.created,
          created.tokenType = NIGHT_RAW_TOKEN_TYPE ∧ created.owner = address := by
    intro utxo new owner night
    obtain ⟨projection, known, created, isCreated, sameOwner, sameType⟩ :=
      origin.utxoRows utxo new
    exact ⟨projection, known, created, isCreated, sameType ▸ night, sameOwner ▸ owner⟩
  rw [(spentRows_applied prep wf).touched, sound.touched] at touched
  rcases touched with (⟨transaction, new, sent⟩ | ⟨utxo, new, owner, night⟩) |
    ⟨utxo, stored, owner, night, request, known, spent⟩
  · obtain ⟨projection, known, same⟩ := origin.txRows transaction new
    refine ⟨projection, known, .inl (.inl ?_)⟩
    rw [same] at sent
    simp only [Transaction.sentBy, transactionRow] at sent
    cases amount : sentAmount projection.senderAddress projection.receiverAddress
        projection.nightAmount with
    | none => simp [amount] at sent
    | some pair =>
      obtain ⟨sender, value⟩ := pair
      by_cases mine : sender = address
      · simp [mine]
      · simp [amount, mine] at sent
  · obtain ⟨projection, known, created, isCreated, isNight, isOwner⟩ :=
      receives utxo new owner night
    exact ⟨projection, known, .inl (.inr ⟨created, ⟨isCreated, isNight⟩, isOwner⟩)⟩
  · obtain ⟨before, source, change⟩ := mem_spentRows prep wf stored
    have beforeOwner : before.owner = address ∧ before.tokenType = NIGHT_RAW_TOKEN_TYPE := by
      rcases change with rfl | ⟨_, _, _, _, _, rfl⟩ <;> exact ⟨owner, night⟩
    rcases List.mem_append.mp source with old | new
    · rcases change with rfl | ⟨unspent, by_, byKnown, intentHash, outputIndex, rfl⟩
      · have below := lt_of_oldTx wf ((wf.utxos utxo old).2.2 _ spent)
        have above := lt_of_newTx prep (sound.spends request known)
        omega
      · obtain ⟨projection, isKnown, isSpent⟩ := origin.spendRequests by_ byKnown
        exact ⟨projection, isKnown, .inr ⟨by_.spend, isSpent, before,
          ⟨old, intentHash, outputIndex, beforeOwner.2, by simp [unspent]⟩,
          beforeOwner.1⟩⟩
    · obtain ⟨projection, isKnown, created, isCreated, isNight, isOwner⟩ :=
        receives before new beforeOwner.1 beforeOwner.2
      exact ⟨projection, isKnown, .inl (.inr ⟨created, ⟨isCreated, isNight⟩, isOwner⟩)⟩

/-- A block stored above the activity of the addresses it touches leaves the
recomputed figures in every row. -/
theorem writeBlock_agree (wf : db.WellFormed) (agree : BalancesAgree db)
    (above : AboveActivity db prep) : BalancesAgree (writeBlock db prep) := by
  intro address
  have lookup := applyBalanceDeltas_lookup prep.height db.nightBalances
    (spentRows db prep).2 address
  have tally := writeBlock_tally prep wf address
  have stored := agree address
  show ((applyBalanceDeltas prep.height db.nightBalances
    (spentRows db prep).2).lookup address).map NightBalance.figures = _
  rw [lookup]
  by_cases touched : address ∈ (spentRows db prep).2
  · obtain ⟨delta, found⟩ := Option.isSome_iff_exists.mp (AList.lookup_isSome.mpr touched)
    have deltaEq : (spentRows db prep).2.of address = delta := by
      simp [BalanceDeltas.of, found]
    have members : ∀ height, height ∈ activityHeights (writeBlock db prep) address ↔
        height = prep.height ∨ height ∈ activityHeights db address := by
      intro height
      rw [writeBlock_heights prep wf]
      simp only [touched, and_true]
    obtain ⟨lowest, highest⟩ := min?_max?_insert members
      (above address (mem_touchedAddresses prep wf touched))
    have active : ¬ NoActivity (writeBlock db prep) address := by
      rw [noActivity_iff (writeBlock_wellFormed prep wf)]
      intro empty
      simp [empty] at lowest
    rw [found, computeNightBalance_eq, if_neg active, Option.map_some, tally, deltaEq]
    rw [computeNightBalance_eq] at stored
    by_cases quiet : NoActivity db address
    · have noHeights := (noActivity_iff wf).mp quiet
      rw [if_pos quiet, Option.map_eq_none_iff] at stored
      simp [stored, balanceAfter, insertedBalance, NightBalance.figures, figuresOf,
        tally_eq_zero quiet, lowest, highest, noHeights]
    · rw [if_neg quiet, Option.map_eq_some_iff] at stored
      obtain ⟨row, rowFound, rowFigures⟩ := stored
      obtain ⟨low, lowEq⟩ : ∃ low, (activityHeights db address).min? = some low := by
        rw [← Option.isSome_iff_exists, Option.isSome_iff_ne_none]
        intro none
        exact quiet ((noActivity_iff wf).mpr (List.min?_eq_none_iff.mp none))
      have seen : row.firstSeenHeight = some low := by
        rw [← lowEq]
        exact congrArg NightBalanceFigures.firstSeenHeight rowFigures
      simp only [NightBalance.figures, figuresOf, NightBalanceFigures.mk.injEq] at rowFigures
      simp [rowFound, balanceAfter, updatedBalance, NightBalance.figures, figuresOf,
        lowest, highest, seen, lowEq, rowFigures]
  · have absent : (spentRows db prep).2.lookup address = none :=
      AList.lookup_eq_none.mpr touched
    rw [absent, stored]
    refine (computeNightBalance_congr wf (writeBlock_wellFormed prep wf) ?_ ?_).symm
    · rw [tally, BalanceDeltas.of, absent]
      exact add_zero _
    · intro height
      rw [writeBlock_heights prep wf]
      simp only [touched, and_false, false_or]

theorem writeBlock_noDust (noDust : NoDustRows db) : NoDustRows (writeBlock db prep) := by
  intro address row found
  have lookup := applyBalanceDeltas_lookup prep.height db.nightBalances
    (spentRows db prep).2 address
  rw [show (writeBlock db prep).nightBalances = applyBalanceDeltas prep.height
    db.nightBalances (spentRows db prep).2 from rfl, lookup] at found
  split at found
  · exact noDust address row found
  · obtain rfl := Option.some.inj found
    cases existing : db.nightBalances.lookup address with
    | none => exact ⟨rfl, rfl⟩
    | some row => exact noDust address row existing

end WriteBlock

/-! ## One rollback -/

section Rollback

variable {db : Db} (fromHeight : Nat)

variable {address : Address}

/-- What the rows of an address outside the recomputed ones say. -/
private theorem unaffected (outside : address ∉ rollbackAddresses db fromHeight) :
    (∀ transaction ∈ db.transactions, (transaction.sentBy address).isSome →
      transaction.blockID ∉ removedBlocks db fromHeight) ∧
    ∀ utxo ∈ db.utxos, utxo.owner = address →
      utxo.createdAtTransactionID ∉ removedTxs db fromHeight ∧
        ∀ txID, utxo.spentAtTransactionID = some txID → txID ∉ removedTxs db fromHeight := by
  simp only [rollbackAddresses, affectedAddresses, List.mem_dedup, List.mem_append,
    not_or] at outside
  obtain ⟨⟨⟨notSender, _⟩, notCreator⟩, notSpender⟩ := outside
  refine ⟨?_, ?_⟩
  · intro transaction stored sent removed
    refine notSender (List.mem_filterMap.mpr
      ⟨transaction, List.mem_filter.mpr ⟨stored, decide_eq_true removed⟩, ?_⟩)
    unfold Transaction.sentBy sentAmount at sent
    grind
  · intro utxo stored owner
    constructor
    · intro removed
      exact notCreator (List.mem_map.mpr
        ⟨utxo, List.mem_filter.mpr ⟨stored, decide_eq_true removed⟩, owner⟩)
    · intro txID spent removed
      exact notSpender (List.mem_map.mpr
        ⟨utxo, List.mem_filter.mpr ⟨stored, by simpa [spent] using removed⟩, owner⟩)

private theorem utxoTally_without {txIDs : List Nat} {utxos : List UnshieldedUtxo}
    (kept : ∀ utxo ∈ utxos, utxo.owner = address → utxo.createdAtTransactionID ∉ txIDs ∧
        ∀ txID, utxo.spentAtTransactionID = some txID → txID ∉ txIDs) :
    utxoTally (utxosWithout txIDs utxos) address = utxoTally utxos address := by
  induction utxos with
  | nil => rfl
  | cons utxo utxos ih =>
    obtain ⟨here, later⟩ := List.forall_mem_cons.mp kept
    have tail := ih later
    by_cases mine : utxo.owner = address
    · obtain ⟨created, spent⟩ := here mine
      have unchanged : ¬ utxo.spentAtTransactionID.any (· ∈ txIDs) := by
        cases isSpent : utxo.spentAtTransactionID with
        | none => simp
        | some txID => simpa using spent txID isSpent
      simpa [utxosWithout, created, unchanged] using
        congrArg (utxo.contribution address + ·) tail
    · have nothing : utxo.contribution address = 0 := by
        simp [UnshieldedUtxo.contribution, mine]
      have nothingUnspent : UnshieldedUtxo.contribution address
          { utxo with spentAtTransactionID := none } = 0 := by
        simp [UnshieldedUtxo.contribution, mine]
      by_cases removed : utxo.createdAtTransactionID ∈ txIDs
      · simpa [utxosWithout, removed, nothing] using tail
      · by_cases unspent : utxo.spentAtTransactionID.any (· ∈ txIDs)
        · simpa [utxosWithout, removed, unspent, nothing, nothingUnspent] using tail
        · simpa [utxosWithout, removed, unspent, nothing] using tail

private theorem sentTally_without {blockIDs : List Nat} {transactions : List Transaction}
    (kept : ∀ transaction ∈ transactions,
      (transaction.sentBy address).isSome → transaction.blockID ∉ blockIDs) :
    sentTally (transactions.filter fun transaction => transaction.blockID ∉ blockIDs)
      address = sentTally transactions address := by
  induction transactions with
  | nil => rfl
  | cons transaction transactions ih =>
    obtain ⟨here, later⟩ := List.forall_mem_cons.mp kept
    have tail := ih later
    by_cases removed : transaction.blockID ∈ blockIDs
    · have silent : transaction.sentBy address = none := by
        rw [← Option.not_isSome_iff_eq_none]
        exact fun sent => here sent removed
      simpa [removed, Transaction.contribution, silent] using tail
    · simpa [removed] using congrArg (transaction.contribution address + ·) tail

/-- An output that is left was there before, spent by at least the same transaction. -/
private theorem utxosWithout_origin {txIDs : List Nat} {utxos : List UnshieldedUtxo}
    {after : UnshieldedUtxo} (stored : after ∈ utxosWithout txIDs utxos) :
    ∃ before ∈ utxos, before.owner = after.owner ∧ before.tokenType = after.tokenType ∧
      before.createdAtTransactionID = after.createdAtTransactionID ∧
      ∀ txID, after.spentAtTransactionID = some txID → before.spentAtTransactionID = some txID := by
  obtain ⟨before, membership, _, rfl⟩ := mem_utxosWithout.mp stored
  refine ⟨before, membership, ?_⟩
  split
  · exact ⟨rfl, rfl, rfl, by simp⟩
  · exact ⟨rfl, rfl, rfl, fun _ spent => spent⟩

/-- Removing blocks leaves the figures of the other addresses alone. -/
theorem deleteFrom_compute (wf : db.WellFormed)
    (outside : address ∉ rollbackAddresses db fromHeight) :
    computeNightBalance (deleteFrom db fromHeight) address = computeNightBalance db address := by
  obtain ⟨sends, owns⟩ := unaffected fromHeight outside
  refine computeNightBalance_congr wf (deleteFrom_wellFormed fromHeight wf) ?_ ?_
  · exact congrArg₂ (· + ·) (utxoTally_without owns) (sentTally_without sends)
  · intro height
    rw [mem_activityHeights, mem_activityHeights]
    constructor
    · rintro ⟨block, blockKept, same, transaction, txKept, inBlock, active⟩
      refine ⟨block, List.mem_of_mem_filter blockKept, same, transaction,
        List.mem_of_mem_filter txKept, inBlock, active.imp_right ?_⟩
      rintro ⟨utxo, stored, owner, night, link⟩
      obtain ⟨before, beforeStored, sameOwner, sameType, sameCreated, spent⟩ :=
        utxosWithout_origin stored
      exact ⟨before, beforeStored, sameOwner.trans owner, sameType.trans night,
        link.imp sameCreated.trans (spent _)⟩
    · rintro ⟨block, blockStored, same, transaction, txStored, inBlock, active⟩
      have kept : transaction.blockID ∉ removedBlocks db fromHeight := by
        intro removed
        rcases active with sent | ⟨utxo, stored, owner, _, created | spent⟩
        · exact sends transaction txStored sent removed
        · exact (owns utxo stored owner).1
            (created ▸ (mem_removedTxs fromHeight wf txStored).mpr removed)
        · exact (owns utxo stored owner).2 _ spent
            ((mem_removedTxs fromHeight wf txStored).mpr removed)
      refine ⟨block, List.mem_filter.mpr ⟨blockStored, decide_eq_true (inBlock ▸ kept)⟩,
        same, transaction, List.mem_filter.mpr ⟨txStored, decide_eq_true kept⟩, inBlock,
        active.imp_right ?_⟩
      rintro ⟨utxo, stored, owner, night, link⟩
      obtain ⟨created, spent⟩ := owns utxo stored owner
      refine ⟨utxo, mem_utxosWithout.mpr ⟨utxo, stored, created, ?_⟩, owner, night, link⟩
      rw [if_neg]
      cases isSpent : utxo.spentAtTransactionID with
      | none => simp
      | some txID => simpa using spent txID isSpent

/-- A recomputed row carries the recomputed figures. -/
theorem recomputedBalance_figures (figures : Option NightBalanceFigures)
    {existing : Option NightBalance}
    (noDust : ∀ row, existing = some row → row.dustAddress = none ∧ row.isDustRegistered = false) :
    (recomputedBalance figures existing).map NightBalance.figures = figures := by
  cases figures with
  | some figures => cases existing <;> rfl
  | none =>
    cases existing with
    | none => rfl
    | some row =>
      obtain ⟨noAddress, notRegistered⟩ := noDust row rfl
      simp [recomputedBalance, noAddress, notRegistered]

theorem recomputedBalance_noDust {figures : Option NightBalanceFigures}
    {existing : Option NightBalance}
    (noDust : ∀ row, existing = some row → row.dustAddress = none ∧ row.isDustRegistered = false)
    {row : NightBalance} (found : recomputedBalance figures existing = some row) :
    row.dustAddress = none ∧ row.isDustRegistered = false := by
  cases figures with
  | some figures =>
    cases existing with
    | none =>
      obtain rfl := Option.some.inj found
      exact ⟨rfl, rfl⟩
    | some before =>
      obtain rfl := Option.some.inj found
      exact noDust before rfl
  | none =>
    cases existing with
    | none => cases found
    | some before =>
      obtain ⟨noAddress, notRegistered⟩ := noDust before rfl
      simp [recomputedBalance, noAddress, notRegistered] at found

/-- A rollback leaves the recomputed figures in every row, whatever the order the
removed blocks were stored in. -/
theorem rollback_invariant (invariant : BalanceInvariant db) :
    BalanceInvariant (rollbackIndexedDataFromHeight db fromHeight) := by
  rcases invariant with ⟨wf, agree, noDust⟩
  have wfAfter := rollback_wellFormed fromHeight wf
  rcases rollback_cases db fromHeight with ⟨_, same, _, balances⟩ | ⟨_, same, _, lookups⟩
  · constructor
    · exact wfAfter
    · intro address
      rw [balances, same.compute]
      exact agree address
    · intro address row found
      rw [balances] at found
      exact noDust address row found
  · constructor
    · exact wfAfter
    · intro address
      rw [same.compute, lookups]
      split
      · exact recomputedBalance_figures _ fun row found => noDust address row found
      next outside =>
        rw [deleteFrom_compute fromHeight wf outside]
        exact agree address
    · intro address row found
      rw [lookups] at found
      split at found
      · exact recomputedBalance_noDust (fun row found => noDust address row found) found
      · exact noDust address row found

end Rollback

/-- `applyDustFlags`: a dust registration marks outputs and no balance row. -/
def applyDustFlags (db : Db) (outputs : List Spend) : Db :=
  { db with
    utxos := outputs.foldl (fun utxos output => utxos.map fun utxo =>
      if utxo.intentHash = output.intentHash ∧ utxo.outputIndex = output.outputIndex then
        { utxo with registeredForDustGeneration := true }
      else utxo) db.utxos }

/-- An output row that differs at most in its dust flag. -/
def SameButDust (before after : UnshieldedUtxo) : Prop :=
  ∃ flag, after = { before with registeredForDustGeneration := flag }

theorem applyDustFlags_rows (outputs : List Spend) (utxos : List UnshieldedUtxo) :
    List.Forall₂ SameButDust utxos (outputs.foldl (fun utxos output => utxos.map fun utxo =>
        if utxo.intentHash = output.intentHash ∧ utxo.outputIndex = output.outputIndex then
          { utxo with registeredForDustGeneration := true }
        else utxo) utxos) := by
  suffices keeps : ∀ rows, List.Forall₂ SameButDust utxos rows → List.Forall₂ SameButDust utxos
        (outputs.foldl (fun utxos output => utxos.map fun utxo =>
          if utxo.intentHash = output.intentHash ∧ utxo.outputIndex = output.outputIndex then
            { utxo with registeredForDustGeneration := true }
          else utxo) rows) from
    keeps utxos (List.forall₂_same.mpr fun utxo _ => ⟨_, rfl⟩)
  induction outputs with
  | nil => exact fun _ same => same
  | cons output outputs ih =>
    intro rows same
    refine ih _ (List.forall₂_map_right_iff.mpr (same.imp ?_))
    rintro before after ⟨flag, rfl⟩
    split
    · exact ⟨true, rfl⟩
    · exact ⟨flag, rfl⟩

section DustFlags

variable {before after : List UnshieldedUtxo}

section SameButDust

variable (rows : List.Forall₂ SameButDust before after)

include rows

theorem utxoTally_dust (address : Address) :
    utxoTally after address = utxoTally before address := by
  induction rows with
  | nil => rfl
  | cons same _ ih =>
    obtain ⟨flag, rfl⟩ := same
    rw [utxoTally_cons, utxoTally_cons, ih]
    rfl

theorem activeIn_dust (address : Address) (transaction : Transaction) :
    ActiveIn after address transaction ↔ ActiveIn before address transaction := by
  refine or_congr_right ?_
  induction rows with
  | nil => rfl
  | cons same _ ih =>
    obtain ⟨flag, rfl⟩ := same
    simp only [List.exists_mem_cons_iff, ih]

private theorem map_ID_dust :
    after.map UnshieldedUtxo.ID = before.map UnshieldedUtxo.ID := by
  induction rows with
  | nil => rfl
  | cons same _ ih =>
    obtain ⟨flag, rfl⟩ := same
    rw [List.map_cons, List.map_cons, ih]

private theorem mem_dust {utxo : UnshieldedUtxo} (stored : utxo ∈ after) :
    ∃ source ∈ before, SameButDust source utxo := by
  induction rows with
  | nil => cases stored
  | cons same _ ih =>
    rcases List.mem_cons.mp stored with rfl | later
    · exact ⟨_, List.mem_cons_self, same⟩
    · obtain ⟨source, membership, isSame⟩ := ih later
      exact ⟨source, List.mem_cons_of_mem _ membership, isSame⟩

end SameButDust

theorem dust_wellFormed {db : Db} {utxos : List UnshieldedUtxo}
    (rows : List.Forall₂ SameButDust db.utxos utxos) (wf : db.WellFormed) :
    Db.WellFormed { db with utxos } where
  blocks := wf.blocks
  blocksDistinct := wf.blocksDistinct
  transactions := wf.transactions
  transactionsDistinct := wf.transactionsDistinct
  utxos := by
    intro utxo membership
    obtain ⟨source, stored, flag, rfl⟩ := mem_dust rows membership
    exact wf.utxos source stored
  utxosDistinct := by
    rw [map_ID_dust rows]
    exact wf.utxosDistinct

end DustFlags

theorem applyDustFlags_invariant {db : Db} (outputs : List Spend)
    (invariant : BalanceInvariant db) : BalanceInvariant (applyDustFlags db outputs) := by
  obtain ⟨wf, agree, noDust⟩ := invariant
  have rows := applyDustFlags_rows outputs db.utxos
  have wfAfter : (applyDustFlags db outputs).WellFormed := dust_wellFormed rows wf
  refine ⟨wfAfter, fun address => ?_, noDust⟩
  refine (agree address).trans (computeNightBalance_congr wf wfAfter ?_ ?_).symm
  · exact congrArg (· + _) (utxoTally_dust rows address)
  · intro height
    rw [mem_activityHeights, mem_activityHeights]
    simp only [applyDustFlags, activeIn_dust rows]

/-! ## Runs -/

/-- What moves the tables behind a balance. -/
inductive IndexEvent where
  | persist (prep : PreparedBlock) (requireParent : Bool)
  | rollback (fromHeight : Nat)
  | dustFlags (outputs : List Spend)

/-- A block whose transaction fails leaves the tables as they were. -/
def indexStep (db : Db) : IndexEvent → Db
  | .persist prep requireParent =>
    match persistFromNode db prep requireParent with
    | .ok after => after
    | .error _ => db
  | .rollback fromHeight => rollbackIndexedDataFromHeight db fromHeight
  | .dustFlags outputs => applyDustFlags db outputs

/-- A block that is not stored yet is indexed above the activity of the addresses
it touches. -/
def IndexedAbove (db : Db) : IndexEvent → Prop
  | .persist prep _ => db.blockExists prep.blockHash ∨ AboveActivity db prep
  | .rollback _ => True
  | .dustFlags _ => True

instance : (db : Db) → (event : IndexEvent) → Decidable (IndexedAbove db event)
  | _, .persist _ _ => inferInstanceAs (Decidable (_ ∨ _))
  | _, .rollback _ => isTrue trivial
  | _, .dustFlags _ => isTrue trivial

theorem Db.empty_balanceInvariant : BalanceInvariant Db.empty where
  wellFormed := Db.empty_wellFormed
  agree := fun _ => rfl
  noDust := nofun

/-- One event keeps every row at the recomputed figures. -/
theorem indexStep_invariant (db : Db) (event : IndexEvent)
    (invariant : BalanceInvariant db) (above : IndexedAbove db event) :
    BalanceInvariant (indexStep db event) := by
  cases event with
  | rollback fromHeight => exact rollback_invariant fromHeight invariant
  | dustFlags outputs => exact applyDustFlags_invariant outputs invariant
  | persist prep requireParent =>
    simp only [indexStep]
    cases done : persistFromNode db prep requireParent with
    | error _ => exact invariant
    | ok after =>
      rcases persistFromNode_cases done with rfl | ⟨rfl, unique, _⟩
      · exact invariant
      · have new : ¬ db.blockExists prep.blockHash := by
          rw [Db.blockExists_iff]
          rintro ⟨block, stored, same⟩
          exact (unique block stored).1 same
        exact ⟨writeBlock_wellFormed prep invariant.wellFormed,
          writeBlock_agree prep invariant.wellFormed invariant.agree (above.resolve_left new),
          writeBlock_noDust prep invariant.noDust⟩

theorem indexStep_wellFormed {db : Db} (event : IndexEvent) (wf : db.WellFormed) :
    (indexStep db event).WellFormed := by
  cases event with
  | rollback fromHeight => exact rollback_wellFormed fromHeight wf
  | dustFlags outputs => exact dust_wellFormed (applyDustFlags_rows outputs db.utxos) wf
  | persist prep requireParent =>
    simp only [indexStep]
    cases done : persistFromNode db prep requireParent with
    | error _ => exact wf
    | ok after =>
      rcases persistFromNode_cases done with rfl | ⟨rfl, _⟩
      · exact wf
      · exact writeBlock_wellFormed prep wf

open Library in
/-- Whatever blocks and rollbacks come, IDs are given once, and the block of a transaction and the
transactions of an output are stored. -/
theorem index_wellFormed (events : List IndexEvent) : (run indexStep Db.empty events).WellFormed :=
  run_invariant (fun _ event wf _ => indexStep_wellFormed event wf) Db.empty_wellFormed events
    (Along.trivial events)

open Library in
/-- In every run whose blocks are indexed above the activity of the addresses they
touch, every row of `NightBalances` carries the figures `computeNightBalance`
derives from the tables, and an address without figures has no row. -/
theorem nightBalances_eq_computed (events : List IndexEvent)
    (above : Along indexStep IndexedAbove Db.empty events) (address : Address) :
    ((run indexStep Db.empty events).nightBalances.lookup address).map NightBalance.figures =
      computeNightBalance (run indexStep Db.empty events) address :=
  (run_invariant indexStep_invariant Db.empty_balanceInvariant events above).agree address

/-- A block that pays one NIGHT output to an address. -/
def payingBlock (hash parentHash height : Nat) (owner : Address) (value : Nat) :
    PreparedBlock where
  blockHash := hash
  height := height
  parentHash := parentHash
  extrinsics := [{ EventProjection.none with
    created := [{
      owner := owner
      tokenType := NIGHT_RAW_TOKEN_TYPE
      value := value
      intentHash := hash
      outputIndex := 0 }] }]

/-- A block without token events. -/
def emptyBlock (hash parentHash height : Nat) : PreparedBlock where
  blockHash := hash
  height := height
  parentHash := parentHash
  extrinsics := [.none]

/-- An index that starts mid-chain and later takes the blocks from genesis on: the
anchor 5 and the block 6 are stored first, then genesis and the block 1. -/
def belowActivityRun : List IndexEvent := [
  .persist (emptyBlock 105 104 5) false,
  .persist (payingBlock 106 105 6 ⟨1⟩ 40) true,
  .persist (emptyBlock 100 0 0) true,
  .persist (payingBlock 101 100 1 ⟨1⟩ 2) true]

open Library in
/-- The address was last active at height 6, but its row says 1. -/
theorem nightBalances_ne_computed :
    ∃ address, ((run indexStep Db.empty belowActivityRun).nightBalances.lookup
        address).map NightBalance.figures ≠
      computeNightBalance (run indexStep Db.empty belowActivityRun) address :=
  ⟨⟨1⟩, by decide⟩

/-- A chain with a spend, a transfer, a rollback and a re-indexed height. -/
def chainRun : List IndexEvent := [
  .persist (emptyBlock 100 0 0) true,
  .persist (payingBlock 101 100 1 ⟨1⟩ 40) true,
  .persist {
    blockHash := 102
    height := 2
    parentHash := 101
    extrinsics := [{
      created := [⟨⟨2⟩, NIGHT_RAW_TOKEN_TYPE, 15, 202, 0⟩, ⟨⟨1⟩, NIGHT_RAW_TOKEN_TYPE, 25, 202, 1⟩]
      spent := [⟨101, 0⟩]
      senderAddress := some ⟨1⟩
      receiverAddress := some ⟨2⟩
      nightAmount := some 15 }] } true,
  .dustFlags [⟨202, 1⟩],
  .rollback 2,
  .persist (payingBlock 112 101 2 ⟨2⟩ 7) true]

open Library in
theorem nightBalances_eq_computed_chain :
    ((run indexStep Db.empty chainRun).nightBalances.lookup ⟨2⟩).map NightBalance.figures =
      computeNightBalance (run indexStep Db.empty chainRun) ⟨2⟩ :=
  nightBalances_eq_computed chainRun (by decide) ⟨2⟩

end Nightgate.Crawler
