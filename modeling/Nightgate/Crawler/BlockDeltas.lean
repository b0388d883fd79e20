import Nightgate.Crawler.Tally

/-!
# The deltas of one block

What the loops of `persistFromNode` guarantee: the delta of an address is the
tally of the rows the block adds for it minus what the block spends of it, and an
address has a delta exactly when a transaction of the block is activity of it.
-/

namespace Nightgate.Crawler

private theorem collectUtxos_rows (txID : Nat) (created : List PreparedUtxo) (acc : Collected) :
    (created.foldl (collectUtxo txID) acc).txRows = acc.txRows ∧
    (created.foldl (collectUtxo txID) acc).spendRequests = acc.spendRequests ∧
    ∀ utxo ∈ (created.foldl (collectUtxo txID) acc).utxoRows, utxo ∈ acc.utxoRows ∨
      ∃ source ∈ created, utxo.owner = source.owner ∧ utxo.tokenType = source.tokenType := by
  induction created generalizing acc with
  | nil => exact ⟨rfl, rfl, fun _ => .inl⟩
  | cons head created ih =>
    obtain ⟨txRows, spendRequests, utxoRows⟩ := ih (collectUtxo txID acc head)
    refine ⟨txRows, spendRequests, ?_⟩
    intro utxo membership
    rcases utxoRows utxo membership with before | ⟨source, later, same⟩
    · rcases List.mem_append.mp before with old | new
      · exact .inl old
      · obtain rfl := List.mem_singleton.mp new
        exact .inr ⟨head, List.mem_cons_self, rfl, rfl⟩
    · exact .inr ⟨source, List.mem_cons_of_mem _ later, same⟩

/-- The rows one extrinsic adds. -/
theorem collectExtrinsic_rows (blockID : Nat) (acc : Collected) (projection : EventProjection) :
    (collectExtrinsic blockID acc projection).txRows =
      acc.txRows ++ [transactionRow acc.nextID blockID projection] ∧
    (collectExtrinsic blockID acc projection).spendRequests = acc.spendRequests ++
      projection.spent.map (fun spend => { spend, txID := acc.nextID }) ∧
    ∀ utxo ∈ (collectExtrinsic blockID acc projection).utxoRows, utxo ∈ acc.utxoRows ∨
      ∃ source ∈ projection.created,
        utxo.owner = source.owner ∧ utxo.tokenType = source.tokenType := by
  have rows := collectUtxos_rows acc.nextID projection.created
    { acc with
      txRows := acc.txRows ++ [transactionRow acc.nextID blockID projection]
      nextID := acc.nextID + 1 }
  unfold collectExtrinsic
  cases sentAmount projection.senderAddress projection.receiverAddress projection.nightAmount with
  | none | some => exact ⟨rows.1, by simp [rows.2.1], rows.2.2⟩

/-! ## What they add up to -/

/-- What the loop over the extrinsics keeps. `counted` are the transactions whose
sent amount is in the deltas already. -/
structure Collected.Sound (blockID firstID : Nat) (counted : List Transaction)
    (acc : Collected) : Prop where
  deltas : ∀ address, acc.balanceDeltas.of address =
    utxoTally acc.utxoRows address + sentTally counted address
  touched : ∀ address, address ∈ acc.balanceDeltas ↔
    (∃ transaction ∈ counted, (transaction.sentBy address).isSome) ∨
      ∃ utxo ∈ acc.utxoRows, utxo.owner = address ∧ utxo.tokenType = NIGHT_RAW_TOKEN_TYPE
  txRows : ∀ transaction ∈ acc.txRows, transaction.blockID = blockID ∧
    firstID ≤ transaction.ID ∧ transaction.ID < acc.nextID
  txDistinct : (acc.txRows.map Transaction.ID).Nodup
  utxoRows : ∀ utxo ∈ acc.utxoRows, firstID ≤ utxo.ID ∧ utxo.ID < acc.nextID ∧
    utxo.createdAtTransactionID ∈ acc.txRows.map Transaction.ID ∧
    utxo.spentAtTransactionID = none
  utxoDistinct : (acc.utxoRows.map UnshieldedUtxo.ID).Nodup
  spends : ∀ request ∈ acc.spendRequests, request.txID ∈ acc.txRows.map Transaction.ID
  fresh : firstID ≤ acc.nextID

namespace Collected.Sound

variable {blockID firstID : Nat} {counted : List Transaction} {acc : Collected}

theorem start (blockID firstID : Nat) :
    Collected.Sound blockID firstID []
      { txRows := [], utxoRows := [], spendRequests := [], balanceDeltas := ∅,
        nextID := firstID } where
  deltas := fun _ => rfl
  touched := by simp
  txRows := by simp
  txDistinct := by simp
  utxoRows := by simp
  utxoDistinct := by simp
  spends := by simp
  fresh := le_rfl

section Sound

variable (sound : acc.Sound blockID firstID counted)

include sound

/-- A created output keeps the invariant. -/
theorem collectUtxo {txID : Nat}
    (known : txID ∈ acc.txRows.map Transaction.ID) (utxo : PreparedUtxo) :
    (Crawler.collectUtxo txID acc utxo).Sound blockID firstID counted where
  deltas := by
    intro address
    by_cases night : utxo.tokenType = NIGHT_RAW_TOKEN_TYPE
    · by_cases mine : address = utxo.owner
      · subst mine
        have added := BalanceDelta.receive_eq_add
          (utxoTally acc.utxoRows utxo.owner + sentTally counted utxo.owner) utxo.value
        simp [Crawler.collectUtxo, night, BalanceDeltas.of_update, sound.deltas,
          UnshieldedUtxo.contribution, added, add_right_comm]
      · simp [Crawler.collectUtxo, night, BalanceDeltas.of_update, sound.deltas,
          UnshieldedUtxo.contribution, mine, Ne.symm mine]
    · simp [Crawler.collectUtxo, night, sound.deltas, UnshieldedUtxo.contribution]
  touched := by
    intro address
    by_cases night : utxo.tokenType = NIGHT_RAW_TOKEN_TYPE
    · simp only [Crawler.collectUtxo, night, ne_eq, not_true_eq_false, if_false,
        BalanceDeltas.mem_update, sound.touched, List.mem_append, List.mem_singleton,
        or_and_right, exists_or, exists_eq_left, and_true, eq_comm (a := address)]
      exact or_comm.trans or_assoc
    · simp only [Crawler.collectUtxo, night, ne_eq, not_false_eq_true, if_true,
        sound.touched, List.mem_append, List.mem_singleton, or_and_right, exists_or,
        exists_eq_left, and_false, or_false]
  txRows := by
    intro transaction membership
    obtain ⟨block, low, high⟩ := sound.txRows transaction membership
    exact ⟨block, low, high.trans (Nat.lt_succ_self _)⟩
  txDistinct := sound.txDistinct
  utxoRows := by
    intro row membership
    simp only [Crawler.collectUtxo, List.mem_append, List.mem_singleton] at membership ⊢
    rcases membership with old | rfl
    · obtain ⟨low, high, created, unspent⟩ := sound.utxoRows row old
      exact ⟨low, high.trans (Nat.lt_succ_self _), created, unspent⟩
    · exact ⟨sound.fresh, Nat.lt_succ_self _, known, rfl⟩
  utxoDistinct := by
    have freshID : acc.nextID ∉ acc.utxoRows.map UnshieldedUtxo.ID := by
      intro membership
      obtain ⟨row, stored, same⟩ := List.mem_map.mp membership
      have below := (sound.utxoRows row stored).2.1
      omega
    simpa [Crawler.collectUtxo, List.nodup_append] using ⟨sound.utxoDistinct, fun row stored same =>
        freshID (List.mem_map.mpr ⟨row, stored, same⟩)⟩
  spends := sound.spends
  fresh := sound.fresh.trans (Nat.le_succ _)

theorem collectUtxos {txID : Nat}
    (known : txID ∈ acc.txRows.map Transaction.ID) (created : List PreparedUtxo) :
    (created.foldl (Crawler.collectUtxo txID) acc).Sound blockID firstID counted ∧
      (created.foldl (Crawler.collectUtxo txID) acc).txRows = acc.txRows := by
  induction created generalizing acc with
  | nil => exact ⟨sound, rfl⟩
  | cons utxo created ih => exact ih (sound.collectUtxo known utxo) known

/-- The row of a transaction keeps the invariant before its sent amount counts. -/
theorem addTransaction (transaction : Transaction) (block : transaction.blockID = blockID)
    (ID : transaction.ID = acc.nextID) :
    Collected.Sound blockID firstID counted
      { acc with txRows := acc.txRows ++ [transaction], nextID := acc.nextID + 1 } where
  deltas := sound.deltas
  touched := sound.touched
  txRows := by
    intro row membership
    rcases List.mem_append.mp membership with old | new
    · obtain ⟨sameBlock, low, high⟩ := sound.txRows row old
      exact ⟨sameBlock, low, high.trans (Nat.lt_succ_self _)⟩
    · obtain rfl := List.mem_singleton.mp new
      have low := sound.fresh
      exact ⟨block, by omega, by simp [ID]⟩
  txDistinct := by
    have freshID : transaction.ID ∉ acc.txRows.map Transaction.ID := by
      intro membership
      obtain ⟨row, stored, same⟩ := List.mem_map.mp membership
      have below := (sound.txRows row stored).2.2
      omega
    simpa [List.nodup_append] using ⟨sound.txDistinct, fun row stored same =>
      freshID (List.mem_map.mpr ⟨row, stored, same⟩)⟩
  utxoRows := by
    intro row membership
    obtain ⟨low, high, created, unspent⟩ := sound.utxoRows row membership
    exact ⟨low, high.trans (Nat.lt_succ_self _), by simp_all, unspent⟩
  utxoDistinct := sound.utxoDistinct
  spends := by
    intro request membership
    have known := sound.spends request membership
    simp_all
  fresh := sound.fresh.trans (Nat.le_succ _)

/-- Spends of a known transaction keep the invariant. -/
theorem addSpends {txID : Nat} (known : txID ∈ acc.txRows.map Transaction.ID) (spent : List Spend) :
    Collected.Sound blockID firstID counted
      { acc with
        spendRequests := acc.spendRequests ++ spent.map fun spend => { spend, txID } } where
  deltas := sound.deltas
  touched := sound.touched
  txRows := sound.txRows
  txDistinct := sound.txDistinct
  utxoRows := sound.utxoRows
  utxoDistinct := sound.utxoDistinct
  spends := by
    intro request membership
    rcases List.mem_append.mp membership with old | new
    · exact sound.spends request old
    · obtain ⟨spend, _, rfl⟩ := List.mem_map.mp new
      exact known
  fresh := sound.fresh

/-- Counting the sent amount of a transaction. -/
theorem countSent (transaction : Transaction) :
    Collected.Sound blockID firstID (counted ++ [transaction])
      (match sentAmount transaction.senderAddress transaction.receiverAddress
          transaction.nightAmount with
        | none => acc
        | some (sender, amount) =>
          { acc with
            balanceDeltas := acc.balanceDeltas.update sender fun delta =>
              delta.send amount }) := by
  cases sent : sentAmount transaction.senderAddress transaction.receiverAddress
      transaction.nightAmount with
  | none =>
    have silent : ∀ address, transaction.sentBy address = none := by
      intro address
      simp [Transaction.sentBy, sent]
    exact { sound with
      deltas := by
        intro address
        simp [sound.deltas, Transaction.contribution, silent]
      touched := by
        intro address
        simp only [sound.touched, List.mem_append, List.mem_singleton, or_and_right,
          exists_or, exists_eq_left, silent, Option.isSome_none, Bool.false_eq_true,
          or_false] }
  | some pair =>
    obtain ⟨sender, amount⟩ := pair
    have sentBy : ∀ address, transaction.sentBy address =
        if sender = address then some amount else none := by
      intro address
      simp [Transaction.sentBy, sent]
    exact { sound with
      deltas := by
        intro address
        by_cases mine : address = sender
        · subst mine
          have added := BalanceDelta.send_eq_add
            (utxoTally acc.utxoRows address + sentTally counted address) amount
          simp [BalanceDeltas.of_update, sound.deltas, Transaction.contribution,
            sentBy, added, add_assoc]
        · simp [BalanceDeltas.of_update, sound.deltas, Transaction.contribution,
            sentBy, mine, Ne.symm mine]
      touched := by
        intro address
        have sends : (transaction.sentBy address).isSome ↔ address = sender := by
          rw [sentBy]
          split <;> simp_all [eq_comm]
        simp only [BalanceDeltas.mem_update, sound.touched, List.mem_append,
          List.mem_singleton, or_and_right, exists_or, exists_eq_left, sends]
        exact or_left_comm.trans or_assoc.symm }

end Sound

/-- One extrinsic keeps the invariant. -/
theorem collectExtrinsic (sound : acc.Sound blockID firstID acc.txRows)
    (projection : EventProjection) :
    (Crawler.collectExtrinsic blockID acc projection).Sound blockID firstID
      (Crawler.collectExtrinsic blockID acc projection).txRows := by
  let row := transactionRow acc.nextID blockID projection
  have withRow := sound.addTransaction row rfl rfl
  have known : acc.nextID ∈ (acc.txRows ++ [row]).map Transaction.ID := by
    simp [row, transactionRow]
  obtain ⟨withUtxos, sameRows⟩ := withRow.collectUtxos known projection.created
  have withSpends := withUtxos.addSpends (by rw [sameRows]; exact known) projection.spent
  have counted := withSpends.countSent row
  rw [(collectExtrinsic_rows blockID acc projection).1]
  exact counted

end Collected.Sound

/-- The whole loop: every transaction of the block is counted. -/
theorem collectBlock_sound (blockID firstID : Nat) (prep : PreparedBlock) :
    (collectBlock blockID firstID prep).Sound blockID firstID
      (collectBlock blockID firstID prep).txRows := by
  suffices keeps : ∀ (extrinsics : List EventProjection) (acc : Collected),
      acc.Sound blockID firstID acc.txRows →
      (extrinsics.foldl (collectExtrinsic blockID) acc).Sound blockID firstID
        (extrinsics.foldl (collectExtrinsic blockID) acc).txRows from
    keeps prep.extrinsics _ (Collected.Sound.start blockID firstID)
  intro extrinsics
  induction extrinsics with
  | nil => exact fun _ sound => sound
  | cons projection extrinsics ih =>
    intro acc sound
    exact ih _ (sound.collectExtrinsic projection)

/-- Where the collected rows come from in the block. -/
structure Collected.From (extrinsics : List EventProjection) (acc : Collected) : Prop where
  txRows : ∀ transaction ∈ acc.txRows, ∃ projection ∈ extrinsics,
    transaction = transactionRow transaction.ID transaction.blockID projection
  utxoRows : ∀ utxo ∈ acc.utxoRows, ∃ projection ∈ extrinsics, ∃ created ∈ projection.created,
      utxo.owner = created.owner ∧ utxo.tokenType = created.tokenType
  spendRequests : ∀ request ∈ acc.spendRequests, ∃ projection ∈ extrinsics,
    request.spend ∈ projection.spent

theorem Collected.From.collectExtrinsic {extrinsics : List EventProjection}
    {acc : Collected} (origin : acc.From extrinsics) (blockID : Nat)
    {projection : EventProjection} (known : projection ∈ extrinsics) :
    (Crawler.collectExtrinsic blockID acc projection).From extrinsics := by
  obtain ⟨txRows, spendRequests, utxoRows⟩ := collectExtrinsic_rows blockID acc projection
  constructor
  · intro transaction membership
    rw [txRows] at membership
    rcases List.mem_append.mp membership with old | new
    · exact origin.txRows transaction old
    · obtain rfl := List.mem_singleton.mp new
      exact ⟨projection, known, rfl⟩
  · intro utxo membership
    rcases utxoRows utxo membership with old | ⟨source, created, same⟩
    · exact origin.utxoRows utxo old
    · exact ⟨projection, known, source, created, same⟩
  · intro request membership
    rw [spendRequests] at membership
    rcases List.mem_append.mp membership with old | new
    · exact origin.spendRequests request old
    · obtain ⟨spend, spent, rfl⟩ := List.mem_map.mp new
      exact ⟨projection, known, spent⟩

theorem collectBlock_from (blockID firstID : Nat) (prep : PreparedBlock) :
    (collectBlock blockID firstID prep).From prep.extrinsics := by
  suffices keeps : ∀ (rest : List EventProjection) (acc : Collected),
      rest ⊆ prep.extrinsics → acc.From prep.extrinsics →
      (rest.foldl (collectExtrinsic blockID) acc).From prep.extrinsics from
    keeps prep.extrinsics _ (List.Subset.refl _) ⟨by simp, by simp, by simp⟩
  intro rest
  induction rest with
  | nil => exact fun _ _ origin => origin
  | cons projection rest ih =>
    intro acc known origin
    obtain ⟨here, later⟩ := List.cons_subset.mp known
    exact ih _ later (origin.collectExtrinsic blockID here)

/-! ## Spends -/

/-- A stored output before and after the spends of a block. -/
def SpentBy (requests : List SpendRequest) (before after : UnshieldedUtxo) : Prop :=
  after = before ∨ before.spentAtTransactionID = none ∧ ∃ request ∈ requests,
      before.intentHash = request.spend.intentHash ∧
      before.outputIndex = request.spend.outputIndex ∧
      after = { before with spentAtTransactionID := some request.txID }

/-- A NIGHT output of an address that one of the requests spent. -/
def SpentOf (requests : List SpendRequest) (address : Address) (utxo : UnshieldedUtxo) :
    Prop :=
  utxo.owner = address ∧ utxo.tokenType = NIGHT_RAW_TOKEN_TYPE ∧
    ∃ request ∈ requests, utxo.spentAtTransactionID = some request.txID

/-- What the spend loop keeps, from the outputs and deltas it started with. -/
structure SpendsApplied (requests : List SpendRequest) (utxos : List UnshieldedUtxo)
    (deltas : BalanceDeltas) (acc : List UnshieldedUtxo × BalanceDeltas) : Prop where
  tally : ∀ address, acc.2.of address + utxoTally utxos address =
    deltas.of address + utxoTally acc.1 address
  touched : ∀ address, address ∈ acc.2 ↔
    address ∈ deltas ∨ ∃ utxo ∈ acc.1, SpentOf requests address utxo
  rows : ∃ spend : UnshieldedUtxo → UnshieldedUtxo, acc.1 = utxos.map spend ∧
    ∀ utxo ∈ utxos, SpentBy requests utxo (spend utxo)

variable {requests : List SpendRequest}

theorem SpentBy.ID {before after : UnshieldedUtxo}
    (spent : SpentBy requests before after) : after.ID = before.ID := by
  rcases spent with rfl | ⟨_, _, _, _, _, rfl⟩ <;> rfl

variable {request : SpendRequest}

/-- A row a request finds unspent was unspent before all of them. -/
theorem SpentBy.mark {before after : UnshieldedUtxo} (spent : SpentBy requests before after)
    (unspent : after.spentAtTransactionID = none) (known : request ∈ requests)
    (intentHash : after.intentHash = request.spend.intentHash)
    (outputIndex : after.outputIndex = request.spend.outputIndex) :
    SpentBy requests before { after with spentAtTransactionID := some request.txID } := by
  rcases spent with rfl | ⟨_, _, _, _, _, rfl⟩
  · exact .inr ⟨unspent, request, known, intentHash, outputIndex, rfl⟩
  · cases unspent

variable {utxos : List UnshieldedUtxo}

theorem SpendsApplied.nodup {deltas : BalanceDeltas} {acc : List UnshieldedUtxo × BalanceDeltas}
    (applied : SpendsApplied requests utxos deltas acc)
    (distinct : (utxos.map UnshieldedUtxo.ID).Nodup) :
    (acc.1.map UnshieldedUtxo.ID).Nodup := by
  obtain ⟨spend, rows, spentBy⟩ := applied.rows
  have sameIDs : acc.1.map UnshieldedUtxo.ID = utxos.map UnshieldedUtxo.ID := by
    rw [rows, List.map_map]
    exact List.map_congr_left fun utxo membership => (spentBy utxo membership).ID
  rwa [sameIDs]

private theorem markSpent_absent {rowID : Nat} (txID : Nat)
    (absent : rowID ∉ utxos.map UnshieldedUtxo.ID) :
    markSpent rowID txID utxos = utxos := by
  have same : ∀ utxo ∈ utxos,
      (if utxo.ID = rowID then { utxo with spentAtTransactionID := some txID } else utxo) =
        utxo := by
    intro utxo membership
    rw [if_neg]
    rintro rfl
    exact absent (List.mem_map_of_mem membership)
  exact (List.map_congr_left same).trans (List.map_id _)

/-- Marking a row moves the tally by that row's own contribution. -/
private theorem utxoTally_markSpent (distinct : (utxos.map UnshieldedUtxo.ID).Nodup)
    {row : UnshieldedUtxo} (stored : row ∈ utxos) (txID : Nat) (address : Address) :
    utxoTally (markSpent row.ID txID utxos) address + row.contribution address =
      utxoTally utxos address + UnshieldedUtxo.contribution address
          { row with spentAtTransactionID := some txID } := by
  induction utxos with
  | nil => cases stored
  | cons utxo utxos ih =>
    obtain ⟨absent, distinct⟩ := List.nodup_cons.mp distinct
    rcases List.mem_cons.mp stored with rfl | later
    · have rest := markSpent_absent txID absent
      simp only [markSpent, List.map_cons, if_true, utxoTally_cons] at rest ⊢
      rw [rest]
      abel
    · have other : utxo.ID ≠ row.ID := by
        intro same
        exact absent (same ▸ List.mem_map_of_mem later)
      have tail := ih distinct later
      simp only [markSpent, List.map_cons, other, if_false, utxoTally_cons] at tail ⊢
      rw [add_assoc, tail, add_assoc]

private theorem mem_markSpent (distinct : (utxos.map UnshieldedUtxo.ID).Nodup)
    {row after : UnshieldedUtxo} (stored : row ∈ utxos) {txID : Nat} :
    after ∈ markSpent row.ID txID utxos ↔ after = { row with spentAtTransactionID := some txID } ∨
        after ∈ utxos ∧ after.ID ≠ row.ID := by
  simp only [markSpent, List.mem_map]
  constructor
  · rintro ⟨utxo, membership, rfl⟩
    by_cases same : utxo.ID = row.ID
    · obtain rfl := List.inj_on_of_nodup_map distinct membership stored same
      exact .inl (if_pos rfl)
    · rw [if_neg same]
      exact .inr ⟨membership, same⟩
  · rintro (rfl | ⟨membership, other⟩)
    · exact ⟨row, stored, if_pos rfl⟩
    · exact ⟨after, membership, if_neg other⟩

/-- Marking an unspent row adds its owner to the owners the transactions spent of. -/
private theorem exists_markSpent (distinct : (utxos.map UnshieldedUtxo.ID).Nodup)
    {row : UnshieldedUtxo} (stored : row ∈ utxos) (unspent : row.spentAtTransactionID = none)
    (known : request ∈ requests) {address : Address} :
    (∃ utxo ∈ markSpent row.ID request.txID utxos, SpentOf requests address utxo) ↔
      (row.owner = address ∧ row.tokenType = NIGHT_RAW_TOKEN_TYPE) ∨
      ∃ utxo ∈ utxos, SpentOf requests address utxo := by
  simp only [mem_markSpent distinct stored]
  constructor
  · rintro ⟨utxo, rfl | ⟨membership, _⟩, owner, night, spent⟩
    · exact .inl ⟨owner, night⟩
    · exact .inr ⟨utxo, membership, owner, night, spent⟩
  · rintro (⟨owner, night⟩ | ⟨utxo, membership, owner, night, other, known, spent⟩)
    · exact ⟨_, .inl rfl, owner, night, request, known, rfl⟩
    · refine ⟨utxo, .inr ⟨membership, ?_⟩, owner, night, other, known, spent⟩
      intro same
      obtain rfl := List.inj_on_of_nodup_map distinct membership stored same
      rw [unspent] at spent
      cases spent

theorem findUtxo_mem {spend : Spend} {row : UnshieldedUtxo}
    (found : findUtxo utxos spend = some row) :
    row ∈ utxos ∧ row.intentHash = spend.intentHash ∧ row.outputIndex = spend.outputIndex :=
  ⟨by simpa using List.mem_of_find?_eq_some found, by
    simpa using List.find?_some found⟩

private theorem contribution_markSpent (row : UnshieldedUtxo) (txID : Nat)
    (address : Address) (unspent : row.spentAtTransactionID = none) :
    ∀ delta : BalanceDelta, (if row.owner = address ∧ row.tokenType = NIGHT_RAW_TOKEN_TYPE then
          delta.spend row.value else delta) + row.contribution address =
        delta + UnshieldedUtxo.contribution address
          { row with spentAtTransactionID := some txID } := by
  intro delta
  by_cases mine : row.owner = address ∧ row.tokenType = NIGHT_RAW_TOKEN_TYPE
  · ext <;> simp [UnshieldedUtxo.contribution, mine, unspent, BalanceDelta.spend,
      BalanceDelta.receive, emptyBalanceDelta]
  · simp [UnshieldedUtxo.contribution, mine]

/-- One spend keeps the invariant. -/
theorem SpendsApplied.applySpend {deltas : BalanceDeltas}
    {acc : List UnshieldedUtxo × BalanceDeltas} (applied : SpendsApplied requests utxos deltas acc)
    (distinct : (utxos.map UnshieldedUtxo.ID).Nodup) (known : request ∈ requests) :
    SpendsApplied requests utxos deltas (Crawler.applySpend acc request) := by
  unfold Crawler.applySpend
  cases found : findUtxo acc.1 request.spend with
  | none => exact applied
  | some row =>
    simp only
    cases spentAt : row.spentAtTransactionID with
    | some txID => simpa using applied
    | none =>
      obtain ⟨stored, intentHash, outputIndex⟩ := findUtxo_mem found
      have accDistinct := applied.nodup distinct
      have deltaOf : ∀ address, (if row.tokenType ≠ NIGHT_RAW_TOKEN_TYPE then acc.2
            else acc.2.update row.owner fun delta => delta.spend row.value).of address =
          if row.owner = address ∧ row.tokenType = NIGHT_RAW_TOKEN_TYPE then
            (acc.2.of address).spend row.value
          else acc.2.of address := by
        intro address
        by_cases night : row.tokenType = NIGHT_RAW_TOKEN_TYPE
        · by_cases mine : address = row.owner
          · simp [night, BalanceDeltas.of_update, mine]
          · simp [night, BalanceDeltas.of_update, mine, Ne.symm mine]
        · simp [night]
      have deltaMem : ∀ address, address ∈ (if row.tokenType ≠ NIGHT_RAW_TOKEN_TYPE then acc.2
            else acc.2.update row.owner fun delta => delta.spend row.value) ↔
          address ∈ acc.2 ∨ row.owner = address ∧ row.tokenType = NIGHT_RAW_TOKEN_TYPE := by
        intro address
        by_cases night : row.tokenType = NIGHT_RAW_TOKEN_TYPE
        · simp [night, BalanceDeltas.mem_update, or_comm, eq_comm]
        · simp [night]
      simp only [Option.isSome_none, Bool.false_eq_true, if_false]
      refine ⟨?_, ?_, ?_⟩
      · intro address
        have moved := utxoTally_markSpent accDistinct stored request.txID address
        have before := applied.tally address
        have own := contribution_markSpent row request.txID address spentAt (acc.2.of address)
        apply add_right_cancel (b := row.contribution address)
        calc
          _ = (acc.2.of address + UnshieldedUtxo.contribution address
                { row with spentAtTransactionID := some request.txID }) +
              utxoTally utxos address := by rw [deltaOf, ← own]; abel
          _ = deltas.of address + (utxoTally acc.1 address + UnshieldedUtxo.contribution address
                  { row with spentAtTransactionID := some request.txID }) := by
            rw [add_right_comm, before, add_assoc]
          _ = _ := by rw [← moved, add_assoc]
      · intro address
        rw [deltaMem, exists_markSpent accDistinct stored spentAt known,
          applied.touched, or_assoc, or_comm (a := Exists _)]
      · obtain ⟨spend, rows, spentBy⟩ := applied.rows
        refine ⟨fun utxo => if (spend utxo).ID = row.ID then
          { spend utxo with spentAtTransactionID := some request.txID } else spend utxo,
          ?_, ?_⟩
        · rw [rows, markSpent, List.map_map]
          rfl
        · intro utxo membership
          dsimp only
          split
          next same =>
            have isRow : spend utxo = row := List.inj_on_of_nodup_map accDistinct
              (rows ▸ List.mem_map_of_mem membership) stored same
            have marked := spentBy utxo membership
            rw [isRow] at marked ⊢
            exact marked.mark spentAt known intentHash outputIndex
          · exact spentBy utxo membership

theorem applySpends_applied (distinct : (utxos.map UnshieldedUtxo.ID).Nodup)
    (deltas : BalanceDeltas)
    (unspent : ∀ utxo ∈ utxos, ∀ request ∈ requests, utxo.spentAtTransactionID ≠ some request.txID)
    :
    SpendsApplied requests utxos deltas (applySpends utxos deltas requests) := by
  suffices keeps : ∀ rest acc, rest ⊆ requests → SpendsApplied requests utxos deltas acc →
      SpendsApplied requests utxos deltas (rest.foldl applySpend acc) by
    refine keeps requests (utxos, deltas) (List.Subset.refl _)
      ⟨fun _ => rfl, ?_, id, by simp, fun _ _ => .inl rfl⟩
    intro address
    constructor
    · exact .inl
    · rintro (touched | ⟨utxo, stored, _, _, request, new, spent⟩)
      · exact touched
      · exact absurd spent (unspent utxo stored request new)
  intro rest
  induction rest with
  | nil => exact fun _ _ applied => applied
  | cons request rest ih =>
    intro acc known applied
    obtain ⟨here, later⟩ := List.cons_subset.mp known
    exact ih _ later (applied.applySpend distinct here)

end Nightgate.Crawler
