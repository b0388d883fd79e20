import Nightgate.Crawler.WellFormed
import Nightgate.Library.Machine

/-!
# Incremental and recomputed NIGHT balances

`NightBalances` is kept in two ways: block by block through deltas, and after a
rollback through a recomputation of the addresses it affected. Both agree with
`computeNightBalance` as long as no block is stored below a block in which an
address it touches was active already: `firstSeenHeight` takes the lower height,
but `lastActivityHeight` is set to the height of the block without a comparison.
-/

namespace Nightgate.Crawler

/-- The stored figures of every address are the recomputed ones. -/
def BalancesAgree (db : Db) : Prop :=
  ∀ address, (db.nightBalances.lookup address).map NightBalance.figures =
    computeNightBalance db address

/-- No stored row carries a dust registration: nothing ever writes one. -/
def NoDustRows (db : Db) : Prop :=
  ∀ address row, db.nightBalances.lookup address = some row →
    row.dustAddress = none ∧ row.isDustRegistered = false

/-- What every run of the index keeps. -/
structure BalanceInvariant (db : Db) : Prop where
  wellFormed : db.WellFormed
  agree : BalancesAgree db
  noDust : NoDustRows db

/-- The row an address has after a block that touched it. -/
def balanceAfter (existing : Option NightBalance) (delta : BalanceDelta) (height : Nat) :
    NightBalance :=
  match existing with
  | none => insertedBalance delta height
  | some row => updatedBalance row delta height

theorem applyBalanceDelta_lookup (height : Nat) (balances : NightBalances)
    (address other : Address) (delta : BalanceDelta) :
    (applyBalanceDelta height balances address delta).lookup other =
      if other = address then
        some (balanceAfter (balances.lookup address) delta height)
      else balances.lookup other := by
  unfold applyBalanceDelta
  by_cases same : other = address
  · subst same
    cases balances.lookup other <;> simp [balanceAfter]
  · cases balances.lookup address <;> simp [same]

theorem applyBalanceDeltas_lookup (height : Nat) (balances : NightBalances)
    (deltas : BalanceDeltas) (address : Address) :
    (applyBalanceDeltas height balances deltas).lookup address =
      match deltas.lookup address with
      | none => balances.lookup address
      | some delta => some (balanceAfter (balances.lookup address) delta height) := by
  suffices folds : ∀ (entries : List (Σ _ : Address, BalanceDelta))
      (balances : NightBalances), entries.NodupKeys →
      (entries.foldl (fun acc entry => applyBalanceDelta height acc entry.1 entry.2)
        balances).lookup address =
      match entries.dlookup address with
      | none => balances.lookup address
      | some delta => some (balanceAfter (balances.lookup address) delta height) from
    folds deltas.entries balances deltas.nodupKeys
  intro entries
  induction entries with
  | nil => exact fun _ _ => rfl
  | cons entry entries ih =>
    obtain ⟨key, delta⟩ := entry
    intro balances distinct
    obtain ⟨absent, distinct⟩ := List.nodupKeys_cons.mp distinct
    rw [List.foldl_cons, ih _ distinct, applyBalanceDelta_lookup]
    by_cases same : address = key
    · subst same
      rw [List.dlookup_eq_none.mpr absent, List.dlookup_cons_eq, if_pos rfl]
    · rw [List.dlookup_cons_ne _ _ same, if_neg same]

/-- Adding one height above all others moves only the bounds. -/
theorem min?_max?_insert {before after : List Nat} {height : Nat}
    (members : ∀ other, other ∈ after ↔ other = height ∨ other ∈ before)
    (above : ∀ other ∈ before, other ≤ height) :
    after.min? = some (min (before.min?.getD height) height) ∧ after.max? = some height := by
  constructor
  · rw [List.min?_eq_some_iff]
    cases lowest : before.min? with
    | none =>
      have empty : before = [] := List.min?_eq_none_iff.mp lowest
      simp_all
    | some low =>
      obtain ⟨membership, least⟩ := List.min?_eq_some_iff.mp lowest
      have below := above low membership
      simp only [Option.getD_some, Nat.min_eq_left below, members]
      refine ⟨.inr membership, ?_⟩
      rintro other (rfl | old)
      · exact below
      · exact least other old
  · rw [List.max?_eq_some_iff]
    simp only [members, true_or, true_and]
    rintro other (rfl | old)
    · exact le_rfl
    · exact above other old

variable {address : Address}

/-- Heights occur exactly when a transaction is activity of the address. -/
theorem noActivity_iff {db : Db} (wf : db.WellFormed) :
    NoActivity db address ↔ activityHeights db address = [] := by
  simp only [NoActivity, nightUtxosOf, sentTxsOf, List.filter_eq_nil_iff,
    decide_eq_true_eq]
  rw [List.eq_nil_iff_forall_not_mem]
  simp only [mem_activityHeights]
  constructor
  · rintro ⟨noUtxo, noSent⟩ height ⟨_, _, _, transaction, stored, _, sent | active⟩
    · exact noSent transaction stored sent
    · obtain ⟨utxo, utxoStored, owner, night, _⟩ := active
      exact noUtxo utxo utxoStored ⟨owner, night⟩
  · intro none
    have inactive : ∀ transaction ∈ db.transactions, ¬ ActiveIn db.utxos address transaction := by
      intro transaction stored active
      obtain ⟨block, blockStored, same⟩ :=
        List.mem_map.mp (wf.transactions transaction stored).2
      exact none block.height ⟨block, blockStored, rfl, transaction, stored, same.symm, active⟩
    refine ⟨?_, fun transaction stored sent => inactive transaction stored (.inl sent)⟩
    rintro utxo stored ⟨owner, night⟩
    obtain ⟨transaction, txStored, created⟩ := List.mem_map.mp (wf.utxos utxo stored).2.1
    exact inactive transaction txStored (.inr ⟨utxo, stored, owner, night, .inl created.symm⟩)

/-- An address without activity has an empty tally. -/
theorem tally_eq_zero {db : Db} (quiet : NoActivity db address) :
    db.tally address = 0 := by
  obtain ⟨noUtxo, noSent⟩ := quiet
  have utxos : utxoTally db.utxos address = 0 := by
    refine List.sum_eq_zero fun delta membership => ?_
    obtain ⟨utxo, stored, rfl⟩ := List.mem_map.mp membership
    have other := List.filter_eq_nil_iff.mp noUtxo utxo stored
    rw [decide_eq_true_eq] at other
    exact if_neg other
  have sent : sentTally db.transactions address = 0 := by
    refine List.sum_eq_zero fun delta membership => ?_
    obtain ⟨transaction, stored, rfl⟩ := List.mem_map.mp membership
    have silent := List.filter_eq_nil_iff.mp noSent transaction stored
    rw [Bool.not_eq_true, Option.isSome_eq_false_iff, Option.isNone_iff_eq_none] at silent
    simp [Transaction.contribution, silent]
  rw [Db.tally, utxos, sent, add_zero]

section WriteBlock

variable {db : Db} (prep : PreparedBlock)

variable (wf : db.WellFormed)

include wf

theorem writeBlock_tally (address : Address) :
    (writeBlock db prep).tally address = db.tally address + (spentRows db prep).2.of address := by
  have moved := (spentRows_applied prep wf).tally address
  have added := (newRows_sound db prep).deltas address
  rw [utxoTally_append, added] at moved
  show utxoTally (spentRows db prep).1 address +
    sentTally (db.transactions ++ (newRows db prep).txRows) address = _
  apply add_right_cancel (b := utxoTally (newRows db prep).utxoRows address)
  rw [sentTally_append, Db.tally]
  calc
    _ = (utxoTally (newRows db prep).utxoRows address + sentTally (newRows db prep).txRows address +
          utxoTally (spentRows db prep).1 address) +
        sentTally db.transactions address := by abel
    _ = _ := by rw [← moved]; abel

/-- Old transactions are activity of the same addresses as before. -/
theorem activeIn_old {transaction : Transaction}
    (stored : transaction ∈ db.transactions) :
    ActiveIn (spentRows db prep).1 address transaction ↔ ActiveIn db.utxos address transaction := by
  have old : transaction.ID < db.nextID := (wf.transactions transaction stored).1
  obtain ⟨spend, rows, spentBy⟩ := (spentRows_applied prep wf).rows
  refine or_congr_right ?_
  constructor
  · rintro ⟨utxo, membership, owner, night, active⟩
    obtain ⟨before, source, change⟩ := mem_spentRows prep wf membership
    rcases List.mem_append.mp source with kept | new
    · rcases change with rfl | ⟨_, request, known, _, _, rfl⟩
      · exact ⟨utxo, kept, owner, night, active⟩
      · refine ⟨before, kept, owner, night, active.imp_right fun spent => ?_⟩
        have above := lt_of_newTx prep ((newRows_sound db prep).spends request known)
        have same : request.txID = transaction.ID := Option.some.inj spent
        omega
    · obtain ⟨_, _, created, _⟩ := (newRows_sound db prep).utxoRows before new
      have above := lt_of_newTx prep created
      rcases change with rfl | ⟨_, request, known, _, _, rfl⟩
      · rcases active with same | spent
        · omega
        · have unspent := ((newRows_sound db prep).utxoRows utxo new).2.2.2
          rw [unspent] at spent
          cases spent
      · have later := lt_of_newTx prep ((newRows_sound db prep).spends request known)
        rcases active with same | spent
        · have same : before.createdAtTransactionID = transaction.ID := same
          omega
        · have same : request.txID = transaction.ID := Option.some.inj spent
          omega
  · rintro ⟨utxo, membership, owner, night, active⟩
    have kept : utxo ∈ db.utxos ++ (newRows db prep).utxoRows :=
      List.mem_append_left _ membership
    have after : spend utxo ∈ (spentRows db prep).1 := rows ▸ List.mem_map_of_mem kept
    rcases spentBy utxo kept with same | ⟨unspent, request, _, _, _, marked⟩
    · rw [same] at after
      exact ⟨utxo, after, owner, night, active⟩
    · refine ⟨spend utxo, after, ?_, ?_, .inl ?_⟩
      · rw [marked]; exact owner
      · rw [marked]; exact night
      · rw [marked]
        rcases active with created | spent
        · exact created
        · rw [unspent] at spent
          cases spent

/-- An address has a delta exactly when a new transaction is activity of it. -/
theorem mem_deltas_iff :
    address ∈ (spentRows db prep).2 ↔ ∃ transaction ∈ (newRows db prep).txRows,
      ActiveIn (spentRows db prep).1 address transaction := by
  have sound := newRows_sound db prep
  obtain ⟨spend, rows, spentBy⟩ := (spentRows_applied prep wf).rows
  rw [(spentRows_applied prep wf).touched, sound.touched]
  constructor
  · rintro ((⟨transaction, new, sent⟩ | ⟨utxo, new, owner, night⟩) |
      ⟨utxo, stored, owner, night, request, known, spent⟩)
    · exact ⟨transaction, new, .inl sent⟩
    · obtain ⟨transaction, txNew, created⟩ := List.mem_map.mp (sound.utxoRows utxo new).2.2.1
      have kept : utxo ∈ db.utxos ++ (newRows db prep).utxoRows :=
        List.mem_append_right _ new
      have after : spend utxo ∈ (spentRows db prep).1 := rows ▸ List.mem_map_of_mem kept
      refine ⟨transaction, txNew, .inr ⟨spend utxo, after, ?_⟩⟩
      rcases spentBy utxo kept with same | ⟨_, _, _, _, _, marked⟩
      · rw [same]; exact ⟨owner, night, .inl created.symm⟩
      · rw [marked]; exact ⟨owner, night, .inl created.symm⟩
    · obtain ⟨transaction, txNew, same⟩ := List.mem_map.mp (sound.spends request known)
      exact ⟨transaction, txNew, .inr ⟨utxo, stored, owner, night, .inr (same ▸ spent)⟩⟩
  · rintro ⟨transaction, new, sent | ⟨utxo, stored, owner, night, active⟩⟩
    · exact .inl (.inl ⟨transaction, new, sent⟩)
    · have above : db.nextID < transaction.ID :=
        lt_of_newTx prep (List.mem_map_of_mem new)
      obtain ⟨before, source, change⟩ := mem_spentRows prep wf stored
      rcases change with rfl | ⟨_, request, known, _, _, rfl⟩
      · rcases List.mem_append.mp source with old | added
        · obtain ⟨_, created, spent⟩ := wf.utxos utxo old
          rcases active with same | isSpent
          · have below := lt_of_oldTx wf created
            omega
          · have below := lt_of_oldTx wf (spent _ isSpent)
            omega
        · exact .inl (.inr ⟨utxo, added, owner, night⟩)
      · exact .inr ⟨_, stored, owner, night, request, known, rfl⟩

/-- The heights of an address after a block: the block's own if it touched it. -/
theorem writeBlock_heights {height : Nat} :
    height ∈ activityHeights (writeBlock db prep) address ↔
      (height = prep.height ∧ address ∈ (spentRows db prep).2) ∨
        height ∈ activityHeights db address := by
  have sound := newRows_sound db prep
  have newBlock : ∀ block ∈ db.blocks, block.ID ≠ db.nextID := by
    intro block stored
    have below := wf.blocks block stored
    omega
  rw [mem_activityHeights, mem_activityHeights, mem_deltas_iff prep wf]
  constructor
  · rintro ⟨block, blockStored, rfl, transaction, txStored, same, active⟩
    have active : ActiveIn (spentRows db prep).1 address transaction := active
    rcases List.mem_append.mp txStored with old | new
    · rw [activeIn_old prep wf old] at active
      rcases List.mem_append.mp blockStored with oldBlock | own
      · exact .inr ⟨block, oldBlock, rfl, transaction, old, same, active⟩
      · obtain rfl := List.mem_singleton.mp own
        obtain ⟨row, rowStored, rowID⟩ := List.mem_map.mp (wf.transactions transaction old).2
        exact absurd (rowID.trans same) (newBlock row rowStored)
    · rcases List.mem_append.mp blockStored with oldBlock | own
      · have blockID := (sound.txRows transaction new).1
        exact absurd (same.symm.trans blockID) (newBlock block oldBlock)
      · obtain rfl := List.mem_singleton.mp own
        exact .inl ⟨rfl, transaction, new, active⟩
  · rintro (⟨rfl, transaction, new, active⟩ | ⟨block, stored, rfl, transaction, old, same, active⟩)
    · exact ⟨_, List.mem_append_right _ (List.mem_singleton_self _), rfl, transaction,
        List.mem_append_right _ new, (sound.txRows transaction new).1, active⟩
    · exact ⟨block, List.mem_append_left _ stored, rfl, transaction,
        List.mem_append_left _ old, same, (activeIn_old prep wf old).mpr active⟩

end WriteBlock

end Nightgate.Crawler
