import Nightgate.Crawler.Rollback
import Mathlib.Tactic

/-!
# Tallies of an address

The sums behind a `NightBalances` row, taken over a list of outputs and a list of
transactions. Both ways of keeping a row are compared through them: the deltas of
a block are the tally of what the block adds, and the recomputed figures are the
tally of the stored rows.
-/

namespace Nightgate.Crawler

instance : Zero BalanceDelta := ⟨emptyBalanceDelta⟩

instance : Add BalanceDelta where
  add left right := {
    balance := left.balance + right.balance
    utxoCount := left.utxoCount + right.utxoCount
    totalReceived := left.totalReceived + right.totalReceived
    txReceivedCount := left.txReceivedCount + right.txReceivedCount
    totalSent := left.totalSent + right.totalSent
    txSentCount := left.txSentCount + right.txSentCount }

namespace BalanceDelta

@[ext] theorem ext_fields {left right : BalanceDelta}
    (balance : left.balance = right.balance) (utxoCount : left.utxoCount = right.utxoCount)
    (totalReceived : left.totalReceived = right.totalReceived)
    (txReceivedCount : left.txReceivedCount = right.txReceivedCount)
    (totalSent : left.totalSent = right.totalSent)
    (txSentCount : left.txSentCount = right.txSentCount) : left = right := by
  cases left
  cases right
  simp_all

@[simp] theorem zero_balance : (0 : BalanceDelta).balance = 0 := rfl
@[simp] theorem zero_utxoCount : (0 : BalanceDelta).utxoCount = 0 := rfl
@[simp] theorem zero_totalReceived : (0 : BalanceDelta).totalReceived = 0 := rfl
@[simp] theorem zero_txReceivedCount : (0 : BalanceDelta).txReceivedCount = 0 := rfl
@[simp] theorem zero_totalSent : (0 : BalanceDelta).totalSent = 0 := rfl
@[simp] theorem zero_txSentCount : (0 : BalanceDelta).txSentCount = 0 := rfl

variable (left right : BalanceDelta)

@[simp] theorem add_balance : (left + right).balance = left.balance + right.balance := rfl
@[simp] theorem add_utxoCount :
    (left + right).utxoCount = left.utxoCount + right.utxoCount := rfl
@[simp] theorem add_totalReceived :
    (left + right).totalReceived = left.totalReceived + right.totalReceived := rfl
@[simp] theorem add_txReceivedCount :
    (left + right).txReceivedCount = left.txReceivedCount + right.txReceivedCount := rfl
@[simp] theorem add_totalSent :
    (left + right).totalSent = left.totalSent + right.totalSent := rfl
@[simp] theorem add_txSentCount :
    (left + right).txSentCount = left.txSentCount + right.txSentCount := rfl

end BalanceDelta

instance : AddCommMonoid BalanceDelta where
  add_assoc _ _ _ := by ext <;> simp [add_assoc]
  zero_add _ := by ext <;> simp
  add_zero _ := by ext <;> simp
  add_comm _ _ := by ext <;> simp [add_comm]
  nsmul := nsmulRec

instance : IsRightCancelAdd BalanceDelta where
  add_right_cancel other left right equal := by
    ext
    · simpa using congrArg BalanceDelta.balance equal
    · simpa using congrArg BalanceDelta.utxoCount equal
    · simpa using congrArg BalanceDelta.totalReceived equal
    · simpa using congrArg BalanceDelta.txReceivedCount equal
    · simpa using congrArg BalanceDelta.totalSent equal
    · simpa using congrArg BalanceDelta.txSentCount equal

/-- What one output adds to the row of an address. -/
def UnshieldedUtxo.contribution (address : Address) (utxo : UnshieldedUtxo) : BalanceDelta :=
  if utxo.owner = address ∧ utxo.tokenType = NIGHT_RAW_TOKEN_TYPE then
    if utxo.spentAtTransactionID.isSome then
      (emptyBalanceDelta.receive utxo.value).spend utxo.value
    else emptyBalanceDelta.receive utxo.value
  else 0

/-- What one transaction adds to the row of an address as its sender. -/
def Transaction.contribution (address : Address) (transaction : Transaction) :
    BalanceDelta :=
  match transaction.sentBy address with
  | none => 0
  | some amount => emptyBalanceDelta.send amount

/-- The sums over a list of outputs. -/
def utxoTally (utxos : List UnshieldedUtxo) (address : Address) : BalanceDelta :=
  (utxos.map (UnshieldedUtxo.contribution address)).sum

/-- The sums over a list of transactions. -/
def sentTally (transactions : List Transaction) (address : Address) : BalanceDelta :=
  (transactions.map (Transaction.contribution address)).sum

section Tally

variable (address : Address)

@[simp] theorem utxoTally_nil : utxoTally [] address = 0 := rfl

@[simp] theorem utxoTally_cons (utxo : UnshieldedUtxo) (utxos : List UnshieldedUtxo) :
    utxoTally (utxo :: utxos) address = utxo.contribution address + utxoTally utxos address := by
  simp [utxoTally]

@[simp] theorem utxoTally_append (first second : List UnshieldedUtxo) :
    utxoTally (first ++ second) address = utxoTally first address + utxoTally second address := by
  simp [utxoTally]

@[simp] theorem sentTally_nil : sentTally [] address = 0 := rfl

@[simp] theorem sentTally_cons (transaction : Transaction) (transactions : List Transaction) :
    sentTally (transaction :: transactions) address =
      transaction.contribution address + sentTally transactions address := by
  simp [sentTally]

@[simp] theorem sentTally_append (first second : List Transaction) :
    sentTally (first ++ second) address = sentTally first address + sentTally second address := by
  simp [sentTally]

end Tally

theorem BalanceDelta.receive_eq_add (delta : BalanceDelta) (value : Nat) :
    delta.receive value = delta + emptyBalanceDelta.receive value := by
  ext <;> simp [BalanceDelta.receive, emptyBalanceDelta]

theorem BalanceDelta.send_eq_add (delta : BalanceDelta) (amount : Nat) :
    delta.send amount = delta + emptyBalanceDelta.send amount := by
  ext <;> simp [BalanceDelta.send, emptyBalanceDelta]

/-! ## The recomputed figures as a tally -/

/-- The figures of a tally over the given heights. -/
def figuresOf (tally : BalanceDelta) (heights : List Nat) : NightBalanceFigures where
  balance := tally.balance
  utxoCount := tally.utxoCount
  txSentCount := tally.txSentCount
  txReceivedCount := tally.txReceivedCount
  totalSent := tally.totalSent
  totalReceived := tally.totalReceived
  firstSeenHeight := heights.min?
  lastActivityHeight := heights.max?

/-- The tally of the stored rows. -/
def Db.tally (db : Db) (address : Address) : BalanceDelta :=
  utxoTally db.utxos address + sentTally db.transactions address

private theorem utxoTally_filter (utxos : List UnshieldedUtxo) (address : Address) :
    let night := utxos.filter fun utxo =>
      utxo.owner = address ∧ utxo.tokenType = NIGHT_RAW_TOKEN_TYPE
    let unspent := night.filter fun utxo => utxo.spentAtTransactionID.isNone
    utxoTally utxos address = {
      balance := (unspent.map fun utxo => (utxo.value : Int)).sum
      utxoCount := unspent.length
      totalReceived := (night.map fun utxo => (utxo.value : Int)).sum
      txReceivedCount := night.length
      totalSent := 0
      txSentCount := 0 } := by
  induction utxos with
  | nil => rfl
  | cons utxo utxos ih =>
    simp only [utxoTally_cons, ih]
    by_cases mine : utxo.owner = address ∧ utxo.tokenType = NIGHT_RAW_TOKEN_TYPE
    · cases spent : utxo.spentAtTransactionID with
      | none =>
        ext <;> simp [UnshieldedUtxo.contribution, mine, spent,
          BalanceDelta.receive, emptyBalanceDelta, add_comm]
      | some txID =>
        ext <;> simp [UnshieldedUtxo.contribution, mine, spent,
          BalanceDelta.receive, BalanceDelta.spend, emptyBalanceDelta, add_comm]
    · ext <;> simp [UnshieldedUtxo.contribution, mine]

private theorem sentTally_filter (transactions : List Transaction) (address : Address) :
    let sent := transactions.filter fun transaction => (transaction.sentBy address).isSome
    sentTally transactions address = {
      balance := 0
      utxoCount := 0
      totalReceived := 0
      txReceivedCount := 0
      totalSent := (sent.map fun transaction =>
        (transaction.nightAmount.getD 0 : Int)).sum
      txSentCount := sent.length } := by
  induction transactions with
  | nil => rfl
  | cons transaction transactions ih =>
    simp only [sentTally_cons, ih]
    cases sent : transaction.sentBy address with
    | none => ext <;> simp [Transaction.contribution, sent]
    | some amount =>
      have amountEq : transaction.nightAmount.getD 0 = amount := by
        unfold Transaction.sentBy sentAmount at sent
        grind
      ext <;> simp [Transaction.contribution, sent, BalanceDelta.send,
        emptyBalanceDelta, amountEq, add_comm]

/-- An address has no figures exactly when no output and no sending names it. -/
def NoActivity (db : Db) (address : Address) : Prop :=
  nightUtxosOf db address = [] ∧ sentTxsOf db address = []

instance (db : Db) (address : Address) : Decidable (NoActivity db address) :=
  inferInstanceAs (Decidable (_ ∧ _))

/-- `computeNightBalance` is the tally of the stored rows over the heights of the
address's activity. -/
theorem computeNightBalance_eq (db : Db) (address : Address) :
    computeNightBalance db address =
      if NoActivity db address then none
      else some (figuresOf (db.tally address) (activityHeights db address)) := by
  by_cases quiet : NoActivity db address
  · rw [if_pos quiet]
    exact if_pos quiet
  · rw [if_neg quiet]
    refine (if_neg quiet).trans ?_
    simp [figuresOf, Db.tally, utxoTally_filter, sentTally_filter, nightUtxosOf, sentTxsOf]

/-- A transaction counts as activity of an address when it sent NIGHT from it, or
created or spent a NIGHT output of it. -/
def ActiveIn (utxos : List UnshieldedUtxo) (address : Address) (transaction : Transaction) : Prop :=
  (transaction.sentBy address).isSome ∨
    ∃ utxo ∈ utxos, utxo.owner = address ∧ utxo.tokenType = NIGHT_RAW_TOKEN_TYPE ∧
      (utxo.createdAtTransactionID = transaction.ID ∨
        utxo.spentAtTransactionID = some transaction.ID)

private theorem mem_activityTxIDs {db : Db} {address : Address} {txID : Nat} :
    txID ∈ activityTxIDs (nightUtxosOf db address) ↔
      ∃ utxo ∈ db.utxos, utxo.owner = address ∧ utxo.tokenType = NIGHT_RAW_TOKEN_TYPE ∧
        (utxo.createdAtTransactionID = txID ∨ utxo.spentAtTransactionID = some txID) := by
  simp only [activityTxIDs, nightUtxosOf, List.mem_dedup, List.mem_append, List.mem_map,
    List.mem_filterMap, List.mem_filter, decide_eq_true_eq]
  constructor
  · rintro (⟨utxo, ⟨stored, owner, night⟩, created⟩ | ⟨utxo, ⟨stored, owner, night⟩, spent⟩)
    · exact ⟨utxo, stored, owner, night, .inl created⟩
    · exact ⟨utxo, stored, owner, night, .inr spent⟩
  · rintro ⟨utxo, stored, owner, night, created | spent⟩
    · exact .inl ⟨utxo, ⟨stored, owner, night⟩, created⟩
    · exact .inr ⟨utxo, ⟨stored, owner, night⟩, spent⟩

theorem mem_activityHeights {db : Db} {address : Address} {height : Nat} :
    height ∈ activityHeights db address ↔ ∃ block ∈ db.blocks, block.height = height ∧
        ∃ transaction ∈ db.transactions, transaction.blockID = block.ID ∧
          ActiveIn db.utxos address transaction := by
  simp only [activityHeights, ActiveIn, ← mem_activityTxIDs, List.mem_map,
    List.mem_filter, List.mem_dedup, List.mem_append, decide_eq_true_eq]
  simp only [sentTxsOf, List.mem_filter]
  constructor
  · rintro ⟨block, ⟨stored, transaction, source, sameBlock⟩, heightEq⟩
    refine ⟨block, stored, heightEq, transaction, ?_, sameBlock, ?_⟩
    · exact source.elim And.left And.left
    · exact source.symm.imp And.right And.right
  · rintro ⟨block, stored, heightEq, transaction, membership, sameBlock, sent | active⟩
    · exact ⟨block, ⟨stored, transaction, .inr ⟨membership, sent⟩, sameBlock⟩, heightEq⟩
    · exact ⟨block, ⟨stored, transaction, .inl ⟨membership, active⟩, sameBlock⟩, heightEq⟩

/-- The lowest and highest height depend only on which heights occur. -/
theorem figuresOf_congr {left right : BalanceDelta} {first second : List Nat}
    (tallyEq : left = right) (heightsEq : ∀ height, height ∈ first ↔ height ∈ second) :
    figuresOf left first = figuresOf right second := by
  have minEq : first.min? = second.min? := by
    apply Option.ext
    intro low
    simp only [List.min?_eq_some_iff, heightsEq]
  have maxEq : first.max? = second.max? := by
    apply Option.ext
    intro high
    simp only [List.max?_eq_some_iff, heightsEq]
  simp [figuresOf, tallyEq, minEq, maxEq]

end Nightgate.Crawler
