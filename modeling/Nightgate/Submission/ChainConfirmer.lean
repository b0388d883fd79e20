import Nightgate.Submission.Reconciliation

/-!
# Asking the indexer

A transaction is looked up by its identifier and then by its hash. An answer that does not
know it counts as of the latest block the indexer gave with it.
-/

namespace Nightgate.Submission

/-- What the indexer stores about a transaction it can place in a block. -/
structure IndexedTxSlice where
  status : String
  hash : Option Nat
  blockHash : Option Nat
  blockHeight : Nat

/-- The answer to one query. -/
inductive IndexerReply where
  /-- The request or the query failed. -/
  | failed
  /-- The value has the wrong form for this lookup. -/
  | keyInvalid
  /-- Not known, as of the latest block time if the answer carried one. -/
  | missing (asOfMs : Option Nat)
  /-- Known; without a status and a height there is no slice. -/
  | present (slice : Option IndexedTxSlice)

def mapIndexerStatus (status : String) : Option OutcomeStatus :=
  if status = "SUCCESS" then some .success
  else if status = "FAILURE" ∨ status = "PARTIAL_SUCCESS" then some .failure
  else none

/-- The outcome of a known transaction, if it is final. -/
def outcomeOf (slice : Option IndexedTxSlice) : ChainLookup :=
  match slice with
  | none => .inconclusive
  | some slice =>
    match mapIndexerStatus slice.status with
    | none => .inconclusive
    | some status => .outcome {
        status := status
        blockHeight := slice.blockHeight
        blockHash := slice.blockHash
        indexerTxHash := slice.hash }

/-- The block times of the lookups with a value of the right form. -/
def replyTips (replies : List IndexerReply) : List (Option Nat) :=
  replies.filterMap fun reply =>
    match reply with
    | .missing asOfMs => some asOfMs
    | _ => none

/-- The older block time of the answers; a missing time means no conclusion. -/
def olderTip (tips : List (Option Nat)) : Option Nat :=
  if tips.any Option.isNone then none else (tips.filterMap id).min?

/-- The lookup of a transaction: by identifier, then by hash. It throws when a query fails. -/
def createHttpTxConfirmer (byId byHash : IndexerReply) : Option ChainLookup :=
  match byId with
  | .failed => none
  | .present slice => some (outcomeOf slice)
  | _ =>
    match byHash with
    | .failed => none
    | .present slice => some (outcomeOf slice)
    | _ => some (.absent (olderTip (replyTips [byId, byHash])))

/-- The reply does not know the transaction. -/
def IndexerReply.notFound : IndexerReply → Bool
  | .keyInvalid => true
  | .missing _ => true
  | _ => false

theorem outcomeOf_ne_absent (slice : Option IndexedTxSlice) (tip : Option Nat) :
    outcomeOf slice ≠ .absent tip := by
  cases slice with
  | none => simp [outcomeOf]
  | some slice =>
    simp only [outcomeOf]
    split <;> simp

theorem olderTip_eq_some {tips : List (Option Nat)} {tip : Nat} (isTip : olderTip tips = some tip) :
    some tip ∈ tips ∧ ∀ other ∈ tips, ∃ asOfMs, other = some asOfMs ∧ tip ≤ asOfMs := by
  simp only [olderTip] at isTip
  split at isTip
  · cases isTip
  next allTimed =>
    rw [List.min?_eq_some_iff] at isTip
    refine ⟨by simpa using isTip.1, ?_⟩
    intro other isOther
    cases other with
    | none => exact absurd (List.any_eq_true.mpr ⟨none, isOther, rfl⟩) allTimed
    | some asOfMs => exact ⟨asOfMs, rfl, isTip.2 asOfMs (by simpa using isOther)⟩

/-- Absence is answered only when neither lookup found the transaction, as of the oldest
block time among the lookups. -/
theorem createHttpTxConfirmer_absent {byId byHash : IndexerReply} {tip : Nat}
    (isAbsent : createHttpTxConfirmer byId byHash = some (.absent (some tip))) :
    byId.notFound ∧ byHash.notFound ∧ some tip ∈ replyTips [byId, byHash] ∧
      ∀ other ∈ replyTips [byId, byHash], ∃ asOfMs, other = some asOfMs ∧ tip ≤ asOfMs := by
  have settled (missingId : byId.notFound) (missingHash : byHash.notFound)
      (isTip : olderTip (replyTips [byId, byHash]) = some tip) :
      byId.notFound ∧ byHash.notFound ∧ some tip ∈ replyTips [byId, byHash] ∧
        ∀ other ∈ replyTips [byId, byHash], ∃ asOfMs, other = some asOfMs ∧ tip ≤ asOfMs :=
    ⟨missingId, missingHash, olderTip_eq_some isTip⟩
  cases byId with
  | failed => simp [createHttpTxConfirmer] at isAbsent
  | present slice =>
    simp only [createHttpTxConfirmer, Option.some.injEq] at isAbsent
    exact absurd isAbsent (outcomeOf_ne_absent slice _)
  | keyInvalid | missing asOfMs =>
    cases byHash with
    | failed => simp [createHttpTxConfirmer] at isAbsent
    | present slice =>
      simp only [createHttpTxConfirmer, Option.some.injEq] at isAbsent
      exact absurd isAbsent (outcomeOf_ne_absent slice _)
    | keyInvalid | missing otherMs =>
      simp only [createHttpTxConfirmer, Option.some.injEq, ChainLookup.absent.injEq] at isAbsent
      exact settled rfl rfl isAbsent

end Nightgate.Submission
