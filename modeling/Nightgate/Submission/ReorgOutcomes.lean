import Nightgate.Submission.ReorgEvidence

/-!
# Outcomes and rollbacks

An outcome is written under the counter its lookup was started under, so every rollback
counted so far came before the lookup. The next rollback finds each row with inclusion
data in a state it takes back.
-/

namespace Nightgate.Submission

open Library

/-- A job row as a task read it, to look its transaction up. -/
structure Seen (owner : Nat → Option Nat) (db : JobDb) (job : BackgroundJob) : Prop where
  stored : ∃ row, db.jobs.find? job.ID = some row ∧ row.kind.workflowParent = false
  hash : ∃ txHash, job.txHash = some txHash ∧ txHash.tx.job = job.ID
  row : ∀ rowId ∈ job.submissionId, owner rowId = some job.ID

section Outcomes

variable {owner : Nat → Option Nat} {rollbacks : List (Nat × Nat)} {exempt : Nat → Prop}
  {db : JobDb} {job : BackgroundJob} {outcome : ChainOutcome} {generation : Nat}

variable {row : PendingSubmission}

/-- The attempt row of a job belongs to it. -/
theorem attemptRowOf_owner (seen : Seen owner db job)
    (rows : db.submissions.All (RowSound owner rollbacks))
    (found : attemptRowOf db job = some row) : owner row.ID = some job.ID := by
  unfold attemptRowOf at found
  split at found
  next submissionId isRow =>
    have isId : row.ID = submissionId := Table.key_of_find? found
    rw [isId]
    exact seen.row submissionId isRow
  · rcases seen.hash with ⟨txHash, isHash, own⟩
    have stored := Table.find?_of_mem (List.mem_of_find?_eq_some found)
    have same : row.txHash = some txHash := by
      have matched := List.find?_some found
      rw [isHash] at matched
      exact of_decide_eq_true matched
    rw [← own]
    exact (rows _ row stored).hash txHash same

/-- Evidence of a lookup under the current counter is fresh. -/
theorem evidence_fresh (counted : ∀ rollback ∈ rollbacks, rollback.2 ≤ generation) :
    Fresh rollbacks (outcome.evidence generation) :=
  fun rollback isRollback _ => counted rollback isRollback

/-- The job part of a finalized outcome. -/
theorem finalizedJob_sound {start : FinalizeFrom} (sound : JobSound owner rollbacks job)
    (step : job.kind.workflowParent = false) (isMatch : start.matching job)
    (counted : ∀ rollback ∈ rollbacks, rollback.2 ≤ generation) :
    JobSound owner rollbacks
      ((finalizedJob outcome (outcome.evidence generation) start).set job) := by
  have fresh : ∀ evidence ∈ some (outcome.evidence generation), Fresh rollbacks evidence := by
    intro evidence isEvidence
    cases isEvidence
    exact evidence_fresh counted
  have notParent : ¬ job.kind.workflowParent := by simp [step]
  cases start with
  | succeeded chainStatusWas =>
    simp only [FinalizeFrom.matching, Bool.and_eq_true, decide_eq_true_eq] at isMatch
    refine ⟨fun _ => .inl ⟨isMatch.1, ?_⟩, fun _ _ => rfl,
      fun parent => absurd parent notParent, fresh, sound.hash, sound.row⟩
    cases status : outcome.status <;>
      simp [finalizedJob, BackgroundJob.ReportsOutcome, status, OutcomeStatus.chainStatus]
  | reconciliationRequired | inFlight =>
    refine ⟨fun _ => ?_, fun _ _ => rfl, fun parent => absurd parent notParent, fresh,
      sound.hash, sound.row⟩
    cases status : outcome.status <;>
      simp [finalizedJob, BackgroundJob.ReportsOutcome, status, OutcomeStatus.chainStatus]

theorem finalizedJob_kind (outcome : ChainOutcome) (evidence : ChainEvidence)
    (start : FinalizeFrom) (job : BackgroundJob) :
    ((finalizedJob outcome evidence start).set job).kind = job.kind := by
  cases start <;> rfl

/-- The row part of a confirmed outcome. -/
theorem finalizedRow_sound (sound : RowSound owner rollbacks row)
    (counted : ∀ rollback ∈ rollbacks, rollback.2 ≤ generation) :
    RowSound owner rollbacks ((finalizedRow outcome (outcome.evidence generation)).set row) := by
  refine ⟨fun _ => ?_, fun _ => rfl, ?_, sound.hash⟩
  · cases status : outcome.status <;> simp [finalizedRow, status]
  · intro evidence isEvidence
    cases isEvidence
    exact evidence_fresh counted

/-- The job part of an outcome exempts its job. -/
theorem finalizeJob_upholds {start : FinalizeFrom} (seen : Seen owner db job)
    (counted : ∀ rollback ∈ rollbacks, rollback.2 ≤ generation) :
    Upholds owner rollbacks (· = job.ID) db { db with
      jobs := db.jobs.update job.ID start.matching
        (finalizedJob outcome (outcome.evidence generation) start) } := by
  apply Upholds.updateJob (finalizedJob_kind outcome _ start)
  · intro row found sound isMatch
    rcases seen.stored with ⟨stored, foundStored, step⟩
    rw [found] at foundStored
    cases foundStored
    exact finalizedJob_sound sound step isMatch counted
  · exact fun row _ _ outside => absurd rfl outside

/-- The row part of an outcome, over rows of its job. -/
theorem finalizeRows_upholds {matching : PendingSubmission → Bool}
    (own : ∀ row, RowSound owner rollbacks row → matching row → owner row.ID = some job.ID)
    (counted : ∀ rollback ∈ rollbacks, rollback.2 ≤ generation)
    (rows : db.submissions.All (RowSound owner rollbacks)) :
    Upholds owner rollbacks (· = job.ID) db { db with
      submissions := db.submissions.updateWhere matching
        (finalizedRow outcome (outcome.evidence generation)) } where
  jobs := id
  rows := fun all => all.updateWhere fun row sound _ => finalizedRow_sound sound counted
  calm := Table.Evolves.refl Calm.refl db.jobs
  bare := by
    intro rowId row found
    rw [Table.find?_updateWhere, found]
    refine ⟨_, rfl, ?_⟩
    dsimp only
    split
    next isMatch =>
      exact ⟨rfl, fun outside => absurd rfl
        (outside job.ID (own row (rows rowId row found) isMatch))⟩
    · exact KeepsBare.refl row
  generation := rfl

theorem finalizeIdentifierKeyedJob_upholds {start : FinalizeFrom} (seen : Seen owner db job)
    (counted : ∀ rollback ∈ rollbacks, rollback.2 ≤ db.reorgGeneration)
    (rows : db.submissions.All (RowSound owner rollbacks)) :
    Upholds owner rollbacks (· = job.ID) db
      (finalizeIdentifierKeyedJob db job outcome start generation) := by
  unfold finalizeIdentifierKeyedJob
  split
  next current =>
    rw [current.1] at counted
    have jobPart : Upholds owner rollbacks (· = job.ID) db { db with
        jobs := db.jobs.update job.ID start.matching
          (finalizedJob outcome (outcome.evidence generation) start) } :=
      finalizeJob_upholds seen counted
    cases found : attemptRowOf db job with
    | none => exact jobPart
    | some row =>
      have own := attemptRowOf_owner seen rows found
      refine jobPart.trans (finalizeRows_upholds ?_ counted rows)
      intro other _ isMatch
      simp only [Bool.and_eq_true, decide_eq_true_eq] at isMatch
      have isRow : other.ID = row.ID := isMatch.1
      rw [isRow]
      exact own
  · exact Upholds.refl db

theorem confirmChainOutcome_upholds (seen : Seen owner db job)
    (counted : ∀ rollback ∈ rollbacks, rollback.2 ≤ db.reorgGeneration)
    (rows : db.submissions.All (RowSound owner rollbacks)) :
    Upholds owner rollbacks (· = job.ID) db (confirmChainOutcome db job outcome generation) := by
  simp only [confirmChainOutcome]
  split
  next current =>
    rw [current.1] at counted
    refine (finalizeJob_upholds seen counted).trans (finalizeRows_upholds ?_ counted rows)
    intro row sound isMatch
    simp only [Bool.and_eq_true] at isMatch
    have matched := isMatch.1
    split at matched
    next submissionId isRow =>
      rw [of_decide_eq_true matched]
      exact seen.row submissionId isRow
    · rcases seen.hash with ⟨txHash, isHash, own⟩
      rw [isHash] at matched
      rw [← own]
      exact sound.hash txHash (of_decide_eq_true matched)
  · exact Upholds.refl db

/-! ## The reconciler's other updates -/

theorem finalizeLostBroadcast_upholds (db : JobDb) (job : BackgroundJob)
    (tipMs : Option Nat) (margin generation : Nat) :
    Upholds owner rollbacks exempt db (finalizeLostBroadcast db job tipMs margin generation) := by
  simp only [finalizeLostBroadcast]
  split
  · split
    · exact Upholds.refl db
    · split
      · refine Upholds.trans ?_ (closeOpenRow_upholds _ _ _)
        refine Wrote.upholdsOne (?_ : Wrote (onlyRow job.ID .lose) db _) trivial False.elim
          (fun _ _ => trivial) ⟨rfl, rfl⟩
        exact .one rfl fun _ isMatch => .lose (of_decide_eq_true isMatch)
      · exact Upholds.refl db
  · exact Upholds.refl db

theorem settleRejectedSponsorAttempt_upholds (db : JobDb) (job : BackgroundJob) :
    Upholds owner rollbacks exempt db (settleRejectedSponsorAttempt db job) := by
  refine (closeOpenRow_upholds db (rejectedRowOf db job) .rejected).trans
    (Wrote.upholdsOne (.one rfl fun _ => .settleRejected) trivial False.elim (fun _ _ => trivial)
      ⟨rfl, rfl⟩)

theorem reconcileParent_upholds (db : JobDb) (parentId : Nat) :
    Upholds owner rollbacks exempt db (reconcileParent db parentId) := by
  apply (reconcileParent_wrote db parentId).upholds
  · rintro _ _ (rfl | rfl) <;> exact ⟨trivial, False.elim⟩
  · rintro _ _ _ (rfl | rfl) <;> exact trivial
  · simp only [reconcileParent]
    split
    · exact ⟨rfl, rfl⟩
    · split <;> exact ⟨rfl, rfl⟩

/-- A roll-up writes the outcome of a workflow, which has no inclusion data. -/
theorem writeAggregate_upholds {parentId : Nat} (aggregate : ChainStatus)
    (parent : ∃ row, db.jobs.find? parentId = some row ∧ row.kind.workflowParent) :
    Upholds owner rollbacks exempt db (writeAggregate db parentId aggregate) := by
  apply Upholds.updateJob fun _ => rfl
  · intro job found sound _
    rcases parent with ⟨row, foundRow, isParent⟩
    rw [found] at foundRow
    cases foundRow
    have bare := (sound.parent isParent).2
    exact ⟨by simp [bare], fun step => by simp [isParent] at step, sound.parent, sound.fresh,
      sound.hash, sound.row⟩
  · intro job _ isMatch _ unsettled
    exact absurd (.inr (.inl (of_decide_eq_true isMatch))) unsettled

theorem not_atOrAbove {fromHeight : Nat} {recorded : Option ChainEvidence}
    (below : atOrAbove fromHeight recorded = false) :
    ∀ evidence ∈ recorded, ¬ fromHeight ≤ evidence.blockHeight := by
  intro evidence isEvidence
  cases isEvidence
  simpa [atOrAbove] using below

/-- Inclusion data a rollback leaves is fresh in front of it, too. -/
theorem Fresh.rolledBack {fromHeight counter : Nat} {recorded : Option ChainEvidence}
    (fresh : ∀ evidence ∈ recorded, Fresh rollbacks evidence)
    (below : atOrAbove fromHeight recorded = false) :
    ∀ evidence ∈ recorded, Fresh ((fromHeight, counter) :: rollbacks) evidence := by
  intro evidence isEvidence rollback isRollback reached
  rcases List.mem_cons.mp isRollback with rfl | earlier
  · exact absurd reached (not_atOrAbove below evidence isEvidence)
  · exact fresh evidence isEvidence rollback earlier reached

theorem JobSound.reverted (sound : JobSound owner rollbacks job) (fromHeight counter : Nat) :
    JobSound owner ((fromHeight, counter) :: rollbacks) (revertedJob fromHeight job) := by
  unfold revertedJob
  split
  · exact ⟨by simp, by simp [BackgroundJob.ReportsOutcome],
      fun parent => ⟨(sound.parent parent).1, rfl⟩, by simp, sound.hash, sound.row⟩
  next notFailed =>
    split
    · exact ⟨by simp, by simp [BackgroundJob.ReportsOutcome],
        fun parent => ⟨(sound.parent parent).1, rfl⟩, by simp, sound.hash, sound.row⟩
    next notReported =>
      refine ⟨sound.settled, sound.recorded, sound.parent, Fresh.rolledBack sound.fresh ?_,
        sound.hash, sound.row⟩
      cases reached : atOrAbove fromHeight job.evidence with
      | false => rfl
      | true =>
        have isSome : job.evidence.isSome := by
          cases evidence : job.evidence with
          | none => simp [evidence] at reached
          | some _ => rfl
        rcases sound.settled isSome with ⟨_, success | failure⟩ | ⟨failed, code⟩
        · simp [reached, success] at notReported
        · simp [reached, failure] at notReported
        · simp [reached, failed, code] at notFailed

theorem RowSound.reverted (sound : RowSound owner rollbacks row) (fromHeight counter : Nat) :
    RowSound owner ((fromHeight, counter) :: rollbacks) (revertedRow fromHeight row) := by
  unfold revertedRow
  split
  · exact ⟨by simp, by simp, by simp, sound.hash⟩
  next notOpen =>
    split
    · exact ⟨by simp, by simp, by simp, sound.hash⟩
    next notFailed =>
      refine ⟨sound.settled, sound.recorded, Fresh.rolledBack sound.fresh ?_, sound.hash⟩
      cases reached : atOrAbove fromHeight row.evidence with
      | false => rfl
      | true =>
        have isSome : row.evidence.isSome := by
          cases evidence : row.evidence with
          | none => simp [evidence] at reached
          | some _ => rfl
        rcases sound.settled isSome with included | finalized | ⟨failed, code⟩
        · simp [reached, included] at notOpen
        · simp [reached, finalized] at notOpen
        · simp [reached, failed, code] at notFailed

/-- A rollback ends no job that did not end before. -/
theorem revertedJob_calm (fromHeight : Nat) (job : BackgroundJob) :
    Calm exempt job (revertedJob fromHeight job) := by
  refine ⟨revertedJob_ID fromHeight job, revertedJob_kind fromHeight job, ?_⟩
  intro _ unsettled
  unfold revertedJob
  split
  next failed =>
    simp only [Bool.and_eq_true, decide_eq_true_eq] at failed
    exact absurd (.inr (.inr ⟨failed.1.2, failed.2⟩)) unsettled
  · split
    · exact unsettled
    · exact unsettled

theorem revertedRow_keepsBare (fromHeight : Nat) (row : PendingSubmission) :
    KeepsBare owner exempt row (revertedRow fromHeight row) := by
  unfold revertedRow
  split
  · exact ⟨rfl, fun _ _ => rfl⟩
  · split
    · exact ⟨rfl, fun _ _ => rfl⟩
    · exact KeepsBare.refl row

end Outcomes

end Nightgate.Submission
