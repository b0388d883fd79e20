import Nightgate.Submission.AttemptLedger

/-!
# Settling open outcomes

The writes of the reconciler: what a chain lookup proves about a job, the closing of
a broadcast that was lost or rejected, the roll-up of a workflow, and what a chain
rollback takes back. A chain outcome is written only while the rollback counter is
the one its lookup was started under.
-/

namespace Nightgate.Submission

open Library

inductive OutcomeStatus where
  | success
  | failure
  deriving DecidableEq

def OutcomeStatus.chainStatus : OutcomeStatus → ChainStatus
  | .success => .success
  | .failure => .failure

/-- A confirmed result with the block it landed in. -/
structure ChainOutcome where
  status : OutcomeStatus
  blockHeight : Nat
  blockHash : Option Nat
  indexerTxHash : Option Nat
  deriving DecidableEq

inductive ChainLookup where
  | outcome (outcome : ChainOutcome)
  /-- Not known to the indexer, as of its latest block time if it gave one. -/
  | absent (asOfMs : Option Nat)
  /-- Known but not final. -/
  | inconclusive

/-- `chainEvidencePatch`, with the counter the lookup was started under. -/
def ChainOutcome.evidence (outcome : ChainOutcome) (generation : Nat) : ChainEvidence where
  blockHeight := outcome.blockHeight
  blockHash := outcome.blockHash
  indexerTxHash := outcome.indexerTxHash
  lookedUpAt := generation

/-- The row `attemptRowOf` selects: by its id when recorded, else by the hash. -/
def attemptRowOf (db : JobDb) (job : BackgroundJob) : Option PendingSubmission :=
  match job.submissionId with
  | some submissionId => db.submissions.find? submissionId
  | none => db.submissions.rows.find? fun row => row.txHash = job.txHash

/-- The states `finalizeIdentifierKeyedJob` starts from. -/
inductive FinalizeFrom where
  | reconciliationRequired
  | inFlight (worker : Nat)
  | succeeded (chainStatusWas : Option ChainStatus)

/-- The `where` of the job update. -/
def FinalizeFrom.matching : FinalizeFrom → BackgroundJob → Bool
  | .reconciliationRequired, job => job.status = .reconciliationRequired
  | .inFlight worker, job => heldBy worker job
  | .succeeded chainStatusWas, job =>
    job.status = .succeeded && job.chainStatus = chainStatusWas

/-- The job part of a finalized outcome. -/
def finalizedJob (outcome : ChainOutcome) (evidence : ChainEvidence) :
    FinalizeFrom → Patch BackgroundJob
  | .succeeded _ => {
      set := fun job => { job with
        chainStatus := some outcome.status.chainStatus
        evidence := some evidence } }
  | .reconciliationRequired => {
      set := fun job => { job with
        status := if outcome.status = .success then .succeeded else .failed
        chainStatus := some outcome.status.chainStatus
        errorCode := if outcome.status = .success then none else some .chainExecutionFailed
        evidence := some evidence } }
  | .inFlight _ => {
      set := fun job => { job with
        status := if outcome.status = .success then .succeeded else .failed
        chainStatus := some outcome.status.chainStatus
        errorCode := if outcome.status = .success then none else some .chainExecutionFailed
        leaseOwner := none
        evidence := some evidence } }

/-- The attempt row part of a confirmed outcome. -/
def finalizedRow (outcome : ChainOutcome) (evidence : ChainEvidence) :
    Patch PendingSubmission where
  set := fun row => { row with
    status := if outcome.status = .success then .finalized else .failed
    errorCode :=
      if outcome.status = .success then row.errorCode else some .chainExecutionFailed
    evidence := some evidence }

/-- `finalizeIdentifierKeyedJob`: job and attempt row in one transaction, unless the
counter moved or the job did. -/
def finalizeIdentifierKeyedJob (db : JobDb) (job : BackgroundJob) (outcome : ChainOutcome)
    (start : FinalizeFrom) (generation : Nat) : JobDb :=
  if db.reorgGeneration = generation ∧ db.jobs.affects job.ID start.matching then
    { db with
      jobs := db.jobs.update job.ID start.matching
        (finalizedJob outcome (outcome.evidence generation) start)
      submissions :=
        match attemptRowOf db job with
        | none => db.submissions
        | some row =>
          db.submissions.update row.ID (fun _ => true)
            (finalizedRow outcome (outcome.evidence generation)) }
  else db

/-- The confirmation of a succeeded job whose hash the crawler's tables know: only an
open attempt row moves. -/
def confirmChainOutcome (db : JobDb) (job : BackgroundJob) (outcome : ChainOutcome)
    (generation : Nat) : JobDb :=
  let start := FinalizeFrom.succeeded job.chainStatus
  if db.reorgGeneration = generation ∧ db.jobs.affects job.ID start.matching then
    { db with
      jobs := db.jobs.update job.ID start.matching
        (finalizedJob outcome (outcome.evidence generation) start)
      submissions := db.submissions.updateWhere (fun row =>
          (match job.submissionId with
            | some submissionId => row.ID = submissionId
            | none => row.txHash = job.txHash) &&
          (row.status = .pending || row.status = .included))
        (finalizedRow outcome (outcome.evidence generation)) }
  else db

/-! ## Lost and rejected broadcasts -/

/-- For rows without a stored ttl. -/
def LEGACY_BROADCAST_TTL_MS : Nat := 60 * 60 * 1000

/-- The end of the validity window of a job's broadcast, if one is known. -/
def broadcastTtlMs (job : BackgroundJob) (submission : Option PendingSubmission) :
    Option Nat :=
  match submission with
  | some row => some (row.ttl.getD (row.submittedAt + LEGACY_BROADCAST_TTL_MS))
  | none => job.submittedAt.map (· + LEGACY_BROADCAST_TTL_MS)

/-- Closes the open attempt row of a job and gives its reserved deploys back. -/
def closeOpenRow (db : JobDb) (submission : Option PendingSubmission) (code : ErrorCode) :
    JobDb :=
  match submission with
  | none => db
  | some row =>
    if db.submissions.affects row.ID (fun row => row.status = .pending) then
      let closed := { db with
        submissions := db.submissions.update row.ID (fun row => row.status = .pending) {
          set := fun row => { row with status := .failed, errorCode := some code }
          keeps := fun row => Eq.refl row.ID } }
      match row.deployReservation with
      | none => closed
      | some reservation =>
        if 0 < reservation.count then
          deployRefund closed reservation.grantId reservation.count
        else closed
    else db

@[simp] theorem closeOpenRow_jobs (db : JobDb) (submission : Option PendingSubmission)
    (code : ErrorCode) : (closeOpenRow db submission code).jobs = db.jobs := by
  unfold closeOpenRow
  cases submission with
  | none => rfl
  | some row =>
    dsimp only
    split
    · cases row.deployReservation with
      | none => rfl
      | some reservation =>
        dsimp only
        split <;> rfl
    · rfl

/-- `finalizeLostBroadcast`: the indexer's tip is past the validity window of a
transaction it does not know. -/
def finalizeLostBroadcast (db : JobDb) (job : BackgroundJob) (tipMs : Option Nat)
    (margin generation : Nat) : JobDb :=
  let submission := attemptRowOf db job
  match tipMs, broadcastTtlMs job submission with
  | some tipMs, some ttlMs =>
    if job.errorCode = some .rejectedAttemptBookkeepingPending ∨
        job.kind.workflowParent ∨ tipMs ≤ ttlMs + margin then db
    else if db.reorgGeneration = generation ∧
        db.jobs.affects job.ID (fun job => job.status = .reconciliationRequired) then
      closeOpenRow
        { db with
          jobs := db.jobs.update job.ID (fun job => job.status = .reconciliationRequired) {
            set := fun job => { job with
              status := .failed
              chainStatus := some .dropped
              errorCode := some .broadcastNotIncluded } } }
        submission .broadcastNotIncluded
    else db
  | _, _ => db

/-- The row `settleRejectedSponsorAttempts` closes: only an open one when the job
names none. -/
def rejectedRowOf (db : JobDb) (job : BackgroundJob) : Option PendingSubmission :=
  match job.submissionId with
  | some submissionId => db.submissions.find? submissionId
  | none =>
    if job.txHash = none then none
    else db.submissions.rows.find? fun row =>
      row.txHash = job.txHash && row.status = .pending

/-- A parked job whose rejected attempt waits for its bookkeeping. -/
def awaitsBookkeeping (job : BackgroundJob) : Bool :=
  job.status = .reconciliationRequired && job.errorCode = some .rejectedAttemptBookkeepingPending

/-- One job of `settleRejectedSponsorAttempts`. -/
def settleRejectedSponsorAttempt (db : JobDb) (job : BackgroundJob) : JobDb :=
  let settled := closeOpenRow db (rejectedRowOf db job) .rejected
  { settled with
    jobs := settled.jobs.update job.ID awaitsBookkeeping {
      set := fun job => { job with
        status := .failed
        txHash := none
        chainStatus := none
        errorCode := some .sponsorAttemptRejected } } }

def childrenOf (db : JobDb) (parentId : Nat) : List BackgroundJob :=
  db.jobs.rows.filter fun job => job.parentJobId = some parentId

/-- One parked workflow of `reconcileBackgroundJobs`: queued again once all its steps
succeeded, failed with a failed step. -/
def reconcileParent (db : JobDb) (parentId : Nat) : JobDb :=
  let children := childrenOf db parentId
  let parked := fun job : BackgroundJob =>
    job.status = .reconciliationRequired && job.kind.workflowParent
  if children ≠ [] ∧ children.all (fun child => child.status = .succeeded) then
    { db with
      jobs := db.jobs.update parentId parked {
        set := fun job =>
          { job with status := .pending, errorCode := none, leaseOwner := none }
        keeps := fun job => Eq.refl job.ID } }
  else if children.any (fun child => child.status = .failed) then
    { db with
      jobs := db.jobs.update parentId parked {
        set := fun job =>
          { job with status := .failed, errorCode := some .childFailed } } }
  else db

/-- The roll-up of `refreshSucceededChainOutcomes`. -/
def aggregateChainStatus (children : List BackgroundJob) : ChainStatus :=
  if children.any (fun child => child.chainStatus = some .failure) then .failure
  else if children.all (fun child => child.chainStatus = some .success) then .success
  else .pending

/-- A succeeded workflow the roll-up looks at. -/
def awaitsRollUp (job : BackgroundJob) : Bool :=
  job.status = .succeeded && job.kind.workflowParent &&
    (job.chainStatus = some .pending || job.chainStatus = none)

/-- The write of the roll-up. -/
def writeAggregate (db : JobDb) (parentId : Nat) (aggregate : ChainStatus) : JobDb :=
  { db with
    jobs := db.jobs.update parentId (fun job => job.status = .succeeded) {
      set := fun job => { job with chainStatus := some aggregate } } }

/-- The inclusion data lies at or above a height. -/
def atOrAbove (fromHeight : Nat) (evidence : Option ChainEvidence) : Bool :=
  evidence.any fun evidence => fromHeight ≤ evidence.blockHeight

/-- `revertSubmissionEvidence`, in the order of its updates. -/
def revertSubmissionEvidence (db : JobDb) (fromHeight : Nat) : JobDb :=
  let included := db.submissions.updateWhere (fun row => atOrAbove fromHeight row.evidence &&
      (row.status = .included || row.status = .finalized)) {
      set := fun row => { row with status := .pending, evidence := none } }
  let failed := included.updateWhere
    (fun row => atOrAbove fromHeight row.evidence && row.status = .failed &&
      row.errorCode = some .chainExecutionFailed) {
      set := fun row =>
        { row with status := .pending, errorCode := none, evidence := none } }
  let failedJobs := db.jobs.updateWhere
    (fun job => atOrAbove fromHeight job.evidence && job.status = .failed &&
      job.errorCode = some .chainExecutionFailed) {
      set := fun job => { job with
        status := .reconciliationRequired
        chainStatus := some .pending
        errorCode := none
        evidence := none } }
  let outcomes := failedJobs.updateWhere (fun job => atOrAbove fromHeight job.evidence &&
      (job.chainStatus = some .success || job.chainStatus = some .failure)) {
      set := fun job => { job with chainStatus := some .pending, evidence := none } }
  { db with jobs := outcomes, submissions := failed }

/-- The part of a chain rollback that concerns jobs: the counter first, then the
inclusion data from the height upwards. -/
def rollbackJobs (db : JobDb) (fromHeight : Nat) : JobDb :=
  revertSubmissionEvidence { db with reorgGeneration := db.reorgGeneration + 1 } fromHeight

/-- A job row after a rollback. -/
def revertedJob (fromHeight : Nat) (job : BackgroundJob) : BackgroundJob :=
  if atOrAbove fromHeight job.evidence && job.status = .failed &&
      job.errorCode = some .chainExecutionFailed then
    { job with
      status := .reconciliationRequired
      chainStatus := some .pending
      errorCode := none
      evidence := none }
  else if atOrAbove fromHeight job.evidence &&
      (job.chainStatus = some .success || job.chainStatus = some .failure) then
    { job with chainStatus := some .pending, evidence := none }
  else job

/-- An attempt row after a rollback. -/
def revertedRow (fromHeight : Nat) (row : PendingSubmission) : PendingSubmission :=
  if atOrAbove fromHeight row.evidence && (row.status = .included || row.status = .finalized) then
    { row with status := .pending, evidence := none }
  else if atOrAbove fromHeight row.evidence && row.status = .failed &&
      row.errorCode = some .chainExecutionFailed then
    { row with status := .pending, errorCode := none, evidence := none }
  else row

@[simp] theorem atOrAbove_none (fromHeight : Nat) : atOrAbove fromHeight none = false := rfl

@[simp] theorem revertedJob_ID (fromHeight : Nat) (job : BackgroundJob) :
    (revertedJob fromHeight job).ID = job.ID := by
  unfold revertedJob
  split
  · rfl
  · split <;> rfl

@[simp] theorem revertedJob_kind (fromHeight : Nat) (job : BackgroundJob) :
    (revertedJob fromHeight job).kind = job.kind := by
  unfold revertedJob
  split
  · rfl
  · split <;> rfl

@[simp] theorem revertedJob_parentJobId (fromHeight : Nat) (job : BackgroundJob) :
    (revertedJob fromHeight job).parentJobId = job.parentJobId := by
  unfold revertedJob
  split
  · rfl
  · split <;> rfl

theorem rollbackJobs_getJobById (db : JobDb) (fromHeight jobId : Nat) :
    (rollbackJobs db fromHeight).getJobById jobId =
      (db.getJobById jobId).map (revertedJob fromHeight) := by
  simp only [JobDb.getJobById, rollbackJobs, revertSubmissionEvidence]
  rw [Table.find?_updateWhere, Table.find?_updateWhere, Option.map_map]
  congr 1
  funext job
  simp only [Function.comp_apply, revertedJob]
  by_cases failed : (atOrAbove fromHeight job.evidence && job.status = .failed &&
      job.errorCode = some .chainExecutionFailed : Bool)
  · rw [if_pos failed, if_pos failed]
    simp
  · rw [if_neg failed, if_neg failed]

theorem rollbackJobs_submission (db : JobDb) (fromHeight rowId : Nat) :
    (rollbackJobs db fromHeight).submissions.find? rowId =
      (db.submissions.find? rowId).map (revertedRow fromHeight) := by
  simp only [rollbackJobs, revertSubmissionEvidence]
  rw [Table.find?_updateWhere, Table.find?_updateWhere, Option.map_map]
  congr 1
  funext row
  simp only [Function.comp_apply, revertedRow]
  by_cases open' : (atOrAbove fromHeight row.evidence &&
      (row.status = .included || row.status = .finalized) : Bool)
  · rw [if_pos open', if_pos open']
    simp
  · rw [if_neg open', if_neg open']

end Nightgate.Submission
