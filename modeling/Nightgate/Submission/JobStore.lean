import Nightgate.Submission.JobTables

/-!
# Status changes of job rows

Each function is one conditional update of `BackgroundJobs`. A function that throws
when no row matched returns `none`; its transaction is rolled back.
-/

namespace Nightgate.Submission

open Library

namespace JobDb

/-- A conditional update of one job row that throws unless the row matched. -/
def updateJob (db : JobDb) (jobId : Nat) (matching : BackgroundJob → Bool)
    (patch : Patch BackgroundJob) : Option JobDb :=
  if db.jobs.affects jobId matching then
    some { db with jobs := db.jobs.update jobId matching patch }
  else none

/-- An update of all matching job rows. -/
def updateJobs (db : JobDb) (matching : BackgroundJob → Bool)
    (patch : Patch BackgroundJob) : JobDb :=
  { db with jobs := db.jobs.updateWhere matching patch }

end JobDb

/-- What an update that did not throw has done. -/
theorem JobDb.updateJob_eq_some {db after : JobDb} {jobId : Nat} {matching : BackgroundJob → Bool}
    {patch : Patch BackgroundJob} (updated : db.updateJob jobId matching patch = some after) :
    db.jobs.affects jobId matching ∧
      after = { db with jobs := db.jobs.update jobId matching patch } := by
  unfold JobDb.updateJob at updated
  split at updated
  next affected =>
    cases updated
    exact ⟨affected, rfl⟩
  · cases updated

/-- The row of an update that did not throw. -/
theorem JobDb.updateJob_row {db after : JobDb} {jobId : Nat} {matching : BackgroundJob → Bool}
    {patch : Patch BackgroundJob} (updated : db.updateJob jobId matching patch = some after) :
    ∃ before, db.jobs.find? jobId = some before ∧ matching before ∧
      after.jobs.find? jobId = some (patch.set before) := by
  rcases JobDb.updateJob_eq_some updated with ⟨affected, rfl⟩
  exact Table.find?_update_of_affects affected

/-- The job is in flight and this worker holds its lease. -/
def heldBy (worker : Nat) (job : BackgroundJob) : Bool :=
  job.leaseOwner = some worker && job.status.inFlight

/-- The job is past the external-effect boundary and this worker holds its lease. -/
def pastBoundary (worker : Nat) (job : BackgroundJob) : Bool :=
  job.leaseOwner = some worker && (job.status = .externalExecution || job.status = .submitted)

def markRunning (db : JobDb) (worker jobId : Nat) : Option JobDb :=
  db.updateJob jobId (fun job => job.status = .pending) {
    set := fun job => { job with status := .running, leaseOwner := some worker } }

def markSucceeded (db : JobDb) (worker jobId : Nat) : Option JobDb :=
  db.updateJob jobId (heldBy worker) {
    set := fun job => { job with status := .succeeded, leaseOwner := none } }

def markFailed (db : JobDb) (worker jobId : Nat) (code : ErrorCode) : Option JobDb :=
  db.updateJob jobId (heldBy worker) {
    set := fun job =>
      { job with status := .failed, errorCode := some code, leaseOwner := none } }

def markReconciliationRequired (db : JobDb) (worker jobId : Nat) (code : ErrorCode) :
    Option JobDb :=
  db.updateJob jobId (heldBy worker) {
    set := fun job => { job with
      status := .reconciliationRequired
      errorCode := some code
      leaseOwner := none } }

def markJobExternalExecution (db : JobDb) (worker jobId : Nat)
    (submissionId : Option Nat) : Option JobDb :=
  db.updateJob jobId
    (fun job => job.status = .running && job.leaseOwner = some worker) {
      set := fun job => { job with
        status := .externalExecution
        submissionId := submissionId } }

/-- `markJobBroadcastOn`: a first broadcast leaves `running`, a later one updates a
job past the boundary. -/
def markJobBroadcastOn (db : JobDb) (worker jobId : Nat) (submissionId : Option Nat)
    (txHash : TxHash) (firstBoundary : Bool) (now : Nat) : Option JobDb :=
  db.updateJob jobId (fun job =>
      if firstBoundary then job.status = .running && job.leaseOwner = some worker
      else pastBoundary worker job) {
      set := fun job => { job with
        status := .submitted
        submissionId := submissionId
        txHash := some txHash
        chainStatus := some .pending
        submittedAt := some now } }

/-- Takes a rejected hash off the job, if lease and hash are unchanged. -/
def markJobSubmissionRejectedOn (db : JobDb) (worker jobId : Nat)
    (submissionId : Option Nat) (txHash : TxHash) : Option JobDb :=
  db.updateJob jobId (fun job => pastBoundary worker job && job.txHash = some txHash) {
    set := fun job => { job with
      status := .externalExecution
      txHash := none
      chainStatus := none
      submissionId := submissionId } }

def markJobSubmitted (db : JobDb) (worker jobId : Nat) (submissionId : Option Nat)
    (txHash : TxHash) (now : Nat) : Option JobDb :=
  db.updateJob jobId (pastBoundary worker) {
    set := fun job => { job with
      status := .submitted
      submissionId := submissionId
      txHash := some txHash
      chainStatus := some .pending
      submittedAt := some now } }

/-- After this many re-queues the job fails. -/
def MAX_LEASE_RECLAIMS : Nat := 3

/-- One row of `reclaimExpiredLeases`: the job is queued again, or fails when it
cannot be replayed or its lease expired too often. -/
def reclaimLease (db : JobDb) (jobId : Nat) : JobDb :=
  { db with
    jobs := db.jobs.update jobId (fun job => job.status = .running) {
      set := fun job =>
        if job.commandVersion = none ∨ MAX_LEASE_RECLAIMS + 1 < job.attempt + 1 then
          { job with
            status := .failed
            errorCode := some .leaseExpired
            leaseOwner := none }
        else
          { job with status := .pending, attempt := job.attempt + 1, leaseOwner := none }
      keeps := by
        intro job
        split <;> rfl } }

/-- `supersedeQueuedJobs`, over the jobs a newer one of their kind replaces. -/
def supersedeQueuedJobs (db : JobDb) (replaced : BackgroundJob → Bool) : JobDb :=
  db.updateJobs
    (fun job => replaced job && (job.status = .pending || job.status = .running)) {
      set := fun job => { job with
        status := .failed
        errorCode := some .superseded
        leaseOwner := none } }

/-- `dropPendingJobsForClosedSessions`. -/
def dropPendingJobsForClosedSessions (db : JobDb) (sessionIds : List Nat) : JobDb :=
  db.updateJobs
    (fun job => job.status = .pending && job.sessionId ∈ sessionIds) {
      set := fun job => { job with
        status := .failed
        errorCode := some .processRestartSessionClosed
        leaseOwner := none } }

/-- The updates of `recoverInterruptedJobs`, in their order. -/
def recoverInterruptedJobs : List ((BackgroundJob → Bool) × Patch BackgroundJob) := [
  -- A session-bound job only filled in-process state.
  (fun job => (job.status = .pending || job.status = .running) && job.kind.sessionBound, {
    set := fun job => { job with
      status := .failed
      errorCode := some .processRestartSessionJobDropped
      leaseOwner := none } }),
  -- A running job has not sent anything yet.
  (fun job => job.status = .running && job.commandVersion.isSome, {
    set := fun job => { job with
      status := .pending
      errorCode := none
      leaseOwner := none } }),
  -- Jobs without a stored command cannot be rebuilt.
  (fun job => (job.status = .pending || job.status = .running) && job.commandVersion = none, {
    set := fun job => { job with
      status := .failed
      errorCode := some .processRestartBeforeExecution } }),
  -- Every send path stores the hash before sending.
  (fun job => job.status = .externalExecution && job.txHash = none, {
    set := fun job => { job with
      status := .failed
      errorCode := some .processRestartBeforeBroadcast
      leaseOwner := none } }),
  (fun job => job.status = .externalExecution || job.status = .submitted, {
    set := fun job => { job with
      status := .reconciliationRequired
      errorCode := some .processRestartReconcile
      leaseOwner := none } })]

/-- The first updates of the recovery; a crash may cut it short. -/
def recoverFirst (db : JobDb) (count : Nat) : JobDb :=
  (recoverInterruptedJobs.take count).foldl (fun db update => db.updateJobs update.1 update.2) db

end Nightgate.Submission
