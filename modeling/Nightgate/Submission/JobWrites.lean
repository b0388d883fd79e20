import Nightgate.Submission.Ledger

/-!
# What a write makes of a job row

All writers of job rows, by the state they find a row in and what they make of it. An
invariant of the rows looks at each of them once; the conditional updates, the recovery,
the reconciler and a rollback are then sequences of them.
-/

namespace Nightgate.Submission

open Library

/-- The codes of jobs that the chain ended: it was asked about their transaction. -/
def ErrorCode.onChain (code : ErrorCode) : Prop :=
  code = .broadcastNotIncluded ∨ code = .chainExecutionFailed

inductive JobWrite where
  | claim (worker : Nat)
  | crossBoundary (submissionId : Option Nat)
  /-- An announcement, or the hash of the landed transaction. -/
  | send (worker : Nat) (submissionId : Option Nat) (txHash : TxHash) (now : Nat)
  | reject (worker : Nat) (submissionId : Option Nat)
  | succeed (worker : Nat)
  | fail (worker : Nat) (code : ErrorCode)
  | park (worker : Nat) (code : ErrorCode)
  /-- A job that has not sent anything ends without its executor. -/
  | drop (code : ErrorCode)
  | requeue
  /-- A starting process leaves to the reconciler what may have been sent. -/
  | parkSent
  | finalize (start : FinalizeFrom) (outcome : ChainOutcome) (evidence : ChainEvidence)
  | lose
  | settleRejected
  | requeueParent
  | failParent
  | rollUp (aggregate : ChainStatus)
  | revert (fromHeight : Nat)

/-- A job that has not sent anything. -/
def BackgroundJob.Unsent (job : BackgroundJob) : Prop :=
  job.status = .pending ∨ job.status = .running ∨ job.status = .externalExecution

/-- The row a write finds, and the row it leaves. -/
inductive JobWrite.Makes : JobWrite → BackgroundJob → BackgroundJob → Prop where
  | claim {job : BackgroundJob} {worker : Nat} (pending : job.status = .pending) :
      Makes (.claim worker) job { job with status := .running, leaseOwner := some worker }
  | crossBoundary {job : BackgroundJob} {submissionId : Option Nat}
      (running : job.status = .running) :
      Makes (.crossBoundary submissionId) job
        { job with status := .externalExecution, submissionId }
  | send {job : BackgroundJob} {worker : Nat} {submissionId : Option Nat} {txHash : TxHash}
      {now : Nat} (held : heldBy worker job) :
      Makes (.send worker submissionId txHash now) job { job with
        status := .submitted
        submissionId
        txHash := some txHash
        chainStatus := some .pending
        submittedAt := some now }
  | reject {job : BackgroundJob} {worker : Nat} {submissionId : Option Nat}
      (past : pastBoundary worker job) :
      Makes (.reject worker submissionId) job { job with
        status := .externalExecution
        txHash := none
        chainStatus := none
        submissionId }
  | succeed {job : BackgroundJob} {worker : Nat} (held : heldBy worker job) :
      Makes (.succeed worker) job { job with status := .succeeded, leaseOwner := none }
  | fail {job : BackgroundJob} {worker : Nat} {code : ErrorCode} (held : heldBy worker job) :
      Makes (.fail worker code) job
        { job with status := .failed, errorCode := some code, leaseOwner := none }
  | park {job : BackgroundJob} {worker : Nat} {code : ErrorCode} (held : heldBy worker job) :
      Makes (.park worker code) job { job with
        status := .reconciliationRequired
        errorCode := some code
        leaseOwner := none }
  | drop {job : BackgroundJob} {code : ErrorCode} {leaseOwner : Option Nat}
      (unsent : job.Unsent) (other : ¬ code.onChain) :
      Makes (.drop code) job { job with status := .failed, errorCode := some code, leaseOwner }
  | requeue {job : BackgroundJob} {errorCode : Option ErrorCode} {attempt : Nat}
      (running : job.status = .running) :
      Makes .requeue job { job with status := .pending, errorCode, attempt, leaseOwner := none }
  | parkSent {job : BackgroundJob}
      (sent : job.status = .externalExecution ∨ job.status = .submitted) :
      Makes .parkSent job { job with
        status := .reconciliationRequired
        errorCode := some .processRestartReconcile
        leaseOwner := none }
  | finalize {job : BackgroundJob} {start : FinalizeFrom} {outcome : ChainOutcome}
      {evidence : ChainEvidence} (isMatch : start.matching job) :
      Makes (.finalize start outcome evidence) job ((finalizedJob outcome evidence start).set job)
  | lose {job : BackgroundJob} (parked : job.status = .reconciliationRequired) :
      Makes .lose job { job with
        status := .failed
        chainStatus := some .dropped
        errorCode := some .broadcastNotIncluded }
  | settleRejected {job : BackgroundJob} (awaits : awaitsBookkeeping job) :
      Makes .settleRejected job { job with
        status := .failed
        txHash := none
        chainStatus := none
        errorCode := some .sponsorAttemptRejected }
  | requeueParent {job : BackgroundJob} (parked : job.status = .reconciliationRequired)
      (parent : job.kind.workflowParent) :
      Makes .requeueParent job
        { job with status := .pending, errorCode := none, leaseOwner := none }
  | failParent {job : BackgroundJob} (parked : job.status = .reconciliationRequired)
      (parent : job.kind.workflowParent) :
      Makes .failParent job { job with status := .failed, errorCode := some .childFailed }
  | rollUp {job : BackgroundJob} {aggregate : ChainStatus}
      (succeeded : job.status = .succeeded) :
      Makes (.rollUp aggregate) job { job with chainStatus := some aggregate }
  | revert {job : BackgroundJob} {fromHeight : Nat} :
      Makes (.revert fromHeight) job (revertedJob fromHeight job)

/-- Writes that end or free a job without its executor. -/
def JobWrite.frees : JobWrite → Prop
  | .drop _ | .requeue => True
  | _ => False

/-- Writes of a starting process. -/
def JobWrite.recovers (write : JobWrite) : Prop :=
  write.frees ∨ write = .parkSent

/-- Writes that record no outcome of the chain and take none back. -/
def JobWrite.quiet : JobWrite → Prop
  | .finalize _ _ _ | .rollUp _ | .revert _ => False
  | _ => True

theorem JobWrite.frees.quiet {write : JobWrite} (frees : write.frees) : write.quiet := by
  cases write <;> first | exact frees.elim | trivial

theorem JobWrite.recovers.quiet {write : JobWrite} (recovers : write.recovers) : write.quiet := by
  rcases recovers with frees | rfl
  · exact frees.quiet
  · trivial

section Rows

variable {write : JobWrite} {job next : BackgroundJob} {worker : Nat}

theorem unsettled_of_heldBy (held : heldBy worker job) :
    job.status ≠ .succeeded ∧ job.status ≠ .failed ∧ job.status ≠ .reconciliationRequired := by
  simp only [heldBy, Bool.and_eq_true] at held
  refine ⟨?_, ?_, ?_⟩ <;> intro status <;> simp [status, JobStatus.inFlight] at held

theorem heldBy_of_pastBoundary (past : pastBoundary worker job) : heldBy worker job := by
  simp only [pastBoundary, heldBy, Bool.and_eq_true, Bool.or_eq_true, decide_eq_true_eq] at past ⊢
  refine ⟨past.1, ?_⟩
  rcases past.2 with status | status <;> rw [status] <;> rfl

theorem heldBy_of_running (running : job.status = .running)
    (owner : job.leaseOwner = some worker) : heldBy worker job := by
  simp only [heldBy, owner, running]
  rfl

theorem awaitsBookkeeping_iff : awaitsBookkeeping job ↔ job.status = .reconciliationRequired ∧
    job.errorCode = some .rejectedAttemptBookkeepingPending := by
  simp [awaitsBookkeeping]

/-- No write changes what job a row is. -/
theorem JobWrite.Makes.same (makes : write.Makes job next) :
    next.ID = job.ID ∧ next.kind = job.kind ∧ next.parentJobId = job.parentJobId := by
  cases makes with
  | @finalize _ start => cases start <;> exact ⟨rfl, rfl, rfl⟩
  | revert =>
    exact ⟨revertedJob_ID _ _, revertedJob_kind _ _, revertedJob_parentJobId _ _⟩
  | _ => exact ⟨rfl, rfl, rfl⟩

/-- A quiet write finds a job that has not ended. -/
theorem JobWrite.Makes.inProgress (makes : write.Makes job next) (quiet : write.quiet) :
    job.status ≠ .succeeded ∧ job.status ≠ .failed := by
  cases makes with
  | claim status | crossBoundary status | requeue status | lose status | requeueParent status
  | failParent status => simp [status]
  | settleRejected awaits => simp [(awaitsBookkeeping_iff.mp awaits).1]
  | send held | succeed held | fail held | park held =>
    exact ⟨(unsettled_of_heldBy held).1, (unsettled_of_heldBy held).2.1⟩
  | reject past =>
    have held := heldBy_of_pastBoundary past
    exact ⟨(unsettled_of_heldBy held).1, (unsettled_of_heldBy held).2.1⟩
  | drop unsent => rcases unsent with status | status | status <;> simp [status]
  | parkSent sent => rcases sent with status | status <;> simp [status]
  | finalize | rollUp | revert => exact quiet.elim

end Rows

/-! ## The tables after a write -/

/-- Each row stays, or goes over to what an allowed write makes of it. -/
def Wrote (allowed : Nat → JobWrite → Prop) (db after : JobDb) : Prop :=
  db.jobs.Rewrites (fun job next => next = job ∨
    ∃ write, allowed job.ID write ∧ write.Makes job next) after.jobs

/-- One write of one row. -/
def onlyRow (jobId : Nat) (write : JobWrite) (id : Nat) (written : JobWrite) : Prop :=
  id = jobId ∧ written = write

/-- Some writes, of any row. -/
def anyRow (writes : JobWrite → Prop) (_ : Nat) (written : JobWrite) : Prop := writes written

section Tables

variable {allowed : Nat → JobWrite → Prop} {write : JobWrite} {db before after : JobDb}
  {worker jobId : Nat} {matching : BackgroundJob → Bool} {patch : Patch BackgroundJob}

theorem Wrote.of_jobs (same : after.jobs = db.jobs) : Wrote allowed db after := by
  unfold Wrote
  rw [same]
  exact Table.Rewrites.refl (fun _ => .inl rfl) _

theorem Wrote.since (jobs : before.jobs = db.jobs) (wrote : Wrote allowed before after) :
    Wrote allowed db after := by
  unfold Wrote at wrote ⊢
  rwa [jobs] at wrote

theorem Wrote.mono {more : Nat → JobWrite → Prop} (wrote : Wrote allowed db after)
    (grows : ∀ id write, allowed id write → more id write) : Wrote more db after := by
  apply Table.Rewrites.imp wrote
  rintro id job next _ (same | ⟨write, may, makes⟩)
  · exact .inl same
  · exact .inr ⟨write, grows _ write may, makes⟩

theorem Wrote.update (jobs : after.jobs = db.jobs.update jobId matching patch)
    (makes : ∀ job, matching job → ∃ write, allowed jobId write ∧ write.Makes job (patch.set job)) :
    Wrote allowed db after := by
  unfold Wrote
  rw [jobs]
  apply Table.rewrites_update fun _ => .inl rfl
  intro job found isMatch
  have isJob : job.ID = jobId := Table.key_of_find? found
  rw [isJob]
  exact .inr (makes job isMatch)

theorem Wrote.one (jobs : after.jobs = db.jobs.update jobId matching patch)
    (makes : ∀ job, matching job → write.Makes job (patch.set job)) :
    Wrote (onlyRow jobId write) db after :=
  .update jobs fun job isMatch => ⟨write, ⟨rfl, rfl⟩, makes job isMatch⟩

theorem Wrote.of_updateJob (updated : db.updateJob jobId matching patch = some after)
    (makes : ∀ job, matching job → write.Makes job (patch.set job)) :
    Wrote (onlyRow jobId write) db after := by
  rcases JobDb.updateJob_eq_some updated with ⟨_, rfl⟩
  exact .one rfl makes

/-- A conditional update of a job row leaves the other tables alone. -/
theorem JobDb.updateJob_tables (updated : db.updateJob jobId matching patch = some after) :
    after.submissions = db.submissions ∧ after.reorgGeneration = db.reorgGeneration := by
  rcases JobDb.updateJob_eq_some updated with ⟨_, rfl⟩
  exact ⟨rfl, rfl⟩

theorem Wrote.updateWhere {writes : JobWrite → Prop}
    (makes : ∀ job, matching job → ∃ write, writes write ∧ write.Makes job (patch.set job)) :
    Wrote (anyRow writes) db (db.updateJobs matching patch) := by
  apply Table.rewrites_updateWhere fun _ => .inl rfl
  exact fun id job _ isMatch => .inr (makes job isMatch)

variable {relation : BackgroundJob → BackgroundJob → Prop}

/-- What every write does to a row, the tables show for all rows. -/
theorem Wrote.rewrites
    (wrote : Wrote allowed db after) (reflexive : ∀ job, relation job job)
    (step : ∀ job next write, db.jobs.find? job.ID = some job → allowed job.ID write →
      write.Makes job next → relation job next) : db.jobs.Rewrites relation after.jobs := by
  apply Table.Rewrites.imp wrote
  rintro id job next found (rfl | ⟨write, may, makes⟩)
  · exact reflexive next
  · have isJob : job.ID = id := Table.key_of_find? found
    exact step job next write (isJob ▸ found) may makes

theorem markRunning_wrote (marked : markRunning db worker jobId = some after) :
    Wrote (onlyRow jobId (.claim worker)) db after :=
  .of_updateJob marked fun _ isMatch => .claim (of_decide_eq_true isMatch)

theorem markSucceeded_wrote (marked : markSucceeded db worker jobId = some after) :
    Wrote (onlyRow jobId (.succeed worker)) db after :=
  .of_updateJob marked fun _ => .succeed

theorem markFailed_wrote {code : ErrorCode}
    (marked : markFailed db worker jobId code = some after) :
    Wrote (onlyRow jobId (.fail worker code)) db after :=
  .of_updateJob marked fun _ => .fail

theorem markReconciliationRequired_wrote {code : ErrorCode}
    (marked : markReconciliationRequired db worker jobId code = some after) :
    Wrote (onlyRow jobId (.park worker code)) db after :=
  .of_updateJob marked fun _ => .park

variable {submissionId : Option Nat} {txHash : TxHash} {now : Nat}

theorem markJobExternalExecution_wrote
    (marked : markJobExternalExecution db worker jobId submissionId = some after) :
    Wrote (onlyRow jobId (.crossBoundary submissionId)) db after := by
  apply Wrote.of_updateJob marked
  intro job isMatch
  simp only [Bool.and_eq_true, decide_eq_true_eq] at isMatch
  exact .crossBoundary isMatch.1

theorem markJobBroadcastOn_wrote {firstBoundary : Bool}
    (marked : markJobBroadcastOn db worker jobId submissionId txHash firstBoundary now = some after)
    : Wrote (onlyRow jobId (.send worker submissionId txHash now)) db after := by
  apply Wrote.of_updateJob marked
  intro job isMatch
  split at isMatch
  · simp only [Bool.and_eq_true, decide_eq_true_eq] at isMatch
    exact .send (heldBy_of_running isMatch.1 isMatch.2)
  · exact .send (heldBy_of_pastBoundary isMatch)

theorem markJobSubmissionRejectedOn_wrote
    (marked : markJobSubmissionRejectedOn db worker jobId submissionId txHash = some after) :
    Wrote (onlyRow jobId (.reject worker submissionId)) db after := by
  apply Wrote.of_updateJob marked
  intro job isMatch
  simp only [Bool.and_eq_true] at isMatch
  exact .reject isMatch.1

theorem markJobSubmitted_wrote
    (marked : markJobSubmitted db worker jobId submissionId txHash now = some after) :
    Wrote (onlyRow jobId (.send worker submissionId txHash now)) db after :=
  .of_updateJob marked fun _ past => .send (heldBy_of_pastBoundary past)

theorem AttemptLedger.onSubmitIntent_wrote {ledger : AttemptLedger} {intent : Announcement}
    (announced : ledger.onSubmitIntent db worker jobId intent = some after) :
    Wrote
      (onlyRow jobId (.send worker (ledger.targetRow intent) (.identifier intent.tx) intent.now))
      db after := by
  rcases AttemptLedger.onSubmitIntent_cases announced with ⟨reserved, jobs, _, _, marked⟩
  rw [AttemptLedger.writeRow_jobs] at jobs
  exact .since jobs (markJobBroadcastOn_wrote marked)

theorem AttemptLedger.reject_wrote {ledger : AttemptLedger} {tx : Tx}
    (rejected : ledger.reject db worker jobId tx = some after) :
    Wrote (onlyRow jobId (.reject worker ledger.rowId)) db after :=
  .since (by simp) (markJobSubmissionRejectedOn_wrote rejected)

theorem reclaimLease_wrote (db : JobDb) (jobId : Nat) :
    Wrote (anyRow JobWrite.frees) db (reclaimLease db jobId) := by
  apply Wrote.update rfl
  intro job isMatch
  have running := of_decide_eq_true isMatch
  dsimp only
  split
  · exact ⟨.drop .leaseExpired, trivial, .drop (.inr (.inl running)) (by simp [ErrorCode.onChain])⟩
  · exact ⟨.requeue, trivial, .requeue running⟩

theorem supersedeQueuedJobs_wrote (db : JobDb) (replaced : BackgroundJob → Bool) :
    Wrote (anyRow JobWrite.frees) db (supersedeQueuedJobs db replaced) := by
  apply Wrote.updateWhere
  intro job isMatch
  simp only [Bool.and_eq_true, Bool.or_eq_true, decide_eq_true_eq] at isMatch
  refine ⟨.drop .superseded, trivial, .drop ?_ (by simp [ErrorCode.onChain])⟩
  exact isMatch.2.imp id .inl

theorem dropPendingJobs_wrote (db : JobDb) (sessionIds : List Nat) :
    Wrote (anyRow JobWrite.frees) db (dropPendingJobsForClosedSessions db sessionIds) := by
  apply Wrote.updateWhere
  intro job isMatch
  simp only [Bool.and_eq_true, decide_eq_true_eq] at isMatch
  exact ⟨.drop .processRestartSessionClosed, trivial,
    .drop (.inl isMatch.1) (by simp [ErrorCode.onChain])⟩

/-- Every update of the recovery. -/
theorem recoverInterruptedJobs_makes :
    ∀ update ∈ recoverInterruptedJobs, ∀ job : BackgroundJob, update.1 job →
      ∃ write : JobWrite, write.recovers ∧ write.Makes job (update.2.set job) := by
  intro update isUpdate job isMatch
  have drops {code : ErrorCode} {leaseOwner : Option Nat} (unsent : job.Unsent)
      (other : ¬ code.onChain) : ∃ write : JobWrite, write.recovers ∧ write.Makes job
        { job with status := .failed, errorCode := some code, leaseOwner } :=
    ⟨.drop code, .inl trivial, .drop unsent other⟩
  simp only [recoverInterruptedJobs, List.mem_cons, List.not_mem_nil, or_false] at isUpdate
  rcases isUpdate with rfl | rfl | rfl | rfl | rfl <;>
    simp only [Bool.and_eq_true, Bool.or_eq_true, decide_eq_true_eq] at isMatch
  · exact drops (isMatch.1.imp id .inl) (by simp [ErrorCode.onChain])
  · exact ⟨.requeue, .inl trivial, .requeue isMatch.1⟩
  · exact drops (isMatch.1.imp id .inl) (by simp [ErrorCode.onChain])
  · exact drops (.inr (.inr isMatch.1)) (by simp [ErrorCode.onChain])
  · exact ⟨.parkSent, .inr rfl, .parkSent isMatch⟩

/-- What the writes of a starting process do to a row under an invariant of the rows, the
recovery does to all rows, wherever it is cut short. -/
theorem recoverFirst_rewrites
    {holds : BackgroundJob → Prop} (reflexive : ∀ job, relation job job)
    (transitive : ∀ first second third, relation first second → relation second third →
      relation first third)
    (step : ∀ (job next : BackgroundJob) (write : JobWrite), write.recovers →
      write.Makes job next → holds job → relation job next ∧ holds next)
    (count : Nat) (all : db.jobs.All holds) :
    db.jobs.Rewrites relation (recoverFirst db count).jobs ∧
      (recoverFirst db count).jobs.All holds := by
  have each : ∀ update ∈ recoverInterruptedJobs.take count, ∀ job : BackgroundJob,
      update.1 job → holds job → relation job (update.2.set job) ∧ holds (update.2.set job) := by
    intro update isUpdate job isMatch
    obtain ⟨write, recovers, makes⟩ :=
      recoverInterruptedJobs_makes update (List.mem_of_mem_take isUpdate) job isMatch
    exact step job _ write recovers makes
  unfold recoverFirst
  generalize recoverInterruptedJobs.take count = updates at each
  induction updates generalizing db with
  | nil => exact ⟨Table.Rewrites.refl reflexive _, all⟩
  | cons update rest ih =>
    have first := each update List.mem_cons_self
    have held : (db.updateJobs update.1 update.2).jobs.All holds :=
      all.updateWhere fun job held isMatch => (first job isMatch held).2
    obtain ⟨later, still⟩ :=
      ih held fun other isOther => each other (List.mem_cons_of_mem _ isOther)
    refine ⟨Table.Rewrites.trans transitive ?_ later, still⟩
    exact Table.rewrites_updateWhere reflexive fun id job found isMatch =>
      (first job isMatch (all id job found)).1

/-- The recovery updates jobs alone. -/
theorem recoverFirst_fields (db : JobDb) (count : Nat) :
    (recoverFirst db count).submissions = db.submissions ∧
      (recoverFirst db count).reorgGeneration = db.reorgGeneration := by
  unfold recoverFirst
  induction recoverInterruptedJobs.take count generalizing db with
  | nil => exact ⟨rfl, rfl⟩
  | cons update rest ih => exact ih (db.updateJobs update.1 update.2)

variable {job : BackgroundJob} {outcome : ChainOutcome} {generation : Nat}

theorem finalizeIdentifierKeyedJob_wrote {start : FinalizeFrom} :
    Wrote (onlyRow job.ID (.finalize start outcome (outcome.evidence generation))) db
      (finalizeIdentifierKeyedJob db job outcome start generation) := by
  unfold finalizeIdentifierKeyedJob
  split
  · exact .one rfl fun _ => .finalize
  · exact .of_jobs rfl

theorem confirmChainOutcome_wrote :
    Wrote (onlyRow job.ID (.finalize (.succeeded job.chainStatus) outcome
      (outcome.evidence generation))) db (confirmChainOutcome db job outcome generation) := by
  simp only [confirmChainOutcome]
  split
  · exact .one rfl fun _ => .finalize
  · exact .of_jobs rfl

theorem finalizeLostBroadcast_wrote {tipMs : Option Nat} {margin : Nat} :
    Wrote (onlyRow job.ID .lose) db (finalizeLostBroadcast db job tipMs margin generation) := by
  simp only [finalizeLostBroadcast]
  split
  · split
    · exact .of_jobs rfl
    · split
      · exact .one (closeOpenRow_jobs _ _ _) fun _ isMatch => .lose (of_decide_eq_true isMatch)
      · exact .of_jobs rfl
  · exact .of_jobs rfl

theorem settleRejectedSponsorAttempt_wrote (db : JobDb) (job : BackgroundJob) :
    Wrote (onlyRow job.ID .settleRejected) db (settleRejectedSponsorAttempt db job) :=
  .since (closeOpenRow_jobs db (rejectedRowOf db job) .rejected) (.one rfl fun _ => .settleRejected)

theorem reconcileParent_wrote (db : JobDb) (parentId : Nat) :
    Wrote (anyRow fun write => write = .requeueParent ∨ write = .failParent) db
      (reconcileParent db parentId) := by
  have parked : ∀ job : BackgroundJob,
      (job.status = .reconciliationRequired && job.kind.workflowParent : Bool) →
        job.status = .reconciliationRequired ∧ job.kind.workflowParent := by
    intro job isMatch
    simpa using isMatch
  simp only [reconcileParent]
  split
  · exact .update rfl fun job isMatch =>
      ⟨_, .inl rfl, .requeueParent (parked job isMatch).1 (parked job isMatch).2⟩
  · split
    · exact .update rfl fun job isMatch =>
        ⟨_, .inr rfl, .failParent (parked job isMatch).1 (parked job isMatch).2⟩
    · exact .of_jobs rfl

theorem writeAggregate_wrote (db : JobDb) (parentId : Nat) (aggregate : ChainStatus) :
    Wrote (onlyRow parentId (.rollUp aggregate)) db (writeAggregate db parentId aggregate) :=
  .one rfl fun _ isMatch => .rollUp (of_decide_eq_true isMatch)

theorem rollbackJobs_wrote (db : JobDb) (fromHeight : Nat) :
    Wrote (anyRow (· = .revert fromHeight)) db (rollbackJobs db fromHeight) := by
  intro id
  have after := rollbackJobs_getJobById db fromHeight id
  unfold JobDb.getJobById at after
  rw [after]
  cases db.jobs.find? id with
  | none => exact .none
  | some job => exact .some (.inr ⟨_, rfl, .revert⟩)

/-- The writes that a lookup may lead to. -/
def Lookup.mayWrite (lookup : Lookup) (jobId : Nat) (write : JobWrite) : Prop :=
  jobId = lookup.job.ID ∧
    ((lookup.ofParked ∧ ∃ asOfMs, lookup.answer = some (.absent asOfMs) ∧ write = .lose) ∨
      ∃ outcome, lookup.answer = some (.outcome outcome) ∧
        write = .finalize (if lookup.ofParked then .reconciliationRequired
          else .succeeded lookup.job.chainStatus) outcome (outcome.evidence lookup.generation))

theorem Lookup.write_wrote (lookup : Lookup) (db : JobDb) (margin : Nat) :
    Wrote lookup.mayWrite db (lookup.write db margin) := by
  have finalizes {outcome : ChainOutcome} {after : JobDb}
      (isAnswer : lookup.answer = some (.outcome outcome))
      (wrote : Wrote (onlyRow lookup.job.ID (.finalize (if lookup.ofParked then
        .reconciliationRequired else .succeeded lookup.job.chainStatus) outcome
          (outcome.evidence lookup.generation))) db after) : Wrote lookup.mayWrite db after := by
    apply Wrote.mono wrote
    rintro id write ⟨rfl, rfl⟩
    exact ⟨rfl, .inr ⟨outcome, isAnswer, rfl⟩⟩
  unfold Lookup.write
  split
  next outcome isAnswer isParked =>
    apply finalizes isAnswer
    simp only [isParked, if_true]
    exact finalizeIdentifierKeyedJob_wrote
  next asOfMs isAbsent isParked =>
    apply Wrote.mono finalizeLostBroadcast_wrote
    rintro id write ⟨rfl, rfl⟩
    exact ⟨rfl, .inl ⟨isParked, asOfMs, isAbsent, rfl⟩⟩
  next outcome isAnswer notParked =>
    have start {after : JobDb} (wrote : Wrote (onlyRow lookup.job.ID (.finalize
        (.succeeded lookup.job.chainStatus) outcome (outcome.evidence lookup.generation)))
          db after) : Wrote lookup.mayWrite db after := by
      apply finalizes isAnswer
      simpa [notParked] using wrote
    split
    · exact start finalizeIdentifierKeyedJob_wrote
    · exact start confirmChainOutcome_wrote
  · exact .of_jobs rfl

end Tables

end Nightgate.Submission
