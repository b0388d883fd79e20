import Nightgate.Library.Pointwise
import Nightgate.Submission.JobWrites
import Nightgate.Submission.SchedulerSlots

/-!
# One executor a job, and no lost slot

The claim of a job is the last execution that claimed its row, as long as the row is in
flight under a lease. The code tells a claim by the worker id alone, so two processes with
one worker id take each other's claims for their own; without that, an execution whose claim
was taken over writes nothing.
-/

namespace Nightgate.Submission

open Library

/-- The lease of an in-flight row was there before. -/
def BackgroundJob.KeepsLease (row next : BackgroundJob) : Prop :=
  next.status.inFlight = true → ∀ worker, next.leaseOwner = some worker →
    row.status.inFlight = true ∧ row.leaseOwner = some worker

/-- No row gets into flight under a lease. -/
def LeavesClaims (db after : JobDb) : Prop :=
  ∀ jobId next, after.getJobById jobId = some next → next.status.inFlight = true →
    ∀ worker, next.leaseOwner = some worker →
      ∃ row, db.getJobById jobId = some row ∧ row.status.inFlight = true ∧
        row.leaseOwner = some worker

theorem LeavesClaims.refl (db : JobDb) : LeavesClaims db db :=
  fun _ next found inFlight _ owner => ⟨next, found, inFlight, owner⟩

variable {db after : JobDb}

theorem LeavesClaims.of_jobs (same : after.jobs = db.jobs) :
    LeavesClaims db after := by
  intro jobId next found inFlight worker owner
  unfold JobDb.getJobById at found ⊢
  rw [same] at found
  exact ⟨next, found, inFlight, owner⟩

variable {matching : BackgroundJob → Bool} {patch : Patch BackgroundJob}

/-- A row that leaves flight, or loses its lease, keeps none that is not its own. -/
theorem keepsLease_of_out {row next : BackgroundJob}
    (out : next.status.inFlight = false ∨ next.leaseOwner = none) : row.KeepsLease next := by
  intro inFlight worker owner
  rcases out with out | out
  · rw [out] at inFlight
    cases inFlight
  · rw [out] at owner
    cases owner

theorem keepsLease_of_same {row next : BackgroundJob} (inFlight : row.status.inFlight = true)
    (owner : next.leaseOwner = row.leaseOwner) : row.KeepsLease next := by
  intro _ worker held
  rw [owner] at held
  exact ⟨inFlight, held⟩

variable {row : BackgroundJob} {worker jobId : Nat} {write : JobWrite}

theorem inFlight_of_heldBy (held : heldBy worker row) : row.status.inFlight = true := by
  simp only [heldBy, Bool.and_eq_true] at held
  exact held.2

theorem revertedJob_keepsLease (fromHeight : Nat) (row : BackgroundJob) :
    row.KeepsLease (revertedJob fromHeight row) := by
  unfold revertedJob
  split
  · exact keepsLease_of_out (Or.inl rfl)
  · split
    · exact fun inFlight _ owner => ⟨inFlight, owner⟩
    · exact fun inFlight _ owner => ⟨inFlight, owner⟩

def JobWrite.claims : JobWrite → Prop
  | .claim _ => True
  | _ => False

/-- Only a claim brings a row into flight under a lease. -/
theorem JobWrite.Makes.keepsLease {next : BackgroundJob} (makes : write.Makes row next)
    (leaves : ¬ write.claims) : row.KeepsLease next := by
  cases makes with
  | claim => exact absurd trivial leaves
  | crossBoundary running => exact keepsLease_of_same (by rw [running]; rfl) rfl
  | send held => exact keepsLease_of_same (inFlight_of_heldBy held) rfl
  | reject past => exact keepsLease_of_same (inFlight_of_heldBy (heldBy_of_pastBoundary past)) rfl
  | succeed | fail | park | requeue | parkSent | requeueParent =>
    exact keepsLease_of_out (Or.inr rfl)
  | drop | lose | settleRejected | failParent => exact keepsLease_of_out (Or.inl rfl)
  | @finalize _ start _ _ isMatch =>
    apply keepsLease_of_out
    left
    cases start with
    | succeeded chainStatus =>
      simp only [FinalizeFrom.matching, Bool.and_eq_true, decide_eq_true_eq] at isMatch
      simp [finalizedJob, isMatch.1, JobStatus.inFlight]
    | reconciliationRequired | inFlight worker =>
      simp only [finalizedJob]
      split <;> rfl
  | rollUp succeeded => exact keepsLease_of_out (Or.inl (by rw [succeeded]; rfl))
  | revert => exact revertedJob_keepsLease _ row

theorem BackgroundJob.KeepsLease.refl (row : BackgroundJob) : row.KeepsLease row :=
  fun inFlight _ owner => ⟨inFlight, owner⟩

theorem BackgroundJob.KeepsLease.trans (first second third : BackgroundJob)
    (toSecond : first.KeepsLease second) (toThird : second.KeepsLease third) :
    first.KeepsLease third := by
  intro inFlight worker owner
  obtain ⟨wasInFlight, was⟩ := toThird inFlight worker owner
  exact toSecond wasInFlight worker was

theorem LeavesClaims.of_rewrites
    (keeps : db.jobs.Rewrites BackgroundJob.KeepsLease after.jobs) : LeavesClaims db after := by
  intro jobId next found inFlight worker owner
  obtain ⟨row, stored, step⟩ := keeps.of_find? found
  exact ⟨row, stored, step inFlight worker owner⟩

theorem Wrote.leavesClaims {allowed : Nat → JobWrite → Prop} (wrote : Wrote allowed db after)
    (leaves : ∀ id write, allowed id write → ¬ write.claims) : LeavesClaims db after := by
  refine .of_rewrites (wrote.rewrites BackgroundJob.KeepsLease.refl ?_)
  exact fun row next write _ may makes => makes.keepsLease (leaves _ write may)

theorem Wrote.leavesOne (wrote : Wrote (onlyRow jobId write) db after) (leaves : ¬ write.claims) :
    LeavesClaims db after := by
  apply wrote.leavesClaims
  rintro _ _ ⟨_, rfl⟩
  exact leaves

theorem markSucceeded_leavesClaims (written : markSucceeded db worker jobId = some after) :
    LeavesClaims db after :=
  (markSucceeded_wrote written).leavesOne id

theorem markFailed_leavesClaims {code : ErrorCode}
    (written : markFailed db worker jobId code = some after) : LeavesClaims db after :=
  (markFailed_wrote written).leavesOne id

theorem Wrote.leavesFree (wrote : Wrote (anyRow JobWrite.frees) db after) :
    LeavesClaims db after := by
  apply wrote.leavesClaims
  intro _ write frees claims
  cases write <;> first | exact frees | exact claims

theorem executorWrite_leavesClaims
    {write : ExecutorWrite} (written : write.on db worker jobId = some after) :
    LeavesClaims db after := by
  cases write with
  | externalExecution submissionId => exact (markJobExternalExecution_wrote written).leavesOne id
  | broadcast submissionId txHash firstBoundary now =>
    exact (markJobBroadcastOn_wrote written).leavesOne id
  | submissionRejected submissionId txHash =>
    exact (markJobSubmissionRejectedOn_wrote written).leavesOne id
  | submitted submissionId txHash now => exact (markJobSubmitted_wrote written).leavesOne id

theorem verdict_leavesClaims {verdict : RunVerdict}
    (written : verdict.on db worker jobId = some after) : LeavesClaims db after := by
  cases verdict with
  | superseded =>
    cases written
    exact LeavesClaims.refl db
  | park code => exact (markReconciliationRequired_wrote written).leavesOne id
  | fail code => exact markFailed_leavesClaims written
  | chainOutcome job outcome generation =>
    cases written
    exact finalizeIdentifierKeyedJob_wrote.leavesOne id

theorem insertJob_leavesClaims (db : JobDb) (job : BackgroundJob)
    (unclaimed : job.leaseOwner = none) :
    LeavesClaims db { db with jobs := db.jobs.insert job } := by
  intro jobId next found inFlight worker owner
  rcases Table.of_find?_insert found with ⟨_, _, new⟩ | earlier
  · rw [new, unclaimed] at owner
    cases owner
  · exact ⟨next, earlier, inFlight, owner⟩

theorem recoverFirst_leavesClaims (db : JobDb) (count : Nat) :
    LeavesClaims db (recoverFirst db count) := by
  refine .of_rewrites (recoverFirst_rewrites BackgroundJob.KeepsLease.refl
    BackgroundJob.KeepsLease.trans ?_ count (fun _ (_ : BackgroundJob) _ => trivial)).1
  intro row next write recovers makes _
  refine ⟨makes.keepsLease fun claims => ?_, trivial⟩
  cases write <;> first | exact claims | rcases recovers with ⟨⟨⟩⟩ | ⟨⟨⟩⟩

theorem taskWrite_leavesClaims (db : JobDb) (write : TaskWrite) :
    LeavesClaims db (taskWrite db write) := by
  cases write with
  | insertJob job => exact insertJob_leavesClaims db _ rfl
  | reclaimLease jobId => exact (reclaimLease_wrote db jobId).leavesFree
  | supersedeQueuedJobs replaced => exact (supersedeQueuedJobs_wrote db _).leavesFree
  | dropPendingJobsForClosedSessions sessionIds =>
    exact (dropPendingJobs_wrote db sessionIds).leavesFree
  | recoverInterruptedJobs count => exact recoverFirst_leavesClaims db count
  | reconcileParent jobId =>
    apply (reconcileParent_wrote db jobId).leavesClaims
    rintro _ _ (rfl | rfl) <;> exact id
  | finalizeParked job outcome generation =>
    exact finalizeIdentifierKeyedJob_wrote.leavesOne id
  | finalizeLostBroadcast job tipMs margin generation =>
    exact finalizeLostBroadcast_wrote.leavesOne id
  | settleRejectedSponsorAttempt job =>
    exact (settleRejectedSponsorAttempt_wrote db job).leavesOne id
  | rollbackJobs fromHeight =>
    apply (rollbackJobs_wrote db fromHeight).leavesClaims
    rintro _ _ rfl
    exact id

/-- The worker does not hold the row. -/
def Unheld (db : JobDb) (worker jobId : Nat) : Prop :=
  ∀ row, db.getJobById jobId = some row → heldBy worker row = false

variable {db : JobDb}

section Unheld

variable (unheld : Unheld db worker jobId)

include unheld

/-- An update that asks for the lease throws without it. -/
theorem Unheld.no_update (asks : ∀ row, matching row → heldBy worker row) :
    db.updateJob jobId matching patch = none := by
  cases updated : db.updateJob jobId matching patch with
  | none => rfl
  | some after =>
    rcases JobDb.updateJob_row updated with ⟨row, found, isMatch, _⟩
    have held := asks row isMatch
    rw [unheld row found] at held
    cases held

theorem Unheld.executorWrite (write : ExecutorWrite) : write.on db worker jobId = none := by
  cases write with
  | externalExecution submissionId =>
    apply unheld.no_update
    intro row isMatch
    simp only [Bool.and_eq_true, decide_eq_true_eq] at isMatch
    exact heldBy_of_running isMatch.1 isMatch.2
  | broadcast submissionId txHash firstBoundary now =>
    apply unheld.no_update
    intro row isMatch
    split at isMatch
    · simp only [Bool.and_eq_true, decide_eq_true_eq] at isMatch
      exact heldBy_of_running isMatch.1 isMatch.2
    · exact heldBy_of_pastBoundary isMatch
  | submissionRejected submissionId txHash =>
    apply unheld.no_update
    intro row isMatch
    simp only [Bool.and_eq_true] at isMatch
    exact heldBy_of_pastBoundary isMatch.1
  | submitted submissionId txHash now =>
    exact unheld.no_update fun _ isMatch => heldBy_of_pastBoundary isMatch

theorem Unheld.markSucceeded : markSucceeded db worker jobId = none :=
  unheld.no_update fun _ held => held

theorem Unheld.markFailed (code : ErrorCode) : markFailed db worker jobId code = none :=
  unheld.no_update fun _ held => held

theorem Unheld.markReconciliationRequired (code : ErrorCode) :
    markReconciliationRequired db worker jobId code = none :=
  unheld.no_update fun _ held => held

theorem Unheld.verdict {verdict : RunVerdict} (written : verdict.on db worker jobId = some after) :
    after.getJobById jobId = db.getJobById jobId := by
  cases verdict with
  | superseded =>
    cases written
    rfl
  | park code =>
    have refused := unheld.markReconciliationRequired code
    exact absurd (refused.symm.trans written) (by simp)
  | fail code =>
    have refused := unheld.markFailed code
    exact absurd (refused.symm.trans written) (by simp)
  | chainOutcome job outcome generation =>
    cases written
    unfold finalizeIdentifierKeyedJob
    split
    next affected =>
      rcases Table.affects_iff.1 affected.2 with ⟨row, found, held⟩
      have refused := unheld row found
      rw [FinalizeFrom.matching, refused] at held
      cases held
    · rfl

end Unheld

/-- The execution that writes to the row of its job. -/
def SchedulerEvent.writer : SchedulerEvent → Option Nat
  | .report run _ _ | .markSucceeded run _ | .settlePersistFailure run _ | .settle run _ =>
    some run
  | _ => none

namespace Scheduler

/-! ## Claims -/

structure ClaimsSound (config : SchedulerConfig) (s : Scheduler) : Prop where
  recorded : ∀ jobId id, s.lastClaim jobId = some id →
    ∃ run, s.runs id = some run ∧ run.jobId = jobId
  /-- A row in flight under a lease is under the lease of its last claim. -/
  current : ∀ jobId row worker, s.db.getJobById jobId = some row →
    row.status.inFlight = true → row.leaseOwner = some worker →
      ∃ id run, s.lastClaim jobId = some id ∧ s.runs id = some run ∧
        config.workerId run.process = worker
  /-- A live execution whose claim was taken over has another worker id than the last. -/
  separate : ∀ id run, s.runs id = some run → run.claimed = true → run.phase.isLive = true →
    ∀ last lastRun, s.lastClaim run.jobId = some last → s.runs last = some lastRun →
      last ≠ id → config.workerId lastRun.process ≠ config.workerId run.process

/-- The executions go on: none changes its job or process, claims, or comes back to life. -/
structure KeepsRuns (s later : Scheduler) : Prop where
  forth : ∀ id run, s.runs id = some run →
    ∃ moved, later.runs id = some moved ∧ moved.process = run.process ∧ moved.jobId = run.jobId
  back : ∀ id moved, later.runs id = some moved → moved.claimed = true →
    moved.phase.isLive = true → ∃ run, s.runs id = some run ∧ run.process = moved.process ∧
      run.jobId = moved.jobId ∧ run.claimed = true ∧ run.phase.isLive = true

theorem KeepsRuns.of_runs {s later : Scheduler} (same : later.runs = s.runs) :
    KeepsRuns s later := by
  constructor
  · intro id run found
    exact ⟨run, same ▸ found, rfl, rfl⟩
  · intro id moved found claimed live
    exact ⟨moved, same ▸ found, rfl, rfl, claimed, live⟩

theorem KeepsRuns.trans {s middle later : Scheduler} (first : KeepsRuns s middle)
    (second : KeepsRuns middle later) : KeepsRuns s later := by
  constructor
  · intro id run found
    rcases first.forth id run found with ⟨between, isFound, process, job⟩
    rcases second.forth id between isFound with ⟨moved, isMoved, movedProcess, movedJob⟩
    exact ⟨moved, isMoved, movedProcess.trans process, movedJob.trans job⟩
  · intro id moved found claimed live
    rcases second.back id moved found claimed live with
      ⟨between, isFound, process, job, claimed, live⟩
    rcases first.back id between isFound claimed live with
      ⟨run, wasFound, runProcess, runJob, claimed, live⟩
    exact ⟨run, wasFound, runProcess.trans process, runJob.trans job, claimed, live⟩

/-- An execution that moves on keeps its claim, or has none. -/
theorem keepsRuns_moved {s later : Scheduler} {id process jobId : Nat} {phase next : RunPhase}
    {claimed : Bool} (found : s.runs id = some ⟨process, jobId, phase, claimed⟩)
    (live : phase.isLive = true)
    (runs : later.runs = Function.update s.runs id (some ⟨process, jobId, next, claimed⟩)) :
    KeepsRuns s later := by
  constructor
  · intro other run isFound
    rw [runs]
    by_cases same : other = id
    · rw [same, found] at isFound
      cases isFound
      rw [same, Function.update_self]
      exact ⟨_, rfl, rfl, rfl⟩
    · rw [Function.update_of_ne same]
      exact ⟨run, isFound, rfl, rfl⟩
  · intro other moved isFound isClaimed _
    rw [runs] at isFound
    rcases mem_update isFound with ⟨rfl, ⟨⟩⟩ | ⟨same, isFound⟩
    · exact ⟨_, found, rfl, rfl, isClaimed, live⟩
    · exact ⟨moved, isFound, rfl, rfl, isClaimed, by assumption⟩

/-- A new execution has claimed nothing. -/
theorem keepsRuns_new {s later : Scheduler} {id : Nat} {run : Run} (new : s.runs id = none)
    (unclaimed : run.claimed = false) (runs : later.runs = Function.update s.runs id (some run)) :
    KeepsRuns s later := by
  constructor
  · intro other old isFound
    have different : other ≠ id := by
      intro same
      rw [same, new] at isFound
      cases isFound
    rw [runs, Function.update_of_ne different]
    exact ⟨old, isFound, rfl, rfl⟩
  · intro other moved isFound isClaimed live
    rw [runs] at isFound
    rcases mem_update isFound with ⟨rfl, ⟨⟩⟩ | ⟨same, isFound⟩
    · rw [unclaimed] at isClaimed
      cases isClaimed
    · exact ⟨moved, isFound, rfl, rfl, isClaimed, live⟩

section Claims

variable {config : SchedulerConfig} {s later : Scheduler}

theorem ClaimsSound.kept (sound : s.ClaimsSound config) (keeps : KeepsRuns s later)
    (lastClaim : later.lastClaim = s.lastClaim) (leaves : LeavesClaims s.db later.db) :
    later.ClaimsSound config := by
  constructor
  · intro jobId id isLast
    rw [lastClaim] at isLast
    rcases sound.recorded jobId id isLast with ⟨run, found, job⟩
    rcases keeps.forth id run found with ⟨moved, isMoved, _, movedJob⟩
    exact ⟨moved, isMoved, movedJob.trans job⟩
  · intro jobId row worker found inFlight owner
    rcases leaves jobId row found inFlight worker owner with ⟨old, wasFound, wasInFlight, was⟩
    rcases sound.current jobId old worker wasFound wasInFlight was with
      ⟨id, run, isLast, isRun, isWorker⟩
    rcases keeps.forth id run isRun with ⟨moved, isMoved, process, _⟩
    rw [lastClaim]
    exact ⟨id, moved, isLast, isMoved, process ▸ isWorker⟩
  · intro id moved isMoved claimed live last lastMoved isLast isLastMoved different
    rcases keeps.back id moved isMoved claimed live with
      ⟨run, isRun, process, job, wasClaimed, wasLive⟩
    rw [lastClaim] at isLast
    rcases sound.recorded _ last isLast with ⟨lastRun, isLastRun, _⟩
    rcases keeps.forth last lastRun isLastRun with ⟨other, isOther, lastProcess, _⟩
    rw [isLastMoved] at isOther
    cases isOther
    rw [← process, lastProcess]
    exact sound.separate id run isRun wasClaimed wasLive last lastRun (job ▸ isLast) isLastRun
      different

theorem keepsRuns_dispatchJob (core : s.CoreSound config) (process jobId : Nat) :
    KeepsRuns s (s.dispatchJob process jobId) := by
  simp only [dispatchJob]
  split
  · exact .of_runs rfl
  · apply keepsRuns_new _ rfl rfl
    exact Option.map_eq_none_iff.1 core.runs.unused

theorem isLive_of_waiting {phase : RunPhase} (waiting : slotStage phase = .waiting) :
    phase.isLive = true := by
  cases phase <;> first | rfl | cases waiting

theorem keepsRuns_leave (core : s.CoreSound config) (id : Nat) :
    KeepsRuns s (s.leave config id) := by
  unfold leave
  split
  next process jobId claimed found =>
    dsimp only
    generalize isLeft : setProcess _ process _ = left
    have leftRuns : left.runs =
        Function.update s.runs id (some ⟨process, jobId, .left, claimed⟩) := by
      rw [← isLeft]
      rfl
    have keeps := keepsRuns_moved found rfl leftRuns
    split
    next waiter handed =>
      apply keeps.trans
      unfold handOver
      split
      next run isRun =>
        have waits : waiter ∈ ((s.processes process).semaphores (config.keyOf jobId)).waiters := by
          unfold Semaphore.release at handed
          split at handed
          next first rest waiting =>
            cases handed
            rw [waiting]
            exact List.mem_cons_self
          · cases handed
        rcases (core.slots.waiters _ _ waiter).1 waits with ⟨slot, isSlot, _, _, stage⟩
        have different : waiter ≠ id := by
          intro same
          rw [same, slotOf, found] at isSlot
          cases isSlot
          cases stage
        rw [slotOf, ← Function.update_of_ne different _ s.runs, ← leftRuns, isRun] at isSlot
        cases isSlot
        exact keepsRuns_moved isRun (isLive_of_waiting stage) rfl
      · exact .of_runs rfl
    · exact keeps
  · exact .of_runs rfl

theorem keepsRuns_crash (process : Nat) : KeepsRuns s (s.crash config process) := by
  constructor
  · intro id run found
    simp only [crash, setProcess_runs, found, Option.map_some]
    refine ⟨_, rfl, ?_⟩
    split <;> exact ⟨rfl, rfl⟩
  · intro id moved found claimed live
    simp only [crash, setProcess_runs] at found
    rcases Option.map_eq_some_iff.1 found with ⟨run, isRun, rfl⟩
    split at live
    · cases live
    next stays =>
      rw [if_neg stays] at claimed ⊢
      exact ⟨run, isRun, rfl, rfl, claimed, live⟩

/-- A live execution of the same job in another process, under the same worker id. -/
def Rivals (config : SchedulerConfig) (run other : Run) : Prop :=
  other.claimed = true ∧ other.phase.isLive = true ∧ other.jobId = run.jobId ∧
    other.process ≠ run.process ∧ config.workerId other.process = config.workerId run.process

instance (config : SchedulerConfig) (run other : Run) : Decidable (Rivals config run other) :=
  inferInstanceAs (Decidable (_ ∧ _))

/-- A claim is taken only when no rival still runs the job. -/
def SeparateClaims (config : SchedulerConfig) (s : Scheduler) : SchedulerEvent → Prop
  | .markRunning id outcome =>
    ∀ run ∈ s.runs id, run.phase = .claiming → outcome ≠ .lost →
      (Submission.markRunning s.db (config.workerId run.process) run.jobId).isSome = true →
        ∀ other < s.nextRun, ∀ otherRun ∈ s.runs other, ¬ Rivals config run otherRun
  | _ => True

instance (config : SchedulerConfig) (s : Scheduler) (event : SchedulerEvent) :
    Decidable (SeparateClaims config s event) := by
  cases event <;> unfold SeparateClaims <;> infer_instance

theorem claimed_row {db after : JobDb} {worker jobId : Nat}
    (claimed : Submission.markRunning db worker jobId = some after) :
    (∃ row, after.getJobById jobId = some row ∧ row.leaseOwner = some worker) ∧
      ∀ other, other ≠ jobId → after.getJobById other = db.getJobById other := by
  constructor
  · rcases JobDb.updateJob_row claimed with ⟨row, _, _, found⟩
    exact ⟨_, found, rfl⟩
  · intro other different
    rcases JobDb.updateJob_eq_some claimed with ⟨_, rfl⟩
    exact Table.find?_update_ne different

variable {db : JobDb}

section Sound

variable (sound : s.ClaimsSound config)

include sound

/-- A claim takes the job over; without a rival, every other live execution of the job has
another worker id. -/
theorem ClaimsSound.claim (core : s.CoreSound config) {id : Nat}
    {process jobId : Nat} {claimed : Bool} {next : RunPhase}
    (found : s.runs id = some ⟨process, jobId, .claiming, claimed⟩)
    (noRival : ∀ other otherRun, s.runs other = some otherRun →
      ¬ Rivals config ⟨process, jobId, .claiming, claimed⟩ otherRun)
    (written : Submission.markRunning s.db (config.workerId process) jobId = some db) :
    ({ s with db, lastClaim := Function.update s.lastClaim jobId (some id) }.setRun id
      ⟨process, jobId, next, true⟩).ClaimsSound config := by
  have row := claimed_row written
  have movedRuns : ∀ other run, s.runs other = some run → ∃ moved,
      Function.update s.runs id (some ⟨process, jobId, next, true⟩) other = some moved ∧
        moved.process = run.process ∧ moved.jobId = run.jobId := by
    intro other run isRun
    by_cases same : other = id
    · rw [same, found] at isRun
      cases isRun
      rw [same, Function.update_self]
      exact ⟨_, rfl, rfl, rfl⟩
    · rw [Function.update_of_ne same]
      exact ⟨run, isRun, rfl, rfl⟩
  constructor
  · intro job last isLast
    simp only [setRun] at isLast ⊢
    by_cases own : job = jobId
    · rw [own, Function.update_self] at isLast
      cases isLast
      rw [Function.update_self]
      exact ⟨_, rfl, own.symm⟩
    · rw [Function.update_of_ne own] at isLast
      rcases sound.recorded job last isLast with ⟨run, isRun, sameJob⟩
      rcases movedRuns last run isRun with ⟨moved, isMoved, _, movedJob⟩
      exact ⟨moved, isMoved, movedJob.trans sameJob⟩
  · intro job other worker isRow inFlight owner
    simp only [setRun] at isRow ⊢
    by_cases own : job = jobId
    · rcases row.1 with ⟨written, isWritten, lease⟩
      rw [own] at isRow ⊢
      rw [isWritten] at isRow
      cases isRow
      rw [lease] at owner
      cases owner
      rw [Function.update_self]
      exact ⟨id, _, rfl, Function.update_self _ _ _, rfl⟩
    · rw [row.2 job own] at isRow
      rcases sound.current job other worker isRow inFlight owner with
        ⟨last, run, isLast, isRun, isWorker⟩
      rcases movedRuns last run isRun with ⟨moved, isMoved, sameProcess, _⟩
      rw [Function.update_of_ne own]
      exact ⟨last, moved, isLast, isMoved, sameProcess ▸ isWorker⟩
  · intro other run isRun isClaimed live last lastRun isLast isLastRun different
    simp only [setRun] at isRun isLast isLastRun
    by_cases same : other = id
    · rw [same, Function.update_self] at isRun
      cases isRun
      rw [Function.update_self] at isLast
      cases isLast
      exact absurd same.symm different
    · rw [Function.update_of_ne same] at isRun
      by_cases own : run.jobId = jobId
      · rw [own, Function.update_self] at isLast
        cases isLast
        rw [Function.update_self] at isLastRun
        cases isLastRun
        intro sameWorker
        apply noRival other run isRun
        refine ⟨isClaimed, live, own, ?_, sameWorker.symm⟩
        intro sameProcess
        apply same
        have isSlot : s.slotOf other = some (slotOfRun run) := by
          rw [slotOf, isRun]
          rfl
        have ownSlot : s.slotOf id = some ⟨process, jobId, .holding⟩ := by
          rw [slotOf, found]
          rfl
        exact core.runs.alone other _ id _ isSlot ownSlot (slotLive_of_isLive live)
          (live_of_holding rfl) sameProcess own
      · rw [Function.update_of_ne own] at isLast
        rcases sound.recorded _ last isLast with ⟨old, isOld, _⟩
        rcases movedRuns last old isOld with ⟨moved, isMoved, sameProcess, _⟩
        rw [isLastRun] at isMoved
        cases isMoved
        rw [sameProcess]
        exact sound.separate other run isRun isClaimed live last old isLast isOld different

theorem ClaimsSound.written
    (leaves : LeavesClaims s.db db) : ({ s with db } : Scheduler).ClaimsSound config :=
  sound.kept (KeepsRuns.of_runs rfl) rfl leaves

/-- An execution moves on, with a write that claims nothing. -/
theorem ClaimsSound.moved {id process jobId : Nat}
    {phase next : RunPhase} {claimed : Bool}
    (found : s.runs id = some ⟨process, jobId, phase, claimed⟩) (live : phase.isLive = true)
    (leaves : LeavesClaims s.db db) :
    ({ s with db }.setRun id ⟨process, jobId, next, claimed⟩).ClaimsSound config :=
  sound.kept (keepsRuns_moved found live rfl) rfl leaves

theorem claims_markRunning (core : s.CoreSound config) {id : Nat}
    {outcome : WriteOutcome} (separate : SeparateClaims config s (.markRunning id outcome)) :
    (s.markRunning config id outcome).ClaimsSound config := by
  unfold markRunning
  split
  next process jobId claimed found =>
    have noRival : outcome ≠ .lost → ∀ db,
        Submission.markRunning s.db (config.workerId process) jobId = some db →
          ∀ other otherRun, s.runs other = some otherRun →
            ¬ Rivals config ⟨process, jobId, .claiming, claimed⟩ otherRun := by
      intro took db written other otherRun isRun
      have known := core.runs.known other (slotOfRun otherRun) (by rw [slotOf, isRun]; rfl)
      exact separate _ found rfl took (by rw [written]; rfl) other known otherRun isRun
    split
    next db written => exact sound.claim core found (noRival (by decide) db written) written
    · exact sound.moved found rfl (LeavesClaims.refl _)
    next db written => exact sound.claim core found (noRival (by decide) db written) written
    · exact sound.moved found rfl (LeavesClaims.refl _)
  · exact sound

end Sound

/-- A write that may be lost leaves the claims alone. -/
theorem outcome_leavesClaims {written : Option JobDb} (outcome : WriteOutcome)
    (leaves : ∀ after, written = some after → LeavesClaims db after) :
    LeavesClaims db (outcome.apply db written) := by
  rcases outcome.apply_cases db written with same | ⟨after, isWritten, result⟩
  · rw [same]
    exact LeavesClaims.refl db
  · rw [result]
    exact leaves after isWritten

theorem claims_dispatchJob (sound : s.ClaimsSound config) (core : s.CoreSound config)
    (process jobId : Nat) : (s.dispatchJob process jobId).ClaimsSound config := by
  apply sound.kept (keepsRuns_dispatchJob core process jobId)
  · unfold dispatchJob
    dsimp only
    split <;> rfl
  · unfold dispatchJob
    dsimp only
    split <;> exact LeavesClaims.refl _

theorem claims_step (sound : s.ClaimsSound config) (core : s.CoreSound config)
    (event : SchedulerEvent) (separate : SeparateClaims config s event) :
    (s.step config event).ClaimsSound config := by
  cases event with
  | dispatch process jobId => exact claims_dispatchJob sound core process jobId
  | poll process jobId =>
    simp only [step, poll]
    split
    · exact sound
    · split
      · exact claims_dispatchJob sound core process jobId
      · exact sound
  | acquire id =>
    simp only [step, acquire]
    split
    next found =>
      split
      · exact sound.kept (keepsRuns_moved found rfl rfl) rfl (LeavesClaims.refl _)
      · exact sound.kept (keepsRuns_moved found rfl rfl) rfl (LeavesClaims.refl _)
    · exact sound
  | markRunning id outcome => exact claims_markRunning sound core separate
  | report id write outcome =>
    simp only [step, report]
    split
    next found =>
      apply sound.written
      exact outcome_leavesClaims outcome fun _ => executorWrite_leavesClaims
    · exact sound
  | returns id =>
    simp only [step, returns]
    split
    next found => exact sound.moved found rfl (LeavesClaims.refl _)
    · exact sound
  | markSucceeded id outcome =>
    simp only [step, markSucceeded]
    split
    next found =>
      apply sound.moved found rfl
      exact outcome_leavesClaims outcome fun _ => markSucceeded_leavesClaims
    · exact sound
  | settlePersistFailure id outcome =>
    simp only [step, settlePersistFailure]
    split
    next found =>
      apply sound.moved found rfl
      split
      · exact LeavesClaims.refl _
      · exact outcome_leavesClaims outcome fun _ => markFailed_leavesClaims
    · exact sound
  | throws id verdict =>
    simp only [step, throws]
    split
    next found => exact sound.moved found rfl (LeavesClaims.refl _)
    next found => exact sound.moved found rfl (LeavesClaims.refl _)
    · exact sound
  | settle id outcome =>
    simp only [step, settle]
    split
    next found =>
      apply sound.moved found rfl
      exact outcome_leavesClaims outcome fun _ => verdict_leavesClaims
    · exact sound
  | leave id =>
    have unchanged : (s.leave config id).lastClaim = s.lastClaim ∧
        (s.leave config id).db = s.db := by
      simp only [leave]
      split
      · split
        · unfold handOver
          split <;> exact ⟨rfl, rfl⟩
        · exact ⟨rfl, rfl⟩
      · exact ⟨rfl, rfl⟩
    apply sound.kept (keepsRuns_leave core id) unchanged.1
    exact .of_jobs (congrArg JobDb.jobs unchanged.2)
  | crash process =>
    exact sound.kept (keepsRuns_crash process) rfl (LeavesClaims.refl _)
  | fence process => exact sound.kept (.of_runs rfl) rfl (LeavesClaims.refl _)
  | task write => exact sound.written (taskWrite_leavesClaims s.db write)

theorem claims_start (config : SchedulerConfig) :
    (Scheduler.start config).ClaimsSound config := by
  constructor
  · intro jobId id impossible
    cases impossible
  · intro jobId row worker impossible
    cases impossible
  · intro id run impossible
    cases impossible

end Claims

/-! ## Runs -/

/-- The execution claimed its job, and its worker holds the row. -/
def HoldsClaim (config : SchedulerConfig) (s : Scheduler) (id : Nat) : Prop :=
  ∃ run ∈ s.runs id, run.claimed = true ∧ run.phase.isLive = true ∧
    ∃ row ∈ s.db.getJobById run.jobId, heldBy (config.workerId run.process) row = true

/-- One execution of a job holds its claim, and one whose claim was taken over writes
nothing. -/
structure OneExecutor (config : SchedulerConfig) (s : Scheduler) : Prop where
  alone : ∀ id other run otherRun, s.runs id = some run → s.runs other = some otherRun →
    run.jobId = otherRun.jobId → s.HoldsClaim config id → s.HoldsClaim config other → id = other
  superseded : ∀ id run, s.runs id = some run → run.claimed = true → run.phase.isLive = true →
    s.lastClaim run.jobId ≠ some id ∨ ¬ s.HoldsClaim config id →
      ∀ event : SchedulerEvent, event.writer = some id →
        (s.step config event).db.getJobById run.jobId = s.db.getJobById run.jobId

theorem ClaimsSound.unheld {config : SchedulerConfig} {s : Scheduler}
    (sound : s.ClaimsSound config) {id : Nat} {run : Run} (found : s.runs id = some run)
    (claimed : run.claimed = true) (live : run.phase.isLive = true)
    (taken : s.lastClaim run.jobId ≠ some id ∨ ¬ s.HoldsClaim config id) :
    Unheld s.db (config.workerId run.process) run.jobId := by
  intro row isRow
  rw [Bool.eq_false_iff]
  intro held
  rcases taken with notLast | notHeld
  · have inFlight := inFlight_of_heldBy held
    simp only [heldBy, Bool.and_eq_true, decide_eq_true_eq] at held
    rcases sound.current run.jobId row _ isRow inFlight held.1 with
      ⟨last, lastRun, isLast, isLastRun, sameWorker⟩
    have different : last ≠ id := by
      intro same
      exact notLast (same ▸ isLast)
    exact sound.separate id run found claimed live last lastRun isLast isLastRun different
      sameWorker
  · exact notHeld ⟨run, found, claimed, live, row, isRow, held⟩

theorem ClaimsSound.oneExecutor {config : SchedulerConfig} {s : Scheduler}
    (sound : s.ClaimsSound config) : s.OneExecutor config := by
  have isLast : ∀ id run, s.runs id = some run → s.HoldsClaim config id →
      s.lastClaim run.jobId = some id := by
    intro id run found holds
    have again := holds
    rcases again with ⟨same, isRun, claimed, live, row, isRow, held⟩
    rw [found] at isRun
    cases isRun
    by_contra notLast
    have refused := sound.unheld found claimed live (Or.inl notLast) row isRow
    rw [held] at refused
    cases refused
  constructor
  · intro id other run otherRun found otherFound sameJob holds otherHolds
    have last := isLast id run found holds
    have otherLast := isLast other otherRun otherFound otherHolds
    rw [← sameJob, last] at otherLast
    exact Option.some.inj otherLast
  · intro id run found claimed live taken event writer
    have unheld := sound.unheld found claimed live taken
    rcases run with ⟨process, jobId, phase, _⟩
    cases event with
    | report writing write outcome =>
      cases writer
      simp only [step, report]
      split
      next isRun =>
        rw [found] at isRun
        cases isRun
        rw [unheld.executorWrite write]
        cases outcome <;> rfl
      · rfl
    | markSucceeded writing outcome =>
      cases writer
      simp only [step, markSucceeded]
      split
      next isRun =>
        rw [found] at isRun
        cases isRun
        rw [unheld.markSucceeded]
        cases outcome <;> rfl
      · rfl
    | settlePersistFailure writing outcome =>
      cases writer
      simp only [step, settlePersistFailure]
      split
      next isRun =>
        rw [found] at isRun
        cases isRun
        rw [unheld.markFailed]
        simp only [setRun]
        split
        · rfl
        · cases outcome <;> rfl
      · rfl
    | settle writing outcome =>
      cases writer
      simp only [step, settle]
      split
      next verdict _ isRun =>
        rw [found] at isRun
        cases isRun
        have kept := outcome.apply_cases s.db (verdict.on s.db (config.workerId process) jobId)
        simp only [setRun]
        rcases kept with same | ⟨after, written, result⟩
        · rw [same]
        · rw [result]
          exact unheld.verdict written
      · rfl
    | dispatch | poll | acquire | markRunning | returns | throws | leave | crash | fence | task =>
      cases writer

/-- The last events of an execution, whatever it was about to do. -/
def ending (id : Nat) : List SchedulerEvent :=
  [.markRunning id .lost, .markSucceeded id .lost, .throws id .superseded, .settle id .lost,
    .leave id]

structure NoLostSlot (config : SchedulerConfig) (s : Scheduler) : Prop where
  running : ∀ id run, s.runs id = some run → run.phase.holdsSlot = true →
    id ∈ (s.processes run.process).holders (config.keyOf run.jobId)
  bounded : ∀ process key, ((s.processes process).holders key).Nodup ∧
    ((s.processes process).holders key).length ≤ config.maxOf key
  noneWaitsBesideFree : ∀ process key, ((s.processes process).semaphores key).waiters ≠ [] →
      ((s.processes process).holders key).length = config.maxOf key
  acquiredOnce : s.acquired.Nodup
  releasedOnce : s.released.Nodup
  /-- What acquired a slot holds it, gave it back, or is gone with its process. -/
  accounted : ∀ id, id ∈ s.acquired → ∃ run ∈ s.runs id,
    (run.phase.holdsSlot = true ∧ id ∉ s.released) ∨
      (run.phase = .left ∧ id ∈ s.released) ∨ run.phase = .crashed
  /-- Every execution that holds a slot can give it back. -/
  givenBack : ∀ id run, s.runs id = some run → run.phase.holdsSlot = true →
    id ∈ (Library.run (step config) s (ending id)).released

theorem slotStage_of_holdsSlot {phase : RunPhase} :
    phase.holdsSlot = true ↔ slotStage phase = .holding := by
  cases phase <;> simp [RunPhase.holdsSlot, slotStage]

section Slots

variable {config : SchedulerConfig} {s : Scheduler} {id process jobId : Nat} {claimed : Bool}

theorem leave_released (found : s.runs id = some ⟨process, jobId, .leaving, claimed⟩) :
    id ∈ (s.leave config id).released := by
  unfold leave
  rw [found]
  dsimp only
  split
  · unfold handOver
    split <;> exact List.mem_append_right _ (List.mem_singleton.2 rfl)
  · exact List.mem_append_right _ (List.mem_singleton.2 rfl)

theorem settle_leaves {verdict : RunVerdict}
    (found : s.runs id = some ⟨process, jobId, .failing verdict, claimed⟩)
    (outcome : WriteOutcome) : (s.settle config id outcome).runs id =
      some ⟨process, jobId, .leaving, claimed⟩ := by
  unfold settle
  rw [found]
  exact setRun_self _ _ _

/-- Whatever it was about to do, the execution gets to its `finally`. -/
theorem ending_released {phase : RunPhase} (holds : phase.holdsSlot = true)
    (found : s.runs id = some ⟨process, jobId, phase, claimed⟩) :
    id ∈ (Library.run (step config) s (ending id)).released := by
  simp only [ending, run_cons, run_nil, step]
  cases phase with
  | immediate | waiting | left | crashed => cases holds
  | claiming =>
    have failing : (s.markRunning config id .lost).runs id =
        some ⟨process, jobId, .failing (.fail (.classified "")), claimed⟩ := by
      unfold markRunning
      rw [found]
      exact setRun_self _ _ _
    simp only [markSucceeded, throws, failing]
    exact leave_released (settle_leaves failing .lost)
  | executing | persistFailed =>
    simp only [markRunning, markSucceeded, throws, found]
    exact leave_released (settle_leaves (setRun_self _ _ _) .lost)
  | completing =>
    have unsaved : (s.markSucceeded config id .lost).runs id =
        some ⟨process, jobId, .persistFailed, claimed⟩ := by
      unfold markSucceeded
      rw [found]
      exact setRun_self _ _ _
    have unclaimed : s.markRunning config id .lost = s := by
      unfold markRunning
      rw [found]
    rw [unclaimed]
    simp only [throws, unsaved]
    exact leave_released (settle_leaves (setRun_self _ _ _) .lost)
  | failing verdict =>
    simp only [markRunning, markSucceeded, throws, found]
    exact leave_released (settle_leaves found .lost)
  | leaving =>
    simp only [markRunning, markSucceeded, throws, settle, found]
    exact leave_released found

theorem CoreSound.noLostSlot (sound : s.CoreSound config) : s.NoLostSlot config := by
  have slot : ∀ id run, s.runs id = some run → s.slotOf id = some (slotOfRun run) := by
    intro id run found
    rw [slotOf, found]
    rfl
  constructor
  · intro id run found holds
    exact (sound.slots.holders _ _ id).2
      ⟨_, slot id run found, rfl, rfl, slotStage_of_holdsSlot.1 holds⟩
  · intro process key
    have serves := sound.slots.serves process key
    refine ⟨List.Nodup.of_append_left serves.distinct, ?_⟩
    rw [← serves.counted, ← sound.slots.max process key]
    exact serves.bounded
  · intro process key waiting
    have serves := sound.slots.serves process key
    rw [← serves.counted, ← sound.slots.max process key]
    exact serves.noneWaitsBesideFree waiting
  · exact sound.log.acquiredOnce
  · exact sound.log.releasedOnce
  · intro id acquired
    rcases sound.log.acquired id acquired with ⟨_, found, stage⟩
    rcases Option.map_eq_some_iff.1 found with ⟨run, isRun, rfl⟩
    refine ⟨run, isRun, ?_⟩
    rw [sound.log.released, slot id run isRun]
    rcases run with ⟨process, jobId, phase, claimed⟩
    cases phase <;> simp_all [RunPhase.holdsSlot, slotOfRun, slotStage]
  · intro id run found holds
    exact ending_released holds found

end Slots

/-! ## Every run -/

/-- However dispatches, polls, ends, lease losses and crashes interleave, no slot is lost;
and as long as no job is claimed beside a live execution of it under the same worker id, one
execution of a job holds its claim, and one whose claim was taken over leaves the row alone. -/
theorem one_executor_and_no_lost_slot (config : SchedulerConfig) (events : List SchedulerEvent)
    (separate : Along (step config) (SeparateClaims config) (Scheduler.start config) events) :
    let s := Library.run (step config) (Scheduler.start config) events
    s.OneExecutor config ∧ s.NoLostSlot config := by
  intro s
  have keeps : ∀ state event, state.CoreSound config ∧ state.ClaimsSound config →
      SeparateClaims config state event →
      (state.step config event).CoreSound config ∧
        (state.step config event).ClaimsSound config := by
    rintro state event ⟨core, claims⟩ allowed
    exact ⟨core_step core event, claims_step claims core event allowed⟩
  have sound := run_invariant keeps ⟨core_start config, claims_start config⟩ events separate
  exact ⟨sound.2.oneExecutor, sound.1.noLostSlot⟩

/-- Two processes under the worker ids `workerId`. -/
def twoProcesses (workerId : Nat → Nat) : SchedulerConfig where
  workerId := workerId
  kindOf := fun _ => ⟨"submitContractCall", false, false, true⟩
  userCaps := fun _ => none

/-- The second process takes a job over from the first, which lost its lease. -/
def takeover : List SchedulerEvent := [
  .task (.insertJob ⟨1, ⟨false, false, false⟩, 7, .pending, some 1, none, none, none, 0, none,
    none, none, none, none, none⟩),
  .dispatch 0 1, .acquire 0, .markRunning 0 .committed, .fence 0, .task (.reclaimLease 1),
  .poll 1 1, .acquire 1, .markRunning 1 .committed, .returns 0]

theorem one_executor_and_no_lost_slot_takeover :
    let s := Library.run (step (twoProcesses id)) (Scheduler.start (twoProcesses id)) takeover
    s.OneExecutor (twoProcesses id) ∧ s.NoLostSlot (twoProcesses id) :=
  one_executor_and_no_lost_slot (twoProcesses id) takeover (by decide)

/-- Two processes of one host share the worker id: the execution that lost its lease ends the
job for the one that has it. -/
theorem stale_execution_ends_the_job :
    ¬ ∀ (config : SchedulerConfig) (events : List SchedulerEvent),
      let s := Library.run (step config) (Scheduler.start config) events
      s.OneExecutor config ∧ s.NoLostSlot config := by
  intro always
  have law := (always (twoProcesses fun _ => 0) takeover).1
  have unchanged := law.superseded 0 ⟨0, 1, .completing, true⟩ (by decide) rfl rfl
    (Or.inl (by decide)) (.markSucceeded 0 .committed) rfl
  exact absurd unchanged (by decide)

/-- However events interleave, and whatever the worker ids are, a process has one live execution
of a job at most, and lists the job as being dispatched as long as it has one. -/
theorem one_dispatch_of_job (config : SchedulerConfig) (events : List SchedulerEvent) :
    let s := Library.run (step config) (Scheduler.start config) events
    ∀ id run, s.runs id = some run → run.phase.isLive = true →
      run.jobId ∈ (s.processes run.process).dispatching ∧
        ∀ other otherRun, s.runs other = some otherRun → otherRun.phase.isLive = true →
          otherRun.process = run.process → otherRun.jobId = run.jobId → other = id := by
  intro s id run found live
  have keeps : ∀ (state : Scheduler) event, state.CoreSound config → True →
      (state.step config event).CoreSound config := fun _ event core _ => core_step core event
  have core := run_invariant keeps (core_start config) events (Along.trivial events)
  have slot : ∀ id run, s.runs id = some run → s.slotOf id = some (slotOfRun run) := by
    intro id run found
    rw [slotOf, found, Option.map_some]
  refine ⟨core.runs.dispatching id _ (slot id run found) (slotLive_of_isLive live), ?_⟩
  intro other otherRun isOther otherLive sameProcess sameJob
  exact core.runs.alone other _ id _ (slot other otherRun isOther) (slot id run found)
    (slotLive_of_isLive otherLive) (slotLive_of_isLive live) sameProcess sameJob

theorem one_dispatch_of_job_takeover :
    1 ∈ ((Library.run (step (twoProcesses id)) (Scheduler.start (twoProcesses id))
      takeover).processes 1).dispatching :=
  (one_dispatch_of_job (twoProcesses id) takeover 1 ⟨1, 1, .executing, true⟩ rfl rfl).1

end Scheduler

end Nightgate.Submission
