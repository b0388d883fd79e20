import Nightgate.Library.Semaphore
import Nightgate.Submission.Ledger

/-!
# The job scheduler

Server processes on one database start jobs, each under its own worker id and with its own
semaphores. A process dispatches a job when its request committed or a poll finds it
pending; the dispatched execution waits for a slot, claims the row, runs and writes its end.
The rows can move under it at any point: a lease expires and is reclaimed (a heartbeat only
puts that off), a newer job supersedes, a starting process recovers. A process that lost the
instance lease dispatches nothing more, but what it runs goes on.
-/

namespace Nightgate.Submission

open Library

inductive ConcurrencyCap where
  | heavy
  | light
  | serial
  deriving DecidableEq

def DEFAULT_CONCURRENCY : ConcurrencyCap → Nat
  | .heavy => 4
  | .light => 16
  | .serial => 1

/-- A declared kind, with the traits that decide its limit. -/
structure DeclaredKind where
  kind : String
  serial : Bool
  workflowParent : Bool
  heavy : Bool

inductive ConcurrencyKey where
  | serial (kind : String)
  | workflow
  | heavy
  | light (kind : String)
  deriving DecidableEq

/-- `concurrencyClass`. -/
def concurrencyClass (declared : DeclaredKind) : ConcurrencyKey :=
  if declared.serial then .serial declared.kind
  else if declared.workflowParent then .workflow
  else if declared.heavy then .heavy
  else .light declared.kind

def ConcurrencyKey.cap : ConcurrencyKey → ConcurrencyCap
  | .serial _ => .serial
  | .workflow | .heavy => .heavy
  | .light _ => .light

/-- What the processes run with: their worker ids, the kind of each job, and the configured
limits. -/
structure SchedulerConfig where
  workerId : Nat → Nat
  kindOf : Nat → DeclaredKind
  userCaps : ConcurrencyCap → Option Nat

def SchedulerConfig.keyOf (config : SchedulerConfig) (jobId : Nat) : ConcurrencyKey :=
  concurrencyClass (config.kindOf jobId)

/-- The configured maximum of a class. -/
def SchedulerConfig.maxOf (config : SchedulerConfig) (key : ConcurrencyKey) : Nat :=
  (config.userCaps key.cap).getD (DEFAULT_CONCURRENCY key.cap)

/-- What an executor reports while it runs. -/
inductive ExecutorWrite where
  | externalExecution (submissionId : Option Nat)
  | broadcast (submissionId : Option Nat) (txHash : TxHash) (firstBoundary : Bool) (now : Nat)
  | submissionRejected (submissionId : Option Nat) (txHash : TxHash)
  | submitted (submissionId : Option Nat) (txHash : TxHash) (now : Nat)

def ExecutorWrite.on (db : JobDb) (worker jobId : Nat) : ExecutorWrite → Option JobDb
  | .externalExecution submissionId => markJobExternalExecution db worker jobId submissionId
  | .broadcast submissionId txHash firstBoundary now =>
    markJobBroadcastOn db worker jobId submissionId txHash firstBoundary now
  | .submissionRejected submissionId txHash =>
    markJobSubmissionRejectedOn db worker jobId submissionId txHash
  | .submitted submissionId txHash now =>
    markJobSubmitted db worker jobId submissionId txHash now

/-- How the scheduler ends an execution that threw. -/
inductive RunVerdict where
  /-- Nothing is written: the row was superseded, or could not be read. -/
  | superseded
  | park (code : ErrorCode)
  | fail (code : ErrorCode)
  /-- `markChainFailureAfterBroadcast`, with the outcome the indexer gave. -/
  | chainOutcome (job : BackgroundJob) (outcome : ChainOutcome) (generation : Nat)
  deriving DecidableEq

def RunVerdict.on (db : JobDb) (worker jobId : Nat) : RunVerdict → Option JobDb
  | .superseded => some db
  | .park code => markReconciliationRequired db worker jobId code
  | .fail code => markFailed db worker jobId code
  | .chainOutcome job outcome generation =>
    some (finalizeIdentifierKeyedJob db { job with ID := jobId } outcome (.inFlight worker)
      generation)

/-- What the other tasks write to job rows. -/
inductive TaskWrite where
  | insertJob (job : BackgroundJob)
  | reclaimLease (jobId : Nat)
  | supersedeQueuedJobs (replaced : List Nat)
  | dropPendingJobsForClosedSessions (sessionIds : List Nat)
  | recoverInterruptedJobs (count : Nat)
  | reconcileParent (jobId : Nat)
  | finalizeParked (job : BackgroundJob) (outcome : ChainOutcome) (generation : Nat)
  | finalizeLostBroadcast (job : BackgroundJob) (tipMs : Option Nat) (margin generation : Nat)
  | settleRejectedSponsorAttempt (job : BackgroundJob)
  | rollbackJobs (fromHeight : Nat)

def taskWrite (db : JobDb) : TaskWrite → JobDb
  | .insertJob job =>
    { db with jobs := db.jobs.insert { job with status := .pending, leaseOwner := none } }
  | .reclaimLease jobId => reclaimLease db jobId
  | .supersedeQueuedJobs replaced => supersedeQueuedJobs db fun job => job.ID ∈ replaced
  | .dropPendingJobsForClosedSessions sessionIds =>
    dropPendingJobsForClosedSessions db sessionIds
  | .recoverInterruptedJobs count => recoverFirst db count
  | .reconcileParent jobId => reconcileParent db jobId
  | .finalizeParked job outcome generation =>
    finalizeIdentifierKeyedJob db job outcome .reconciliationRequired generation
  | .finalizeLostBroadcast job tipMs margin generation =>
    finalizeLostBroadcast db job tipMs margin generation
  | .settleRejectedSponsorAttempt job => settleRejectedSponsorAttempt db job
  | .rollbackJobs fromHeight => rollbackJobs db fromHeight

/-! ## States -/

inductive RunPhase where
  /-- `setImmediate`: the turn of the execution is still to come. -/
  | immediate
  /-- Queued at the semaphore. -/
  | waiting
  /-- Holds a slot; `markRunning` is next. -/
  | claiming
  | executing
  /-- The executor returned; `markSucceeded` is next. -/
  | completing
  /-- `markSucceeded` threw. -/
  | persistFailed
  | failing (verdict : RunVerdict)
  /-- The `finally`: the slot is given back. -/
  | leaving
  | left
  /-- The process of the execution is gone. -/
  | crashed
  deriving DecidableEq

/-- The execution holds a slot of its semaphore. -/
def RunPhase.holdsSlot : RunPhase → Bool
  | .claiming | .executing | .completing | .persistFailed | .failing _ | .leaving => true
  | _ => false

def RunPhase.isLive : RunPhase → Bool
  | .left | .crashed => false
  | _ => true

structure Run where
  process : Nat
  jobId : Nat
  phase : RunPhase
  /-- `markRunning` claimed the row for it. -/
  claimed : Bool
  deriving DecidableEq

/-- A server process: its own `dispatching` set and semaphores. -/
structure Process where
  alive : Bool
  fenced : Bool
  dispatching : List Nat
  semaphores : ConcurrencyKey → Semaphore Nat
  /-- The executions that hold a slot. -/
  holders : ConcurrencyKey → List Nat

structure Scheduler where
  db : JobDb
  processes : Nat → Process
  runs : Nat → Option Run
  nextRun : Nat
  /-- The last execution that claimed a job. -/
  lastClaim : Nat → Option Nat
  /-- The executions that got a slot, and those that gave it back, in that order. -/
  acquired : List Nat
  released : List Nat

def Scheduler.start (config : SchedulerConfig) : Scheduler where
  db := .empty
  processes := fun _ => {
    alive := true
    fenced := false
    dispatching := []
    semaphores := fun key => .empty (config.maxOf key)
    holders := fun _ => [] }
  runs := fun _ => none
  nextRun := 0
  lastClaim := fun _ => none
  acquired := []
  released := []

inductive SchedulerEvent where
  /-- `scheduleJob`, after the commit of the request. -/
  | dispatch (process jobId : Nat)
  /-- A poll comes to a job. -/
  | poll (process jobId : Nat)
  | acquire (run : Nat)
  | markRunning (run : Nat) (outcome : WriteOutcome)
  | report (run : Nat) (write : ExecutorWrite) (outcome : WriteOutcome)
  | returns (run : Nat)
  | markSucceeded (run : Nat) (outcome : WriteOutcome)
  | settlePersistFailure (run : Nat) (outcome : WriteOutcome)
  | throws (run : Nat) (verdict : RunVerdict)
  | settle (run : Nat) (outcome : WriteOutcome)
  | leave (run : Nat)
  | crash (process : Nat)
  | fence (process : Nat)
  | task (write : TaskWrite)

namespace Scheduler

def setRun (s : Scheduler) (id : Nat) (run : Run) : Scheduler :=
  { s with runs := Function.update s.runs id (some run) }

def setProcess (s : Scheduler) (process : Nat) (value : Process) : Scheduler :=
  { s with processes := Function.update s.processes process value }

/-- `dispatchJob`. -/
def dispatchJob (s : Scheduler) (process jobId : Nat) : Scheduler :=
  let own := s.processes process
  if own.alive = false ∨ jobId ∈ own.dispatching ∨ own.fenced then s
  else
    { s with nextRun := s.nextRun + 1 }.setRun s.nextRun ⟨process, jobId, .immediate, false⟩
      |>.setProcess process { own with dispatching := jobId :: own.dispatching }

/-- One row of `pollPersistedCommands`. -/
def poll (config : SchedulerConfig) (s : Scheduler) (process jobId : Nat) : Scheduler :=
  let own := s.processes process
  match s.db.getJobById jobId with
  | none => s
  | some row =>
    if row.status = .pending ∧ row.commandVersion.isSome ∧ jobId ∉ own.dispatching ∧
        0 < (own.semaphores (config.keyOf jobId)).available then
      s.dispatchJob process jobId
    else s

def acquire (config : SchedulerConfig) (s : Scheduler) (id : Nat) : Scheduler :=
  match s.runs id with
  | some ⟨process, jobId, .immediate, claimed⟩ =>
    let own := s.processes process
    let key := config.keyOf jobId
    let next := (own.semaphores key).acquire id
    let semaphores := Function.update own.semaphores key next.1
    if next.2 then
      { s with acquired := s.acquired ++ [id] }.setRun id ⟨process, jobId, .claiming, claimed⟩
        |>.setProcess process { own with
          semaphores
          holders := Function.update own.holders key (own.holders key ++ [id]) }
    else
      (s.setRun id ⟨process, jobId, .waiting, claimed⟩).setProcess process { own with semaphores }
  | _ => s

/-- `markRunning`: the claim; a row that is not pending is skipped. -/
def markRunning (config : SchedulerConfig) (s : Scheduler) (id : Nat)
    (outcome : WriteOutcome) : Scheduler :=
  match s.runs id with
  | some ⟨process, jobId, .claiming, claimed⟩ =>
    match outcome, Submission.markRunning s.db (config.workerId process) jobId with
    | .committed, some db =>
      { s with db, lastClaim := Function.update s.lastClaim jobId (some id) }.setRun id
        ⟨process, jobId, .executing, true⟩
    | .committed, none => s.setRun id ⟨process, jobId, .leaving, claimed⟩
    | .unconfirmed, some db =>
      { s with db, lastClaim := Function.update s.lastClaim jobId (some id) }.setRun id
        ⟨process, jobId, .failing (.fail (.classified "")), true⟩
    | _, _ => s.setRun id ⟨process, jobId, .failing (.fail (.classified "")), claimed⟩
  | _ => s

/-- A status change the executor reports. -/
def report (config : SchedulerConfig) (s : Scheduler) (id : Nat) (write : ExecutorWrite)
    (outcome : WriteOutcome) : Scheduler :=
  match s.runs id with
  | some ⟨process, jobId, .executing, _⟩ =>
    { s with db := outcome.apply s.db (write.on s.db (config.workerId process) jobId) }
  | _ => s

def returns (s : Scheduler) (id : Nat) : Scheduler :=
  match s.runs id with
  | some ⟨process, jobId, .executing, claimed⟩ =>
    s.setRun id ⟨process, jobId, .completing, claimed⟩
  | _ => s

def markSucceeded (config : SchedulerConfig) (s : Scheduler) (id : Nat)
    (outcome : WriteOutcome) : Scheduler :=
  match s.runs id with
  | some ⟨process, jobId, .completing, claimed⟩ =>
    let written := Submission.markSucceeded s.db (config.workerId process) jobId
    { s with db := outcome.apply s.db written }.setRun id
      ⟨process, jobId, if outcome.reports written then .leaving else .persistFailed, claimed⟩
  | _ => s

/-- What follows a result that could not be saved, or an error of that. -/
def settlePersistFailure (config : SchedulerConfig) (s : Scheduler) (id : Nat)
    (outcome : WriteOutcome) : Scheduler :=
  match s.runs id with
  | some ⟨process, jobId, .persistFailed, claimed⟩ =>
    let superseded := (s.db.getJobById jobId).any fun job =>
      job.status = .failed && job.errorCode = some .superseded
    let db :=
      if superseded then s.db
      else outcome.apply s.db
        (Submission.markFailed s.db (config.workerId process) jobId .resultPersistFailed)
    { s with db }.setRun id ⟨process, jobId, .leaving, claimed⟩
  | _ => s

/-- The executor, or a read beside it, threw; the scheduler settles on a verdict. -/
def throws (s : Scheduler) (id : Nat) (verdict : RunVerdict) : Scheduler :=
  match s.runs id with
  | some ⟨process, jobId, .executing, claimed⟩ =>
    s.setRun id ⟨process, jobId, .failing verdict, claimed⟩
  | some ⟨process, jobId, .persistFailed, claimed⟩ =>
    s.setRun id ⟨process, jobId, .failing verdict, claimed⟩
  | _ => s

def settle (config : SchedulerConfig) (s : Scheduler) (id : Nat) (outcome : WriteOutcome) :
    Scheduler :=
  match s.runs id with
  | some ⟨process, jobId, .failing verdict, claimed⟩ =>
    { s with db := outcome.apply s.db (verdict.on s.db (config.workerId process) jobId) }
      |>.setRun id ⟨process, jobId, .leaving, claimed⟩
  | _ => s

/-- A waiter gets the slot. -/
def handOver (s : Scheduler) (next : Nat) : Scheduler :=
  match s.runs next with
  | some run =>
    { s with acquired := s.acquired ++ [next] }.setRun next { run with phase := .claiming }
  | none => s

/-- The `finally` of `dispatchJob`. -/
def leave (config : SchedulerConfig) (s : Scheduler) (id : Nat) : Scheduler :=
  match s.runs id with
  | some ⟨process, jobId, .leaving, claimed⟩ =>
    let own := s.processes process
    let key := config.keyOf jobId
    let next := (own.semaphores key).release
    let left :=
      { s with released := s.released ++ [id] }.setRun id ⟨process, jobId, .left, claimed⟩
        |>.setProcess process { own with
          dispatching := own.dispatching.filter (· ≠ jobId)
          semaphores := Function.update own.semaphores key next.1
          holders := Function.update own.holders key ((own.holders key).erase id ++ next.2.toList) }
    match next.2 with
    | some waiter => left.handOver waiter
    | none => left
  | _ => s

/-- The process is gone, with all it ran. -/
def crash (config : SchedulerConfig) (s : Scheduler) (process : Nat) : Scheduler :=
  { s with
    runs := fun id => (s.runs id).map fun (run : Run) =>
      if run.process = process ∧ run.phase.isLive then { run with phase := .crashed } else run }
    |>.setProcess process {
      alive := false
      fenced := true
      dispatching := []
      semaphores := fun key => .empty (config.maxOf key)
      holders := fun _ => [] }

def step (config : SchedulerConfig) (s : Scheduler) : SchedulerEvent → Scheduler
  | .dispatch process jobId => s.dispatchJob process jobId
  | .poll process jobId => s.poll config process jobId
  | .acquire run => s.acquire config run
  | .markRunning run outcome => s.markRunning config run outcome
  | .report run write outcome => s.report config run write outcome
  | .returns run => s.returns run
  | .markSucceeded run outcome => s.markSucceeded config run outcome
  | .settlePersistFailure run outcome => s.settlePersistFailure config run outcome
  | .throws run verdict => s.throws run verdict
  | .settle run outcome => s.settle config run outcome
  | .leave run => s.leave config run
  | .crash process => s.crash config process
  | .fence process => s.setProcess process { s.processes process with fenced := true }
  | .task write => { s with db := taskWrite s.db write }

end Scheduler

end Nightgate.Submission
