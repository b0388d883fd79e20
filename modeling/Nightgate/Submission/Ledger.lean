import Nightgate.Submission.Reconciliation
import Nightgate.Library.Machine

/-!
# The job ledger as a state machine

One server process runs jobs, asks the indexer about their transactions and rolls the
chain back, all on the same tables. An event is one database transaction of one of
these tasks, or something the node or the process does: a broadcast, a rejection, an
answer, a crash. A write can commit, get lost, or commit without the caller learning
of it.
-/

namespace Nightgate.Submission

open Library

inductive WriteOutcome where
  | committed
  /-- The write failed and was rolled back. -/
  | lost
  /-- The write was committed, but the caller saw an error. -/
  | unconfirmed
  deriving DecidableEq

/-- The tables after a write; `none` stands for a transaction that threw. -/
def WriteOutcome.apply (outcome : WriteOutcome) (db : JobDb) (after : Option JobDb) :
    JobDb :=
  match outcome with
  | .lost => db
  | .committed => after.getD db
  | .unconfirmed => after.getD db

/-- The caller saw the write succeed. -/
def WriteOutcome.reports (outcome : WriteOutcome) (after : Option JobDb) : Bool :=
  outcome = .committed && after.isSome

theorem WriteOutcome.apply_cases (outcome : WriteOutcome) (db : JobDb) (after : Option JobDb) :
    outcome.apply db after = db ∨
      ∃ result, after = some result ∧ outcome.apply db after = result := by
  cases after with
  | none => cases outcome <;> exact .inl rfl
  | some result =>
    cases outcome with
    | committed | unconfirmed => exact .inr ⟨result, rfl, rfl⟩
    | lost => exact .inl rfl

/-- A write the caller saw succeed. -/
theorem WriteOutcome.of_reports (db : JobDb) {outcome : WriteOutcome} {result : Option JobDb}
    (reported : outcome.reports result) :
    ∃ after, result = some after ∧ outcome.apply db result = after := by
  simp only [WriteOutcome.reports, Bool.and_eq_true, decide_eq_true_eq,
    Option.isSome_iff_exists] at reported
  rcases reported with ⟨rfl, after, rfl⟩
  exact ⟨after, rfl, rfl⟩

/-- What an executor threw, as the scheduler tells it apart. -/
inductive ExecutorFailure where
  /-- `WorkflowReconciliationRequiredError`. -/
  | workflow
  /-- The transaction is in a block but its call did not apply. -/
  | notApplied
  /-- `SubmitAmbiguous`. -/
  | ambiguous
  | other (code : String)
  deriving DecidableEq

/-- The error that reaches the scheduler. -/
inductive Thrown where
  | failure (failure : ExecutorFailure)
  /-- `SponsorAttemptBookkeepingPendingError`. -/
  | bookkeepingPending
  deriving DecidableEq

def Thrown.other (code : String) : Thrown := .failure (.other code)

/-- The update a failed execution ends with. -/
inductive Verdict where
  | park (code : ErrorCode)
  | fail (code : ErrorCode)
  deriving DecidableEq

inductive Phase where
  /-- The row is claimed and the executor runs. -/
  | claimed
  /-- Past the boundary, or past an attempt that was closed; nothing is announced.
  `givenUp` is an attempt that was closed although the node had not rejected it. -/
  | building (givenUp : Option Tx)
  /-- The transaction is announced; the worker sends it. -/
  | sending (tx : Tx)
  /-- The node rejected the transaction, or it was never sent; its row is closed next. -/
  | rejected (tx : Tx)
  /-- A sponsor failed without such a proof; its row is closed next. -/
  | givingUp (tx : Tx)
  /-- The worker returned a result; a bound submission reports it next. -/
  | reporting (tx : Tx)
  /-- What the executor does after its submission. -/
  | working
  /-- The executor returned; its result is saved next. -/
  | persisting
  /-- The result could not be saved. -/
  | persistFailed
  | threw (error : Thrown)
  | settling (verdict : Verdict)
  /-- `markChainFailureAfterBroadcast`: the indexer is asked. -/
  | confirming (job : BackgroundJob) (generation : Nat)
  deriving DecidableEq

structure Execution where
  phase : Phase
  ledger : AttemptLedger

/-- One pass of `confirmChainOutcomesViaIndexer`: the rows it read and the counter. -/
structure ConfirmPass where
  parked : List BackgroundJob
  succeeded : List BackgroundJob
  generation : Nat

/-- A lookup of a pass, and its answer. -/
structure Lookup where
  job : BackgroundJob
  ofParked : Bool
  generation : Nat
  answer : Option ChainLookup

/-- A workflow the roll-up read, and what its steps add up to. -/
structure RollUp where
  parentId : Nat
  chainStatusWas : Option ChainStatus
  aggregate : Option ChainStatus

/-- `acked` are the announced transactions the worker may still send, `unrejected` those
it sent and the node did not reject. `rollbacks` records each rollback's height with
the counter after it. -/
structure Ledger where
  db : JobDb
  worker : Nat
  executions : Nat → Option Execution
  acked : List Tx
  unrejected : List Tx
  pass : Option ConfirmPass
  lookups : List Lookup
  rollUps : List RollUp
  rollbacks : List (Nat × Nat)

def Ledger.initial (worker : Nat) : Ledger where
  db := .empty
  worker := worker
  executions := fun _ => none
  acked := []
  unrejected := []
  pass := none
  lookups := []
  rollUps := []
  rollbacks := []

namespace Ledger

def setExecution (state : Ledger) (jobId : Nat) (execution : Option Execution) : Ledger :=
  { state with executions := Function.update state.executions jobId execution }

def setPhase (state : Ledger) (jobId : Nat) (execution : Execution) (phase : Phase) :
    Ledger :=
  state.setExecution jobId (some { execution with phase })

/-- One write of a task. -/
def write (state : Ledger) (outcome : WriteOutcome) (after : Option JobDb) : Ledger :=
  { state with db := outcome.apply state.db after }

/-- The transaction can no longer be on chain. -/
def withoutTx (state : Ledger) (tx : Tx) : Ledger :=
  { state with
    acked := state.acked.filter (· ≠ tx)
    unrejected := state.unrejected.filter (· ≠ tx) }

end Ledger

/-! ## Events -/

/-- The columns `startJob` inserts. -/
structure NewJob where
  ID : Nat
  kind : JobKindTraits
  sessionId : Nat
  commandVersion : Option Nat
  grantId : Option Nat
  parentJobId : Option Nat

def NewJob.row (new : NewJob) : BackgroundJob where
  ID := new.ID
  kind := new.kind
  sessionId := new.sessionId
  status := .pending
  commandVersion := new.commandVersion
  grantId := new.grantId
  parentJobId := new.parentJobId
  errorCode := none
  attempt := 1
  submittedAt := none
  leaseOwner := none
  submissionId := none
  txHash := none
  chainStatus := none
  evidence := none

/-- Events of a job's execution. -/
inductive ExecutionEvent where
  | claim (channel : Channel) (outcome : WriteOutcome)
  /-- `insertPending` of a bound submission. -/
  | insertRow (rowId now : Nat)
  /-- `reportExternalExecution`. -/
  | crossBoundary (outcome : WriteOutcome)
  | announce (intent : Announcement) (outcome : WriteOutcome)
  /-- The node rejects the announced transaction, or it is certain not to be sent. -/
  | reject
  | closeRejected (outcome : WriteOutcome)
  /-- A sponsor fails retryably without a rejection. -/
  | giveUp
  | closeGivenUp (outcome : WriteOutcome)
  | workerReturns
  /-- `reportExternalSubmission`. -/
  | reportSubmitted (now : Nat) (outcome : WriteOutcome)
  | writeRow (write : RowWrite)
  | executorThrows (failure : ExecutorFailure)
  | executorReturns
  | persist (outcome : WriteOutcome)
  | persistFailure (outcome : WriteOutcome)
  /-- The scheduler reads the row and decides how the failed execution ends. -/
  | classify
  | settle (outcome : WriteOutcome)
  /-- The answer `markChainFailureAfterBroadcast` got, and its write. -/
  | confirmInFlight (answer : Option ChainOutcome) (outcome : WriteOutcome)

/-- Events of the reconciler. -/
inductive ReconcilerEvent where
  | startPass (parked succeeded : List Nat)
  /-- The counter is read again before the second half of a pass. -/
  | rereadGeneration
  | beginLookup (jobId : Nat)
  | answer (index : Nat) (answer : ChainLookup)
  | finalize (index margin : Nat) (outcome : WriteOutcome)
  | endPass
  | readParent (parentId : Nat)
  | readChildren (index : Nat)
  | writeParent (index : Nat) (outcome : WriteOutcome)
  | reconcileParent (parentId : Nat)
  | settleRejected (jobId : Nat)

inductive LedgerEvent where
  | startJob (new : NewJob)
  /-- `supersedeQueuedJobs`, for the jobs a newer one replaces. -/
  | supersede (replaced : List Nat)
  | reclaim (jobId : Nat)
  /-- The process dies; the next one runs the first updates of the recovery. -/
  | restart (worker count : Nat)
  | dropPending (sessionIds : List Nat)
  | createGrant (grantId : Nat) (allowDeploy : Bool) (maxDeploys : Option Nat)
  | changeGrant (grantId : Nat) (isActive allowDeploy : Bool) (maxDeploys : Option Nat)
  | execution (jobId : Nat) (event : ExecutionEvent)
  /-- The worker sends an announced transaction. -/
  | broadcast (tx : Tx)
  | reconciler (event : ReconcilerEvent)
  | rollback (fromHeight : Nat)

/-! ## Steps of an execution -/

/-- The kinds an executor serves. -/
def Channel.serves (channel : Channel) (kind : JobKindTraits) : Bool :=
  match channel with
  | .workflow => kind.workflowParent
  | .sponsor => !kind.workflowParent && kind.identifierKeyed
  | .bound => !kind.workflowParent && !kind.identifierKeyed
  | .wallet => !kind.workflowParent && !kind.identifierKeyed

/-- The attempts of an execution that just began. -/
def AttemptLedger.initial (channel : Channel) (grantId : Option Nat) : AttemptLedger where
  channel := channel
  grantId := grantId
  rowId := none
  boundaryCrossed := false
  reservedDeploys := 0

/-- `dispatchJob` up to the claim: a job under execution here is not started again. -/
def claimJob (state : Ledger) (jobId : Nat) (channel : Channel) (outcome : WriteOutcome) :
    Ledger :=
  match state.executions jobId, state.db.getJobById jobId with
  | none, some job =>
    let after := markRunning state.db state.worker jobId
    let ledger := AttemptLedger.initial channel job.grantId
    if !channel.serves job.kind ∨ (outcome = .committed ∧ after.isNone) then state
    else if outcome.reports after then
      (state.write outcome after).setExecution jobId (some ⟨.claimed, ledger⟩)
    else
      (state.write outcome after).setExecution jobId (some ⟨.threw (.other "MarkRunning"), ledger⟩)
  | _, _ => state

/-- The executor may announce: past the boundary, or a sponsoring job at any time. -/
def Execution.mayAnnounce (execution : Execution) : Bool :=
  match execution.phase, execution.ledger.channel with
  | .claimed, .sponsor => true
  | .building _, .sponsor => true
  | .building _, .bound => true
  | .building _, .wallet => true
  | _, _ => false

theorem Execution.not_workflow_of_mayAnnounce {execution : Execution}
    (may : execution.mayAnnounce) : execution.ledger.channel ≠ .workflow := by
  intro workflow
  cases phase : execution.phase <;>
    simp [Execution.mayAnnounce, phase, workflow] at may

theorem Channel.not_parent_of_serves {channel : Channel} {kind : JobKindTraits}
    (serves : channel.serves kind) (other : channel ≠ .workflow) :
    kind.workflowParent = false := by
  cases channel with
  | workflow => exact absurd rfl other
  | bound | wallet | sponsor => simp_all [Channel.serves]

/-- The executor itself runs, and no attempt of it waits to be closed. -/
def Phase.executing : Phase → Bool
  | .claimed => true
  | .building _ => true
  | .sending _ => true
  | .reporting _ => true
  | .working => true
  | _ => false

/-- The executor may write on its attempt row. -/
def Phase.writesRow : Phase → Bool
  | .rejected _ => true
  | .givingUp _ => true
  | phase => phase.executing

theorem Execution.writesRow_of_mayAnnounce {execution : Execution}
    (may : execution.mayAnnounce) : execution.phase.writesRow := by
  cases phase : execution.phase with
  | claimed | building => rfl
  | _ => simp [Execution.mayAnnounce, phase] at may

/-- The code `classifySubmissionError` gives an error. -/
def Thrown.code : Thrown → ErrorCode
  | .failure .workflow => .childReconciliationRequired
  | .failure .notApplied => .classified "TxFailed"
  | .failure .ambiguous => .classified "SubmitAmbiguous"
  | .failure (.other code) => .classified code
  | .bookkeepingPending => .classified "SponsorAttemptBookkeepingPendingError"

/-- How the scheduler ends a failed execution of a job whose row it has read. Only a job
with a recorded hash can have changed the chain. -/
def verdictOf (current : Option BackgroundJob) (error : Thrown) : Verdict :=
  if (current.bind BackgroundJob.txHash).isSome then
    match error with
    | .bookkeepingPending => .park .rejectedAttemptBookkeepingPending
    | .failure .ambiguous => .park .broadcastUnconfirmed
    | .failure _ => .park .externalExecutionFailed
  else .fail error.code

/-- The row was superseded while the job ran; the execution ends without a write. -/
def isSuperseded (current : Option BackgroundJob) : Bool :=
  current.any fun job => job.status = .failed && job.errorCode = some .superseded

/-- An identifier-keyed job whose landed call did not apply is confirmed right away. -/
def confirmsFailure (job : BackgroundJob) (error : Thrown) : Bool :=
  error = .failure .notApplied && job.txHash.isSome && job.kind.identifierKeyed

/-- The catch block of the scheduler up to its write. -/
def classifyFailure (state : Ledger) (jobId : Nat) (execution : Execution) : Ledger :=
  match execution.phase with
  | .threw error =>
    let current := state.db.getJobById jobId
    if error = .failure .workflow then
      state.setPhase jobId execution (.settling (.park .childReconciliationRequired))
    else if isSuperseded current then state.setExecution jobId none
    else
      match current.filter (confirmsFailure · error) with
      | some job =>
        state.setPhase jobId execution (.confirming job state.db.reorgGeneration)
      | none => state.setPhase jobId execution (.settling (verdictOf current error))
  | _ => state

/-- The write a verdict stands for. -/
def Verdict.write (verdict : Verdict) (db : JobDb) (worker jobId : Nat) : Option JobDb :=
  match verdict with
  | .park code => markReconciliationRequired db worker jobId code
  | .fail code => markFailed db worker jobId code

/-- The answer to `markChainFailureAfterBroadcast`. -/
def confirmInFlight (state : Ledger) (jobId : Nat) (execution : Execution)
    (answer : Option ChainOutcome) (outcome : WriteOutcome) : Ledger :=
  match execution.phase with
  | .confirming job generation =>
    let unconfirmed := Phase.settling (.park .chainExecutionFailedUnconfirmed)
    match answer with
    | none => state.setPhase jobId execution unconfirmed
    | some answer =>
      let start := FinalizeFrom.inFlight state.worker
      if outcome = .committed ∧ ¬ (state.db.reorgGeneration = generation ∧
          state.db.jobs.affects job.ID start.matching) then
        state.setPhase jobId execution unconfirmed
      else
        (state.write outcome
          (some (finalizeIdentifierKeyedJob state.db job answer start generation))).setExecution
            jobId none
  | _ => state

/-- One event of a live execution. -/
def executionStep (state : Ledger) (jobId : Nat) (execution : Execution) :
    ExecutionEvent → Ledger
  | .claim _ _ => state
  | .insertRow rowId now =>
    if execution.phase = .claimed ∧ execution.ledger.channel = .bound ∧
        execution.ledger.rowId = none ∧ state.db.submissions.find? rowId = none then
      (state.write .committed (some (insertPending state.db rowId now))).setExecution jobId
        (some { execution with ledger := { execution.ledger with rowId := some rowId } })
    else state
  | .crossBoundary outcome =>
    if execution.phase = .claimed ∧ (execution.ledger.channel = .bound ∨
        execution.ledger.channel = .wallet) then
      let after := markJobExternalExecution state.db state.worker jobId execution.ledger.rowId
      (state.write outcome after).setPhase jobId execution
        (if outcome.reports after then .building none
        else .threw (.other "ReportExternalExecution"))
    else state
  | .announce intent outcome =>
    if execution.mayAnnounce ∧ intent.tx.job = jobId ∧
        state.db.submissions.find? intent.freshId = none then
      let after := execution.ledger.onSubmitIntent state.db state.worker jobId intent
      let written := state.write outcome after
      if outcome.reports after then
        { written with acked := intent.tx :: written.acked }.setExecution jobId
          (some ⟨.sending intent.tx, execution.ledger.announced intent⟩)
      else written.setPhase jobId execution (.threw (.other "SubmitIntentRejected"))
    else state
  | .reject =>
    match execution.phase with
    | .sending tx => (state.withoutTx tx).setPhase jobId execution (.rejected tx)
    | _ => state
  | .closeRejected outcome =>
    match execution.phase with
    | .rejected tx =>
      let after := execution.ledger.reject state.db state.worker jobId tx
      let written := state.write outcome after
      if outcome.reports after then
        written.setExecution jobId (some ⟨.building none, execution.ledger.closed true⟩)
      else
        written.setPhase jobId execution
          (.threw (if execution.ledger.channel = .wallet then .other "Rejected"
            else .bookkeepingPending))
    | _ => state
  | .giveUp =>
    match execution.phase with
    | .sending tx =>
      if execution.ledger.channel = .sponsor then
        state.setPhase jobId execution (.givingUp tx)
      else state
    | _ => state
  | .closeGivenUp outcome =>
    match execution.phase with
    | .givingUp tx =>
      let after := some (execution.ledger.giveUp state.db)
      let written := state.write outcome after
      if outcome.reports after then
        written.setExecution jobId (some ⟨.building (some tx), execution.ledger.closed false⟩)
      else written.setPhase jobId execution (.threw (.other "Error"))
    | _ => state
  | .workerReturns =>
    match execution.phase with
    | .sending tx =>
      state.setPhase jobId execution
        (if execution.ledger.channel = .bound then .reporting tx else .working)
    | _ => state
  | .reportSubmitted now outcome =>
    match execution.phase with
    | .reporting tx =>
      let after := markJobSubmitted state.db state.worker jobId execution.ledger.rowId
        (.hash tx) now
      (state.write outcome after).setPhase jobId execution
        (if outcome.reports after then .working else .threw (.other "ReportSubmitted"))
    | _ => state
  | .writeRow write =>
    match execution.ledger.rowId with
    | some rowId =>
      if execution.phase.writesRow ∧ write.ofJob jobId then
        state.write .committed (some (write.apply state.db rowId))
      else state
    | none => state
  | .executorThrows failure =>
    if execution.phase.executing then
      state.setPhase jobId execution (.threw (.failure failure))
    else state
  | .executorReturns =>
    match execution.phase with
    | .claimed => state.setPhase jobId execution .persisting
    | .building none => state.setPhase jobId execution .persisting
    | .working => state.setPhase jobId execution .persisting
    | _ => state
  | .persist outcome =>
    if execution.phase = .persisting then
      let after := markSucceeded state.db state.worker jobId
      if outcome.reports after then (state.write outcome after).setExecution jobId none
      else (state.write outcome after).setPhase jobId execution .persistFailed
    else state
  | .persistFailure outcome =>
    if execution.phase = .persistFailed then
      if isSuperseded (state.db.getJobById jobId) then state.setExecution jobId none
      else
        (state.write outcome
          (markFailed state.db state.worker jobId .resultPersistFailed)).setExecution jobId none
    else state
  | .classify => classifyFailure state jobId execution
  | .settle outcome =>
    match execution.phase with
    | .settling verdict =>
      (state.write outcome (verdict.write state.db state.worker jobId)).setExecution jobId none
    | _ => state
  | .confirmInFlight answer outcome => confirmInFlight state jobId execution answer outcome

/-- An element of a list with one element rewritten. -/
theorem of_mem_modify {α : Type*} {list : List α} {index : Nat} {change : α → α} {element : α}
    (isElement : element ∈ list.modify index change) :
    element ∈ list ∨ ∃ before ∈ list, element = change before := by
  rcases List.mem_iff_getElem?.mp isElement with ⟨position, found⟩
  rw [List.getElem?_modify] at found
  rcases Option.map_eq_some_iff.mp found with ⟨before, isBefore, rfl⟩
  have stored : before ∈ list := List.mem_of_getElem? isBefore
  split
  · exact .inr ⟨before, stored, rfl⟩
  · exact .inl stored

/-- The rows of a page that still match its condition. -/
def readPage (db : JobDb) (jobIds : List Nat) (matching : BackgroundJob → Bool) :
    List BackgroundJob :=
  (jobIds.filterMap db.getJobById).filter matching

/-- A parked job the indexer is asked about. -/
def isParked (job : BackgroundJob) : Bool :=
  job.status = .reconciliationRequired && job.txHash.isSome

/-- A succeeded job whose chain outcome is open. -/
def awaitsOutcome (job : BackgroundJob) : Bool :=
  job.status = .succeeded && job.txHash.isSome &&
    (job.chainStatus = some .pending || job.chainStatus = none) && !job.kind.workflowParent

/-- The write a lookup leads to. -/
def Lookup.write (lookup : Lookup) (db : JobDb) (margin : Nat) : JobDb :=
  match lookup.answer, lookup.ofParked with
  | some (.outcome outcome), true =>
    finalizeIdentifierKeyedJob db lookup.job outcome .reconciliationRequired lookup.generation
  | some (.absent asOfMs), true =>
    finalizeLostBroadcast db lookup.job asOfMs margin lookup.generation
  | some (.outcome outcome), false =>
    if lookup.job.kind.identifierKeyed then
      finalizeIdentifierKeyedJob db lookup.job outcome (.succeeded lookup.job.chainStatus)
        lookup.generation
    else confirmChainOutcome db lookup.job outcome lookup.generation
  | _, _ => db

/-- A pass takes up a job of its pages. -/
def beginLookup (pass : ConfirmPass) (jobId : Nat) : List Lookup :=
  match pass.parked.find? (fun job => job.ID = jobId),
      pass.succeeded.find? (fun job => job.ID = jobId) with
  | some job, _ => [⟨job, true, pass.generation, none⟩]
  | none, some job => [⟨job, false, pass.generation, none⟩]
  | none, none => []

def reconcilerStep (state : Ledger) : ReconcilerEvent → Ledger
  | .startPass parked succeeded =>
    match state.pass with
    | some _ => state
    | none =>
      { state with
        pass := some {
          parked := readPage state.db parked isParked
          succeeded := readPage state.db succeeded awaitsOutcome
          generation := state.db.reorgGeneration } }
  | .rereadGeneration =>
    { state with
      pass := state.pass.map fun pass =>
        { pass with generation := state.db.reorgGeneration } }
  | .beginLookup jobId =>
    match state.pass with
    | some pass => { state with lookups := state.lookups ++ beginLookup pass jobId }
    | none => state
  | .answer index answer =>
    { state with
      lookups := state.lookups.modify index fun lookup =>
        { lookup with answer := some answer } }
  | .finalize index margin outcome =>
    match state.lookups[index]? with
    | some lookup =>
      { state.write outcome (some (lookup.write state.db margin)) with
        lookups := state.lookups.eraseIdx index }
    | none => state
  | .endPass => { state with pass := none, lookups := [] }
  | .readParent parentId =>
    match state.db.getJobById parentId with
    | some parent =>
      if awaitsRollUp parent then
        { state with
          rollUps := state.rollUps ++ [⟨parentId, parent.chainStatus, none⟩] }
      else state
    | none => state
  | .readChildren index =>
    { state with
      rollUps := state.rollUps.modify index fun rollUp =>
        let children := childrenOf state.db rollUp.parentId
        if children = [] then rollUp
        else { rollUp with aggregate := some (aggregateChainStatus children) } }
  | .writeParent index outcome =>
    match state.rollUps[index]? with
    | some rollUp =>
      let after :=
        match rollUp.aggregate with
        | some aggregate =>
          if rollUp.chainStatusWas = some aggregate then state.db
          else writeAggregate state.db rollUp.parentId aggregate
        | none => state.db
      { state.write outcome (some after) with
        rollUps := state.rollUps.eraseIdx index }
    | none => state
  | .reconcileParent parentId =>
    state.write .committed (some (reconcileParent state.db parentId))
  | .settleRejected jobId =>
    match state.db.getJobById jobId with
    | some job =>
      if awaitsBookkeeping job then
        state.write .committed (some (settleRejectedSponsorAttempt state.db job))
      else state
    | none => state

/-! ## Steps of the system -/

/-- A step job is started by the running executor of its workflow. -/
def mayStart (state : Ledger) (new : NewJob) : Bool :=
  match new.parentJobId with
  | none => true
  | some parentId =>
    (state.executions parentId).any fun execution =>
      execution.phase = .claimed && execution.ledger.channel = .workflow

/-- The recovery of a process that starts over the tables of a dead one. -/
def restartLedger (state : Ledger) (worker count : Nat) : Ledger :=
  { state with
    db := recoverFirst state.db count
    worker := worker
    executions := fun _ => none
    acked := []
    pass := none
    lookups := []
    rollUps := [] }

def ledgerStep (state : Ledger) : LedgerEvent → Ledger
  | .startJob new =>
    if mayStart state new then
      state.write .committed (some { state.db with jobs := state.db.jobs.insert new.row })
    else state
  | .supersede replaced =>
    state.write .committed (some (supersedeQueuedJobs state.db fun job => job.ID ∈ replaced))
  | .reclaim jobId => state.write .committed (some (reclaimLease state.db jobId))
  | .restart worker count => restartLedger state worker count
  | .dropPending sessionIds =>
    state.write .committed (some (dropPendingJobsForClosedSessions state.db sessionIds))
  | .createGrant grantId allowDeploy maxDeploys =>
    state.write .committed (some { state.db with
      grants := state.db.grants.insert {
        ID := grantId
        isActive := true
        allowDeploy := allowDeploy
        maxDeploys := maxDeploys
        deploysUsed := 0 } })
  | .changeGrant grantId isActive allowDeploy maxDeploys =>
    state.write .committed (some { state.db with
      grants := state.db.grants.update grantId (fun _ => true) {
        set := fun grant => { grant with isActive, allowDeploy, maxDeploys } } })
  | .execution jobId (.claim channel outcome) => claimJob state jobId channel outcome
  | .execution jobId event =>
    match state.executions jobId with
    | some execution => executionStep state jobId execution event
    | none => state
  | .broadcast tx =>
    if tx ∈ state.acked then
      { state with
        acked := state.acked.filter (· ≠ tx)
        unrejected := tx :: state.unrejected }
    else state
  | .reconciler event => reconcilerStep state event
  | .rollback fromHeight =>
    { state with
      db := rollbackJobs state.db fromHeight
      rollbacks := (fromHeight, state.db.reorgGeneration + 1) :: state.rollbacks }

end Nightgate.Submission
