import Nightgate.Library.Table

/-!
# Job and submission rows

The columns of `BackgroundJobs`, `PendingSubmissions` and `AgentGrants` that the
scheduler, the executors, the reconciler and a chain rollback read or write.
Requests and results are left out, and of the times all but those a validity window
is computed from: a lease may expire at any time.
-/

namespace Nightgate.Submission

open Library

/-- A built transaction. Each build of a job is a transaction of its own. -/
structure Tx where
  job : Nat
  build : Nat
  deriving DecidableEq

/-- What a `txHash` column holds: the identifier announced before the broadcast, or
the hash the worker returns for the landed transaction. No two transactions share
either. -/
inductive TxHash where
  | identifier (tx : Tx)
  | hash (tx : Tx)
  deriving DecidableEq

/-- The transaction a name stands for. -/
def TxHash.tx : TxHash → Tx
  | .identifier tx => tx
  | .hash tx => tx

inductive JobStatus where
  | pending
  | running
  | externalExecution
  | submitted
  | reconciliationRequired
  | succeeded
  | failed
  deriving DecidableEq

/-- The status list of every conditional update of a running job. -/
def JobStatus.inFlight : JobStatus → Bool
  | .running => true
  | .externalExecution => true
  | .submitted => true
  | _ => false

inductive ChainStatus where
  | pending
  | success
  | failure
  | dropped
  deriving DecidableEq

inductive SubmissionStatus where
  | pending
  | included
  | finalized
  | failed
  deriving DecidableEq

inductive ErrorCode where
  | processRestartSessionJobDropped
  | processRestartBeforeExecution
  | processRestartBeforeBroadcast
  | processRestartReconcile
  | processRestartSessionClosed
  | superseded
  | leaseExpired
  | resultPersistFailed
  | childReconciliationRequired
  | rejectedAttemptBookkeepingPending
  | broadcastUnconfirmed
  | broadcastNotIncluded
  | externalExecutionFailed
  | chainExecutionFailed
  | chainExecutionFailedUnconfirmed
  | sponsorAttemptRejected
  | childFailed
  /-- `REJECTED` of a closed attempt row. -/
  | rejected
  /-- `REBUILT` of a closed attempt row. -/
  | rebuilt
  /-- The code of a classified error. -/
  | classified (code : String)
  deriving DecidableEq

/-- What a job's declared kind says about it. -/
structure JobKindTraits where
  workflowParent : Bool
  identifierKeyed : Bool
  sessionBound : Bool
  deriving DecidableEq

/-- The inclusion columns `chainBlockHeight`, `chainBlockHash` and `indexerTxHash`,
which are written and cleared together. `lookedUpAt` is no column: it records the
rollback counter that was read before the lookup began. -/
structure ChainEvidence where
  blockHeight : Nat
  blockHash : Option Nat
  indexerTxHash : Option Nat
  lookedUpAt : Nat
  deriving DecidableEq

/-- Deploys an attempt reserved on its grant. -/
structure DeployReservation where
  grantId : Nat
  count : Nat

/-- `midnight.BackgroundJobs`. -/
structure BackgroundJob where
  ID : Nat
  kind : JobKindTraits
  sessionId : Nat
  status : JobStatus
  commandVersion : Option Nat
  grantId : Option Nat
  parentJobId : Option Nat
  errorCode : Option ErrorCode
  attempt : Nat
  submittedAt : Option Nat
  leaseOwner : Option Nat
  submissionId : Option Nat
  txHash : Option TxHash
  chainStatus : Option ChainStatus
  evidence : Option ChainEvidence
  deriving DecidableEq

/-- `midnight.PendingSubmissions`, with the validity end and the reservation its
`submitIntentData` holds. -/
structure PendingSubmission where
  ID : Nat
  txHash : Option TxHash
  submittedAt : Nat
  ttl : Option Nat
  deployReservation : Option DeployReservation
  status : SubmissionStatus
  errorCode : Option ErrorCode
  evidence : Option ChainEvidence

/-- `midnight.AgentGrants`. -/
structure AgentGrant where
  ID : Nat
  isActive : Bool
  allowDeploy : Bool
  maxDeploys : Option Nat
  deploysUsed : Nat

instance : Keyed BackgroundJob := ⟨BackgroundJob.ID⟩

instance : Keyed PendingSubmission := ⟨PendingSubmission.ID⟩

instance : Keyed AgentGrant := ⟨AgentGrant.ID⟩

/-- The tables, and `reorgGeneration` of `SyncState`. -/
structure JobDb where
  jobs : Table BackgroundJob
  submissions : Table PendingSubmission
  grants : Table AgentGrant
  reorgGeneration : Nat

def JobDb.empty : JobDb where
  jobs := .empty
  submissions := .empty
  grants := .empty
  reorgGeneration := 0

/-- `getJobById`. -/
def JobDb.getJobById (db : JobDb) (jobId : Nat) : Option BackgroundJob :=
  db.jobs.find? jobId

end Nightgate.Submission
