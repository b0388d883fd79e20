import Nightgate.Submission.JobStore

/-!
# Attempt rows

What an executor writes about the transactions it sends: the announcement before a
broadcast, the closing of an attempt, and the deploys an announcement reserves on
the job's grant. Each function is one database transaction; `none` means that it
threw and was rolled back.
-/

namespace Nightgate.Submission

open Library

/-- `reserveDeployBudget`. -/
def reserveDeployBudget (db : JobDb) (grantId count : Nat) : Option JobDb :=
  let admits := fun grant : AgentGrant =>
    grant.isActive && grant.allowDeploy &&
      decide (grant.deploysUsed + count ≤ grant.maxDeploys.getD 1)
  if 0 < count ∧ db.grants.affects grantId admits then
    some { db with
      grants := db.grants.update grantId admits {
        set := fun grant => { grant with deploysUsed := grant.deploysUsed + count } } }
  else none

/-- `deployRefund`: the count never drops below zero. -/
def deployRefund (db : JobDb) (grantId count : Nat) : JobDb :=
  { db with
    grants := db.grants.update grantId (fun grant => count ≤ grant.deploysUsed) {
      set := fun grant => { grant with deploysUsed := grant.deploysUsed - count } } }

/-! ## Announcing -/

/-- How an executor keeps its attempts. -/
inductive Channel where
  /-- `TransactionSubmitter`: one row, reused until an attempt on it is rejected. -/
  | bound
  /-- Wallet jobs keep no row. -/
  | wallet
  /-- Sponsoring jobs: a new row for each attempt. -/
  | sponsor
  /-- Workflow parents send nothing themselves. -/
  | workflow
  deriving DecidableEq

/-- What the submit-intent hook is called with, and what it draws: a fresh row id and
the current time. -/
structure Announcement where
  tx : Tx
  ttl : Option Nat
  deployed : Nat
  freshId : Nat
  now : Nat

/-- The attempts of one execution as its executor sees them. -/
structure AttemptLedger where
  channel : Channel
  grantId : Option Nat
  /-- The row of the announced attempt, or the row the next announcement reuses. -/
  rowId : Option Nat
  /-- An attempt was announced before. -/
  boundaryCrossed : Bool
  reservedDeploys : Nat

/-- The row an announcement is written to. -/
def AttemptLedger.targetRow (ledger : AttemptLedger) (intent : Announcement) : Option Nat :=
  match ledger.channel with
  | .bound => some (ledger.rowId.getD intent.freshId)
  | .wallet => none
  | .sponsor => some intent.freshId
  | .workflow => none

/-- An announcement goes to a fresh row, or to the row of the attempt. -/
theorem AttemptLedger.targetRow_cases (ledger : AttemptLedger) (intent : Announcement) :
    ledger.targetRow intent = some intent.freshId ∨
      ∀ rowId ∈ ledger.targetRow intent, ledger.rowId = some rowId := by
  unfold AttemptLedger.targetRow
  cases ledger.channel with
  | bound =>
    cases ledger.rowId with
    | none => exact .inl rfl
    | some rowId => exact .inr fun _ => id
  | sponsor => exact .inl rfl
  | wallet | workflow => exact .inr nofun

/-- The reservation an announcement records: the deploys of a job under a grant. -/
def AttemptLedger.reservation (ledger : AttemptLedger) (intent : Announcement) :
    Option DeployReservation :=
  match ledger.channel, ledger.grantId with
  | .sponsor, some grantId =>
    if 0 < intent.deployed then some ⟨grantId, intent.deployed⟩ else none
  | _, _ => none

/-- The deploys still to reserve for an announcement. -/
def AttemptLedger.need (ledger : AttemptLedger) (intent : Announcement) : Nat :=
  match ledger.reservation intent with
  | none => 0
  | some reservation => reservation.count - ledger.reservedDeploys

/-- The attempt row of an announcement. -/
def AttemptLedger.attemptRow (ledger : AttemptLedger) (intent : Announcement) :
    PendingSubmission where
  ID := intent.freshId
  txHash := some (.identifier intent.tx)
  submittedAt := intent.now
  ttl := intent.ttl
  deployReservation := ledger.reservation intent
  status := .pending
  errorCode := none
  evidence := none

/-- `insertPending`: the row of a submission whose transaction is not built yet. -/
def insertPending (db : JobDb) (rowId now : Nat) : JobDb :=
  { db with
    submissions := db.submissions.insert {
      ID := rowId
      txHash := none
      submittedAt := now
      ttl := none
      deployReservation := none
      status := .pending
      errorCode := none
      evidence := none } }

/-- The row part of an announcement: the waiting row of a bound submission is filled,
else a new row is inserted. -/
def AttemptLedger.writeRow (ledger : AttemptLedger) (db : JobDb) (intent : Announcement) :
    JobDb :=
  match ledger.channel, ledger.rowId with
  | .bound, some rowId =>
    { db with
      submissions := db.submissions.update rowId (fun _ => true) {
        set := fun row => { row with
          txHash := some (.identifier intent.tx)
          ttl := intent.ttl } } }
  | .bound, none =>
    { db with submissions := db.submissions.insert (ledger.attemptRow intent) }
  | .sponsor, _ =>
    { db with submissions := db.submissions.insert (ledger.attemptRow intent) }
  | .wallet, _ => db
  | .workflow, _ => db

@[simp] theorem AttemptLedger.writeRow_jobs (ledger : AttemptLedger) (db : JobDb)
    (intent : Announcement) : (ledger.writeRow db intent).jobs = db.jobs := by
  unfold AttemptLedger.writeRow
  split <;> rfl

/-- The budget part of an announcement. -/
def AttemptLedger.reserve (ledger : AttemptLedger) (db : JobDb) (intent : Announcement) :
    Option JobDb :=
  match ledger.reservation intent with
  | none => some db
  | some reservation =>
    if ledger.need intent = 0 then some db
    else reserveDeployBudget db reservation.grantId (ledger.need intent)

/-- The first announcement of a sponsoring job leaves `running`. -/
def AttemptLedger.firstBoundary (ledger : AttemptLedger) : Bool :=
  ledger.channel = .sponsor && !ledger.boundaryCrossed

/-- The `onSubmitIntent` hook: attempt row, reservation and job in one transaction. -/
def AttemptLedger.onSubmitIntent (ledger : AttemptLedger) (db : JobDb) (worker jobId : Nat)
    (intent : Announcement) : Option JobDb := do
  let reserved ← ledger.reserve (ledger.writeRow db intent) intent
  markJobBroadcastOn reserved worker jobId (ledger.targetRow intent)
    (.identifier intent.tx) ledger.firstBoundary intent.now

/-- A reservation concerns the grants alone. -/
theorem AttemptLedger.reserve_fields {ledger : AttemptLedger} {db after : JobDb}
    {intent : Announcement} (reserved : ledger.reserve db intent = some after) :
    after.jobs = db.jobs ∧ after.submissions = db.submissions ∧
      after.reorgGeneration = db.reorgGeneration := by
  unfold AttemptLedger.reserve at reserved
  split at reserved
  · cases reserved
    exact ⟨rfl, rfl, rfl⟩
  · split at reserved
    · cases reserved
      exact ⟨rfl, rfl, rfl⟩
    · unfold reserveDeployBudget at reserved
      dsimp only at reserved
      split at reserved
      · cases reserved
        exact ⟨rfl, rfl, rfl⟩
      · cases reserved

/-- An announcement writes its row and marks the job. -/
theorem AttemptLedger.onSubmitIntent_cases {ledger : AttemptLedger} {db after : JobDb}
    {worker jobId : Nat} {intent : Announcement}
    (announced : ledger.onSubmitIntent db worker jobId intent = some after) :
    ∃ reserved, reserved.jobs = (ledger.writeRow db intent).jobs ∧
      reserved.submissions = (ledger.writeRow db intent).submissions ∧
      reserved.reorgGeneration = (ledger.writeRow db intent).reorgGeneration ∧
      markJobBroadcastOn reserved worker jobId (ledger.targetRow intent)
        (.identifier intent.tx) ledger.firstBoundary intent.now = some after := by
  rcases Option.bind_eq_some_iff.mp announced with ⟨reserved, isReserved, marked⟩
  rcases AttemptLedger.reserve_fields isReserved with ⟨jobs, submissions, generation⟩
  exact ⟨reserved, jobs, submissions, generation, marked⟩

/-- The attempts after an announcement. -/
def AttemptLedger.announced (ledger : AttemptLedger) (intent : Announcement) :
    AttemptLedger :=
  { ledger with
    rowId := ledger.targetRow intent
    boundaryCrossed := true
    reservedDeploys :=
      if (ledger.reservation intent).isSome then intent.deployed else ledger.reservedDeploys }

/-- Closes an attempt row. -/
def closeRow (db : JobDb) (rowId : Option Nat) (code : ErrorCode) : JobDb :=
  match rowId with
  | none => db
  | some rowId =>
    { db with
      submissions := db.submissions.update rowId (fun _ => true) {
        set := fun row => { row with status := .failed, errorCode := some code } } }

@[simp] theorem closeRow_jobs (db : JobDb) (rowId : Option Nat) (code : ErrorCode) :
    (closeRow db rowId code).jobs = db.jobs := by
  cases rowId <;> rfl

/-- The deploys given back when an attempt is rejected. -/
def AttemptLedger.giveBack (ledger : AttemptLedger) (db : JobDb) : JobDb :=
  match ledger.grantId with
  | none => db
  | some grantId =>
    if 0 < ledger.reservedDeploys then deployRefund db grantId ledger.reservedDeploys
    else db

@[simp] theorem AttemptLedger.giveBack_jobs (ledger : AttemptLedger) (db : JobDb) :
    (ledger.giveBack db).jobs = db.jobs := by
  unfold AttemptLedger.giveBack
  split
  · rfl
  · split <;> rfl

/-- `rejectAnnouncedAttempt`, `failPreviousAttempt` after a rejection, and the wallet
jobs' bookkeeping: row, refund and hash in one transaction. -/
def AttemptLedger.reject (ledger : AttemptLedger) (db : JobDb) (worker jobId : Nat)
    (tx : Tx) : Option JobDb :=
  markJobSubmissionRejectedOn (ledger.giveBack (closeRow db ledger.rowId .rejected))
    worker jobId ledger.rowId (.identifier tx)

/-- `failPreviousAttempt` of an attempt that was not rejected. -/
def AttemptLedger.giveUp (ledger : AttemptLedger) (db : JobDb) : JobDb :=
  closeRow db ledger.rowId .rebuilt

/-- The attempts after the open one was closed. -/
def AttemptLedger.closed (ledger : AttemptLedger) (rejected : Bool) : AttemptLedger :=
  { ledger with
    rowId := none
    reservedDeploys :=
      if rejected && ledger.grantId.isSome then 0 else ledger.reservedDeploys }

/-- What else an executor writes on its attempt row. -/
inductive RowWrite where
  /-- `noteAmbiguousFailure`: the code of an open row. -/
  | note (code : String)
  /-- `markFailed` and the failing `updateAfterSdk`. -/
  | fail (code : String)
  /-- `markIncluded` and the succeeding `updateAfterSdk`. -/
  | included (txHash : Option TxHash)

/-- The worker returns the hash of a transaction of the job it runs. -/
def RowWrite.ofJob (jobId : Nat) : RowWrite → Bool
  | .included (some txHash) => txHash.tx.job = jobId
  | _ => true

def RowWrite.apply (write : RowWrite) (db : JobDb) (rowId : Nat) : JobDb :=
  match write with
  | .note code =>
    { db with
      submissions := db.submissions.update rowId (fun row => row.status = .pending) {
        set := fun row => { row with errorCode := some (.classified code) } } }
  | .fail code =>
    { db with
      submissions := db.submissions.update rowId (fun _ => true) {
        set := fun row =>
          { row with status := .failed, errorCode := some (.classified code) } } }
  | .included txHash =>
    { db with
      submissions := db.submissions.update rowId (fun _ => true) {
        set := fun row =>
          { row with status := .included, txHash := txHash.or row.txHash } } }

end Nightgate.Submission
