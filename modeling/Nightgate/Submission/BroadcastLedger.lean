import Nightgate.Submission.JobWrites

/-!
# The broadcast ledger

A transaction that was announced and not rejected is named by its job's row, the job
is neither queued nor run again, and it is the only such transaction of the job. The
row follows the execution that announced it; once that execution is gone, no other
update takes a hash off a job past the boundary.
-/

namespace Nightgate.Submission

open Library

/-- The indexer proved how the job's transaction ended. -/
def BackgroundJob.HasChainEvidence (job : BackgroundJob) : Prop :=
  (job.errorCode = some .chainExecutionFailed ∧ job.evidence.isSome) ∨
    (job.errorCode = some .broadcastNotIncluded ∧ job.chainStatus = some .dropped)

instance (job : BackgroundJob) : Decidable job.HasChainEvidence :=
  inferInstanceAs (Decidable (_ ∨ _))

/-- The row names the transaction, and the job is neither queued nor run again. -/
structure BackgroundJob.Names (job : BackgroundJob) (tx : Tx) : Prop where
  hash : job.txHash.map TxHash.tx = some tx
  notQueued : job.status ≠ .pending
  notRunning : job.status ≠ .running

/-- A failed job has chain evidence, or its result could not be saved. -/
def BackgroundJob.Accounted (job : BackgroundJob) : Prop :=
  job.status = .failed → job.HasChainEvidence ∨ job.errorCode = some .resultPersistFailed

/-- The law of the ledger, for a reading of how a job may fail. -/
structure LedgerLaw (accounted : BackgroundJob → Prop) (state : Ledger) : Prop where
  named : ∀ tx ∈ state.unrejected, ∃ job, state.db.getJobById tx.job = some job ∧
    job.Names tx ∧ accounted job
  alone : ∀ tx ∈ state.unrejected, ∀ other ∈ state.unrejected, tx.job = other.job → tx = other

/-- The attempt an executor gave up without a rejection before it builds again. -/
def Phase.givenUp : Phase → Option Tx
  | .building givenUp => givenUp
  | _ => none

/-- No sponsoring executor announces a new build after it gave up an attempt that the
node had not rejected. -/
def NoOpenRebuild (state : Ledger) : LedgerEvent → Prop
  | .execution jobId (.announce _ _) =>
    ∀ execution ∈ state.executions jobId, execution.phase.givenUp = none
  | _ => True

instance (state : Ledger) (event : LedgerEvent) : Decidable (NoOpenRebuild state event) := by
  unfold NoOpenRebuild
  split <;> infer_instance

/-- What a row keeps while a transaction of its job is announced and not rejected. -/
structure Named (job : BackgroundJob) (tx : Tx) : Prop where
  names : job.Names tx
  pastExecution : job.status ≠ .externalExecution
  notParent : job.kind.workflowParent = false
  notRejected : job.status = .reconciliationRequired →
    job.errorCode ≠ some .rejectedAttemptBookkeepingPending
  accounted : job.Accounted

/-- A row keeps its kind and goes on naming its transactions outside `exempt`. -/
structure KeepsNames (exempt : Tx → Prop) (job row : BackgroundJob) : Prop where
  ID : row.ID = job.ID
  kind : row.kind = job.kind
  named : ∀ tx, tx.job = job.ID → ¬ exempt tx → Named job tx → Named row tx

theorem KeepsNames.refl {exempt : Tx → Prop} (job : BackgroundJob) :
    KeepsNames exempt job job :=
  ⟨rfl, rfl, fun _ _ _ named => named⟩

theorem KeepsNames.trans {exempt : Tx → Prop} (first second third : BackgroundJob)
    (toSecond : KeepsNames exempt first second) (toThird : KeepsNames exempt second third) :
    KeepsNames exempt first third where
  ID := toThird.ID.trans toSecond.ID
  kind := toThird.kind.trans toSecond.kind
  named := fun tx own outside named =>
    toThird.named tx (own.trans toSecond.ID.symm) outside (toSecond.named tx own outside named)

/-- Every job row is kept. -/
def Preserves (exempt : Tx → Prop) (db after : JobDb) : Prop :=
  db.jobs.Evolves (KeepsNames exempt) after.jobs

section Preserves

variable {exempt : Tx → Prop} {db middle after : JobDb}

theorem Preserves.of_jobs (same : after.jobs = db.jobs) : Preserves exempt db after := by
  unfold Preserves
  rw [same]
  exact Table.Evolves.refl KeepsNames.refl db.jobs

end Preserves

/-! ## The writes -/

/-- Writes of an executor after which the row may not name a transaction of the job. -/
def JobWrite.forgets : JobWrite → Tx → Prop
  | .send _ _ txHash _, tx => txHash.tx ≠ tx
  | .reject _ _, _ => True
  | .fail _ code, _ => code ≠ .resultPersistFailed
  | .park _ code, _ => code = .rejectedAttemptBookkeepingPending
  | _, _ => False

theorem JobWrite.frees.keeps {write : JobWrite} (frees : write.frees) (tx : Tx) :
    ¬ write.forgets tx := by
  cases write <;> first | exact id | exact frees.elim

section Updates

variable {exempt : Tx → Prop} {db after : JobDb} {write : JobWrite} {job next : BackgroundJob}
  {tx : Tx}

theorem Named.sent (named : Named job tx) : ¬ job.Unsent := by
  rintro (pending | running | executing)
  · exact named.names.notQueued pending
  · exact named.names.notRunning running
  · exact named.pastExecution executing

/-- A finalized outcome is chain evidence. -/
theorem Named.finalized {start : FinalizeFrom} {outcome : ChainOutcome}
    {evidence : ChainEvidence} (named : Named job tx) (isMatch : start.matching job) :
    Named ((finalizedJob outcome evidence start).set job) tx := by
  cases start with
  | succeeded chainStatusWas =>
    simp only [FinalizeFrom.matching, Bool.and_eq_true, decide_eq_true_eq] at isMatch
    exact ⟨⟨named.names.hash, named.names.notQueued, named.names.notRunning⟩,
      named.pastExecution, named.notParent, named.notRejected,
      by simp [finalizedJob, BackgroundJob.Accounted, isMatch.1]⟩
  | reconciliationRequired | inFlight worker =>
    cases status : outcome.status <;>
      exact ⟨⟨named.names.hash, by simp [finalizedJob, status],
          by simp [finalizedJob, status]⟩, by simp [finalizedJob, status],
        named.notParent, by simp [finalizedJob, status],
        by simp [finalizedJob, status, BackgroundJob.Accounted, BackgroundJob.HasChainEvidence]⟩

/-- A rollback parks the failures it uncovers again; no other failed row changes. -/
theorem Named.reverted {job : BackgroundJob} {tx : Tx} (named : Named job tx)
    (fromHeight : Nat) : Named (revertedJob fromHeight job) tx := by
  unfold revertedJob
  split
  · exact ⟨⟨named.names.hash, by simp, by simp⟩, by simp, named.notParent, by simp,
      by simp [BackgroundJob.Accounted]⟩
  next notFailed =>
    split
    next outcome =>
      refine ⟨⟨named.names.hash, named.names.notQueued, named.names.notRunning⟩,
        named.pastExecution, named.notParent, named.notRejected, ?_⟩
      intro failed
      have status : job.status = .failed := failed
      rcases named.accounted status with (⟨code, _⟩ | ⟨_, dropped⟩) | unsaved
      · simp only [Bool.and_eq_true] at outcome
        simp [outcome.1, status, code] at notFailed
      · simp [dropped] at outcome
      · exact .inr unsaved
    · exact named

/-- A row goes on naming a transaction unless the write forgets it. -/
theorem JobWrite.Makes.named (makes : write.Makes job next) (keeps : ¬ write.forgets tx)
    (named : Named job tx) : Named next tx := by
  cases makes with
  | claim pending => exact absurd pending named.names.notQueued
  | crossBoundary running | requeue running => exact absurd running named.names.notRunning
  | send held =>
    exact ⟨⟨congrArg some (not_not.mp keeps), by simp, by simp⟩, by simp, named.notParent,
      by simp, by simp [BackgroundJob.Accounted]⟩
  | reject => exact absurd trivial keeps
  | succeed | parkSent =>
    exact ⟨⟨named.names.hash, by simp, by simp⟩, by simp, named.notParent, by simp,
      by simp [BackgroundJob.Accounted]⟩
  | fail =>
    exact ⟨⟨named.names.hash, by simp, by simp⟩, by simp, named.notParent, by simp,
      fun _ => .inr (congrArg some (not_not.mp keeps))⟩
  | park =>
    exact ⟨⟨named.names.hash, by simp, by simp⟩, by simp, named.notParent,
      fun _ pending => keeps (Option.some.inj pending), by simp [BackgroundJob.Accounted]⟩
  | drop unsent => exact absurd unsent named.sent
  | finalize isMatch => exact named.finalized isMatch
  | lose =>
    exact ⟨⟨named.names.hash, by simp, by simp⟩, by simp, named.notParent, by simp,
      fun _ => .inl (.inr ⟨rfl, rfl⟩)⟩
  | settleRejected awaits =>
    obtain ⟨parked, pending⟩ := awaitsBookkeeping_iff.mp awaits
    exact absurd pending (named.notRejected parked)
  | requeueParent _ parent | failParent _ parent =>
    rw [named.notParent] at parent
    cases parent
  | rollUp succeeded =>
    exact ⟨⟨named.names.hash, named.names.notQueued, named.names.notRunning⟩,
      named.pastExecution, named.notParent, named.notRejected,
      by simp [BackgroundJob.Accounted, succeeded]⟩
  | revert => exact named.reverted _

theorem JobWrite.Makes.keepsNames (makes : write.Makes job next)
    (forgets : ∀ tx, tx.job = job.ID → write.forgets tx → exempt tx) :
    KeepsNames exempt job next := by
  obtain ⟨ID, kind, _⟩ := makes.same
  refine ⟨ID, kind, fun tx own outside named => makes.named ?_ named⟩
  exact fun forgotten => outside (forgets tx own forgotten)

theorem Wrote.preserves {allowed : Nat → JobWrite → Prop} (wrote : Wrote allowed db after)
    (forgets : ∀ id write, allowed id write → ∀ tx, tx.job = id → write.forgets tx → exempt tx) :
    Preserves exempt db after := by
  apply Table.Rewrites.evolves
  apply wrote.rewrites KeepsNames.refl
  exact fun job next write _ may makes => makes.keepsNames (forgets _ _ may)

/-- A starting process forgets nothing. -/
theorem recoverFirst_preserves (db : JobDb) (count : Nat) :
    Preserves exempt db (recoverFirst db count) := by
  refine (recoverFirst_rewrites KeepsNames.refl KeepsNames.trans ?_ count
    fun _ _ _ => trivial).1.evolves
  intro job next write recovers makes _
  refine ⟨makes.keepsNames fun tx _ forgets => ?_, trivial⟩
  rcases recovers with frees | rfl
  · exact absurd forgets (frees.keeps tx)
  · exact forgets.elim

theorem rollbackJobs_preserves (db : JobDb) (fromHeight : Nat) :
    Preserves exempt db (rollbackJobs db fromHeight) := by
  apply (rollbackJobs_wrote db fromHeight).preserves
  rintro _ _ rfl tx _ forgets
  exact forgets.elim

end Updates

/-! ## The invariant -/

/-- The transactions the worker may still send, or sent and not rejected. -/
def Ledger.announced (state : Ledger) : List Tx :=
  state.acked ++ state.unrejected

/-- An execution may be in a phase while a transaction of its job is announced. -/
def Phase.Carries (tx : Tx) : Phase → Prop
  | .claimed => False
  | .building none => False
  | .building (some givenUp) => givenUp = tx
  | .sending sent => sent = tx
  | .rejected _ => False
  | .givingUp sent => sent = tx
  | .reporting sent => sent = tx
  | .working => True
  | .persisting => True
  | .persistFailed => True
  | .threw error => error ≠ .bookkeepingPending
  | .settling (.park code) => code ≠ .rejectedAttemptBookkeepingPending
  | .settling (.fail _) => False
  | .confirming _ _ => True

structure LedgerInvariant (state : Ledger) : Prop where
  named : ∀ tx ∈ state.announced, ∃ job, state.db.getJobById tx.job = some job ∧ Named job tx
  alone : ∀ tx ∈ state.announced, ∀ other ∈ state.announced, tx.job = other.job → tx = other
  carried : ∀ jobId, ∀ execution ∈ state.executions jobId,
    ∀ tx ∈ state.announced, tx.job = jobId → execution.phase.Carries tx
  served : ∀ jobId, ∀ execution ∈ state.executions jobId,
    ∃ job, state.db.getJobById jobId = some job ∧ execution.ledger.channel.serves job.kind

theorem LedgerInvariant.initial (worker : Nat) : LedgerInvariant (Ledger.initial worker) where
  named := by
    intro tx impossible
    cases impossible
  alone := by
    intro tx impossible
    cases impossible
  carried := by
    intro jobId execution impossible
    cases impossible
  served := by
    intro jobId execution impossible
    cases impossible

section Invariant

variable {state after : Ledger} {exempt : Tx → Prop} {jobId : Nat} {execution : Execution}

variable (invariant : LedgerInvariant state)

include invariant

/-- A change of the tables that keeps the rows of the announced transactions. -/
theorem LedgerInvariant.preserved (keeps : Preserves exempt state.db after.db)
    (outside : ∀ tx ∈ state.announced, ¬ exempt tx)
    (executions : after.executions = state.executions)
    (announced : after.announced = state.announced) : LedgerInvariant after where
  named := by
    rw [announced]
    intro tx isAnnounced
    rcases invariant.named tx isAnnounced with ⟨job, found, named⟩
    rcases keeps tx.job job found with ⟨row, foundRow, kept⟩
    have own : tx.job = job.ID := (Table.key_of_find? found).symm
    exact ⟨row, foundRow, kept.named tx own (outside tx isAnnounced) named⟩
  alone := by
    rw [announced]
    exact invariant.alone
  carried := by
    rw [announced, executions]
    exact invariant.carried
  served := by
    rw [executions]
    intro jobId execution live
    rcases invariant.served jobId execution live with ⟨job, found, serves⟩
    rcases keeps jobId job found with ⟨row, foundRow, kept⟩
    exact ⟨row, foundRow, kept.kind ▸ serves⟩

theorem LedgerInvariant.ends (jobId : Nat) :
    LedgerInvariant (state.setExecution jobId none) where
  named := invariant.named
  alone := invariant.alone
  carried := by
    intro other execution live
    simp only [Ledger.setExecution, Function.update_apply] at live
    split at live
    · cases live
    · exact invariant.carried other execution live
  served := by
    intro other execution live
    simp only [Ledger.setExecution, Function.update_apply] at live
    split at live
    · cases live
    · exact invariant.served other execution live

theorem LedgerInvariant.begins (jobId : Nat) (new : Execution)
    (carries : ∀ tx ∈ state.announced, tx.job = jobId → new.phase.Carries tx)
    (serves : ∃ job, state.db.getJobById jobId = some job ∧ new.ledger.channel.serves job.kind) :
    LedgerInvariant (state.setExecution jobId (some new)) where
  named := invariant.named
  alone := invariant.alone
  carried := by
    intro other execution live
    simp only [Ledger.setExecution, Function.update_apply] at live
    split at live
    next same =>
      cases live
      subst same
      exact carries
    · exact invariant.carried other execution live
  served := by
    intro other execution live
    simp only [Ledger.setExecution, Function.update_apply] at live
    split at live
    next same =>
      cases live
      subst same
      exact serves
    · exact invariant.served other execution live

/-- A live execution moves on. -/
theorem LedgerInvariant.becomes (live : state.executions jobId = some execution) (new : Execution)
    (channel : new.ledger.channel = execution.ledger.channel)
    (carries : ∀ tx, execution.phase.Carries tx → new.phase.Carries tx) :
    LedgerInvariant (state.setExecution jobId (some new)) := by
  apply invariant.begins
  · intro tx isAnnounced same
    exact carries tx (invariant.carried jobId execution live tx isAnnounced same)
  · rw [channel]
    exact invariant.served jobId execution live

/-- Nothing of a job is announced while its execution carries nothing. -/
theorem LedgerInvariant.nothing (live : state.executions jobId = some execution)
    (carries : ∀ tx, ¬ execution.phase.Carries tx) :
    ∀ tx ∈ state.announced, ¬ tx.job = jobId :=
  fun tx isAnnounced same =>
    carries tx (invariant.carried jobId execution live tx isAnnounced same)

end Invariant

end Nightgate.Submission
