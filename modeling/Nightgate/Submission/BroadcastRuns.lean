import Nightgate.Submission.BroadcastLedger
import Nightgate.Submission.LedgerWrites

/-!
# Runs of the broadcast ledger

Every event keeps the ledger invariant, as long as no sponsoring executor announces a
new build while an earlier attempt of it may still land. A row in execution follows the
phase of that execution; the other updates find no row that names a transaction.
-/

namespace Nightgate.Submission

open Library

section Executions

variable {state : Ledger} {jobId : Nat} {execution : Execution}

/-- Nothing of a queued job is announced. -/
theorem LedgerInvariant.nothing_of_pending (invariant : LedgerInvariant state)
    {job : BackgroundJob} (found : state.db.getJobById jobId = some job)
    (pending : job.status = .pending) : ∀ tx ∈ state.announced, ¬ tx.job = jobId := by
  intro tx isAnnounced own
  subst own
  rcases invariant.named tx isAnnounced with ⟨row, foundRow, named⟩
  rw [found] at foundRow
  cases foundRow
  exact named.names.notQueued pending

/-! ## Announcing and rejecting -/

/-- The announced transaction is named by its job's row. -/
theorem AttemptLedger.onSubmitIntent_names {ledger : AttemptLedger} {db after : JobDb}
    {worker : Nat} {intent : Announcement} {job : BackgroundJob}
    (announced : ledger.onSubmitIntent db worker jobId intent = some after)
    (found : db.getJobById jobId = some job) (step : job.kind.workflowParent = false) :
    ∃ row, after.getJobById jobId = some row ∧ Named row intent.tx := by
  rcases AttemptLedger.onSubmitIntent_cases announced with ⟨reserved, jobs, _, _, marked⟩
  rw [AttemptLedger.writeRow_jobs] at jobs
  rcases JobDb.updateJob_row marked with ⟨before, foundBefore, _, foundAfter⟩
  have same : before = job := by
    unfold JobDb.getJobById at found
    rw [jobs, found] at foundBefore
    exact (Option.some.inj foundBefore).symm
  subst same
  refine ⟨_, foundAfter, ⟨rfl, by simp, by simp⟩, by simp, step, by simp, ?_⟩
  simp [BackgroundJob.Accounted]

/-- After the rejection of its transaction nothing of a job is announced. -/
theorem LedgerInvariant.withoutTx (invariant : LedgerInvariant state) (tx : Tx) :
    LedgerInvariant (state.withoutTx tx) := by
  have fewer : ∀ other ∈ (state.withoutTx tx).announced, other ∈ state.announced := by
    intro other isAnnounced
    simp only [Ledger.withoutTx, Ledger.announced, List.mem_append, List.mem_filter]
      at isAnnounced ⊢
    rcases isAnnounced with ⟨acked, _⟩ | ⟨unrejected, _⟩
    · exact .inl acked
    · exact .inr unrejected
  exact {
    named := fun other isAnnounced => invariant.named other (fewer other isAnnounced)
    alone := fun other isAnnounced another isToo =>
      invariant.alone other (fewer other isAnnounced) another (fewer another isToo)
    carried := fun other running live another isAnnounced =>
      invariant.carried other running live another (fewer another isAnnounced)
    served := invariant.served }

theorem Ledger.not_announced_withoutTx (state : Ledger) (tx : Tx) :
    tx ∉ (state.withoutTx tx).announced := by
  simp [Ledger.withoutTx, Ledger.announced]

/-- The first announced transaction of a job. -/
theorem LedgerInvariant.announce (invariant : LedgerInvariant state)
    (nothing : ∀ tx ∈ state.announced, ¬ tx.job = jobId) {tx : Tx} (own : tx.job = jobId)
    (named : ∃ row, state.db.getJobById jobId = some row ∧ Named row tx) (ledger : AttemptLedger)
    (serves : ∃ job, state.db.getJobById jobId = some job ∧ ledger.channel.serves job.kind) :
    LedgerInvariant ({ state with acked := tx :: state.acked }.setExecution jobId
      (some ⟨.sending tx, ledger⟩)) := by
  have cases_of : ∀ other ∈ ({ state with acked := tx :: state.acked } : Ledger).announced,
      other = tx ∨ other ∈ state.announced := by
    intro other isAnnounced
    simpa [Ledger.announced, or_assoc] using isAnnounced
  constructor
  · intro other isAnnounced
    rcases cases_of other isAnnounced with rfl | before
    · rw [own]
      exact named
    · exact invariant.named other before
  · intro first isFirst second isSecond same
    rcases cases_of first isFirst with rfl | firstBefore
    · rcases cases_of second isSecond with rfl | secondBefore
      · rfl
      · exact absurd (same.symm.trans own) (nothing second secondBefore)
    · rcases cases_of second isSecond with rfl | secondBefore
      · exact absurd (same.trans own) (nothing first firstBefore)
      · exact invariant.alone first firstBefore second secondBefore same
  · intro other running live another isAnnounced ofOther
    simp only [Ledger.setExecution, Function.update_apply] at live
    split at live
    next same =>
      cases live
      subst same
      rcases cases_of another isAnnounced with rfl | before
      · rfl
      · exact absurd ofOther (nothing another before)
    next different =>
      rcases cases_of another isAnnounced with rfl | before
      · exact absurd (ofOther.symm.trans own) different
      · exact invariant.carried other running live another before ofOther
  · intro other running live
    simp only [Ledger.setExecution, Function.update_apply] at live
    split at live
    next same =>
      cases live
      subst same
      exact serves
    · exact invariant.served other running live

/-- Past the closing of a rejected attempt an execution carries nothing. -/
theorem Execution.not_carries_of_mayAnnounce {execution : Execution}
    (may : execution.mayAnnounce) (closed : execution.phase.givenUp = none) (tx : Tx) :
    ¬ execution.phase.Carries tx := by
  cases phase : execution.phase with
  | claimed => exact id
  | building givenUp =>
    cases givenUp with
    | none => exact id
    | some other => simp [Phase.givenUp, phase] at closed
  | _ => simp [Execution.mayAnnounce, phase] at may

@[simp] theorem RowWrite.apply_jobs (write : RowWrite) (db : JobDb) (rowId : Nat) :
    (write.apply db rowId).jobs = db.jobs := by
  cases write <;> rfl

theorem startJob_preserves (db : JobDb) (new : NewJob) {exempt : Tx → Prop} :
    Preserves exempt db { db with jobs := db.jobs.insert new.row } :=
  Table.evolves_insert KeepsNames.refl new.row

/-- A write keeps every row that names an announced transaction. -/
theorem DbWrite.preserves {event : LedgerEvent} {after : JobDb} (write : DbWrite state event after)
    (invariant : LedgerInvariant state) (allowed : NoOpenRebuild state event) :
    ∃ exempt, Preserves exempt state.db after ∧ ∀ tx ∈ state.announced, ¬ exempt tx := by
  have same (jobs : after.jobs = state.db.jobs) :
      ∃ exempt, Preserves exempt state.db after ∧ ∀ tx ∈ state.announced, ¬ exempt tx :=
    ⟨fun _ => False, Preserves.of_jobs jobs, fun _ _ => id⟩
  have any {writes : Nat → JobWrite → Prop} (wrote : Wrote writes state.db after)
      (keeps : ∀ id write, writes id write → ∀ tx, ¬ write.forgets tx) :
      ∃ exempt, Preserves exempt state.db after ∧ ∀ tx ∈ state.announced, ¬ exempt tx :=
    ⟨fun _ => False, wrote.preserves fun id write may tx _ => keeps id write may tx, fun _ _ => id⟩
  have one {jobId : Nat} {write : JobWrite} (wrote : Wrote (onlyRow jobId write) state.db after)
      (keeps : ∀ tx ∈ state.announced, tx.job = jobId → ¬ write.forgets tx) :
      ∃ exempt, Preserves exempt state.db after ∧ ∀ tx ∈ state.announced, ¬ exempt tx := by
    refine ⟨fun tx => tx.job = jobId ∧ write.forgets tx, wrote.preserves ?_, ?_⟩
    · rintro _ _ ⟨rfl, rfl⟩ tx own forgets
      exact ⟨own, forgets⟩
    · exact fun tx isAnnounced forgets => keeps tx isAnnounced forgets.1 forgets.2
  cases write with
  | unchanged | changeGrants | insertRow => exact same rfl
  | startJob new may => exact ⟨fun _ => False, startJob_preserves _ new, fun _ _ => id⟩
  | supersede replaced => exact any (supersedeQueuedJobs_wrote _ _) fun _ _ => JobWrite.frees.keeps
  | reclaim jobId => exact any (reclaimLease_wrote _ _) fun _ _ => JobWrite.frees.keeps
  | recover worker count =>
    exact ⟨fun _ => False, recoverFirst_preserves _ _, fun _ _ => id⟩
  | dropPending sessionIds => exact any (dropPendingJobs_wrote _ _) fun _ _ => JobWrite.frees.keeps
  | claim marked => exact one (markRunning_wrote marked) fun _ _ _ => id
  | crossBoundary live marked =>
    exact one (markJobExternalExecution_wrote marked) fun _ _ _ => id
  | announce live may _ _ announced =>
    have closed := Execution.not_carries_of_mayAnnounce may (allowed _ live)
    exact one (AttemptLedger.onSubmitIntent_wrote announced) fun tx isAnnounced own =>
      absurd own (invariant.nothing live closed tx isAnnounced)
  | closeRejected live phase rejected =>
    refine one (AttemptLedger.reject_wrote rejected) fun tx isAnnounced own => ?_
    have carried := invariant.carried _ _ live tx isAnnounced own
    rw [phase] at carried
    exact carried.elim
  | closeGivenUp live phase => exact same (closeRow_jobs _ _ _)
  | reportSubmitted live phase marked =>
    refine one (markJobSubmitted_wrote marked) fun tx isAnnounced own => not_not.mpr ?_
    have carried := invariant.carried _ _ live tx isAnnounced own
    rwa [phase] at carried
  | writeRow write => exact same (write.apply_jobs _ _)
  | persist live phase marked => exact one (markSucceeded_wrote marked) fun _ _ _ => id
  | persistFailure live phase marked =>
    exact one (markFailed_wrote marked) fun _ _ _ => not_not.mpr rfl
  | @settle _ _ verdict _ _ live phase marked =>
    cases verdict with
    | fail code =>
      refine one (markFailed_wrote marked) fun tx isAnnounced own => ?_
      have carried := invariant.carried _ _ live tx isAnnounced own
      rw [phase] at carried
      exact carried.elim
    | park code =>
      refine one (markReconciliationRequired_wrote marked) fun tx isAnnounced own => ?_
      have carried := invariant.carried _ _ live tx isAnnounced own
      rwa [phase] at carried
  | confirm answer live phase => exact one finalizeIdentifierKeyedJob_wrote fun _ _ _ => id
  | @lookup _ lookup _ margin isLookup =>
    apply any (lookup.write_wrote _ margin)
    rintro _ _ ⟨_, ⟨_, _, _, rfl⟩ | ⟨_, _, rfl⟩⟩ _ <;> exact id
  | rollUp isRollUp isAggregate => exact one (writeAggregate_wrote _ _ _) fun _ _ _ => id
  | reconcileParent parentId =>
    apply any (reconcileParent_wrote _ _)
    rintro _ _ (rfl | rfl) _ <;> exact id
  | settleRejected found awaits =>
    exact one (settleRejectedSponsorAttempt_wrote _ _) fun _ _ _ => id

theorem LedgerInvariant.written (invariant : LedgerInvariant state) {event : LedgerEvent}
    {after : JobDb} (allowed : NoOpenRebuild state event) (write : DbWrite state event after) :
    LedgerInvariant { state with db := after } := by
  obtain ⟨exempt, keeps, outside⟩ := write.preserves invariant allowed
  exact invariant.preserved keeps outside rfl rfl

/-- A phase an execution passes to carries what is announced. A failed execution is parked
when a transaction of its job is announced. -/
theorem LedgerInvariant.carries (invariant : LedgerInvariant state)
    (live : state.executions jobId = some execution) {phase : Phase}
    (step : PhaseStep state.db jobId execution phase) :
    ∀ tx ∈ state.announced, tx.job = jobId → phase.Carries tx := by
  intro tx isAnnounced own
  have carried := invariant.carried jobId execution live tx isAnnounced own
  cases step with
  | crosses claimed =>
    rw [claimed] at carried
    exact carried.elim
  | givesUp sending | reports sending => rwa [sending] at carried
  | works | returns | notSaved => exact True.intro
  | throws closing =>
    rintro rfl
    obtain ⟨other, rejected⟩ := closing rfl
    rw [rejected] at carried
    exact carried
  | parksWorkflow | unconfirmed => simp [Phase.Carries]
  | @decides error threw =>
    obtain ⟨job, found, named⟩ := invariant.named tx isAnnounced
    rw [own] at found
    have hash : job.txHash.isSome := by
      have isTx := named.names.hash
      cases recorded : job.txHash with
      | none => simp [recorded] at isTx
      | some txHash => rfl
    rw [threw] at carried
    simp only [verdictOf, found, Option.bind_some, hash, if_true]
    cases error with
    | bookkeepingPending => exact absurd rfl carried
    | failure failure => cases failure <;> simp [Phase.Carries]

/-- A claimed job is served by its channel. -/
theorem LedgerInvariant.claims (invariant : LedgerInvariant state) {channel : Channel}
    {event : LedgerEvent} {job : BackgroundJob} {after : JobDb}
    (allowed : NoOpenRebuild state event) (write : DbWrite state event after)
    (found : state.db.getJobById jobId = some job) (serves : channel.serves job.kind)
    {phase : Phase} (carries : ∀ tx ∈ state.announced, tx.job = jobId → phase.Carries tx) :
    LedgerInvariant ({ state with db := after }.setExecution jobId
      (some ⟨phase, .initial channel job.grantId⟩)) := by
  apply (invariant.written allowed write).begins
  · exact carries
  obtain ⟨exempt, keeps, _⟩ := write.preserves invariant allowed
  obtain ⟨row, foundRow, kept⟩ := keeps jobId job found
  exact ⟨row, foundRow, kept.kind ▸ serves⟩

/-- Every event of an execution keeps the invariant. -/
theorem Turn.invariant {event : ExecutionEvent} {next : Ledger}
    (turn : Turn state jobId event next) (invariant : LedgerInvariant state)
    (allowed : NoOpenRebuild state (.execution jobId event)) : LedgerInvariant next := by
  have written {after : JobDb} (write : DbWrite state (.execution jobId event) after) :
      LedgerInvariant { state with db := after } := invariant.written allowed write
  cases turn with
  | stays => exact invariant
  | writes write => exact written write
  | claims found serves marked =>
    refine invariant.claims allowed (.claim marked) found serves ?_
    intro tx isAnnounced own
    obtain ⟨row, foundRow, pending⟩ :=
      Table.affects_iff.mp (JobDb.updateJob_eq_some marked).1
    exact absurd own (invariant.nothing_of_pending foundRow (of_decide_eq_true pending) tx
      isAnnounced)
  | notClaimed found serves write =>
    refine invariant.claims allowed write found serves ?_
    simp [Phase.Carries, Thrown.other]
  | @moves _ execution _ _ live write step =>
    exact (written write).begins jobId _ (invariant.carries live step)
      ((written write).served jobId execution live)
  | asks live => exact invariant.becomes live _ rfl fun _ _ => True.intro
  | ends write => exact (written write).ends jobId
  | insertsRow live free =>
    exact (written (.insertRow _ _ live free)).becomes live _ rfl fun _ => id
  | @announces execution _ _ _ live may own free announced =>
    have named := written (.announce live may own free announced)
    obtain ⟨job, found, serves⟩ := invariant.served jobId _ live
    have step := Channel.not_parent_of_serves serves (Execution.not_workflow_of_mayAnnounce may)
    exact named.announce
      (invariant.nothing live (Execution.not_carries_of_mayAnnounce may (allowed _ live))) own
      (AttemptLedger.onSubmitIntent_names announced found step) _
      (named.served jobId execution live)
  | @rejects execution tx live sending =>
    refine (invariant.withoutTx tx).begins jobId _ ?_ (invariant.served jobId execution live)
    intro other isAnnounced own
    have carried :=
      (invariant.withoutTx tx).carried jobId execution live other isAnnounced own
    rw [sending] at carried
    exact absurd isAnnounced (carried ▸ state.not_announced_withoutTx tx)
  | closes live rejected write =>
    refine (written write).becomes live _ rfl ?_
    rw [rejected]
    exact fun _ => False.elim
  | reopens live givingUp write =>
    refine (written write).becomes live _ rfl ?_
    rw [givingUp]
    exact fun _ => id

end Executions

/-! ## The other events -/

section Events

variable {state : Ledger}

/-- The memory of the reconciler is no part of the invariant. -/
theorem LedgerInvariant.remembers (invariant : LedgerInvariant state)
    (pass : Option ConfirmPass) (lookups : List Lookup) (rollUps : List RollUp) :
    LedgerInvariant { state with pass, lookups, rollUps } :=
  ⟨invariant.named, invariant.alone, invariant.carried, invariant.served⟩

/-- The next process has no executions and no transaction of its own to send. -/
theorem restartLedger_invariant (invariant : LedgerInvariant state) (worker count : Nat) :
    LedgerInvariant (restartLedger state worker count) where
  named := by
    intro tx isAnnounced
    have before : tx ∈ state.announced := List.mem_append_right _ isAnnounced
    rcases invariant.named tx before with ⟨job, found, named⟩
    have keeps : Preserves (fun _ => False) state.db (recoverFirst state.db count) :=
      recoverFirst_preserves state.db count
    rcases keeps tx.job job found with ⟨row, foundRow, kept⟩
    exact ⟨row, foundRow, kept.named tx (Table.key_of_find? found).symm id named⟩
  alone := by
    intro tx isAnnounced other isToo
    exact invariant.alone tx (List.mem_append_right _ isAnnounced) other
      (List.mem_append_right _ isToo)
  carried := by
    intro jobId execution impossible
    cases impossible
  served := by
    intro jobId execution impossible
    cases impossible

/-- A broadcast transaction was announced before. -/
theorem broadcast_invariant (invariant : LedgerInvariant state) (tx : Tx) :
    LedgerInvariant (ledgerStep state (.broadcast tx)) := by
  simp only [ledgerStep]
  split
  next acked =>
    have before : ∀ other ∈ ({ state with
        acked := state.acked.filter (· ≠ tx)
        unrejected := tx :: state.unrejected } : Ledger).announced,
        other ∈ state.announced := by
      intro other isAnnounced
      simp only [Ledger.announced, List.mem_append, List.mem_filter, List.mem_cons]
        at isAnnounced ⊢
      rcases isAnnounced with ⟨isAcked, _⟩ | rfl | unrejected
      · exact .inl isAcked
      · exact .inl acked
      · exact .inr unrejected
    exact {
      named := fun other isAnnounced => invariant.named other (before other isAnnounced)
      alone := fun other isAnnounced another isToo =>
        invariant.alone other (before other isAnnounced) another (before another isToo)
      carried := fun other running live another isAnnounced =>
        invariant.carried other running live another (before another isAnnounced)
      served := invariant.served }
  · exact invariant

theorem ledgerStep_invariant (state : Ledger) (event : LedgerEvent)
    (invariant : LedgerInvariant state) (allowed : NoOpenRebuild state event) :
    LedgerInvariant (ledgerStep state event) := by
  have written {after : JobDb} (write : DbWrite state event after) :
      LedgerInvariant { state with db := after } := invariant.written allowed write
  cases event with
  | startJob new =>
    simp only [ledgerStep]
    split
    next may => exact written (.startJob new may)
    · exact invariant
  | supersede replaced => exact written (.supersede replaced)
  | reclaim jobId => exact written (.reclaim jobId)
  | restart worker count => exact restartLedger_invariant invariant worker count
  | dropPending sessionIds => exact written (.dropPending sessionIds)
  | createGrant | changeGrant => exact written (.changeGrants _)
  | execution jobId event => exact (ledgerStep_turn state jobId event).invariant invariant allowed
  | broadcast tx => exact broadcast_invariant invariant tx
  | reconciler event =>
    rw [ledgerStep, reconcilerStep_eq]
    exact (written (reconcilerStep_writes event)).remembers _ _ _
  | rollback fromHeight =>
    have keeps : Preserves (fun _ => False) state.db (rollbackJobs state.db fromHeight) :=
      rollbackJobs_preserves state.db fromHeight
    exact invariant.preserved keeps (fun _ _ => id) rfl rfl

end Events

end Nightgate.Submission
