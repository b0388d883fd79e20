import Mathlib.Data.Fintype.Defs
import Nightgate.Submission.ReorgRuns

/-!
# Workflows and their steps

The outcome of a workflow is written once, from the outcomes of its steps. It stays
right while no rollback takes a step's inclusion back: no other update changes the
outcome of a step that succeeded on chain, and a workflow that ended starts no step.
-/

namespace Nightgate.Submission

open Library

/-! ## The claim -/

/-- A workflow that reports success has only successful steps among those it submitted. -/
def ParentsAgree (state : Ledger) : Prop :=
  ∀ parent ∈ state.db.jobs.rows, parent.kind.workflowParent → parent.status = .succeeded →
    parent.chainStatus = some .success → ∀ child ∈ state.db.jobs.rows,
      child.parentJobId = some parent.ID → child.txHash.isSome → child.chainStatus = some .success

instance (state : Ledger) : Decidable (ParentsAgree state) := by
  unfold ParentsAgree
  infer_instance

/-- The workflow of a step reports success. -/
def reportsSuccess (db : JobDb) (parentId : Nat) : Bool :=
  db.jobs.affects parentId fun parent =>
    parent.kind.workflowParent && parent.chainStatus = some .success

/-- A roll-up found all steps of a workflow successful and writes that next. -/
def rollsUpSuccess (rollUps : List RollUp) (parentId : Nat) : Bool :=
  rollUps.any fun rollUp =>
    rollUp.parentId = parentId && rollUp.aggregate = some .success

/-- No rollback takes back the inclusion of a step whose workflow reports success or is
about to. -/
def NoHiddenRollback (state : Ledger) : LedgerEvent → Prop
  | .rollback fromHeight =>
    ∀ child ∈ state.db.jobs.rows, atOrAbove fromHeight child.evidence →
      ∀ parentId ∈ child.parentJobId, reportsSuccess state.db parentId = false ∧
          rollsUpSuccess state.rollUps parentId = false
  | _ => True

instance (state : Ledger) (event : LedgerEvent) : Decidable (NoHiddenRollback state event) := by
  unfold NoHiddenRollback
  split <;> infer_instance

/-- An update keeps a job that succeeded, keeps a step's success, and reports no success of
a workflow. -/
structure Steady (job next : BackgroundJob) : Prop where
  parentJobId : next.parentJobId = job.parentJobId
  kind : next.kind = job.kind
  succeeded : job.status = .succeeded → next.status = .succeeded
  child : job.kind.workflowParent = false → job.chainStatus = some .success →
    next.chainStatus = some .success
  parent : job.kind.workflowParent → next.chainStatus = some .success →
    job.chainStatus = some .success

theorem Steady.refl (job : BackgroundJob) : Steady job job :=
  ⟨rfl, rfl, id, fun _ => id, fun _ => id⟩

theorem Steady.trans (first second third : BackgroundJob) (toSecond : Steady first second)
    (toThird : Steady second third) : Steady first third where
  parentJobId := toThird.parentJobId.trans toSecond.parentJobId
  kind := toThird.kind.trans toSecond.kind
  succeeded := fun succeeded => toThird.succeeded (toSecond.succeeded succeeded)
  child := fun step success =>
    toThird.child (toSecond.kind ▸ step) (toSecond.child step success)
  parent := fun parent success =>
    toSecond.parent parent (toThird.parent (toSecond.kind ▸ parent) success)

section Updates

variable {owner : Nat → Option Nat} {rollbacks : List (Nat × Nat)} {db after : JobDb}
  {worker jobId : Nat} {write : JobWrite} {job next : BackgroundJob}

/-- A job in progress carries no outcome. -/
theorem JobSound.noOutcome (sound : JobSound owner rollbacks job)
    (inProgress : job.status ≠ .succeeded ∧ job.status ≠ .failed)
    (step : job.kind.workflowParent = false) : ¬ job.ReportsOutcome := by
  intro outcome
  have recorded := sound.recorded step outcome
  rw [sound.bare inProgress.1 inProgress.2] at recorded
  cases recorded

/-- A change of a job in progress. -/
theorem Steady.of_inProgress (sound : JobSound owner rollbacks job)
    (inProgress : job.status ≠ .succeeded ∧ job.status ≠ .failed)
    (parentJobId : next.parentJobId = job.parentJobId) (kind : next.kind = job.kind)
    (parent : job.kind.workflowParent → next.chainStatus = some .success →
      job.chainStatus = some .success) : Steady job next where
  parentJobId := parentJobId
  kind := kind
  succeeded := fun succeeded => absurd succeeded inProgress.1
  child := fun step success => absurd (.inl success) (sound.noOutcome inProgress step)
  parent := parent

theorem JobWrite.Makes.steady (makes : write.Makes job next) (quiet : write.quiet)
    (sound : JobSound owner rollbacks job) : Steady job next := by
  refine .of_inProgress sound (makes.inProgress quiet) makes.same.2.2 makes.same.2.1 ?_
  intro _ success
  cases makes with
  | send | reject | lose | settleRejected => cases success
  | finalize | rollUp | revert => exact quiet.elim
  | _ => exact success

/-- Quiet writes of job rows. -/
theorem Wrote.steady {allowed : Nat → JobWrite → Prop} (wrote : Wrote allowed db after)
    (quiet : ∀ id write, allowed id write → write.quiet)
    (sound : db.jobs.All (JobSound owner rollbacks)) : db.jobs.Rewrites Steady after.jobs := by
  apply wrote.rewrites Steady.refl
  intro job next write found may makes
  exact makes.steady (quiet _ write may) (sound _ job found)

theorem Wrote.steadyOne (wrote : Wrote (onlyRow jobId write) db after) (quiet : write.quiet)
    (sound : db.jobs.All (JobSound owner rollbacks)) : db.jobs.Rewrites Steady after.jobs := by
  refine wrote.steady ?_ sound
  rintro _ _ ⟨_, rfl⟩
  exact quiet

theorem Wrote.steadyAll {writes : JobWrite → Prop} (wrote : Wrote (anyRow writes) db after)
    (quiet : ∀ write, writes write → write.quiet)
    (sound : db.jobs.All (JobSound owner rollbacks)) : db.jobs.Rewrites Steady after.jobs :=
  wrote.steady (fun _ => quiet) sound

theorem steady_of_jobs (same : after.jobs = db.jobs) : db.jobs.Rewrites Steady after.jobs := by
  rw [same]
  exact Table.Rewrites.refl Steady.refl db.jobs

theorem recoverFirst_steady (count : Nat) (sound : db.jobs.All (JobSound owner rollbacks)) :
    db.jobs.Rewrites Steady (recoverFirst db count).jobs := by
  refine (recoverFirst_rewrites Steady.refl Steady.trans ?_ count sound).1
  intro job next write recovers makes sound
  exact ⟨makes.steady recovers.quiet sound, sound.recovered recovers makes⟩

/-! ## Outcomes of steps -/

/-- A finalized outcome: the job is in progress, or its outcome is still open. -/
theorem finalize_steady {outcome : ChainOutcome} {start : FinalizeFrom} {evidence : ChainEvidence}
    (sound : JobSound owner rollbacks job) (step : job.kind.workflowParent = false)
    (isMatch : start.matching job)
    (isOpen : ∀ chainStatusWas, start = .succeeded chainStatusWas → chainStatusWas ≠ some .success)
    :
    Steady job ((finalizedJob outcome evidence start).set job) := by
  have notParent : ¬ job.kind.workflowParent := by simp [step]
  cases start with
  | succeeded chainStatusWas =>
    simp only [FinalizeFrom.matching, Bool.and_eq_true, decide_eq_true_eq] at isMatch
    refine ⟨rfl, rfl, fun _ => isMatch.1, ?_, fun parent => absurd parent notParent⟩
    intro _ success
    rw [isMatch.2] at success
    exact absurd success (isOpen chainStatusWas rfl)
  | reconciliationRequired =>
    have parked : job.status = .reconciliationRequired := of_decide_eq_true isMatch
    exact .of_inProgress sound (by simp [parked]) rfl rfl fun parent => absurd parent notParent
  | inFlight worker =>
    have unsettled := unsettled_of_heldBy isMatch
    exact .of_inProgress sound ⟨unsettled.1, unsettled.2.1⟩ rfl rfl
      fun parent => absurd parent notParent

/-- The row of a job that was seen is no workflow. -/
theorem Seen.step (seen : Seen owner db next) (found : db.jobs.find? next.ID = some job) :
    job.kind.workflowParent = false := by
  obtain ⟨stored, foundStored, step⟩ := seen.stored
  rw [found] at foundStored
  cases foundStored
  exact step

theorem finalizeIdentifierKeyedJob_steady {outcome : ChainOutcome} {generation : Nat}
    (sound : db.jobs.All (JobSound owner rollbacks)) (seen : Seen owner db job) :
    db.jobs.Rewrites Steady
      (finalizeIdentifierKeyedJob db job outcome (.inFlight worker) generation).jobs := by
  apply finalizeIdentifierKeyedJob_wrote.rewrites Steady.refl
  rintro row next _ found ⟨isJob, rfl⟩ makes
  cases makes with
  | finalize isMatch =>
    refine finalize_steady (sound _ row found) (seen.step (isJob ▸ found)) isMatch ?_
    intro chainStatusWas impossible
    cases impossible

/-- A lookup writes only outcomes that are still open. -/
theorem Lookup.write_steady {lookup : Lookup} (margin : Nat)
    (sound : db.jobs.All (JobSound owner rollbacks)) (seen : Seen owner db lookup.job)
    (isOpen : lookup.ofParked = false → lookup.job.chainStatus ≠ some .success) :
    db.jobs.Rewrites Steady (lookup.write db margin).jobs := by
  apply (lookup.write_wrote db margin).rewrites Steady.refl
  rintro row next _ found ⟨isJob, ⟨_, _, _, rfl⟩ | ⟨outcome, _, rfl⟩⟩ makes
  · exact makes.steady trivial (sound _ row found)
  · cases makes with
    | finalize isMatch =>
      refine finalize_steady (sound _ row found) (seen.step (isJob ▸ found)) isMatch ?_
      intro chainStatusWas isStart
      split at isStart
      · cases isStart
      next isSucceeded =>
        cases isStart
        exact isOpen (by simpa using isSucceeded)

/-- A roll-up without success. -/
theorem writeAggregate_steady {parentId : Nat} {aggregate : ChainStatus}
    (other : aggregate ≠ .success)
    (parent : ∃ row, db.jobs.find? parentId = some row ∧ row.kind.workflowParent) :
    db.jobs.Rewrites Steady (writeAggregate db parentId aggregate).jobs := by
  apply Table.rewrites_update Steady.refl
  intro job found _
  rcases parent with ⟨row, foundRow, isParent⟩
  rw [found] at foundRow
  cases foundRow
  refine ⟨rfl, rfl, id, ?_, ?_⟩
  · intro step
    simp [isParent] at step
  · intro _ success
    exact absurd (Option.some.inj success) other

end Updates

/-- Every write is steady, starts a job or writes the success of a workflow. -/
theorem DbWrite.steady {owner : Nat → Option Nat} {state : Ledger} {after : JobDb}
    (reorg : ReorgInvariant owner state)
    (isOpen : ∀ lookup ∈ state.lookups, lookup.ofParked = false →
      lookup.job.chainStatus ≠ some .success)
    {event : LedgerEvent} (write : DbWrite state event after) :
    state.db.jobs.Rewrites Steady after.jobs ∨ (∃ new, mayStart state new ∧
        after = { state.db with jobs := state.db.jobs.insert new.row }) ∨
      ∃ rollUp ∈ state.rollUps, rollUp.aggregate = some .success ∧
        after = writeAggregate state.db rollUp.parentId .success := by
  have sound := reorg.jobs
  cases write with
  | unchanged | changeGrants | insertRow => exact .inl (steady_of_jobs rfl)
  | startJob new may => exact .inr (.inl ⟨new, may, rfl⟩)
  | supersede replaced =>
    exact .inl ((supersedeQueuedJobs_wrote _ _).steadyAll (fun _ frees => frees.quiet) sound)
  | reclaim jobId =>
    exact .inl ((reclaimLease_wrote _ _).steadyAll (fun _ frees => frees.quiet) sound)
  | recover worker count => exact .inl (recoverFirst_steady count sound)
  | dropPending sessionIds =>
    exact .inl ((dropPendingJobs_wrote _ _).steadyAll (fun _ frees => frees.quiet) sound)
  | claim marked => exact .inl ((markRunning_wrote marked).steadyOne trivial sound)
  | crossBoundary live marked =>
    exact .inl ((markJobExternalExecution_wrote marked).steadyOne trivial sound)
  | announce live may own free announced =>
    exact .inl ((AttemptLedger.onSubmitIntent_wrote announced).steadyOne trivial sound)
  | closeRejected live phase rejected =>
    exact .inl ((AttemptLedger.reject_wrote rejected).steadyOne trivial sound)
  | @closeGivenUp _ execution _ _ live phase =>
    apply Or.inl
    apply steady_of_jobs
    unfold AttemptLedger.giveUp
    cases execution.ledger.rowId <;> rfl
  | reportSubmitted live phase marked =>
    exact .inl ((markJobSubmitted_wrote marked).steadyOne trivial sound)
  | writeRow write live isRow writes ofJob =>
    apply Or.inl
    apply steady_of_jobs
    cases write <;> rfl
  | persist live phase marked => exact .inl ((markSucceeded_wrote marked).steadyOne trivial sound)
  | persistFailure live phase marked =>
    exact .inl ((markFailed_wrote marked).steadyOne trivial sound)
  | @settle _ _ verdict _ _ live phase marked =>
    cases verdict with
    | park code => exact .inl ((markReconciliationRequired_wrote marked).steadyOne trivial sound)
    | fail code => exact .inl ((markFailed_wrote marked).steadyOne trivial sound)
  | confirm answer live phase =>
    have confirming := (reorg.executions _ _ live).confirming _ _ phase
    exact .inl (finalizeIdentifierKeyedJob_steady sound confirming.2)
  | lookup margin isLookup =>
    have isHeld := List.mem_of_getElem? isLookup
    exact .inl (Lookup.write_steady margin sound (reorg.lookups _ isHeld) (isOpen _ isHeld))
  | @rollUp _ rollUp aggregate _ isRollUp isAggregate =>
    by_cases success : aggregate = .success
    · subst success
      exact .inr (.inr ⟨rollUp, isRollUp, isAggregate, rfl⟩)
    · exact .inl (writeAggregate_steady success (reorg.rollUps rollUp isRollUp))
  | reconcileParent parentId =>
    refine .inl ((reconcileParent_wrote _ _).steadyAll ?_ sound)
    rintro _ (rfl | rfl) <;> trivial
  | settleRejected found awaits =>
    exact .inl ((settleRejectedSponsorAttempt_wrote _ _).steadyOne trivial sound)

/-- All steps of a workflow that are no workflows themselves succeeded on chain. -/
def ChildrenSucceeded (db : JobDb) (parentId : Nat) : Prop :=
  db.jobs.All fun child => child.parentJobId = some parentId →
    child.kind.workflowParent = false → child.chainStatus = some .success

/-- A workflow reports success only after it ended, with all its steps successful. -/
def ParentsHold (db : JobDb) : Prop :=
  ∀ parentId parent, db.jobs.find? parentId = some parent → parent.kind.workflowParent →
    parent.chainStatus = some .success → parent.status = .succeeded ∧ ChildrenSucceeded db parentId

/-- A roll-up looks at a workflow that ended, and found success only where it is. -/
def RollUpHolds (db : JobDb) (rollUp : RollUp) : Prop :=
  (∃ parent, db.jobs.find? rollUp.parentId = some parent ∧ parent.status = .succeeded) ∧
    (rollUp.aggregate = some .success → ChildrenSucceeded db rollUp.parentId)

structure ParentsInvariant (state : Ledger) : Prop where
  parents : ParentsHold state.db
  rollUps : ∀ rollUp ∈ state.rollUps, RollUpHolds state.db rollUp
  lookups : ∀ lookup ∈ state.lookups, lookup.ofParked = false →
    lookup.job.chainStatus ≠ some .success
  pass : ∀ pass ∈ state.pass, ∀ job ∈ pass.succeeded, job.chainStatus ≠ some .success

section Invariant

variable {owner : Nat → Option Nat} {state : Ledger} {db after : JobDb}

theorem ChildrenSucceeded.steady {parentId : Nat} (children : ChildrenSucceeded db parentId)
    (steady : db.jobs.Rewrites Steady after.jobs) : ChildrenSucceeded after parentId := by
  intro id next found own step
  rcases steady.of_find? found with ⟨job, foundJob, kept⟩
  rw [kept.kind] at step
  rw [kept.parentJobId] at own
  exact kept.child step (children id job foundJob own step)

theorem ParentsHold.steady (parents : ParentsHold db)
    (steady : db.jobs.Rewrites Steady after.jobs) : ParentsHold after := by
  intro parentId next found isParent success
  rcases steady.of_find? found with ⟨parent, foundParent, kept⟩
  rw [kept.kind] at isParent
  rcases parents parentId parent foundParent isParent (kept.parent isParent success) with
    ⟨succeeded, children⟩
  exact ⟨kept.succeeded succeeded, children.steady steady⟩

variable {rollUp : RollUp}

theorem RollUpHolds.steady (holds : RollUpHolds db rollUp)
    (steady : db.jobs.Rewrites Steady after.jobs) : RollUpHolds after rollUp := by
  rcases holds with ⟨⟨parent, found, succeeded⟩, children⟩
  rcases steady.find? found with ⟨next, foundNext, kept⟩
  exact ⟨⟨next, foundNext, kept.succeeded succeeded⟩,
    fun success => (children success).steady steady⟩

variable {new : NewJob}

/-- A workflow that ended starts no step. -/
theorem not_mayStart_of_succeeded (reorg : ReorgInvariant owner state)
    (may : mayStart state new) {parentId : Nat} (isParent : new.parentJobId = some parentId)
    {parent : BackgroundJob} (found : state.db.jobs.find? parentId = some parent) :
    parent.status ≠ .succeeded := by
  intro succeeded
  simp only [mayStart, isParent, Option.any_eq_true] at may
  rcases may with ⟨execution, live, running⟩
  simp only [Bool.and_eq_true, decide_eq_true_eq] at running
  rcases (reorg.executions parentId execution live).job with ⟨job, foundJob, _, unsettled⟩
  rw [found] at foundJob
  cases foundJob
  have writes : execution.phase.writesRow := by
    rw [running.1]
    rfl
  exact unsettled writes (.inr (.inl succeeded))

theorem ChildrenSucceeded.startJob {parentId : Nat}
    (children : ChildrenSucceeded db parentId) (other : new.parentJobId ≠ some parentId) :
    ChildrenSucceeded { db with jobs := db.jobs.insert new.row } parentId := by
  apply Table.All.insert children
  exact fun own => absurd own other

theorem ParentsHold.startJob (reorg : ReorgInvariant owner state)
    (may : mayStart state new) (parents : ParentsHold state.db) :
    ParentsHold { state.db with jobs := state.db.jobs.insert new.row } := by
  intro parentId parent found isParent success
  rcases Table.of_find?_insert found with ⟨_, _, rfl⟩ | before
  · cases success
  · rcases parents parentId parent before isParent success with ⟨succeeded, children⟩
    refine ⟨succeeded, children.startJob ?_⟩
    exact fun own => not_mayStart_of_succeeded reorg may own before succeeded

theorem RollUpHolds.startJob (reorg : ReorgInvariant owner state)
    (may : mayStart state new) (holds : RollUpHolds state.db rollUp) :
    RollUpHolds { state.db with jobs := state.db.jobs.insert new.row } rollUp := by
  rcases holds with ⟨⟨parent, found, succeeded⟩, children⟩
  refine ⟨⟨parent, Table.find?_insert_of_find? found, succeeded⟩, ?_⟩
  intro success
  apply (children success).startJob
  exact fun own => not_mayStart_of_succeeded reorg may own found succeeded

/-- The success of a workflow does not touch its steps. -/
theorem ChildrenSucceeded.rolledUp {parentId writtenId : Nat}
    (children : ChildrenSucceeded db parentId) :
    ChildrenSucceeded (writeAggregate db writtenId .success) parentId := by
  apply Table.All.update children
  intro child _ _ _ _ _
  rfl

theorem ParentsHold.rolledUp (parents : ParentsHold db)
    (holds : RollUpHolds db rollUp) (success : rollUp.aggregate = some .success) :
    ParentsHold (writeAggregate db rollUp.parentId .success) := by
  intro parentId next found isParent isSuccess
  rcases Table.of_find?_update found with ⟨before, foundBefore, ⟨rfl, isMatch, rfl⟩ | rfl⟩
  · exact ⟨of_decide_eq_true isMatch, (holds.2 success).rolledUp⟩
  · rcases parents parentId next foundBefore isParent isSuccess with ⟨succeeded, children⟩
    exact ⟨succeeded, children.rolledUp⟩

theorem RollUpHolds.rolledUp {writtenId : Nat} (holds : RollUpHolds db rollUp) :
    RollUpHolds (writeAggregate db writtenId .success) rollUp := by
  rcases holds with ⟨⟨parent, found, succeeded⟩, children⟩
  refine ⟨?_, fun success => (children success).rolledUp⟩
  have steps : db.jobs.Evolves (fun job next => job.status = .succeeded →
      next.status = .succeeded) (writeAggregate db writtenId .success).jobs :=
    Table.evolves_update (fun _ => id) fun _ _ isMatch _ => of_decide_eq_true isMatch
  rcases steps rollUp.parentId parent found with ⟨next, foundNext, kept⟩
  exact ⟨next, foundNext, kept succeeded⟩

variable {fromHeight : Nat}

theorem revertedJob_below {job : BackgroundJob}
    (below : atOrAbove fromHeight job.evidence = false) : revertedJob fromHeight job = job := by
  simp [revertedJob, below]

theorem revertedJob_succeeded {job : BackgroundJob} (succeeded : job.status = .succeeded) :
    (revertedJob fromHeight job).status = .succeeded := by
  unfold revertedJob
  split
  next failed => simp [succeeded] at failed
  · split <;> exact succeeded

theorem ChildrenSucceeded.rolledBack {parentId fromHeight : Nat}
    (children : ChildrenSucceeded db parentId)
    (below : ∀ child ∈ db.jobs.rows, child.parentJobId = some parentId →
      atOrAbove fromHeight child.evidence = false) :
    ChildrenSucceeded (rollbackJobs db fromHeight) parentId := by
  intro id next found own step
  have reverted := (rollbackJobs_getJobById db fromHeight id).symm.trans found
  rcases Option.map_eq_some_iff.mp reverted with ⟨child, foundChild, rfl⟩
  have ownBefore : child.parentJobId = some parentId := by
    rwa [revertedJob_parentJobId] at own
  rw [revertedJob_below (below child (Table.mem_of_find? foundChild) ownBefore)] at step ⊢
  exact children id child foundChild ownBefore step

/-- The steps of a workflow that reports success, or is about to, stay included. -/
theorem NoHiddenRollback.below {fromHeight parentId : Nat}
    (allowed : NoHiddenRollback state (.rollback fromHeight))
    (watched : reportsSuccess state.db parentId ∨ rollsUpSuccess state.rollUps parentId) :
    ∀ child ∈ state.db.jobs.rows, child.parentJobId = some parentId →
      atOrAbove fromHeight child.evidence = false := by
  intro child stored own
  cases reached : atOrAbove fromHeight child.evidence with
  | false => rfl
  | true =>
    rcases allowed child stored reached parentId own with ⟨reports, rollsUp⟩
    rcases watched with watched | watched
    · rw [reports] at watched
      cases watched
    · rw [rollsUp] at watched
      cases watched

theorem ParentsHold.rolledBack (reorg : ReorgInvariant owner state)
    (allowed : NoHiddenRollback state (.rollback fromHeight))
    (parents : ParentsHold state.db) : ParentsHold (rollbackJobs state.db fromHeight) := by
  intro parentId next found isParent success
  have reverted := (rollbackJobs_getJobById state.db fromHeight parentId).symm.trans found
  rcases Option.map_eq_some_iff.mp reverted with ⟨parent, foundParent, rfl⟩
  rw [revertedJob_kind] at isParent
  have bare := ((reorg.jobs parentId parent foundParent).parent isParent).2
  rw [revertedJob_below (by simp [bare])] at success ⊢
  rcases parents parentId parent foundParent isParent success with ⟨succeeded, children⟩
  refine ⟨succeeded, children.rolledBack (allowed.below (.inl ?_))⟩
  exact Table.affects_iff.mpr ⟨parent, foundParent, by simp [isParent, success]⟩

theorem RollUpHolds.rolledBack (allowed : NoHiddenRollback state (.rollback fromHeight))
    (isRollUp : rollUp ∈ state.rollUps) (holds : RollUpHolds state.db rollUp) :
    RollUpHolds (rollbackJobs state.db fromHeight) rollUp := by
  rcases holds with ⟨⟨parent, found, succeeded⟩, children⟩
  refine ⟨⟨revertedJob fromHeight parent, ?_, revertedJob_succeeded succeeded⟩, ?_⟩
  · have foundJob : state.db.getJobById rollUp.parentId = some parent := found
    exact (rollbackJobs_getJobById state.db fromHeight rollUp.parentId).trans
      (by rw [foundJob]; rfl)
  · intro success
    apply (children success).rolledBack (allowed.below (.inr _))
    exact List.any_eq_true.mpr ⟨rollUp, isRollUp, by simp [success]⟩

end Invariant

/-- A success adds up from successes. -/
theorem aggregate_success {db : JobDb} {parentId : Nat}
    (success : aggregateChainStatus (childrenOf db parentId) = .success)
    {child : BackgroundJob} (stored : child ∈ db.jobs.rows)
    (own : child.parentJobId = some parentId) : child.chainStatus = some .success := by
  have isChild : child ∈ childrenOf db parentId :=
    List.mem_filter.mpr ⟨stored, by simp [own]⟩
  unfold aggregateChainStatus at success
  split at success
  · cases success
  · split at success
    next all => exact of_decide_eq_true (List.all_eq_true.mp all child isChild)
    · cases success

/-! ## Steps -/

section Steps

variable {owner : Nat → Option Nat} {state : Ledger}

/-- The tables after a write. -/
theorem ParentsInvariant.written (invariant : ParentsInvariant state)
    (reorg : ReorgInvariant owner state) {event : LedgerEvent} {after : JobDb}
    (write : DbWrite state event after) :
    ParentsHold after ∧ ∀ rollUp, RollUpHolds state.db rollUp → RollUpHolds after rollUp := by
  rcases write.steady reorg invariant.lookups with
    steady | ⟨new, may, rfl⟩ | ⟨written, isRollUp, success, rfl⟩
  · exact ⟨invariant.parents.steady steady, fun rollUp holds => holds.steady steady⟩
  · exact ⟨invariant.parents.startJob reorg may, fun rollUp holds => holds.startJob reorg may⟩
  · exact ⟨invariant.parents.rolledUp (invariant.rollUps written isRollUp) success,
      fun rollUp holds => holds.rolledUp⟩

/-- What the reconciler has read of workflows and of succeeded jobs. -/
theorem Remembers.parents {next : Ledger} (remembers : Remembers state next)
    (invariant : ParentsInvariant state) :
    (∀ rollUp ∈ next.rollUps, RollUpHolds state.db rollUp) ∧
      (∀ lookup ∈ next.lookups, lookup.ofParked = false → lookup.job.chainStatus ≠ some .success) ∧
      ∀ pass ∈ next.pass, ∀ job ∈ pass.succeeded, job.chainStatus ≠ some .success := by
  refine ⟨?_, ?_, ?_⟩
  · intro rollUp isRollUp
    cases remembers.rollUps rollUp isRollUp with
    | kept held => exact invariant.rollUps rollUp held
    | @read _ parent found awaits =>
      simp only [awaitsRollUp, Bool.and_eq_true, decide_eq_true_eq] at awaits
      exact ⟨⟨parent, found, awaits.1.1⟩, by simp⟩
    | @counted before held =>
      refine ⟨(invariant.rollUps before held).1, ?_⟩
      intro success id child found own _
      exact aggregate_success (Option.some.inj success) (Table.mem_of_find? found) own
  · intro lookup isLookup
    cases remembers.lookups lookup isLookup with
    | kept held => exact invariant.lookups lookup held
    | ofParked held read => simp
    | ofSucceeded held read => exact fun _ => invariant.pass _ held _ read
    | @answered before held => exact invariant.lookups before held
  · intro pass isPass
    cases remembers.pass pass isPass with
    | kept held => exact invariant.pass pass held
    | @reread before held => exact invariant.pass before held
    | started parked succeeded =>
      intro job isJob
      have isMatch := (List.mem_filter.mp isJob).2
      simp only [awaitsOutcome, Bool.and_eq_true, Bool.or_eq_true, decide_eq_true_eq]
        at isMatch
      rcases isMatch.1.2 with pending | none
      · simp [pending]
      · simp [none]

theorem ParentsInvariant.step (invariant : ParentsInvariant state)
    (reorg : ReorgInvariant owner state) (event : LedgerEvent)
    (allowed : NoHiddenRollback state event) : ParentsInvariant (ledgerStep state event) := by
  by_cases isRollback : ∃ fromHeight, event = .rollback fromHeight
  · rcases isRollback with ⟨fromHeight, rfl⟩
    exact ⟨invariant.parents.rolledBack reorg allowed,
      fun rollUp isRollUp => (invariant.rollUps rollUp isRollUp).rolledBack allowed isRollUp,
      invariant.lookups, invariant.pass⟩
  · have tables := invariant.written reorg (ledgerStep_writes state event
      fun fromHeight isEvent => isRollback ⟨fromHeight, isEvent⟩)
    obtain ⟨rollUps, lookups, pass⟩ := (ledgerStep_remembers state event).parents invariant
    exact ⟨tables.1, fun rollUp isRollUp => tables.2 rollUp (rollUps rollUp isRollUp), lookups,
      pass⟩

end Steps

theorem ParentsInvariant.initial (worker : Nat) :
    ParentsInvariant (Ledger.initial worker) where
  parents := by
    intro parentId parent impossible
    cases impossible
  rollUps := by simp [Ledger.initial]
  lookups := by simp [Ledger.initial]
  pass := by simp [Ledger.initial]

/-! ## Runs -/

/-- In every run without a hidden rollback, workflows agree with their steps. -/
theorem parents_agree_with_children (worker : Nat) (events : List LedgerEvent)
    (shown : Along ledgerStep NoHiddenRollback (Ledger.initial worker) events) :
    ParentsAgree (run ledgerStep (Ledger.initial worker) events) := by
  have keeps : ∀ state event, ReorgSafe state ∧ ParentsInvariant state →
      NoHiddenRollback state event →
        ReorgSafe (ledgerStep state event) ∧ ParentsInvariant (ledgerStep state event) := by
    intro state event ⟨safe, invariant⟩ allowed
    refine ⟨ledgerStep_reorg state event safe trivial, ?_⟩
    rcases safe with ⟨owner, reorg⟩
    exact invariant.step reorg event allowed
  rcases run_invariant keeps
    ⟨⟨_, ReorgInvariant.initial worker⟩, ParentsInvariant.initial worker⟩ events shown with
      ⟨⟨owner, reorg⟩, invariant⟩
  intro parent isRow isParent _ success child isChild own hash
  have foundChild := Table.find?_of_mem isChild
  have step := ((reorg.jobs _ child foundChild).seen foundChild hash).stored
  rcases step with ⟨row, foundRow, isStep⟩
  cases foundChild.symm.trans foundRow
  have children := (invariant.parents _ parent (Table.find?_of_mem isRow) isParent success).2
  exact children _ child foundChild own isStep

/-- A workflow and its one step, up to the success of both. -/
def workflowSuccess : List LedgerEvent := [
  .startJob ⟨1, ⟨true, false, false⟩, 7, some 1, none, none⟩,
  .execution 1 (.claim .workflow .committed),
  .startJob ⟨2, ⟨false, false, false⟩, 7, some 1, none, some 1⟩,
  .execution 2 (.claim .bound .committed),
  .execution 2 (.crossBoundary .committed),
  .execution 2 (.announce ⟨⟨2, 0⟩, none, 0, 20, 0⟩ .committed),
  .broadcast ⟨2, 0⟩,
  .execution 2 .workerReturns,
  .execution 2 (.reportSubmitted 1 .committed),
  .execution 2 .executorReturns,
  .execution 2 (.persist .committed),
  .execution 1 .executorReturns,
  .execution 1 (.persist .committed),
  .reconciler (.startPass [] [2]),
  .reconciler (.beginLookup 2),
  .reconciler (.answer 0 (.outcome ⟨.success, 10, none, none⟩)),
  .reconciler (.finalize 0 0 .committed),
  .reconciler .endPass,
  .reconciler (.readParent 1),
  .reconciler (.readChildren 0),
  .reconciler (.writeParent 0 .committed)]

/-- A rollback above the step's block is no hidden one. -/
theorem parents_agree_with_children_above :
    ParentsAgree (run ledgerStep (Ledger.initial 1) (workflowSuccess ++ [.rollback 11])) :=
  parents_agree_with_children 1 _ (by decide)

/-- A rollback to the step's block leaves the workflow reporting success, and no later pass
looks at it. -/
theorem rollback_hidden_behind_parent :
    ¬ ParentsAgree (run ledgerStep (Ledger.initial 1) (workflowSuccess ++ [.rollback 10,
        .reconciler (.startPass [] [2]),
        .reconciler (.beginLookup 2),
        .reconciler (.answer 0 (.absent none)),
        .reconciler (.finalize 0 0 .committed),
        .reconciler .endPass,
        .reconciler (.readParent 1)])) := by
  decide

end Nightgate.Submission
