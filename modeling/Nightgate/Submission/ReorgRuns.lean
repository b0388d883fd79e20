import Nightgate.Submission.LedgerWrites
import Nightgate.Submission.ReorgOutcomes

/-!
# Runs under rollbacks

Every event keeps the rows sound. An execution that may still write on its attempt row
finds it without inclusion data, because only outcomes of ended jobs are written. The
law of the rollback counter holds in every run, without a condition.
-/

namespace Nightgate.Submission

open Library

/-- The transaction an execution sends or reports. -/
def Phase.sent : Phase → Option Tx
  | .sending tx => some tx
  | .reporting tx => some tx
  | _ => none

/-- What a live execution knows about its job and its attempt row. -/
structure ExecutionSound (owner : Nat → Option Nat) (db : JobDb) (jobId : Nat)
    (execution : Execution) : Prop where
  job : ∃ job, db.jobs.find? jobId = some job ∧ execution.ledger.channel.serves job.kind ∧
    (execution.phase.writesRow → ¬ job.Settled)
  row : ∀ rowId ∈ execution.ledger.rowId, owner rowId = some jobId ∧
    ∃ row, db.submissions.find? rowId = some row ∧ (execution.phase.writesRow → row.evidence = none)
  sent : ∀ tx ∈ execution.phase.sent, tx.job = jobId ∧ execution.ledger.channel ≠ .workflow
  confirming : ∀ job generation, execution.phase = .confirming job generation →
    job.ID = jobId ∧ Seen owner db job

structure ReorgInvariant (owner : Nat → Option Nat) (state : Ledger) : Prop where
  jobs : state.db.jobs.All (JobSound owner state.rollbacks)
  rows : state.db.submissions.All (RowSound owner state.rollbacks)
  allotted : ∀ rowId, state.db.submissions.find? rowId = none → owner rowId = none
  counted : ∀ rollback ∈ state.rollbacks, rollback.2 ≤ state.db.reorgGeneration
  executions : ∀ jobId, ∀ execution ∈ state.executions jobId,
    ExecutionSound owner state.db jobId execution
  pass : ∀ pass ∈ state.pass, ∀ job ∈ pass.parked ++ pass.succeeded, Seen owner state.db job
  lookups : ∀ lookup ∈ state.lookups, Seen owner state.db lookup.job
  rollUps : ∀ rollUp ∈ state.rollUps, ∃ row,
    state.db.jobs.find? rollUp.parentId = some row ∧ row.kind.workflowParent

theorem ReorgInvariant.initial (worker : Nat) :
    ReorgInvariant (fun _ => none) (Ledger.initial worker) where
  jobs := Table.All.empty
  rows := Table.All.empty
  allotted := fun _ _ => rfl
  counted := by simp [Ledger.initial]
  executions := by simp [Ledger.initial]
  pass := by simp [Ledger.initial]
  lookups := by simp [Ledger.initial]
  rollUps := by simp [Ledger.initial]

section Steps

variable {owner larger : Nat → Option Nat} {state : Ledger} {exempt : Nat → Prop}
  {db after : JobDb} {jobId : Nat} {execution : Execution}

theorem Seen.evolves {job : BackgroundJob} (seen : Seen owner db job)
    (grows : ∀ rowId jobId, owner rowId = some jobId → larger rowId = some jobId)
    (calm : db.jobs.Evolves (Calm exempt) after.jobs) : Seen larger after job where
  stored := by
    rcases seen.stored with ⟨row, found, step⟩
    rcases calm job.ID row found with ⟨next, foundNext, kept⟩
    exact ⟨next, foundNext, by rw [kept.kind]; exact step⟩
  hash := seen.hash
  row := fun rowId isRow => grows rowId job.ID (seen.row rowId isRow)

theorem ExecutionSound.evolves (sound : ExecutionSound owner db jobId execution)
    (grows : ∀ rowId jobId, owner rowId = some jobId → larger rowId = some jobId)
    (calm : db.jobs.Evolves (Calm exempt) after.jobs)
    (bare : db.submissions.Evolves (KeepsBare larger exempt) after.submissions)
    (outside : execution.phase.writesRow → ¬ exempt jobId) :
    ExecutionSound larger after jobId execution where
  job := by
    rcases sound.job with ⟨job, found, serves, unsettled⟩
    rcases calm jobId job found with ⟨next, foundNext, kept⟩
    have isJob : job.ID = jobId := Table.key_of_find? found
    refine ⟨next, foundNext, by rw [kept.kind]; exact serves, ?_⟩
    intro writes
    exact kept.unsettled (isJob ▸ outside writes) (unsettled writes)
  row := by
    intro rowId isRow
    rcases sound.row rowId isRow with ⟨own, row, found, isBare⟩
    rcases bare rowId row found with ⟨next, foundNext, kept⟩
    have isId : row.ID = rowId := Table.key_of_find? found
    have ownLarger := grows rowId jobId own
    refine ⟨ownLarger, next, foundNext, ?_⟩
    intro writes
    apply kept.bare _ (isBare writes)
    intro other isOther
    rw [isId, ownLarger] at isOther
    cases isOther
    exact outside writes
  sent := sound.sent
  confirming := by
    intro job generation phase
    rcases sound.confirming job generation phase with ⟨isJob, seen⟩
    exact ⟨isJob, seen.evolves grows calm⟩

/-- A sound write, which may give out attempt rows. A job whose executor may still write on
its row is not exempt. -/
structure Growth (owner larger : Nat → Option Nat) (exempt : Nat → Prop) (state : Ledger)
    (after : JobDb) : Prop where
  grows : ∀ rowId jobId, owner rowId = some jobId → larger rowId = some jobId
  upholds : Upholds larger state.rollbacks exempt state.db after
  allotted : ∀ rowId, after.submissions.find? rowId = none → larger rowId = none
  outside : ∀ jobId, ∀ execution ∈ state.executions jobId,
    execution.phase.writesRow → ¬ exempt jobId

theorem Growth.evolves (growth : Growth owner larger exempt state after)
    (live : state.executions jobId = some execution) {new : Execution}
    (sound : ExecutionSound owner state.db jobId new)
    (writes : new.phase.writesRow → execution.phase.writesRow) :
    ExecutionSound larger after jobId new :=
  sound.evolves growth.grows growth.upholds.calm growth.upholds.bare
    fun writing => growth.outside jobId execution live (writes writing)

section Invariant

variable (invariant : ReorgInvariant owner state)

include invariant

theorem ReorgInvariant.grow (growth : Growth owner larger exempt state after) :
    ReorgInvariant larger { state with db := after } where
  jobs := growth.upholds.jobs (invariant.jobs.imp fun _ => JobSound.mono growth.grows)
  rows := growth.upholds.rows (invariant.rows.imp fun _ => RowSound.mono growth.grows)
  allotted := growth.allotted
  counted := by
    intro rollback isRollback
    have before := invariant.counted rollback isRollback
    have same := growth.upholds.generation
    dsimp only
    omega
  executions := by
    intro jobId execution live
    exact growth.evolves live (invariant.executions jobId execution live) id
  pass := by
    intro pass isPass job isJob
    exact (invariant.pass pass isPass job isJob).evolves growth.grows growth.upholds.calm
  lookups := by
    intro lookup isLookup
    exact (invariant.lookups lookup isLookup).evolves growth.grows growth.upholds.calm
  rollUps := by
    intro rollUp isRollUp
    rcases invariant.rollUps rollUp isRollUp with ⟨row, found, parent⟩
    rcases growth.upholds.calm rollUp.parentId row found with ⟨next, foundNext, kept⟩
    exact ⟨next, foundNext, by rw [kept.kind]; exact parent⟩

/-- A sound change of the tables that gives out no row. -/
theorem Growth.of_upholds
    (upholds : Upholds owner state.rollbacks exempt state.db after)
    (outside : ∀ jobId, ∀ execution ∈ state.executions jobId,
      execution.phase.writesRow → ¬ exempt jobId) :
    Growth owner owner exempt state after where
  grows := fun _ _ => id
  upholds := upholds
  allotted := by
    intro rowId free
    apply invariant.allotted rowId
    cases found : state.db.submissions.find? rowId with
    | none => rfl
    | some row =>
      rcases upholds.bare rowId row found with ⟨next, foundNext, _⟩
      rw [free] at foundNext
      cases foundNext
  outside := outside

/-- A write that exempts no job. -/
theorem Growth.all (upholds : Upholds owner state.rollbacks (fun _ => False) state.db after) :
    Growth owner owner (fun _ => False) state after :=
  .of_upholds invariant upholds fun _ _ _ _ => id

/-- A write on the row of an execution that is done with its attempt row. -/
theorem Growth.own
    (live : state.executions jobId = some execution) (done : execution.phase.writesRow = false)
    (upholds : Upholds owner state.rollbacks (· = jobId) state.db after) :
    Growth owner owner (· = jobId) state after := by
  apply Growth.of_upholds invariant upholds
  rintro _ running isLive writes rfl
  rw [live] at isLive
  cases isLive
  rw [done] at writes
  cases writes

theorem ReorgInvariant.begins {new : Execution} (sound : ExecutionSound owner state.db jobId new) :
    ReorgInvariant owner (state.setExecution jobId (some new)) :=
  { invariant with
    executions := by
      intro other running live
      simp only [Ledger.setExecution, Function.update_apply] at live
      split at live
      next same =>
        cases live
        subst same
        exact sound
      · exact invariant.executions other running live }

theorem ReorgInvariant.ends (jobId : Nat) :
    ReorgInvariant owner (state.setExecution jobId none) :=
  { invariant with
    executions := by
      intro other running live
      simp only [Ledger.setExecution, Function.update_apply] at live
      split at live
      · cases live
      · exact invariant.executions other running live }

end Invariant

/-- A phase that does and knows no more than the one before. -/
theorem ExecutionSound.within (sound : ExecutionSound owner db jobId execution) {phase : Phase}
    (writes : phase.writesRow → execution.phase.writesRow)
    (sent : ∀ tx ∈ phase.sent, execution.phase.sent = some tx)
    (confirming : ∀ job generation, phase ≠ .confirming job generation) :
    ExecutionSound owner db jobId { execution with phase } := by
  rcases sound.job with ⟨job, found, serves, unsettled⟩
  refine ⟨⟨job, found, serves, fun now => unsettled (writes now)⟩, ?_, ?_, ?_⟩
  · intro rowId isRow
    rcases sound.row rowId isRow with ⟨own, row, foundRow, bare⟩
    exact ⟨own, row, foundRow, fun now => bare (writes now)⟩
  · exact fun tx isSent => sound.sent tx (sent tx isSent)
  · exact fun job generation phase => absurd phase (confirming job generation)

/-- An execution whose attempt was closed has no row. -/
theorem ExecutionSound.closed (sound : ExecutionSound owner db jobId execution)
    (writes : execution.phase.writesRow) (givenUp : Option Tx) (rejected : Bool) :
    ExecutionSound owner db jobId ⟨.building givenUp, execution.ledger.closed rejected⟩ := by
  rcases sound.job with ⟨job, found, serves, unsettled⟩
  exact ⟨⟨job, found, serves, fun _ => unsettled writes⟩, by rintro _ ⟨⟩, by rintro _ ⟨⟩, by simp⟩

theorem PhaseStep.writesRow {phase : Phase} (step : PhaseStep db jobId execution phase)
    (writes : phase.writesRow) : execution.phase.writesRow := by
  cases step with
  | crosses phase | givesUp phase | reports phase =>
    rw [phase]
    rfl
  | works sent => rcases sent with phase | phase <;> rw [phase] <;> rfl
  | _ => cases writes

theorem PhaseStep.sound {phase : Phase} (step : PhaseStep db jobId execution phase)
    (sound : ExecutionSound owner db jobId execution) :
    ExecutionSound owner db jobId { execution with phase } := by
  apply sound.within step.writesRow
  · intro tx isSent
    cases step with
    | reports phase =>
      cases isSent
      rw [phase]
      rfl
    | _ => cases isSent
  · intro job generation isConfirming
    cases step <;> cases isConfirming

/-! ## Writes -/

/-- A fresh row is given to a job. -/
theorem Growth.allot (invariant : ReorgInvariant owner state) {rowId : Nat}
    (free : state.db.submissions.find? rowId = none)
    (upholds : Upholds (Function.update owner rowId (some jobId)) state.rollbacks
      (fun _ => False) state.db after)
    (stored : ∃ row, after.submissions.find? rowId = some row) :
    Growth owner (Function.update owner rowId (some jobId)) (fun _ => False) state after where
  grows := by
    intro other owned isOwned
    by_cases same : other = rowId
    · subst same
      rw [invariant.allotted other free] at isOwned
      cases isOwned
    · rw [Function.update_of_ne same]
      exact isOwned
  upholds := upholds
  allotted := by
    intro other isFree
    rcases stored with ⟨row, found⟩
    by_cases same : other = rowId
    · subst same
      rw [found] at isFree
      cases isFree
    · rw [Function.update_of_ne same]
      apply invariant.allotted other
      cases before : state.db.submissions.find? other with
      | none => rfl
      | some row =>
        rcases upholds.bare other row before with ⟨next, foundNext, _⟩
        rw [isFree] at foundNext
        cases foundNext
  outside := fun _ _ _ _ => id

theorem Growth.insertRow (invariant : ReorgInvariant owner state) {rowId : Nat} (now : Nat)
    (free : state.db.submissions.find? rowId = none) :
    Growth owner (Function.update owner rowId (some jobId)) (fun _ => False) state
      (insertPending state.db rowId now) := by
  apply Growth.allot invariant free _ ⟨_, Table.find?_insert_self free⟩
  apply Upholds.insertRow
  exact ⟨by simp, by simp, by simp, by simp⟩

variable {rollbacks : List (Nat × Nat)} {ledger : AttemptLedger}

/-- The row part of an announcement, under the job's own rows. -/
theorem AttemptLedger.writeRow_upholds {intent : Announcement}
    (owned : ∀ rowId ∈ ledger.targetRow intent, owner rowId = some intent.tx.job) :
    Upholds owner rollbacks exempt db (ledger.writeRow db intent) := by
  have inserted : ∀ id ∈ some intent.freshId, owner id = some intent.tx.job →
      RowSound owner rollbacks (ledger.attemptRow intent) := by
    intro id isId own
    cases isId
    refine ⟨by simp [AttemptLedger.attemptRow], by simp [AttemptLedger.attemptRow],
      by simp [AttemptLedger.attemptRow], ?_⟩
    intro txHash isHash
    cases isHash
    exact own
  unfold AttemptLedger.writeRow
  split
  next rowId channel isRow =>
    apply Upholds.updateRow _ fun _ => rfl
    intro row found sound _
    refine ⟨sound.settled, sound.recorded, sound.fresh, ?_⟩
    intro txHash isHash
    cases isHash
    have isId : row.ID = rowId := Table.key_of_find? found
    rw [isId]
    exact owned rowId (by simp [AttemptLedger.targetRow, channel, isRow])
  next channel isRow =>
    exact Upholds.insertRow (inserted _ rfl
      (owned _ (by simp [AttemptLedger.targetRow, channel, isRow])))
  next channel =>
    exact Upholds.insertRow (inserted _ rfl (owned _ (by simp [AttemptLedger.targetRow, channel])))
  · exact Upholds.refl db
  · exact Upholds.refl db

/-- The row an announcement is written to is there, without inclusion data. -/
theorem AttemptLedger.writeRow_bare {intent : Announcement}
    (free : db.submissions.find? intent.freshId = none)
    (reused : ∀ rowId ∈ ledger.rowId, ∃ row, db.submissions.find? rowId = some row ∧
      row.evidence = none) :
    ∀ rowId ∈ ledger.targetRow intent, ∃ row,
      (ledger.writeRow db intent).submissions.find? rowId = some row ∧ row.evidence = none := by
  intro rowId isTarget
  unfold AttemptLedger.targetRow at isTarget
  unfold AttemptLedger.writeRow
  cases channel : ledger.channel with
  | bound =>
    cases isRow : ledger.rowId with
    | none =>
      simp only [channel, isRow, Option.getD_none, Option.mem_def, Option.some.injEq]
        at isTarget
      subst isTarget
      exact ⟨_, Table.find?_insert_self free, rfl⟩
    | some old =>
      simp only [channel, isRow, Option.getD_some, Option.mem_def, Option.some.injEq]
        at isTarget
      subst isTarget
      rcases reused old isRow with ⟨row, found, bare⟩
      rw [Table.find?_update_self, found]
      exact ⟨_, rfl, bare⟩
  | sponsor =>
    simp only [channel, Option.mem_def, Option.some.injEq] at isTarget
    subst isTarget
    exact ⟨_, Table.find?_insert_self free, rfl⟩
  | wallet | workflow => simp [channel] at isTarget

/-- The tables after an announcement, with the row it was written to. -/
theorem announce_growth (invariant : ReorgInvariant owner state)
    (live : state.executions jobId = some execution) {intent : Announcement}
    (may : execution.mayAnnounce) (own : intent.tx.job = jobId)
    (free : state.db.submissions.find? intent.freshId = none)
    (announced : execution.ledger.onSubmitIntent state.db state.worker jobId intent = some after) :
    ∃ larger, Growth owner larger (fun _ => False) state after ∧
      ∀ rowId ∈ execution.ledger.targetRow intent, larger rowId = some jobId ∧
        ∃ row, after.submissions.find? rowId = some row ∧ row.evidence = none := by
  have sound := invariant.executions jobId execution live
  have writes : execution.phase.writesRow := Execution.writesRow_of_mayAnnounce may
  have bare : ∀ rowId ∈ execution.ledger.targetRow intent, ∃ row,
      after.submissions.find? rowId = some row ∧ row.evidence = none := by
    rcases AttemptLedger.onSubmitIntent_cases announced with ⟨reserved, _, rows, _, marked⟩
    rcases JobDb.updateJob_eq_some marked with ⟨_, rfl⟩
    rw [rows]
    apply AttemptLedger.writeRow_bare free
    intro rowId isRow
    rcases sound.row rowId isRow with ⟨_, row, found, isBare⟩
    exact ⟨row, found, isBare writes⟩
  have upholds : ∀ larger : Nat → Option Nat,
      (∀ rowId ∈ execution.ledger.targetRow intent, larger rowId = some jobId) →
        Upholds larger state.rollbacks (fun _ => False) state.db after := by
    intro larger owned
    rcases AttemptLedger.onSubmitIntent_cases announced with
      ⟨reserved, jobs, rows, generation, marked⟩
    have rowPart : Upholds larger state.rollbacks (fun _ => False) state.db
        (execution.ledger.writeRow state.db intent) :=
      AttemptLedger.writeRow_upholds (own.symm ▸ owned)
    have ownHash : (TxHash.identifier intent.tx).tx.job = jobId := own
    refine rowPart.trans ((Upholds.of_grants jobs rows generation).trans
      ((markJobBroadcastOn_wrote marked).upholdsOne trivial False.elim ?_
        (JobDb.updateJob_tables marked)))
    intro job found
    have isJob : job.ID = jobId := Table.key_of_find? found
    rw [jobs, AttemptLedger.writeRow_jobs] at found
    simp only [JobWrite.Owned, isJob]
    refine ⟨owned, ownHash, ?_⟩
    rcases sound.job with ⟨row, foundRow, serves, _⟩
    rw [found] at foundRow
    cases foundRow
    exact Channel.not_parent_of_serves serves (Execution.not_workflow_of_mayAnnounce may)
  rcases AttemptLedger.targetRow_cases execution.ledger intent with fresh | reused
  · refine ⟨Function.update owner intent.freshId (some jobId), ?_, ?_⟩
    · rcases bare intent.freshId fresh with ⟨row, found, _⟩
      apply Growth.allot invariant free (upholds _ _) ⟨row, found⟩
      intro rowId isTarget
      rw [fresh] at isTarget
      cases isTarget
      exact Function.update_self ..
    · intro rowId isTarget
      refine ⟨?_, bare rowId isTarget⟩
      rw [fresh] at isTarget
      cases isTarget
      exact Function.update_self ..
  · have owned : ∀ rowId ∈ execution.ledger.targetRow intent, owner rowId = some jobId :=
      fun rowId isTarget => (sound.row rowId (reused rowId isTarget)).1
    exact ⟨owner, .all invariant (upholds owner owned),
      fun rowId isTarget => ⟨owned rowId isTarget, bare rowId isTarget⟩⟩

/-- A row as a task read it. -/
theorem JobSound.seen {job : BackgroundJob} (sound : JobSound owner rollbacks job)
    (found : db.jobs.find? jobId = some job) (hash : job.txHash.isSome) : Seen owner db job where
  stored := by
    have isJob : job.ID = jobId := Table.key_of_find? found
    refine ⟨job, by rw [isJob]; exact found, ?_⟩
    cases parent : job.kind.workflowParent with
    | false => rfl
    | true =>
      rw [(sound.parent parent).1] at hash
      cases hash
  hash := by
    rcases Option.isSome_iff_exists.mp hash with ⟨txHash, isHash⟩
    exact ⟨txHash, isHash, sound.hash txHash isHash⟩
  row := sound.row

theorem AttemptLedger.reject_upholds {worker : Nat} {tx : Tx}
    (row : ∀ rowId ∈ ledger.rowId, owner rowId = some jobId ∧
      ∀ row, db.submissions.find? rowId = some row → row.evidence = none)
    (rejected : ledger.reject db worker jobId tx = some after) :
    Upholds owner rollbacks exempt db after := by
  have closed : Upholds owner rollbacks exempt db (closeRow db ledger.rowId .rejected) :=
    closeRow_upholds db ledger.rowId .rejected fun rowId isRow => (row rowId isRow).2
  have refunded : Upholds owner rollbacks exempt (closeRow db ledger.rowId .rejected)
      (ledger.giveBack (closeRow db ledger.rowId .rejected)) := by
    unfold AttemptLedger.giveBack
    split
    · exact Upholds.refl _
    · split
      · exact .of_grants rfl rfl rfl
      · exact Upholds.refl _
  refine closed.trans (refunded.trans ((markJobSubmissionRejectedOn_wrote rejected).upholdsOne
    trivial False.elim ?_ (JobDb.updateJob_tables rejected)))
  intro job found rowId isRow
  rw [show job.ID = jobId from Table.key_of_find? found]
  exact (row rowId isRow).1

/-- The attempt row of an execution that may write on it. -/
theorem ExecutionSound.bareRow (sound : ExecutionSound owner db jobId execution)
    (writes : execution.phase.writesRow) :
    ∀ rowId ∈ execution.ledger.rowId, owner rowId = some jobId ∧
      ∀ row, db.submissions.find? rowId = some row → row.evidence = none := by
  intro rowId isRow
  rcases sound.row rowId isRow with ⟨own, row, found, bare⟩
  refine ⟨own, ?_⟩
  intro other foundOther
  rw [found] at foundOther
  cases foundOther
  exact bare writes

/-- A page holds rows with a hash as they are stored. -/
theorem readPage_seen {jobIds : List Nat}
    {matching : BackgroundJob → Bool} (jobs : db.jobs.All (JobSound owner rollbacks))
    (hash : ∀ job, matching job → job.txHash.isSome) :
    ∀ job ∈ readPage db jobIds matching, Seen owner db job := by
  intro job isJob
  simp only [readPage, List.mem_filter, List.mem_filterMap] at isJob
  rcases isJob with ⟨⟨jobId, _, found⟩, isMatch⟩
  exact (jobs jobId job found).seen found (hash job isMatch)

theorem Lookup.write_upholds {lookup : Lookup} {margin : Nat} (seen : Seen owner db lookup.job)
    (counted : ∀ rollback ∈ rollbacks, rollback.2 ≤ db.reorgGeneration)
    (rows : db.submissions.All (RowSound owner rollbacks)) :
    Upholds owner rollbacks (· = lookup.job.ID) db (lookup.write db margin) := by
  unfold Lookup.write
  split
  · exact finalizeIdentifierKeyedJob_upholds seen counted rows
  · exact finalizeLostBroadcast_upholds _ _ _ _ _
  · split
    · exact finalizeIdentifierKeyedJob_upholds seen counted rows
    · exact confirmChainOutcome_upholds seen counted rows
  · exact Upholds.refl db

/-- A lookup writes on no job that has not ended. -/
theorem Lookup.write_eq_self {lookup : Lookup} {margin : Nat}
    (unsettled : ∀ row, db.jobs.find? lookup.job.ID = some row → ¬ row.Settled) :
    lookup.write db margin = db := by
  have notAffected : ∀ matching : BackgroundJob → Bool, (∀ row, matching row → row.Settled) →
        db.jobs.affects lookup.job.ID matching = false := by
    intro matching settled
    cases affected : db.jobs.affects lookup.job.ID matching with
    | false => rfl
    | true =>
      rcases Table.affects_iff.mp affected with ⟨row, found, isMatch⟩
      exact absurd (settled row isMatch) (unsettled row found)
  have parked := notAffected (fun row => row.status = .reconciliationRequired)
    fun row isMatch => .inl (of_decide_eq_true isMatch)
  have succeeded := notAffected (FinalizeFrom.succeeded lookup.job.chainStatus).matching (by
      intro row isMatch
      simp only [FinalizeFrom.matching, Bool.and_eq_true, decide_eq_true_eq] at isMatch
      exact .inr (.inl isMatch.1))
  unfold Lookup.write
  split
  · unfold finalizeIdentifierKeyedJob
    exact if_neg fun both => Bool.false_ne_true (parked ▸ both.2)
  · simp only [finalizeLostBroadcast]
    split
    · split
      · rfl
      · exact if_neg fun both => Bool.false_ne_true (parked ▸ both.2)
    · rfl
  · split
    · unfold finalizeIdentifierKeyedJob
      exact if_neg fun both => Bool.false_ne_true (succeeded ▸ both.2)
    · unfold confirmChainOutcome
      exact if_neg fun both => Bool.false_ne_true (succeeded ▸ both.2)
  · rfl

theorem lookup_growth (invariant : ReorgInvariant owner state) {lookup : Lookup}
    (isLookup : lookup ∈ state.lookups) (margin : Nat) :
    ∃ exempt, Growth owner owner exempt state (lookup.write state.db margin) := by
  by_cases settled : ∃ row, state.db.jobs.find? lookup.job.ID = some row ∧ row.Settled
  · rcases settled with ⟨row, found, isSettled⟩
    refine ⟨_, .of_upholds invariant (Lookup.write_upholds (invariant.lookups lookup isLookup)
      invariant.counted invariant.rows) ?_⟩
    rintro _ execution live writes rfl
    rcases (invariant.executions _ execution live).job with ⟨job, foundJob, _, unsettled⟩
    rw [found] at foundJob
    cases foundJob
    exact unsettled writes isSettled
  · rw [Lookup.write_eq_self fun row found isSettled => settled ⟨row, found, isSettled⟩]
    exact ⟨_, .all invariant (Upholds.refl _)⟩

theorem startJob_upholds (db : JobDb) (new : NewJob) :
    Upholds owner rollbacks exempt db { db with jobs := db.jobs.insert new.row } where
  jobs := by
    intro all
    apply Table.All.insert all
    exact ⟨by simp [NewJob.row], by simp [NewJob.row, BackgroundJob.ReportsOutcome],
      fun _ => ⟨rfl, rfl⟩, by simp [NewJob.row], by simp [NewJob.row], by simp [NewJob.row]⟩
  rows := id
  calm := Table.evolves_insert Calm.refl new.row
  bare := Table.Evolves.refl KeepsBare.refl db.submissions
  generation := rfl

theorem claims_upholds {worker : Nat} (marked : markRunning db worker jobId = some after) :
    Upholds owner rollbacks exempt db after :=
  (markRunning_wrote marked).upholdsOne trivial False.elim (fun _ _ => trivial)
    (JobDb.updateJob_tables marked)

/-- Every write of a running process is sound. -/
theorem DbWrite.growth {event : LedgerEvent} (write : DbWrite state event after)
    (invariant : ReorgInvariant owner state)
    (running : ∀ worker count, event ≠ .restart worker count) :
    ∃ larger exempt, Growth owner larger exempt state after := by
  have all (upholds : Upholds owner state.rollbacks (fun _ => False) state.db after) :
      ∃ larger exempt, Growth owner larger exempt state after :=
    ⟨owner, _, .all invariant upholds⟩
  have own {jobId : Nat} {execution : Execution} (live : state.executions jobId = some execution)
      (done : execution.phase.writesRow = false)
      (upholds : Upholds owner state.rollbacks (· = jobId) state.db after) :
      ∃ larger exempt, Growth owner larger exempt state after :=
    ⟨owner, _, .own invariant live done upholds⟩
  have settles {jobId : Nat} {write : JobWrite} {matching : BackgroundJob → Bool}
      {patch : Patch BackgroundJob} (wrote : Wrote (onlyRow jobId write) state.db after)
      (quiet : write.quiet ∧ ∀ job, write.Owned owner job)
      (marked : state.db.updateJob jobId matching patch = some after) :
      Upholds owner state.rollbacks (· = jobId) state.db after :=
    wrote.upholdsOne quiet.1 (fun _ => rfl) (fun job _ => quiet.2 job)
      (JobDb.updateJob_tables marked)
  cases write with
  | unchanged => exact all (Upholds.refl _)
  | startJob new may => exact all (startJob_upholds _ new)
  | supersede replaced => exact all ((supersedeQueuedJobs_wrote _ _).freed ⟨rfl, rfl⟩)
  | reclaim jobId => exact all ((reclaimLease_wrote _ _).freed ⟨rfl, rfl⟩)
  | recover worker count => exact absurd rfl (running worker count)
  | dropPending sessionIds => exact all ((dropPendingJobs_wrote _ _).freed ⟨rfl, rfl⟩)
  | changeGrants grants => exact all (.of_grants rfl rfl rfl)
  | claim marked => exact all (claims_upholds marked)
  | @insertRow jobId _ rowId now live free =>
    have growth : Growth owner (Function.update owner rowId (some jobId)) _ state _ :=
      .insertRow invariant now free
    exact ⟨_, _, growth⟩
  | @crossBoundary jobId execution _ _ live marked =>
    refine all ((markJobExternalExecution_wrote marked).upholdsOne trivial False.elim ?_
      (JobDb.updateJob_tables marked))
    intro job found rowId isRow
    rw [show job.ID = jobId from Table.key_of_find? found]
    exact ((invariant.executions jobId execution live).row rowId isRow).1
  | announce live may own free announced =>
    obtain ⟨larger, growth, _⟩ := announce_growth invariant live may own free announced
    exact ⟨larger, _, growth⟩
  | @closeRejected jobId execution _ _ _ live phase rejected =>
    have sound := invariant.executions jobId execution live
    exact all (AttemptLedger.reject_upholds (sound.bareRow (by rw [phase]; rfl)) rejected)
  | @closeGivenUp jobId execution _ _ live phase =>
    have sound := invariant.executions jobId execution live
    exact all (closeRow_upholds _ _ _ fun rowId isRow =>
      (sound.bareRow (by rw [phase]; rfl) rowId isRow).2)
  | @reportSubmitted jobId execution tx now _ _ live phase marked =>
    have sound := invariant.executions jobId execution live
    have sent := sound.sent tx (by rw [phase]; rfl)
    have ownHash : (TxHash.hash tx).tx.job = jobId := sent.1
    refine all ((markJobSubmitted_wrote marked).upholdsOne trivial False.elim ?_
      (JobDb.updateJob_tables marked))
    intro job found
    have isJob : job.ID = jobId := Table.key_of_find? found
    simp only [JobWrite.Owned, isJob]
    refine ⟨fun rowId isRow => (sound.row rowId isRow).1, ownHash, ?_⟩
    rcases sound.job with ⟨row, foundRow, serves, _⟩
    rw [found] at foundRow
    cases foundRow
    exact Channel.not_parent_of_serves serves sent.2
  | @writeRow jobId execution rowId write live isRow writes ofJob =>
    have bare := (invariant.executions jobId execution live).bareRow writes rowId isRow
    exact all (write.apply_upholds _ rowId bare.1 ofJob bare.2)
  | persist live phase marked =>
    exact own live (by rw [phase]; rfl)
      (settles (markSucceeded_wrote marked) ⟨trivial, fun _ => trivial⟩ marked)
  | persistFailure live phase marked =>
    exact own live (by rw [phase]; rfl)
      (settles (markFailed_wrote marked) ⟨trivial, fun _ => trivial⟩ marked)
  | @settle _ _ verdict _ _ live phase marked =>
    apply own live (by rw [phase]; rfl)
    cases verdict with
    | park code =>
      exact settles (markReconciliationRequired_wrote marked) ⟨trivial, fun _ => trivial⟩ marked
    | fail code => exact settles (markFailed_wrote marked) ⟨trivial, fun _ => trivial⟩ marked
  | @confirm jobId execution job generation _ answer live phase =>
    rcases (invariant.executions jobId execution live).confirming job generation phase
      with ⟨rfl, seen⟩
    exact own live (by rw [phase]; rfl)
      (finalizeIdentifierKeyedJob_upholds seen invariant.counted invariant.rows)
  | lookup margin isLookup =>
    exact ⟨owner, lookup_growth invariant (List.mem_of_getElem? isLookup) margin⟩
  | rollUp isRollUp isAggregate =>
    exact all (writeAggregate_upholds _ (invariant.rollUps _ isRollUp))
  | reconcileParent parentId => exact all (reconcileParent_upholds _ _)
  | settleRejected found awaits => exact all (settleRejectedSponsorAttempt_upholds _ _)

/-! ## Events of an execution and of the reconciler -/

theorem Turn.reorg {event : ExecutionEvent} {next : Ledger}
    (turn : Turn state jobId event next) (invariant : ReorgInvariant owner state) :
    ∃ larger, ReorgInvariant larger next := by
  have growth {after : JobDb} (write : DbWrite state (.execution jobId event) after) :
      ∃ larger exempt, Growth owner larger exempt state after :=
    write.growth invariant fun _ _ => by simp
  cases turn with
  | stays => exact ⟨owner, invariant⟩
  | writes write =>
    obtain ⟨larger, _, growth⟩ := growth write
    exact ⟨larger, invariant.grow growth⟩
  | @claims _ _ job _ found serves marked =>
    refine ⟨owner, (invariant.grow (.all invariant (claims_upholds marked))).begins ?_⟩
    rcases JobDb.updateJob_row marked with ⟨before, foundBefore, _, foundAfter⟩
    have same : before = job := Option.some.inj (foundBefore.symm.trans found)
    subst same
    refine ⟨⟨_, foundAfter, serves, ?_⟩, by rintro _ ⟨⟩, by rintro _ ⟨⟩, by simp⟩
    simp [BackgroundJob.Settled]
  | @notClaimed _ _ job _ found serves write =>
    obtain ⟨larger, _, growth⟩ := growth write
    refine ⟨larger, (invariant.grow growth).begins ?_⟩
    rcases growth.upholds.calm jobId job found with ⟨next, foundNext, kept⟩
    refine ⟨⟨next, foundNext, by rw [kept.kind]; exact serves, ?_⟩, by rintro _ ⟨⟩,
      by rintro _ ⟨⟩, by simp⟩
    rintro ⟨⟩
  | @moves _ execution _ _ live write step =>
    obtain ⟨larger, _, growth⟩ := growth write
    have sound := step.sound (invariant.executions jobId execution live)
    exact ⟨larger, (invariant.grow growth).begins (growth.evolves live sound step.writesRow)⟩
  | @asks execution _ job live threw found confirms =>
    refine ⟨owner, invariant.begins ?_⟩
    have sound := invariant.executions jobId execution live
    simp only [confirmsFailure, Bool.and_eq_true] at confirms
    rcases sound.job with ⟨row, foundRow, serves, _⟩
    refine ⟨⟨row, foundRow, serves, by rintro ⟨⟩⟩, ?_, by rintro _ ⟨⟩, ?_⟩
    · intro rowId isRow
      rcases sound.row rowId isRow with ⟨own, row, foundRow, _⟩
      exact ⟨own, row, foundRow, by rintro ⟨⟩⟩
    · intro confirmed generation isPhase
      cases isPhase
      exact ⟨Table.key_of_find? found, (invariant.jobs jobId job found).seen found confirms.1.2⟩
  | ends write =>
    obtain ⟨larger, _, growth⟩ := growth write
    exact ⟨larger, (invariant.grow growth).ends jobId⟩
  | @insertsRow execution rowId now live free =>
    have growth : Growth owner (Function.update owner rowId (some jobId)) _ state _ :=
      .insertRow invariant now free
    have grown := invariant.grow growth
    refine ⟨_, grown.begins ?_⟩
    have sound := grown.executions jobId execution live
    refine ⟨sound.job, ?_, sound.sent, sound.confirming⟩
    intro other isRow
    cases isRow
    exact ⟨Function.update_self .., _, Table.find?_insert_self free, fun _ => rfl⟩
  | @announces execution intent _ after live may own free announced =>
    obtain ⟨larger, growth, target⟩ :=
      announce_growth invariant live may own free announced
    have grown := invariant.grow growth
    have sends : ExecutionSound larger after jobId
        ⟨.sending intent.tx, execution.ledger.announced intent⟩ := by
      rcases (grown.executions jobId execution live).job with ⟨job, found, serves, unsettled⟩
      refine ⟨⟨job, found, serves, fun _ =>
        unsettled (Execution.writesRow_of_mayAnnounce may)⟩, ?_, ?_, by simp⟩
      · intro rowId isRow
        rcases target rowId isRow with ⟨isOwn, row, foundRow, bare⟩
        exact ⟨isOwn, row, foundRow, fun _ => bare⟩
      · rintro _ ⟨⟩
        exact ⟨own, execution.not_workflow_of_mayAnnounce may⟩
    have begun := grown.begins sends
    exact ⟨larger, { begun with }⟩
  | @rejects execution tx live sending =>
    have without : ReorgInvariant owner (state.withoutTx tx) := { invariant with }
    refine ⟨owner, without.begins ((invariant.executions jobId execution live).within ?_ ?_ ?_)⟩
    · rw [sending]
      exact fun _ => rfl
    · rintro _ ⟨⟩
    · simp
  | @closes execution _ _ _ live rejected write =>
    obtain ⟨larger, _, growth⟩ := growth write
    have writes : execution.phase.writesRow := by rw [rejected]; rfl
    have sound := (invariant.executions jobId execution live).closed writes none true
    exact ⟨larger, (invariant.grow growth).begins (growth.evolves live sound fun _ => writes)⟩
  | @reopens execution tx _ _ live givingUp write =>
    obtain ⟨larger, _, growth⟩ := growth write
    have writes : execution.phase.writesRow := by rw [givingUp]; rfl
    have sound := (invariant.executions jobId execution live).closed writes (some tx) false
    exact ⟨larger, (invariant.grow growth).begins (growth.evolves live sound fun _ => writes)⟩

/-- What the reconciler has read are rows of steps with a hash. -/
theorem Remembers.reorg {next : Ledger} (remembers : Remembers state next)
    (invariant : ReorgInvariant owner state) (growth : Growth owner larger exempt state after) :
    ReorgInvariant larger { state with
      db := after, pass := next.pass, lookups := next.lookups, rollUps := next.rollUps } := by
  have grown := invariant.grow growth
  have seen {job : BackgroundJob} (before : Seen owner state.db job) : Seen larger after job :=
    before.evolves growth.grows growth.upholds.calm
  refine { grown with pass := ?_, lookups := ?_, rollUps := ?_ }
  · intro pass isPass job isJob
    cases remembers.pass pass isPass with
    | kept held => exact grown.pass pass held job isJob
    | @reread before held => exact grown.pass before held job isJob
    | started parked succeeded =>
      rcases List.mem_append.mp isJob with inParked | inSucceeded
      · apply seen (readPage_seen invariant.jobs _ job inParked)
        intro row isMatch
        simp only [isParked, Bool.and_eq_true] at isMatch
        exact isMatch.2
      · apply seen (readPage_seen invariant.jobs _ job inSucceeded)
        intro row isMatch
        simp only [awaitsOutcome, Bool.and_eq_true] at isMatch
        exact isMatch.1.1.2
  · intro lookup isLookup
    cases remembers.lookups lookup isLookup with
    | kept held => exact grown.lookups lookup held
    | @answered before held => exact grown.lookups before held
    | ofParked held read => exact grown.pass _ held _ (List.mem_append_left _ read)
    | ofSucceeded held read => exact grown.pass _ held _ (List.mem_append_right _ read)
  · intro rollUp isRollUp
    cases remembers.rollUps rollUp isRollUp with
    | kept held => exact grown.rollUps rollUp held
    | @counted before held => exact grown.rollUps before held
    | @read parentId parent found awaits =>
      rcases growth.upholds.calm parentId parent found with ⟨next, foundNext, kept⟩
      simp only [awaitsRollUp, Bool.and_eq_true] at awaits
      exact ⟨next, foundNext, by rw [kept.kind]; exact awaits.1.2⟩

/-! ## Events of the system -/

theorem rollbackStep_reorg (invariant : ReorgInvariant owner state) (fromHeight : Nat) :
    ReorgInvariant owner (ledgerStep state (.rollback fromHeight)) := by
  have calm : state.db.jobs.Evolves (Calm fun _ => False)
      (rollbackJobs state.db fromHeight).jobs := by
    intro jobId job found
    exact ⟨_, (rollbackJobs_getJobById state.db fromHeight jobId).trans (by
      rw [JobDb.getJobById, found]
      rfl), revertedJob_calm fromHeight job⟩
  have bare : state.db.submissions.Evolves (KeepsBare owner fun _ => False)
      (rollbackJobs state.db fromHeight).submissions := by
    intro rowId row found
    exact ⟨_, (rollbackJobs_submission state.db fromHeight rowId).trans (by
      rw [found]
      rfl), revertedRow_keepsBare fromHeight row⟩
  refine ⟨?_, ?_, ?_, ?_, ?_, ?_, ?_, ?_⟩
  · intro jobId job found
    rcases Option.map_eq_some_iff.mp
      ((rollbackJobs_getJobById state.db fromHeight jobId).symm.trans found) with
        ⟨before, foundBefore, rfl⟩
    exact (invariant.jobs jobId before foundBefore).reverted fromHeight _
  · intro rowId row found
    rcases Option.map_eq_some_iff.mp
      ((rollbackJobs_submission state.db fromHeight rowId).symm.trans found) with
        ⟨before, foundBefore, rfl⟩
    exact (invariant.rows rowId before foundBefore).reverted fromHeight _
  · intro rowId free
    apply invariant.allotted
    exact Option.map_eq_none_iff.mp
      ((rollbackJobs_submission state.db fromHeight rowId).symm.trans free)
  · intro rollback isRollback
    rcases List.mem_cons.mp isRollback with rfl | earlier
    · exact Nat.le_refl _
    · exact Nat.le_succ_of_le (invariant.counted rollback earlier)
  · intro jobId execution live
    exact (invariant.executions jobId execution live).evolves (fun _ _ => id) calm bare fun _ => id
  · intro pass isPass job isJob
    exact (invariant.pass pass isPass job isJob).evolves (fun _ _ => id) calm
  · intro lookup isLookup
    exact (invariant.lookups lookup isLookup).evolves (fun _ _ => id) calm
  · intro rollUp isRollUp
    rcases invariant.rollUps rollUp isRollUp with ⟨row, found, parent⟩
    rcases calm rollUp.parentId row found with ⟨next, foundNext, kept⟩
    exact ⟨next, foundNext, by rw [kept.kind]; exact parent⟩

/-- The next process runs nothing and remembers no lookup. -/
theorem restartLedger_reorg (invariant : ReorgInvariant owner state) (worker count : Nat) :
    ReorgInvariant owner (restartLedger state worker count) where
  jobs := recoverFirst_jobSound state.db count invariant.jobs
  rows := by
    have same := recoverFirst_fields state.db count
    rw [restartLedger, same.1]
    exact invariant.rows
  allotted := by
    have same := recoverFirst_fields state.db count
    rw [restartLedger, same.1]
    exact invariant.allotted
  counted := by
    have same := recoverFirst_fields state.db count
    rw [restartLedger, same.2]
    exact invariant.counted
  executions := by simp [restartLedger]
  pass := by simp [restartLedger]
  lookups := by simp [restartLedger]
  rollUps := by simp [restartLedger]

end Steps

/-- Some assignment of attempt rows to jobs meets the invariant. -/
def ReorgSafe (state : Ledger) : Prop :=
  ∃ owner, ReorgInvariant owner state

theorem ledgerStep_reorg (state : Ledger) (event : LedgerEvent) (safe : ReorgSafe state)
    (_allowed : True) : ReorgSafe (ledgerStep state event) := by
  rcases safe with ⟨owner, invariant⟩
  have written {after : JobDb} (write : DbWrite state event after)
      (running : ∀ worker count, event ≠ .restart worker count) :
      ReorgSafe { state with db := after } := by
    obtain ⟨larger, _, growth⟩ := write.growth invariant running
    exact ⟨larger, invariant.grow growth⟩
  cases event with
  | startJob new =>
    simp only [ledgerStep]
    split
    next may => exact written (.startJob new may) (by simp)
    · exact ⟨owner, invariant⟩
  | supersede replaced => exact written (.supersede replaced) (by simp)
  | reclaim jobId => exact written (.reclaim jobId) (by simp)
  | restart worker count => exact ⟨owner, restartLedger_reorg invariant worker count⟩
  | dropPending sessionIds => exact written (.dropPending sessionIds) (by simp)
  | createGrant grantId allowDeploy maxDeploys => exact written (.changeGrants _) (by simp)
  | changeGrant grantId isActive allowDeploy maxDeploys =>
    exact written (.changeGrants _) (by simp)
  | execution jobId event => exact (ledgerStep_turn state jobId event).reorg invariant
  | broadcast tx =>
    refine ⟨owner, ?_⟩
    simp only [ledgerStep]
    split
    · exact { invariant with }
    · exact invariant
  | reconciler event =>
    obtain ⟨larger, _, growth⟩ :=
      (reconcilerStep_writes event).growth invariant (by simp)
    rw [ledgerStep, reconcilerStep_eq]
    exact ⟨larger, (reconcilerStep_remembers event).reorg invariant growth⟩
  | rollback fromHeight => exact ⟨owner, rollbackStep_reorg invariant fromHeight⟩

/-! ## Runs -/

/-- The law of the rollback counter holds in every run. -/
theorem rollback_leaves_no_stale_outcome (worker : Nat) (events : List LedgerEvent) :
    ReorgLaw (run ledgerStep (Ledger.initial worker) events) := by
  have safe : ReorgSafe (run ledgerStep (Ledger.initial worker) events) :=
    run_invariant ledgerStep_reorg ⟨_, ReorgInvariant.initial worker⟩ events (Along.trivial events)
  rcases safe with ⟨owner, invariant⟩
  constructor
  · intro jobId job found
    have sound := invariant.jobs jobId job found
    exact ⟨sound.fresh, sound.recorded⟩
  · intro rowId row found
    have sound := invariant.rows rowId row found
    exact ⟨sound.fresh, sound.recorded⟩

/-- In every run an attempt row is of one job: that of the transaction it carries and of every job
row that links it. A job records hashes of its own transactions only, a workflow none. -/
theorem attempts_of_one_job (worker : Nat) (events : List LedgerEvent) :
    let db := (run ledgerStep (Ledger.initial worker) events).db
    ∃ owner : Nat → Option Nat,
      db.jobs.All (fun job => (∀ rowId ∈ job.submissionId, owner rowId = some job.ID) ∧
        ∀ txHash ∈ job.txHash, txHash.tx.job = job.ID ∧ job.kind.workflowParent = false) ∧
      db.submissions.All fun row => ∀ txHash ∈ row.txHash, owner row.ID = some txHash.tx.job := by
  rcases run_invariant ledgerStep_reorg ⟨_, ReorgInvariant.initial worker⟩ events
    (Along.trivial events) with ⟨owner, invariant⟩
  refine ⟨owner, ?_, fun rowId row found => (invariant.rows rowId row found).hash⟩
  intro jobId job found
  have sound := invariant.jobs jobId job found
  refine ⟨sound.row, fun txHash isHash => ⟨sound.hash txHash isHash, ?_⟩⟩
  cases isKind : job.kind.workflowParent with
  | false => rfl
  | true =>
    rw [(sound.parent isKind).1] at isHash
    cases isHash

end Nightgate.Submission
