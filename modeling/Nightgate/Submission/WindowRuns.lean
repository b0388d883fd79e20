import Nightgate.Library.Pointwise
import Nightgate.Submission.BroadcastWindows

/-!
# Recorded windows along a run

Where every announcement records a window that reaches the end of its transaction, the
window of each job reaches the end of the transaction the job names, and a row a pass has
read still names the same transaction when the answer of the indexer is written.
-/

namespace Nightgate.Submission

open Library

/-- The submit time an announcement leaves on its row or job. -/
def AttemptLedger.recordedTime (ledger : AttemptLedger) (db : JobDb) (intent : Announcement) :
    Nat :=
  match ledger.channel, ledger.rowId with
  | .bound, some rowId =>
    ((db.submissions.find? rowId).map PendingSubmission.submittedAt).getD intent.now
  | _, _ => intent.now

/-- The ttl an announcement records. A wallet job has no row to record it on. -/
def AttemptLedger.recordedTtl (ledger : AttemptLedger) (intent : Announcement) : Option Nat :=
  if ledger.channel = .wallet then none else intent.ttl

/-- The end of the window an announcement records. -/
def AttemptLedger.recordedEnd (ledger : AttemptLedger) (db : JobDb) (intent : Announcement) :
    Nat :=
  (ledger.recordedTtl intent).getD (ledger.recordedTime db intent + LEGACY_BROADCAST_TTL_MS)

/-- The window a row, or else the submit time of a job, records reaches the end of the
transaction. -/
def Covered (ttlOf : Tx → Nat) (db : JobDb) (submissionId submittedAt : Option Nat) (tx : Tx) :
    Prop :=
  match submissionId with
  | some rowId => ∀ row ∈ db.submissions.find? rowId, ttlOf tx ≤ row.windowEnd
  | none => ∀ time ∈ submittedAt, ttlOf tx ≤ time + LEGACY_BROADCAST_TTL_MS

instance (ttlOf : Tx → Nat) (db : JobDb) (submissionId submittedAt : Option Nat) (tx : Tx) :
    Decidable (Covered ttlOf db submissionId submittedAt tx) := by
  unfold Covered
  split <;> infer_instance

/-- A transaction is recorded together with its ttl, or it ends within an hour of the
submit time recorded for it. -/
def RecordsWindow (ttlOf : Tx → Nat) (state : Ledger) (event : LedgerEvent) : Prop :=
  match event with
  | .execution jobId (.announce intent _) =>
    ∀ execution ∈ state.executions jobId,
      ttlOf intent.tx ≤ execution.ledger.recordedEnd state.db intent
  | .execution jobId (.reportSubmitted now _) =>
    ∀ execution ∈ state.executions jobId, ∀ tx ∈ execution.phase.sent,
      Covered ttlOf state.db execution.ledger.rowId (some now) tx
  | .execution jobId (.writeRow (.included (some txHash))) =>
    ∀ execution ∈ state.executions jobId,
      Covered ttlOf state.db execution.ledger.rowId none txHash.tx
  | _ => True

instance (ttlOf : Tx → Nat) (state : Ledger) : (event : LedgerEvent) →
    Decidable (RecordsWindow ttlOf state event)
  | .execution _ event => by
      unfold RecordsWindow
      cases event with
      | writeRow write => split <;> infer_instance
      | _ => infer_instance
  | .startJob _ | .supersede _ | .reclaim _ | .restart _ _ | .dropPending _ | .createGrant _ _ _
  | .changeGrant _ _ _ _ | .broadcast _ | .reconciler _ | .rollback _ => isTrue trivial

/-! ## The invariant -/

/-- The tables record windows that reach the end of the transactions they name. -/
structure TableWindows (ttlOf : Tx → Nat) (db : JobDb) : Prop where
  announced : db.jobs.All BackgroundJob.Announced
  jobs : db.jobs.All fun job => ∀ txHash ∈ job.txHash,
    Covered ttlOf db job.submissionId job.submittedAt txHash.tx
  rows : db.submissions.All fun row => ∀ txHash ∈ row.txHash, ttlOf txHash.tx ≤ row.windowEnd

/-- The row of a step that was read at rest still stands under its names. -/
structure Held (db : JobDb) (seen : BackgroundJob) : Prop where
  step : seen.kind.workflowParent = false
  stands : ∃ job, db.jobs.find? seen.ID = some job ∧ job.kind = seen.kind ∧ job.AtRest ∧
    job.submissionId = seen.submissionId ∧ job.submittedAt = seen.submittedAt ∧
    (job.txHash = seen.txHash ∨ job.Dismissed)

/-- What each live execution does fits its job. -/
def EachPhase (fits : Nat → Phase → Prop) (executions : Nat → Option Execution) : Prop :=
  ∀ jobId, ∀ execution ∈ executions jobId, fits jobId execution.phase

/-- It is not about to end its job as the chain would. -/
def Phase.SettlesOtherwise (phase : Phase) : Prop :=
  ∀ code : ErrorCode, phase = .settling (.fail code) → ¬ code.onChain

/-- The row still names the transaction that the indexer is asked about, or none. -/
def ConfirmsNamed (db : JobDb) (jobId : Nat) (phase : Phase) : Prop :=
  ∀ seen generation, phase = .confirming seen generation →
    ∃ row, db.jobs.find? jobId = some row ∧ (row.txHash = none ∨ row.txHash = seen.txHash)

structure WindowInvariant (ttlOf : Tx → Nat) (state : Ledger) : Prop where
  tables : TableWindows ttlOf state.db
  settles : EachPhase (fun _ phase => phase.SettlesOtherwise) state.executions
  confirms : EachPhase (ConfirmsNamed state.db) state.executions
  parked : ∀ pass ∈ state.pass, ∀ job ∈ pass.parked, Held state.db job
  lookups : ∀ lookup ∈ state.lookups, lookup.ofParked → Held state.db lookup.job

theorem WindowInvariant.initial (ttlOf : Tx → Nat) (worker : Nat) :
    WindowInvariant ttlOf (Ledger.initial worker) where
  tables := ⟨Table.All.empty, Table.All.empty, Table.All.empty⟩
  settles := by simp [EachPhase, Ledger.initial]
  confirms := by simp [EachPhase, Ledger.initial]
  parked := by simp [Ledger.initial]
  lookups := by simp [Ledger.initial]

section Tables

variable {ttlOf : Tx → Nat} {ends : ErrorCode → Nat → Prop} {owner : Nat → Option Nat}
  {rollbacks : List (Nat × Nat)} {db after : JobDb} {worker jobId : Nat}

/-- A window that still stands covers what it covered. -/
theorem Covered.kept {submissionId submittedAt : Option Nat} {tx : Tx}
    (covered : Covered ttlOf db submissionId submittedAt tx)
    (stays : ∀ rowId ∈ submissionId, ∀ next, after.submissions.find? rowId = some next →
      ∃ row, db.submissions.find? rowId = some row ∧ next.windowEnd = row.windowEnd) :
    Covered ttlOf after submissionId submittedAt tx := by
  cases submissionId with
  | none => exact covered
  | some rowId =>
    intro next found
    obtain ⟨row, stored, same⟩ := stays rowId rfl next found
    rw [same]
    exact covered row stored

theorem TableWindows.carried (windows : TableWindows ttlOf db) (carried : Carried ends db after) :
    TableWindows ttlOf after where
  announced := announced_follows windows.announced carried.jobs
  jobs := by
    intro id next found txHash isHash
    obtain ⟨job, stored, step⟩ := carried.jobs.of_find? found
    rcases step.2 with gone | ⟨hash, row, time⟩
    · rw [gone] at isHash
      cases isHash
    · rw [hash] at isHash
      have covered := windows.jobs id job stored txHash isHash
      rw [row, time]
      refine covered.kept ?_
      intro rowId _ next found
      obtain ⟨row, stored, step⟩ := carried.rows.of_find? found
      exact ⟨row, stored, step.1⟩
  rows := by
    intro id next found txHash isHash
    obtain ⟨row, stored, step⟩ := carried.rows.of_find? found
    rw [step.2] at isHash
    rw [step.1]
    exact windows.rows id row stored txHash isHash

theorem Held.onward {seen : BackgroundJob} (held : Held db seen)
    (onward : db.jobs.Evolves (Onward ends) after.jobs) : Held after seen := by
  obtain ⟨job, found, kind, rest, row, time, hash⟩ := held.stands
  obtain ⟨next, foundNext, moved⟩ := onward seen.ID job found
  have jobStep : job.kind.workflowParent = false := kind ▸ held.step
  obtain ⟨restNext, rowNext, timeNext, hashNext⟩ := moved.rest jobStep rest
  refine ⟨held.step, next, foundNext, moved.kind.trans kind, restNext, rowNext.trans row,
    timeNext.trans time, ?_⟩
  rcases hash with hash | dismissed
  · rcases hashNext with hashNext | dismissed
    · exact Or.inl (hashNext.trans hash)
    · exact Or.inr dismissed
  · exact Or.inr (moved.dismissed jobStep dismissed)

theorem Carried.evolves (carried : Carried ends db after) :
    db.jobs.Evolves (Onward ends) after.jobs := by
  intro id job found
  obtain ⟨next, foundNext, step⟩ := carried.jobs.find? found
  exact ⟨next, foundNext, step.1⟩

/-- A new job names nothing. -/
theorem TableWindows.startJob (windows : TableWindows ttlOf db) (new : NewJob) :
    TableWindows ttlOf { db with jobs := db.jobs.insert new.row } where
  announced := by
    apply Table.All.insert windows.announced
    intro isSome
    cases isSome
  jobs := by
    apply Table.All.insert windows.jobs
    intro txHash isHash
    cases isHash
  rows := windows.rows

/-- A fresh row is no row of a job yet. -/
theorem not_fresh {rowId : Nat} {job : BackgroundJob} (sound : JobSound owner rollbacks job)
    (allotted : ∀ rowId, db.submissions.find? rowId = none → owner rowId = none)
    (free : db.submissions.find? rowId = none) : job.submissionId ≠ some rowId := by
  intro isRow
  have own := sound.row rowId isRow
  rw [allotted rowId free] at own
  cases own

theorem TableWindows.insertRow (windows : TableWindows ttlOf db)
    (sound : db.jobs.All (JobSound owner rollbacks))
    (allotted : ∀ rowId, db.submissions.find? rowId = none → owner rowId = none)
    {row : PendingSubmission} (covers : ∀ txHash ∈ row.txHash, ttlOf txHash.tx ≤ row.windowEnd) :
    TableWindows ttlOf { db with submissions := db.submissions.insert row } where
  announced := windows.announced
  jobs := by
    intro id job found txHash isHash
    refine (windows.jobs id job found txHash isHash).kept ?_
    intro rowId isRow next isNext
    rcases Table.of_find?_insert isNext with ⟨_, unused, _⟩ | stored
    · exact absurd isRow (not_fresh (sound id job found) allotted unused)
    · exact ⟨next, stored, rfl⟩
  rows := Table.All.insert windows.rows covers

/-- A hash is recorded on the row of the job, or on the job without one. -/
theorem TableWindows.name (windows : TableWindows ttlOf db) {matching : BackgroundJob → Bool}
    {txHash : TxHash} {patch : Patch BackgroundJob}
    (sets : ∀ job, (patch.set job).txHash = some txHash ∧ (patch.set job).status = .submitted)
    (covers : ∀ job, Covered ttlOf db (patch.set job).submissionId (patch.set job).submittedAt
      txHash.tx)
    (marked : db.updateJob jobId matching patch = some after) : TableWindows ttlOf after := by
  rcases JobDb.updateJob_eq_some marked with ⟨_, rfl⟩
  refine ⟨?_, ?_, windows.rows⟩
  · apply Table.All.update windows.announced
    intro job _ _ _ _
    exact Or.inl (sets job).2
  · apply Table.All.update windows.jobs
    intro job _ _ _ other isHash
    rw [(sets job).1] at isHash
    cases isHash
    exact covers job

/-- The hash the worker returned is recorded on a row whose window covers it. -/
theorem TableWindows.includeRow (windows : TableWindows ttlOf db) {rowId : Nat} {txHash : TxHash}
    (covers : Covered ttlOf db (some rowId) none txHash.tx) :
    TableWindows ttlOf ((RowWrite.included (some txHash)).apply db rowId) where
  announced := windows.announced
  jobs := by
    intro id job found other isHash
    refine (windows.jobs id job found other isHash).kept ?_
    intro key _ next isNext
    obtain ⟨row, stored, changed⟩ := Table.of_find?_update isNext
    rcases changed with ⟨_, _, rfl⟩ | rfl
    · exact ⟨row, stored, rfl⟩
    · exact ⟨next, stored, rfl⟩
  rows := by
    apply Table.All.update windows.rows
    intro row found _ _ other isHash
    cases isHash
    exact covers row found

theorem AttemptLedger.writeRow_generation (ledger : AttemptLedger) (db : JobDb)
    (intent : Announcement) :
    (ledger.writeRow db intent).reorgGeneration = db.reorgGeneration := by
  simp only [AttemptLedger.writeRow]
  split <;> rfl

/-- The row of an announcement records its transaction with its window. -/
theorem AttemptLedger.writeRow_target {ledger : AttemptLedger} {intent : Announcement}
    {next : PendingSubmission} {rowId : Nat} (free : db.submissions.find? intent.freshId = none)
    (isTarget : ledger.targetRow intent = some rowId)
    (found : (ledger.writeRow db intent).submissions.find? rowId = some next) :
    next.txHash = some (.identifier intent.tx) ∧
      next.windowEnd = ledger.recordedEnd db intent := by
  have inserted (isFresh : rowId = intent.freshId)
      (found : (db.submissions.insert (ledger.attemptRow intent)).find? rowId = some next) :
      next = ledger.attemptRow intent := by
    rcases Table.of_find?_insert found with ⟨_, _, isNew⟩ | stored
    · exact isNew
    · rw [isFresh, free] at stored
      cases stored
  cases channel : ledger.channel with
  | wallet | workflow => simp [AttemptLedger.targetRow, channel] at isTarget
  | sponsor =>
    simp only [AttemptLedger.targetRow, channel, Option.some.injEq] at isTarget
    simp only [AttemptLedger.writeRow, channel] at found
    rw [inserted isTarget.symm found]
    simp [AttemptLedger.attemptRow, PendingSubmission.windowEnd, AttemptLedger.recordedEnd,
      AttemptLedger.recordedTtl, AttemptLedger.recordedTime, channel]
  | bound =>
    cases isRow : ledger.rowId with
    | none =>
      simp only [AttemptLedger.targetRow, channel, isRow, Option.getD_none,
        Option.some.injEq] at isTarget
      simp only [AttemptLedger.writeRow, channel, isRow] at found
      rw [inserted isTarget.symm found]
      simp [AttemptLedger.attemptRow, PendingSubmission.windowEnd, AttemptLedger.recordedEnd,
        AttemptLedger.recordedTtl, AttemptLedger.recordedTime, channel, isRow]
    | some reused =>
      simp only [AttemptLedger.targetRow, channel, isRow, Option.getD_some,
        Option.some.injEq] at isTarget
      subst isTarget
      simp only [AttemptLedger.writeRow, channel, isRow] at found
      obtain ⟨row, stored, changed⟩ := Table.of_find?_update found
      rw [Table.find?_update_self, stored] at found
      cases found
      simp [PendingSubmission.windowEnd, AttemptLedger.recordedEnd,
        AttemptLedger.recordedTtl, AttemptLedger.recordedTime, channel, isRow, stored]

/-- Every other row stays. -/
theorem AttemptLedger.writeRow_other {ledger : AttemptLedger} {intent : Announcement}
    {next : PendingSubmission} {rowId : Nat} (notTarget : ledger.targetRow intent ≠ some rowId)
    (found : (ledger.writeRow db intent).submissions.find? rowId = some next) :
    db.submissions.find? rowId = some next := by
  cases channel : ledger.channel with
  | wallet | workflow => simpa only [AttemptLedger.writeRow, channel] using found
  | sponsor =>
    simp only [AttemptLedger.targetRow, channel, ne_eq, Option.some.injEq] at notTarget
    simp only [AttemptLedger.writeRow, channel] at found
    rwa [Table.find?_insert_ne (Ne.symm notTarget)] at found
  | bound =>
    cases isRow : ledger.rowId with
    | none =>
      simp only [AttemptLedger.targetRow, channel, isRow, Option.getD_none, ne_eq,
        Option.some.injEq] at notTarget
      simp only [AttemptLedger.writeRow, channel, isRow] at found
      rwa [Table.find?_insert_ne (Ne.symm notTarget)] at found
    | some reused =>
      simp only [AttemptLedger.targetRow, channel, isRow, Option.getD_some, ne_eq,
        Option.some.injEq] at notTarget
      simp only [AttemptLedger.writeRow, channel, isRow] at found
      rwa [Table.find?_update_ne (Ne.symm notTarget)] at found

theorem TableWindows.announce {execution : Execution} {intent : Announcement}
    (windows : TableWindows ttlOf db) (sound : db.jobs.All (JobSound owner rollbacks))
    (allotted : ∀ rowId, db.submissions.find? rowId = none → owner rowId = none)
    (own : ∀ rowId ∈ execution.ledger.rowId, owner rowId = some jobId)
    (free : db.submissions.find? intent.freshId = none)
    (covers : ttlOf intent.tx ≤ execution.ledger.recordedEnd db intent)
    (sends : execution.ledger.channel ≠ .workflow)
    (announced : execution.ledger.onSubmitIntent db worker jobId intent = some after) :
    TableWindows ttlOf after := by
  obtain ⟨reserved, jobs, submissions, _, marked⟩ := AttemptLedger.onSubmitIntent_cases announced
  rw [AttemptLedger.writeRow_jobs] at jobs
  have tables : after.submissions = (execution.ledger.writeRow db intent).submissions :=
    (JobDb.updateJob_tables marked).1.trans submissions
  -- Of the other jobs none has the row the announcement is written to.
  have notOther {id : Nat} {job : BackgroundJob} (found : db.jobs.find? id = some job)
      (other : id ≠ jobId) {rowId : Nat} (isRow : job.submissionId = some rowId) :
      execution.ledger.targetRow intent ≠ some rowId := by
    intro isTarget
    rcases execution.ledger.targetRow_cases intent with fresh | reused
    · rw [fresh, Option.some.injEq] at isTarget
      exact not_fresh (sound id job found) allotted (isTarget ▸ free) isRow
    · have ofJob := own rowId (reused rowId isTarget)
      have ofOther := (sound id job found).row rowId isRow
      rw [ofJob, Option.some.injEq] at ofOther
      exact other ((Table.key_of_find? found).symm.trans ofOther.symm)
  have elsewhere {id : Nat} (other : id ≠ jobId) : after.jobs.find? id = db.jobs.find? id := by
    rcases JobDb.updateJob_eq_some marked with ⟨_, isAfter⟩
    rw [isAfter, ← jobs]
    exact Table.find?_update_ne other
  obtain ⟨before, _, _, isNamed⟩ := JobDb.updateJob_row marked
  refine ⟨?_, ?_, ?_⟩
  · intro id next found
    by_cases other : id = jobId
    · subst other
      rw [isNamed] at found
      cases found
      exact fun _ => Or.inl rfl
    · exact windows.announced id next ((elsewhere other).symm.trans found)
  · intro id next found txHash isHash
    by_cases other : id = jobId
    · subst other
      rw [isNamed] at found
      cases found
      cases isHash
      cases isTarget : execution.ledger.targetRow intent with
      | some rowId =>
        intro row isRow
        rw [tables] at isRow
        rw [(AttemptLedger.writeRow_target free isTarget isRow).2]
        exact covers
      | none =>
        intro time isTime
        cases isTime
        cases channel : execution.ledger.channel with
        | wallet =>
          have onJob : execution.ledger.recordedEnd db intent =
              intent.now + LEGACY_BROADCAST_TTL_MS := by
            simp [AttemptLedger.recordedEnd, AttemptLedger.recordedTtl,
              AttemptLedger.recordedTime, channel]
          rw [onJob] at covers
          exact covers
        | workflow => exact absurd channel sends
        | bound | sponsor => simp [AttemptLedger.targetRow, channel] at isTarget
    · have stored : db.jobs.find? id = some next := (elsewhere other).symm.trans found
      refine (windows.jobs id next stored txHash isHash).kept ?_
      intro rowId isRow row isNext
      rw [tables] at isNext
      exact ⟨row, AttemptLedger.writeRow_other (notOther stored other isRow) isNext, rfl⟩
  · rw [tables]
    intro id next found txHash isHash
    by_cases isTarget : execution.ledger.targetRow intent = some id
    · obtain ⟨hash, window⟩ := AttemptLedger.writeRow_target free isTarget found
      rw [hash] at isHash
      cases isHash
      rw [window]
      exact covers
    · exact windows.rows id next (AttemptLedger.writeRow_other isTarget found) txHash isHash

end Tables

/-! ## Steps -/

/-- The jobs that an event may end by what the chain answered, and with which code. -/
def Ledger.eventEnds (state : Ledger) (event : LedgerEvent) (code : ErrorCode) (jobId : Nat) :
    Prop :=
  match event with
  | .reconciler (.finalize index _ _) =>
    ∃ lookup, state.lookups[index]? = some lookup ∧ lookup.mayEnd code jobId
  | .execution id (.confirmInFlight answer _) =>
    id = jobId ∧ code = .chainExecutionFailed ∧ ∃ told ∈ answer, told.status = .failure
  | _ => False

/-- The jobs that an event may name another transaction on. -/
def LedgerEvent.renames (event : LedgerEvent) (jobId : Nat) : Prop :=
  match event with
  | .execution id (.announce _ _) => id = jobId
  | .execution id (.reportSubmitted _ _) => id = jobId
  | _ => False

/-- What a step makes of the tables: the windows stand, the jobs move on, only a job in `ends`
is newly ended by the chain, and only a job in `renames` names another transaction. -/
structure Advances (ttlOf : Tx → Nat) (ends : ErrorCode → Nat → Prop) (renames : Nat → Prop)
    (db after : JobDb) : Prop where
  windows : TableWindows ttlOf after
  evolves : db.jobs.Evolves (Onward ends) after.jobs
  ended : ∀ id next, after.jobs.find? id = some next → ∀ code : ErrorCode, code.onChain →
    next.EndedAs code → ends code id ∨ ∃ job, db.jobs.find? id = some job ∧ job.EndedAs code
  named : ∀ id job, ¬ renames id → db.jobs.find? id = some job →
    ∃ next, after.jobs.find? id = some next ∧ SameNames job next
  generation : db.reorgGeneration ≤ after.reorgGeneration

section Steps

variable {ttlOf : Tx → Nat} {ends : ErrorCode → Nat → Prop} {renames : Nat → Prop}
  {owner : Nat → Option Nat} {state : Ledger} {db after : JobDb} {jobId : Nat}
  {execution : Execution}

/-- Rows that stem from the rows before. -/
theorem ended_of_onward (rewrites : db.jobs.Rewrites (Onward ends) after.jobs) :
    ∀ id next, after.jobs.find? id = some next → ∀ code : ErrorCode, code.onChain →
      next.EndedAs code → ends code id ∨ ∃ job, db.jobs.find? id = some job ∧ job.EndedAs code := by
  intro id next found code onChain ended
  obtain ⟨job, stored, moved⟩ := rewrites.of_find? found
  have isJob : job.ID = id := Table.key_of_find? stored
  by_cases inEnds : ends code id
  · exact Or.inl inEnds
  · exact Or.inr ⟨job, stored, moved.ended code onChain (isJob ▸ inEnds) ended⟩

theorem Carried.onward (carried : Carried ends db after) :
    db.jobs.Rewrites (Onward ends) after.jobs := by
  intro id
  have related := carried.jobs id
  cases before : db.jobs.find? id with
  | none =>
    rw [before] at related
    cases next : after.jobs.find? id with
    | none => exact .none
    | some job =>
      rw [next] at related
      cases related
  | some job =>
    rw [before] at related
    cases next : after.jobs.find? id with
    | none =>
      rw [next] at related
      cases related
    | some moved =>
      rw [next] at related
      cases related with
      | some step => exact .some step.1

theorem Carried.advances (carried : Carried ends db after) (windows : TableWindows ttlOf db) :
    Advances ttlOf ends renames db after where
  windows := windows.carried carried
  evolves := carried.evolves
  ended := ended_of_onward carried.onward
  named := by
    intro id job _ found
    obtain ⟨next, isNext, follows⟩ := carried.jobs.find? found
    exact ⟨next, isNext, follows.2⟩
  generation := carried.generation

/-- A write that names a transaction on an active job. -/
theorem Advances.name {worker : Nat} {submissionId : Option Nat} {txHash : TxHash} {now : Nat}
    (windows : TableWindows ttlOf after) (isRenamed : renames jobId)
    (wrote : Wrote (onlyRow jobId (.send worker submissionId txHash now)) db after)
    (generation : after.reorgGeneration = db.reorgGeneration) :
    Advances ttlOf ends renames db after := by
  have rewrites : db.jobs.Rewrites (Onward ends) after.jobs := by
    apply wrote.rewrites Onward.refl
    rintro job next _ _ ⟨_, rfl⟩ makes
    cases makes with
    | send held =>
      exact .of_active (active_of_heldBy held) rfl rfl (fun _ _ => Or.inl rfl)
        (.of_status (by simp))
  refine ⟨windows, ?_, ended_of_onward rewrites, ?_, Nat.le_of_eq generation.symm⟩
  · intro id job found
    exact rewrites.find? found
  · intro id job notRenamed found
    obtain ⟨next, isNext, rfl | ⟨write, ⟨isJob, _⟩, _⟩⟩ := Table.Rewrites.find? wrote found
    · exact ⟨next, isNext, SameNames.refl next⟩
    · have isKey : job.ID = id := Table.key_of_find? found
      exact absurd ((isKey.symm.trans isJob) ▸ isRenamed) notRenamed

theorem Advances.startJob (windows : TableWindows ttlOf db) (new : NewJob) :
    Advances ttlOf ends renames db { db with jobs := db.jobs.insert new.row } where
  windows := windows.startJob new
  evolves := Table.evolves_insert Onward.refl new.row
  ended := by
    intro id next found code _ ended
    rcases Table.of_find?_insert found with ⟨_, _, rfl⟩ | stored
    · cases ended.1
    · exact Or.inr ⟨next, stored, ended⟩
  named := fun id job _ found =>
    ⟨job, Table.find?_insert_of_find? found, SameNames.refl job⟩
  generation := Nat.le_refl _

/-- A write on attempt rows alone. -/
theorem Advances.of_rows (windows : TableWindows ttlOf after) (jobs : after.jobs = db.jobs)
    (generation : after.reorgGeneration = db.reorgGeneration) :
    Advances ttlOf ends renames db after := by
  refine ⟨windows, ?_, ?_, ?_, Nat.le_of_eq generation.symm⟩
  · rw [jobs]
    exact Table.Evolves.refl Onward.refl _
  · intro id next found code _ ended
    rw [jobs] at found
    exact Or.inr ⟨next, found, ended⟩
  · intro id job _ found
    rw [jobs]
    exact ⟨job, found, SameNames.refl job⟩

/-- The code of a thrown error is not one of the chain. -/
theorem Thrown.code_not_onChain (error : Thrown) : ¬ error.code.onChain := by
  cases error with
  | failure failure => cases failure <;> simp [Thrown.code, ErrorCode.onChain]
  | bookkeepingPending => simp [Thrown.code, ErrorCode.onChain]

theorem verdictOf_settlesOtherwise (current : Option BackgroundJob) (error : Thrown) :
    (Phase.settling (verdictOf current error)).SettlesOtherwise := by
  intro code isPhase
  have isVerdict := Phase.settling.inj isPhase
  simp only [verdictOf] at isVerdict
  split at isVerdict
  · split at isVerdict <;> cases isVerdict
  · cases isVerdict
    exact error.code_not_onChain

/-- The announced transaction is recorded with its window on a job in execution. -/
theorem announce_advances (reorg : ReorgInvariant owner state)
    (windows : TableWindows ttlOf state.db) {intent : Announcement} (isRenamed : renames jobId)
    (live : state.executions jobId = some execution) (may : execution.mayAnnounce)
    (free : state.db.submissions.find? intent.freshId = none)
    (records : ttlOf intent.tx ≤ execution.ledger.recordedEnd state.db intent)
    (announced : execution.ledger.onSubmitIntent state.db state.worker jobId intent =
      some after) : Advances ttlOf ends renames state.db after := by
  have covers := windows.announce reorg.jobs reorg.allotted
    (fun rowId isRow => ((reorg.executions jobId execution live).row rowId isRow).1)
    free records (execution.not_workflow_of_mayAnnounce may) announced
  obtain ⟨reserved, _, _, generation, marked⟩ := AttemptLedger.onSubmitIntent_cases announced
  rw [AttemptLedger.writeRow_generation] at generation
  exact .name covers isRenamed (AttemptLedger.onSubmitIntent_wrote announced)
    ((JobDb.updateJob_tables marked).2.trans generation)

/-- What an executor writes on its row. -/
theorem writeRow_advances (windows : TableWindows ttlOf state.db) {rowId : Nat} {write : RowWrite}
    (live : state.executions jobId = some execution) (isRow : execution.ledger.rowId = some rowId)
    (records : RecordsWindow ttlOf state (.execution jobId (.writeRow write))) :
    Advances ttlOf ends renames state.db (write.apply state.db rowId) := by
  by_cases names : ∃ txHash, write = .included (some txHash)
  · obtain ⟨txHash, rfl⟩ := names
    have covered := records execution live
    rw [isRow] at covered
    exact .of_rows (windows.includeRow covered) rfl rfl
  · have noHash : ∀ txHash, write ≠ .included (some txHash) :=
      fun txHash isWrite => names ⟨txHash, isWrite⟩
    exact (RowWrite.apply_carried noHash).advances windows

theorem WindowInvariant.telling (invariant : WindowInvariant ttlOf state)
    (reorg : ReorgInvariant owner state) :
    state.db.jobs.All (Telling owner state.rollbacks) :=
  fun id job found => ⟨reorg.jobs id job found, invariant.tables.announced id job found⟩

/-- Every write records its windows, and only what the chain answered ends a job as the chain
would. -/
theorem DbWrite.advances (reorg : ReorgInvariant owner state)
    (invariant : WindowInvariant ttlOf state) {event : LedgerEvent}
    (records : RecordsWindow ttlOf state event) (write : DbWrite state event after) :
    Advances ttlOf (state.eventEnds event) event.renames state.db after := by
  have windows := invariant.tables
  have rows := invariant.telling reorg
  have one {jobId : Nat} {write : JobWrite} {matching : BackgroundJob → Bool}
      {patch : Patch BackgroundJob} (wrote : Wrote (onlyRow jobId write) state.db after)
      (within : write.Within (state.eventEnds event) jobId)
      (updated : state.db.updateJob jobId matching patch = some after) :
      Carried (state.eventEnds event) state.db after :=
    wrote.carriedOne within rows (JobDb.updateJob_tables updated)
  cases write with
  | unchanged => exact (Carried.refl state.db).advances windows
  | startJob new _ => exact .startJob windows new
  | supersede replaced =>
    exact ((supersedeQueuedJobs_wrote _ _).carriedFree rows ⟨rfl, rfl⟩).advances windows
  | reclaim jobId => exact ((reclaimLease_wrote _ _).carriedFree rows ⟨rfl, rfl⟩).advances windows
  | recover worker count =>
    have tables := recoverFirst_fields state.db count
    exact (Carried.of_jobs (recoverFirst_follows count rows) tables.1 tables.2).advances windows
  | dropPending sessionIds =>
    exact ((dropPendingJobs_wrote _ _).carriedFree rows ⟨rfl, rfl⟩).advances windows
  | changeGrants grants =>
    have same : Carried (state.eventEnds event) state.db { state.db with grants } :=
      .of_jobs (Table.Rewrites.refl Follows.refl _) rfl rfl
    exact same.advances windows
  | claim marked => exact (one (markRunning_wrote marked) trivial marked).advances windows
  | insertRow rowId now _ _ =>
    exact .of_rows (windows.insertRow reorg.jobs reorg.allotted (by simp)) rfl rfl
  | crossBoundary _ marked =>
    exact (one (markJobExternalExecution_wrote marked) trivial marked).advances windows
  | announce live may _ free announced =>
    exact announce_advances reorg windows rfl live may free (records _ live) announced
  | closeRejected _ _ rejected =>
    exact (AttemptLedger.reject_carried rows rejected).advances windows
  | @closeGivenUp _ execution _ _ _ _ =>
    exact (closeRow_carried state.db execution.ledger.rowId .rebuilt).advances windows
  | @reportSubmitted _ execution tx now _ _ live phase marked =>
    have covered : Covered ttlOf state.db execution.ledger.rowId (some now) tx :=
      records execution live tx (by simp [phase, Phase.sent])
    have covers := windows.name (fun _ => ⟨rfl, rfl⟩) (fun _ => covered) marked
    exact .name covers rfl (markJobSubmitted_wrote marked) (JobDb.updateJob_tables marked).2
  | writeRow write live isRow _ _ => exact writeRow_advances windows live isRow records
  | persist _ _ marked => exact (one (markSucceeded_wrote marked) trivial marked).advances windows
  | persistFailure _ _ marked =>
    have other : ¬ ErrorCode.resultPersistFailed.onChain := by simp [ErrorCode.onChain]
    exact (one (markFailed_wrote marked) other marked).advances windows
  | @settle jobId execution verdict _ _ live phase marked =>
    cases verdict with
    | park code =>
      exact (one (markReconciliationRequired_wrote marked) trivial marked).advances windows
    | fail code =>
      have other := invariant.settles jobId execution live code phase
      exact (one (markFailed_wrote marked) other marked).advances windows
  | @confirm jobId execution seen generation _ answer live phase =>
    have isJob := ((reorg.executions jobId execution live).confirming seen generation phase).1
    refine (finalizeIdentifierKeyedJob_carried _ _ _ _ _ ?_ rows).advances windows
    exact fun _ failed => ⟨isJob.symm, rfl, answer, rfl, failed⟩
  | @lookup index lookup _ margin isLookup =>
    have same : state.eventEnds (.reconciler (.finalize index margin ‹_›)) = lookup.mayEnd := by
      funext code jobId
      simp [Ledger.eventEnds, isLookup]
    exact same ▸ (lookup.write_carried state.db margin rows).advances windows
  | @rollUp _ rollUp aggregate _ _ _ =>
    exact ((writeAggregate_wrote state.db rollUp.parentId aggregate).carriedOne trivial rows
      ⟨rfl, rfl⟩).advances windows
  | reconcileParent parentId =>
    exact (reconcileParent_carried parentId rows).advances windows
  | @settleRejected _ job _ _ =>
    exact (settleRejectedSponsorAttempt_carried state.db job rows).advances windows

/-- Every step records its windows and ends no other job as the chain would. -/
theorem ledgerStep_advances (reorg : ReorgInvariant owner state)
    (invariant : WindowInvariant ttlOf state) (event : LedgerEvent)
    (records : RecordsWindow ttlOf state event) :
    Advances ttlOf (state.eventEnds event) event.renames state.db (ledgerStep state event).db := by
  by_cases isRollback : ∃ fromHeight, event = .rollback fromHeight
  · obtain ⟨fromHeight, rfl⟩ := isRollback
    exact (rollbackJobs_carried state.db fromHeight (invariant.telling reorg)).advances
      invariant.tables
  · have write := ledgerStep_writes state event fun fromHeight isEvent =>
      isRollback ⟨fromHeight, isEvent⟩
    exact write.advances reorg invariant records

/-! ## The phases of the executions -/

section Phases

variable {fits : Nat → Phase → Prop}

/-- The phase is not about to write an outcome of its own. -/
def Phase.plain : Phase → Bool
  | .settling (.fail _) => false
  | .confirming _ _ => false
  | _ => true

theorem EachPhase.begins (each : EachPhase fits state.executions) {new : Execution}
    (fit : fits jobId new.phase) :
    EachPhase fits (state.setExecution jobId (some new)).executions := by
  intro id next live
  simp only [Ledger.setExecution] at live
  rcases mem_update live with ⟨rfl, ⟨⟩⟩ | ⟨same, live⟩
  · exact fit
  · exact each id next live

theorem EachPhase.stops (each : EachPhase fits state.executions) :
    EachPhase fits (state.setExecution jobId none).executions := by
  intro id next live
  simp only [Ledger.setExecution] at live
  rcases mem_update live with ⟨_, ⟨⟩⟩ | ⟨same, live⟩
  exact each id next live

variable (plain : ∀ jobId phase, phase.plain → fits jobId phase)

include plain

/-- Only a classified error leaves an execution about to write an outcome of its own. -/
theorem Turn.phases {event : ExecutionEvent} {next : Ledger} (turn : Turn state jobId event next)
    (each : EachPhase fits state.executions)
    (settles : ∀ current error, fits jobId (.settling (verdictOf current error)))
    (confirms : ∀ seen generation, state.db.getJobById jobId = some seen →
      fits jobId (.confirming seen generation)) : EachPhase fits next.executions := by
  cases turn with
  | stays | writes => exact each
  | claims | notClaimed | announces | rejects | closes | reopens =>
    exact each.begins (plain _ _ rfl)
  | moves live write step =>
    cases step with
    | decides => exact each.begins (settles _ _)
    | _ => exact each.begins (plain _ _ rfl)
  | asks live threw found => exact each.begins (confirms _ _ found)
  | ends => exact each.stops
  | @insertsRow execution _ _ live free => exact each.begins (each jobId execution live)

/-- What a step makes of the phases, by the tables before it. -/
theorem ledgerStep_phases (each : EachPhase fits state.executions)
    (settles : ∀ jobId current error, fits jobId (.settling (verdictOf current error)))
    (confirms : ∀ jobId seen generation, state.db.getJobById jobId = some seen →
      fits jobId (.confirming seen generation)) (event : LedgerEvent) :
    EachPhase fits (ledgerStep state event).executions := by
  cases event with
  | startJob | broadcast =>
    simp only [ledgerStep]
    split <;> exact each
  | restart worker count => simp [ledgerStep, restartLedger, EachPhase]
  | execution jobId event =>
    exact (ledgerStep_turn state jobId event).phases plain each (settles jobId) (confirms jobId)
  | reconciler event =>
    rw [ledgerStep, reconcilerStep_eq]
    exact each
  | _ => exact each

end Phases

theorem ledgerStep_settles
    (settles : EachPhase (fun _ phase => phase.SettlesOtherwise) state.executions)
    (event : LedgerEvent) :
    EachPhase (fun _ phase => phase.SettlesOtherwise) (ledgerStep state event).executions := by
  apply ledgerStep_phases ?_ settles (fun _ => verdictOf_settlesOtherwise) ?_ event
  · intro jobId phase isPlain code isPhase
    rw [isPhase] at isPlain
    cases isPlain
  · intro jobId seen generation _ code isPhase
    cases isPhase

/-- An event that leaves an execution asking the indexer has named no transaction on its job. -/
theorem Turn.unchanged_of_confirming {event : ExecutionEvent} {next : Ledger}
    (turn : Turn state jobId event next)
    (renames : (LedgerEvent.execution jobId event).renames jobId) {after : Execution}
    (live : next.executions jobId = some after) {seen : BackgroundJob} {generation : Nat}
    (phase : after.phase = .confirming seen generation) : next.db = state.db := by
  cases turn with
  | stays => rfl
  | moves _ _ step =>
    simp only [Ledger.setPhase, Ledger.setExecution, Function.update_self, Option.some.injEq]
      at live
    subst live
    cases step <;> cases phase
  | announces =>
    simp only [Ledger.setExecution, Function.update_self, Option.some.injEq] at live
    subst live
    cases phase
  | ends => simp [Ledger.setExecution] at live
  | _ => cases renames

theorem ledgerStep_unchanged {event : LedgerEvent} (renames : event.renames jobId)
    {after : Execution} (live : (ledgerStep state event).executions jobId = some after)
    {seen : BackgroundJob} {generation : Nat} (phase : after.phase = .confirming seen generation) :
    (ledgerStep state event).db = state.db := by
  cases event with
  | execution id inner =>
    have isJob : id = jobId := by cases inner <;> cases renames <;> rfl
    subst isJob
    exact (ledgerStep_turn state id inner).unchanged_of_confirming renames live phase
  | _ => cases renames

theorem ledgerStep_confirms (confirms : EachPhase (ConfirmsNamed state.db) state.executions)
    {event : LedgerEvent}
    (advances : Advances ttlOf ends event.renames state.db (ledgerStep state event).db) :
    EachPhase (ConfirmsNamed (ledgerStep state event).db) (ledgerStep state event).executions := by
  have before : EachPhase (ConfirmsNamed state.db) (ledgerStep state event).executions := by
    apply ledgerStep_phases ?_ confirms ?_ ?_ event
    · intro jobId phase isPlain seen generation isPhase
      rw [isPhase] at isPlain
      cases isPlain
    · intro jobId current error seen generation isPhase
      cases isPhase
    · intro jobId seen generation found other _ isPhase
      cases isPhase
      exact ⟨seen, found, Or.inr rfl⟩
  intro jobId execution live seen generation phase
  obtain ⟨row, found, names⟩ := before jobId execution live seen generation phase
  by_cases renamed : event.renames jobId
  · rw [ledgerStep_unchanged renamed live phase]
    exact ⟨row, found, names⟩
  · obtain ⟨next, isNext, gone | ⟨same, _⟩⟩ := advances.named jobId row renamed found
    · exact ⟨next, isNext, Or.inl gone⟩
    · exact ⟨next, isNext, by rwa [same]⟩

/-! ## The reconciler's memory -/

theorem Held.stored {seen : BackgroundJob} (found : db.jobs.find? seen.ID = some seen)
    (step : seen.kind.workflowParent = false) (rest : seen.AtRest) : Held db seen :=
  ⟨step, seen, found, rfl, rest, rfl, rfl, Or.inl rfl⟩

/-- The parked rows that the reconciler has read. -/
theorem Remembers.held {next : Ledger} {rollbacks : List (Nat × Nat)}
    (remembers : Remembers state next) (sound : state.db.jobs.All (JobSound owner rollbacks))
    (invariant : WindowInvariant ttlOf state) :
    (∀ pass ∈ next.pass, ∀ job ∈ pass.parked, Held state.db job) ∧
      ∀ lookup ∈ next.lookups, lookup.ofParked → Held state.db lookup.job := by
  constructor
  · intro pass isPass
    cases remembers.pass pass isPass with
    | kept held => exact invariant.parked pass held
    | @reread before held => exact invariant.parked before held
    | started parked succeeded =>
      intro job isJob
      obtain ⟨isRead, isMatch⟩ := List.mem_filter.mp isJob
      obtain ⟨jobId, _, found⟩ := List.mem_filterMap.mp isRead
      simp only [isParked, Bool.and_eq_true, decide_eq_true_eq] at isMatch
      have isKey : job.ID = jobId := Table.key_of_find? found
      have step : job.kind.workflowParent = false := by
        by_contra isParent
        have noHash := ((sound jobId job found).parent (by simpa using isParent)).1
        simp [noHash] at isMatch
      exact .stored (isKey ▸ found) step (Or.inl isMatch.1)
  · intro lookup isLookup
    cases remembers.lookups lookup isLookup with
    | kept held => exact invariant.lookups lookup held
    | @answered before held => exact invariant.lookups before held
    | ofParked held read => exact fun _ => invariant.parked _ held _ read
    | ofSucceeded held read => simp

theorem WindowInvariant.step (reorg : ReorgInvariant owner state)
    (invariant : WindowInvariant ttlOf state) (event : LedgerEvent)
    (records : RecordsWindow ttlOf state event) :
    WindowInvariant ttlOf (ledgerStep state event) := by
  have advances := ledgerStep_advances reorg invariant event records
  obtain ⟨parked, lookups⟩ := (ledgerStep_remembers state event).held reorg.jobs invariant
  exact ⟨advances.windows, ledgerStep_settles invariant.settles event,
    ledgerStep_confirms invariant.confirms advances,
    fun pass isPass job isJob => (parked pass isPass job isJob).onward advances.evolves,
    fun lookup isLookup ofParked => (lookups lookup isLookup ofParked).onward advances.evolves⟩

end Steps

end Nightgate.Submission
