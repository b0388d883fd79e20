import Nightgate.Submission.JobWrites

/-!
# Inclusion data under rollbacks

A rollback takes back all inclusion data from its height upwards, and an outcome looked
up before it can no longer be written. The first needs every row with inclusion data to
be in a state the rollback looks for. An executor that still writes on its attempt row
must therefore find it without inclusion data: a row belongs to one job, and a job in
execution waits for no outcome.
-/

namespace Nightgate.Submission

open Library

/-- Every rollback that reached the block was counted before the lookup began. -/
def Fresh (rollbacks : List (Nat × Nat)) (evidence : ChainEvidence) : Prop :=
  ∀ rollback ∈ rollbacks, rollback.1 ≤ evidence.blockHeight → rollback.2 ≤ evidence.lookedUpAt

/-- The job carries a chain outcome. -/
def BackgroundJob.ReportsOutcome (job : BackgroundJob) : Prop :=
  job.chainStatus = some .success ∨ job.chainStatus = some .failure

/-- The law of the rollback counter. The outcome of a workflow is that of its steps and
has no block of its own. -/
structure ReorgLaw (state : Ledger) : Prop where
  jobs : state.db.jobs.All fun job =>
    (∀ evidence ∈ job.evidence, Fresh state.rollbacks evidence) ∧
      (job.kind.workflowParent = false → job.ReportsOutcome → job.evidence.isSome)
  submissions : state.db.submissions.All fun row =>
    (∀ evidence ∈ row.evidence, Fresh state.rollbacks evidence) ∧
      (row.status = .finalized → row.evidence.isSome)

/-- An outcome was written for the job, or it waits for one. -/
def BackgroundJob.Settled (job : BackgroundJob) : Prop :=
  job.status = .reconciliationRequired ∨ job.status = .succeeded ∨
    (job.status = .failed ∧ job.errorCode = some .chainExecutionFailed)

/-- What every job row keeps. `owner` is the job an attempt row belongs to. -/
structure JobSound (owner : Nat → Option Nat) (rollbacks : List (Nat × Nat))
    (job : BackgroundJob) : Prop where
  settled : job.evidence.isSome → (job.status = .succeeded ∧ job.ReportsOutcome) ∨
      (job.status = .failed ∧ job.errorCode = some .chainExecutionFailed)
  recorded : job.kind.workflowParent = false → job.ReportsOutcome → job.evidence.isSome
  parent : job.kind.workflowParent → job.txHash = none ∧ job.evidence = none
  fresh : ∀ evidence ∈ job.evidence, Fresh rollbacks evidence
  hash : ∀ txHash ∈ job.txHash, txHash.tx.job = job.ID
  row : ∀ rowId ∈ job.submissionId, owner rowId = some job.ID

/-- What every attempt row keeps. -/
structure RowSound (owner : Nat → Option Nat) (rollbacks : List (Nat × Nat))
    (row : PendingSubmission) : Prop where
  settled : row.evidence.isSome → row.status = .included ∨ row.status = .finalized ∨
      (row.status = .failed ∧ row.errorCode = some .chainExecutionFailed)
  recorded : row.status = .finalized → row.evidence.isSome
  fresh : ∀ evidence ∈ row.evidence, Fresh rollbacks evidence
  hash : ∀ txHash ∈ row.txHash, owner row.ID = some txHash.tx.job

section Rows

variable {owner : Nat → Option Nat} {rollbacks : List (Nat × Nat)}
  {job next : BackgroundJob} {row : PendingSubmission}

/-- A job that did not end has no inclusion data. -/
theorem JobSound.bare (sound : JobSound owner rollbacks job)
    (notSucceeded : job.status ≠ .succeeded) (notFailed : job.status ≠ .failed) :
    job.evidence = none := by
  cases evidence : job.evidence with
  | none => rfl
  | some recorded =>
    rcases sound.settled (by simp [evidence]) with succeeded | failed
    · exact absurd succeeded.1 notSucceeded
    · exact absurd failed.1 notFailed

/-- An open attempt row has no inclusion data. -/
theorem RowSound.bare (sound : RowSound owner rollbacks row) (pending : row.status = .pending) :
    row.evidence = none := by
  cases evidence : row.evidence with
  | none => rfl
  | some recorded =>
    have settled := sound.settled (by simp [evidence])
    simp [pending] at settled

/-- A change of a job that leaves its inclusion data alone, reports no new outcome and
records only what belongs to the job. -/
structure Quiet (owner : Nat → Option Nat) (job next : BackgroundJob) : Prop where
  ID : next.ID = job.ID
  kind : next.kind = job.kind
  evidence : next.evidence = job.evidence
  outcome : next.ReportsOutcome → job.ReportsOutcome
  hash : ∀ txHash ∈ next.txHash, job.txHash = some txHash ∨
    (txHash.tx.job = job.ID ∧ job.kind.workflowParent = false)
  row : ∀ rowId ∈ next.submissionId, job.submissionId = some rowId ∨ owner rowId = some job.ID

theorem JobSound.quiet (sound : JobSound owner rollbacks job) (bare : job.evidence = none)
    (quiet : Quiet owner job next) : JobSound owner rollbacks next where
  settled := by
    intro isSome
    rw [quiet.evidence, bare] at isSome
    cases isSome
  recorded := by
    intro step outcome
    rw [quiet.evidence]
    exact sound.recorded (quiet.kind ▸ step) (quiet.outcome outcome)
  parent := by
    intro parent
    rw [quiet.kind] at parent
    refine ⟨?_, quiet.evidence.trans bare⟩
    cases hash : next.txHash with
    | none => rfl
    | some txHash =>
      rcases quiet.hash txHash hash with before | ⟨_, step⟩
      · rw [(sound.parent parent).1] at before
        cases before
      · rw [step] at parent
        cases parent
  fresh := by
    rw [quiet.evidence]
    exact sound.fresh
  hash := by
    intro txHash hash
    rw [quiet.ID]
    rcases quiet.hash txHash hash with before | ⟨own, _⟩
    · exact sound.hash txHash before
    · exact own
  row := by
    intro rowId isRow
    rw [quiet.ID]
    rcases quiet.row rowId isRow with before | own
    · exact sound.row rowId before
    · exact own

/-- More attempt rows may be given out. -/
theorem JobSound.mono {larger : Nat → Option Nat}
    (grows : ∀ rowId jobId, owner rowId = some jobId → larger rowId = some jobId)
    (sound : JobSound owner rollbacks job) : JobSound larger rollbacks job :=
  ⟨sound.settled, sound.recorded, sound.parent, sound.fresh, sound.hash,
    fun rowId isRow => grows rowId job.ID (sound.row rowId isRow)⟩

theorem RowSound.mono {larger : Nat → Option Nat}
    (grows : ∀ rowId jobId, owner rowId = some jobId → larger rowId = some jobId)
    (sound : RowSound owner rollbacks row) : RowSound larger rollbacks row :=
  ⟨sound.settled, sound.recorded, sound.fresh,
    fun txHash isHash => grows row.ID txHash.tx.job (sound.hash txHash isHash)⟩

end Rows

/-! ## Sound changes of the tables -/

/-- A job keeps its kind and, unless it is exempt, does not end. -/
structure Calm (exempt : Nat → Prop) (job next : BackgroundJob) : Prop where
  ID : next.ID = job.ID
  kind : next.kind = job.kind
  unsettled : ¬ exempt job.ID → ¬ job.Settled → ¬ next.Settled

variable {exempt : Nat → Prop}

theorem Calm.refl (job : BackgroundJob) : Calm exempt job job :=
  ⟨rfl, rfl, fun _ => id⟩

theorem Calm.trans (first second third : BackgroundJob)
    (toSecond : Calm exempt first second) (toThird : Calm exempt second third) :
    Calm exempt first third where
  ID := toThird.ID.trans toSecond.ID
  kind := toThird.kind.trans toSecond.kind
  unsettled := by
    intro outside unsettled
    exact toThird.unsettled (toSecond.ID ▸ outside) (toSecond.unsettled outside unsettled)

/-- An attempt row gets inclusion data only if its job is exempt. -/
structure KeepsBare (owner : Nat → Option Nat) (exempt : Nat → Prop)
    (row next : PendingSubmission) : Prop where
  ID : next.ID = row.ID
  bare : (∀ jobId, owner row.ID = some jobId → ¬ exempt jobId) → row.evidence = none →
    next.evidence = none

theorem KeepsBare.refl {owner : Nat → Option Nat}
    (row : PendingSubmission) : KeepsBare owner exempt row row :=
  ⟨rfl, fun _ => id⟩

theorem KeepsBare.trans {owner : Nat → Option Nat}
    (first second third : PendingSubmission) (toSecond : KeepsBare owner exempt first second)
    (toThird : KeepsBare owner exempt second third) : KeepsBare owner exempt first third where
  ID := toThird.ID.trans toSecond.ID
  bare := by
    intro outside bare
    exact toThird.bare (toSecond.ID ▸ outside) (toSecond.bare outside bare)

/-- The rows stay sound and present, and no job outside `exempt` ends. -/
structure Upholds (owner : Nat → Option Nat) (rollbacks : List (Nat × Nat))
    (exempt : Nat → Prop) (db after : JobDb) : Prop where
  jobs : db.jobs.All (JobSound owner rollbacks) → after.jobs.All (JobSound owner rollbacks)
  rows : db.submissions.All (RowSound owner rollbacks) →
    after.submissions.All (RowSound owner rollbacks)
  calm : db.jobs.Evolves (Calm exempt) after.jobs
  bare : db.submissions.Evolves (KeepsBare owner exempt) after.submissions
  generation : after.reorgGeneration = db.reorgGeneration

section Upholds

variable {owner : Nat → Option Nat} {rollbacks : List (Nat × Nat)} {exempt : Nat → Prop}
  {db middle after : JobDb}

theorem Upholds.of_grants (jobs : after.jobs = db.jobs)
    (submissions : after.submissions = db.submissions)
    (generation : after.reorgGeneration = db.reorgGeneration) :
    Upholds owner rollbacks exempt db after where
  jobs := by
    rw [jobs]
    exact id
  rows := by
    rw [submissions]
    exact id
  calm := by
    rw [jobs]
    exact Table.Evolves.refl Calm.refl db.jobs
  bare := by
    rw [submissions]
    exact Table.Evolves.refl KeepsBare.refl db.submissions
  generation := generation

theorem Upholds.refl (db : JobDb) : Upholds owner rollbacks exempt db db :=
  .of_grants rfl rfl rfl

theorem Upholds.trans (first : Upholds owner rollbacks exempt db middle)
    (second : Upholds owner rollbacks exempt middle after) :
    Upholds owner rollbacks exempt db after where
  jobs := fun sound => second.jobs (first.jobs sound)
  rows := fun sound => second.rows (first.rows sound)
  calm := Table.Evolves.trans Calm.trans first.calm second.calm
  bare := Table.Evolves.trans KeepsBare.trans first.bare second.bare
  generation := second.generation.trans first.generation

/-- An update of one job row. -/
theorem Upholds.updateJob {jobId : Nat} {matching : BackgroundJob → Bool}
    {patch : Patch BackgroundJob} (kind : ∀ job, (patch.set job).kind = job.kind)
    (sound : ∀ job, db.jobs.find? jobId = some job → JobSound owner rollbacks job →
      matching job → JobSound owner rollbacks (patch.set job))
    (unsettled : ∀ job, db.jobs.find? jobId = some job → matching job → ¬ exempt jobId →
      ¬ job.Settled → ¬ (patch.set job).Settled) :
    Upholds owner rollbacks exempt db { db with jobs := db.jobs.update jobId matching patch } where
  jobs := fun all => all.update sound
  rows := id
  calm := by
    apply Table.evolves_update Calm.refl
    intro job found isMatch
    have isJob : job.ID = jobId := Table.key_of_find? found
    exact ⟨patch.keeps job, kind job, fun outside => unsettled job found isMatch (isJob ▸ outside)⟩
  bare := Table.Evolves.refl KeepsBare.refl db.submissions
  generation := rfl

/-- An update of one attempt row. -/
theorem Upholds.updateRow {rowId : Nat} {matching : PendingSubmission → Bool}
    {patch : Patch PendingSubmission}
    (sound : ∀ row, db.submissions.find? rowId = some row → RowSound owner rollbacks row →
      matching row → RowSound owner rollbacks (patch.set row))
    (bare : ∀ row, (patch.set row).evidence = row.evidence) :
    Upholds owner rollbacks exempt db
      { db with submissions := db.submissions.update rowId matching patch } where
  jobs := id
  rows := fun all => all.update sound
  calm := Table.Evolves.refl Calm.refl db.jobs
  bare := by
    apply Table.evolves_update KeepsBare.refl
    intro row _ _
    exact ⟨patch.keeps row, fun _ isBare => (bare row).trans isBare⟩
  generation := rfl

/-- A new attempt row. -/
theorem Upholds.insertRow {row : PendingSubmission} (sound : RowSound owner rollbacks row) :
    Upholds owner rollbacks exempt db { db with submissions := db.submissions.insert row } where
  jobs := id
  rows := fun all => all.insert sound
  calm := Table.Evolves.refl Calm.refl db.jobs
  bare := Table.evolves_insert KeepsBare.refl row
  generation := rfl

end Upholds

/-! ## Writes of job rows -/

/-- What a write records belongs to the job. -/
def JobWrite.Owned (owner : Nat → Option Nat) (job : BackgroundJob) : JobWrite → Prop
  | .crossBoundary submissionId | .reject _ submissionId =>
    ∀ rowId ∈ submissionId, owner rowId = some job.ID
  | .send _ submissionId txHash _ =>
    (∀ rowId ∈ submissionId, owner rowId = some job.ID) ∧ txHash.tx.job = job.ID ∧
      job.kind.workflowParent = false
  | _ => True

/-- Writes after which a job waits for an outcome or has one. -/
def JobWrite.settles : JobWrite → Prop
  | .succeed _ | .fail _ _ | .park _ _ | .parkSent => True
  | _ => False

section Updates

variable {owner : Nat → Option Nat} {rollbacks : List (Nat × Nat)} {exempt : Nat → Prop}
  {db after : JobDb} {worker jobId : Nat} {write : JobWrite} {job next : BackgroundJob}

theorem JobWrite.Makes.isQuiet (makes : write.Makes job next) (quiet : write.quiet)
    (owned : write.Owned owner job) : Quiet owner job next := by
  cases makes with
  | crossBoundary =>
    exact ⟨rfl, rfl, rfl, id, fun _ => .inl, fun rowId isRow => .inr (owned rowId isRow)⟩
  | send =>
    refine ⟨rfl, rfl, rfl, by simp [BackgroundJob.ReportsOutcome], ?_,
      fun rowId isRow => .inr (owned.1 rowId isRow)⟩
    rintro _ ⟨⟩
    exact .inr owned.2
  | reject =>
    exact ⟨rfl, rfl, rfl, by simp [BackgroundJob.ReportsOutcome], by simp,
      fun rowId isRow => .inr (owned rowId isRow)⟩
  | lose =>
    exact ⟨rfl, rfl, rfl, by simp [BackgroundJob.ReportsOutcome], fun _ => .inl, fun _ => .inl⟩
  | settleRejected =>
    exact ⟨rfl, rfl, rfl, by simp [BackgroundJob.ReportsOutcome], by simp, fun _ => .inl⟩
  | finalize | rollUp | revert => exact quiet.elim
  | _ => exact ⟨rfl, rfl, rfl, id, fun _ => .inl, fun _ => .inl⟩

theorem JobSound.written (sound : JobSound owner rollbacks job) (makes : write.Makes job next)
    (quiet : write.quiet) (owned : write.Owned owner job) : JobSound owner rollbacks next :=
  sound.quiet (sound.bare (makes.inProgress quiet).1 (makes.inProgress quiet).2)
    (makes.isQuiet quiet owned)

theorem JobWrite.Makes.unsettled (makes : write.Makes job next) (quiet : write.quiet)
    (goesOn : ¬ write.settles) (unsettled : ¬ job.Settled) : ¬ next.Settled := by
  cases makes with
  | succeed | fail | park | parkSent => exact absurd trivial goesOn
  | drop _ other =>
    rintro (status | status | ended)
    · cases status
    · cases status
    · exact other (.inr (Option.some.inj ended.2))
  | lose parked | requeueParent parked | failParent parked => exact absurd (.inl parked) unsettled
  | settleRejected awaits => exact absurd (.inl (awaitsBookkeeping_iff.mp awaits).1) unsettled
  | finalize | rollUp | revert => exact quiet.elim
  | _ => simp [BackgroundJob.Settled]

/-- Quiet writes of job rows; they end no job outside `exempt`. -/
theorem Wrote.upholds {allowed : Nat → JobWrite → Prop} (wrote : Wrote allowed db after)
    (quiet : ∀ id write, allowed id write → write.quiet ∧ (write.settles → exempt id))
    (owned : ∀ job write, db.jobs.find? job.ID = some job → allowed job.ID write →
      write.Owned owner job)
    (tables : after.submissions = db.submissions ∧ after.reorgGeneration = db.reorgGeneration) :
    Upholds owner rollbacks exempt db after where
  jobs := by
    refine fun all => all.rewritten (wrote.rewrites (fun _ => id) ?_)
    intro job next write found may makes sound
    exact sound.written makes (quiet _ write may).1 (owned job write found may)
  rows := by
    rw [tables.1]
    exact id
  calm := by
    apply Table.Rewrites.evolves
    apply wrote.rewrites Calm.refl
    intro job next write _ may makes
    obtain ⟨isQuiet, settles⟩ := quiet _ write may
    exact ⟨makes.same.1, makes.same.2.1,
      fun outside => makes.unsettled isQuiet fun does => outside (settles does)⟩
  bare := by
    rw [tables.1]
    exact Table.Evolves.refl KeepsBare.refl db.submissions
  generation := tables.2

theorem Wrote.upholdsOne (wrote : Wrote (onlyRow jobId write) db after) (quiet : write.quiet)
    (settles : write.settles → exempt jobId)
    (owned : ∀ job, db.jobs.find? jobId = some job → write.Owned owner job)
    (tables : after.submissions = db.submissions ∧ after.reorgGeneration = db.reorgGeneration) :
    Upholds owner rollbacks exempt db after := by
  refine wrote.upholds ?_ ?_ tables
  · rintro _ _ ⟨rfl, rfl⟩
    exact ⟨quiet, settles⟩
  · rintro job _ found ⟨rfl, rfl⟩
    exact owned job found

theorem Wrote.freed (wrote : Wrote (anyRow JobWrite.frees) db after)
    (tables : after.submissions = db.submissions ∧ after.reorgGeneration = db.reorgGeneration) :
    Upholds owner rollbacks exempt db after := by
  refine wrote.upholds ?_ ?_ tables
  · intro _ write frees
    cases write <;> first | exact frees.elim | exact ⟨trivial, False.elim⟩
  · intro _ write _ frees
    cases write <;> first | exact frees.elim | exact trivial

/-- The recovery records nothing. -/
theorem JobSound.recovered (sound : JobSound owner rollbacks job) (recovers : write.recovers)
    (makes : write.Makes job next) : JobSound owner rollbacks next := by
  refine sound.written makes recovers.quiet ?_
  cases write <;> first | exact trivial | rcases recovers with ⟨⟨⟩⟩ | ⟨⟨⟩⟩

theorem recoverFirst_jobSound (db : JobDb) (count : Nat)
    (sound : db.jobs.All (JobSound owner rollbacks)) :
    (recoverFirst db count).jobs.All (JobSound owner rollbacks) := by
  refine (recoverFirst_rewrites (fun _ : BackgroundJob => trivial) (fun _ _ _ _ _ => trivial) ?_
    count sound).2
  exact fun job next write recovers makes sound => ⟨trivial, sound.recovered recovers makes⟩

/-- Closing an open attempt row; the deploys of a rejected one are given back. -/
theorem closeOpenRow_upholds (db : JobDb) (submission : Option PendingSubmission)
    (code : ErrorCode) : Upholds owner rollbacks exempt db (closeOpenRow db submission code) := by
  unfold closeOpenRow
  cases submission with
  | none => exact Upholds.refl db
  | some row =>
    dsimp only
    split
    · have closed : Upholds owner rollbacks exempt db { db with
          submissions := db.submissions.update row.ID (fun row => row.status = .pending) {
            set := fun row => { row with status := .failed, errorCode := some code } } } := by
        apply Upholds.updateRow _ fun _ => rfl
        intro row _ sound isOpen
        have bare := sound.bare (of_decide_eq_true isOpen)
        exact ⟨by simp [bare], by simp, sound.fresh, sound.hash⟩
      split
      · exact closed
      · split
        · exact closed.trans (.of_grants rfl rfl rfl)
        · exact closed
    · exact Upholds.refl db

/-- A change of an attempt row that has no inclusion data. -/
theorem RowSound.rewritten {row next : PendingSubmission}
    (sound : RowSound owner rollbacks row) (bare : next.evidence = none)
    (notFinalized : next.status ≠ .finalized) (ID : next.ID = row.ID)
    (hash : ∀ txHash ∈ next.txHash, row.txHash = some txHash ∨
      owner row.ID = some txHash.tx.job) : RowSound owner rollbacks next where
  settled := by simp [bare]
  recorded := fun finalized => absurd finalized notFinalized
  fresh := by simp [bare]
  hash := by
    intro txHash isHash
    rw [ID]
    rcases hash txHash isHash with before | own
    · exact sound.hash txHash before
    · exact own

theorem closeRow_upholds (db : JobDb) (rowId : Option Nat) (code : ErrorCode)
    (bare : ∀ id ∈ rowId, ∀ row, db.submissions.find? id = some row → row.evidence = none) :
    Upholds owner rollbacks exempt db (closeRow db rowId code) := by
  cases rowId with
  | none => exact Upholds.refl db
  | some id =>
    apply Upholds.updateRow _ fun _ => rfl
    intro row found sound _
    exact sound.rewritten (bare id rfl row found) (by simp) rfl fun _ => .inl

theorem RowWrite.apply_upholds (write : RowWrite) (db : JobDb) (rowId : Nat)
    (own : owner rowId = some jobId) (ofJob : write.ofJob jobId)
    (bare : ∀ row, db.submissions.find? rowId = some row → row.evidence = none) :
    Upholds owner rollbacks exempt db (write.apply db rowId) := by
  cases write with
  | note code =>
    apply Upholds.updateRow _ fun _ => rfl
    intro row found sound isOpen
    have pending : row.status = .pending := of_decide_eq_true isOpen
    exact sound.rewritten (bare row found) (by simp [pending]) rfl fun _ => .inl
  | fail code =>
    apply Upholds.updateRow _ fun _ => rfl
    intro row found sound _
    exact sound.rewritten (bare row found) (by simp) rfl fun _ => .inl
  | included txHash =>
    apply Upholds.updateRow _ fun _ => rfl
    intro row found sound _
    have hash : ∀ recorded ∈ txHash.or row.txHash, row.txHash = some recorded ∨
        owner row.ID = some recorded.tx.job := by
      intro recorded isRecorded
      cases txHash with
      | none => exact .inl isRecorded
      | some landed =>
        cases isRecorded
        have isRow : row.ID = rowId := Table.key_of_find? found
        rw [isRow, own]
        exact .inr (congrArg some (of_decide_eq_true ofJob).symm)
    exact sound.rewritten (bare row found) (by simp) rfl hash

end Updates

end Nightgate.Submission
