import Nightgate.Submission.ParentOutcome

/-!
# The validity window of a broadcast

A broadcast counts as lost only past its validity window, and the window is what the
tables recorded when the transaction was announced. Once a job rests, its names and its
window no longer change, so a lookup may go by the row its pass has read.
-/

namespace Nightgate.Submission

open Library

/-- Parked, or ended. -/
def BackgroundJob.AtRest (job : BackgroundJob) : Prop :=
  job.status = .reconciliationRequired ∨ job.status = .succeeded ∨ job.status = .failed

/-- Failed with a code. -/
def BackgroundJob.EndedAs (job : BackgroundJob) (code : ErrorCode) : Prop :=
  job.status = .failed ∧ job.errorCode = some code

/-- It was not the chain that ended the job. -/
def BackgroundJob.EndsOtherwise (job : BackgroundJob) : Prop :=
  ∀ code : ErrorCode, code.onChain → ¬ job.EndedAs code

theorem BackgroundJob.EndsOtherwise.of_status {job : BackgroundJob}
    (status : job.status ≠ .failed) :
    job.EndsOtherwise :=
  fun _ _ ended => status ended.1

theorem BackgroundJob.EndsOtherwise.of_code {job : BackgroundJob} {code : ErrorCode}
    (isCode : job.errorCode = some code) (other : ¬ code.onChain) : job.EndsOtherwise := by
  rintro onChain isOnChain ⟨_, isOther⟩
  rw [isCode] at isOther
  cases isOther
  exact other isOnChain

/-- Ended as never included. -/
def BackgroundJob.Lost (job : BackgroundJob) : Prop :=
  job.status = .failed ∧ job.errorCode = some .broadcastNotIncluded

instance (job : BackgroundJob) : Decidable job.Lost :=
  inferInstanceAs (Decidable (job.status = .failed ∧ job.errorCode = some .broadcastNotIncluded))

/-- Ended because the attempt it waited for was rejected. -/
def BackgroundJob.Dismissed (job : BackgroundJob) : Prop :=
  job.status = .failed ∧ job.errorCode = some .sponsorAttemptRejected

/-- A job with a hash was announced: it is in submission or at rest. -/
def BackgroundJob.Announced (job : BackgroundJob) : Prop :=
  job.txHash.isSome → job.status = .submitted ∨ job.AtRest

/-- What an update leaves of a job. Only a job in `ends` may be ended by the chain, with that
code. -/
structure Onward (ends : ErrorCode → Nat → Prop) (job next : BackgroundJob) : Prop where
  ID : next.ID = job.ID
  kind : next.kind = job.kind
  announced : job.Announced → next.Announced
  ended : ∀ code : ErrorCode, code.onChain → ¬ ends code job.ID → next.EndedAs code →
    job.EndedAs code
  rest : job.kind.workflowParent = false → job.AtRest →
    next.AtRest ∧ next.submissionId = job.submissionId ∧ next.submittedAt = job.submittedAt ∧
      (next.txHash = job.txHash ∨ next.Dismissed)
  dismissed : job.kind.workflowParent = false → job.Dismissed → next.Dismissed

/-- The hash goes, or hash, row and submit time stay. -/
def SameNames (job next : BackgroundJob) : Prop :=
  next.txHash = none ∨ (next.txHash = job.txHash ∧ next.submissionId = job.submissionId ∧
    next.submittedAt = job.submittedAt)

section Relations

variable {ends : ErrorCode → Nat → Prop} {job next : BackgroundJob}

theorem Onward.refl (job : BackgroundJob) : Onward ends job job :=
  ⟨rfl, rfl, id, fun _ _ _ => id, fun _ rest => ⟨rest, rfl, rfl, Or.inl rfl⟩, fun _ => id⟩

theorem Onward.trans (first second third : BackgroundJob)
    (toSecond : Onward ends first second) (toThird : Onward ends second third) :
    Onward ends first third where
  ID := toThird.ID.trans toSecond.ID
  kind := toThird.kind.trans toSecond.kind
  announced := fun announced => toThird.announced (toSecond.announced announced)
  ended := by
    intro code onChain outside ended
    have outsideThird : ¬ ends code second.ID := by rwa [toSecond.ID]
    exact toSecond.ended code onChain outside (toThird.ended code onChain outsideThird ended)
  rest := by
    intro step rest
    obtain ⟨restSecond, row, time, hash⟩ := toSecond.rest step rest
    have stepSecond : second.kind.workflowParent = false := toSecond.kind ▸ step
    obtain ⟨restThird, rowThird, timeThird, hashThird⟩ := toThird.rest stepSecond restSecond
    refine ⟨restThird, rowThird.trans row, timeThird.trans time, ?_⟩
    rcases hash with hash | dismissed
    · rcases hashThird with hashThird | dismissed
      · exact Or.inl (hashThird.trans hash)
      · exact Or.inr dismissed
    · exact Or.inr (toThird.dismissed stepSecond dismissed)
  dismissed := fun step dismissed =>
    toThird.dismissed (toSecond.kind ▸ step) (toSecond.dismissed step dismissed)

theorem SameNames.refl (job : BackgroundJob) : SameNames job job :=
  Or.inr ⟨rfl, rfl, rfl⟩

theorem SameNames.trans (first second third : BackgroundJob) (toSecond : SameNames first second)
    (toThird : SameNames second third) : SameNames first third := by
  rcases toThird with gone | ⟨hash, row, time⟩
  · exact Or.inl gone
  · rcases toSecond with gone | ⟨hashSecond, rowSecond, timeSecond⟩
    · exact Or.inl (hash.trans gone)
    · exact Or.inr ⟨hash.trans hashSecond, row.trans rowSecond, time.trans timeSecond⟩

/-- A job that is not at rest moves. -/
theorem Onward.of_active (active : ¬ job.AtRest) (ID : next.ID = job.ID)
    (kind : next.kind = job.kind) (announced : job.Announced → next.Announced)
    (otherwise : next.EndsOtherwise) : Onward ends job next where
  ID := ID
  kind := kind
  announced := announced
  ended := fun code onChain _ ended => absurd ended (otherwise code onChain)
  rest := fun _ rest => absurd rest active
  dismissed := fun _ dismissed => absurd (Or.inr (Or.inr dismissed.1)) active

/-- A job at rest that stays so under its names. -/
theorem Onward.of_rest (rest : next.AtRest) (ID : next.ID = job.ID) (kind : next.kind = job.kind)
    (row : next.submissionId = job.submissionId) (time : next.submittedAt = job.submittedAt)
    (hash : next.txHash = job.txHash)
    (ended : ∀ code : ErrorCode, code.onChain → ¬ ends code job.ID → next.EndedAs code →
      job.EndedAs code)
    (notDismissed : ¬ job.Dismissed) : Onward ends job next where
  ID := ID
  kind := kind
  announced := fun _ _ => Or.inr rest
  ended := ended
  rest := fun _ _ => ⟨rest, row, time, Or.inl hash⟩
  dismissed := fun _ dismissed => absurd dismissed notDismissed

end Relations

/-! ## Writes on the jobs -/

/-- Both relations at once. -/
def Follows (ends : ErrorCode → Nat → Prop) (job next : BackgroundJob) : Prop :=
  Onward ends job next ∧ SameNames job next

theorem Follows.refl {ends : ErrorCode → Nat → Prop} (job : BackgroundJob) : Follows ends job job :=
  ⟨Onward.refl job, SameNames.refl job⟩

theorem Follows.trans {ends : ErrorCode → Nat → Prop} (first second third : BackgroundJob)
    (toSecond : Follows ends first second) (toThird : Follows ends second third) :
    Follows ends first third :=
  ⟨Onward.trans first second third toSecond.1 toThird.1,
    SameNames.trans first second third toSecond.2 toThird.2⟩

section Updates

variable {ends : ErrorCode → Nat → Prop} {owner : Nat → Option Nat} {rollbacks : List (Nat × Nat)}
  {db after : JobDb} {worker jobId : Nat} {write : JobWrite} {job next : BackgroundJob}

/-- A job that is queued or runs has no hash. -/
theorem BackgroundJob.Announced.unsent (announced : job.Announced) (unsent : job.Unsent) :
    job.txHash = none := by
  cases hash : job.txHash with
  | none => rfl
  | some txHash =>
    have status := announced (by simp [hash])
    simp only [AtRest] at status
    rcases unsent with unsent | unsent | unsent <;> simp [unsent] at status

theorem active_of_heldBy (held : heldBy worker job) : ¬ job.AtRest := by
  obtain ⟨notSucceeded, notFailed, notParked⟩ := unsettled_of_heldBy held
  rintro (status | status | status)
  · exact notParked status
  · exact notSucceeded status
  · exact notFailed status

theorem active_of_unsent (unsent : job.Unsent) : ¬ job.AtRest := by
  rcases unsent with unsent | unsent | unsent <;> simp [BackgroundJob.AtRest, unsent]

/-- An active job comes to rest under its names. -/
theorem Follows.of_rested (active : ¬ job.AtRest)
    (rested : next.AtRest) (ID : next.ID = job.ID) (kind : next.kind = job.kind)
    (names : SameNames job next) (otherwise : next.EndsOtherwise) : Follows ends job next :=
  ⟨Onward.of_active active ID kind (fun _ _ => Or.inr rested) otherwise, names⟩

/-- An active job goes on without a hash. -/
theorem Follows.of_unsent (active : ¬ job.AtRest)
    (unsent : next.txHash = none) (ID : next.ID = job.ID) (kind : next.kind = job.kind)
    (otherwise : next.EndsOtherwise) : Follows ends job next := by
  refine ⟨Onward.of_active active ID kind ?_ otherwise, Or.inl unsent⟩
  intro _ isSome
  simp [unsent] at isSome

/-- The outcome ends the job. -/
def FinalizeFrom.terminal : FinalizeFrom → Bool
  | .succeeded _ => false
  | _ => true

/-- A finalized job that failed was told so by the outcome. -/
theorem finalizedJob_ended {start : FinalizeFrom} {outcome : ChainOutcome}
    {evidence : ChainEvidence} {code : ErrorCode} (isMatch : start.matching job)
    (ended : ((finalizedJob outcome evidence start).set job).EndedAs code) :
    start.terminal ∧ outcome.status = .failure ∧ code = .chainExecutionFailed := by
  obtain ⟨failed, isCode⟩ := ended
  cases start with
  | succeeded chainStatusWas =>
    simp only [FinalizeFrom.matching, Bool.and_eq_true, decide_eq_true_eq] at isMatch
    simp [finalizedJob, isMatch.1] at failed
  | reconciliationRequired | inFlight worker =>
    cases status : outcome.status with
    | success => simp [finalizedJob, status] at failed
    | failure =>
      simp only [finalizedJob, status, reduceCtorEq, if_false, Option.some.injEq] at isCode
      exact ⟨rfl, rfl, isCode.symm⟩

/-- The job of an outcome rests under its names afterwards. -/
theorem finalizedJob_follows {start : FinalizeFrom} {outcome : ChainOutcome}
    {evidence : ChainEvidence} (isMatch : start.matching job)
    (may : start.terminal → outcome.status = .failure → ends .chainExecutionFailed job.ID) :
    Follows ends job ((finalizedJob outcome evidence start).set job) := by
  have ended : ∀ code : ErrorCode, code.onChain → ¬ ends code job.ID →
      ((finalizedJob outcome evidence start).set job).EndedAs code → job.EndedAs code := by
    intro code _ outside ended
    obtain ⟨terminal, failed, rfl⟩ := finalizedJob_ended isMatch ended
    exact absurd (may terminal failed) outside
  cases start with
  | succeeded chainStatusWas =>
    simp only [FinalizeFrom.matching, Bool.and_eq_true, decide_eq_true_eq] at isMatch
    exact ⟨.of_rest (Or.inr (Or.inl isMatch.1)) rfl rfl rfl rfl rfl ended
      (by simp [BackgroundJob.Dismissed, isMatch.1]), SameNames.refl _⟩
  | reconciliationRequired =>
    have parked : job.status = .reconciliationRequired := of_decide_eq_true isMatch
    refine ⟨.of_rest ?_ rfl rfl rfl rfl rfl ended (by simp [BackgroundJob.Dismissed, parked]),
      SameNames.refl _⟩
    cases status : outcome.status <;> simp [BackgroundJob.AtRest, finalizedJob, status]
  | inFlight worker =>
    have active := active_of_heldBy isMatch
    have rested : ((finalizedJob outcome evidence (.inFlight worker)).set job).AtRest := by
      cases status : outcome.status <;> simp [BackgroundJob.AtRest, finalizedJob, status]
    exact ⟨⟨rfl, rfl, fun _ _ => Or.inr rested, ended, fun _ rest => absurd rest active,
      fun _ dismissed => absurd (Or.inr (Or.inr dismissed.1)) active⟩, SameNames.refl _⟩

theorem revertedJob_follows (fromHeight : Nat) (job : BackgroundJob) :
    Follows ends job (revertedJob fromHeight job) := by
  simp only [revertedJob]
  split
  next isFailed =>
    simp only [Bool.and_eq_true, decide_eq_true_eq] at isFailed
    exact ⟨.of_rest (Or.inl rfl) rfl rfl rfl rfl rfl
      (fun _ _ _ ended => by simp [BackgroundJob.EndedAs] at ended)
      (by simp [BackgroundJob.Dismissed, isFailed.2]), SameNames.refl _⟩
  · split
    · exact ⟨⟨rfl, rfl, id, fun _ _ _ => id, fun _ rest => ⟨rest, rfl, rfl, Or.inl rfl⟩,
        fun _ => id⟩, SameNames.refl _⟩
    · exact Follows.refl job

/-- A write names no transaction, and what it ends is in `ends`. -/
def JobWrite.Within (ends : ErrorCode → Nat → Prop) (jobId : Nat) : JobWrite → Prop
  | .send _ _ _ _ => False
  | .fail _ code => ¬ code.onChain
  | .finalize start outcome _ =>
    start.terminal → outcome.status = .failure → ends .chainExecutionFailed jobId
  | .lose => ends .broadcastNotIncluded jobId
  | _ => True

/-- A workflow that waits for its steps sends nothing itself. -/
theorem Follows.of_parent (sound : JobSound owner rollbacks job)
    (parent : job.kind.workflowParent) (ID : next.ID = job.ID) (kind : next.kind = job.kind)
    (hash : next.txHash = job.txHash) (otherwise : next.EndsOtherwise) : Follows ends job next := by
  have unsent : next.txHash = none := hash.trans (sound.parent parent).1
  refine ⟨⟨ID, kind, ?_, fun code onChain _ ended => absurd ended (otherwise code onChain), ?_, ?_⟩,
    Or.inl unsent⟩
  · intro _ isSome
    simp [unsent] at isSome
  · intro step
    simp [parent] at step
  · intro step
    simp [parent] at step

theorem JobWrite.recovers.within (recovers : write.recovers) (jobId : Nat) :
    write.Within ends jobId := by
  cases write <;> first | exact trivial | rcases recovers with ⟨⟨⟩⟩ | ⟨⟨⟩⟩

theorem JobWrite.Makes.follows (makes : write.Makes job next) (within : write.Within ends job.ID)
    (sound : JobSound owner rollbacks job) (announced : job.Announced) : Follows ends job next := by
  cases makes with
  | claim pending =>
    exact .of_unsent (active_of_unsent (.inl pending)) (announced.unsent (.inl pending)) rfl rfl
      (.of_status (by simp))
  | crossBoundary running | requeue running =>
    exact .of_unsent (active_of_unsent (.inr (.inl running)))
      (announced.unsent (.inr (.inl running))) rfl rfl (.of_status (by simp))
  | send => exact within.elim
  | reject past =>
    exact .of_unsent (active_of_heldBy (heldBy_of_pastBoundary past)) rfl rfl rfl
      (.of_status (by simp))
  | succeed held =>
    exact .of_rested (active_of_heldBy held) (Or.inr (Or.inl rfl)) rfl rfl (SameNames.refl _)
      (.of_status (by simp))
  | fail held =>
    exact .of_rested (active_of_heldBy held) (Or.inr (Or.inr rfl)) rfl rfl (SameNames.refl _)
      (.of_code rfl within)
  | park held =>
    exact .of_rested (active_of_heldBy held) (Or.inl rfl) rfl rfl (SameNames.refl _)
      (.of_status (by simp))
  | drop unsent other =>
    exact .of_rested (active_of_unsent unsent) (Or.inr (Or.inr rfl)) rfl rfl (SameNames.refl _)
      (.of_code rfl other)
  | parkSent sent =>
    have active : ¬ job.AtRest := by
      rcases sent with status | status <;> simp [BackgroundJob.AtRest, status]
    exact .of_rested active (Or.inl rfl) rfl rfl (SameNames.refl _) (.of_status (by simp))
  | finalize isMatch => exact finalizedJob_follows isMatch within
  | lose parked =>
    refine ⟨.of_rest (Or.inr (Or.inr rfl)) rfl rfl rfl rfl rfl ?_
      (by simp [BackgroundJob.Dismissed, parked]), SameNames.refl _⟩
    intro code _ outside ended
    cases ended.2
    exact absurd within outside
  | settleRejected =>
    refine ⟨⟨rfl, rfl, ?_, ?_, ?_, ?_⟩, Or.inl rfl⟩
    · intro _ isSome
      simp at isSome
    · intro code onChain _ ended
      cases ended.2
      simp [ErrorCode.onChain] at onChain
    · exact fun _ _ => ⟨Or.inr (Or.inr rfl), rfl, rfl, Or.inr ⟨rfl, rfl⟩⟩
    · exact fun _ _ => ⟨rfl, rfl⟩
  | requeueParent _ parent => exact .of_parent sound parent rfl rfl rfl (.of_status (by simp))
  | failParent _ parent =>
    exact .of_parent sound parent rfl rfl rfl (.of_code rfl (by simp [ErrorCode.onChain]))
  | rollUp succeeded =>
    exact ⟨.of_rest (Or.inr (Or.inl succeeded)) rfl rfl rfl rfl rfl (fun _ _ _ => id)
      (by simp [BackgroundJob.Dismissed, succeeded]), SameNames.refl _⟩
  | revert => exact revertedJob_follows _ _

theorem announced_follows {next : Library.Table BackgroundJob}
    (announced : db.jobs.All BackgroundJob.Announced)
    (follows : db.jobs.Rewrites (Follows ends) next) : next.All BackgroundJob.Announced := by
  intro id job found
  obtain ⟨before, stored, step⟩ := follows.of_find? found
  exact step.1.announced (announced id before stored)

/-- What the rows say of their jobs before a write. -/
def Telling (owner : Nat → Option Nat) (rollbacks : List (Nat × Nat)) (job : BackgroundJob) :
    Prop :=
  JobSound owner rollbacks job ∧ job.Announced

theorem Wrote.follows {allowed : Nat → JobWrite → Prop} (wrote : Wrote allowed db after)
    (within : ∀ id write, allowed id write → write.Within ends id)
    (rows : db.jobs.All (Telling owner rollbacks)) :
    db.jobs.Rewrites (Follows ends) after.jobs := by
  apply wrote.rewrites Follows.refl
  intro job next write found may makes
  exact makes.follows (within _ write may) (rows _ job found).1 (rows _ job found).2

theorem recoverFirst_follows (count : Nat) (rows : db.jobs.All (Telling owner rollbacks)) :
    db.jobs.Rewrites (Follows ends) (recoverFirst db count).jobs := by
  refine (recoverFirst_rewrites Follows.refl Follows.trans ?_ count rows).1
  intro job next write recovers makes telling
  have follows : Follows ends job next := makes.follows (recovers.within _) telling.1 telling.2
  exact ⟨follows, telling.1.recovered recovers makes, follows.1.announced telling.2⟩

/-- The answer of the chain ends a job with a code. -/
def ChainLookup.mayEnd (answer : ChainLookup) (code : ErrorCode) : Prop :=
  match answer with
  | .outcome told => code = .chainExecutionFailed ∧ told.status = .failure
  | .absent _ => code = .broadcastNotIncluded
  | .inconclusive => False

/-- The jobs a lookup may end, and with which code. -/
def Lookup.mayEnd (lookup : Lookup) (code : ErrorCode) (jobId : Nat) : Prop :=
  jobId = lookup.job.ID ∧ lookup.ofParked ∧
    ∃ answer, lookup.answer = some answer ∧ answer.mayEnd code

theorem Lookup.mayEnd.absent {lookup : Lookup} {jobId : Nat}
    (mayEnd : lookup.mayEnd .broadcastNotIncluded jobId) :
    lookup.ofParked ∧ ∃ asOfMs, lookup.answer = some (.absent asOfMs) := by
  obtain ⟨_, ofParked, answer, isAnswer, ends⟩ := mayEnd
  cases answer with
  | outcome told => cases ends.1
  | absent asOfMs => exact ⟨ofParked, asOfMs, isAnswer⟩
  | inconclusive => exact ends.elim

theorem Lookup.mayEnd.outcome {lookup : Lookup} {jobId : Nat}
    (mayEnd : lookup.mayEnd .chainExecutionFailed jobId) :
    lookup.ofParked ∧ ∃ told, lookup.answer = some (.outcome told) ∧ told.status = .failure := by
  obtain ⟨_, ofParked, answer, isAnswer, ends⟩ := mayEnd
  cases answer with
  | outcome told => exact ⟨ofParked, told, isAnswer, ends.2⟩
  | absent asOfMs => cases ends
  | inconclusive => exact ends.elim

/-- A broadcast is written off past its window, for a parked job and at the counter of the
lookup. -/
theorem finalizeLostBroadcast_ends {job next : BackgroundJob} {tipMs : Option Nat}
    {margin generation : Nat}
    (found : (finalizeLostBroadcast db job tipMs margin generation).jobs.find? job.ID = some next)
    (lost : next.Lost) (notBefore : ∀ before, db.jobs.find? job.ID = some before → ¬ before.Lost) :
    ∃ current tip ttl, db.jobs.find? job.ID = some current ∧
      current.status = .reconciliationRequired ∧ next.txHash = current.txHash ∧
      tipMs = some tip ∧ broadcastTtlMs job (attemptRowOf db job) = some ttl ∧
      ttl + margin < tip ∧ db.reorgGeneration = generation := by
  simp only [finalizeLostBroadcast] at found
  split at found
  next tip ttl isTtl =>
    split at found
    · exact absurd lost (notBefore next found)
    next proceeds =>
      split at found
      next current =>
        rw [closeOpenRow_jobs] at found
        obtain ⟨before, stored, changed⟩ := Table.of_find?_update found
        rcases changed with ⟨_, parked, rfl⟩ | rfl
        · simp only [not_or, Nat.not_le, Bool.not_eq_true] at proceeds
          exact ⟨before, tip, ttl, stored, of_decide_eq_true parked, rfl, rfl, isTtl,
            proceeds.2.2, current.1⟩
        · exact absurd lost (notBefore next stored)
      · exact absurd lost (notBefore next found)
  · exact absurd lost (notBefore next found)

/-- An outcome is written at the counter of its lookup. -/
theorem finalizeIdentifierKeyedJob_ends {outcome : ChainOutcome} {start : FinalizeFrom}
    {generation id : Nat} {next : BackgroundJob} {code : ErrorCode}
    (found : (finalizeIdentifierKeyedJob db job outcome start generation).jobs.find? id = some next)
    (ended : next.EndedAs code)
    (notBefore : ∀ before, db.jobs.find? id = some before → ¬ before.EndedAs code) :
    db.reorgGeneration = generation := by
  simp only [finalizeIdentifierKeyedJob] at found
  split at found
  next current => exact current.1
  · exact absurd ended (notBefore next found)

end Updates

/-! ## Writes on the attempt rows -/

/-- The end of the validity window a row records. -/
def PendingSubmission.windowEnd (row : PendingSubmission) : Nat :=
  row.ttl.getD (row.submittedAt + LEGACY_BROADCAST_TTL_MS)

/-- Window and hash of a row stay. -/
def SameWindow (row next : PendingSubmission) : Prop :=
  next.windowEnd = row.windowEnd ∧ next.txHash = row.txHash

theorem SameWindow.refl (row : PendingSubmission) : SameWindow row row :=
  ⟨rfl, rfl⟩

theorem SameWindow.trans (first second third : PendingSubmission)
    (toSecond : SameWindow first second) (toThird : SameWindow second third) :
    SameWindow first third :=
  ⟨toThird.1.trans toSecond.1, toThird.2.trans toSecond.2⟩

/-- A write that announces nothing. -/
structure Carried (ends : ErrorCode → Nat → Prop) (db after : JobDb) : Prop where
  jobs : db.jobs.Rewrites (Follows ends) after.jobs
  rows : db.submissions.Rewrites SameWindow after.submissions
  generation : db.reorgGeneration ≤ after.reorgGeneration

section Rows

variable {ends : ErrorCode → Nat → Prop} {owner : Nat → Option Nat} {rollbacks : List (Nat × Nat)}
  {db middle after : JobDb} {worker jobId : Nat}

theorem Carried.refl (db : JobDb) : Carried ends db db :=
  ⟨Table.Rewrites.refl Follows.refl _, Table.Rewrites.refl SameWindow.refl _, Nat.le_refl _⟩

theorem Carried.trans (first : Carried ends db middle) (second : Carried ends middle after) :
    Carried ends db after :=
  ⟨Table.Rewrites.trans Follows.trans first.jobs second.jobs,
    Table.Rewrites.trans SameWindow.trans first.rows second.rows,
    Nat.le_trans first.generation second.generation⟩

/-- A write that concerns jobs alone. -/
theorem Carried.of_jobs (jobs : db.jobs.Rewrites (Follows ends) after.jobs)
    (rows : after.submissions = db.submissions)
    (generation : after.reorgGeneration = db.reorgGeneration) : Carried ends db after := by
  refine ⟨jobs, ?_, Nat.le_of_eq generation.symm⟩
  rw [rows]
  exact Table.Rewrites.refl SameWindow.refl _

/-- A write that concerns attempt rows alone. -/
theorem Carried.of_rows (rows : db.submissions.Rewrites SameWindow after.submissions)
    (jobs : after.jobs = db.jobs) (generation : after.reorgGeneration = db.reorgGeneration) :
    Carried ends db after :=
  ⟨jobs ▸ Table.Rewrites.refl Follows.refl _, rows, Nat.le_of_eq generation.symm⟩

/-- Writes of job rows alone. -/
theorem Wrote.carried {allowed : Nat → JobWrite → Prop} (wrote : Wrote allowed db after)
    (within : ∀ id write, allowed id write → write.Within ends id)
    (rows : db.jobs.All (Telling owner rollbacks))
    (tables : after.submissions = db.submissions ∧ after.reorgGeneration = db.reorgGeneration) :
    Carried ends db after :=
  .of_jobs (wrote.follows within rows) tables.1 tables.2

theorem Wrote.carriedOne {write : JobWrite} (wrote : Wrote (onlyRow jobId write) db after)
    (within : write.Within ends jobId) (rows : db.jobs.All (Telling owner rollbacks))
    (tables : after.submissions = db.submissions ∧ after.reorgGeneration = db.reorgGeneration) :
    Carried ends db after := by
  refine wrote.carried ?_ rows tables
  rintro _ _ ⟨rfl, rfl⟩
  exact within

/-- Writes that end or free a job without its executor. -/
theorem Wrote.carriedFree (wrote : Wrote (anyRow JobWrite.frees) db after)
    (rows : db.jobs.All (Telling owner rollbacks))
    (tables : after.submissions = db.submissions ∧ after.reorgGeneration = db.reorgGeneration) :
    Carried ends db after :=
  wrote.carried (fun id _ frees => JobWrite.recovers.within (.inl frees) id) rows tables

theorem closeRow_carried (db : JobDb) (rowId : Option Nat) (code : ErrorCode) :
    Carried ends db (closeRow db rowId code) := by
  cases rowId with
  | none => exact Carried.refl db
  | some rowId =>
    refine .of_rows ?_ rfl rfl
    exact Table.rewrites_update SameWindow.refl fun _ _ _ => ⟨rfl, rfl⟩

theorem deployRefund_carried (db : JobDb) (grantId count : Nat) :
    Carried ends db (deployRefund db grantId count) :=
  .of_jobs (Table.Rewrites.refl Follows.refl _) rfl rfl

theorem closeOpenRow_carried (db : JobDb) (submission : Option PendingSubmission)
    (code : ErrorCode) : Carried ends db (closeOpenRow db submission code) := by
  cases submission with
  | none => exact Carried.refl db
  | some row =>
    simp only [closeOpenRow]
    split
    · have closes : Carried ends db { db with
          submissions := db.submissions.update row.ID (fun row => row.status = .pending) {
            set := fun row => { row with status := .failed, errorCode := some code } } } := by
        refine .of_rows ?_ rfl rfl
        exact Table.rewrites_update SameWindow.refl fun _ _ _ => ⟨rfl, rfl⟩
      cases row.deployReservation with
      | none => exact closes
      | some reservation =>
        dsimp only
        split
        · exact closes.trans (deployRefund_carried _ _ _)
        · exact closes
    · exact Carried.refl db

theorem AttemptLedger.giveBack_carried (ledger : AttemptLedger) (db : JobDb) :
    Carried ends db (ledger.giveBack db) := by
  simp only [AttemptLedger.giveBack]
  split
  · exact Carried.refl db
  · split
    · exact deployRefund_carried _ _ _
    · exact Carried.refl db

theorem AttemptLedger.reject_carried {ledger : AttemptLedger} {tx : Tx}
    (rows : db.jobs.All (Telling owner rollbacks))
    (rejected : ledger.reject db worker jobId tx = some after) : Carried ends db after := by
  have closed : Carried ends db (ledger.giveBack (closeRow db ledger.rowId .rejected)) :=
    (closeRow_carried db ledger.rowId .rejected).trans (ledger.giveBack_carried _)
  have tables := JobDb.updateJob_tables rejected
  refine ⟨(AttemptLedger.reject_wrote rejected).follows ?_ rows, ?_, ?_⟩
  · rintro _ _ ⟨rfl, rfl⟩
    trivial
  · rw [tables.1]
    exact closed.rows
  · rw [tables.2]
    exact closed.generation

/-- What an executor writes on its row, but a hash. -/
theorem RowWrite.apply_carried {write : RowWrite} {rowId : Nat}
    (noHash : ∀ txHash, write ≠ .included (some txHash)) :
    Carried ends db (write.apply db rowId) := by
  cases write with
  | note | fail =>
    refine .of_rows ?_ rfl rfl
    exact Table.rewrites_update SameWindow.refl fun _ _ _ => ⟨rfl, rfl⟩
  | included txHash =>
    cases txHash with
    | some txHash => exact absurd rfl (noHash txHash)
    | none =>
      refine .of_rows ?_ rfl rfl
      exact Table.rewrites_update SameWindow.refl fun _ _ _ => ⟨rfl, rfl⟩

theorem finalizeIdentifierKeyedJob_carried (db : JobDb) (job : BackgroundJob)
    (outcome : ChainOutcome) (start : FinalizeFrom) (generation : Nat)
    (may : start.terminal → outcome.status = .failure → ends .chainExecutionFailed job.ID)
    (rows : db.jobs.All (Telling owner rollbacks)) :
    Carried ends db (finalizeIdentifierKeyedJob db job outcome start generation) := by
  refine ⟨finalizeIdentifierKeyedJob_wrote.follows ?_ rows, ?_, ?_⟩
  · rintro _ _ ⟨rfl, rfl⟩
    exact may
  · simp only [finalizeIdentifierKeyedJob]
    split
    · dsimp only
      split
      · exact Table.Rewrites.refl SameWindow.refl _
      · exact Table.rewrites_update SameWindow.refl fun _ _ _ => ⟨rfl, rfl⟩
    · exact Table.Rewrites.refl SameWindow.refl _
  · simp only [finalizeIdentifierKeyedJob]
    split <;> exact Nat.le_refl _

theorem confirmChainOutcome_carried (db : JobDb) (job : BackgroundJob) (outcome : ChainOutcome)
    (generation : Nat) (rows : db.jobs.All (Telling owner rollbacks)) :
    Carried ends db (confirmChainOutcome db job outcome generation) := by
  refine ⟨confirmChainOutcome_wrote.follows ?_ rows, ?_, ?_⟩
  · rintro _ _ ⟨_, rfl⟩ impossible
    cases impossible
  · simp only [confirmChainOutcome]
    split
    · exact Table.rewrites_updateWhere SameWindow.refl fun _ _ _ _ => ⟨rfl, rfl⟩
    · exact Table.Rewrites.refl SameWindow.refl _
  · simp only [confirmChainOutcome]
    split <;> exact Nat.le_refl _

theorem finalizeLostBroadcast_carried (db : JobDb) (job : BackgroundJob) (tipMs : Option Nat)
    (margin generation : Nat) (may : ends .broadcastNotIncluded job.ID)
    (rows : db.jobs.All (Telling owner rollbacks)) :
    Carried ends db (finalizeLostBroadcast db job tipMs margin generation) := by
  have same : db.submissions.Rewrites SameWindow db.submissions ∧
      db.reorgGeneration ≤ db.reorgGeneration :=
    ⟨Table.Rewrites.refl SameWindow.refl _, Nat.le_refl _⟩
  suffices tables : db.submissions.Rewrites SameWindow
      (finalizeLostBroadcast db job tipMs margin generation).submissions ∧
      db.reorgGeneration ≤ (finalizeLostBroadcast db job tipMs margin generation).reorgGeneration by
    refine ⟨finalizeLostBroadcast_wrote.follows ?_ rows, tables.1, tables.2⟩
    rintro _ _ ⟨rfl, rfl⟩
    exact may
  simp only [finalizeLostBroadcast]
  split
  · split
    · exact same
    · split
      · have closes := @closeOpenRow_carried (fun _ _ => False) { db with
          jobs := db.jobs.update job.ID (fun job => job.status = .reconciliationRequired) {
            set := fun job => { job with
              status := .failed
              chainStatus := some .dropped
              errorCode := some .broadcastNotIncluded } } }
          (attemptRowOf db job) .broadcastNotIncluded
        exact ⟨closes.rows, closes.generation⟩
      · exact same
  · exact same

theorem Lookup.write_carried (lookup : Lookup) (db : JobDb) (margin : Nat)
    (rows : db.jobs.All (Telling owner rollbacks)) :
    Carried lookup.mayEnd db (lookup.write db margin) := by
  simp only [Lookup.write]
  split
  next outcome isAnswer isParked =>
    refine finalizeIdentifierKeyedJob_carried _ _ _ _ _ ?_ rows
    exact fun _ failed => ⟨rfl, isParked, _, isAnswer, rfl, failed⟩
  next asOfMs isAbsent isParked =>
    exact finalizeLostBroadcast_carried _ _ _ _ _ ⟨rfl, isParked, _, isAbsent, rfl⟩ rows
  · split
    · exact finalizeIdentifierKeyedJob_carried _ _ _ _ _ nofun rows
    · exact confirmChainOutcome_carried _ _ _ _ rows
  · exact Carried.refl db

theorem settleRejectedSponsorAttempt_carried (db : JobDb) (job : BackgroundJob)
    (rows : db.jobs.All (Telling owner rollbacks)) :
    Carried ends db (settleRejectedSponsorAttempt db job) := by
  have closed : Carried ends db (closeOpenRow db (rejectedRowOf db job) .rejected) :=
    closeOpenRow_carried _ _ _
  refine ⟨(settleRejectedSponsorAttempt_wrote db job).follows ?_ rows, closed.rows,
    closed.generation⟩
  rintro _ _ ⟨_, rfl⟩
  trivial

theorem reconcileParent_carried (parentId : Nat) (rows : db.jobs.All (Telling owner rollbacks)) :
    Carried ends db (reconcileParent db parentId) := by
  refine (reconcileParent_wrote db parentId).carried ?_ rows ?_
  · rintro _ _ (rfl | rfl) <;> trivial
  · simp only [reconcileParent]
    split
    · exact ⟨rfl, rfl⟩
    · split <;> exact ⟨rfl, rfl⟩

theorem rollbackJobs_carried (db : JobDb) (fromHeight : Nat)
    (rows : db.jobs.All (Telling owner rollbacks)) :
    Carried ends db (rollbackJobs db fromHeight) := by
  refine ⟨(rollbackJobs_wrote db fromHeight).follows ?_ rows, ?_, Nat.le_succ _⟩
  · rintro _ _ rfl
    trivial
  · intro id
    rw [rollbackJobs_submission]
    cases db.submissions.find? id with
    | none => exact .none
    | some row =>
      refine .some ?_
      simp only [revertedRow]
      split
      · exact ⟨rfl, rfl⟩
      · split <;> exact ⟨rfl, rfl⟩

end Rows

end Nightgate.Submission
