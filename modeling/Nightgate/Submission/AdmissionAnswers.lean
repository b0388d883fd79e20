import Nightgate.Submission.JobAdmission

/-!
# What a call of `startJob` answers

A call begins where its caller is free, makes its inserts, and ends with one answer. The answers
without a job are told from the inserts the call has made.
-/

namespace Nightgate.Submission

open Library

namespace Admission

variable {pinned : Nat → Bool} {s : Admission} {caller : Nat} {request : StartRequest}
  {inserts : List InsertOutcome} {event : AdmissionEvent}

/-- The insert a caller makes with an event, if a call of it has come to one, and what the database
does. -/
def insertOf (s : Admission) (caller : Nat) (event : AdmissionEvent) : List InsertOutcome :=
  match event, (s.callers caller).phase with
  | .insert other outcome, .inserting .. => if other = caller then [outcome] else []
  | _, _ => []

/-- The inserts a caller makes in a run. -/
def insertsOf (pinned : Nat → Bool) (caller : Nat) : Admission → List AdmissionEvent →
    List InsertOutcome
  | _, [] => []
  | s, event :: rest =>
    s.insertOf caller event ++ insertsOf pinned caller (s.step pinned event) rest

/-- Where a call that made these inserts may answer without a job: the key is too long, the insert
lost the lock every time, or it failed for another reason than a taken key. -/
def Excused (request : StartRequest) (inserts : List InsertOutcome) : StartAnswer → Prop
  | .keyInvalid => IDEMPOTENCY_KEY_MAX_LENGTH < utf16Length request.tuple.idempotencyKey
  | .busy => inserts.count .lockContention = LOCK_CONTENTION_ATTEMPTS
  | .insertError => .error ∈ inserts
  | .started _ | .existing _ | .conflict => True

/-- The answer was given to a call of this run that began where the caller was free and ended with
it. -/
def Ended (pinned : Nat → Bool) (events : List AdmissionEvent) (caller : Nat)
    (entry : StartRequest × StartAnswer) : Prop :=
  ∃ before during after, events = before ++ .startJob caller entry.1 :: (during ++ after) ∧
    let began := run (step pinned) start before
    let call := AdmissionEvent.startJob caller entry.1 :: during
    (began.callers caller).phase = .idle ∧ ((run (step pinned) began call).callers caller).answers =
        (began.callers caller).answers ++ [entry] ∧
      Excused entry.1 (insertsOf pinned caller began call) entry.2

/-- What the phase of a call says about its inserts. -/
def Counted (inserts : List InsertOutcome) : AdmissionPhase → Prop
  | .inserting _ attempt | .insertFailed _ attempt .uniqueViolation =>
    inserts.count .lockContention = attempt ∧ attempt < LOCK_CONTENTION_ATTEMPTS
  | .insertFailed _ attempt .lockContention =>
    inserts.count .lockContention = attempt + 1 ∧ attempt < LOCK_CONTENTION_ATTEMPTS
  | .insertFailed _ _ .other => .error ∈ inserts
  | .looking _ => inserts = []
  | .idle | .lookingAgain _ => True

/-- One step of a call that is under way: it goes on with its request, it answers, or it is given
up with its transaction. -/
inductive CallStep (request : StartRequest) (inserts : List InsertOutcome) (old new : Caller) : Prop
  | goesOn (same : new.phase.request? = some request) (kept : new.answers = old.answers)
      (counted : Counted inserts new.phase)
  | answers (answer : StartAnswer) (idle : new.phase = .idle)
      (added : new.answers = old.answers ++ [(request, answer)])
      (excused : Excused request inserts answer)
  | givenUp (idle : new.phase = .idle) (kept : new.answers = old.answers)

theorem CallStep.answered (answer : StartAnswer) (excused : Excused request inserts answer) :
    CallStep request inserts (s.callers caller)
      ((s.answer caller request answer).callers caller) := by
  rw [Admission.answer, setCaller_self]
  exact .answers answer rfl rfl excused

theorem CallStep.moved {phase : AdmissionPhase} (same : phase.request? = some request)
    (counted : Counted inserts phase) :
    CallStep request inserts (s.callers caller) ((s.moveTo caller phase).callers caller) := by
  rw [moveTo, setCaller_self]
  exact .goesOn same rfl counted

/-- A call under way began where its caller was free, and has answered nothing. -/
def UnderWay (pinned : Nat → Bool) (past : List AdmissionEvent) (caller : Nat)
    (record : Caller) : Prop :=
  ∀ request, record.phase.request? = some request →
    ∃ before during, past = before ++ .startJob caller request :: during ∧
      let began := run (step pinned) start before
      (began.callers caller).phase = .idle ∧ record.answers = (began.callers caller).answers ∧
        Counted (insertsOf pinned caller began (.startJob caller request :: during)) record.phase

/-- What is known of a caller's calls in a run. -/
def Known (pinned : Nat → Bool) (past : List AdmissionEvent) (caller : Nat) (record : Caller) :
    Prop :=
  UnderWay pinned past caller record ∧ ∀ entry ∈ record.answers, Ended pinned past caller entry

variable {past : List AdmissionEvent}

theorem Ended.later {entry : StartRequest × StartAnswer}
    (ended : Ended pinned past caller entry) (event : AdmissionEvent) :
    Ended pinned (past ++ [event]) caller entry := by
  obtain ⟨before, during, after, rfl, facts⟩ := ended
  refine ⟨before, during, after ++ [event], ?_, facts⟩
  simp only [List.append_assoc, List.cons_append]

/-- However the statements of the callers interleave, no two rows have one ID, those of open
transactions included, and a job is dispatched once at most, and only after its commit. -/
theorem dispatched_after_commit (pinned : Nat → Bool) (events : List AdmissionEvent) :
    let s := run (step pinned) start events
    (s.held.map AdmittedJob.ID).Nodup ∧ s.scheduled.Nodup ∧
      ∀ jobId ∈ s.scheduled, ∃ job ∈ s.committed, job.ID = jobId := by
  have sound := run_sound pinned events
  exact ⟨sound.rows.ids, (List.nodup_append.mp sound.tickets.once).1, sound.tickets.scheduled⟩

end Admission

end Nightgate.Submission
