import Mathlib.Algebra.GroupWithZero.Nat
import Mathlib.Data.List.Nodup
import Nightgate.Library.Machine

/-!
# Admission of a job with an idempotency key

`startJob` reads the job of its key, inserts a row if there is none, and lets the unique
constraint decide between requests that read at the same time. It runs on the transaction
of its caller, or without one, where every statement commits on its own. Any number of
callers take their statements in any order. A statement sees what is committed and what its
own transaction wrote; an insert waits for a row of the same key that another transaction
has not committed yet.
-/

namespace Nightgate.Submission

open Library

/-- The columns of the constraint. An empty key counts as none. -/
@[ext] structure IdempotencyTuple where
  sessionId : String
  kind : String
  idempotencyKey : String
  given : idempotencyKey ≠ ""

instance : DecidableEq IdempotencyTuple := fun _ _ =>
  decidable_of_iff _ IdempotencyTuple.ext_iff.symm

/-- A SHA-256 digest, given by the text it is taken of. -/
structure Sha256 where
  text : String
  deriving DecidableEq

structure StartRequest where
  tuple : IdempotencyTuple
  /-- The stringified `idempotencyPayload`, or the request. -/
  payload : String
  deriving DecidableEq

def StartRequest.payloadFingerprint (request : StartRequest) : Sha256 :=
  ⟨request.tuple.kind ++ "\x00" ++ request.tuple.sessionId ++ "\x00" ++ request.payload⟩

/-- The row `startJob` inserts. -/
structure AdmittedJob where
  ID : Nat
  tuple : IdempotencyTuple
  payloadFingerprint : Sha256
  deriving DecidableEq

inductive StartAnswer where
  /-- A new job, `deduplicated: false`. -/
  | started (jobId : Nat)
  /-- The job of an earlier request, `deduplicated: true`. -/
  | existing (jobId : Nat)
  /-- `IdempotencyConflictError`. -/
  | conflict
  /-- `IdempotencyKeyInvalidError`. -/
  | keyInvalid
  /-- `JobAdmissionBusyError`. -/
  | busy
  /-- Another error of the insert. -/
  | insertError
  deriving DecidableEq

/-- The request was answered with a job, or with the conflict. -/
def StartAnswer.isDecided : StartAnswer → Bool
  | .started _ | .existing _ | .conflict => true
  | _ => false

def StartAnswer.jobId : StartAnswer → Option Nat
  | .started jobId | .existing jobId => some jobId
  | _ => none

def IDEMPOTENCY_KEY_MAX_LENGTH : Nat := 128

def LOCK_CONTENTION_ATTEMPTS : Nat := 5

/-- The length of a text in UTF-16 code units. -/
def utf16Length (text : String) : Nat :=
  (text.toList.map fun c => if c.toNat < 0x10000 then 1 else 2).sum

inductive InsertError where
  | lockContention
  | uniqueViolation
  | other
  deriving DecidableEq

inductive AdmissionPhase where
  | idle
  /-- Before the first `dedupExisting`. -/
  | looking (request : StartRequest)
  | inserting (request : StartRequest) (attempt : Nat)
  /-- The insert threw; the savepoint is next, where there is one. -/
  | insertFailed (request : StartRequest) (attempt : Nat) (error : InsertError)
  /-- The key was taken; `dedupExisting` is asked again. -/
  | lookingAgain (request : StartRequest)
  deriving DecidableEq

/-- The request a call works on. -/
def AdmissionPhase.request? : AdmissionPhase → Option StartRequest
  | .idle => none
  | .looking request | .inserting request _ | .insertFailed request _ _ | .lookingAgain request =>
    some request

inductive TxStatus where
  | active
  | committed
  | aborted
  deriving DecidableEq

structure Caller where
  phase : AdmissionPhase := .idle
  status : TxStatus := .active
  /-- A statement failed, and the transaction takes no more statements. -/
  broken : Bool := false
  answers : List (StartRequest × StartAnswer) := []

structure Admission where
  nextId : Nat
  committed : List AdmittedJob
  /-- Rows of open transactions, with their caller. -/
  uncommitted : List (Nat × AdmittedJob)
  callers : Nat → Caller
  /-- Handlers waiting for the commit of their caller, each with the job it dispatches. -/
  onSucceeded : List (Nat × Nat)
  /-- The jobs `startJob` dispatched. -/
  scheduled : List Nat

def Admission.start : Admission where
  nextId := 0
  committed := []
  uncommitted := []
  callers := fun _ => {}
  onSucceeded := []
  scheduled := []

/-- What the database does with an insert, apart from the unique constraint. -/
inductive InsertOutcome where
  | proceeds
  | lockContention
  | error
  deriving DecidableEq

inductive AdmissionEvent where
  | startJob (caller : Nat) (request : StartRequest)
  | look (caller : Nat)
  | insert (caller : Nat) (outcome : InsertOutcome)
  /-- What follows a failed insert. -/
  | recover (caller : Nat)
  | lookAgain (caller : Nat)
  | commit (caller : Nat)
  | abort (caller : Nat)
  /-- The context reports that its transaction succeeded. -/
  | succeeded (caller : Nat)

/-- Whose event it is. -/
def AdmissionEvent.caller : AdmissionEvent → Nat
  | .startJob caller _ | .look caller | .insert caller _ | .recover caller | .lookAgain caller
  | .commit caller | .abort caller | .succeeded caller => caller

namespace Admission

/-! ## Steps -/

def setCaller (s : Admission) (caller : Nat) (value : Caller) : Admission :=
  { s with callers := Function.update s.callers caller value }

/-- The rows a statement of this caller sees. -/
def visible (s : Admission) (caller : Nat) : List AdmittedJob :=
  s.committed ++ (s.uncommitted.filter fun entry => entry.1 = caller).map Prod.snd

/-- `dedupExisting`. -/
def dedupExisting (rows : List AdmittedJob) (request : StartRequest) : Option StartAnswer :=
  (rows.find? fun job => job.tuple = request.tuple).map fun existing =>
    if existing.payloadFingerprint ≠ request.payloadFingerprint then .conflict
    else .existing existing.ID

/-- The call returns or throws. -/
def answer (s : Admission) (caller : Nat) (request : StartRequest) (answer : StartAnswer) :
    Admission :=
  s.setCaller caller
    { s.callers caller with
      phase := .idle, answers := (s.callers caller).answers ++ [(request, answer)] }

def moveTo (s : Admission) (caller : Nat) (phase : AdmissionPhase) : Admission :=
  s.setCaller caller { s.callers caller with phase }

def startJob (s : Admission) (caller : Nat) (request : StartRequest) : Admission :=
  if (s.callers caller).status = .active ∧ (s.callers caller).phase = .idle then
    if utf16Length request.tuple.idempotencyKey > IDEMPOTENCY_KEY_MAX_LENGTH then
      s.answer caller request .keyInvalid
    else s.moveTo caller (.looking request)
  else s

def look (s : Admission) (caller : Nat) : Admission :=
  match (s.callers caller).phase with
  | .looking request =>
    match dedupExisting (s.visible caller) request with
    | some answer => s.answer caller request answer
    | none => s.moveTo caller (.inserting request 0)
  | _ => s

/-- A statement of the caller fails; on a transaction it blocks the ones after it. -/
def insertFails (pinned : Nat → Bool) (s : Admission) (caller : Nat) (request : StartRequest)
    (attempt : Nat) (error : InsertError) : Admission :=
  s.setCaller caller
    { s.callers caller with
      phase := .insertFailed request attempt error, broken := pinned caller }

/-- The row goes in, and the job is dispatched after the commit: at once without a
transaction. -/
def insertRow (pinned : Nat → Bool) (s : Admission) (caller : Nat) (request : StartRequest) :
    Admission :=
  let job : AdmittedJob := ⟨s.nextId, request.tuple, request.payloadFingerprint⟩
  let inserted :=
    if pinned caller then
      { s with
        nextId := s.nextId + 1
        uncommitted := s.uncommitted ++ [(caller, job)]
        onSucceeded := s.onSucceeded ++ [(caller, job.ID)] }
    else
      { s with
        nextId := s.nextId + 1
        committed := s.committed ++ [job]
        scheduled := s.scheduled ++ [job.ID] }
  inserted.answer caller request (.started job.ID)

def insert (pinned : Nat → Bool) (s : Admission) (caller : Nat) (outcome : InsertOutcome) :
    Admission :=
  match (s.callers caller).phase with
  | .inserting request attempt =>
    match outcome with
    | .lockContention => s.insertFails pinned caller request attempt .lockContention
    | .error => s.insertFails pinned caller request attempt .other
    | .proceeds =>
      if ∃ job ∈ s.visible caller, job.tuple = request.tuple then
        s.insertFails pinned caller request attempt .uniqueViolation
      else if ∃ entry ∈ s.uncommitted, entry.2.tuple = request.tuple then
        -- waits for the other transaction
        s
      else s.insertRow pinned caller request
  | _ => s

/-- `ROLLBACK TO SAVEPOINT` and `RELEASE`: the transaction takes statements again. -/
def rollbackToSavepoint (s : Admission) (caller : Nat) : Admission :=
  s.setCaller caller { s.callers caller with broken := false }

def recover (s : Admission) (caller : Nat) : Admission :=
  match (s.callers caller).phase with
  | .insertFailed request attempt error =>
    let s := s.rollbackToSavepoint caller
    match error with
    | .lockContention =>
      if attempt + 1 < LOCK_CONTENTION_ATTEMPTS then
        s.moveTo caller (.inserting request (attempt + 1))
      else s.answer caller request .busy
    | .uniqueViolation => s.moveTo caller (.lookingAgain request)
    | .other => s.answer caller request .insertError
  | _ => s

def lookAgain (s : Admission) (caller : Nat) : Admission :=
  match (s.callers caller).phase with
  | .lookingAgain request =>
    s.answer caller request ((dedupExisting (s.visible caller) request).getD .insertError)
  | _ => s

/-- The caller's rows are rolled back; nothing of it runs any more. -/
def abort (s : Admission) (caller : Nat) : Admission :=
  if (s.callers caller).status = .active then
    { s with uncommitted := s.uncommitted.filter fun entry => entry.1 ≠ caller }.setCaller caller
      { s.callers caller with status := .aborted, phase := .idle, broken := false }
  else s

/-- A broken transaction can only be rolled back. -/
def commit (s : Admission) (caller : Nat) : Admission :=
  if (s.callers caller).status = .active ∧ (s.callers caller).phase = .idle then
    if (s.callers caller).broken then s.abort caller
    else
      { s with
        committed := s.visible caller
        uncommitted := s.uncommitted.filter fun entry => entry.1 ≠ caller }.setCaller caller
          { s.callers caller with status := .committed }
  else s

def succeeded (s : Admission) (caller : Nat) : Admission :=
  if (s.callers caller).status = .committed then
    { s with
      scheduled := s.scheduled ++
        (s.onSucceeded.filter fun handler => handler.1 = caller).map Prod.snd
      onSucceeded := s.onSucceeded.filter fun handler => handler.1 ≠ caller }
  else s

/-- `pinned` says which callers run on a transaction. -/
def step (pinned : Nat → Bool) (s : Admission) : AdmissionEvent → Admission
  | .startJob caller request => s.startJob caller request
  | .look caller => s.look caller
  | .insert caller outcome => s.insert pinned caller outcome
  | .recover caller => s.recover caller
  | .lookAgain caller => s.lookAgain caller
  | .commit caller => s.commit caller
  | .abort caller => s.abort caller
  | .succeeded caller => s.succeeded caller

/-! ## The invariant -/

/-- All rows, committed or not. -/
def held (s : Admission) : List AdmittedJob := s.committed ++ s.uncommitted.map Prod.snd

/-- The constraint holds over open transactions too, and IDs are not given twice. -/
structure RowsSound (s : Admission) : Prop where
  tuples : (s.held.map AdmittedJob.tuple).Nodup
  ids : (s.held.map AdmittedJob.ID).Nodup
  bound : ∀ job ∈ s.held, job.ID < s.nextId

/-- Only open transactions have uncommitted rows. -/
def OwnersSound (pinned : Nat → Bool) (s : Admission) : Prop :=
  ∀ entry ∈ s.uncommitted, pinned entry.1 = true ∧ (s.callers entry.1).status = .active

/-- The dispatches, made or waiting. -/
def tickets (s : Admission) : List Nat := s.scheduled ++ s.onSucceeded.map Prod.snd

/-- The job of a waiting handler stands or falls with the transaction of its caller. -/
def Waits (s : Admission) (handler : Nat × Nat) : Prop :=
  match (s.callers handler.1).status with
  | .active => ∃ job, (handler.1, job) ∈ s.uncommitted ∧ job.ID = handler.2
  | .committed => ∃ job ∈ s.committed, job.ID = handler.2
  | .aborted => True

/-- A job is dispatched once, after its row is committed. -/
structure TicketsSound (s : Admission) : Prop where
  once : s.tickets.Nodup
  bound : ∀ jobId ∈ s.tickets, jobId < s.nextId
  scheduled : ∀ jobId ∈ s.scheduled, ∃ job ∈ s.committed, job.ID = jobId
  waits : ∀ handler ∈ s.onSucceeded, s.Waits handler

/-- An answer agrees with the row of its key. -/
def Answered (rows : List AdmittedJob) (request : StartRequest) : StartAnswer → Prop
  | .started jobId | .existing jobId => ∃ job ∈ rows, job.tuple = request.tuple ∧
      job.ID = jobId ∧ job.payloadFingerprint = request.payloadFingerprint
  | .conflict => ∃ job ∈ rows, job.tuple = request.tuple ∧
      job.payloadFingerprint ≠ request.payloadFingerprint
  | _ => True

/-- The rows of the caller are kept: its transaction was not rolled back, or it has none. -/
def Kept (pinned : Nat → Bool) (s : Admission) (caller : Nat) : Prop :=
  pinned caller = true → (s.callers caller).status ≠ .aborted

structure CallerSound (pinned : Nat → Bool) (s : Admission) (caller : Nat) : Prop where
  answers : s.Kept pinned caller → ∀ entry ∈ (s.callers caller).answers,
    Answered (s.visible caller) entry.1 entry.2
  /-- A key that was taken stays taken. -/
  taken : ∀ request, (s.callers caller).phase = .lookingAgain request ∨
    (∃ attempt, (s.callers caller).phase = .insertFailed request attempt .uniqueViolation) →
      ∃ job ∈ s.visible caller, job.tuple = request.tuple
  broken : (s.callers caller).broken = true →
    ∃ request attempt error, (s.callers caller).phase = .insertFailed request attempt error
  calls : (s.callers caller).phase ≠ .idle → (s.callers caller).status = .active

structure Sound (pinned : Nat → Bool) (s : Admission) : Prop where
  rows : s.RowsSound
  owners : s.OwnersSound pinned
  tickets : s.TicketsSound
  callers : ∀ caller, s.CallerSound pinned caller

section Callers

variable (s : Admission)

@[simp] theorem setCaller_self (caller : Nat) (value : Caller) :
    (s.setCaller caller value).callers caller = value := by
  simp [setCaller]

theorem setCaller_other {caller other : Nat} (value : Caller)
    (different : other ≠ caller) :
    (s.setCaller caller value).callers other = s.callers other := by
  simp [setCaller, different]

@[simp] theorem setCaller_visible (caller other : Nat) (value : Caller) :
    (s.setCaller caller value).visible other = s.visible other := rfl

theorem mem_visible (caller : Nat) (job : AdmittedJob) :
    job ∈ s.visible caller ↔ job ∈ s.committed ∨ (caller, job) ∈ s.uncommitted := by
  simp only [visible, List.mem_append, List.mem_map, List.mem_filter, decide_eq_true_eq]
  constructor
  · intro listed
    rcases listed with committed | ⟨entry, ⟨listed, mine⟩, equal⟩
    · exact Or.inl committed
    · right
      cases entry with
      | mk owner row =>
        simp only at mine equal
        subst mine equal
        exact listed
  · intro listed
    rcases listed with committed | listed
    · exact Or.inl committed
    · exact Or.inr ⟨(caller, job), ⟨listed, rfl⟩, rfl⟩

theorem mem_held (job : AdmittedJob) :
    job ∈ s.held ↔ job ∈ s.committed ∨ ∃ owner, (owner, job) ∈ s.uncommitted := by
  simp [held]

end Callers

variable {s : Admission} {job : AdmittedJob}

theorem held_of_visible {caller : Nat} (seen : job ∈ s.visible caller) : job ∈ s.held := by
  rw [mem_held]
  rcases (mem_visible s caller job).1 seen with committed | mine
  · exact Or.inl committed
  · exact Or.inr ⟨caller, mine⟩

variable {request : StartRequest}

theorem Answered.mono {rows later : List AdmittedJob} (kept : rows ⊆ later)
    {answer : StartAnswer} (answered : Answered rows request answer) :
    Answered later request answer := by
  cases answer with
  | started | existing | conflict =>
    rcases answered with ⟨job, listed, facts⟩
    exact ⟨job, kept listed, facts⟩
  | keyInvalid | busy | insertError => trivial

variable {pinned : Nat → Bool} {s later : Admission}

/-- A caller that does nothing sees no fewer rows. -/
theorem CallerSound.of_same {caller : Nat}
    (sound : s.CallerSound pinned caller) (same : later.callers caller = s.callers caller)
    (kept : s.visible caller ⊆ later.visible caller) : later.CallerSound pinned caller := by
  constructor
  · intro unbroken entry listed
    simp only [Kept, same] at unbroken listed
    exact (sound.answers unbroken entry listed).mono kept
  · intro request phase
    rw [same] at phase
    rcases sound.taken request phase with ⟨job, seen, taken⟩
    exact ⟨job, kept seen, taken⟩
  · rw [same]
    exact sound.broken
  · rw [same]
    exact sound.calls

variable {value : Caller}

/-- A step that only the record of one caller sees, and that leaves its status. -/
theorem sound_setCaller (sound : s.Sound pinned)
    {caller : Nat} (status : value.status = (s.callers caller).status)
    (own : (s.setCaller caller value).CallerSound pinned caller) :
    (s.setCaller caller value).Sound pinned := by
  have statuses : ∀ other, ((s.setCaller caller value).callers other).status =
      (s.callers other).status := by
    intro other
    by_cases same : other = caller
    · rw [same, setCaller_self]
      exact status
    · rw [setCaller_other s value same]
  constructor
  · exact ⟨sound.rows.tuples, sound.rows.ids, sound.rows.bound⟩
  · intro entry listed
    rw [statuses]
    exact sound.owners entry listed
  · constructor
    · exact sound.tickets.once
    · exact sound.tickets.bound
    · exact sound.tickets.scheduled
    · intro handler listed
      simp only [Waits, statuses]
      exact sound.tickets.waits handler listed
  · intro other
    by_cases same : other = caller
    · rw [same]
      exact own
    · exact (sound.callers other).of_same (setCaller_other s value same) (List.Subset.refl _)

/-! ## Steps of one caller -/

theorem moveTo_sound (sound : s.Sound pinned)
    {caller : Nat} {phase : AdmissionPhase} (active : (s.callers caller).status = .active)
    (intact : (s.callers caller).broken = false)
    (taken : ∀ request, phase = .lookingAgain request →
      ∃ job ∈ s.visible caller, job.tuple = request.tuple)
    (unfailed : ∀ request attempt error, phase ≠ .insertFailed request attempt error) :
    (s.moveTo caller phase).Sound pinned := by
  apply sound_setCaller sound (by rfl)
  constructor
  · intro unbroken entry listed
    simp only [Kept, setCaller_self] at unbroken listed
    exact (sound.callers caller).answers unbroken entry listed
  · intro request reached
    rw [setCaller_self] at reached
    rcases reached with again | ⟨attempt, failed⟩
    · exact taken request again
    · exact absurd failed (unfailed _ _ _)
  · intro broken
    simp only [setCaller_self] at broken
    rw [intact] at broken
    cases broken
  · intro
    simp only [setCaller_self]
    exact active

theorem answer_sound (sound : s.Sound pinned) {caller : Nat} {answer : StartAnswer}
    (intact : (s.callers caller).broken = false)
    (answered : Answered (s.visible caller) request answer) :
    (s.answer caller request answer).Sound pinned := by
  apply sound_setCaller sound (by rfl)
  constructor
  · intro unbroken entry listed
    simp only [Kept, setCaller_self, List.mem_append, List.mem_singleton] at unbroken listed
    rcases listed with earlier | new
    · exact (sound.callers caller).answers unbroken entry earlier
    · rw [new]
      exact answered
  · intro other reached
    rw [setCaller_self] at reached
    rcases reached with impossible | ⟨attempt, impossible⟩ <;> cases impossible
  · intro broken
    simp only [setCaller_self] at broken
    rw [intact] at broken
    cases broken
  · intro called
    simp only [setCaller_self, ne_eq, not_true_eq_false] at called

/-- A transaction is broken only between a failed insert and its savepoint. -/
theorem CallerSound.intact {caller : Nat} (sound : s.CallerSound pinned caller)
    (unfailed : ∀ request attempt error,
      (s.callers caller).phase ≠ .insertFailed request attempt error) :
    (s.callers caller).broken = false := by
  cases broken : (s.callers caller).broken with
  | false => rfl
  | true =>
    rcases sound.broken broken with ⟨request, attempt, error, failed⟩
    exact absurd failed (unfailed _ _ _)

theorem startJob_sound (sound : s.Sound pinned)
    (caller : Nat) (request : StartRequest) : (s.startJob caller request).Sound pinned := by
  simp only [startJob]
  split
  next free =>
    have intact : (s.callers caller).broken = false := by
      apply (sound.callers caller).intact
      intro other attempt error failed
      rw [free.2] at failed
      cases failed
    split
    · exact answer_sound sound intact trivial
    · apply moveTo_sound sound free.1 intact
      · nofun
      · nofun
  · exact sound

/-- What `dedupExisting` returns agrees with a row it saw. -/
theorem dedupExisting_answered {rows : List AdmittedJob}
    {answer : StartAnswer} (found : dedupExisting rows request = some answer) :
    Answered rows request answer := by
  simp only [dedupExisting, Option.map_eq_some_iff] at found
  rcases found with ⟨existing, found, equal⟩
  have listed := List.mem_of_find?_eq_some found
  have tuple := List.find?_some found
  simp only [decide_eq_true_eq] at tuple
  subst equal
  split
  next different => exact ⟨existing, listed, tuple, different⟩
  next same => exact ⟨existing, listed, tuple, rfl, not_not.1 same⟩

theorem dedupExisting_isSome {rows : List AdmittedJob}
    (taken : ∃ job ∈ rows, job.tuple = request.tuple) :
    (dedupExisting rows request).isSome := by
  rcases taken with ⟨job, listed, tuple⟩
  simp only [dedupExisting, Option.isSome_map, List.find?_isSome, decide_eq_true_eq]
  exact ⟨job, listed, tuple⟩

theorem look_sound (sound : s.Sound pinned) (caller : Nat) : (s.look caller).Sound pinned := by
  simp only [look]
  split
  next request looking =>
    have intact : (s.callers caller).broken = false := by
      apply (sound.callers caller).intact
      intro other attempt error failed
      rw [looking] at failed
      cases failed
    split
    next answer found => exact answer_sound sound intact (dedupExisting_answered found)
    · have active := (sound.callers caller).calls (by rw [looking]; simp)
      apply moveTo_sound sound active intact
      · nofun
      · nofun
  · exact sound

theorem lookAgain_sound (sound : s.Sound pinned)
    (caller : Nat) : (s.lookAgain caller).Sound pinned := by
  simp only [lookAgain]
  split
  next request looking =>
    have intact : (s.callers caller).broken = false := by
      apply (sound.callers caller).intact
      intro other attempt error failed
      rw [looking] at failed
      cases failed
    cases found : dedupExisting (s.visible caller) request with
    | some answer => exact answer_sound sound intact (dedupExisting_answered found)
    | none => exact answer_sound sound intact trivial
  · exact sound

theorem insertFails_sound (sound : s.Sound pinned) {caller attempt : Nat}
    {error : InsertError} (active : (s.callers caller).status = .active)
    (taken : error = .uniqueViolation → ∃ job ∈ s.visible caller, job.tuple = request.tuple) :
    (s.insertFails pinned caller request attempt error).Sound pinned := by
  apply sound_setCaller sound (by rfl)
  constructor
  · intro unbroken entry listed
    simp only [Kept, setCaller_self] at unbroken listed
    exact (sound.callers caller).answers unbroken entry listed
  · intro other reached
    rw [setCaller_self] at reached
    rcases reached with impossible | ⟨attempt, failed⟩
    · cases impossible
    · cases failed
      exact taken rfl
  · intro
    exact ⟨request, attempt, error, by rw [setCaller_self]⟩
  · intro
    simp only [setCaller_self]
    exact active

theorem recover_sound (sound : s.Sound pinned)
    (caller : Nat) : (s.recover caller).Sound pinned := by
  simp only [recover]
  split
  next request attempt error failed =>
    have active := (sound.callers caller).calls (by rw [failed]; simp)
    have restored : (s.rollbackToSavepoint caller).Sound pinned := by
      apply sound_setCaller sound (by rfl)
      constructor
      · intro unbroken entry listed
        simp only [Kept, setCaller_self] at unbroken listed
        exact (sound.callers caller).answers unbroken entry listed
      · intro other reached
        rw [setCaller_self] at reached
        exact (sound.callers caller).taken other reached
      · intro broken
        simp only [setCaller_self] at broken
        cases broken
      · intro
        simp only [setCaller_self]
        exact active
    have stillActive : ((s.rollbackToSavepoint caller).callers caller).status = .active := by
      simp only [rollbackToSavepoint, setCaller_self]
      exact active
    have intact : ((s.rollbackToSavepoint caller).callers caller).broken = false := by
      simp only [rollbackToSavepoint, setCaller_self]
    cases error with
    | lockContention =>
      simp only
      split
      · apply moveTo_sound restored stillActive intact
        · nofun
        · nofun
      · exact answer_sound restored intact trivial
    | uniqueViolation =>
      apply moveTo_sound restored stillActive intact
      · intro other again
        cases again
        exact (sound.callers caller).taken request (Or.inr ⟨attempt, failed⟩)
      · nofun
    | other => exact answer_sound restored intact trivial
  · exact sound

/-! ## Steps on the tables -/

theorem RowsSound.of_perm (sound : s.RowsSound)
    (rows : later.held.Perm s.held) (nextId : s.nextId ≤ later.nextId) : later.RowsSound := by
  constructor
  · exact (rows.map _).nodup_iff.2 sound.tuples
  · exact (rows.map _).nodup_iff.2 sound.ids
  · intro job listed
    exact Nat.lt_of_lt_of_le (sound.bound job (rows.mem_iff.1 listed)) nextId

/-- A new row has a new key and a new ID. -/
theorem RowsSound.add (sound : s.RowsSound)
    (rows : later.held.Perm (s.held ++ [job])) (fresh : job.ID = s.nextId)
    (nextId : later.nextId = s.nextId + 1) (untaken : ∀ other ∈ s.held, other.tuple ≠ job.tuple) :
    later.RowsSound := by
  constructor
  · apply (rows.map _).nodup_iff.2
    rw [List.map_append, List.nodup_append]
    refine ⟨sound.tuples, by simp, ?_⟩
    intro tuple listed new single
    rcases List.mem_map.1 listed with ⟨other, held, rfl⟩
    simp only [List.map_cons, List.map_nil, List.mem_singleton] at single
    rw [single]
    exact untaken other held
  · apply (rows.map _).nodup_iff.2
    rw [List.map_append, List.nodup_append]
    refine ⟨sound.ids, by simp, ?_⟩
    intro known listed new single
    rcases List.mem_map.1 listed with ⟨other, held, rfl⟩
    simp only [List.map_cons, List.map_nil, List.mem_singleton] at single
    have bound := sound.bound other held
    rw [single, fresh]
    omega
  · intro other listed
    rw [rows.mem_iff, List.mem_append, List.mem_singleton] at listed
    rw [nextId]
    rcases listed with earlier | new
    · have bound := sound.bound other earlier
      omega
    · rw [new, fresh]
      omega

/-- A new job's ticket is a new one. -/
theorem fresh_ticket {tickets later : List Nat} {nextId : Nat} (once : tickets.Nodup)
    (bound : ∀ known ∈ tickets, known < nextId) (perm : later.Perm (tickets ++ [nextId])) :
    later.Nodup ∧ ∀ jobId ∈ later, jobId < nextId + 1 := by
  constructor
  · apply perm.nodup_iff.2
    rw [List.nodup_append]
    refine ⟨once, by simp, ?_⟩
    intro known listed new single
    have below := bound known listed
    simp only [List.mem_singleton] at single
    omega
  · intro jobId listed
    rw [perm.mem_iff, List.mem_append, List.mem_singleton] at listed
    rcases listed with earlier | new
    · have below := bound jobId earlier
      omega
    · omega

/-- Rows are only added, and no caller moves. -/
structure Adds (s later : Admission) : Prop where
  callers : later.callers = s.callers
  committed : s.committed ⊆ later.committed
  uncommitted : s.uncommitted ⊆ later.uncommitted

theorem Adds.waits (adds : Adds s later) {handler : Nat × Nat}
    (waits : s.Waits handler) : later.Waits handler := by
  simp only [Waits, adds.callers] at waits ⊢
  split
  next active =>
    simp only [active] at waits
    rcases waits with ⟨job, listed, same⟩
    exact ⟨job, adds.uncommitted listed, same⟩
  next done =>
    simp only [done] at waits
    rcases waits with ⟨job, listed, same⟩
    exact ⟨job, adds.committed listed, same⟩
  · trivial

theorem Adds.caller (adds : Adds s later) {caller : Nat} (sound : s.CallerSound pinned caller) :
    later.CallerSound pinned caller := by
  apply sound.of_same (by rw [adds.callers])
  intro job seen
  rw [mem_visible] at seen ⊢
  rcases seen with committed | mine
  · exact Or.inl (adds.committed committed)
  · exact Or.inr (adds.uncommitted mine)

/-- A row of an open transaction, dispatched by a handler that waits for its commit. -/
theorem addUncommitted_sound (sound : s.Sound pinned) {caller : Nat} (onTx : pinned caller = true)
    (active : (s.callers caller).status = .active) (fresh : job.ID = s.nextId)
    (untaken : ∀ other ∈ s.held, other.tuple ≠ job.tuple) :
    Sound pinned { s with
      nextId := s.nextId + 1
      uncommitted := s.uncommitted ++ [(caller, job)]
      onSucceeded := s.onSucceeded ++ [(caller, job.ID)] } := by
  have adds : Adds s { s with
      nextId := s.nextId + 1
      uncommitted := s.uncommitted ++ [(caller, job)]
      onSucceeded := s.onSucceeded ++ [(caller, job.ID)] } :=
    ⟨rfl, List.Subset.refl _, List.subset_append_left _ _⟩
  have ticket : (s.scheduled ++ (s.onSucceeded ++ [(caller, job.ID)]).map Prod.snd).Nodup ∧
      ∀ jobId ∈ s.scheduled ++ (s.onSucceeded ++ [(caller, job.ID)]).map Prod.snd,
        jobId < s.nextId + 1 := by
    apply fresh_ticket sound.tickets.once sound.tickets.bound
    simp [tickets, fresh]
  constructor
  · apply RowsSound.add sound.rows _ fresh rfl untaken
    simp [held]
  · intro entry listed
    simp only [List.mem_append, List.mem_singleton] at listed
    rcases listed with earlier | new
    · exact sound.owners entry earlier
    · rw [new]
      exact ⟨onTx, active⟩
  · constructor
    · exact ticket.1
    · exact ticket.2
    · exact sound.tickets.scheduled
    · intro handler listed
      simp only [List.mem_append, List.mem_singleton] at listed
      rcases listed with earlier | new
      · exact adds.waits (sound.tickets.waits handler earlier)
      · subst new
        simp only [Waits, active]
        exact ⟨job, by simp, rfl⟩
  · intro other
    exact adds.caller (sound.callers other)

/-- A row that commits on its own, dispatched at once. -/
theorem addCommitted_sound (sound : s.Sound pinned) (fresh : job.ID = s.nextId)
    (untaken : ∀ other ∈ s.held, other.tuple ≠ job.tuple) :
    Sound pinned { s with
      nextId := s.nextId + 1
      committed := s.committed ++ [job]
      scheduled := s.scheduled ++ [job.ID] } := by
  have adds : Adds s { s with
      nextId := s.nextId + 1
      committed := s.committed ++ [job]
      scheduled := s.scheduled ++ [job.ID] } :=
    ⟨rfl, List.subset_append_left _ _, List.Subset.refl _⟩
  have ticket : (s.scheduled ++ [job.ID] ++ s.onSucceeded.map Prod.snd).Nodup ∧
      ∀ jobId ∈ s.scheduled ++ [job.ID] ++ s.onSucceeded.map Prod.snd, jobId < s.nextId + 1 := by
    apply fresh_ticket sound.tickets.once sound.tickets.bound
    simp only [tickets, fresh, List.append_assoc]
    exact List.Perm.append_left _ List.perm_append_comm
  constructor
  · apply RowsSound.add sound.rows _ fresh rfl untaken
    simp only [held, List.append_assoc]
    exact List.Perm.append_left _ List.perm_append_comm
  · exact sound.owners
  · constructor
    · exact ticket.1
    · exact ticket.2
    · intro jobId listed
      simp only [List.mem_append, List.mem_singleton] at listed
      rcases listed with earlier | new
      · rcases sound.tickets.scheduled jobId earlier with ⟨known, committed, same⟩
        exact ⟨known, List.mem_append_left _ committed, same⟩
      · exact ⟨job, by simp, new.symm⟩
    · intro handler listed
      exact adds.waits (sound.tickets.waits handler listed)
  · intro other
    exact adds.caller (sound.callers other)

theorem insertRow_sound (sound : s.Sound pinned) {caller : Nat}
    (active : (s.callers caller).status = .active) (intact : (s.callers caller).broken = false)
    (untaken : ∀ job ∈ s.held, job.tuple ≠ request.tuple) :
    (s.insertRow pinned caller request).Sound pinned := by
  have new : Answered [⟨s.nextId, request.tuple, request.payloadFingerprint⟩] request
      (.started s.nextId) :=
    ⟨⟨s.nextId, request.tuple, request.payloadFingerprint⟩, by simp, rfl, rfl, rfl⟩
  simp only [insertRow]
  split
  next onTx =>
    apply answer_sound
    · exact addUncommitted_sound sound onTx active rfl untaken
    · exact intact
    · apply new.mono
      intro job listed
      rw [List.mem_singleton] at listed
      rw [mem_visible, listed]
      right
      simp
  next onOwn =>
    apply answer_sound
    · exact addCommitted_sound sound rfl untaken
    · exact intact
    · apply new.mono
      intro job listed
      rw [List.mem_singleton] at listed
      rw [mem_visible, listed]
      left
      simp

theorem insert_sound (sound : s.Sound pinned)
    (caller : Nat) (outcome : InsertOutcome) : (s.insert pinned caller outcome).Sound pinned := by
  simp only [insert]
  split
  next request attempt inserting =>
    have active := (sound.callers caller).calls (by rw [inserting]; simp)
    split
    · exact insertFails_sound sound active (nofun)
    · exact insertFails_sound sound active (nofun)
    · split
      next taken => exact insertFails_sound sound active (fun _ => taken)
      next unseen =>
        split
        · exact sound
        next unheld =>
          apply insertRow_sound sound active
          · apply (sound.callers caller).intact
            intro other attempts error failed
            rw [inserting] at failed
            cases failed
          · intro job held same
            rcases (mem_held s job).1 held with committed | ⟨owner, listed⟩
            · exact unseen ⟨job, (mem_visible s caller job).2 (Or.inl committed), same⟩
            · exact unheld ⟨(owner, job), listed, same⟩
  · exact sound

/-- The rows without those of one caller. -/
theorem held_without (s : Admission) (caller : Nat) :
    (s.committed ++ (s.uncommitted.filter fun entry => entry.1 ≠ caller).map Prod.snd).Sublist
      s.held :=
  List.Sublist.append (List.Sublist.refl _) (List.filter_sublist.map _)

/-- The transaction of a caller ends: its rows are no longer its own, and the others keep theirs. -/
theorem ended_sound (sound : s.Sound pinned) {caller : Nat} {committed : List AdmittedJob}
    {value : Caller} {ended : Admission}
    (isEnded : ended = { s with
      committed
      uncommitted := s.uncommitted.filter fun entry => entry.1 ≠ caller }.setCaller caller value)
    (rows : ended.RowsSound) (grows : s.committed ⊆ committed)
    (waits : ∀ handler ∈ s.onSucceeded, handler.1 = caller → ended.Waits handler)
    (own : ended.CallerSound pinned caller) : ended.Sound pinned := by
  subst isEnded
  constructor
  · exact rows
  · intro entry listed
    simp only [setCaller, List.mem_filter, decide_eq_true_eq] at listed
    rw [setCaller_other _ _ listed.2]
    exact sound.owners entry listed.1
  · constructor
    · exact sound.tickets.once
    · exact sound.tickets.bound
    · intro jobId listed
      rcases sound.tickets.scheduled jobId listed with ⟨job, stored, same⟩
      exact ⟨job, grows stored, same⟩
    · intro handler listed
      by_cases mine : handler.1 = caller
      · exact waits handler listed mine
      · have before := sound.tickets.waits handler listed
        simp only [Waits, setCaller_other _ _ mine] at before ⊢
        split
        next open_ =>
          simp only [open_] at before
          rcases before with ⟨job, listed, same⟩
          exact ⟨job, by simpa [setCaller, mine] using listed, same⟩
        next done =>
          simp only [done] at before
          rcases before with ⟨job, stored, same⟩
          exact ⟨job, grows stored, same⟩
        · trivial
  · intro other
    by_cases mine : other = caller
    · exact mine ▸ own
    · apply (sound.callers other).of_same (by rw [setCaller_other _ _ mine])
      intro job seen
      rw [mem_visible] at seen
      rw [setCaller_visible, mem_visible]
      exact seen.imp (fun stored => grows stored) fun own => by simpa [mine] using own

theorem abort_sound (sound : s.Sound pinned) (caller : Nat) : (s.abort caller).Sound pinned := by
  simp only [abort]
  split
  next active =>
    have fewer := held_without s caller
    refine ended_sound sound rfl ⟨?_, ?_, ?_⟩ (List.Subset.refl _) ?_ ?_
    · exact (fewer.map _).nodup sound.rows.tuples
    · exact (fewer.map _).nodup sound.rows.ids
    · intro job listed
      exact sound.rows.bound job (fewer.subset listed)
    · intro handler _ mine
      simp only [Waits, mine, setCaller_self]
    · have answers := (sound.callers caller).answers
      constructor
      · intro kept entry listed
        -- without a transaction every row is committed
        have onOwn : pinned caller = false := by
          cases onTx : pinned caller with
          | false => rfl
          | true =>
            have unbroken := kept onTx
            rw [setCaller_self] at unbroken
            exact absurd rfl unbroken
        rw [setCaller_self] at listed
        apply (answers (fun impossible => by simp [onOwn] at impossible) entry listed).mono
        intro job seen
        rw [mem_visible] at seen
        rcases seen with committed | mine
        · rw [setCaller_visible, mem_visible]
          exact Or.inl committed
        · have owner := (sound.owners _ mine).1
          rw [onOwn] at owner
          cases owner
      · intro request reached
        rw [setCaller_self] at reached
        rcases reached with impossible | ⟨attempt, impossible⟩ <;> cases impossible
      · intro impossible
        rw [setCaller_self] at impossible
        cases impossible
      · intro called
        rw [setCaller_self] at called
        exact absurd rfl called
  · exact sound

theorem commit_sound (sound : s.Sound pinned) (caller : Nat) : (s.commit caller).Sound pinned := by
  simp only [commit]
  split
  next free =>
    split
    · exact abort_sound sound caller
    next intact =>
      have held : (s.visible caller ++
          (s.uncommitted.filter fun entry => entry.1 ≠ caller).map Prod.snd).Perm s.held := by
        simp only [visible, Admission.held, List.append_assoc, ← List.map_append]
        apply List.Perm.append_left
        apply List.Perm.map
        simpa using List.filter_append_perm (fun entry => entry.1 = caller) s.uncommitted
      refine ended_sound sound rfl (sound.rows.of_perm held (Nat.le_refl _))
        (List.subset_append_left _ _) ?_ ?_
      · intro handler listed mine
        have waits := sound.tickets.waits handler listed
        simp only [Waits, mine, free.1] at waits
        simp only [Waits, mine, setCaller_self]
        rcases waits with ⟨job, listed, same⟩
        exact ⟨job, (mem_visible s caller job).2 (Or.inr listed), same⟩
      · have answers := (sound.callers caller).answers
        constructor
        · intro _ entry listed
          rw [setCaller_self] at listed
          apply (answers (fun _ => by rw [free.1]; simp) entry listed).mono
          intro job seen
          rw [setCaller_visible, mem_visible]
          exact Or.inl seen
        · intro request reached
          rw [setCaller_self] at reached
          simp only [free.2] at reached
          rcases reached with impossible | ⟨attempt, impossible⟩ <;> cases impossible
        · intro impossible
          rw [setCaller_self] at impossible
          exact absurd impossible intact
        · intro called
          rw [setCaller_self] at called
          exact absurd free.2 called
  · exact sound

theorem succeeded_sound (sound : s.Sound pinned)
    (caller : Nat) : (s.succeeded caller).Sound pinned := by
  simp only [succeeded]
  split
  next done =>
    have perm : (s.scheduled ++
        (s.onSucceeded.filter fun handler => handler.1 = caller).map Prod.snd ++
          (s.onSucceeded.filter fun handler => handler.1 ≠ caller).map Prod.snd).Perm
            s.tickets := by
      simp only [tickets, List.append_assoc, ← List.map_append]
      apply List.Perm.append_left
      apply List.Perm.map
      simpa using List.filter_append_perm (fun handler => handler.1 = caller) s.onSucceeded
    constructor
    · exact ⟨sound.rows.tuples, sound.rows.ids, sound.rows.bound⟩
    · exact sound.owners
    · constructor
      · exact perm.nodup_iff.2 sound.tickets.once
      · intro jobId listed
        exact sound.tickets.bound jobId (perm.mem_iff.1 listed)
      · intro jobId listed
        simp only [List.mem_append, List.mem_map, List.mem_filter, decide_eq_true_eq] at listed
        rcases listed with earlier | ⟨handler, ⟨listed, mine⟩, same⟩
        · exact sound.tickets.scheduled jobId earlier
        · have waits := sound.tickets.waits handler listed
          simp only [Waits, mine, done] at waits
          rw [← same]
          exact waits
      · intro handler listed
        exact sound.tickets.waits handler (List.mem_of_mem_filter listed)
    · intro other
      exact (sound.callers other).of_same rfl (List.Subset.refl _)
  · exact sound

/-- What the record of a caller becomes within a call. -/
structure CallerGoes (old new : Caller) : Prop where
  status : new.status = .active → old.status = .active
  answers : ∀ entry ∈ new.answers, entry ∈ old.answers ∨
    old.phase.request? = some entry.1 ∧ new.status = old.status
  kept : new.answers = [] → old.answers = []
  phase : ∀ request, new.phase.request? = some request →
    old.phase.request? = some request ∧ new.answers = old.answers

namespace CallerGoes

variable {old : Caller} {request : StartRequest}

theorem refl (old : Caller) : CallerGoes old old :=
  ⟨id, fun _ => Or.inl, id, fun _ asked => ⟨asked, rfl⟩⟩

theorem goesOn (asked : old.phase.request? = some request) (phase : AdmissionPhase)
    (same : phase.request? = some request) (broken : Bool) :
    CallerGoes old { old with phase, broken } := by
  refine ⟨id, fun _ => Or.inl, id, ?_⟩
  intro again isAgain
  exact ⟨asked.trans (same.symm.trans isAgain), rfl⟩

theorem answered (asked : old.phase.request? = some request) (answer : StartAnswer)
    (broken : Bool) :
    CallerGoes old { old with
      phase := .idle, broken, answers := old.answers ++ [(request, answer)] } := by
  refine ⟨id, ?_, fun nothing => (List.append_eq_nil_iff.mp nothing).1, nofun⟩
  intro entry listed
  rcases List.mem_append.mp listed with earlier | new
  · exact Or.inl earlier
  · exact Or.inr ⟨List.mem_singleton.mp new ▸ asked, rfl⟩

/-- The transaction ends. -/
theorem ended (status : TxStatus) (isEnd : status ≠ .active) (broken : Bool) :
    CallerGoes old { old with status, phase := .idle, broken } :=
  ⟨fun active => absurd active isEnd, fun _ => Or.inl, id, nofun⟩

end CallerGoes

/-- The row of the request a caller works on. -/
def Inserts (s later : Admission) (event : AdmissionEvent) (caller : Nat) (row : AdmittedJob) :
    Prop :=
  (∃ outcome, event = .insert caller outcome) ∧ s.nextId < later.nextId ∧
    ∃ request, (s.callers caller).phase.request? = some request ∧
      row = ⟨s.nextId, request.tuple, request.payloadFingerprint⟩

/-- What a step that begins no call does: calls go on, and a new row is of a call. -/
structure Goes (s : Admission) (event : AdmissionEvent) (later : Admission) : Prop where
  callers : ∀ caller, CallerGoes (s.callers caller) (later.callers caller)
  nextId : s.nextId ≤ later.nextId
  uncommitted : ∀ entry ∈ later.uncommitted, entry ∈ s.uncommitted ∨
    s.Inserts later event entry.1 entry.2
  committed : ∀ row ∈ later.committed, row ∈ s.held ∨ ∃ caller, s.Inserts later event caller row

section Goes

variable {pinned : Nat → Bool} {s : Admission} {event : AdmissionEvent} {caller : Nat}
  {request : StartRequest}

theorem Goes.held {later : Admission} (goes : s.Goes event later) {row : AdmittedJob}
    (listed : row ∈ later.held) : row ∈ s.held ∨ ∃ caller, s.Inserts later event caller row := by
  rcases (mem_held later row).mp listed with committed | ⟨owner, uncommitted⟩
  · exact goes.committed row committed
  · rcases goes.uncommitted _ uncommitted with old | new
    · exact Or.inl ((mem_held s row).mpr (Or.inr ⟨owner, old⟩))
    · exact Or.inr ⟨owner, new⟩

theorem callers_go {base : Admission}
    (same : ∀ other ≠ caller, base.callers other = s.callers other)
    (goes : CallerGoes (s.callers caller) value) (other : Nat) :
    CallerGoes (s.callers other) ((base.setCaller caller value).callers other) := by
  by_cases isCaller : other = caller
  · subst isCaller
    rw [setCaller_self]
    exact goes
  · rw [setCaller_other _ _ isCaller, same other isCaller]
    exact .refl _

theorem Goes.refl : s.Goes event s :=
  ⟨fun _ => .refl _, Nat.le_refl _, fun _ => Or.inl,
    fun _ listed => Or.inl (List.mem_append_left _ listed)⟩

/-- Only the record of one caller changes. -/
theorem Goes.setCaller (goes : CallerGoes (s.callers caller) value) :
    s.Goes event (s.setCaller caller value) :=
  ⟨callers_go (fun _ _ => rfl) goes, Nat.le_refl _, fun _ => Or.inl,
    fun _ listed => Or.inl (List.mem_append_left _ listed)⟩

theorem Goes.afterRollback (goes : CallerGoes (s.callers caller) value) :
    s.Goes event ((s.rollbackToSavepoint caller).setCaller caller value) :=
  ⟨callers_go (fun _ different => setCaller_other s _ different) goes, Nat.le_refl _,
    fun _ => Or.inl, fun _ listed => Or.inl (List.mem_append_left _ listed)⟩

theorem look_goes : s.Goes event (s.look caller) := by
  rw [look]
  split
  next request looking =>
    have asked : (s.callers caller).phase.request? = some request := looking ▸ rfl
    split
    · exact .setCaller (.answered asked _ _)
    · exact .setCaller (.goesOn asked (.inserting request 0) rfl _)
  · exact .refl

theorem lookAgain_goes : s.Goes event (s.lookAgain caller) := by
  rw [lookAgain]
  split
  next request looking => exact .setCaller (.answered (looking ▸ rfl) _ _)
  · exact .refl

theorem insertRow_goes {outcome : InsertOutcome}
    (asked : (s.callers caller).phase.request? = some request) :
    s.Goes (.insert caller outcome) (s.insertRow pinned caller request) := by
  have inserts : ∀ later : Admission, later.nextId = s.nextId + 1 →
      s.Inserts later (.insert caller outcome) caller
        ⟨s.nextId, request.tuple, request.payloadFingerprint⟩ :=
    fun later next => ⟨⟨outcome, rfl⟩, next ▸ Nat.lt_succ_self _, request, asked, rfl⟩
  rw [insertRow]
  split
  · refine ⟨callers_go (fun _ _ => rfl) (.answered asked _ _), Nat.le_succ _, ?_,
      fun _ listed => Or.inl (List.mem_append_left _ listed)⟩
    intro entry listed
    rcases List.mem_append.mp listed with old | new
    · exact Or.inl old
    · rcases List.mem_singleton.mp new with rfl
      exact Or.inr (inserts _ rfl)
  · refine ⟨callers_go (fun _ _ => rfl) (.answered asked _ _), Nat.le_succ _, fun _ => Or.inl, ?_⟩
    intro row listed
    rcases List.mem_append.mp listed with old | new
    · exact Or.inl (List.mem_append_left _ old)
    · rcases List.mem_singleton.mp new with rfl
      exact Or.inr ⟨caller, inserts _ rfl⟩

theorem insert_goes {outcome : InsertOutcome} :
    s.Goes (.insert caller outcome) (s.insert pinned caller outcome) := by
  rw [insert]
  split
  next request attempt inserting =>
    have asked : (s.callers caller).phase.request? = some request := inserting ▸ rfl
    have failed : ∀ error, s.Goes (.insert caller outcome)
        (s.insertFails pinned caller request attempt error) :=
      fun error => .setCaller (.goesOn asked (.insertFailed request attempt error) rfl _)
    split
    · exact failed _
    · exact failed _
    split
    · exact failed _
    split
    · exact .refl
    · exact insertRow_goes asked
  · exact .refl

theorem recover_goes : s.Goes event (s.recover caller) := by
  rw [recover]
  split
  next request attempt error failed =>
    have asked : (s.callers caller).phase.request? = some request := failed ▸ rfl
    have moved : ∀ phase : AdmissionPhase, phase.request? = some request →
        s.Goes event ((s.rollbackToSavepoint caller).moveTo caller phase) := by
      intro phase same
      apply Goes.afterRollback
      rw [rollbackToSavepoint, setCaller_self]
      exact .goesOn asked phase same false
    have answered : ∀ answer,
        s.Goes event ((s.rollbackToSavepoint caller).answer caller request answer) := by
      intro answer
      apply Goes.afterRollback
      rw [rollbackToSavepoint, setCaller_self]
      exact .answered asked answer false
    split
    · split
      · exact moved _ rfl
      · exact answered _
    · exact moved _ rfl
    · exact answered _
  · exact .refl

theorem abort_goes : s.Goes event (s.abort caller) := by
  rw [abort]
  split
  · exact ⟨callers_go (fun _ _ => rfl) (.ended .aborted nofun false), Nat.le_refl _,
      fun _ listed => Or.inl (List.mem_of_mem_filter listed),
      fun _ listed => Or.inl (List.mem_append_left _ listed)⟩
  · exact .refl

theorem commit_goes : s.Goes event (s.commit caller) := by
  rw [commit]
  split
  next free =>
    split
    · exact abort_goes
    · have ended : CallerGoes (s.callers caller)
          { s.callers caller with status := .committed, phase := .idle } :=
        .ended .committed nofun _
      rw [← free.2] at ended
      exact ⟨callers_go (fun _ _ => rfl) ended, Nat.le_refl _,
        fun _ listed => Or.inl (List.mem_of_mem_filter listed),
        fun _ listed => Or.inl (held_of_visible listed)⟩
  · exact .refl

theorem succeeded_goes : s.Goes event (s.succeeded caller) := by
  rw [succeeded]
  split
  · exact ⟨fun _ => .refl _, Nat.le_refl _, fun _ => Or.inl,
      fun _ listed => Or.inl (List.mem_append_left _ listed)⟩
  · exact .refl

theorem step_goes (notCall : ∀ caller request, event ≠ .startJob caller request) :
    s.Goes event (s.step pinned event) := by
  cases event with
  | startJob caller request => exact absurd rfl (notCall caller request)
  | look caller => exact look_goes
  | insert caller outcome => exact insert_goes
  | recover caller => exact recover_goes
  | lookAgain caller => exact lookAgain_goes
  | commit caller => exact commit_goes
  | abort caller => exact abort_goes
  | succeeded caller => exact succeeded_goes

end Goes

/-! ## Runs -/

theorem step_sound (s : Admission) (event : AdmissionEvent)
    (sound : s.Sound pinned) : (s.step pinned event).Sound pinned := by
  cases event with
  | startJob caller request => exact startJob_sound sound caller request
  | look caller => exact look_sound sound caller
  | insert caller outcome => exact insert_sound sound caller outcome
  | recover caller => exact recover_sound sound caller
  | lookAgain caller => exact lookAgain_sound sound caller
  | commit caller => exact commit_sound sound caller
  | abort caller => exact abort_sound sound caller
  | succeeded caller => exact succeeded_sound sound caller

theorem start_sound (pinned : Nat → Bool) : start.Sound pinned := by
  constructor
  · constructor
    · exact List.nodup_nil
    · exact List.nodup_nil
    · nofun
  · nofun
  · constructor
    · exact List.nodup_nil
    all_goals intro id listed; cases listed
  · intro caller
    constructor
    · nofun
    · intro request reached
      rcases reached with impossible | ⟨attempt, impossible⟩ <;> cases impossible
    · nofun
    · intro called
      exact absurd rfl called

theorem run_sound (pinned : Nat → Bool) (events : List AdmissionEvent) :
    (run (step pinned) start events).Sound pinned := by
  apply run_invariant _ (start_sound pinned) events (Along.trivial events)
  intro state event sound _
  exact step_sound state event sound

/-- One key has one row. -/
theorem Sound.eq_of_tuple (sound : s.Sound pinned)
    {job other : AdmittedJob} (listed : job ∈ s.committed) (otherListed : other ∈ s.committed)
    (same : job.tuple = other.tuple) : job = other :=
  List.inj_on_of_nodup_map sound.rows.tuples (List.mem_append_left _ listed)
    (List.mem_append_left _ otherListed) same

/-- One key has one dispatch. -/
theorem Sound.dispatched_once (sound : s.Sound pinned) (tuple : IdempotencyTuple) :
    (s.scheduled.filter fun jobId =>
      s.committed.any fun job => job.ID = jobId ∧ job.tuple = tuple).length ≤ 1 := by
  have once := (List.nodup_append.1 sound.tickets.once).1.filter fun jobId =>
    s.committed.any fun job => job.ID = jobId ∧ job.tuple = tuple
  have same : ∀ jobId ∈ s.scheduled.filter fun jobId =>
        s.committed.any fun job => job.ID = jobId ∧ job.tuple = tuple,
      ∃ job ∈ s.committed, job.ID = jobId ∧ job.tuple = tuple := by
    intro jobId listed
    simpa using (List.mem_filter.1 listed).2
  cases dispatches : s.scheduled.filter fun jobId =>
      s.committed.any fun job => job.ID = jobId ∧ job.tuple = tuple with
  | nil => simp
  | cons first rest =>
    rw [dispatches] at once same
    cases rest with
    | nil => simp
    | cons second rest =>
      rcases same first (by simp) with ⟨job, listed, firstId, tuple⟩
      rcases same second (by simp) with ⟨other, otherListed, secondId, otherTuple⟩
      have equal := sound.eq_of_tuple listed otherListed (tuple.trans otherTuple.symm)
      rw [equal, secondId] at firstId
      rw [firstId] at once
      simp at once

/-- The caller is through: its transaction committed, or it has none. -/
def Through (pinned : Nat → Bool) (s : Admission) (caller : Nat) : Prop :=
  pinned caller = true → (s.callers caller).status = .committed

theorem Sound.decided (sound : s.Sound pinned)
    {caller : Nat} (through : s.Through pinned caller) {entry : StartRequest × StartAnswer}
    (listed : entry ∈ (s.callers caller).answers) (decided : entry.2.isDecided = true) :
    ∃ job ∈ s.committed, job.tuple = entry.1.tuple ∧
      if job.payloadFingerprint = entry.1.payloadFingerprint then
        entry.2.jobId = some job.ID
      else entry.2 = .conflict := by
  have kept : s.Kept pinned caller := by
    intro onTx aborted
    rw [through onTx] at aborted
    cases aborted
  have committed : s.visible caller ⊆ s.committed := by
    intro job seen
    rcases (mem_visible s caller job).1 seen with committed | mine
    · exact committed
    · have owner := sound.owners _ mine
      have done := through owner.1
      rw [owner.2] at done
      cases done
  have answered := ((sound.callers caller).answers kept entry listed).mono committed
  cases entry with
  | mk request answer =>
    cases answer with
    | started jobId | existing jobId =>
      rcases answered with ⟨job, row, tuple, same, fingerprint⟩
      refine ⟨job, row, tuple, ?_⟩
      rw [if_pos fingerprint, same]
      rfl
    | conflict =>
      rcases answered with ⟨job, row, tuple, different⟩
      refine ⟨job, row, tuple, ?_⟩
      rw [if_neg different]
    | keyInvalid | busy | insertError => cases decided

end Admission

end Nightgate.Submission
