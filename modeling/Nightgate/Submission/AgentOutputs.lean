import Nightgate.Submission.ActionRequests
import Nightgate.Submission.JobAdmission

/-!
# Attesting an agent output

Without a `producedAt` a request takes the one the job of its key recorded, or the clock. The read
comes before the insert of `startJob`, so requests that read at the same time take different clocks.
-/

namespace Nightgate.Submission

open Library

structure AgentOutputArgs extends SubmissionArgs where
  agentId : Arg String
  inputHash : Arg String
  outputHash : Arg String
  modelId : Arg String
  policyHash : Arg String
  storageRef : Arg String

def tooLong (arg : Arg String) : Bool := arg.get?.any fun text => 200 < utf16Length text

namespace AgentOutputArgs

section Action

variable (services : SubmissionServices) (canonicalize : Json → String) (data : AgentOutputArgs)

/-- What is hashed; only hashes go on-chain. -/
def envelope (producedAt : String) : Json :=
  .object [("v", some (.num 1)), ("agentId", data.agentId.json),
    ("inputHash", (lowerArg services data.inputHash).map .str),
    ("outputHash", (lowerArg services data.outputHash).map .str),
    ("producedAt", some (.str producedAt)),
    ("modelId", if data.modelId.given then data.modelId.json else none),
    ("policyHash",
      if data.policyHash.given then (lowerArg services data.policyHash).map .str else none)]

def payloadHash (producedAt : String) : String :=
  services.blake2b256Hex (canonicalize (data.envelope services producedAt))

/-- The request `attestAgentOutput` makes of `anchorDocument`. -/
def anchorArgs (producedAt : String) : AnchorDocumentArgs where
  toSubmissionArgs := data.toSubmissionArgs
  sha256 := .value (data.payloadHash services canonicalize producedAt)
  storageRef :=
    if data.storageRef.given then data.storageRef
    else .value ("agent-output://" ++ data.agentId.text)
  metadata := .value (canonicalize (data.envelope services producedAt))

def attestAgentOutput (producedAt : String) : Except String ActionJob :=
  match firstRejection [
      need (data.agentId.given && !tooLong data.agentId)
        "agentId is required (at most 200 characters)",
      required data.inputHash "inputHash", required data.outputHash "outputHash",
      need (!tooLong data.modelId) "modelId must be at most 200 characters",
      required data.sessionId "sessionId", required data.contractAddress "contractAddress"] with
  | some message => .error message
  | none => anchorDocument services (data.anchorArgs services canonicalize producedAt)

end Action

end AgentOutputArgs

/-- Requests of one user with the same session, key and inputs, each on its own transaction. -/
structure Attesting where
  admission : Admission
  /-- The `producedAt` in the `request` column of a job. -/
  recorded : Nat → Option String
  /-- The `producedAt` a request goes on with. -/
  producedAt : Nat → Option String

inductive AttestingEvent where
  /-- The request reads the recorded time, and takes the clock without one. -/
  | read (caller : Nat) (now : String)
  /-- `anchorDocument` calls `startJob`. -/
  | anchor (caller : Nat)
  /-- A statement of `startJob`, or an end of a transaction. -/
  | admission (event : AdmissionEvent)

namespace Attesting

def start : Attesting where
  admission := .start
  recorded := fun _ => none
  producedAt := fun _ => none

/-- Every request runs on the transaction of its context. -/
abbrev onTransactions : Nat → Bool := fun _ => true

section Steps

variable (services : SubmissionServices) (canonicalize : Json → String) (data : AgentOutputArgs)
  (tuple : IdempotencyTuple)

/-- What `anchorDocument` asks of `startJob`, where it accepts the inputs. -/
def startRequest (producedAt : String) : Option StartRequest :=
  match data.attestAgentOutput services canonicalize producedAt with
  | .ok job => some ⟨tuple, job.payload.stringify⟩
  | .error _ => none

/-- `recordedProducedAt`. -/
def recordedProducedAt (s : Attesting) (caller : Nat) : Option String :=
  ((s.admission.visible caller).find? fun job => job.tuple = tuple).bind fun job =>
    s.recorded job.ID

def goWith (s : Attesting) (caller : Nat) (time : String) : Attesting :=
  { s with producedAt := Function.update s.producedAt caller (some time) }

def read (s : Attesting) (caller : Nat) (now : String) : Attesting :=
  if (s.admission.callers caller).status = .active ∧ s.producedAt caller = none then
    s.goWith caller ((recordedProducedAt tuple s caller).getD now)
  else s

def anchor (s : Attesting) (caller : Nat) : Attesting :=
  match (s.producedAt caller).bind (startRequest services canonicalize data tuple) with
  | none => s
  | some request =>
    if (s.admission.callers caller).answers = [] then
      { s with admission := s.admission.startJob caller request }
    else s

/-- A row records the time of its request. -/
def handle (s : Attesting) (event : AdmissionEvent) : Attesting :=
  let admission := s.admission.step onTransactions event
  match event with
  | .startJob .. => s
  | .insert caller _ =>
    if s.admission.nextId < admission.nextId then
      { s with
        admission
        recorded := Function.update s.recorded s.admission.nextId (s.producedAt caller) }
    else { s with admission }
  | _ => { s with admission }

def step (s : Attesting) : AttestingEvent → Attesting
  | .read caller now => s.read tuple caller now
  | .anchor caller => s.anchor services canonicalize data tuple caller
  | .admission event => s.handle event

end Steps

/-! ## The claim -/

/-- A time a request took that is still without an answer, or that a row records. -/
def Taken (s : Attesting) (time : String) : Prop :=
  (∃ caller, s.producedAt caller = some time ∧ (s.admission.callers caller).status = .active ∧
    (s.admission.callers caller).answers = []) ∨
  ∃ job ∈ s.admission.held, s.recorded job.ID = some time

/-- A request that finds no recorded time takes one that no other request took before. -/
def ReadsInTurn (tuple : IdempotencyTuple) (s : Attesting) : AttestingEvent → Prop
  | .read caller now => recordedProducedAt tuple s caller = none → ∀ time, s.Taken time → time = now
  | _ => True

/-- The request is answered with a payload hash and a job. -/
def Replied (services : SubmissionServices) (canonicalize : Json → String)
    (data : AgentOutputArgs) (s : Attesting) (caller : Nat) (payloadHash : String) (jobId : Nat) :
    Prop :=
  s.admission.Through onTransactions caller ∧ (∃ time, s.producedAt caller = some time ∧
      payloadHash = data.payloadHash services canonicalize time) ∧
    ∃ entry ∈ (s.admission.callers caller).answers, entry.2.jobId = some jobId

end Attesting

/-! ## One time for all -/

namespace Attesting

section Run

variable (services : SubmissionServices) (canonicalize : Json → String) (data : AgentOutputArgs)
  (tuple : IdempotencyTuple)

/-- All times in use are one. -/
structure OneTime (s : Attesting) : Prop where
  sound : s.admission.Sound onTransactions
  rows : ∀ job ∈ s.admission.held, ∃ time, s.recorded job.ID = some time ∧
    ∃ request, startRequest services canonicalize data tuple time = some request ∧
      job.tuple = tuple ∧ job.payloadFingerprint = request.payloadFingerprint
  calls : ∀ caller request, (s.admission.callers caller).phase.request? = some request →
    (s.admission.callers caller).answers = [] ∧ ∃ time, s.producedAt caller = some time ∧
      startRequest services canonicalize data tuple time = some request
  same : ∀ time, s.Taken time → ∀ other, s.Taken other → time = other
  answers : ∀ caller, ∀ entry ∈ (s.admission.callers caller).answers, entry.2 ≠ .conflict ∧
    ∀ jobId, entry.2.jobId = some jobId → jobId < s.admission.nextId ∧
      ∃ time, s.recorded jobId = some time ∧ s.producedAt caller = some time

variable {services canonicalize data tuple}

theorem startRequest_tuple {time : String} {request : StartRequest}
    (asked : startRequest services canonicalize data tuple time = some request) :
    request.tuple = tuple := by
  unfold startRequest at asked
  split at asked
  · cases asked
    rfl
  · cases asked

variable {s : Attesting} {caller : Nat}

theorem goWith_other (free : s.producedAt caller = none)
    (time : String) {other : Nat} {taken : String} (goes : s.producedAt other = some taken) :
    (s.goWith caller time).producedAt other = some taken := by
  have different : other ≠ caller := by
    rintro rfl
    cases goes.symm.trans free
  exact (Function.update_of_ne different _ _).trans goes

section One

variable (one : OneTime services canonicalize data tuple s)

include one

theorem OneTime.goWith (free : s.producedAt caller = none) {time : String}
    (same : ∀ taken, s.Taken taken → taken = time) :
    OneTime services canonicalize data tuple (s.goWith caller time) := by
  have all : ∀ taken, (s.goWith caller time).Taken taken → taken = time := by
    rintro taken (⟨other, goes, isOpen, silent⟩ | ofRow)
    · by_cases isCaller : other = caller
      · subst isCaller
        have own : (s.goWith other time).producedAt other = some time := Function.update_self ..
        exact Option.some.inj (goes.symm.trans own)
      · have earlier : s.producedAt other = some taken :=
          (Function.update_of_ne isCaller _ _).symm.trans goes
        exact same taken (Or.inl ⟨other, earlier, isOpen, silent⟩)
    · exact same taken (Or.inr ofRow)
  refine ⟨one.sound, one.rows, ?_, ?_, ?_⟩
  · intro other request asked
    rcases one.calls other request asked with ⟨silent, taken, goes, isRequest⟩
    exact ⟨silent, taken, goWith_other free time goes, isRequest⟩
  · intro first isFirst second isSecond
    rw [all first isFirst, all second isSecond]
  · intro other entry listed
    rcases one.answers other entry listed with ⟨noConflict, records⟩
    refine ⟨noConflict, ?_⟩
    intro jobId isJob
    rcases records jobId isJob with ⟨bound, taken, recorded, goes⟩
    exact ⟨bound, taken, recorded, goWith_other free time goes⟩

theorem OneTime.read {now : String} (inTurn : ReadsInTurn tuple s (.read caller now)) :
    OneTime services canonicalize data tuple (s.read tuple caller now) := by
  unfold Attesting.read
  split
  next free =>
    apply one.goWith free.2
    intro taken isTaken
    cases found : recordedProducedAt tuple s caller with
    | none => exact inTurn found taken isTaken
    | some recorded =>
      rcases Option.bind_eq_some_iff.mp found with ⟨job, isJob, records⟩
      exact one.same taken isTaken recorded
        (Or.inr ⟨job, Admission.held_of_visible (List.mem_of_find?_eq_some isJob), records⟩)
  · exact one

/-- A step of the calls, with what the rows it adds record. -/
theorem OneTime.goes
    {event : AdmissionEvent} {admission : Admission} (sound : admission.Sound onTransactions)
    (goes : s.admission.Goes event admission) {recorded : Nat → Option String}
    (kept : ∀ jobId < s.admission.nextId, recorded jobId = s.recorded jobId)
    (records : s.admission.nextId < admission.nextId → ∀ caller outcome,
      event = .insert caller outcome → recorded s.admission.nextId = s.producedAt caller) :
    OneTime services canonicalize data tuple { s with admission, recorded } := by
  have active : ∀ caller request, (s.admission.callers caller).phase.request? = some request →
      (s.admission.callers caller).status = .active := by
    intro caller request asked
    apply (one.sound.callers caller).calls
    intro idle
    rw [idle] at asked
    cases asked
  have rowTimes : ∀ job ∈ admission.held, ∃ time, recorded job.ID = some time ∧
      s.Taken time ∧ ∃ request, startRequest services canonicalize data tuple time = some request ∧
        job.tuple = tuple ∧ job.payloadFingerprint = request.payloadFingerprint := by
    intro job held
    rcases goes.held held with old | ⟨caller, ⟨outcome, isInsert⟩, grows, request, asked, rfl⟩
    · rcases one.rows job old with ⟨time, isTime, facts⟩
      have bound := one.sound.rows.bound job old
      exact ⟨time, (kept _ bound).trans isTime, Or.inr ⟨job, old, isTime⟩, facts⟩
    · rcases one.calls caller request asked with ⟨silent, time, isTime, isRequest⟩
      exact ⟨time, (records grows caller outcome isInsert).trans isTime,
        Or.inl ⟨caller, isTime, active caller request asked, silent⟩, request, isRequest,
        startRequest_tuple isRequest, rfl⟩
  have earlier : ∀ time, Attesting.Taken { s with admission, recorded } time → s.Taken time := by
    rintro time (⟨caller, isTime, isOpen, silent⟩ | ⟨job, held, isTime⟩)
    · exact Or.inl ⟨caller, isTime, (goes.callers caller).status isOpen,
        (goes.callers caller).kept silent⟩
    · rcases rowTimes job held with ⟨other, isOther, taken, _⟩
      rw [Option.some.inj (isTime.symm.trans isOther)]
      exact taken
  refine ⟨sound, ?_, ?_, ?_, ?_⟩
  · intro job held
    rcases rowTimes job held with ⟨time, isTime, _, facts⟩
    exact ⟨time, isTime, facts⟩
  · intro caller request asked
    rcases (goes.callers caller).phase request asked with ⟨before, unanswered⟩
    rw [unanswered]
    exact one.calls caller request before
  · intro first isFirst second isSecond
    exact one.same first (earlier first isFirst) second (earlier second isSecond)
  · intro caller entry listed
    rcases (goes.callers caller).answers entry listed with old | ⟨asked, status⟩
    · rcases one.answers caller entry old with ⟨noConflict, jobs⟩
      refine ⟨noConflict, ?_⟩
      intro jobId isJob
      rcases jobs jobId isJob with ⟨bound, time, isTime, own⟩
      exact ⟨bound.trans_le goes.nextId, time, (kept jobId bound).trans isTime, own⟩
    · -- a new answer is about a row, and the row is of the time of the call
      rcases one.calls caller entry.1 asked with ⟨silent, time, isTime, isRequest⟩
      have own : s.Taken time := Or.inl ⟨caller, isTime, active caller _ asked, silent⟩
      have isKept : admission.Kept onTransactions caller := by
        rw [Admission.Kept, status, active caller _ asked]
        simp
      have answered := ((sound.callers caller).answers isKept entry listed).mono
        fun _ => Admission.held_of_visible
      have ofRow : ∀ job ∈ admission.held, recorded job.ID = some time ∧
          job.payloadFingerprint = entry.1.payloadFingerprint := by
        intro job held
        rcases rowTimes job held with ⟨other, isOther, taken, request, asks, _, fingerprint⟩
        rw [one.same other taken time own] at isOther asks
        exact ⟨isOther, Option.some.inj (asks.symm.trans isRequest) ▸ fingerprint⟩
      rcases entry with ⟨request, answer⟩
      cases answer with
      | conflict =>
        rcases answered with ⟨job, held, _, different⟩
        exact absurd (ofRow job held).2 different
      | started _ | existing _ =>
        refine ⟨by rintro ⟨⟩, ?_⟩
        rintro _ ⟨⟩
        rcases answered with ⟨job, held, _, rfl, _⟩
        exact ⟨sound.rows.bound job held, time, (ofRow job held).1, isTime⟩
      | keyInvalid | busy | insertError => exact ⟨by rintro ⟨⟩, by rintro _ ⟨⟩⟩

theorem OneTime.handle
    (event : AdmissionEvent) : OneTime services canonicalize data tuple (s.handle event) := by
  have sound := Admission.step_sound s.admission event one.sound
  cases event with
  | startJob caller request => exact one
  | insert caller outcome =>
    rw [Attesting.handle]
    split
    · refine one.goes sound (Admission.step_goes nofun)
        (fun _ bound => Function.update_of_ne bound.ne _ _) ?_
      rintro - _ _ ⟨⟩
      exact Function.update_self ..
    next same =>
      exact one.goes sound (Admission.step_goes nofun) (fun _ _ => rfl)
        fun grows => absurd grows same
  | look | recover | lookAgain | commit | abort | succeeded =>
    exact one.goes sound (Admission.step_goes nofun) (fun _ _ => rfl) fun _ _ _ => nofun

/-- A call begins, or its key is too long. -/
theorem OneTime.setCaller
    {value : Caller} (sound : (s.admission.setCaller caller value).Sound onTransactions)
    (status : value.status = (s.admission.callers caller).status)
    (answers : ∀ entry ∈ value.answers, entry ∈ (s.admission.callers caller).answers ∨
      entry.2 = .keyInvalid)
    (silent : (s.admission.callers caller).answers = []) (phase : ∀ request,
      value.phase.request? = some request → value.answers = [] ∧ ∃ time,
        s.producedAt caller = some time ∧
          startRequest services canonicalize data tuple time = some request) :
    OneTime services canonicalize data tuple
      { s with admission := s.admission.setCaller caller value } := by
  have earlier : ∀ time,
      Attesting.Taken { s with admission := s.admission.setCaller caller value } time →
        s.Taken time := by
    rintro time (⟨other, goes, isOpen, unanswered⟩ | ofRow)
    · by_cases isCaller : other = caller
      · subst isCaller
        rw [Admission.setCaller_self] at isOpen
        exact Or.inl ⟨other, goes, status ▸ isOpen, silent⟩
      · rw [Admission.setCaller_other _ _ isCaller] at isOpen unanswered
        exact Or.inl ⟨other, goes, isOpen, unanswered⟩
    · exact Or.inr ofRow
  refine ⟨sound, one.rows, ?_, ?_, ?_⟩
  · intro other request asked
    by_cases isCaller : other = caller
    · subst isCaller
      rw [Admission.setCaller_self] at asked ⊢
      exact phase request asked
    · rw [Admission.setCaller_other _ _ isCaller] at asked ⊢
      exact one.calls other request asked
  · intro first isFirst second isSecond
    exact one.same first (earlier first isFirst) second (earlier second isSecond)
  · intro other entry listed
    by_cases isCaller : other = caller
    · subst isCaller
      rw [Admission.setCaller_self] at listed
      rcases answers entry listed with old | invalid
      · exact one.answers other entry old
      · rw [invalid]
        exact ⟨nofun, nofun⟩
    · rw [Admission.setCaller_other _ _ isCaller] at listed
      exact one.answers other entry listed

theorem OneTime.anchor (caller : Nat) :
    OneTime services canonicalize data tuple
      (s.anchor services canonicalize data tuple caller) := by
  unfold Attesting.anchor
  split
  · exact one
  next request asked =>
    rcases Option.bind_eq_some_iff.mp asked with ⟨time, goes, isRequest⟩
    split
    next silent =>
      have sound := Admission.startJob_sound one.sound caller request
      unfold Admission.startJob at sound ⊢
      split at sound
      next free =>
        rw [if_pos free]
        split at sound
        next long =>
          rw [if_pos long]
          refine one.setCaller sound rfl ?_ silent nofun
          intro entry listed
          rcases List.mem_append.mp listed with old | new
          · exact Or.inl old
          · exact Or.inr (List.mem_singleton.mp new ▸ rfl)
        next short =>
          rw [if_neg short]
          refine one.setCaller sound rfl (fun _ => Or.inl) silent ?_
          rintro _ ⟨⟩
          exact ⟨silent, time, goes, isRequest⟩
      next taken =>
        rw [if_neg taken]
        exact one
    · exact one

end One

theorem start_oneTime : OneTime services canonicalize data tuple start where
  sound := Admission.start_sound _
  rows := nofun
  calls := nofun
  same := by
    rintro time (⟨_, ⟨⟩, _⟩ | ⟨_, ⟨⟩, _⟩)
  answers := nofun

theorem run_oneTime {events : List AttestingEvent}
    (inTurn : Along (step services canonicalize data tuple) (ReadsInTurn tuple) start events) :
    OneTime services canonicalize data tuple
      (run (step services canonicalize data tuple) start events) := by
  refine run_invariant ?_ start_oneTime events inTurn
  intro s event one allowed
  cases event with
  | read caller now => exact one.read allowed
  | anchor caller => exact one.anchor caller
  | admission event => exact one.handle event

end Run

/-- Where a request that finds no recorded time takes one that no other request took before, the
requests that are answered get one payload hash and one job, and none gets a conflict. -/
theorem attestAgentOutput_idempotent (services : SubmissionServices) (canonicalize : Json → String)
    (data : AgentOutputArgs) (tuple : IdempotencyTuple) {events : List AttestingEvent}
    (inTurn : Along (step services canonicalize data tuple) (ReadsInTurn tuple) start events) :
    let s := run (step services canonicalize data tuple) start events
    (∀ caller payloadHash jobId other otherHash otherJob,
      Replied services canonicalize data s caller payloadHash jobId →
        Replied services canonicalize data s other otherHash otherJob →
          payloadHash = otherHash ∧ jobId = otherJob) ∧
      ∀ caller, ∀ entry ∈ (s.admission.callers caller).answers, entry.2 ≠ .conflict := by
  intro s
  have one : OneTime services canonicalize data tuple s := run_oneTime inTurn
  refine ⟨?_, fun caller entry listed => (one.answers caller entry listed).1⟩
  have ofRow : ∀ caller payloadHash jobId,
      Replied services canonicalize data s caller payloadHash jobId →
        ∃ job ∈ s.admission.committed, job.ID = jobId ∧ ∃ time, s.recorded job.ID = some time ∧
          payloadHash = data.payloadHash services canonicalize time := by
    rintro caller payloadHash jobId ⟨through, ⟨time, goes, isHash⟩, entry, listed, isJob⟩
    have decided : entry.2.isDecided = true := by
      revert isJob
      cases entry.2 <;> first | exact fun _ => rfl | nofun
    rcases one.sound.decided through listed decided with ⟨job, committed, _, agrees⟩
    split at agrees
    · have same : job.ID = jobId := Option.some.inj (agrees.symm.trans isJob)
      rcases (one.answers caller entry listed).2 jobId isJob with ⟨_, other, records, own⟩
      rw [Option.some.inj (own.symm.trans goes)] at records
      exact ⟨job, committed, same, time, same ▸ records, isHash⟩
    · exact absurd agrees (one.answers caller entry listed).1
  intro caller payloadHash jobId other otherHash otherJob replied otherReplied
  rcases ofRow _ _ _ replied with ⟨job, committed, rfl, time, records, rfl⟩
  rcases ofRow _ _ _ otherReplied with ⟨otherRow, otherCommitted, rfl, otherTime, otherRecords, rfl⟩
  have tupleOf : ∀ row ∈ s.admission.committed, row.tuple = tuple := by
    intro row listed
    rcases one.rows row (List.mem_append_left _ listed) with ⟨_, _, _, _, isTuple, _⟩
    exact isTuple
  have same := one.sound.eq_of_tuple committed otherCommitted
    ((tupleOf _ committed).trans (tupleOf _ otherCommitted).symm)
  subst same
  rw [Option.some.inj (records.symm.trans otherRecords)]
  exact ⟨rfl, rfl⟩

def plainServices : SubmissionServices where
  toLowerCase := id
  blake2b256Hex := id
  sha256Hex := id
  attesterIdForSession := id
  slotWidthOf _ := 64
  membershipPathFor _ _ _ := .ok none

def oneOutput : AgentOutputArgs where
  sessionId := .value "s"
  contractAddress := .value "c"
  compiledArtifactRef := .undefined
  idempotencyKey := .value "k"
  sponsorSessionId := .undefined
  agentId := .value "a"
  inputHash := .value "1"
  outputHash := .value "2"
  modelId := .undefined
  policyHash := .undefined
  storageRef := .undefined

def oneKey : IdempotencyTuple := ⟨"s", "anchorDocument", "k", by decide⟩

/-- The second request reads before the first one's row, takes another time and gets a conflict. -/
theorem attestAgentOutput_conflict :
    ((run (step plainServices Json.stringify oneOutput oneKey) start
      [.read 0 "2026-01-01T00:00:00.000Z", .read 1 "2026-01-01T00:00:00.001Z", .anchor 0,
        .admission (.look 0), .admission (.insert 0 .proceeds), .admission (.commit 0), .anchor 1,
        .admission (.look 1)]).admission.callers 1).answers.map Prod.snd = [.conflict] := by
  decide +kernel

/-- The second request reads after the first one's row. -/
theorem attestAgentOutput_idempotent_in_turn :
    let s := run (step plainServices Json.stringify oneOutput oneKey) start
      [.read 0 "2026-01-01T00:00:00.000Z", .anchor 0, .admission (.look 0),
        .admission (.insert 0 .proceeds), .admission (.commit 0),
        .read 1 "2026-01-01T00:00:00.001Z", .anchor 1, .admission (.look 1)]
    ∀ caller, ∀ entry ∈ (s.admission.callers caller).answers, entry.2 ≠ .conflict := by
  refine (attestAgentOutput_idempotent plainServices Json.stringify oneOutput oneKey ?_).2
  refine ⟨?_, trivial, trivial, trivial, trivial, ?_, trivial, trivial, trivial⟩
  · rintro - time (⟨_, ⟨⟩, _⟩ | ⟨_, ⟨⟩, _⟩)
  · intro nothing
    have found : recordedProducedAt oneKey (run (step plainServices Json.stringify oneOutput oneKey)
        start [.read 0 "2026-01-01T00:00:00.000Z", .anchor 0, .admission (.look 0),
          .admission (.insert 0 .proceeds), .admission (.commit 0)]) 1 =
        some "2026-01-01T00:00:00.000Z" := by decide +kernel
    cases found.symm.trans nothing

end Attesting

end Nightgate.Submission
