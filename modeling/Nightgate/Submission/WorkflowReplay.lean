import Nightgate.Submission.JobAdmission
import Nightgate.Submission.WorkflowSteps

/-!
# Workflow replay

An execution of a workflow asks for the job of each step in turn, under the idempotency key of the
step, and waits until the job succeeded. It may end anywhere, and the parent may be executed again
at any later time, also while an execution that lost its lease goes on. Executions run without a
transaction; other requests take their statements in between.
-/

namespace Nightgate.Submission

open Library

/-- A UUID in its text form. -/
structure Uuid where
  text : String
  length : utf16Length text = 36

/-- What the executor reads of the parent job. -/
structure WorkflowJob where
  ID : Uuid
  sessionId : String
  command : ContractCommandV1
  artifactDigest : Option String

namespace WorkflowJob

variable (job : WorkflowJob)

def stepKey (step : String) : String := "workflow:" ++ job.ID.text ++ ":" ++ step

theorem stepKey_ne (step : String) : job.stepKey step ≠ "" := by
  intro empty
  have lengths := congrArg String.length empty
  simp [stepKey] at lengths

def stepTuple (kind step : String) : IdempotencyTuple :=
  ⟨job.sessionId, kind, job.stepKey step, job.stepKey_ne step⟩

theorem stepTuple_inj {kind kind' step step' : String}
    (same : job.stepTuple kind step = job.stepTuple kind' step') :
    (kind, step) = (kind', step') := by
  simp only [stepTuple, stepKey, IdempotencyTuple.mk.injEq, true_and, String.append_right_inj]
    at same
  rw [same.1, same.2]

/-- The `startJob` of `runChildCommand`. -/
def stepRequest (step : WorkflowStep) : StartRequest where
  tuple := job.stepTuple step.kind step.step
  payload := Json.stringify (.object [("parentJobId", some (.str job.ID.text)),
    ("step", some (.str step.step)), ("commandVersion", some (.num 1)),
    ("command", some (step.command.json job.artifactDigest))])

theorem callArgs_of_payload {step step' : WorkflowStep}
    (same : (job.stepRequest step).payload = (job.stepRequest step').payload) :
    step.command.callArgs = step'.command.callArgs := by
  have fields := Json.object_inj (Json.stringify_injective same) rfl (by simp)
  simp only [List.cons.injEq, Prod.mk.injEq, Option.some.injEq, true_and, and_true] at fields
  exact StepCommand.callArgs_of_json fields.2

end WorkflowJob

namespace Admission

section Asked

variable {allowed : Nat → StartRequest → Prop} {s : Admission} {caller : Nat}

/-- The row of a request that this caller may make. -/
def RowAsked (allowed : Nat → StartRequest → Prop) (caller : Nat) (row : AdmittedJob) : Prop :=
  ∃ request, allowed caller request ∧ row.tuple = request.tuple ∧
    row.payloadFingerprint = request.payloadFingerprint

/-- Callers make only requests they may make. -/
structure Asked (allowed : Nat → StartRequest → Prop) (s : Admission) : Prop where
  phases : ∀ caller request, (s.callers caller).phase.request? = some request →
    allowed caller request
  answers : ∀ caller, ∀ entry ∈ (s.callers caller).answers, allowed caller entry.1
  uncommitted : ∀ entry ∈ s.uncommitted, RowAsked allowed entry.1 entry.2
  committed : ∀ row ∈ s.committed, ∃ caller, RowAsked allowed caller row

section Asked

variable (asked : s.Asked allowed)

include asked

theorem Asked.setCaller {value : Caller}
    (phase : ∀ request, value.phase.request? = some request → allowed caller request)
    (answers : ∀ entry ∈ value.answers, allowed caller entry.1) :
    (s.setCaller caller value).Asked allowed := by
  constructor
  · intro other request
    by_cases same : other = caller
    · rw [same, setCaller_self]
      exact phase request
    · rw [setCaller_other s value same]
      exact asked.phases other request
  · intro other
    by_cases same : other = caller
    · rw [same, setCaller_self]
      exact answers
    · rw [setCaller_other s value same]
      exact asked.answers other
  · exact asked.uncommitted
  · exact asked.committed

theorem Asked.request {request : StartRequest}
    {phase : AdmissionPhase} (isPhase : (s.callers caller).phase = phase)
    (works : phase.request? = some request) : allowed caller request := by
  apply asked.phases caller request
  rw [isPhase]
  exact works

theorem Asked.startJob {request : StartRequest}
    (may : allowed caller request) : (s.startJob caller request).Asked allowed := by
  unfold Admission.startJob
  split
  · split
    · apply asked.setCaller fun _ working => by cases working
      intro entry listed
      rcases List.mem_append.mp listed with old | new
      · exact asked.answers caller entry old
      · exact List.mem_singleton.mp new ▸ may
    · refine asked.setCaller ?_ (asked.answers caller)
      rintro _ ⟨⟩
      exact may
  · exact asked

/-- A step within calls. -/
theorem Asked.goes {event : AdmissionEvent} {later : Admission}
    (goes : s.Goes event later) : later.Asked allowed := by
  have inserted : ∀ caller row, s.Inserts later event caller row → RowAsked allowed caller row := by
    rintro caller _ ⟨_, _, request, working, rfl⟩
    exact ⟨request, asked.phases caller request working, rfl, rfl⟩
  constructor
  · intro caller request working
    exact asked.phases caller request ((goes.callers caller).phase request working).1
  · intro caller entry listed
    rcases (goes.callers caller).answers entry listed with old | ⟨working, _⟩
    · exact asked.answers caller entry old
    · exact asked.phases caller entry.1 working
  · intro entry listed
    rcases goes.uncommitted entry listed with old | new
    · exact asked.uncommitted entry old
    · exact inserted _ _ new
  · intro row listed
    rcases goes.committed row listed with old | ⟨caller, new⟩
    · rcases (mem_held s row).mp old with committed | ⟨owner, uncommitted⟩
      · exact asked.committed row committed
      · exact ⟨owner, asked.uncommitted _ uncommitted⟩
    · exact ⟨caller, inserted _ _ new⟩

theorem Asked.step {pinned : Nat → Bool} {event : AdmissionEvent}
    (may : ∀ caller request, event = .startJob caller request → allowed caller request) :
    (Admission.step pinned s event).Asked allowed := by
  by_cases isCall : ∃ caller request, event = .startJob caller request
  · rcases isCall with ⟨caller, request, rfl⟩
    exact asked.startJob (may caller request rfl)
  · exact asked.goes (step_goes fun caller request same => isCall ⟨caller, request, same⟩)

end Asked

theorem Asked.initial : Admission.start.Asked allowed := by
  constructor
  · nofun
  · nofun
  · nofun
  · nofun

end Asked

/-- A caller without a transaction sees what is committed. -/
theorem Sound.visible_eq {pinned : Nat → Bool} {s : Admission} (sound : s.Sound pinned)
    {caller : Nat} (unpinned : pinned caller = false) {row other : AdmittedJob}
    (seen : row ∈ s.visible caller) (listed : other ∈ s.committed)
    (same : row.tuple = other.tuple) : row = other := by
  rcases (mem_visible s caller row).mp seen with committed | mine
  · exact sound.eq_of_tuple committed listed same
  · have owner := (sound.owners _ mine).1
    rw [unpinned] at owner
    cases owner

section Undisturbed

variable {s : Admission} {caller : Nat} {request : StartRequest}

/-- The caller may call, and no transaction is open. -/
structure Quiet (s : Admission) (caller : Nat) : Prop where
  phase : (s.callers caller).phase = .idle
  status : (s.callers caller).status = .active
  uncommitted : s.uncommitted = []

/-- The call ended with a job, whose row is there; a row that is new is of the request. -/
structure Gets (s : Admission) (caller : Nat) (request : StartRequest) (later : Admission) :
    Prop where
  quiet : later.Quiet caller
  answered : ∃ answer, (later.callers caller).answers =
    (s.callers caller).answers ++ [(request, answer)] ∧ answer.jobId.isSome
  others : ∀ other, other ≠ caller → later.callers other = s.callers other
  kept : s.committed ⊆ later.committed
  there : ∃ row ∈ later.committed, row.tuple = request.tuple
  new : ∀ row ∈ later.committed, row ∈ s.committed ∨
    row.tuple = request.tuple ∧ row.payloadFingerprint = request.payloadFingerprint

theorem Quiet.visible (quiet : s.Quiet caller) (other : Nat) : s.visible other = s.committed := by
  simp [Admission.visible, quiet.uncommitted]

theorem Quiet.startJob (quiet : s.Quiet caller)
    (short : utf16Length request.tuple.idempotencyKey ≤ IDEMPOTENCY_KEY_MAX_LENGTH) :
    s.startJob caller request = s.moveTo caller (.looking request) := by
  rw [Admission.startJob, if_pos ⟨quiet.status, quiet.phase⟩, if_neg (by omega)]

theorem look_of_found {answer : StartAnswer} (looking : (s.callers caller).phase = .looking request)
    (found : dedupExisting (s.visible caller) request = some answer) :
    s.look caller = s.answer caller request answer := by
  rw [look, looking]
  simp only [found]

theorem look_of_none (looking : (s.callers caller).phase = .looking request)
    (free : dedupExisting (s.visible caller) request = none) :
    s.look caller = s.moveTo caller (.inserting request 0) := by
  rw [look, looking]
  simp only [free]

theorem insert_idle {pinned : Nat → Bool} {outcome : InsertOutcome}
    (idle : (s.callers caller).phase = .idle) : s.insert pinned caller outcome = s := by
  rw [insert, idle]

theorem insert_free {pinned : Nat → Bool} {attempt : Nat}
    (inserting : (s.callers caller).phase = .inserting request attempt)
    (uncommitted : s.uncommitted = [])
    (free : ¬ ∃ row ∈ s.visible caller, row.tuple = request.tuple) :
    s.insert pinned caller .proceeds = s.insertRow pinned caller request := by
  rw [insert, inserting]
  simp only [if_neg free, uncommitted]
  rw [if_neg]
  simp

theorem dedupExisting_agrees {rows : List AdmittedJob}
    (taken : ∃ row ∈ rows, row.tuple = request.tuple)
    (agrees : ∀ row ∈ rows, row.tuple = request.tuple →
      row.payloadFingerprint = request.payloadFingerprint) :
    ∃ row ∈ rows, row.tuple = request.tuple ∧
      dedupExisting rows request = some (.existing row.ID) := by
  rcases Option.isSome_iff_exists.mp (dedupExisting_isSome taken) with ⟨answer, found⟩
  simp only [dedupExisting, Option.map_eq_some_iff] at found ⊢
  rcases found with ⟨row, isFirst, _⟩
  have listed := List.mem_of_find?_eq_some isFirst
  have tuple := List.find?_some isFirst
  simp only [decide_eq_true_eq] at tuple
  refine ⟨row, listed, tuple, row, isFirst, ?_⟩
  rw [if_neg (not_not.mpr (agrees row listed tuple))]

/-- A call finds the row of its key, or inserts it. -/
theorem Quiet.gets (quiet : s.Quiet caller)
    (short : utf16Length request.tuple.idempotencyKey ≤ IDEMPOTENCY_KEY_MAX_LENGTH)
    (agrees : ∀ row ∈ s.committed, row.tuple = request.tuple →
      row.payloadFingerprint = request.payloadFingerprint) :
    s.Gets caller request (((s.startJob caller request).look caller).insert (fun _ => false) caller
      .proceeds) := by
  rw [quiet.startJob short]
  have looking :
      ((s.moveTo caller (.looking request)).callers caller).phase = .looking request := by
    simp [Admission.moveTo]
  have visible : (s.moveTo caller (.looking request)).visible caller = s.committed :=
    quiet.visible caller
  by_cases taken : ∃ row ∈ s.committed, row.tuple = request.tuple
  · rcases dedupExisting_agrees taken agrees with ⟨row, listed, tuple, found⟩
    rw [look_of_found looking (visible ▸ found), insert_idle (by simp [Admission.answer])]
    constructor
    · exact ⟨by simp [Admission.answer], by simp [Admission.answer, Admission.moveTo, quiet.status],
        quiet.uncommitted⟩
    · exact ⟨.existing row.ID, by simp [Admission.answer, Admission.moveTo], rfl⟩
    · intro other different
      simp [Admission.answer, Admission.moveTo, setCaller_other _ _ different]
    · exact List.Subset.refl _
    · exact ⟨row, listed, tuple⟩
    · exact fun row listed => .inl listed
  · have free : dedupExisting s.committed request = none := by
      simpa [dedupExisting] using taken
    have inserting : (((s.moveTo caller (.looking request)).moveTo caller
        (.inserting request 0)).callers caller).phase = .inserting request 0 := by
      simp [Admission.moveTo]
    rw [look_of_none looking (visible ▸ free),
      insert_free inserting quiet.uncommitted (quiet.visible caller ▸ taken)]
    constructor
    · exact ⟨by simp [insertRow, Admission.answer],
        by simp [insertRow, Admission.answer, Admission.moveTo, quiet.status], quiet.uncommitted⟩
    · exact ⟨.started s.nextId, by simp [insertRow, Admission.answer, Admission.moveTo, setCaller],
        rfl⟩
    · intro other different
      simp [insertRow, Admission.answer, Admission.moveTo, setCaller, different]
    · exact List.subset_append_left _ _
    · exact ⟨⟨s.nextId, request.tuple, request.payloadFingerprint⟩,
        List.mem_append_right _ (List.mem_singleton_self _), rfl⟩
    · intro row listed
      rcases List.mem_append.mp listed with old | new
      · exact .inl old
      · rw [List.mem_singleton.mp new]
        exact .inr ⟨rfl, rfl⟩

end Undisturbed

end Admission

/-! ## Executions -/

structure WorkflowExecution where
  /-- The step it is at. -/
  position : Nat
  /-- What it asked `startJob` for, if the step began. -/
  asked : Option StartRequest

structure WorkflowRun where
  admission : Admission
  /-- The clock, in milliseconds. -/
  now : Nat
  /-- `NIGHTGATE_CLAIM_LIFETIME_S`. -/
  claimLifetimeS : Option Nat
  /-- The executions of the workflow, by the caller they are. -/
  executions : Nat → Option WorkflowExecution

inductive WorkflowEvent where
  | tick (elapsed : Nat)
  /-- A process with another setting takes over. -/
  | configure (claimLifetimeS : Option Nat)
  /-- The parent is executed. -/
  | execute (caller : Nat)
  /-- The step is derived, with a pause before each reading of the clock, and asked for. -/
  | startStep (caller : Nat) (pauses : List Nat)
  /-- The job of the step succeeded. -/
  | proceed (caller : Nat)
  /-- The execution ends, wherever it is. -/
  | stop (caller : Nat)
  | statement (event : AdmissionEvent)

namespace WorkflowRun

def start : WorkflowRun where
  admission := .start
  now := 0
  claimLifetimeS := none
  executions := fun _ => none

/-- What the clock shows at each of its readings. -/
def readings (now : Nat) (pauses : List Nat) (i : Nat) : Nat := now + (pauses.take (i + 1)).sum

section Machine

variable (persistentHash : List Nat → List Nat → String) (pinned : Nat → Bool) (job : WorkflowJob)

/-- The keys of the steps. -/
def stepTuples : List IdempotencyTuple :=
  (job.command.workflowSteps persistentHash none fun _ => 0).map fun step =>
    job.stepTuple step.kind step.step

def setExecution (s : WorkflowRun) (caller : Nat) (execution : Option WorkflowExecution) :
    WorkflowRun :=
  { s with executions := Function.update s.executions caller execution }

def execute (s : WorkflowRun) (caller : Nat) : WorkflowRun :=
  if pinned caller = false ∧ s.executions caller = none ∧
      (s.admission.callers caller).phase = .idle then
    s.setExecution caller (some ⟨0, none⟩)
  else s

def startStep (s : WorkflowRun) (caller : Nat) (pauses : List Nat) : WorkflowRun :=
  match s.executions caller with
  | some ⟨position, none⟩ =>
    match (job.command.workflowSteps persistentHash s.claimLifetimeS
        (readings s.now pauses))[position]? with
    | some step =>
      let request := job.stepRequest step
      { s with
        admission := s.admission.startJob caller request
        now := s.now + pauses.sum }.setExecution caller (some ⟨position, some request⟩)
    | none => s
  | _ => s

def proceed (s : WorkflowRun) (caller : Nat) : WorkflowRun :=
  match s.executions caller with
  | some ⟨position, some request⟩ =>
    if (s.admission.callers caller).phase = .idle ∧
        (s.admission.callers caller).answers.getLast?.any fun entry =>
          entry.1 = request && entry.2.jobId.isSome then
      s.setExecution caller (some ⟨position + 1, none⟩)
    else s
  | _ => s

def stop (s : WorkflowRun) (caller : Nat) : WorkflowRun :=
  if (s.executions caller).isSome then
    { s with admission := s.admission.abort caller }.setExecution caller none
  else s

/-- Only executions of the workflow ask for its steps: no action starts a job of such a kind, and
the key names the parent. -/
def Takes (s : WorkflowRun) : AdmissionEvent → Prop
  | .startJob caller request =>
    s.executions caller = none ∧ request.tuple ∉ stepTuples persistentHash job
  | _ => True

instance (s : WorkflowRun) (event : AdmissionEvent) :
    Decidable (s.Takes persistentHash job event) := by
  cases event <;> unfold Takes <;> infer_instance

def step (s : WorkflowRun) : WorkflowEvent → WorkflowRun
  | .tick elapsed => { s with now := s.now + elapsed }
  | .configure claimLifetimeS => { s with claimLifetimeS }
  | .execute caller => s.execute pinned caller
  | .startStep caller pauses => s.startStep persistentHash job caller pauses
  | .proceed caller => s.proceed caller
  | .stop caller => s.stop caller
  | .statement event =>
    if s.Takes persistentHash job event then
      { s with admission := s.admission.step pinned event }
    else s

/-- The step with this key is replayed: no execution meets a conflict, each that gets a job gets
the one there is, and finds it once it is there; and that job is dispatched once. -/
structure StepReplays (s : WorkflowRun) (tuple : IdempotencyTuple) : Prop where
  noConflict : ∀ caller, ∀ entry ∈ (s.admission.callers caller).answers,
    entry.1.tuple = tuple → entry.2 ≠ .conflict
  resolves : ∀ caller, ∀ entry ∈ (s.admission.callers caller).answers,
    entry.1.tuple = tuple → ∀ jobId, entry.2.jobId = some jobId →
      ∃ child ∈ s.admission.committed, child.tuple = tuple ∧ child.ID = jobId
  finds : ∀ caller request, (s.admission.callers caller).phase = .looking request →
    request.tuple = tuple → ∀ child ∈ s.admission.committed, child.tuple = tuple →
      s.admission.look caller = s.admission.answer caller request (.existing child.ID)
  oneChild : ∀ child ∈ s.admission.committed, ∀ other ∈ s.admission.committed,
    child.tuple = tuple → other.tuple = tuple → child = other
  dispatchedOnce : (s.admission.scheduled.filter fun jobId =>
    s.admission.committed.any fun child => child.ID = jobId ∧ child.tuple = tuple).length ≤ 1

end Machine

/-! ## Runs with the same steps at any time -/

section Fixed

variable {persistentHash : List Nat → List Nat → String} {pinned : Nat → Bool}
  {job : WorkflowJob} {s : WorkflowRun}

theorem stepTuple_mem (configured : Option Nat) (readings : Nat → Nat) {step : WorkflowStep}
    (listed : step ∈ job.command.workflowSteps persistentHash configured readings) :
    job.stepTuple step.kind step.step ∈ stepTuples persistentHash job := by
  have named : (step.kind, step.step) ∈
      (job.command.workflowSteps persistentHash configured readings).map fun step =>
        (step.kind, step.step) := List.mem_map_of_mem listed
  rw [ContractCommandV1.workflowSteps_names persistentHash configured none readings fun _ => 0]
    at named
  rcases List.mem_map.mp named with ⟨other, otherListed, same⟩
  apply List.mem_map.mpr
  refine ⟨other, otherListed, ?_⟩
  rw [(Prod.mk.inj same).1, (Prod.mk.inj same).2]

/-- One key belongs to one step. -/
theorem step_eq_of_tuple {configured : Option Nat} {readings : Nat → Nat}
    {step step' : WorkflowStep}
    (listed : step ∈ job.command.workflowSteps persistentHash configured readings)
    (listed' : step' ∈ job.command.workflowSteps persistentHash configured readings)
    (same : job.stepTuple step.kind step.step = job.stepTuple step'.kind step'.step) :
    step = step' :=
  List.inj_on_of_nodup_map
    (ContractCommandV1.workflowSteps_nodup persistentHash configured readings job.command) listed
    listed' (job.stepTuple_inj same)

/-- A request with the key of a step is made by an execution, and is the one of the step. -/
def MayAsk (persistentHash : List Nat → List Nat → String) (pinned : Nat → Bool)
    (job : WorkflowJob) (caller : Nat) (request : StartRequest) : Prop :=
  request.tuple ∈ stepTuples persistentHash job → pinned caller = false ∧
    ∃ step ∈ job.command.workflowSteps persistentHash none fun _ => 0,
      request = job.stepRequest step

/-- Requests with the key of the same step are the same. -/
theorem MayAsk.eq {caller caller' : Nat} {request request' : StartRequest}
    (may : MayAsk persistentHash pinned job caller request)
    (may' : MayAsk persistentHash pinned job caller' request')
    (isStep : request.tuple ∈ stepTuples persistentHash job)
    (same : request'.tuple = request.tuple) : request' = request := by
  rcases (may isStep).2 with ⟨step, listed, rfl⟩
  rcases (may' (same ▸ isStep)).2 with ⟨step', listed', rfl⟩
  rw [step_eq_of_tuple listed' listed same]

structure ReplayInvariant (persistentHash : List Nat → List Nat → String) (pinned : Nat → Bool)
    (job : WorkflowJob) (s : WorkflowRun) : Prop where
  sound : s.admission.Sound pinned
  asked : s.admission.Asked (MayAsk persistentHash pinned job)
  unpinned : ∀ caller, (s.executions caller).isSome → pinned caller = false

theorem ReplayInvariant.setExecution {caller : Nat} {execution : Option WorkflowExecution}
    (invariant : s.ReplayInvariant persistentHash pinned job)
    (unpinned : execution.isSome → pinned caller = false) :
    (s.setExecution caller execution).ReplayInvariant persistentHash pinned job := by
  refine ⟨invariant.sound, invariant.asked, ?_⟩
  intro other running
  by_cases same : other = caller
  · rw [same] at running ⊢
    exact unpinned (by simpa [WorkflowRun.setExecution] using running)
  · apply invariant.unpinned other
    simpa [WorkflowRun.setExecution, same] using running

/-- An execution asks for the job of a step. -/
theorem ReplayInvariant.startJob {caller now : Nat} {step : WorkflowStep}
    (invariant : s.ReplayInvariant persistentHash pinned job) (unpinned : pinned caller = false)
    (listed : step ∈ job.command.workflowSteps persistentHash none fun _ => 0) :
    ReplayInvariant persistentHash pinned job
      { s with admission := s.admission.startJob caller (job.stepRequest step), now } where
  sound := Admission.startJob_sound invariant.sound caller _
  asked := invariant.asked.startJob fun _ => ⟨unpinned, step, listed, rfl⟩
  unpinned := invariant.unpinned

theorem replay_step (fixed : job.command.DatesClaims ∨ ¬ job.command.DerivesRecordKeys)
    (event : WorkflowEvent) (invariant : s.ReplayInvariant persistentHash pinned job) :
    (s.step persistentHash pinned job event).ReplayInvariant persistentHash pinned job := by
  cases event with
  | tick | configure => exact ⟨invariant.sound, invariant.asked, invariant.unpinned⟩
  | execute caller =>
    simp only [WorkflowRun.step, execute]
    split
    next enabled => exact invariant.setExecution fun _ => enabled.1
    · exact invariant
  | startStep caller pauses =>
    simp only [WorkflowRun.step, startStep]
    split
    next position running =>
      have unpinned : pinned caller = false :=
        invariant.unpinned caller (by rw [running]; rfl)
      split
      next step found =>
        have listed := List.mem_of_getElem? found
        rw [ContractCommandV1.workflowSteps_fixed fixed _ none _ fun _ => 0] at listed
        apply ReplayInvariant.setExecution
        · exact invariant.startJob unpinned listed
        · exact fun _ => unpinned
      · exact invariant
    · exact invariant
  | proceed caller =>
    simp only [WorkflowRun.step, proceed]
    split
    next position request running =>
      split
      · apply invariant.setExecution
        intro _
        apply invariant.unpinned caller
        rw [running]
        rfl
      · exact invariant
    · exact invariant
  | stop caller =>
    simp only [WorkflowRun.step, stop]
    split
    · apply ReplayInvariant.setExecution
      · have goes : s.admission.Goes (.abort caller) (s.admission.abort caller) :=
          Admission.abort_goes
        exact ⟨Admission.abort_sound invariant.sound caller, invariant.asked.goes goes,
          invariant.unpinned⟩
      · nofun
    · exact invariant
  | statement event =>
    simp only [WorkflowRun.step]
    split
    next takes =>
      refine ⟨Admission.step_sound _ event invariant.sound, ?_, invariant.unpinned⟩
      apply invariant.asked.step
      intro caller request isStart isStep
      subst isStart
      exact absurd isStep takes.2
    · exact invariant

theorem replay_start : start.ReplayInvariant persistentHash pinned job where
  sound := Admission.start_sound pinned
  asked := .initial
  unpinned := nofun

theorem ReplayInvariant.stepReplays (invariant : s.ReplayInvariant persistentHash pinned job)
    {tuple : IdempotencyTuple} (isStep : tuple ∈ stepTuples persistentHash job) :
    s.StepReplays tuple := by
  have sameFingerprint : ∀ caller request, MayAsk persistentHash pinned job caller request →
      request.tuple = tuple → ∀ child ∈ s.admission.committed, child.tuple = tuple →
        child.payloadFingerprint = request.payloadFingerprint := by
    intro caller request may isTuple child listed childTuple
    rcases invariant.asked.committed child listed with ⟨owner, other, mayOther, same, fingerprint⟩
    rw [fingerprint, may.eq mayOther (isTuple ▸ isStep) (by rw [← same, childTuple, isTuple])]
  have decided : ∀ caller, ∀ entry ∈ (s.admission.callers caller).answers,
      entry.1.tuple = tuple → entry.2.isDecided = true →
        ∃ child ∈ s.admission.committed, child.tuple = tuple ∧ entry.2.jobId = some child.ID := by
    intro caller entry listed isTuple isDecided
    have may := invariant.asked.answers caller entry listed
    have through : s.admission.Through pinned caller := by
      intro isPinned
      rw [(may (isTuple ▸ isStep)).1] at isPinned
      cases isPinned
    rcases invariant.sound.decided through listed isDecided with ⟨child, row, same, answered⟩
    rw [if_pos (sameFingerprint caller entry.1 may isTuple child row (same.trans isTuple))]
      at answered
    exact ⟨child, row, same.trans isTuple, answered⟩
  constructor
  · intro caller entry listed isTuple isConflict
    rcases decided caller entry listed isTuple (by rw [isConflict]; rfl) with ⟨_, _, _, impossible⟩
    rw [isConflict] at impossible
    cases impossible
  · intro caller entry listed isTuple jobId isJob
    have isDecided : entry.2.isDecided = true := by
      cases answer : entry.2 <;> rw [answer] at isJob <;> first | rfl | cases isJob
    rcases decided caller entry listed isTuple isDecided with ⟨child, row, childTuple, same⟩
    rw [isJob] at same
    exact ⟨child, row, childTuple, (Option.some.inj same).symm⟩
  · intro caller request looking isTuple child row childTuple
    have may : MayAsk persistentHash pinned job caller request :=
      invariant.asked.request looking rfl
    have unpinned : pinned caller = false := (may (isTuple ▸ isStep)).1
    have found : Admission.dedupExisting (s.admission.visible caller) request =
        some (.existing child.ID) := by
      have seen : child ∈ s.admission.visible caller :=
        (Admission.mem_visible s.admission caller child).mpr (.inl row)
      have isFound := Admission.dedupExisting_isSome ⟨child, seen, childTuple.trans isTuple.symm⟩
      simp only [Admission.dedupExisting, Option.isSome_map] at isFound ⊢
      rcases Option.isSome_iff_exists.mp isFound with ⟨existing, isFirst⟩
      have existingSeen := List.mem_of_find?_eq_some isFirst
      have existingTuple := List.find?_some isFirst
      simp only [decide_eq_true_eq] at existingTuple
      have same := invariant.sound.visible_eq unpinned existingSeen row
        (existingTuple.trans (isTuple.trans childTuple.symm))
      subst same
      rw [isFirst, Option.map_some, if_neg]
      exact not_not.mpr (sameFingerprint caller request may isTuple existing row childTuple)
    rw [Admission.look, looking]
    simp only [found]
  · intro child row other otherRow childTuple otherTuple
    exact invariant.sound.eq_of_tuple row otherRow (childTuple.trans otherTuple.symm)
  · exact invariant.sound.dispatched_once tuple

end Fixed

section Undated

/-- A step that nothing disturbs. -/
def stepEvents (caller : Nat) : List WorkflowEvent :=
  [.startStep caller [], .statement (.look caller), .statement (.insert caller .proceeds),
    .proceed caller]

def executeSteps (caller : Nat) : Nat → List WorkflowEvent
  | 0 => []
  | steps + 1 => executeSteps caller steps ++ stepEvents caller

/-- An execution goes through the anchors and the proof step and is lost. A second later another
one goes through the anchors and asks for the proof step. -/
def restartedRun (anchors : Nat) : List WorkflowEvent :=
  .execute 0 :: executeSteps 0 (anchors + 1) ++ [.stop 0, .tick 1000, .execute 1] ++
    executeSteps 1 anchors ++ [.startStep 1 [], .statement (.look 1)]

variable {persistentHash : List Nat → List Nat → String} {job : WorkflowJob} {s : WorkflowRun}
  {caller position now : Nat} {step : WorkflowStep}

theorem utf16Length_append (first second : String) :
    utf16Length (first ++ second) = utf16Length first + utf16Length second := by
  simp [utf16Length]

theorem stepRequest_short {configured : Option Nat} {readings : Nat → Nat}
    (listed : step ∈ job.command.workflowSteps persistentHash configured readings) :
    utf16Length (job.stepRequest step).tuple.idempotencyKey ≤ IDEMPOTENCY_KEY_MAX_LENGTH := by
  have name := ContractCommandV1.step_mem_stepNames listed
  have shortNames : ∀ name ∈ ContractCommandV1.stepNames, utf16Length name ≤ 40 := by decide
  have shortName := shortNames step.step name
  have ends : utf16Length "workflow:" = 9 ∧ utf16Length ":" = 1 := by decide
  simp only [WorkflowJob.stepRequest, WorkflowJob.stepTuple, WorkflowJob.stepKey,
    utf16Length_append, ends, job.ID.length, IDEMPOTENCY_KEY_MAX_LENGTH]
  omega

/-- The caller is about to begin a step, and the rows of the steps are those of the first
execution, which began at the time 0. -/
structure At (persistentHash : List Nat → List Nat → String) (job : WorkflowJob)
    (caller position now : Nat) (s : WorkflowRun) : Prop where
  quiet : s.admission.Quiet caller
  execution : s.executions caller = some ⟨position, none⟩
  clock : s.now = now
  setting : s.claimLifetimeS = none
  agrees : ∀ row ∈ s.admission.committed,
    ∀ step ∈ job.command.workflowSteps persistentHash none fun _ => 0,
      row.tuple = (job.stepRequest step).tuple →
        row.payloadFingerprint = (job.stepRequest step).payloadFingerprint
  fresh : ∀ other, caller < other → s.admission.callers other = {} ∧ s.executions other = none

@[simp] theorem readings_nil (now : Nat) : readings now [] = fun _ => now := by
  funext i
  simp [readings]

theorem At.startStep (here : s.At persistentHash job caller position now)
    (found : (job.command.workflowSteps persistentHash none fun _ => now)[position]? = some step) :
    s.startStep persistentHash job caller [] =
      { s with admission := s.admission.startJob caller (job.stepRequest step) }.setExecution caller
        (some ⟨position, some (job.stepRequest step)⟩) := by
  rw [WorkflowRun.startStep, here.execution]
  simp only [here.setting, readings_nil, here.clock, found]
  rfl

/-- What a step that nothing disturbs comes to. -/
theorem At.ran (here : s.At persistentHash job caller position now)
    (found : (job.command.workflowSteps persistentHash none fun _ => now)[position]? = some step)
    {later : Admission} (isLater : ((s.admission.startJob caller (job.stepRequest step)).look
      caller).insert (fun _ => false) caller .proceeds = later)
    (gets : s.admission.Gets caller (job.stepRequest step) later) :
    run (WorkflowRun.step persistentHash (fun _ => false) job) s (stepEvents caller) =
      ({ s with admission := later }.setExecution caller
        (some ⟨position, some (job.stepRequest step)⟩)).setExecution caller
          (some ⟨position + 1, none⟩) := by
  rcases gets.answered with ⟨answer, answers, isJob⟩
  simp only [stepEvents, run_cons, run_nil, WorkflowRun.step, here.startStep found, Takes,
    Admission.step, WorkflowRun.setExecution]
  rw [proceed]
  simp [isLater, answers, gets.quiet.phase, isJob, WorkflowRun.setExecution]

/-- A step whose command is the one of the first execution ends with its job. -/
theorem At.pass (here : s.At persistentHash job caller position now)
    (found : (job.command.workflowSteps persistentHash none fun _ => now)[position]? = some step)
    (first : step ∈ job.command.workflowSteps persistentHash none fun _ => 0) :
    let later := run (WorkflowRun.step persistentHash (fun _ => false) job) s (stepEvents caller)
    later.At persistentHash job caller (position + 1) now ∧
      s.admission.committed ⊆ later.admission.committed ∧
      ∃ row ∈ later.admission.committed, row.tuple = (job.stepRequest step).tuple := by
  have gets := here.quiet.gets (stepRequest_short first) fun row listed =>
    here.agrees row listed step first
  rw [here.ran found rfl gets]
  refine ⟨?_, gets.kept, gets.there⟩
  constructor
  · exact gets.quiet
  · simp [WorkflowRun.setExecution]
  · exact here.clock
  · exact here.setting
  · intro row listed other otherFirst same
    rcases gets.new row listed with old | ⟨tuple, fingerprint⟩
    · exact here.agrees row old other otherFirst same
    · have isSame : step = other := step_eq_of_tuple first otherFirst (tuple.symm.trans same)
      rw [fingerprint, isSame]
  · intro other isLater
    have different : other ≠ caller := by omega
    rcases here.fresh other isLater with ⟨isFresh, isNone⟩
    simp only [WorkflowRun.setExecution, Function.update_of_ne different]
    exact ⟨(gets.others other different).trans isFresh, isNone⟩

theorem At.passAnchors (here : s.At persistentHash job caller 0 now) {steps : Nat}
    (anchors : steps ≤ job.command.anchorSteps.length) :
    let later := run (WorkflowRun.step persistentHash (fun _ => false) job) s
      (executeSteps caller steps)
    later.At persistentHash job caller steps now ∧
      s.admission.committed ⊆ later.admission.committed := by
  induction steps with
  | zero => exact ⟨here, List.Subset.refl _⟩
  | succ steps ih =>
    rcases ih (by omega) with ⟨between, kept⟩
    have found (now : Nat) := ContractCommandV1.workflowSteps_anchor persistentHash none
      (fun _ => now) (Nat.lt_of_succ_le anchors)
    rcases between.pass (found now) (List.mem_of_getElem? (found 0)) with ⟨later, keptThen, _⟩
    rw [executeSteps, run_append]
    exact ⟨later, List.Subset.trans kept keptThen⟩

theorem at_start : (run (WorkflowRun.step persistentHash (fun _ => false) job) start
    [.execute 0]).At persistentHash job 0 0 0 := by
  constructor
  · exact ⟨rfl, rfl, rfl⟩
  · rfl
  · rfl
  · rfl
  · nofun
  · intro other isLater
    have different : other ≠ 0 := by omega
    exact ⟨rfl, Function.update_of_ne different _ _⟩

/-- The parent is executed again, a second after its execution was lost. -/
theorem At.restarted (here : s.At persistentHash job 0 position 0) :
    let later := run (WorkflowRun.step persistentHash (fun _ => false) job) s
      [.stop 0, .tick 1000, .execute 1]
    later.At persistentHash job 1 0 1000 ∧ later.admission.committed = s.admission.committed := by
  rcases here.fresh 1 Nat.zero_lt_one with ⟨isFresh, isNone⟩
  have stopped : s.stop 0 = { s with admission := s.admission.abort 0 }.setExecution 0 none := by
    rw [stop, here.execution]
    rfl
  have aborted : s.admission.abort 0 = s.admission.setCaller 0
      { s.admission.callers 0 with status := .aborted, phase := .idle, broken := false } := by
    rw [Admission.abort, if_pos here.quiet.status]
    simp [here.quiet.uncommitted, Admission.setCaller]
  have began : run (WorkflowRun.step persistentHash (fun _ => false) job) s
      [.stop 0, .tick 1000, .execute 1] =
        ({ s with admission := s.admission.abort 0, now := s.now + 1000 }.setExecution 0
          none).setExecution 1 (some ⟨0, none⟩) := by
    simp only [run_cons, run_nil, WorkflowRun.step, stopped, WorkflowRun.setExecution, execute]
    rw [if_pos]
    simp [aborted, isFresh, isNone, Admission.setCaller]
  rw [began, aborted]
  refine ⟨?_, rfl⟩
  constructor
  · simp only [WorkflowRun.setExecution]
    constructor
    · simp [Admission.setCaller, isFresh]
    · simp [Admission.setCaller, isFresh]
    · exact here.quiet.uncommitted
  · simp [WorkflowRun.setExecution]
  · simp [WorkflowRun.setExecution, here.clock]
  · exact here.setting
  · exact here.agrees
  · intro other isLater
    have notFirst : other ≠ 0 := by omega
    have notSecond : other ≠ 1 := by omega
    simp only [WorkflowRun.setExecution, Admission.setCaller, Function.update_of_ne notFirst,
      Function.update_of_ne notSecond]
    exact here.fresh other (by omega)

/-- A step whose command is another one than its row has meets a conflict. -/
theorem At.conflict {first : WorkflowStep} {row : AdmittedJob}
    (here : s.At persistentHash job caller position now)
    (found : (job.command.workflowSteps persistentHash none fun _ => now)[position]? = some step)
    (isFirst : first ∈ job.command.workflowSteps persistentHash none fun _ => 0)
    (listed : row ∈ s.admission.committed) (tuple : row.tuple = (job.stepRequest first).tuple)
    (sameName : (job.stepRequest step).tuple = (job.stepRequest first).tuple)
    (other : first.command.callArgs ≠ step.command.callArgs) :
    (job.stepRequest step, .conflict) ∈ ((run (WorkflowRun.step persistentHash (fun _ => false) job)
      s [.startStep caller [], .statement (.look caller)]).admission.callers caller).answers := by
  have different : (job.stepRequest first).payloadFingerprint ≠
      (job.stepRequest step).payloadFingerprint := by
    intro same
    simp only [StartRequest.payloadFingerprint, sameName, Sha256.mk.injEq,
      String.append_right_inj] at same
    exact other (job.callArgs_of_payload same)
  have taken : Admission.dedupExisting s.admission.committed (job.stepRequest step) =
      some .conflict := by
    rcases Option.isSome_iff_exists.mp (Admission.dedupExisting_isSome
      ⟨row, listed, tuple.trans sameName.symm⟩) with ⟨answer, isAnswer⟩
    simp only [Admission.dedupExisting, Option.map_eq_some_iff] at isAnswer ⊢
    rcases isAnswer with ⟨existing, isExisting, _⟩
    have existingTuple := List.find?_some isExisting
    simp only [decide_eq_true_eq] at existingTuple
    have agrees := here.agrees existing (List.mem_of_find?_eq_some isExisting) first isFirst
      (existingTuple.trans sameName)
    refine ⟨existing, isExisting, ?_⟩
    rw [if_pos]
    rw [agrees]
    exact different
  have looking : ((s.admission.moveTo caller (.looking (job.stepRequest step))).callers
      caller).phase = .looking (job.stepRequest step) := by
    simp [Admission.moveTo]
  have visible : (s.admission.moveTo caller (.looking (job.stepRequest step))).visible caller =
      s.admission.committed := here.quiet.visible caller
  simp only [run_cons, run_nil, WorkflowRun.step, here.startStep found, Takes,
    Admission.step, WorkflowRun.setExecution]
  rw [here.quiet.startJob (stepRequest_short (List.mem_of_getElem? found)),
    Admission.look_of_found looking (visible ▸ taken)]
  simp [Admission.answer]

/-- The proof step of the second execution meets a conflict. -/
theorem restarted_conflict (persistentHash : List Nat → List Nat → String) (job : WorkflowJob)
    (derives : job.command.DerivesRecordKeys) (undated : ¬ job.command.DatesClaims) :
    ∃ entry ∈ ((run (WorkflowRun.step persistentHash (fun _ => false) job) start
        (restartedRun job.command.anchorSteps.length)).admission.callers 1).answers,
      entry.1.tuple ∈ stepTuples persistentHash job ∧ entry.2 = .conflict := by
  have proofs (now : Nat) : ∃ command,
      job.command.proofCommand persistentHash none (fun _ => now) = some command :=
    Option.isSome_iff_exists.mp
      ((ContractCommandV1.proofCommand_isSome persistentHash none (fun _ => now) job.command).mpr
        derives)
  rcases proofs 0 with ⟨command, isCommand⟩
  rcases proofs 1000 with ⟨command', isCommand'⟩
  have other : command.callArgs ≠ command'.callArgs :=
    ContractCommandV1.proofCommand_ne (fun _ => by decide) undated isCommand isCommand'
  have found := ContractCommandV1.workflowSteps_proof isCommand
  have found' := ContractCommandV1.workflowSteps_proof isCommand'
  have isFirst := List.mem_of_getElem? found
  rcases at_start.passAnchors (Nat.le_refl job.command.anchorSteps.length) with ⟨anchored, _⟩
  rcases anchored.pass found isFirst with ⟨proven, _, row, listed, tuple⟩
  rcases proven.restarted with ⟨again, sameRows⟩
  rcases again.passAnchors (Nat.le_refl _) with ⟨anchoredAgain, kept⟩
  have stays := kept (sameRows ▸ listed)
  have answered := anchoredAgain.conflict found' isFirst stays tuple rfl other
  refine ⟨(job.stepRequest _, .conflict), ?_,
    stepTuple_mem none (fun _ => 1000) (List.mem_of_getElem? found'), rfl⟩
  simpa only [restartedRun, executeSteps, List.cons_append, List.append_assoc, run_cons,
    run_nil, run_append] using answered

end Undated

/-! ## The law -/

/-- Every re-execution of the parent, at any time, replays each step, if and only if every claim
of the command carries a `validUntil`, or there is no proof step: the command is no workflow, or
its record keys cannot be derived. -/
theorem workflow_replays_iff (persistentHash : List Nat → List Nat → String) (job : WorkflowJob) :
    (∀ (pinned : Nat → Bool) (events : List WorkflowEvent), ∀ tuple ∈ stepTuples persistentHash job,
        (run (WorkflowRun.step persistentHash pinned job) start events).StepReplays tuple) ↔
      job.command.DatesClaims ∨ ¬ job.command.DerivesRecordKeys := by
  constructor
  · intro replays
    by_contra undated
    rw [not_or, not_not] at undated
    rcases restarted_conflict persistentHash job undated.2 undated.1 with
      ⟨entry, listed, isStep, isConflict⟩
    exact (replays _ _ _ isStep).noConflict 1 entry listed rfl isConflict
  · intro fixed pinned events tuple isStep
    have invariant : (run (WorkflowRun.step persistentHash pinned job) start
        events).ReplayInvariant persistentHash pinned job := by
      apply run_invariant _ replay_start events (Along.trivial events)
      intro state event invariant _
      exact replay_step fixed event invariant
    exact invariant.stepReplays isStep

/-- A field equality workflow without `validUntil`. -/
def undatedJob : WorkflowJob where
  ID := ⟨"3f0c9d3e-5a53-4d6c-9a57-0c6f3a9be0a1", by decide⟩
  sessionId := "session"
  artifactDigest := some "digest"
  command := .fieldEqualityWorkflow
    {
      predicateAttestationId := "attestation"
      validUntil := none
      payloadHash := "".pushn 'a' 64
      attesterId := "".pushn 'b' 64
      fieldKey := "".pushn 'c' 64
      contractAddress := "contract"
      compiledArtifactRef := DEFAULT_ATTESTATION_VAULT_REF
      salt := "salt"
      siblings := []
      dirs := []
      contentRoot := none
      schemaId := none
      sponsorSessionId := none }
    ("".pushn 'd' 64)

/-- Its execution is lost after the proof step was started, and the next one, a second later,
meets a conflict. -/
theorem restarted_undated_conflict : ¬ ∀ tuple ∈ stepTuples (fun _ _ => "key") undatedJob,
    (run (WorkflowRun.step (fun _ _ => "key") (fun _ => false) undatedJob) start
      (restartedRun 0)).StepReplays tuple := by
  intro replays
  rcases restarted_conflict (fun _ _ => "key") undatedJob (by decide +kernel) (by decide) with
    ⟨entry, listed, isStep, isConflict⟩
  have noAnchor : undatedJob.command.anchorSteps.length = 0 := rfl
  rw [noAnchor] at listed
  exact (replays entry.1.tuple isStep).noConflict 1 entry listed rfl isConflict

end WorkflowRun

end Nightgate.Submission
