import Nightgate.Sessions.ValueBudgets

/-!
# What the value budget charges

The budget takes the amount of a request before the job of its key decides whether the request is
a new one. What a day's window counts is compared with the jobs that the grant started on the day
and with the requests that failed otherwise than with a 4xx.
-/

namespace Nightgate.Sessions

open Library
open Submission (IdempotencyTuple)

/-- A failure that keeps the amount. -/
def RequestPhase.isServerError : RequestPhase → Bool
  | .failed status => !isClientError status
  | _ => false

/-- The budget let the request pass, and it has neither ended nor got back what it is due. -/
def ValueRequest.isOpen (request : ValueRequest) : Bool :=
  match request.phase with
  | .passed => true
  | .failed status => isClientError status && !request.refunded
  | _ => false

namespace GrantUse

/-- The jobs that requests under the grant started on a day. -/
def startedOn (s : GrantUse) (day : Nat) (type : TokenType) : Nat :=
  ((s.jobs.filter fun job => job.ofGrant && job.startedOn = day && job.type = type).map
    ValueJob.amount).sum

def shareIn (share : ValueRequest → Bool) (day : Nat) (type : TokenType)
    (request : ValueRequest) : Nat :=
  if share request = true ∧ request.passedOn = some day ∧ request.type = type then request.amount
  else 0

def isStarted (request : ValueRequest) : Bool := request.phase = .started

def isFailed (request : ValueRequest) : Bool := request.phase.isServerError

/-- The requests of a day that failed after the budget let them pass, and not with a 4xx. -/
def failedOn (s : GrantUse) (day : Nat) (type : TokenType) : Nat :=
  s.requests.total (shareIn isFailed day type)

/-- The requests of a day that are still under way. -/
def openOn (s : GrantUse) (day : Nat) (type : TokenType) : Nat :=
  s.requests.total (shareIn ValueRequest.isOpen day type)

/-- What the day's window counts of a type. -/
def chargedOn (s : GrantUse) (day : Nat) (type : TokenType) : Nat :=
  ((s.grant.usedOn day) type).getD 0

/-- A request with a limited amount takes it while the grant is active; one that took an amount
reaches the job of its key on the same day and finds none of its own payload; and a due amount is
given back on the same day, to a grant that is still active. -/
def ChargesJobs (s : GrantUse) : GrantEvent → Prop
  | .takeValueBudget id =>
    ∀ request ∈ s.requests.find? id,
      (s.grant.maxValuePerDay request.type).isSome = true → request.amount ≠ 0 →
        s.grant.isActive = true
  | .startJob id =>
    ∀ request ∈ s.requests.find? id, request.phase = .passed → request.counted = true →
      request.passedOn = some s.today ∧ ∀ job ∈ dedupExisting s.jobs request,
          job.payloadFingerprint ≠ request.payloadFingerprint
  | .refundValueBudget id =>
    ∀ request ∈ s.requests.find? id, refundDue request = true →
      request.passedOn = some s.today ∧ s.grant.isActive = true
  | _ => True

instance (s : GrantUse) : (event : GrantEvent) → Decidable (s.ChargesJobs event)
  | .takeValueBudget _ | .startJob _ | .refundValueBudget _ => by
      unfold ChargesJobs
      infer_instance
  | .daysPass _ | .deactivate | .arrive _ _ _ _ _ | .fail _ _ | .otherJob _ => isTrue trivial

theorem inWindow_of_chargesJobs {s : GrantUse} {event : GrantEvent}
    (allowed : s.ChargesJobs event) :
    s.InWindow event := by
  cases event with
  | takeValueBudget id => exact allowed
  | refundValueBudget id => exact fun request found due => .inl (allowed request found due).1
  | daysPass | deactivate | arrive | startJob | fail | otherJob => trivial

/-- What holds of every request as long as repeated requests take nothing. -/
structure ChargeSound (request : ValueRequest) : Prop where
  passed : request.phase = .passed → request.passedOn.isSome = true
  repeated : request.phase = .repeated → request.counted = false
  rateLimited : request.phase = .rateLimited → request.passedOn = none
  refunded : request.refunded = true →
    ∃ status, request.phase = .failed status ∧ isClientError status = true

variable {request : ValueRequest}

/-- A request that has not failed with a 4xx has got nothing back. -/
theorem ChargeSound.unrefunded (charge : ChargeSound request)
    (kept : ∀ status, request.phase = .failed status → isClientError status = false) :
    request.refunded = false := by
  cases isRefunded : request.refunded with
  | false => rfl
  | true =>
    obtain ⟨status, isPhase, client⟩ := charge.refunded isRefunded
    rw [kept status isPhase] at client
    cases client

/-- A request that has got nothing back, in another phase. -/
theorem chargeSound_of_unrefunded (unrefunded : request.refunded = false)
    (passed : request.phase = .passed → request.passedOn.isSome = true)
    (repeated : request.phase = .repeated → request.counted = false)
    (rateLimited : request.phase = .rateLimited → request.passedOn = none) :
    ChargeSound request where
  passed := passed
  repeated := repeated
  rateLimited := rateLimited
  refunded isRefunded := by
    rw [unrefunded] at isRefunded
    cases isRefunded

theorem countedIn_shares {limits : ValueBudgetMap} {today : Nat}
    (sound : RequestSound limits today request) (charge : ChargeSound request)
    {type : TokenType} (limited : (limits type).isSome = true) (day : Nat) :
    countedIn day type request = shareIn isStarted day type request +
      shareIn isFailed day type request + shareIn ValueRequest.isOpen day type request := by
  by_cases passed : request.passedOn = some day ∧ request.type = type ∧ request.amount ≠ 0
  · rcases passed with ⟨isDay, isType, positive⟩
    have counted := sound.limited (by rw [isDay]; rfl) (isType ▸ limited) positive
    cases isPhase : request.phase with
    | arrived =>
      have unpassed := (sound.arrived isPhase).1
      rw [isDay] at unpassed
      cases unpassed
    | rateLimited =>
      have unpassed := charge.rateLimited isPhase
      rw [isDay] at unpassed
      cases unpassed
    | repeated =>
      have uncounted := charge.repeated isPhase
      rw [counted] at uncounted
      cases uncounted
    | passed | started =>
      have unrefunded := charge.unrefunded (by simp [isPhase])
      simp [countedIn, shareIn, isStarted, isFailed, ValueRequest.isOpen,
        RequestPhase.isServerError, isPhase, isDay, isType, counted, unrefunded]
    | failed status =>
      cases isClient : isClientError status with
      | false =>
        have unrefunded := charge.unrefunded (by simp [isPhase, isClient])
        simp [countedIn, shareIn, isStarted, isFailed, ValueRequest.isOpen,
          RequestPhase.isServerError, isPhase, isDay, isType, counted, unrefunded, isClient]
      | true =>
        cases isRefunded : request.refunded <;>
          simp [countedIn, shareIn, isStarted, isFailed, ValueRequest.isOpen,
            RequestPhase.isServerError, isPhase, isDay, isType, counted, isRefunded, isClient]
  · have none : ∀ share : Prop, ∀ [Decidable share],
        (if share ∧ request.passedOn = some day ∧ request.type = type then request.amount else 0) =
          0 := by
      intro share _
      split
      next held =>
        by_contra positive
        exact passed ⟨held.2.1, held.2.2, positive⟩
      · rfl
    have uncounted : countedIn day type request = 0 := by
      unfold countedIn
      split
      next held =>
        by_contra positive
        exact passed ⟨held.2.2.1, held.2.2.2, positive⟩
      · rfl
    simp only [shareIn, uncounted, none]

/-! ## The invariant -/

/-- The count of a day is what its requests took, and the jobs of a day are those its requests
started. -/
structure Charged (s : GrantUse) : Prop where
  sound : s.Sound
  exact : s.meter.Exact
  requests : s.requests.All ChargeSound
  jobs : ∀ type, (s.grant.maxValuePerDay type).isSome = true → ∀ day,
    s.startedOn day type = s.requests.total (shareIn isStarted day type)

theorem Charged.chargedOn {s : GrantUse} (charged : s.Charged) {type : TokenType}
    (limited : (s.grant.maxValuePerDay type).isSome = true) :
    s.chargedOn s.today type =
      s.startedOn s.today type + s.failedOn s.today type + s.openOn s.today type := by
  have counts : s.chargedOn s.today type = s.requests.total (countedIn s.today type) := by
    unfold GrantUse.chargedOn
    rw [← usedIn_meter]
    exact charged.exact.usedIn_eq charged.sound.meter charged.sound.notPast type
  rw [counts, charged.jobs type limited, failedOn, openOn, ← Table.total_add, ← Table.total_add]
  apply Table.total_congr
  intro request stored
  have found := Table.find?_of_mem stored
  exact countedIn_shares (charged.sound.requests _ request found)
    (charged.requests _ request found) limited s.today

section Moves

variable {s : GrantUse} {request : ValueRequest}

theorem setRequest_started {id : Nat} {set : ValueRequest → ValueRequest}
    {keeps : ∀ request, (set request).ID = request.ID}
    (found : s.requests.find? id = some request) (before : request.phase ≠ .started)
    (after : (set request).phase ≠ .started) (day : Nat) (type : TokenType) :
    (s.setRequest id set keeps).requests.total (shareIn isStarted day type) =
      s.requests.total (shareIn isStarted day type) := by
  apply Table.total_update_same
  intro row isRow _
  rw [found] at isRow
  cases isRow
  simp [shareIn, isStarted, before, after]

variable (charged : s.Charged)

include charged

variable (found : s.requests.find? request.ID = some request)

include found

theorem Charged.moveTo {phase : RequestPhase}
    (moved : phase ≠ .arrived ∧ phase ≠ .started) (before : request.phase ≠ .started)
    (held : ChargeSound { request with phase }) : (s.moveTo request.ID phase).Charged where
  sound := charged.sound.moveTo moved.1 found
  exact := by
    rw [moveTo_meter]
    exact charged.exact
  requests := setRequest_all charged.requests found held
  jobs type limited day :=
    (charged.jobs type limited day).trans (setRequest_started found before moved.2 day type).symm

theorem Charged.takeValueBudget (arrived : request.phase = .arrived)
    (active : (s.grant.maxValuePerDay request.type).isSome = true → request.amount ≠ 0 →
      s.grant.isActive = true) : (s.takeValueBudget request).Charged := by
  have sound := charged.sound.takeValueBudget found arrived active
  have unrefunded := ((charged.sound.requests _ request found).arrived arrived).2.2
  have notStarted : request.phase ≠ .started := by
    rw [arrived]
    simp
  have held : ∀ counted, ChargeSound (request.pass s.today counted) :=
    fun _ => chargeSound_of_unrefunded unrefunded (fun _ => rfl) (by rintro ⟨⟩) (by rintro ⟨⟩)
  unfold GrantUse.takeValueBudget at sound ⊢
  split
  next passes =>
    simp only [passes] at sound
    have uncounted := ((charged.sound.requests _ request found).arrived arrived).2.1
    have sameMeter : (s.setRequest request.ID (ValueRequest.pass s.today false)
        fun _ => rfl).meter = s.meter := setRequest_meter found fun day type => by
      rw [countedIn_uncounted uncounted, countedIn_uncounted rfl]
    refine ⟨sound, ?_, setRequest_all charged.requests found (held false), ?_⟩
    · rw [sameMeter]
      exact charged.exact
    · intro type limited day
      have passed : (request.pass s.today false).phase ≠ .started := by simp [ValueRequest.pass]
      exact (charged.jobs type limited day).trans
        (setRequest_started found notStarted passed day type).symm
  next grant taken =>
    simp only [taken] at sound
    rcases taken_effect charged.sound found arrived taken with ⟨window, used, outstanding⟩
    rcases taken_of_consume taken with ⟨_, _, _, _, rfl⟩
    refine ⟨sound, ?_, setRequest_all (s := { s with grant := _ }) charged.requests found
      (held true), ?_⟩
    · apply Meter.exact_of_take charged.exact charged.sound.meter charged.sound.notPast window used
      intro other
      rw [outstanding s.today other]
      simp
    · intro type limited day
      have passed : (request.pass s.today true).phase ≠ .started := by simp [ValueRequest.pass]
      exact (charged.jobs type limited day).trans
        (setRequest_started (s := s) found notStarted passed day type).symm
  · apply charged.moveTo found (by simp) notStarted
    refine chargeSound_of_unrefunded unrefunded (by rintro ⟨⟩) (by rintro ⟨⟩) fun _ => ?_
    exact ((charged.sound.requests _ request found).arrived arrived).1

/-- The new job of a request is counted where its request is. -/
theorem startJob_jobs (passed : request.phase = .passed)
    (sameDay : request.counted = true → request.passedOn = some s.today) {type : TokenType}
    (limited : (s.grant.maxValuePerDay type).isSome = true) (day : Nat) :
    let job : ValueJob := {
      tuple := request.tuple, payloadFingerprint := request.payloadFingerprint
      type := request.type, amount := request.amount, startedOn := s.today, ofGrant := true }
    ({ s with jobs := s.jobs ++ [job] } : GrantUse).startedOn day type =
      (s.moveTo request.ID .started).requests.total (shareIn isStarted day type) := by
  intro job
  have moved : (s.moveTo request.ID .started).requests.total (shareIn isStarted day type) +
      shareIn isStarted day type request = s.requests.total (shareIn isStarted day type) +
          shareIn isStarted day type { request with phase := .started } :=
    Table.total_update found rfl
  have unstarted : shareIn isStarted day type request = 0 := by
    simp [shareIn, isStarted, passed]
  have added : ({ s with jobs := s.jobs ++ [job] } : GrantUse).startedOn day type =
      s.startedOn day type + if s.today = day ∧ request.type = type then request.amount else 0 := by
    simp only [startedOn, List.filter_append, List.map_append, List.sum_append]
    congr 1
    by_cases sameDay : s.today = day <;> by_cases sameType : request.type = type <;>
      simp [job, sameDay, sameType]
  have share : shareIn isStarted day type { request with phase := .started } =
      if s.today = day ∧ request.type = type then request.amount else 0 := by
    have sameType : ({ request with phase := .started } : ValueRequest).type = request.type := rfl
    simp only [shareIn, isStarted, decide_true, true_and, sameType]
    by_cases isType : request.type = type ∧ request.amount ≠ 0
    · have isSome := (charged.requests _ request found).passed passed
      have counted := (charged.sound.requests _ request found).limited isSome
        (isType.1 ▸ limited) isType.2
      simp [sameDay counted]
    · by_cases same : request.type = type
      · have none : request.amount = 0 := by
          by_contra positive
          exact isType ⟨same, positive⟩
        simp [none]
      · simp [same]
  rw [added, charged.jobs type limited day, ← share]
  omega

theorem Charged.startJob
    (passed : request.phase = .passed)
    (allowed : request.counted = true → request.passedOn = some s.today ∧
      ∀ job ∈ dedupExisting s.jobs request, job.payloadFingerprint ≠ request.payloadFingerprint) :
    (s.startJob request).Charged := by
  have charge := charged.requests _ request found
  have unrefunded := charge.unrefunded (by simp [passed])
  have notStarted : request.phase ≠ .started := by
    rw [passed]
    simp
  unfold GrantUse.startJob
  split
  next job isJob =>
    split
    next same =>
      apply charged.moveTo found (by simp) notStarted
      refine chargeSound_of_unrefunded unrefunded (by rintro ⟨⟩) (fun _ => ?_) (by rintro ⟨⟩)
      cases counted : request.counted with
      | false => rfl
      | true => exact absurd same ((allowed counted).2 job isJob)
    · apply charged.moveTo found (by simp) notStarted
      constructor
      · rintro ⟨⟩
      · rintro ⟨⟩
      · rintro ⟨⟩
      · intro _
        exact ⟨_, rfl, rfl⟩
  · have sameRequests : ∀ jobs, ({ s with jobs } : GrantUse).Sound :=
      fun _ => ⟨charged.sound.requests, charged.sound.notPast, charged.sound.meter⟩
    constructor
    · refine (sameRequests _).moveTo ?_ found
      simp
    · rw [moveTo_meter]
      exact charged.exact
    · apply setRequest_all charged.requests found
      exact chargeSound_of_unrefunded unrefunded (by rintro ⟨⟩) (by rintro ⟨⟩) (by rintro ⟨⟩)
    · intro type limited day
      exact startJob_jobs charged found passed (fun counted => (allowed counted).1) limited day

theorem Charged.refund (due : refundDue request = true) (sameDay : request.passedOn = some s.today)
    (active : s.grant.isActive = true) :
    (s.refund request).Charged := by
  have isPhase : ∃ status, request.phase = .failed status ∧ isClientError status = true := by
    simp only [refundDue, Bool.and_eq_true] at due
    have client := due.2
    split at client
    next status isPhase => exact ⟨status, isPhase, client⟩
    · cases client
  have notStarted : request.phase ≠ .started := by
    rcases isPhase with ⟨status, isPhase, _⟩
    rw [isPhase]
    simp
  refine ⟨charged.sound.refund found due (.inl sameDay), ?_, ?_, ?_⟩
  · intro day isDay other
    have current : s.grant.valueWindow = some day := refundValueBudget_valueWindow.symm.trans isDay
    have counts := charged.exact day current other
    have moved := refund_outstanding found day other
    rw [countedIn_due due, sameDay] at moved
    by_cases isToday : day = s.today
    · subst isToday
      rw [refund_used_of_current active current other]
      simp only [true_and, eq_comm] at moved ⊢
      omega
    · have otherWindow : s.grant.valueWindow ≠ some s.today := by
        rw [current]
        intro same
        exact isToday (Option.some.inj same)
      have kept : (s.refund request).meter.used other = s.meter.used other :=
        congrFun (refund_used (.inl otherWindow)) other
      rw [kept]
      have otherDay : ¬ (some s.today = some day ∧ request.type = other) := by
        intro same
        exact isToday (Option.some.inj same.1).symm
      rw [if_neg otherDay] at moved
      omega
  · apply setRequest_all (s := s) charged.requests found
    have charge := charged.requests _ request found
    refine ⟨charge.passed, charge.repeated, charge.rateLimited, fun _ => isPhase⟩
  · intro type limited day
    have sameLimits : (s.refund request).grant.maxValuePerDay = s.grant.maxValuePerDay :=
      refundValueBudget_maxValuePerDay
    rw [sameLimits] at limited
    exact (charged.jobs type limited day).trans
      (setRequest_started (s := s) found notStarted notStarted day type).symm

end Moves

/-! ## Runs -/

section Steps

variable {s : GrantUse}

theorem step_charged (event : GrantEvent) (charged : s.Charged) (allowed : s.ChargesJobs event) :
    (s.step event).Charged := by
  have sound := step_sound event charged.sound (inWindow_of_chargesJobs allowed)
  cases event with
  | daysPass | deactivate => exact ⟨sound, charged.exact, charged.requests, charged.jobs⟩
  | arrive ID tokenType amount tuple payloadFingerprint =>
    refine ⟨sound, ?_, charged.requests.insert ⟨?_, ?_, ?_, ?_⟩, ?_⟩
    · intro day isDay type
      have same : (s.step (.arrive ID tokenType amount tuple payloadFingerprint)).meter.outstanding
          day type = s.meter.outstanding day type :=
        Table.total_insert_weightless (countedIn_uncounted rfl day type)
      rw [same]
      exact charged.exact day isDay type
    · rintro ⟨⟩
    · rintro ⟨⟩
    · rintro ⟨⟩
    · rintro ⟨⟩
    · intro type limited day
      refine (charged.jobs type limited day).trans (Table.total_insert_weightless ?_).symm
      simp [shareIn, isStarted]
  | takeValueBudget id =>
    apply of_request charged
    rintro request rfl found arrived
    exact charged.takeValueBudget found arrived (allowed request found)
  | startJob id =>
    apply of_request charged
    rintro request rfl found passed
    exact charged.startJob found passed (allowed request found passed)
  | fail id status =>
    apply of_request charged
    rintro request rfl found early
    have charge := charged.requests _ request found
    have notFailed : ∀ status, request.phase ≠ .failed status := by
      intro status isPhase
      rw [isPhase] at early
      rcases early with impossible | impossible <;> cases impossible
    apply charged.moveTo found (by simp)
    · intro isStarted
      rw [isStarted] at early
      rcases early with impossible | impossible <;> cases impossible
    · refine ⟨?_, ?_, ?_, ?_⟩
      · rintro ⟨⟩
      · rintro ⟨⟩
      · rintro ⟨⟩
      · intro isRefunded
        rcases charge.refunded isRefunded with ⟨earlier, isPhase, _⟩
        exact absurd isPhase (notFailed earlier)
  | refundValueBudget id =>
    apply of_request charged
    rintro request rfl found due
    rcases allowed request found due with ⟨sameDay, active⟩
    exact charged.refund found due sameDay active
  | otherJob job =>
    refine ⟨sound, charged.exact, charged.requests, ?_⟩
    intro type limited day
    have same : (s.step (.otherJob job)).startedOn day type = s.startedOn day type := by
      simp [step, startedOn]
    rw [same]
    exact charged.jobs type limited day

theorem Fresh.charged (fresh : s.Fresh) : s.Charged where
  sound := fresh.sound
  exact := by
    intro day isDay
    rw [meter, fresh.unused] at isDay
    cases isDay
  requests := by
    rw [fresh.idle]
    exact Table.All.empty
  jobs := by
    intro type _ day
    have none : s.jobs.filter (fun job => job.ofGrant && job.startedOn = day && job.type = type) =
        [] := by
      apply List.filter_eq_nil_iff.mpr
      intro job listed
      simp [fresh.others job listed]
    rw [startedOn, none, fresh.idle]
    rfl

end Steps

/-- In every run in which no request that took an amount finds a job of its own payload under its
key, ends on another day than it took the amount on, or has a grant that is no longer active: the
window of the day counts what the jobs started on that day move, the requests that failed otherwise
than with a 4xx, and those still under way; and a repeated request takes nothing. -/
theorem value_charged_per_job (s : GrantUse) (fresh : s.Fresh) (events : List GrantEvent)
    (along : Along step ChargesJobs s events) :
    let later := run step s events
    (∀ type, (s.grant.maxValuePerDay type).isSome = true →
      later.chargedOn later.today type = later.startedOn later.today type +
        later.failedOn later.today type + later.openOn later.today type) ∧
    ∀ id, ∀ request ∈ later.requests.find? id, request.phase = .repeated →
      request.counted = false := by
  intro later
  have keeps : ∀ (middle : GrantUse) event,
      middle.Charged ∧ middle.grant.maxValuePerDay = s.grant.maxValuePerDay →
        middle.ChargesJobs event → (middle.step event).Charged ∧
          (middle.step event).grant.maxValuePerDay = s.grant.maxValuePerDay := by
    intro middle event held allowed
    exact ⟨step_charged event held.1 allowed, (step_maxValuePerDay event).trans held.2⟩
  have held := run_invariant keeps ⟨fresh.charged, rfl⟩ events along
  constructor
  · intro type limited
    exact held.1.chargedOn (by rw [held.2]; exact limited)
  · intro id request found
    exact (held.1.requests id request found).repeated

/-- Ten atoms a day of each type. -/
def tenAtoms : GrantUse := ⟨0, ⟨true, fun _ => some 10, fun _ => none, none⟩, Table.empty, []⟩

def transferKey (key : String) (given : key ≠ "") : Option IdempotencyTuple :=
  some ⟨"session", "sponsorTransfer", key, given⟩

theorem value_charged_per_job_mixed :
    let later := run step tenAtoms
      [.arrive 1 "aa" 4 (transferKey "k" (by decide)) ⟨"p"⟩, .takeValueBudget 1, .startJob 1,
        .arrive 2 "aa" 3 none ⟨"q"⟩, .takeValueBudget 2, .fail 2 (some 403), .refundValueBudget 2,
        .arrive 3 "aa" 5 none ⟨"r"⟩, .takeValueBudget 3, .fail 3 (some 503)]
    later.chargedOn later.today "aa" = later.startedOn later.today "aa" +
      later.failedOn later.today "aa" + later.openOn later.today "aa" :=
  (value_charged_per_job tenAtoms ⟨rfl, rfl, by simp [tenAtoms]⟩
    [.arrive 1 "aa" 4 (transferKey "k" (by decide)) ⟨"p"⟩, .takeValueBudget 1, .startJob 1,
      .arrive 2 "aa" 3 none ⟨"q"⟩, .takeValueBudget 2, .fail 2 (some 403), .refundValueBudget 2,
      .arrive 3 "aa" 5 none ⟨"r"⟩, .takeValueBudget 3, .fail 3 (some 503)]
    (by decide +kernel)).1 "aa" rfl

/-- The same transfer is asked for twice under one key: the second request is answered with the job
of the first, and its amount stays charged. -/
theorem repeated_request_charged :
    let later := run step tenAtoms
      [.arrive 1 "aa" 4 (transferKey "k" (by decide)) ⟨"p"⟩, .takeValueBudget 1, .startJob 1,
        .arrive 2 "aa" 4 (transferKey "k" (by decide)) ⟨"p"⟩, .takeValueBudget 2, .startJob 2]
    later.chargedOn later.today "aa" = 8 ∧ later.startedOn later.today "aa" = 4 ∧
      later.failedOn later.today "aa" = 0 ∧ later.openOn later.today "aa" = 0 ∧
      (later.requests.find? 2).map ValueRequest.phase = some .repeated := by
  decide +kernel

end GrantUse

end Nightgate.Sessions
