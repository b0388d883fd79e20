import Nightgate.Library.TableSums
import Nightgate.Library.WindowedBudget
import Nightgate.Submission.JobAdmission

/-!
# Value budgets of a grant

A sponsored swap or transfer, a mint and a burn take what they move from the day's value budget of
their token type, and start a job afterwards. A request that then ends with a 4xx gives the amount
back. All takes and refunds of a grant hold one lock, so each of them is one step here.
-/

namespace Nightgate.Sessions

open Library
open Submission (IdempotencyTuple Sha256)

abbrev TokenType := String

/-- Token type to atoms. -/
abbrev ValueBudgetMap := TokenType → Option Nat

/-- What the value budget reads of `AgentGrants`. Windows are UTC days. -/
structure AgentGrant where
  /-- `currentGrantRow` finds the row: it is neither revoked nor expired. -/
  isActive : Bool
  maxValuePerDay : ValueBudgetMap
  valueUsedToday : ValueBudgetMap
  valueWindow : Option Nat

/-- The atoms used on a day, as the take and `valueBudgetView` read them. -/
def AgentGrant.usedOn (grant : AgentGrant) (today : Nat) : ValueBudgetMap :=
  if grant.valueWindow = some today then grant.valueUsedToday else fun _ => none

inductive ValueTake where
  /-- The request passes and nothing is counted. -/
  | passes
  | taken (grant : AgentGrant)
  | refused (max used : Nat)

def consumeValueBudget (grant : AgentGrant) (today : Nat) (type : TokenType) (amount : Nat) :
    ValueTake :=
  if amount = 0 then .passes
  else if grant.isActive = false then .passes
  else
    match grant.maxValuePerDay type with
    | none => .passes
    | some max =>
      let used := grant.usedOn today
      let usedNow := (used type).getD 0
      if max < usedNow + amount then .refused max usedNow
      else .taken { grant with
        valueWindow := some today
        valueUsedToday := Function.update used type (some (usedNow + amount)) }

def refundValueBudget (grant : AgentGrant) (today : Nat) (type : TokenType) (amount : Nat) :
    AgentGrant :=
  if grant.isActive = false ∨ grant.valueWindow ≠ some today then grant
  else
    let left := (grant.valueUsedToday type).getD 0 - amount
    { grant with valueUsedToday := Function.update grant.valueUsedToday type (some left) }

inductive RequestPhase where
  /-- Before the budget. -/
  | arrived
  /-- The budget let it pass. -/
  | passed
  /-- 429. -/
  | rateLimited
  /-- Answered with a new job. -/
  | started
  /-- Answered with the job of an earlier request. -/
  | repeated
  | failed (status : Option Nat)
  deriving DecidableEq

/-- A failure that gives the budget back. -/
def isClientError (status : Option Nat) : Bool :=
  status.any fun status => 400 ≤ status && status < 500

/-- A request of `sponsorSwap`, `sponsorTransfer`, `mintFactoryToken` or `burnFactoryToken`: the
kind is in the tuple, and the amount is what the caller gives, transfers, mints or burns. -/
structure ValueRequest where
  ID : Nat
  tokenType : TokenType
  amount : Nat
  tuple : Option IdempotencyTuple
  payloadFingerprint : Sha256
  phase : RequestPhase := .arrived
  /-- The day on which the budget let it pass. -/
  passedOn : Option Nat := none
  counted : Bool := false
  refunded : Bool := false

instance : Keyed ValueRequest := ⟨ValueRequest.ID⟩

/-- The type the budget counts. -/
def ValueRequest.type (request : ValueRequest) : TokenType := request.tokenType.toLower

def ValueRequest.pass (today : Nat) (counted : Bool) (request : ValueRequest) : ValueRequest :=
  { request with phase := .passed, passedOn := some today, counted }

def ValueRequest.giveBack (request : ValueRequest) : ValueRequest :=
  { request with refunded := true }

structure ValueJob where
  tuple : Option IdempotencyTuple
  payloadFingerprint : Sha256
  type : TokenType
  amount : Nat
  startedOn : Nat
  /-- Started by a request under the grant. -/
  ofGrant : Bool

/-- The job of a key. Without a key there is none. -/
def dedupExisting (jobs : List ValueJob) (request : ValueRequest) : Option ValueJob :=
  request.tuple.bind fun tuple => jobs.find? fun job => job.tuple = some tuple

structure GrantUse where
  today : Nat
  grant : AgentGrant
  requests : Table ValueRequest
  jobs : List ValueJob

inductive GrantEvent where
  | daysPass (days : Nat)
  /-- The grant is revoked or expires. -/
  | deactivate
  | arrive (ID : Nat) (tokenType : TokenType) (amount : Nat) (tuple : Option IdempotencyTuple)
      (payloadFingerprint : Sha256)
  | takeValueBudget (ID : Nat)
  | startJob (ID : Nat)
  /-- The request ends with an error. -/
  | fail (ID : Nat) (status : Option Nat)
  | refundValueBudget (ID : Nat)
  /-- A job of a request that is not under the grant. -/
  | otherJob (job : ValueJob)

namespace GrantUse

/-- Rewrites a request that is in a phase. -/
def setRequest (s : GrantUse) (id : Nat) (set : ValueRequest → ValueRequest)
    (keeps : ∀ request, (set request).ID = request.ID) : GrantUse :=
  { s with requests := s.requests.update id (fun _ => true) ⟨set, keeps⟩ }

def moveTo (s : GrantUse) (id : Nat) (phase : RequestPhase) : GrantUse :=
  s.setRequest id (fun request => { request with phase }) fun _ => rfl

def takeValueBudget (s : GrantUse) (request : ValueRequest) : GrantUse :=
  match consumeValueBudget s.grant s.today request.type request.amount with
  | .passes => s.setRequest request.ID (ValueRequest.pass s.today false) fun _ => rfl
  | .taken grant =>
    ({ s with grant } : GrantUse).setRequest request.ID (ValueRequest.pass s.today true)
      fun _ => rfl
  | .refused _ _ => s.moveTo request.ID .rateLimited

def startJob (s : GrantUse) (request : ValueRequest) : GrantUse :=
  match dedupExisting s.jobs request with
  | some job =>
    if job.payloadFingerprint = request.payloadFingerprint then s.moveTo request.ID .repeated
    else s.moveTo request.ID (.failed (some 409))
  | none =>
    let job : ValueJob := {
      tuple := request.tuple, payloadFingerprint := request.payloadFingerprint
      type := request.type, amount := request.amount, startedOn := s.today, ofGrant := true }
    ({ s with jobs := s.jobs ++ [job] } : GrantUse).moveTo request.ID .started

def refund (s : GrantUse) (request : ValueRequest) : GrantUse :=
  let grant := Sessions.refundValueBudget s.grant s.today request.type request.amount
  ({ s with grant } : GrantUse).setRequest request.ID ValueRequest.giveBack fun _ => rfl

/-- The failed request gives back what it took, once. -/
def refundDue (request : ValueRequest) : Bool :=
  request.counted && !request.refunded &&
    match request.phase with
    | .failed status => isClientError status
    | _ => false

def step (s : GrantUse) : GrantEvent → GrantUse
  | .daysPass days => { s with today := s.today + days }
  | .deactivate => { s with grant := { s.grant with isActive := false } }
  | .arrive ID tokenType amount tuple payloadFingerprint =>
    { s with requests :=
        s.requests.insert { ID, tokenType, amount, tuple, payloadFingerprint } }
  | .takeValueBudget id =>
    match s.requests.find? id with
    | some request => if request.phase = .arrived then s.takeValueBudget request else s
    | none => s
  | .startJob id =>
    match s.requests.find? id with
    | some request => if request.phase = .passed then s.startJob request else s
    | none => s
  | .fail id status =>
    match s.requests.find? id with
    | some request =>
      if request.phase = .arrived ∨ request.phase = .passed then
        s.moveTo request.ID (.failed status)
      else s
    | none => s
  | .refundValueBudget id =>
    match s.requests.find? id with
    | some request => if refundDue request then s.refund request else s
    | none => s
  | .otherJob job => { s with jobs := s.jobs ++ [{ job with ofGrant := false }] }

/-- A grant nobody has used yet, and the jobs of others. -/
structure Fresh (s : GrantUse) : Prop where
  unused : s.grant.valueWindow = none
  idle : s.requests = Table.empty
  others : ∀ job ∈ s.jobs, job.ofGrant = false

/-! ## Budgets as a meter -/

/-- What a request counts in a day's window. -/
def countedIn (day : Nat) (type : TokenType) (request : ValueRequest) : Nat :=
  if request.counted = true ∧ request.refunded = false ∧ request.passedOn = some day ∧
      request.type = type then request.amount
  else 0

/-- The value budget of the grant, with what its requests took and did not get back. -/
def meter (s : GrantUse) : Meter Nat TokenType where
  window := s.grant.valueWindow
  used type := (s.grant.valueUsedToday type).getD 0
  outstanding day type := s.requests.total (countedIn day type)

/-- The value of the requests that the budget let pass on a day and that got nothing back. -/
def admittedOn (s : GrantUse) (day : Nat) (type : TokenType) : Nat :=
  s.requests.total fun request =>
    if request.passedOn = some day ∧ request.refunded = false ∧ request.type = type then
      request.amount
    else 0

/-- What holds of every request as long as the grant is active when it takes its value. -/
structure RequestSound (limits : ValueBudgetMap) (today : Nat) (request : ValueRequest) :
    Prop where
  arrived : request.phase = .arrived → request.passedOn = none ∧ request.counted = false ∧
    request.refunded = false
  notLater : ∀ day, request.passedOn = some day → day ≤ today
  counted : request.counted = true → request.passedOn.isSome = true
  limited : request.passedOn.isSome = true → (limits request.type).isSome = true →
    request.amount ≠ 0 → request.counted = true

/-- The state of a grant's value budget as long as it is active when requests take from it. -/
structure Sound (s : GrantUse) : Prop where
  requests : s.requests.All (RequestSound s.grant.maxValuePerDay s.today)
  notPast : s.meter.NotPast s.today
  meter : s.meter.Sound s.grant.maxValuePerDay

section Row

variable {grant : AgentGrant} {today : Nat} {type : TokenType} {amount : Nat}

theorem taken_of_consume {after : AgentGrant}
    (taken : consumeValueBudget grant today type amount = .taken after) :
    ∃ max, grant.maxValuePerDay type = some max ∧ amount ≠ 0 ∧
      ((grant.usedOn today) type).getD 0 + amount ≤ max ∧
      after = { grant with
        valueWindow := some today
        valueUsedToday := Function.update (grant.usedOn today) type
          (some (((grant.usedOn today) type).getD 0 + amount)) } := by
  unfold consumeValueBudget at taken
  split at taken
  · cases taken
  next positive =>
    split at taken
    · cases taken
    · split at taken
      · cases taken
      next max isMax =>
        dsimp only at taken
        split at taken
        · cases taken
        next room =>
          cases taken
          exact ⟨max, isMax, positive, by omega, rfl⟩

theorem of_consume_passes (passes : consumeValueBudget grant today type amount = .passes) :
    amount = 0 ∨ grant.isActive = false ∨ grant.maxValuePerDay type = none := by
  unfold consumeValueBudget at passes
  split at passes
  next none => exact .inl none
  · split at passes
    next inactive => exact .inr (.inl inactive)
    · split at passes
      next unlimited => exact .inr (.inr unlimited)
      · dsimp only at passes
        split at passes <;> cases passes

@[simp] theorem refundValueBudget_maxValuePerDay :
    (refundValueBudget grant today type amount).maxValuePerDay = grant.maxValuePerDay := by
  unfold refundValueBudget
  split <;> rfl

@[simp] theorem refundValueBudget_valueWindow :
    (refundValueBudget grant today type amount).valueWindow = grant.valueWindow := by
  unfold refundValueBudget
  split <;> rfl

end Row

/-! ## What one event does to the requests -/

section Requests

variable {s : GrantUse} {id : Nat} {request : ValueRequest}

theorem setRequest_all {holds : ValueRequest → Prop} {set : ValueRequest → ValueRequest}
    {keeps : ∀ request, (set request).ID = request.ID} (all : s.requests.All holds)
    (found : s.requests.find? id = some request) (held : holds (set request)) :
    (s.setRequest id set keeps).requests.All holds := by
  apply all.update
  intro row isRow _ _
  rw [found] at isRow
  cases isRow
  exact held

/-- A request that counts what it counted before leaves the budget alone. -/
theorem setRequest_meter {set : ValueRequest → ValueRequest}
    {keeps : ∀ request, (set request).ID = request.ID} (found : s.requests.find? id = some request)
    (same : ∀ day type, countedIn day type (set request) = countedIn day type request) :
    (s.setRequest id set keeps).meter = s.meter := by
  unfold meter
  congr 1
  funext day type
  apply Table.total_update_same
  intro row isRow _
  rw [found] at isRow
  cases isRow
  exact same day type

@[simp] theorem moveTo_meter (phase : RequestPhase) : (s.moveTo id phase).meter = s.meter := by
  unfold meter
  congr 1
  funext day type
  exact Table.total_update_same fun _ _ _ => rfl

theorem RequestSound.moveTo {limits : ValueBudgetMap} {today : Nat}
    (sound : RequestSound limits today request) {phase : RequestPhase} (moved : phase ≠ .arrived) :
    RequestSound limits today { request with phase } where
  arrived isArrived := absurd isArrived moved
  notLater := sound.notLater
  counted := sound.counted
  limited := sound.limited

theorem Sound.moveTo (sound : s.Sound) {phase : RequestPhase} (moved : phase ≠ .arrived)
    (found : s.requests.find? id = some request) : (s.moveTo id phase).Sound where
  requests := setRequest_all sound.requests found ((sound.requests id request found).moveTo moved)
  notPast := by
    rw [moveTo_meter]
    exact sound.notPast
  meter := by
    rw [moveTo_meter]
    exact sound.meter

end Requests

section Moves

variable {s : GrantUse} {id : Nat} {request : ValueRequest}

theorem usedIn_meter (s : GrantUse) (day : Nat) (type : TokenType) :
    s.meter.usedIn day type = ((s.grant.usedOn day) type).getD 0 := by
  unfold Meter.usedIn AgentGrant.usedOn
  by_cases current : s.grant.valueWindow = some day
  · rw [if_pos current]
    exact if_pos current
  · rw [if_neg current]
    exact if_neg current

theorem countedIn_uncounted (uncounted : request.counted = false) (day : Nat) (type : TokenType) :
    countedIn day type request = 0 := by
  simp [countedIn, uncounted]

theorem countedIn_pass (unrefunded : request.refunded = false) (today day : Nat)
    (type : TokenType) :
    countedIn day type (request.pass today true) =
      if day = today ∧ type = request.type then request.amount else 0 := by
  have sameType : (request.pass today true).type = request.type := rfl
  have sameAmount : (request.pass today true).amount = request.amount := rfl
  unfold countedIn
  rw [sameType, sameAmount]
  simp [ValueRequest.pass, unrefunded, eq_comm]

@[simp] theorem countedIn_giveBack (day : Nat) (type : TokenType) :
    countedIn day type request.giveBack = 0 := by
  simp [countedIn, ValueRequest.giveBack]

/-- What a take does to the meter. -/
theorem taken_effect {grant : AgentGrant} (sound : s.Sound)
    (found : s.requests.find? id = some request) (arrived : request.phase = .arrived)
    (taken : consumeValueBudget s.grant s.today request.type request.amount = .taken grant) :
    let after := (({ s with grant } : GrantUse).setRequest id (ValueRequest.pass s.today true)
      fun _ => rfl).meter
    after.window = some s.today ∧ (∀ other, after.used other = s.meter.usedIn s.today other +
        if other = request.type then request.amount else 0) ∧
      ∀ day other, after.outstanding day other = s.meter.outstanding day other +
        if day = s.today ∧ other = request.type then request.amount else 0 := by
  rcases taken_of_consume taken with ⟨max, isMax, _, room, rfl⟩
  rcases (sound.requests id request found).arrived arrived with ⟨_, uncounted, unrefunded⟩
  refine ⟨rfl, ?_, ?_⟩
  · intro other
    rw [usedIn_meter]
    by_cases same : other = request.type
    · subst same
      simp [meter, setRequest]
    · simp [meter, setRequest, same]
  · intro day other
    have moved : (s.requests.update id (fun _ => true)
        ⟨ValueRequest.pass s.today true, fun _ => rfl⟩).total (countedIn day other) +
          countedIn day other request =
        s.requests.total (countedIn day other) + countedIn day other (request.pass s.today true) :=
      Table.total_update found rfl
    rw [countedIn_uncounted uncounted, Nat.add_zero, countedIn_pass unrefunded] at moved
    exact moved

theorem taken_moves {grant : AgentGrant} (sound : s.Sound)
    (found : s.requests.find? id = some request) (arrived : request.phase = .arrived)
    (taken : consumeValueBudget s.grant s.today request.type request.amount = .taken grant) :
    Meter.Move s.grant.maxValuePerDay s.meter
      (({ s with grant } : GrantUse).setRequest id (ValueRequest.pass s.today true)
        fun _ => rfl).meter := by
  rcases taken_effect sound found arrived taken with ⟨window, used, outstanding⟩
  rcases taken_of_consume taken with ⟨max, isMax, _, room, _⟩
  apply Meter.Move.take s.today request.type request.amount sound.notPast _ window used outstanding
  intro bound isBound
  rw [isMax] at isBound
  cases isBound
  rw [usedIn_meter]
  exact room

theorem refund_outstanding (found : s.requests.find? request.ID = some request) (day : Nat)
    (other : TokenType) :
    (s.refund request).meter.outstanding day other + countedIn day other request =
      s.meter.outstanding day other := by
  have update : (s.refund request).meter.outstanding day other + countedIn day other request =
      s.meter.outstanding day other + countedIn day other request.giveBack :=
    Table.total_update found rfl
  rw [update, countedIn_giveBack, Nat.add_zero]

theorem refund_used_of_current (active : s.grant.isActive = true)
    (current : s.grant.valueWindow = some s.today) (other : TokenType) :
    (s.refund request).meter.used other =
      s.meter.used other - if other = request.type then request.amount else 0 := by
  by_cases same : other = request.type
  · subst same
    simp [meter, refund, setRequest, refundValueBudget, active, current]
  · simp [meter, refund, setRequest, refundValueBudget, active, current, same]

theorem countedIn_due (due : refundDue request = true) (day : Nat) (other : TokenType) :
    countedIn day other request =
      if request.passedOn = some day ∧ request.type = other then request.amount else 0 := by
  simp only [refundDue, Bool.and_eq_true, Bool.not_eq_true'] at due
  simp [countedIn, due.1]

theorem refund_used (kept : s.grant.valueWindow ≠ some s.today ∨
    (s.grant.valueUsedToday request.type).getD 0 = 0) :
    (s.refund request).meter.used = s.meter.used := by
  funext other
  simp only [meter, refund, setRequest, refundValueBudget]
  split
  · rfl
  next current =>
    rcases kept with otherDay | unused
    · exact absurd (.inr otherDay) current
    · by_cases same : other = request.type
      · subst same
        simp [unused]
      · simp [same]

/-- A refund gives the amount back to its own window, or leaves the count alone. -/
theorem refund_moves (found : s.requests.find? request.ID = some request)
    (due : refundDue request = true)
    (inWindow : request.passedOn = some s.today ∨ s.grant.valueWindow ≠ some s.today ∨
      (s.grant.valueUsedToday request.type).getD 0 = 0) :
    Meter.Move s.grant.maxValuePerDay s.meter (s.refund request).meter := by
  have less : ∀ day other, (s.refund request).meter.outstanding day other ≤
      s.meter.outstanding day other := by
    intro day other
    have equal := refund_outstanding found day other
    omega
  have window : (s.refund request).meter.window = s.meter.window := refundValueBudget_valueWindow
  by_cases kept : s.grant.isActive = false ∨ s.grant.valueWindow ≠ some s.today
  · apply Meter.Move.forget window _ less
    intro other
    simp [meter, refund, setRequest, refundValueBudget, kept]
  · rw [not_or, not_not, Bool.not_eq_false] at kept
    rcases inWindow with sameDay | notCounted
    · apply Meter.Move.giveBack s.today request.type request.amount kept.2 (window.trans kept.2)
        (refund_used_of_current kept.1 kept.2)
      intro day other
      rw [← refund_outstanding found day other, countedIn_due due, sameDay]
      simp [eq_comm]
    · exact Meter.Move.forget window (fun other => congrFun (refund_used notCounted) other) less

end Moves

/-! ## Runs -/

/-- A request with a limited amount takes it while the grant is active, and an amount is given back
on the day it was taken, or on one of which the row counts nothing of its type. -/
def InWindow (s : GrantUse) : GrantEvent → Prop
  | .takeValueBudget id =>
    ∀ request ∈ s.requests.find? id,
      (s.grant.maxValuePerDay request.type).isSome = true → request.amount ≠ 0 →
        s.grant.isActive = true
  | .refundValueBudget id =>
    ∀ request ∈ s.requests.find? id, refundDue request = true →
      request.passedOn = some s.today ∨ s.grant.valueWindow ≠ some s.today ∨
        (s.grant.valueUsedToday request.type).getD 0 = 0
  | _ => True

instance (s : GrantUse) (event : GrantEvent) : Decidable (s.InWindow event) := by
  cases event <;> unfold InWindow <;> infer_instance

/-- A refund that changes the count finds it at the day its amount was taken on. -/
def ReturnsToOwnWindow (s : GrantUse) : GrantEvent → Prop
  | .refundValueBudget id =>
    ∀ request ∈ s.requests.find? id, (s.step (.refundValueBudget id)).meter.used = s.meter.used ∨
        s.grant.valueWindow = request.passedOn
  | _ => True

section Steps

variable {s : GrantUse} {id : Nat} {request : ValueRequest}

theorem RequestSound.pass {limits : ValueBudgetMap} {today : Nat} {counted : Bool}
    (ifLimited : (limits request.type).isSome = true → request.amount ≠ 0 → counted = true) :
    RequestSound limits today (request.pass today counted) where
  arrived isArrived := by cases isArrived
  notLater day isDay := by
    cases isDay
    exact Nat.le_refl _
  counted _ := rfl
  limited _ := ifLimited

theorem Sound.takeValueBudget (sound : s.Sound) (found : s.requests.find? request.ID = some request)
    (arrived : request.phase = .arrived)
    (active : (s.grant.maxValuePerDay request.type).isSome = true → request.amount ≠ 0 →
      s.grant.isActive = true) : (s.takeValueBudget request).Sound := by
  rcases (sound.requests _ request found).arrived arrived with ⟨_, uncounted, _⟩
  unfold GrantUse.takeValueBudget
  split
  next passes =>
    have free : (s.grant.maxValuePerDay request.type).isSome = true → request.amount ≠ 0 →
        false = true := by
      intro limited positive
      rcases of_consume_passes passes with none | inactive | unlimited
      · exact absurd none positive
      · rw [active limited positive] at inactive
        cases inactive
      · rw [unlimited] at limited
        cases limited
    have sameMeter : (s.setRequest request.ID (ValueRequest.pass s.today false)
        fun _ => rfl).meter = s.meter := by
      apply setRequest_meter found
      intro day type
      rw [countedIn_uncounted uncounted, countedIn_uncounted rfl]
    constructor
    · exact setRequest_all sound.requests found (RequestSound.pass free)
    · rw [sameMeter]
      exact sound.notPast
    · rw [sameMeter]
      exact sound.meter
  next grant taken =>
    have move := taken_moves sound found arrived taken
    rcases taken_of_consume taken with ⟨max, _, _, _, rfl⟩
    constructor
    · exact setRequest_all (s := { s with grant := _ }) sound.requests found
        (RequestSound.pass fun _ _ => rfl)
    · intro window isWindow
      cases isWindow
      exact Nat.le_refl _
    · exact move.sound sound.meter
  · exact sound.moveTo (by simp) found

theorem RequestSound.giveBack {limits : ValueBudgetMap} {today : Nat}
    (sound : RequestSound limits today request) (notArrived : request.phase ≠ .arrived) :
    RequestSound limits today request.giveBack where
  arrived isArrived := absurd isArrived notArrived
  notLater := sound.notLater
  counted := sound.counted
  limited := sound.limited

theorem Sound.refund (sound : s.Sound) (found : s.requests.find? request.ID = some request)
    (due : refundDue request = true)
    (inWindow : request.passedOn = some s.today ∨ s.grant.valueWindow ≠ some s.today ∨
      (s.grant.valueUsedToday request.type).getD 0 = 0) : (s.refund request).Sound := by
  have move := refund_moves found due inWindow
  have sameLimits : (s.refund request).grant.maxValuePerDay = s.grant.maxValuePerDay :=
    refundValueBudget_maxValuePerDay
  have notArrived : request.phase ≠ .arrived := by
    intro isArrived
    simp [refundDue, isArrived] at due
  constructor
  · rw [sameLimits]
    exact setRequest_all sound.requests found ((sound.requests _ request found).giveBack notArrived)
  · intro window isWindow
    exact sound.notPast window (refundValueBudget_valueWindow.symm.trans isWindow)
  · rw [sameLimits]
    exact move.sound sound.meter

/-- A step of one request leaves the use alone, or handles a request that meets its condition. -/
theorem of_request {holds : GrantUse → Prop} {guard : ValueRequest → Prop} [DecidablePred guard]
    {handled : ValueRequest → GrantUse} {id : Nat} (idle : holds s)
    (handles : ∀ request, id = request.ID → s.requests.find? request.ID = some request →
      guard request → holds (handled request)) :
    holds (match s.requests.find? id with
      | some request => if guard request then handled request else s
      | none => s) := by
  cases found : s.requests.find? id with
  | none => exact idle
  | some request =>
    have isKey : request.ID = id := Table.key_of_find? found
    by_cases met : guard request
    · simpa only [if_pos met] using handles request isKey.symm (isKey ▸ found) met
    · simpa only [if_neg met] using idle

theorem step_sound (event : GrantEvent) (sound : s.Sound) (allowed : s.InWindow event) :
    (s.step event).Sound := by
  cases event with
  | daysPass days =>
    refine ⟨sound.requests.imp ?_, ?_, sound.meter⟩
    · intro request requestSound
      exact ⟨requestSound.arrived,
        fun day isDay => Nat.le_add_right_of_le (requestSound.notLater day isDay),
        requestSound.counted, requestSound.limited⟩
    · intro window isWindow
      exact Nat.le_add_right_of_le (sound.notPast window isWindow)
  | deactivate | otherJob => exact ⟨sound.requests, sound.notPast, sound.meter⟩
  | arrive ID tokenType amount tuple payloadFingerprint =>
    have sameMeter :
        (s.step (.arrive ID tokenType amount tuple payloadFingerprint)).meter = s.meter := by
      unfold meter
      congr 1
      funext day type
      exact Table.total_insert_weightless (countedIn_uncounted rfl day type)
    refine ⟨sound.requests.insert ⟨fun _ => ⟨rfl, rfl, rfl⟩, ?_, ?_, ?_⟩, ?_, ?_⟩
    · nofun
    · nofun
    · nofun
    · rw [sameMeter]
      exact sound.notPast
    · rw [sameMeter]
      exact sound.meter
  | takeValueBudget id =>
    apply of_request sound
    rintro request rfl found arrived
    exact sound.takeValueBudget found arrived (allowed request found)
  | startJob id =>
    apply of_request sound
    rintro request rfl found passed
    unfold startJob
    split
    next job _ =>
      split
      · exact sound.moveTo (by simp) found
      · exact sound.moveTo (by simp) found
    · have sameRequests : ∀ jobs, ({ s with jobs } : GrantUse).Sound :=
        fun _ => ⟨sound.requests, sound.notPast, sound.meter⟩
      refine (sameRequests _).moveTo ?_ found
      simp
  | fail id status =>
    apply of_request sound
    rintro request rfl found early
    exact sound.moveTo (by simp) found
  | refundValueBudget id =>
    apply of_request sound
    rintro request rfl found due
    exact sound.refund found due (allowed request found due)

end Steps

section Limits

variable {s : GrantUse}

theorem step_maxValuePerDay (event : GrantEvent) :
    (s.step event).grant.maxValuePerDay = s.grant.maxValuePerDay := by
  have sameLimits := @of_request s fun after =>
    after.grant.maxValuePerDay = s.grant.maxValuePerDay
  cases event with
  | takeValueBudget id =>
    apply sameLimits rfl
    intro request _ _ _
    unfold takeValueBudget
    split
    · rfl
    next grant taken =>
      rcases taken_of_consume taken with ⟨_, _, _, _, rfl⟩
      rfl
    · rfl
  | refundValueBudget id =>
    exact sameLimits rfl fun _ _ _ _ => refundValueBudget_maxValuePerDay
  | startJob id =>
    apply sameLimits rfl
    intro request _ _ _
    unfold startJob
    split
    · split <;> rfl
    · rfl
  | fail id status => exact sameLimits rfl fun _ _ _ _ => rfl
  | daysPass | deactivate | arrive | otherJob => rfl

/-- Of a limited type, what the budget let pass is what it counted. -/
theorem Sound.admittedOn_eq (sound : s.Sound) {type : TokenType}
    (limited : (s.grant.maxValuePerDay type).isSome = true) (day : Nat) :
    s.admittedOn day type = s.meter.outstanding day type := by
  apply Table.total_congr
  intro request stored
  have requestSound := sound.requests _ request (Table.find?_of_mem stored)
  unfold countedIn
  by_cases passed : request.passedOn = some day ∧ request.refunded = false ∧ request.type = type
  · rw [if_pos passed]
    rcases passed with ⟨isDay, unrefunded, isType⟩
    by_cases none : request.amount = 0
    · simp [none]
    · have counted := requestSound.limited (by rw [isDay]; rfl) (isType ▸ limited) none
      simp [isDay, unrefunded, isType, counted]
  · rw [if_neg passed, if_neg]
    intro counted
    exact passed ⟨counted.2.2.1, counted.2.1, counted.2.2.2⟩

theorem Sound.admittedOn_le (sound : s.Sound) {type : TokenType} {max : Nat}
    (isMax : s.grant.maxValuePerDay type = some max) (day : Nat) : s.admittedOn day type ≤ max := by
  rw [sound.admittedOn_eq (by rw [isMax]; rfl)]
  exact sound.meter.outstanding day type max isMax

theorem Fresh.sound (fresh : s.Fresh) : s.Sound where
  requests := by
    rw [fresh.idle]
    exact Table.All.empty
  notPast := by
    intro window isWindow
    rw [meter, fresh.unused] at isWindow
    cases isWindow
  meter := by
    have unused : ∀ window, s.meter.window ≠ some window := by
      intro window isWindow
      rw [meter, fresh.unused] at isWindow
      cases isWindow
    have idle : ∀ day type, s.meter.outstanding day type = 0 := by
      intro day type
      simp [meter, fresh.idle]
    constructor
    · intro window isWindow
      exact absurd isWindow (unused window)
    · intro day _ type
      exact idle day type
    · intro window isWindow
      exact absurd isWindow (unused window)
    · intro day type bound _
      rw [idle day type]
      exact Nat.zero_le _

/-- In a run that gives amounts back in their own windows, the requests of a day stay within the
value budget of their type. -/
theorem run_admittedOn_le (fresh : s.Fresh) (events : List GrantEvent)
    (along : Along step InWindow s events) {type : TokenType} {max : Nat}
    (isMax : s.grant.maxValuePerDay type = some max) (day : Nat) :
    (run step s events).admittedOn day type ≤ max := by
  have keeps : ∀ (later : GrantUse) event,
      later.Sound ∧ later.grant.maxValuePerDay = s.grant.maxValuePerDay → later.InWindow event →
        (later.step event).Sound ∧
          (later.step event).grant.maxValuePerDay = s.grant.maxValuePerDay := by
    intro later event held allowed
    exact ⟨step_sound event held.1 allowed, (step_maxValuePerDay event).trans held.2⟩
  have both := run_invariant keeps ⟨fresh.sound, rfl⟩ events along
  exact both.1.admittedOn_le (both.2 ▸ isMax) day

end Limits

theorem returnsToOwnWindow {s : GrantUse} (event : GrantEvent) (allowed : s.InWindow event) :
    s.ReturnsToOwnWindow event := by
  cases event with
  | refundValueBudget id =>
    intro request found
    have isFound : s.requests.find? id = some request := found
    simp only [step, isFound]
    split
    next due =>
      rcases allowed request found due with sameDay | kept
      · by_cases current : s.grant.valueWindow = some s.today
        · exact .inr (current.trans sameDay.symm)
        · exact .inl (refund_used (.inl current))
      · exact .inl (refund_used kept)
    · exact .inl rfl
  | daysPass | deactivate | arrive | takeValueBudget | startJob | fail | otherJob => trivial

end GrantUse

end Nightgate.Sessions
