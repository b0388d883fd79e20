import Nightgate.Sessions.ValueBudgets

/-!
# Counted budgets of a grant

A request under a grant takes one unit of each limited budget, of the hour first and of the day
then. A unit is taken by conditional updates of the grant's row: one starts a new window, unless
another request has started it, and one counts up in the window. A request that is refused, or that
ends with a 4xx, gives its units back. Requests take their statements in any order.
-/

namespace Nightgate.Sessions

open Library

/-- One counted budget of a grant. -/
inductive GrantBudget where
  | hour
  | day
  deriving DecidableEq

/-- The window of a time in hours. -/
def GrantBudget.current : GrantBudget → Nat → Nat
  | .hour, now => now
  | .day, now => now / 24

theorem GrantBudget.current_mono (budget : GrantBudget) {earlier later : Nat}
    (le : earlier ≤ later) : budget.current earlier ≤ budget.current later := by
  cases budget with
  | hour => exact le
  | day => exact Nat.div_le_div_right le

/-- `maxJobsPerHour` and `maxJobsPerDay`: null or a positive integer. -/
structure GrantLimits where
  max : GrantBudget → Option Nat
  positive : ∀ budget bound, max budget = some bound → 0 < bound

/-- The columns of one budget. -/
structure BudgetColumns where
  window : Option Nat := none
  used : Nat := 0
  deriving DecidableEq

/-- A new window resets the counter only if no other request reset it first. -/
def BudgetColumns.reset? (columns : BudgetColumns) (seen : Option Nat) (window : Nat) :
    Option BudgetColumns :=
  if columns.window = seen then some ⟨some window, 1⟩ else none

def BudgetColumns.increment? (columns : BudgetColumns) (window max : Nat) :
    Option BudgetColumns :=
  if columns.window = some window ∧ columns.used < max then
    some { columns with used := columns.used + 1 }
  else none

def BudgetColumns.refund (columns : BudgetColumns) (window : Nat) : BudgetColumns :=
  if columns.window = some window ∧ 0 < columns.used then
    { columns with used := columns.used - 1 }
  else columns

/-! ## Requests -/

inductive BudgetProgress where
  | waiting
  /-- Before the update that starts the window. -/
  | resetting (window : Nat)
  /-- Before the update that counts up. -/
  | incrementing (window : Nat)
  | taken (window : Nat)
  | refused
  /-- Before the update that gives the unit back, in the window this update names. -/
  | refunding (takenIn window : Nat)
  | refunded
  deriving DecidableEq

def BudgetProgress.isTaken : BudgetProgress → Bool
  | .taken _ => true
  | _ => false

/-- The unit of a window that is taken and not given back. -/
def BudgetProgress.unitIn (window : Nat) : BudgetProgress → Nat
  | .taken takenIn | .refunding takenIn _ => if takenIn = window then 1 else 0
  | _ => 0

structure BudgetRequest where
  ID : Nat
  /-- The windows of the row that the request read. -/
  seen : GrantBudget → Option Nat
  progress : GrantBudget → BudgetProgress := fun _ => .waiting
  /-- The handler ended with a 4xx. -/
  clientError : Bool := false

instance : Keyed BudgetRequest := ⟨BudgetRequest.ID⟩

/-- The budget is next: it is limited and the budgets before it are taken. -/
def BudgetRequest.mayConsume (limits : GrantLimits) (request : BudgetRequest)
    (budget : GrantBudget) : Bool :=
  (limits.max budget).isSome && request.progress budget = .waiting &&
    match budget with
    | .hour => true
    | .day => (limits.max .hour).isNone || (request.progress .hour).isTaken

/-- The handler runs: every limited budget is taken. -/
def BudgetRequest.admitted (limits : GrantLimits) (request : BudgetRequest) : Bool :=
  ((limits.max .hour).isNone || (request.progress .hour).isTaken) &&
    ((limits.max .day).isNone || (request.progress .day).isTaken)

def BudgetRequest.mayRefund (request : BudgetRequest) : Bool :=
  request.clientError || request.progress .hour = .refused || request.progress .day = .refused

def BudgetRequest.setProgress (budget : GrantBudget) (progress : BudgetProgress)
    (request : BudgetRequest) : BudgetRequest :=
  { request with progress := Function.update request.progress budget progress }

def BudgetRequest.failed : Patch BudgetRequest where
  set request := { request with clientError := true }

section Progress

variable {request : BudgetRequest} {budget other : GrantBudget} {progress : BudgetProgress}

@[simp] theorem BudgetRequest.setProgress_self :
    (request.setProgress budget progress).progress budget = progress :=
  Function.update_self ..

theorem BudgetRequest.setProgress_of_ne (different : other ≠ budget) :
    (request.setProgress budget progress).progress other = request.progress other :=
  Function.update_of_ne different ..

end Progress

structure GrantCounters where
  /-- In hours. -/
  now : Nat
  columns : GrantBudget → BudgetColumns
  requests : Table BudgetRequest

inductive CounterEvent where
  | hoursPass (hours : Nat)
  /-- The request reads the grant's row. -/
  | arrive (ID : Nat)
  | consumeBudget (ID : Nat) (budget : GrantBudget)
  | resetWindow (ID : Nat) (budget : GrantBudget)
  | increment (ID : Nat) (budget : GrantBudget)
  /-- The handler ends with a 4xx. -/
  | clientError (ID : Nat)
  /-- The window of the refund is the current one. -/
  | refundBudget (ID : Nat) (budget : GrantBudget)
  | giveBack (ID : Nat) (budget : GrantBudget)

namespace GrantCounters

variable (limits : GrantLimits)

def setProgress (s : GrantCounters) (id : Nat) (budget : GrantBudget) (progress : BudgetProgress) :
    GrantCounters :=
  { s with
    requests := s.requests.update id (fun _ => true)
      ⟨BudgetRequest.setProgress budget progress, fun _ => rfl⟩ }

def setColumns (s : GrantCounters) (budget : GrantBudget) (columns : BudgetColumns) :
    GrantCounters :=
  { s with columns := Function.update s.columns budget columns }

def resetWindow (s : GrantCounters) (request : BudgetRequest) (budget : GrantBudget)
    (window : Nat) : GrantCounters :=
  match (s.columns budget).reset? (request.seen budget) window with
  | some columns => (s.setColumns budget columns).setProgress request.ID budget (.taken window)
  | none => s.setProgress request.ID budget (.incrementing window)

def increment (s : GrantCounters) (request : BudgetRequest) (budget : GrantBudget)
    (window max : Nat) : GrantCounters :=
  match (s.columns budget).increment? window max with
  | some columns => (s.setColumns budget columns).setProgress request.ID budget (.taken window)
  | none => s.setProgress request.ID budget .refused

def step (s : GrantCounters) : CounterEvent → GrantCounters
  | .hoursPass hours => { s with now := s.now + hours }
  | .arrive ID =>
    { s with requests :=
        s.requests.insert { ID, seen := fun budget => (s.columns budget).window } }
  | .consumeBudget id budget =>
    match s.requests.find? id with
    | some request =>
      let window := budget.current s.now
      if request.mayConsume limits budget then
        s.setProgress request.ID budget
          (if request.seen budget = some window then .incrementing window
            else .resetting window)
      else s
    | none => s
  | .resetWindow id budget =>
    match s.requests.find? id with
    | some request =>
      match request.progress budget with
      | .resetting window => s.resetWindow request budget window
      | _ => s
    | none => s
  | .increment id budget =>
    match s.requests.find? id with
    | some request =>
      match request.progress budget, limits.max budget with
      | .incrementing window, some max => s.increment request budget window max
      | _, _ => s
    | none => s
  | .clientError id =>
    match s.requests.find? id with
    | some request =>
      if request.admitted limits then
        { s with requests := s.requests.update id (fun _ => true) BudgetRequest.failed }
      else s
    | none => s
  | .refundBudget id budget =>
    match s.requests.find? id with
    | some request =>
      match request.progress budget with
      | .taken window =>
        if request.mayRefund then
          s.setProgress request.ID budget (.refunding window (budget.current s.now))
        else s
      | _ => s
    | none => s
  | .giveBack id budget =>
    match s.requests.find? id with
    | some request =>
      match request.progress budget with
      | .refunding _ window =>
        (s.setColumns budget ((s.columns budget).refund window)).setProgress request.ID
          budget .refunded
      | _ => s
    | none => s

/-- A grant nobody has used yet. -/
structure Fresh (s : GrantCounters) : Prop where
  unused : ∀ budget, (s.columns budget).window = none
  idle : s.requests = Table.empty

/-- The requests that took a unit in a window and did not give it back. -/
def takenIn (s : GrantCounters) (budget : GrantBudget) (window : Nat) : Nat :=
  s.requests.total fun request => (request.progress budget).unitIn window

/-- One budget, with the units that are taken and not given back. -/
def meter (s : GrantCounters) (budget : GrantBudget) : Meter Nat Unit where
  window := (s.columns budget).window
  used _ := (s.columns budget).used
  outstanding window _ := s.takenIn budget window

def limit (budget : GrantBudget) : Unit → Option Nat := fun _ => limits.max budget

/-- A request has read and named windows up to the current one only. -/
structure RequestSound (now : Nat) (request : BudgetRequest) : Prop where
  seen : ∀ budget window, request.seen budget = some window → window ≤ budget.current now
  resetting : ∀ budget window, request.progress budget = .resetting window →
    ∀ earlier, request.seen budget = some earlier → earlier < window
  window : ∀ budget window, request.progress budget = .resetting window ∨
    request.progress budget = .incrementing window → window ≤ budget.current now

structure Sound (s : GrantCounters) : Prop where
  requests : s.requests.All (RequestSound s.now)
  notPast : ∀ budget, (s.meter budget).NotPast (budget.current s.now)
  meter : ∀ budget, (s.meter budget).Sound (limit limits budget)

/-- A unit is given back in the window it was taken in, or where the row counts nothing of the
window that the refund names. -/
def RefundInWindow (columns : BudgetColumns) : BudgetProgress → Prop
  | .refunding takenIn window =>
    takenIn = window ∨ columns.window ≠ some window ∨ columns.used = 0
  | _ => True

instance (columns : BudgetColumns) (progress : BudgetProgress) :
    Decidable (RefundInWindow columns progress) := by
  cases progress <;> unfold RefundInWindow <;> infer_instance

def InWindow (s : GrantCounters) : CounterEvent → Prop
  | .giveBack id budget =>
    ∀ request ∈ s.requests.find? id, RefundInWindow (s.columns budget) (request.progress budget)
  | _ => True

instance (s : GrantCounters) (event : CounterEvent) : Decidable (s.InWindow event) := by
  cases event <;> unfold InWindow <;> infer_instance

/-! ## One statement -/

section Statements

variable {limits : GrantLimits} {s : GrantCounters} {request : BudgetRequest}
variable {budget other : GrantBudget} {progress : BudgetProgress}

theorem takenIn_setProgress (s : GrantCounters) (budget : GrantBudget) (progress : BudgetProgress)
    (found : s.requests.find? request.ID = some request) (window : Nat) :
    (s.setProgress request.ID budget progress).takenIn budget window +
        (request.progress budget).unitIn window =
      s.takenIn budget window + progress.unitIn window := by
  have moved : (s.setProgress request.ID budget progress).takenIn budget window +
        (request.progress budget).unitIn window =
      s.takenIn budget window +
        ((request.setProgress budget progress).progress budget).unitIn window :=
    Table.total_update found rfl
  rw [BudgetRequest.setProgress_self] at moved
  exact moved

theorem takenIn_setProgress_other (s : GrantCounters) (request : BudgetRequest)
    (progress : BudgetProgress) (different : other ≠ budget) (window : Nat) :
    (s.setProgress request.ID budget progress).takenIn other window = s.takenIn other window := by
  apply Table.total_update_same
  intro row _ _
  exact congrArg _ (BudgetRequest.setProgress_of_ne different)

/-- Progress that takes and gives back nothing leaves the budgets alone. -/
theorem setProgress_meter (found : s.requests.find? request.ID = some request)
    (same : ∀ window, progress.unitIn window = (request.progress budget).unitIn window) :
    (s.setProgress request.ID budget progress).meter other = s.meter other := by
  unfold meter
  congr 1
  funext window _
  by_cases isBudget : other = budget
  · subst isBudget
    have moved := takenIn_setProgress s other progress found window
    rw [same window] at moved
    exact Nat.add_right_cancel moved
  · exact takenIn_setProgress_other s request progress isBudget window

theorem RequestSound.setProgress {now : Nat} (sound : RequestSound now request)
    (resetting : ∀ window, progress = .resetting window →
      ∀ earlier, request.seen budget = some earlier → earlier < window)
    (window : ∀ window, progress = .resetting window ∨ progress = .incrementing window →
      window ≤ budget.current now) :
    RequestSound now (request.setProgress budget progress) where
  seen := sound.seen
  resetting other named isProgress := by
    by_cases isBudget : other = budget
    · subst isBudget
      rw [BudgetRequest.setProgress_self] at isProgress
      exact resetting named isProgress
    · rw [BudgetRequest.setProgress_of_ne isBudget] at isProgress
      exact sound.resetting other named isProgress
  window other named isProgress := by
    by_cases isBudget : other = budget
    · subst isBudget
      rw [BudgetRequest.setProgress_self] at isProgress
      exact window named isProgress
    · rw [BudgetRequest.setProgress_of_ne isBudget] at isProgress
      exact sound.window other named isProgress

/-- Progress that names no window to come. -/
theorem RequestSound.settled {now : Nat} (sound : RequestSound now request)
    (still : ∀ window, progress ≠ .resetting window ∧ progress ≠ .incrementing window) :
    RequestSound now (request.setProgress budget progress) := by
  apply sound.setProgress
  · exact fun window isResetting => absurd isResetting (still window).1
  · rintro window (isResetting | isIncrementing)
    · exact absurd isResetting (still window).1
    · exact absurd isIncrementing (still window).2

theorem setProgress_all {now id : Nat} (all : s.requests.All (RequestSound now))
    (found : s.requests.find? id = some request)
    (held : RequestSound now (request.setProgress budget progress)) :
    (s.setProgress id budget progress).requests.All (RequestSound now) := by
  apply all.update
  intro row isRow _ _
  rw [found] at isRow
  cases isRow
  exact held

variable (sound : s.Sound limits)

include sound

variable (found : s.requests.find? request.ID = some request)

include found

/-- A request that only moves on. -/
theorem Sound.setProgress
    (same : ∀ window, progress.unitIn window = (request.progress budget).unitIn window)
    (held : RequestSound s.now (request.setProgress budget progress)) :
    (s.setProgress request.ID budget progress).Sound limits where
  requests := setProgress_all sound.requests found held
  notPast other := by
    rw [setProgress_meter found same]
    exact sound.notPast other
  meter other := by
    rw [setProgress_meter found same]
    exact sound.meter other

/-- A statement that changes the row of a budget along with a request. -/
theorem Sound.setBoth
    {columns : BudgetColumns}
    (held : RequestSound s.now (request.setProgress budget progress))
    (notPast : ∀ window, columns.window = some window → window ≤ budget.current s.now)
    (move : Meter.Move (limit limits budget) (s.meter budget)
      (((s.setColumns budget columns).setProgress request.ID budget progress).meter budget)) :
    ((s.setColumns budget columns).setProgress request.ID budget progress).Sound limits := by
  have others : ∀ other, other ≠ budget →
      ((s.setColumns budget columns).setProgress request.ID budget progress).meter other =
        s.meter other := by
    intro other different
    unfold GrantCounters.meter
    have sameColumns : (s.setColumns budget columns).columns other = s.columns other :=
      Function.update_of_ne different ..
    have sameUnits := takenIn_setProgress_other (s.setColumns budget columns) request progress
      different
    simp only [GrantCounters.setProgress, sameColumns]
    congr 1
    funext window _
    exact sameUnits window
  constructor
  · exact setProgress_all (s := s.setColumns budget columns) sound.requests found held
  · intro other window isWindow
    by_cases isBudget : other = budget
    · subst isBudget
      apply notPast window
      simpa [GrantCounters.meter, GrantCounters.setProgress, setColumns] using isWindow
    · rw [others other isBudget] at isWindow
      exact sound.notPast other window isWindow
  · intro other
    by_cases isBudget : other = budget
    · subst isBudget
      exact move.sound (sound.meter other)
    · rw [others other isBudget]
      exact sound.meter other

/-- A unit is taken by an update of the row that counts one up in its window. -/
theorem Sound.take {columns : BudgetColumns} {window : Nat}
    (untaken : ∀ day, (request.progress budget).unitIn day = 0)
    (named : window ≤ budget.current s.now) (notPast : (s.meter budget).NotPast window)
    (isWindow : columns.window = some window)
    (isUsed : columns.used = (s.meter budget).usedIn window () + 1)
    (room : ∀ max, limits.max budget = some max → columns.used ≤ max) :
    ((s.setColumns budget columns).setProgress request.ID budget (.taken window)).Sound limits := by
  have sameColumns : ((s.setColumns budget columns).setProgress request.ID budget
      (.taken window)).columns budget = columns := Function.update_self ..
  apply sound.setBoth found
  · exact (sound.requests _ request found).settled (by simp)
  · intro later isLater
    rw [isWindow] at isLater
    cases isLater
    exact named
  · apply Meter.Move.take window () 1 notPast
    · intro max isMax
      rw [← isUsed]
      exact room max isMax
    · simp only [GrantCounters.meter, sameColumns, isWindow]
    · intro _
      simp only [GrantCounters.meter, sameColumns, isUsed, if_true]
    · intro day _
      have moved := takenIn_setProgress (s.setColumns budget columns) budget (.taken window) found
        day
      have unit : (BudgetProgress.taken window).unitIn day = if day = window then 1 else 0 := by
        simp [BudgetProgress.unitIn, eq_comm]
      rw [untaken day, Nat.add_zero, unit] at moved
      simp only [GrantCounters.meter, and_true]
      exact moved

theorem Sound.resetWindow {window : Nat} (resetting : request.progress budget = .resetting window) :
    (s.resetWindow request budget window).Sound limits := by
  have requestSound := sound.requests _ request found
  have named := requestSound.window budget window (.inl resetting)
  unfold GrantCounters.resetWindow
  split
  next columns isReset =>
    unfold BudgetColumns.reset? at isReset
    split at isReset
    next same =>
      cases isReset
      have earlier : ∀ other, (s.columns budget).window = some other → other < window := by
        intro other isOther
        exact requestSound.resetting budget window resetting other (same ▸ isOther)
      refine sound.take found ?_ named ?_ rfl ?_ ?_
      · intro day
        rw [resetting]
        rfl
      · intro other isOther
        exact Nat.le_of_lt (earlier other isOther)
      · unfold Meter.usedIn
        rw [if_neg]
        intro isWindow
        exact absurd (earlier window isWindow) (Nat.lt_irrefl _)
      · intro bound isBound
        exact limits.positive budget bound isBound
    · cases isReset
  · apply sound.setProgress found
    · intro day
      rw [resetting]
      rfl
    · apply requestSound.setProgress
      · nofun
      · intro other isOther
        rcases isOther with impossible | isOther
        · cases impossible
        · cases isOther
          exact named

theorem Sound.increment {window max : Nat} (isMax : limits.max budget = some max)
    (incrementing : request.progress budget = .incrementing window) :
    (s.increment request budget window max).Sound limits := by
  have requestSound := sound.requests _ request found
  have named := requestSound.window budget window (.inr incrementing)
  unfold GrantCounters.increment
  split
  next columns isIncrement =>
    unfold BudgetColumns.increment? at isIncrement
    split at isIncrement
    next room =>
      cases isIncrement
      refine sound.take found ?_ named ?_ ?_ ?_ ?_
      · intro day
        rw [incrementing]
        rfl
      · intro other isOther
        have same : some other = some window := isOther.symm.trans room.1
        cases same
        exact Nat.le_refl _
      · exact room.1
      · have current : (s.meter budget).window = some window := room.1
        rw [Meter.usedIn, if_pos current]
        rfl
      · intro bound isBound
        rw [isMax] at isBound
        cases isBound
        exact room.2
    · cases isIncrement
  · apply sound.setProgress found
    · intro day
      rw [incrementing]
      rfl
    · exact requestSound.settled (by simp)

theorem Sound.giveBack
    {takenIn window : Nat}
    (refunding : request.progress budget = .refunding takenIn window)
    (inWindow : takenIn = window ∨ (s.columns budget).window ≠ some window ∨
      (s.columns budget).used = 0) :
    ((s.setColumns budget ((s.columns budget).refund window)).setProgress request.ID budget
      .refunded).Sound limits := by
  have sameColumns : ((s.setColumns budget ((s.columns budget).refund window)).setProgress
      request.ID budget .refunded).columns budget = (s.columns budget).refund window :=
    Function.update_self ..
  have sameWindow : ((s.columns budget).refund window).window = (s.columns budget).window := by
    unfold BudgetColumns.refund
    split <;> rfl
  have moved : ∀ day, ((s.setColumns budget ((s.columns budget).refund window)).setProgress
      request.ID budget .refunded).takenIn budget day + (if takenIn = day then 1 else 0) =
        s.takenIn budget day := by
    intro day
    have moved := takenIn_setProgress (s.setColumns budget ((s.columns budget).refund window))
      budget .refunded found day
    rw [refunding] at moved
    exact moved
  apply sound.setBoth found
  · exact (sound.requests _ request found).settled (by simp)
  · intro later isLater
    rw [sameWindow] at isLater
    exact sound.notPast budget later isLater
  · by_cases counts : (s.columns budget).window = some window ∧ 0 < (s.columns budget).used
    · rcases inWindow with isWindow | otherWindow | unused
      · subst isWindow
        apply Meter.Move.giveBack takenIn () 1 counts.1
        · simp only [GrantCounters.meter, sameColumns, sameWindow, counts.1]
        · intro _
          rw [if_pos rfl]
          apply (congrArg BudgetColumns.used sameColumns).trans
          rw [BudgetColumns.refund, if_pos counts]
          rfl
        · intro day _
          simp only [GrantCounters.meter, and_true, eq_comm]
          exact (moved day).symm
      · exact absurd counts.1 otherWindow
      · omega
    · apply Meter.Move.forget
      · simp only [GrantCounters.meter, sameColumns, sameWindow]
      · intro _
        apply (congrArg BudgetColumns.used sameColumns).trans
        rw [BudgetColumns.refund, if_neg counts]
        rfl
      · intro day _
        have moved := moved day
        simp only [GrantCounters.meter]
        omega

end Statements

/-! ## Runs -/

section Steps

variable {limits : GrantLimits} {s : GrantCounters}

section Sound

variable (sound : s.Sound limits)

include sound

theorem Sound.hoursPass (hours : Nat) :
    Sound limits { s with now := s.now + hours } := by
  have later (budget : GrantBudget) : budget.current s.now ≤ budget.current (s.now + hours) :=
    budget.current_mono (Nat.le_add_right ..)
  refine ⟨sound.requests.imp ?_, ?_, sound.meter⟩
  · intro request requestSound
    constructor
    · intro budget window isSeen
      exact (requestSound.seen budget window isSeen).trans (later budget)
    · exact requestSound.resetting
    · intro budget window isNamed
      exact (requestSound.window budget window isNamed).trans (later budget)
  · intro budget window isWindow
    exact (sound.notPast budget window isWindow).trans (later budget)

/-- Requests that take and give back nothing. -/
theorem Sound.of_requests {requests : Table BudgetRequest}
    (all : requests.All (RequestSound s.now))
    (same : ∀ budget window, { s with requests : GrantCounters }.takenIn budget window =
      s.takenIn budget window) : Sound limits { s with requests } := by
  have sameMeter : ∀ budget, { s with requests : GrantCounters }.meter budget = s.meter budget := by
    intro budget
    unfold GrantCounters.meter
    congr 1
    funext window _
    exact same budget window
  refine ⟨all, ?_, ?_⟩
  · intro budget
    rw [sameMeter budget]
    exact sound.notPast budget
  · intro budget
    rw [sameMeter budget]
    exact sound.meter budget

theorem Sound.arrive (ID : Nat) :
    (s.step limits (.arrive ID)).Sound limits := by
  refine sound.of_requests (sound.requests.insert ⟨?_, ?_, ?_⟩) ?_
  · exact fun budget window isSeen => sound.notPast budget window isSeen
  · rintro _ _ ⟨⟩
  · rintro _ _ (⟨⟨⟩⟩ | ⟨⟨⟩⟩)
  · exact fun budget window => Table.total_insert_weightless rfl

theorem Sound.clientError (id : Nat) :
    Sound limits
      { s with requests := s.requests.update id (fun _ => true) BudgetRequest.failed } := by
  apply sound.of_requests
  · apply sound.requests.update
    exact fun _ _ held _ => ⟨held.seen, held.resetting, held.window⟩
  · exact fun budget window => Table.total_update_same fun _ _ _ => rfl

/-- A request that has seen another window starts the current one. -/
theorem Sound.consume (found : s.requests.find? request.ID = some request)
    (may : request.mayConsume limits budget) :
    (s.setProgress request.ID budget (if request.seen budget = some (budget.current s.now) then
      .incrementing (budget.current s.now) else .resetting (budget.current s.now))).Sound
        limits := by
  have requestSound := sound.requests _ request found
  simp only [BudgetRequest.mayConsume, Bool.and_eq_true, decide_eq_true_eq] at may
  apply sound.setProgress found
  · intro window
    rw [may.1.2]
    split <;> rfl
  · apply requestSound.setProgress
    · intro window isResetting earlier isSeen
      split at isResetting
      · cases isResetting
      next notSeen =>
        cases isResetting
        apply Nat.lt_of_le_of_ne (requestSound.seen budget earlier isSeen)
        rintro rfl
        exact notSeen isSeen
    · intro window isNamed
      split at isNamed <;> rcases isNamed with isNamed | isNamed <;> cases isNamed <;>
        exact Nat.le_refl _

theorem Sound.refund (found : s.requests.find? request.ID = some request) {takenIn : Nat}
    (window : Nat) (isTaken : request.progress budget = .taken takenIn) :
    (s.setProgress request.ID budget (.refunding takenIn window)).Sound limits := by
  apply sound.setProgress found
  · intro day
    rw [isTaken]
    rfl
  · exact (sound.requests _ request found).settled (by simp)

end Sound

theorem step_sound (event : CounterEvent) (sound : s.Sound limits) (allowed : s.InWindow event) :
    (s.step limits event).Sound limits := by
  cases event with
  | hoursPass hours => exact sound.hoursPass hours
  | arrive ID => exact sound.arrive ID
  | consumeBudget id budget =>
    simp only [step]
    split
    next request found =>
      obtain rfl : request.ID = id := Table.key_of_find? found
      split
      next may => exact sound.consume found may
      · exact sound
    · exact sound
  | resetWindow id budget =>
    simp only [step]
    split
    next request found =>
      obtain rfl : request.ID = id := Table.key_of_find? found
      split
      next window resetting => exact sound.resetWindow found resetting
      · exact sound
    · exact sound
  | increment id budget =>
    simp only [step]
    split
    next request found =>
      obtain rfl : request.ID = id := Table.key_of_find? found
      split
      next window max incrementing isMax => exact sound.increment found isMax incrementing
      · exact sound
    · exact sound
  | clientError id =>
    simp only [step]
    split
    · split
      · exact sound.clientError id
      · exact sound
    · exact sound
  | refundBudget id budget =>
    simp only [step]
    split
    next request found =>
      obtain rfl : request.ID = id := Table.key_of_find? found
      split
      next window isTaken =>
        split
        · exact sound.refund found _ isTaken
        · exact sound
      · exact sound
    · exact sound
  | giveBack id budget =>
    simp only [step]
    split
    next request found =>
      obtain rfl : request.ID = id := Table.key_of_find? found
      split
      next takenIn window refunding =>
        have inWindow := allowed request found
        rw [refunding] at inWindow
        exact sound.giveBack found refunding inWindow
      · exact sound
    · exact sound

theorem Fresh.sound (fresh : s.Fresh) : s.Sound limits where
  requests := by
    rw [fresh.idle]
    exact Table.All.empty
  notPast := by
    intro budget window isWindow
    have unused := fresh.unused budget
    rw [meter, unused] at isWindow
    cases isWindow
  meter := by
    intro budget
    have unused : ∀ window, (s.meter budget).window ≠ some window := by
      intro window isWindow
      have none := fresh.unused budget
      rw [meter, none] at isWindow
      cases isWindow
    have idle : ∀ window, (s.meter budget).outstanding window () = 0 := by
      intro window
      simp [meter, takenIn, fresh.idle]
    constructor
    · intro window isWindow
      exact absurd isWindow (unused window)
    · intro window _ _
      exact idle window
    · intro window isWindow
      exact absurd isWindow (unused window)
    · intro window _ bound _
      rw [idle window]
      exact Nat.zero_le _

/-- In a run that gives units back in their own windows, the requests of a window stay within the
budget. -/
theorem run_takenIn_le (fresh : s.Fresh) (events : List CounterEvent)
    (along : Along (step limits) InWindow s events) {budget : GrantBudget} {max : Nat}
    (isMax : limits.max budget = some max) (window : Nat) :
    (run (step limits) s events).takenIn budget window ≤ max := by
  have keeps : ∀ (later : GrantCounters) event, later.Sound limits → later.InWindow event →
      (later.step limits event).Sound limits :=
    fun _ event sound allowed => step_sound event sound allowed
  have sound := run_invariant keeps fresh.sound events along
  exact (sound.meter budget).outstanding window () max isMax

end Steps

/-- A refund that changes a counter finds it at the window its unit was taken in. -/
def ReturnsToOwnWindow (limits : GrantLimits) (s : GrantCounters) : CounterEvent → Prop
  | .giveBack id budget =>
    ∀ request ∈ s.requests.find? id, ∀ takenIn window,
      request.progress budget = .refunding takenIn window →
        (s.step limits (.giveBack id budget)).columns budget = s.columns budget ∨
          (s.columns budget).window = some takenIn
  | _ => True

theorem returnsToOwnWindow {limits : GrantLimits} {s : GrantCounters} (event : CounterEvent)
    (allowed : s.InWindow event) : s.ReturnsToOwnWindow limits event := by
  cases event with
  | giveBack id budget =>
    intro request found takenIn window refunding
    have inWindow := allowed request found
    rw [refunding] at inWindow
    have after : (s.step limits (.giveBack id budget)).columns budget =
        (s.columns budget).refund window := by
      have isFound : s.requests.find? id = some request := found
      simp only [step, isFound, refunding]
      exact Function.update_self ..
    rw [after]
    unfold BudgetColumns.refund
    split
    next counts =>
      rcases inWindow with same | otherWindow | unused
      · exact .inr (same ▸ counts.1)
      · exact absurd counts.1 otherWindow
      · omega
    · exact .inl rfl
  | hoursPass | arrive | consumeBudget | resetWindow | increment | clientError | refundBudget =>
    trivial

end GrantCounters

/-- In every run of a grant that gives units and amounts back in the windows they were taken in,
the requests of a window that keep their unit are no more than its maximum, those of a day keep
within the value budget of their type, and a refund changes no other window. -/
theorem budgets_hold_per_window (limits : GrantLimits) (counters : GrantCounters) (grant : GrantUse)
    (fresh : counters.Fresh) (freshGrant : grant.Fresh) (counterEvents : List CounterEvent)
    (grantEvents : List GrantEvent)
    (inWindow : Along (GrantCounters.step limits) GrantCounters.InWindow counters counterEvents)
    (valueInWindow : Along GrantUse.step GrantUse.InWindow grant grantEvents) :
    (∀ budget max, limits.max budget = some max → ∀ window,
      (run (GrantCounters.step limits) counters counterEvents).takenIn budget window ≤ max) ∧
    (∀ type max, grant.grant.maxValuePerDay type = some max → ∀ day,
      (run GrantUse.step grant grantEvents).admittedOn day type ≤ max) ∧
    Along (GrantCounters.step limits) (GrantCounters.ReturnsToOwnWindow limits) counters
      counterEvents ∧
    Along GrantUse.step GrantUse.ReturnsToOwnWindow grant grantEvents := by
  refine ⟨?_, ?_, ?_, ?_⟩
  · intro budget max isMax window
    exact GrantCounters.run_takenIn_le fresh counterEvents inWindow isMax window
  · intro type max isMax day
    exact GrantUse.run_admittedOn_le freshGrant grantEvents valueInWindow isMax day
  · exact inWindow.imp fun _ event allowed => GrantCounters.returnsToOwnWindow event allowed
  · exact valueInWindow.imp fun _ event allowed => GrantUse.returnsToOwnWindow event allowed

/-- One request an hour. -/
def hourlyLimit : GrantLimits where
  max budget := if budget = .hour then some 1 else none
  positive := by
    intro budget bound isBound
    split at isBound
    · cases isBound
      exact Nat.zero_lt_one
    · cases isBound

def unusedCounters : GrantCounters := ⟨0, fun _ => {}, Table.empty⟩

/-- Ten atoms a day of each type. -/
def unusedGrant : GrantUse := ⟨0, ⟨true, fun _ => some 10, fun _ => none, none⟩, Table.empty, []⟩

theorem budgets_hold_per_window_returned :
    (run (GrantCounters.step hourlyLimit) unusedCounters
      [.arrive 1, .consumeBudget 1 .hour, .resetWindow 1 .hour, .clientError 1,
        .refundBudget 1 .hour, .giveBack 1 .hour, .arrive 2, .consumeBudget 2 .hour,
        .increment 2 .hour]).takenIn .hour 0 ≤ 1 ∧
    (run GrantUse.step unusedGrant
      [.arrive 1 "aa" 7 none ⟨""⟩, .takeValueBudget 1, .fail 1 (some 403),
        .refundValueBudget 1, .arrive 2 "aa" 8 none ⟨""⟩, .takeValueBudget 2]).admittedOn 0 "aa"
          ≤ 10 := by
  have holds := budgets_hold_per_window hourlyLimit unusedCounters unusedGrant
    ⟨fun _ => rfl, rfl⟩ ⟨rfl, rfl, by simp [unusedGrant]⟩
    [.arrive 1, .consumeBudget 1 .hour, .resetWindow 1 .hour, .clientError 1,
      .refundBudget 1 .hour, .giveBack 1 .hour, .arrive 2, .consumeBudget 2 .hour,
      .increment 2 .hour]
    [.arrive 1 "aa" 7 none ⟨""⟩, .takeValueBudget 1, .fail 1 (some 403),
      .refundValueBudget 1, .arrive 2 "aa" 8 none ⟨""⟩, .takeValueBudget 2]
    (by decide +kernel) (by decide +kernel)
  exact ⟨holds.1 .hour 1 rfl 0, holds.2.1 "aa" 10 rfl 0⟩

/-- The unit of an hour is given back in the next one, where another request has taken its only
unit, and a third request takes it again. -/
theorem unit_returned_to_the_next_hour :
    hourlyLimit.max .hour = some 1 ∧ (run (GrantCounters.step hourlyLimit) unusedCounters
      [.arrive 1, .consumeBudget 1 .hour, .resetWindow 1 .hour, .hoursPass 1, .arrive 2,
        .consumeBudget 2 .hour, .resetWindow 2 .hour, .clientError 1, .refundBudget 1 .hour,
        .giveBack 1 .hour, .arrive 3, .consumeBudget 3 .hour, .increment 3 .hour]).takenIn
          .hour 1 = 2 := by
  decide +kernel

end Nightgate.Sessions
