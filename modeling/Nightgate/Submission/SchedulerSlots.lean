import Nightgate.Submission.JobScheduler

/-!
# The slots of the processes

Each semaphore serves exactly the executions that hold its slots and queues exactly those
that wait, whatever happens to the rows: a slot is taken once, and given back once, when the
execution is through or its process is gone.
-/

namespace Nightgate.Submission

open Library

namespace Scheduler

/-- How far an execution is, as its semaphore sees it. -/
inductive SlotStage where
  | immediate
  | waiting
  | holding
  | left
  | crashed
  deriving DecidableEq

structure Slot where
  process : Nat
  jobId : Nat
  stage : SlotStage

def slotStage : RunPhase → SlotStage
  | .immediate => .immediate
  | .waiting => .waiting
  | .left => .left
  | .crashed => .crashed
  | _ => .holding

def slotOfRun (run : Run) : Slot := ⟨run.process, run.jobId, slotStage run.phase⟩

def slotOf (s : Scheduler) (id : Nat) : Option Slot := (s.runs id).map slotOfRun

/-- The execution has not ended. -/
def Slot.Live (slot : Slot) : Prop := slot.stage ≠ .left ∧ slot.stage ≠ .crashed

variable {slot : Slot}

theorem live_of_holding (holding : slot.stage = .holding) : slot.Live := by
  constructor <;> rw [holding] <;> decide

theorem live_of_waiting (waiting : slot.stage = .waiting) : slot.Live := by
  constructor <;> rw [waiting] <;> decide

theorem slotLive_of_isLive {run : Run} (live : run.phase.isLive = true) :
    (slotOfRun run).Live := by
  rcases run with ⟨process, jobId, phase, claimed⟩
  constructor
  · cases phase <;> simp_all [slotOfRun, slotStage, RunPhase.isLive]
  · cases phase <;> simp_all [slotOfRun, slotStage, RunPhase.isLive]

/-- A live execution has its job in `dispatching`, and its process runs the job once. -/
structure RunsSound (s : Scheduler) : Prop where
  known : ∀ id slot, s.slotOf id = some slot → id < s.nextRun
  dispatching : ∀ id slot, s.slotOf id = some slot → slot.Live →
    slot.jobId ∈ (s.processes slot.process).dispatching
  alone : ∀ id slot other otherSlot, s.slotOf id = some slot →
    s.slotOf other = some otherSlot → slot.Live → otherSlot.Live →
      slot.process = otherSlot.process → slot.jobId = otherSlot.jobId → id = other

/-- An execution of a process and class stands at a stage. -/
def StandsAt (config : SchedulerConfig) (s : Scheduler) (process : Nat)
    (key : ConcurrencyKey) (id : Nat) (stage : SlotStage) : Prop :=
  ∃ slot, s.slotOf id = some slot ∧ slot.process = process ∧
    config.keyOf slot.jobId = key ∧ slot.stage = stage

/-- Each semaphore serves exactly the executions that hold its slots, and queues exactly
those that wait. -/
structure SlotsSound (config : SchedulerConfig) (s : Scheduler) : Prop where
  serves : ∀ process key,
    ((s.processes process).semaphores key).Serves ((s.processes process).holders key)
  max : ∀ process key, ((s.processes process).semaphores key).max = config.maxOf key
  holders : ∀ process key id, id ∈ (s.processes process).holders key ↔
    s.StandsAt config process key id .holding
  waiters : ∀ process key id, id ∈ ((s.processes process).semaphores key).waiters ↔
    s.StandsAt config process key id .waiting

/-- A slot is acquired once and given back once. -/
structure LogSound (s : Scheduler) : Prop where
  acquiredOnce : s.acquired.Nodup
  releasedOnce : s.released.Nodup
  holds : ∀ id slot, s.slotOf id = some slot → slot.stage = .holding ∨ slot.stage = .left →
    id ∈ s.acquired
  acquired : ∀ id ∈ s.acquired, ∃ slot, s.slotOf id = some slot ∧
    (slot.stage = .holding ∨ slot.stage = .left ∨ slot.stage = .crashed)
  released : ∀ id, id ∈ s.released ↔ ∃ slot, s.slotOf id = some slot ∧ slot.stage = .left

structure CoreSound (config : SchedulerConfig) (s : Scheduler) : Prop where
  runs : s.RunsSound
  slots : s.SlotsSound config
  log : s.LogSound

section Updates

variable (s : Scheduler)

@[simp] theorem setRun_self (id : Nat) (run : Run) :
    (s.setRun id run).runs id = some run := by
  simp [setRun]

theorem setRun_other {id other : Nat} (run : Run) (different : other ≠ id) :
    (s.setRun id run).runs other = s.runs other := by
  simp [setRun, different]

@[simp] theorem setProcess_self (process : Nat) (value : Process) :
    (s.setProcess process value).processes process = value := by
  simp [setProcess]

theorem setProcess_other {process other : Nat} (value : Process)
    (different : other ≠ process) :
    (s.setProcess process value).processes other = s.processes other := by
  simp [setProcess, different]

@[simp] theorem setProcess_runs (process : Nat) (value : Process) :
    (s.setProcess process value).runs = s.runs := rfl

end Updates

/-- What leaves every execution at its stage leaves the slots alone. -/
structure SameSlots (s later : Scheduler) : Prop where
  slots : ∀ id, later.slotOf id = s.slotOf id
  dispatching : ∀ process, (later.processes process).dispatching = (s.processes process).dispatching
  semaphores : ∀ process, (later.processes process).semaphores = (s.processes process).semaphores
  holders : ∀ process, (later.processes process).holders = (s.processes process).holders
  nextRun : later.nextRun = s.nextRun
  acquired : later.acquired = s.acquired
  released : later.released = s.released

variable {config : SchedulerConfig}

theorem CoreSound.of_same {s later : Scheduler}
    (sound : s.CoreSound config) (same : SameSlots s later) : later.CoreSound config := by
  have stands : ∀ process key id stage, later.StandsAt config process key id stage ↔
      s.StandsAt config process key id stage := by
    intro process key id stage
    simp only [StandsAt, same.slots]
  constructor
  · constructor
    · simp only [same.slots, same.nextRun]
      exact sound.runs.known
    · simp only [same.slots, same.dispatching]
      exact sound.runs.dispatching
    · simp only [same.slots]
      exact sound.runs.alone
  · constructor
    · simp only [same.semaphores, same.holders]
      exact sound.slots.serves
    · simp only [same.semaphores]
      exact sound.slots.max
    · simp only [same.holders, stands]
      exact sound.slots.holders
    · simp only [same.semaphores, stands]
      exact sound.slots.waiters
  · constructor
    · rw [same.acquired]
      exact sound.log.acquiredOnce
    · rw [same.released]
      exact sound.log.releasedOnce
    · simp only [same.slots, same.acquired]
      exact sound.log.holds
    · simp only [same.slots, same.acquired]
      exact sound.log.acquired
    · simp only [same.slots, same.released]
      exact sound.log.released

/-- Between its slot and the `finally` an execution moves without touching the slots. -/
theorem moved_sound {s : Scheduler} (sound : s.CoreSound config)
    {id process jobId : Nat} {phase next : RunPhase} {claimed nextClaimed : Bool} {db : JobDb}
    {lastClaim : Nat → Option Nat} (found : s.runs id = some ⟨process, jobId, phase, claimed⟩)
    (stage : slotStage next = slotStage phase) :
    ({ s with db, lastClaim }.setRun id ⟨process, jobId, next, nextClaimed⟩).CoreSound
      config := by
  refine sound.of_same ⟨?_, fun _ => rfl, fun _ => rfl, fun _ => rfl, rfl, rfl, rfl⟩
  intro other
  unfold slotOf
  by_cases same : other = id
  · rw [same, setRun_self, found]
    simp only [Option.map_some, slotOfRun, stage]
  · rw [setRun_other _ _ same]

theorem unmoved_sound {s : Scheduler} {db : JobDb}
    (sound : s.CoreSound config) : ({ s with db } : Scheduler).CoreSound config :=
  sound.of_same ⟨fun _ => rfl, fun _ => rfl, fun _ => rfl, fun _ => rfl, rfl, rfl, rfl⟩

/-! ## Steps within one class of one process -/

/-- An execution keeps its stage, or one of the class of the process that lives moves to another. -/
def RestagesSlot (config : SchedulerConfig) (process : Nat) (key : ConcurrencyKey)
    (s later : Scheduler) (id : Nat) : Prop :=
  later.slotOf id = s.slotOf id ∨ ∃ slot stage, s.slotOf id = some slot ∧
    slot.process = process ∧ config.keyOf slot.jobId = key ∧ slot.Live ∧
      later.slotOf id = some { slot with stage }

/-- Executions of one class of one process move to other stages; nothing else changes. -/
structure Restages (config : SchedulerConfig) (process : Nat) (key : ConcurrencyKey)
    (s later : Scheduler) : Prop where
  slots : ∀ id, RestagesSlot config process key s later id
  processes : ∀ other, other ≠ process → later.processes other = s.processes other
  semaphores : ∀ other, other ≠ key → (later.processes process).semaphores other =
    (s.processes process).semaphores other
  holders : ∀ other, other ≠ key → (later.processes process).holders other =
    (s.processes process).holders other
  nextRun : later.nextRun = s.nextRun

section Restaging

variable {config : SchedulerConfig} {process : Nat} {key : ConcurrencyKey}
variable {s later : Scheduler}

/-- An execution after the step is one before it, no less live. -/
theorem RestagesSlot.before {id : Nat} (restages : RestagesSlot config process key s later id)
    (found : later.slotOf id = some slot) :
    ∃ old, s.slotOf id = some old ∧ old.process = slot.process ∧ old.jobId = slot.jobId ∧
      (slot.Live → old.Live) := by
  rcases restages with same | ⟨old, stage, wasFound, _, _, live, isFound⟩
  · exact ⟨slot, same ▸ found, rfl, rfl, fun live => live⟩
  · rw [isFound] at found
    cases found
    exact ⟨old, wasFound, rfl, rfl, fun _ => live⟩

/-- The job of a live execution was in `dispatching`. -/
theorem RestagesSlot.listed {id : Nat} (restages : RestagesSlot config process key s later id)
    (sound : s.RunsSound) (found : later.slotOf id = some slot)
    (live : slot.Live) : slot.jobId ∈ (s.processes slot.process).dispatching := by
  rcases restages.before found with ⟨old, wasFound, sameProcess, sameJob, wasLive⟩
  rw [← sameProcess, ← sameJob]
  exact sound.dispatching id old wasFound (wasLive live)

theorem Restages.runs (restages : Restages config process key s later) (sound : s.RunsSound)
    (dispatching : ∀ id slot, later.slotOf id = some slot → slot.Live →
      slot.process = process → slot.jobId ∈ (later.processes process).dispatching) :
    later.RunsSound := by
  constructor
  · intro id slot found
    rcases (restages.slots id).before found with ⟨old, wasFound, _⟩
    rw [restages.nextRun]
    exact sound.known id old wasFound
  · intro id slot found live
    by_cases own : slot.process = process
    · rw [own]
      exact dispatching id slot found live own
    · rw [restages.processes _ own]
      exact (restages.slots id).listed sound found live
  · intro id slot other otherSlot found otherFound live otherLive sameProcess sameJob
    rcases (restages.slots id).before found with ⟨old, wasFound, process, job, wasLive⟩
    rcases (restages.slots other).before otherFound with
      ⟨otherOld, otherWasFound, otherProcess, otherJob, otherWasLive⟩
    apply sound.alone id old other otherOld wasFound otherWasFound (wasLive live)
      (otherWasLive otherLive)
    · rw [process, otherProcess, sameProcess]
    · rw [job, otherJob, sameJob]

/-- Elsewhere every execution stands where it stood. -/
theorem Restages.elsewhere (restages : Restages config process key s later) {other : Nat}
    {otherKey : ConcurrencyKey} (away : other ≠ process ∨ otherKey ≠ key) (id : Nat)
    (stage : SlotStage) : later.StandsAt config other otherKey id stage ↔
      s.StandsAt config other otherKey id stage := by
  rcases restages.slots id with same | ⟨old, moved, wasFound, own, class', _, isFound⟩
  · simp only [StandsAt, same]
  · simp only [StandsAt, wasFound, isFound, Option.some.injEq, exists_eq_left']
    constructor
    · rintro ⟨atProcess, atKey, _⟩
      rcases away with away | away
      · exact absurd (atProcess.symm.trans own) away
      · exact absurd (atKey.symm.trans class') away
    · rintro ⟨atProcess, atKey, _⟩
      rcases away with away | away
      · exact absurd (atProcess.symm.trans own) away
      · exact absurd (atKey.symm.trans class') away

theorem Restages.slotsSound (restages : Restages config process key s later)
    (sound : s.SlotsSound config)
    (serves : ((later.processes process).semaphores key).Serves
      ((later.processes process).holders key))
    (max : ((later.processes process).semaphores key).max = config.maxOf key)
    (holders : ∀ id, id ∈ (later.processes process).holders key ↔
      later.StandsAt config process key id .holding)
    (waiters : ∀ id, id ∈ ((later.processes process).semaphores key).waiters ↔
      later.StandsAt config process key id .waiting) : later.SlotsSound config := by
  have byClass : ∀ other otherKey, (other = process ∧ otherKey = key) ∨
      ((other ≠ process ∨ otherKey ≠ key) ∧ (later.processes other).semaphores otherKey =
          (s.processes other).semaphores otherKey ∧
        (later.processes other).holders otherKey = (s.processes other).holders otherKey) := by
    intro other otherKey
    by_cases own : other = process
    · by_cases class' : otherKey = key
      · exact Or.inl ⟨own, class'⟩
      · subst own
        exact Or.inr ⟨Or.inr class', restages.semaphores _ class', restages.holders _ class'⟩
    · rw [restages.processes _ own]
      exact Or.inr ⟨Or.inl own, rfl, rfl⟩
  constructor
  · intro other otherKey
    rcases byClass other otherKey with ⟨rfl, rfl⟩ | ⟨_, semaphores, held⟩
    · exact serves
    · rw [semaphores, held]
      exact sound.serves other otherKey
  · intro other otherKey
    rcases byClass other otherKey with ⟨rfl, rfl⟩ | ⟨_, semaphores, _⟩
    · exact max
    · rw [semaphores]
      exact sound.max other otherKey
  · intro other otherKey id
    rcases byClass other otherKey with ⟨rfl, rfl⟩ | ⟨away, _, held⟩
    · exact holders id
    · rw [held, restages.elsewhere away]
      exact sound.holders other otherKey id
  · intro other otherKey id
    rcases byClass other otherKey with ⟨rfl, rfl⟩ | ⟨away, semaphores, _⟩
    · exact waiters id
    · rw [semaphores, restages.elsewhere away]
      exact sound.waiters other otherKey id

/-- A step within one class of one process. -/
theorem CoreSound.restaged {dispatching : List Nat} {semaphore : Semaphore Nat}
    (sound : s.CoreSound config) (held : List Nat)
    (slots : ∀ id, RestagesSlot config process key s later id)
    (processes : later.processes = Function.update s.processes process
      { s.processes process with
        dispatching
        semaphores := Function.update (s.processes process).semaphores key semaphore
        holders := Function.update (s.processes process).holders key held })
    (nextRun : later.nextRun = s.nextRun)
    (listed : ∀ id slot, later.slotOf id = some slot → slot.Live → slot.process = process →
      slot.jobId ∈ (s.processes process).dispatching → slot.jobId ∈ dispatching)
    (serves : semaphore.Serves held) (max : semaphore.max = config.maxOf key)
    (holders : ∀ id, id ∈ held ↔ later.StandsAt config process key id .holding)
    (waiters : ∀ id, id ∈ semaphore.waiters ↔ later.StandsAt config process key id .waiting)
    (log : later.LogSound) : later.CoreSound config := by
  have restages : Restages config process key s later := by
    refine ⟨slots, ?_, ?_, ?_, nextRun⟩
    all_goals
      intro other away
      simp [processes, away]
  refine ⟨restages.runs sound.runs ?_, restages.slotsSound sound.slots ?_ ?_ ?_ ?_, log⟩ <;>
    simp only [processes, Function.update_self]
  · intro id slot found live own
    apply listed id slot found live own
    rw [← own]
    exact (slots id).listed sound.runs found live
  · exact serves
  · exact max
  · exact holders
  · exact waiters

end Restaging

/-! ## One execution moves -/

section Moves

variable {config : SchedulerConfig} {s later : Scheduler} {id : Nat} {moved : Run}

theorem slotOf_moved (runs : later.runs = Function.update s.runs id (some moved)) (other : Nat) :
    later.slotOf other = if other = id then some (slotOfRun moved) else s.slotOf other := by
  unfold slotOf
  rw [runs]
  split
  next same => rw [same, Function.update_self, Option.map_some]
  next different => rw [Function.update_of_ne different]

theorem standsAt_moved (runs : later.runs = Function.update s.runs id (some moved))
    (process : Nat) (key : ConcurrencyKey) (other : Nat) (stage : SlotStage) :
    later.StandsAt config process key other stage ↔
      (other = id ∧ moved.process = process ∧ config.keyOf moved.jobId = key ∧
        slotStage moved.phase = stage) ∨
      (other ≠ id ∧ s.StandsAt config process key other stage) := by
  unfold StandsAt
  rw [slotOf_moved runs]
  by_cases same : other = id
  · simp [same, slotOfRun]
  · simp [same]

theorem restagesSlot_moved {key : ConcurrencyKey} (isSlot : s.slotOf id = some slot)
    (live : slot.Live) (class' : config.keyOf slot.jobId = key)
    (runs : later.runs = Function.update s.runs id (some moved))
    (process : moved.process = slot.process) (job : moved.jobId = slot.jobId) (other : Nat) :
    RestagesSlot config slot.process key s later other := by
  unfold RestagesSlot
  rw [slotOf_moved runs]
  split
  next same =>
    refine Or.inr ⟨slot, slotStage moved.phase, same ▸ isSlot, rfl, class', live, ?_⟩
    rw [slotOfRun, process, job]
  · exact Or.inl rfl

/-- What the log holds of an execution at a stage. -/
def Logged (acquired released : Prop) : SlotStage → Prop
  | .immediate | .waiting => ¬ acquired ∧ ¬ released
  | .holding => acquired ∧ ¬ released
  | .left => acquired ∧ released
  | .crashed => ¬ released

theorem LogSound.logged (sound : s.LogSound) (found : s.slotOf id = some slot) :
    Logged (id ∈ s.acquired) (id ∈ s.released) slot.stage := by
  have acquired : id ∈ s.acquired →
      slot.stage = .holding ∨ slot.stage = .left ∨ slot.stage = .crashed := by
    intro listed
    rcases sound.acquired id listed with ⟨other, isFound, stage⟩
    rw [found, Option.some.injEq] at isFound
    rwa [isFound]
  have released := sound.released id
  have holds := sound.holds id slot found
  simp only [found, Option.some.injEq, exists_eq_left'] at released
  cases isStage : slot.stage <;> simp_all [Logged]

/-- A log that stays, or that an execution joins. -/
def Joins (id : Nat) (log later : List Nat) : Prop :=
  later = log ∨ id ∉ log ∧ later = log ++ [id]

theorem Joins.nodup {log next : List Nat} (joins : Joins id log next) (once : log.Nodup) :
    next.Nodup := by
  rcases joins with rfl | ⟨new, rfl⟩
  · exact once
  · rw [← List.concat_eq_append]
    exact once.concat new

theorem Joins.mem_iff {log next : List Nat} (joins : Joins id log next) {other : Nat}
    (away : other ≠ id) : other ∈ next ↔ other ∈ log := by
  rcases joins with rfl | ⟨_, rfl⟩ <;> simp [away]

/-- The log stays sound when what it says of the moved execution fits its stage. -/
theorem LogSound.moves (sound : s.LogSound)
    (runs : later.runs = Function.update s.runs id (some moved))
    (acquired : Joins id s.acquired later.acquired) (released : Joins id s.released later.released)
    (logged : Logged (id ∈ later.acquired) (id ∈ later.released) (slotStage moved.phase)) :
    later.LogSound := by
  refine ⟨acquired.nodup sound.acquiredOnce, released.nodup sound.releasedOnce, ?_, ?_, ?_⟩
  · intro other slot found stage
    rw [slotOf_moved runs] at found
    split at found
    next same =>
      cases found
      rw [same]
      cases phase : slotStage moved.phase <;> simp_all [Logged, slotOfRun]
    next away => exact (acquired.mem_iff away).2 (sound.holds other slot found stage)
  · intro other listed
    rw [slotOf_moved runs]
    split
    next same =>
      refine ⟨_, rfl, ?_⟩
      rw [same] at listed
      cases phase : slotStage moved.phase <;> simp_all [Logged, slotOfRun]
    next away => exact sound.acquired other ((acquired.mem_iff away).1 listed)
  · intro other
    rw [slotOf_moved runs]
    split
    next same =>
      rw [same]
      cases phase : slotStage moved.phase <;> simp_all [Logged, slotOfRun]
    next away => rw [released.mem_iff away, sound.released]

/-- An execution that gets its slot had none before. -/
theorem LogSound.acquire (sound : s.LogSound) (found : s.slotOf id = some slot)
    (idle : slot.stage = .immediate ∨ slot.stage = .waiting)
    (runs : later.runs = Function.update s.runs id (some moved))
    (holding : slotStage moved.phase = .holding) (acquired : later.acquired = s.acquired ++ [id])
    (released : later.released = s.released) : later.LogSound := by
  have before : id ∉ s.acquired ∧ id ∉ s.released := by
    have logged := sound.logged found
    rcases idle with idle | idle <;> rwa [idle] at logged
  apply sound.moves runs (Or.inr ⟨before.1, acquired⟩) (Or.inl released)
  rw [holding, acquired, released]
  exact ⟨List.mem_append_right _ (List.mem_singleton_self id), before.2⟩

/-- An execution that gives its slot back had it. -/
theorem LogSound.release (sound : s.LogSound) (found : s.slotOf id = some slot)
    (holding : slot.stage = .holding) (runs : later.runs = Function.update s.runs id (some moved))
    (left : slotStage moved.phase = .left) (acquired : later.acquired = s.acquired)
    (released : later.released = s.released ++ [id]) : later.LogSound := by
  have before := sound.logged found
  rw [holding] at before
  apply sound.moves runs (Or.inl acquired) (Or.inr ⟨before.2, released⟩)
  rw [left, acquired, released]
  exact ⟨before.1, List.mem_append_right _ (List.mem_singleton_self id)⟩

/-- An execution without a slot moves to a stage without a slot. -/
theorem LogSound.idle (sound : s.LogSound)
    (before : ∀ slot, s.slotOf id = some slot → slot.stage = .immediate)
    (runs : later.runs = Function.update s.runs id (some moved))
    (idle : slotStage moved.phase = .immediate ∨ slotStage moved.phase = .waiting)
    (acquired : later.acquired = s.acquired) (released : later.released = s.released) :
    later.LogSound := by
  have outside : id ∉ s.acquired ∧ id ∉ s.released := by
    cases found : s.slotOf id with
    | none =>
      have unlisted := sound.acquired id
      have kept := sound.released id
      simp_all
    | some slot =>
      have logged := sound.logged found
      rwa [before slot found] at logged
  apply sound.moves runs (Or.inl acquired) (Or.inl released)
  rw [acquired, released]
  rcases idle with idle | idle <;> rw [idle] <;> exact outside

end Moves

/-! ## Steps on the slots -/

section Steps

variable {config : SchedulerConfig} {s : Scheduler}

theorem RunsSound.unused (sound : s.RunsSound) : s.slotOf s.nextRun = none := by
  cases found : s.slotOf s.nextRun with
  | none => rfl
  | some slot => exact absurd (sound.known s.nextRun slot found) (Nat.lt_irrefl _)

theorem dispatchJob_sound (sound : s.CoreSound config) (process jobId : Nat) :
    (s.dispatchJob process jobId).CoreSound config := by
  simp only [dispatchJob]
  split
  · exact sound
  next idle =>
    simp only [not_or] at idle
    generalize isLater : setProcess _ process _ = later
    have runs : later.runs =
        Function.update s.runs s.nextRun (some ⟨process, jobId, .immediate, false⟩) := by
      rw [← isLater]
      rfl
    have processes : later.processes = Function.update s.processes process
        { s.processes process with
          dispatching := jobId :: (s.processes process).dispatching } := by
      rw [← isLater]
      rfl
    have nextRun : later.nextRun = s.nextRun + 1 := by
      rw [← isLater]
      rfl
    have semaphores : ∀ other, (later.processes other).semaphores = (s.processes other).semaphores ∧
          (later.processes other).holders = (s.processes other).holders := by
      intro other
      rw [processes]
      by_cases own : other = process
      · rw [own, Function.update_self]
        exact ⟨rfl, rfl⟩
      · rw [Function.update_of_ne own]
        exact ⟨rfl, rfl⟩
    have older : ∀ other stage otherProcess key,
        stage ≠ .immediate → (later.StandsAt config otherProcess key other stage ↔
          s.StandsAt config otherProcess key other stage) := by
      intro other stage otherProcess key started
      rw [standsAt_moved runs]
      by_cases new : other = s.nextRun
      · rw [new]
        simp [StandsAt, sound.runs.unused, slotStage, started.symm]
      · simp [new]
    constructor
    · constructor
      · intro id slot found
        rw [nextRun]
        rw [slotOf_moved runs] at found
        split at found
        next new => omega
        · exact Nat.lt_succ_of_lt (sound.runs.known id slot found)
      · intro id slot found live
        rw [processes]
        rw [slotOf_moved runs] at found
        split at found
        · cases found
          simp [slotOfRun]
        · have listed := sound.runs.dispatching id slot found live
          by_cases own : slot.process = process
          · rw [own] at listed ⊢
            rw [Function.update_self]
            exact List.mem_cons_of_mem _ listed
          · rw [Function.update_of_ne own]
            exact listed
      · have fresh : ∀ id slot, s.slotOf id = some slot → slot.Live →
            slot.process = process → slot.jobId ≠ jobId := by
          intro id slot found live own same
          have listed := sound.runs.dispatching id slot found live
          rw [own, same] at listed
          exact idle.2.1 listed
        intro id slot other otherSlot found otherFound live otherLive own same
        rw [slotOf_moved runs] at found otherFound
        split at found
        next new =>
          cases found
          split at otherFound
          next otherNew => rw [new, otherNew]
          · exact absurd same.symm (fresh other otherSlot otherFound otherLive own.symm)
        · split at otherFound
          · cases otherFound
            exact absurd same (fresh id slot found live own)
          · exact sound.runs.alone id slot other otherSlot found otherFound live otherLive own same
    · constructor
      · intro other key
        rw [(semaphores other).1, (semaphores other).2]
        exact sound.slots.serves other key
      · intro other key
        rw [(semaphores other).1]
        exact sound.slots.max other key
      · intro other key id
        rw [(semaphores other).2, older id .holding other key (by decide)]
        exact sound.slots.holders other key id
      · intro other key id
        rw [(semaphores other).1, older id .waiting other key (by decide)]
        exact sound.slots.waiters other key id
    · apply sound.log.idle _ runs (Or.inl rfl) (by rw [← isLater]; rfl) (by rw [← isLater]; rfl)
      intro slot found
      rw [sound.runs.unused] at found
      cases found

theorem poll_sound (sound : s.CoreSound config) (process jobId : Nat) :
    (s.poll config process jobId).CoreSound config := by
  simp only [poll]
  split
  · exact sound
  · split
    · exact dispatchJob_sound sound process jobId
    · exact sound

section Class

variable {later : Scheduler} {id process jobId : Nat} {claimed : Bool}

theorem slotOf_run {phase : RunPhase} (found : s.runs id = some ⟨process, jobId, phase, claimed⟩) :
    s.slotOf id = some ⟨process, jobId, slotStage phase⟩ := by
  rw [slotOf, found]
  rfl

theorem standsAt_own {stage : SlotStage} (found : s.slotOf id = some ⟨process, jobId, stage⟩)
    (other : SlotStage) :
    s.StandsAt config process (config.keyOf jobId) id other ↔ stage = other := by
  simp [StandsAt, found]

/-- The semaphore grants a slot to an execution at its turn, or queues it. -/
theorem acquire_class (sound : s.CoreSound config)
    (found : s.runs id = some ⟨process, jobId, .immediate, claimed⟩) {phase : RunPhase}
    {held : List Nat} {next : Semaphore Nat × Bool}
    (isNext : ((s.processes process).semaphores (config.keyOf jobId)).acquire id = next)
    (runs : later.runs = Function.update s.runs id (some ⟨process, jobId, phase, claimed⟩))
    (processes : later.processes = Function.update s.processes process
      { s.processes process with
        semaphores := Function.update (s.processes process).semaphores (config.keyOf jobId) next.1
        holders := Function.update (s.processes process).holders (config.keyOf jobId) held })
    (nextRun : later.nextRun = s.nextRun) (serves : next.1.Serves held)
    (holders : ∀ other, other ∈ held ↔ other ∈ (s.processes process).holders (config.keyOf jobId) ∨
        other = id ∧ slotStage phase = .holding)
    (waiters : ∀ other, other ∈ next.1.waiters ↔
      other ∈ ((s.processes process).semaphores (config.keyOf jobId)).waiters ∨
        other = id ∧ slotStage phase = .waiting)
    (log : later.LogSound) : later.CoreSound config := by
  have isSlot := slotOf_run found
  have slots : ∀ other, RestagesSlot config process (config.keyOf jobId) s later other :=
    restagesSlot_moved isSlot (by constructor <;> rintro ⟨⟩) rfl runs rfl rfl
  refine sound.restaged held slots processes nextRun (fun _ _ _ _ _ listed => listed) serves ?_
    ?_ ?_ log
  · rw [← sound.slots.max process (config.keyOf jobId), ← isNext, Semaphore.acquire]
    split <;> rfl
  · intro other
    rw [holders, sound.slots.holders, standsAt_moved runs]
    by_cases same : other = id
    · simp [same, standsAt_own isSlot, slotStage]
    · simp [same]
  · intro other
    rw [waiters, sound.slots.waiters, standsAt_moved runs]
    by_cases same : other = id
    · simp [same, standsAt_own isSlot, slotStage]
    · simp [same]

theorem acquire_sound (sound : s.CoreSound config) (id : Nat) :
    (s.acquire config id).CoreSound config := by
  unfold acquire
  split
  next process jobId claimed found =>
    have isSlot := slotOf_run found
    have notHolding : id ∉ (s.processes process).holders (config.keyOf jobId) := by
      simp [sound.slots.holders, standsAt_own isSlot, slotStage]
    have notWaiting : id ∉ ((s.processes process).semaphores (config.keyOf jobId)).waiters := by
      simp [sound.slots.waiters, standsAt_own isSlot, slotStage]
    have serves := sound.slots.serves process (config.keyOf jobId)
    dsimp only
    split
    next granted =>
      have served := serves.acquire_granted notHolding granted
      refine acquire_class sound found rfl rfl rfl rfl served.1 ?_ ?_ ?_
      · simp [slotStage]
      · simp [served.2, slotStage]
      · exact sound.log.acquire isSlot (Or.inl rfl) rfl rfl rfl rfl
    next refused =>
      have served := serves.acquire_queued notHolding notWaiting (Bool.eq_false_iff.2 refused)
      have unchanged := Function.update_eq_self (config.keyOf jobId) (s.processes process).holders
      refine acquire_class sound found rfl rfl (by rw [unchanged]; rfl) rfl served.1 ?_ ?_ ?_
      · simp [slotStage]
      · simp [served.2, slotStage]
      · refine sound.log.idle ?_ rfl (Or.inr rfl) rfl rfl
        simp [isSlot, slotStage]
  · exact sound

theorem leave_max (sound : s.CoreSound config) (process : Nat) (key : ConcurrencyKey) :
    ((s.processes process).semaphores key).release.1.max = config.maxOf key := by
  rw [← sound.slots.max process key, Semaphore.release]
  split <;> rfl

section Leaving

variable (sound : s.CoreSound config)
  (found : s.runs id = some ⟨process, jobId, .leaving, claimed⟩)

include sound found

/-- With its slot given back, an execution is out of `dispatching`; no other lost its place. -/
theorem leave_listed
    (slots : ∀ other, RestagesSlot config process (config.keyOf jobId) s later other)
    (gone : ∀ slot, later.slotOf id = some slot → ¬ slot.Live) (other : Nat) (slot : Slot)
    (isFound : later.slotOf other = some slot) (live : slot.Live) (own : slot.process = process)
    (listed : slot.jobId ∈ (s.processes process).dispatching) :
    slot.jobId ∈ (s.processes process).dispatching.filter (· ≠ jobId) := by
  apply List.mem_filter.2 ⟨listed, _⟩
  rw [decide_eq_true_eq]
  intro same
  rcases (slots other).before isFound with ⟨old, wasFound, sameProcess, sameJob, wasLive⟩
  have isId : other = id := sound.runs.alone other old id _ wasFound (slotOf_run found)
    (wasLive live) (live_of_holding rfl) (sameProcess.trans own) (sameJob.trans same)
  exact gone slot (isId ▸ isFound) live

theorem leave_holds : id ∈ (s.processes process).holders (config.keyOf jobId) := by
  simp [sound.slots.holders, standsAt_own (slotOf_run found), slotStage]

/-- Nobody waits: the slot is free again. -/
theorem leave_freed
    (freed : ((s.processes process).semaphores (config.keyOf jobId)).release.2 = none)
    (runs : later.runs = Function.update s.runs id (some ⟨process, jobId, .left, claimed⟩))
    (processes : later.processes = Function.update s.processes process
      { s.processes process with
        dispatching := (s.processes process).dispatching.filter (· ≠ jobId)
        semaphores := Function.update (s.processes process).semaphores (config.keyOf jobId)
          ((s.processes process).semaphores (config.keyOf jobId)).release.1
        holders := Function.update (s.processes process).holders (config.keyOf jobId)
          (((s.processes process).holders (config.keyOf jobId)).erase id) })
    (nextRun : later.nextRun = s.nextRun) (log : later.LogSound) : later.CoreSound config := by
  have isSlot := slotOf_run found
  have serves := sound.slots.serves process (config.keyOf jobId)
  have served := serves.release_freed (leave_holds sound found) freed
  have slots : ∀ other, RestagesSlot config process (config.keyOf jobId) s later other :=
    restagesSlot_moved isSlot (live_of_holding rfl) rfl runs rfl rfl
  have gone : ∀ slot, later.slotOf id = some slot → ¬ slot.Live := by
    intro slot isFound live
    rw [slotOf_moved runs, if_pos rfl] at isFound
    cases isFound
    exact live.1 rfl
  refine sound.restaged _ slots processes nextRun (leave_listed sound found slots gone)
    served.1 (leave_max sound _ _) ?_ ?_ log
  · intro other
    rw [(List.Nodup.of_append_left serves.distinct).mem_erase_iff, sound.slots.holders,
      standsAt_moved runs]
    by_cases isId : other = id
    · simp [isId, slotStage]
    · simp [isId]
  · intro other
    have before := sound.slots.waiters process (config.keyOf jobId) other
    rw [served.2.1] at before
    rw [served.2.2, standsAt_moved runs]
    by_cases isId : other = id
    · simp [isId, slotStage]
    · simp [isId, ← before]

/-- The slot goes to the first waiter. -/
theorem leave_handed {left : Scheduler} {waiter : Nat} {run : Run}
    (handed : ((s.processes process).semaphores (config.keyOf jobId)).release.2 = some waiter)
    (leftRuns : left.runs = Function.update s.runs id (some ⟨process, jobId, .left, claimed⟩))
    (leftLog : left.LogSound) (waiterRun : left.runs waiter = some run)
    (runs : later.runs = Function.update left.runs waiter (some { run with phase := .claiming }))
    (processes : later.processes = Function.update s.processes process
      { s.processes process with
        dispatching := (s.processes process).dispatching.filter (· ≠ jobId)
        semaphores := Function.update (s.processes process).semaphores (config.keyOf jobId)
          ((s.processes process).semaphores (config.keyOf jobId)).release.1
        holders := Function.update (s.processes process).holders (config.keyOf jobId)
          (((s.processes process).holders (config.keyOf jobId)).erase id ++ [waiter]) })
    (nextRun : later.nextRun = s.nextRun) (acquired : later.acquired = left.acquired ++ [waiter])
    (released : later.released = left.released) : later.CoreSound config := by
  have isSlot := slotOf_run found
  have holds := leave_holds sound found
  have serves := sound.slots.serves process (config.keyOf jobId)
  have served := serves.release_handed holds handed
  have waits := sound.slots.waiters process (config.keyOf jobId)
  simp only [served.2, List.mem_cons] at waits
  rcases (waits waiter).1 (Or.inl rfl) with ⟨slot, waiterSlot, ownSlot, ownKey, stage⟩
  have idle := serves.disjoint holds
  rw [served.2, List.mem_cons, not_or] at idle
  have different : waiter ≠ id := fun same => idle.1 same.symm
  have waiterLive : slot.Live := live_of_waiting stage
  have waiterLeft : left.slotOf waiter = some slot := by
    rw [slotOf_moved leftRuns, if_neg different]
    exact waiterSlot
  have isRun : slotOfRun run = slot := by
    rw [slotOf, waiterRun] at waiterLeft
    exact Option.some.inj waiterLeft
  subst isRun
  have slots : ∀ other, RestagesSlot config process (config.keyOf jobId) s later other := by
    intro other
    rw [RestagesSlot, slotOf_moved runs]
    split
    next same =>
      exact Or.inr ⟨_, .holding, same ▸ waiterSlot, ownSlot, ownKey, waiterLive, rfl⟩
    · exact restagesSlot_moved isSlot (live_of_holding rfl) rfl leftRuns rfl rfl other
  have gone : ∀ slot, later.slotOf id = some slot → ¬ slot.Live := by
    intro slot isFound live
    rw [slotOf_moved runs, if_neg (Ne.symm different), slotOf_moved leftRuns, if_pos rfl] at isFound
    cases isFound
    exact live.1 rfl
  refine sound.restaged _ slots processes nextRun (leave_listed sound found slots gone)
    served.1 (leave_max sound _ _) ?_ ?_
    (leftLog.acquire waiterLeft (Or.inr stage) runs rfl acquired released)
  · intro other
    rw [List.mem_append, List.mem_singleton,
      (List.Nodup.of_append_left serves.distinct).mem_erase_iff, sound.slots.holders,
      standsAt_moved runs, standsAt_moved leftRuns]
    by_cases isWaiter : other = waiter
    · simp [isWaiter, ← ownSlot, ← ownKey, slotStage, slotOfRun]
    · by_cases isId : other = id
      · simp [isId, different.symm, slotStage]
      · simp [isWaiter, isId]
  · intro other
    have distinct := (List.nodup_append.1 serves.distinct).2.1
    rw [served.2, List.nodup_cons] at distinct
    rw [standsAt_moved runs, standsAt_moved leftRuns]
    by_cases isWaiter : other = waiter
    · simp [isWaiter, distinct.1, slotStage]
    · by_cases isId : other = id
      · simp [isId, idle.2, different.symm, slotStage]
      · simp [isWaiter, isId, ← waits]

end Leaving

theorem leave_sound (sound : s.CoreSound config) (id : Nat) :
    (s.leave config id).CoreSound config := by
  unfold leave
  split
  next process jobId claimed found =>
    dsimp only
    split
    next waiter handed =>
      have waits : waiter ∈ ((s.processes process).semaphores (config.keyOf jobId)).waiters := by
        rw [((sound.slots.serves _ _).release_handed (leave_holds sound found) handed).2]
        exact List.mem_cons_self
      unfold handOver
      split
      next run leftRun =>
        refine leave_handed sound found handed ?_ ?_ leftRun rfl (by rw [handed]; rfl) rfl rfl rfl
        · rfl
        · exact sound.log.release (slotOf_run found) rfl rfl rfl rfl rfl
      next gone =>
        rcases (sound.slots.waiters _ _ waiter).1 waits with ⟨slot, waiterSlot, _⟩
        rcases Option.map_eq_some_iff.1 waiterSlot with ⟨run, waiterRun, _⟩
        rw [setProcess_runs, setRun] at gone
        by_cases same : waiter = id <;> simp [same, waiterRun] at gone
    next freed =>
      refine leave_freed sound found freed rfl ?_ rfl
        (sound.log.release (slotOf_run found) rfl rfl rfl rfl rfl)
      rw [freed, Option.toList_none, List.append_nil]
      rfl
  · exact sound

end Class

/-- The executions of a process that is gone are gone with it. -/
theorem slotOf_crash (process id : Nat) : (s.crash config process).slotOf id =
    (s.slotOf id).map fun (slot : Slot) =>
      if slot.process = process ∧ slot.stage ≠ .left then { slot with stage := .crashed }
      else slot := by
  simp only [slotOf, crash, setProcess_runs, Option.map_map]
  congr 1
  funext run
  rcases run with ⟨owner, jobId, phase, claimed⟩
  by_cases own : owner = process
  · cases phase <;> simp [own, slotOfRun, slotStage, RunPhase.isLive]
  · simp [own, slotOfRun]

theorem crash_slot {process id : Nat} (found : (s.crash config process).slotOf id = some slot) :
    ∃ old, s.slotOf id = some old ∧ old.process = slot.process ∧ old.jobId = slot.jobId ∧
      (slot = old ∧ (old.process = process → old.stage = .left) ∨
        old.process = process ∧ old.stage ≠ .left ∧ slot.stage = .crashed) := by
  rw [slotOf_crash] at found
  rcases Option.map_eq_some_iff.1 found with ⟨old, wasFound, rfl⟩
  refine ⟨old, wasFound, ?_⟩
  split
  next gone => exact ⟨rfl, rfl, Or.inr ⟨gone.1, gone.2, rfl⟩⟩
  next stays =>
    refine ⟨rfl, rfl, Or.inl ⟨rfl, ?_⟩⟩
    intro own
    by_contra notLeft
    exact stays ⟨own, notLeft⟩

theorem standsAt_crash {process other : Nat} (away : other ≠ process) (key : ConcurrencyKey)
    (id : Nat) (stage : SlotStage) : (s.crash config process).StandsAt config other key id stage ↔
      s.StandsAt config other key id stage := by
  unfold StandsAt
  rw [slotOf_crash]
  cases s.slotOf id with
  | none => simp
  | some slot =>
    simp only [Option.map_some, Option.some.injEq, exists_eq_left']
    split
    next gone =>
      constructor
      · rintro ⟨own, _⟩
        exact absurd (own.symm.trans gone.1) away
      · rintro ⟨own, _⟩
        exact absurd (own.symm.trans gone.1) away
    · rfl

theorem crash_empties {process : Nat} {key : ConcurrencyKey} {id : Nat} {stage : SlotStage}
    (live : stage = .holding ∨ stage = .waiting) :
    ¬ (s.crash config process).StandsAt config process key id stage := by
  rintro ⟨slot, found, own, _, stands⟩
  rcases crash_slot found with ⟨old, _, sameProcess, _, ⟨rfl, left⟩ | ⟨_, _, crashed⟩⟩
  · rw [left own] at stands
    rcases live with live | live <;> rw [live] at stands <;> cases stands
  · rw [crashed] at stands
    rcases live with live | live <;> rw [live] at stands <;> cases stands

theorem crash_sound (sound : s.CoreSound config) (process : Nat) :
    (s.crash config process).CoreSound config := by
  have others : ∀ other, other ≠ process →
      (s.crash config process).processes other = s.processes other := by
    intro other away
    rw [crash, setProcess_other _ _ away]
  have liveSlot : ∀ id slot, (s.crash config process).slotOf id = some slot → slot.Live →
      s.slotOf id = some slot ∧ slot.process ≠ process := by
    intro id slot found live
    rcases crash_slot found with ⟨old, wasFound, _, _, ⟨rfl, left⟩ | ⟨_, _, crashed⟩⟩
    · exact ⟨wasFound, fun own => live.1 (left own)⟩
    · exact absurd crashed live.2
  have own : (s.crash config process).processes process = {
      alive := false
      fenced := true
      dispatching := []
      semaphores := fun key => .empty (config.maxOf key)
      holders := fun _ => [] } := by
    rw [crash, setProcess_self]
  constructor
  · constructor
    · intro id slot found
      rcases crash_slot found with ⟨old, wasFound, _⟩
      exact sound.runs.known id old wasFound
    · intro id slot found live
      rcases liveSlot id slot found live with ⟨wasFound, away⟩
      rw [others _ away]
      exact sound.runs.dispatching id slot wasFound live
    · intro id slot other otherSlot found otherFound live otherLive
      exact sound.runs.alone id slot other otherSlot (liveSlot id slot found live).1
        (liveSlot other otherSlot otherFound otherLive).1 live otherLive
  · constructor
    · intro other key
      by_cases isOwn : other = process
      · rw [isOwn, own]
        exact Semaphore.serves_empty _
      · rw [others other isOwn]
        exact sound.slots.serves other key
    · intro other key
      by_cases isOwn : other = process
      · rw [isOwn, own]
        rfl
      · rw [others other isOwn]
        exact sound.slots.max other key
    · intro other key id
      by_cases isOwn : other = process
      · rw [isOwn, own]
        exact iff_of_false List.not_mem_nil (crash_empties (Or.inl rfl))
      · rw [others other isOwn, standsAt_crash isOwn]
        exact sound.slots.holders other key id
    · intro other key id
      by_cases isOwn : other = process
      · rw [isOwn, own]
        exact iff_of_false List.not_mem_nil (crash_empties (Or.inr rfl))
      · rw [others other isOwn, standsAt_crash isOwn]
        exact sound.slots.waiters other key id
  · constructor
    · exact sound.log.acquiredOnce
    · exact sound.log.releasedOnce
    · intro id slot found stage
      rcases crash_slot found with ⟨old, wasFound, _, _, ⟨rfl, _⟩ | ⟨_, _, crashed⟩⟩
      · exact sound.log.holds id slot wasFound stage
      · rw [crashed] at stage
        simp at stage
    · intro id listed
      rcases sound.log.acquired id listed with ⟨slot, found, stage⟩
      rw [slotOf_crash, found]
      refine ⟨_, rfl, ?_⟩
      dsimp only
      split
      · exact Or.inr (Or.inr rfl)
      · exact stage
    · intro id
      have unchanged : (s.crash config process).released = s.released := rfl
      rw [unchanged, sound.log.released]
      constructor
      · rintro ⟨slot, found, left⟩
        refine ⟨slot, ?_, left⟩
        rw [slotOf_crash, found, Option.map_some, if_neg]
        exact fun gone => gone.2 left
      · rintro ⟨slot, found, left⟩
        rcases crash_slot found with ⟨old, wasFound, _, _, ⟨rfl, _⟩ | ⟨_, _, crashed⟩⟩
        · exact ⟨slot, wasFound, left⟩
        · rw [crashed] at left
          cases left

theorem core_start (config : SchedulerConfig) : (Scheduler.start config).CoreSound config := by
  constructor
  · constructor
    · nofun
    · nofun
    · nofun
  · constructor
    · exact fun _ _ => Semaphore.serves_empty _
    · exact fun _ _ => rfl
    · intro process key id
      apply iff_of_false List.not_mem_nil
      rintro ⟨slot, impossible, _⟩
      cases impossible
    · intro process key id
      apply iff_of_false List.not_mem_nil
      rintro ⟨slot, impossible, _⟩
      cases impossible
  · constructor
    · exact List.nodup_nil
    · exact List.nodup_nil
    · nofun
    · nofun
    · intro id
      apply iff_of_false List.not_mem_nil
      rintro ⟨slot, impossible, _⟩
      cases impossible

/-- Every step keeps the slots. -/
theorem core_step (sound : s.CoreSound config) (event : SchedulerEvent) :
    (s.step config event).CoreSound config := by
  cases event with
  | dispatch process jobId => exact dispatchJob_sound sound process jobId
  | poll process jobId => exact poll_sound sound process jobId
  | acquire id => exact acquire_sound sound id
  | markRunning id outcome =>
    simp only [step, markRunning]
    split
    next found =>
      split
      all_goals exact moved_sound sound found rfl
    · exact sound
  | report id write outcome =>
    simp only [step, report]
    split
    · exact unmoved_sound sound
    · exact sound
  | returns id =>
    simp only [step, returns]
    split
    next found => exact moved_sound sound found rfl
    · exact sound
  | markSucceeded id outcome =>
    simp only [step, markSucceeded]
    split
    next found =>
      apply moved_sound sound found
      split <;> rfl
    · exact sound
  | settlePersistFailure id outcome =>
    simp only [step, settlePersistFailure]
    split
    next found => exact moved_sound sound found rfl
    · exact sound
  | throws id verdict =>
    simp only [step, throws]
    split
    next found => exact moved_sound sound found rfl
    next found => exact moved_sound sound found rfl
    · exact sound
  | settle id outcome =>
    simp only [step, settle]
    split
    next found => exact moved_sound sound found rfl
    · exact sound
  | leave id => exact leave_sound sound id
  | crash process => exact crash_sound sound process
  | fence process =>
    have fields : ∀ other, ∃ fenced, (s.step config (.fence process)).processes other =
        { s.processes other with fenced } := by
      intro other
      by_cases own : other = process
      · rw [own]
        exact ⟨true, setProcess_self s process _⟩
      · exact ⟨(s.processes other).fenced, setProcess_other s _ own⟩
    apply sound.of_same
    refine ⟨fun _ => rfl, ?_, ?_, ?_, rfl, rfl, rfl⟩
    all_goals
      intro other
      rcases fields other with ⟨fenced, same⟩
      rw [same]
  | task write => exact unmoved_sound sound

end Steps

end Scheduler

end Nightgate.Submission
