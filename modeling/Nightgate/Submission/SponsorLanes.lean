import Nightgate.Library.Machine
import Nightgate.Library.Pointwise
import Nightgate.Submission.SponsorPool

/-!
# Finalized sponsorings and their lanes

Each finalized sponsoring waits for a free sponsor, makes its attempts on that lane, and gives
the lane back. A step is one stretch of code between two awaits. Unbound sponsorings use the
same wallets and appear by what they do to the lanes.
-/

namespace Nightgate.Submission

open Library Midnight

inductive AfterFailure where
  | stop
  | rebuild
  | failover
  deriving DecidableEq

/-- A generic pool rejection gets one rebuild only. -/
def rebuildBudget (verdict : SponsorVerdict) (dustRetries : Nat) : Nat :=
  if verdict.generic then min 1 dustRetries else dustRetries

/-- What `executeSponsorFinalized` does once the attempt's row is closed. -/
def afterFinalizedFailure (verdict : SponsorVerdict) (attempt dustRetries : Nat) : AfterFailure :=
  match verdict.decision with
  | .ambiguous | .landedNotApplied | .fail => .stop
  | .dustRebuild =>
    if attempt < rebuildBudget verdict dustRetries then .rebuild
    -- A generic rejection points at the caller's transaction, a known race may pass elsewhere.
    else if verdict.generic then .stop
    else .failover
  | .failover => .failover

/-- Where a finalized sponsoring is. `waiting` gives up at its limit; in `recording` the
transaction landed, the lane is given back and the grant is written. -/
inductive FinalizedStage where
  | waiting (limit : Nat)
  | attempting (lane : String) (attempt : Nat)
  | closing (lane : String) (attempt : Nat) (verdict : SponsorVerdict)
  | pausing (lane : String) (attempt : Nat)
  | recording (lane : String) (attempt : Nat)
  | ended
  deriving DecidableEq

/-- The lane a stage works on. -/
def FinalizedStage.lane : FinalizedStage → Option String
  | .attempting lane _ | .closing lane _ _ | .pausing lane _ => some lane
  | .waiting _ | .recording .. | .ended => none

/-- A job, with the number of times it took and gave back a lane. -/
structure FinalizedSponsoring where
  candidates : List String
  deadline : Nat
  stage : FinalizedStage
  acquired : Nat
  released : Nat
  deriving DecidableEq

structure SponsorSettings where
  waitMs : Nat
  cooldownMs : Nat
  dustRetries : Nat

structure SponsorHall where
  now : Nat
  lanes : SponsorLanes
  jobs : Nat → Option FinalizedSponsoring

inductive HallEvent where
  | tick (span : Nat)
  | begin (id : Nat) (candidates : List String)
  /-- One look of a waiting job at the pool. -/
  | poll (id : Nat) (atGate : String → Bool)
  | lands (id : Nat)
  | attemptFails (id : Nat) (err : Midnight.Thrown)
  | recorded (id : Nat)
  /-- The grant could not be written after the transaction landed. -/
  | recordFails (id : Nat) (err : Midnight.Thrown)
  /-- The attempt's row was closed, or that failed. -/
  | closed (id : Nat) (committed : Bool)
  | resume (id : Nat)
  /-- An unbound sponsoring fails over from a wallet. -/
  | unboundBenches (lane : String)
  | unboundTouches (lane : String)

/-- The job an event is a step of. -/
def HallEvent.id : HallEvent → Option Nat
  | .tick _ | .begin .. | .unboundBenches _ | .unboundTouches _ => none
  | .poll id _ | .lands id | .attemptFails id _ | .recorded id | .recordFails id _
  | .closed id _ | .resume id => some id

namespace SponsorHall

def initial : SponsorHall where
  now := 0
  lanes := fun _ => {}
  jobs := fun _ => none

def put (hall : SponsorHall) (id : Nat) (job : FinalizedSponsoring) : SponsorHall :=
  { hall with jobs := Function.update hall.jobs id (some job) }

/-- The job gives the lane back and stops there. -/
def stopAt (hall : SponsorHall) (id : Nat) (job : FinalizedSponsoring) (lane : String) :
    SponsorHall :=
  { hall with lanes := releaseSponsor hall.lanes lane }.put id
    { job with stage := .ended, released := job.released + 1 }

-- What node's `inspect` renders of an error.
variable (inspect : Midnight.Thrown → String) (settings : SponsorSettings)

/-- The catch around an attempt. The transaction may be on chain when its outcome is unknown;
every other case closes the attempt's row. -/
def catchFailure (hall : SponsorHall) (id : Nat) (job : FinalizedSponsoring) (lane : String)
    (attempt : Nat) (err : Midnight.Thrown) : SponsorHall :=
  let verdict := decideSponsorFailure inspect err
  if verdict.decision = .ambiguous ∨ verdict.decision = .landedNotApplied then
    hall.stopAt id job lane
  else hall.put id { job with stage := .closing lane attempt verdict }

/-- The rest of the catch, after the row. -/
def afterClosing (hall : SponsorHall) (id : Nat) (job : FinalizedSponsoring) (lane : String)
    (attempt : Nat) (verdict : SponsorVerdict) : SponsorHall :=
  match afterFinalizedFailure verdict attempt settings.dustRetries with
  | .stop => hall.stopAt id job lane
  | .rebuild => hall.put id { job with stage := .pausing lane attempt }
  | .failover =>
    let candidates := job.candidates.filter (· ≠ lane)
    let stage :=
      if candidates = [] then .ended else .waiting (max hall.now job.deadline)
    { hall with lanes := benchSponsor hall.lanes lane hall.now settings.cooldownMs }.put id
      { job with candidates, stage, released := job.released + 1 }

/-- The step of one job. -/
def stepOf (hall : SponsorHall) (id : Nat) (job : FinalizedSponsoring) : HallEvent → SponsorHall
  | .poll _ atGate =>
    match job.stage with
    | .waiting limit =>
      match acquireSponsor hall.lanes job.candidates hall.now atGate with
      | some (lane, lanes) =>
        { hall with lanes }.put id
          { job with stage := .attempting lane 0, acquired := job.acquired + 1 }
      | none => if limit ≤ hall.now then hall.put id { job with stage := .ended } else hall
    | _ => hall
  | .lands _ =>
    match job.stage with
    | .attempting lane attempt =>
      { hall with lanes := releaseSponsor hall.lanes lane }.put id
        { job with stage := .recording lane attempt, released := job.released + 1 }
    | _ => hall
  | .attemptFails _ err =>
    match job.stage with
    | .attempting lane attempt => hall.catchFailure inspect id job lane attempt err
    | _ => hall
  | .recorded _ =>
    match job.stage with
    | .recording _ _ => hall.put id { job with stage := .ended }
    | _ => hall
  | .recordFails _ err =>
    match job.stage with
    | .recording lane attempt => hall.catchFailure inspect id job lane attempt err
    | _ => hall
  | .closed _ committed =>
    match job.stage with
    | .closing lane attempt verdict =>
      if committed then hall.afterClosing settings id job lane attempt verdict
      else hall.stopAt id job lane
    | _ => hall
  | .resume _ =>
    match job.stage with
    | .pausing lane attempt => hall.put id { job with stage := .attempting lane (attempt + 1) }
    | _ => hall
  | .tick _ | .begin .. | .unboundBenches _ | .unboundTouches _ => hall

def step (hall : SponsorHall) (event : HallEvent) : SponsorHall :=
  match event with
  | .tick span => { hall with now := hall.now + span }
  | .begin id candidates =>
    match hall.jobs id with
    | some _ => hall
    | none =>
      let deadline := hall.now + settings.waitMs
      let stage := if candidates = [] then .ended else .waiting (max hall.now deadline)
      hall.put id { candidates, deadline, stage, acquired := 0, released := 0 }
  | .unboundBenches lane =>
    { hall with lanes := benchSponsor hall.lanes lane hall.now settings.cooldownMs }
  | .unboundTouches lane => { hall with lanes := touchSponsor hall.lanes lane hall.now }
  | .poll id _ | .lands id | .attemptFails id _ | .recorded id | .recordFails id _
  | .closed id _ | .resume id =>
    match hall.jobs id with
    | some job => hall.stepOf inspect settings id job event
    | none => hall

/-- The job works on the lane. -/
def Holds (hall : SponsorHall) (id : Nat) (lane : String) : Prop :=
  ∃ job ∈ hall.jobs id, job.stage.lane = some lane

/-- A lane has one job at most and is busy for that job alone, and a job that works on a lane
gave back every lane but that one. -/
structure Exclusive (hall : SponsorHall) : Prop where
  single : ∀ id other lane, hall.Holds id lane → hall.Holds other lane → id = other
  busy : ∀ lane, (hall.lanes lane).busy = true ↔ ∃ id, hall.Holds id lane
  balanced : ∀ id, ∀ job ∈ hall.jobs id,
    job.acquired = job.released + if job.stage.lane.isSome then 1 else 0

/-- A waiting job stays until its own look at the pool, which before the limit leaves it or takes
a lane, and takes a lane when one of its candidates is unheld and not paused. -/
structure WaitersServed (hall : SponsorHall) : Prop where
  kept : ∀ id limit event, ∀ job ∈ hall.jobs id, job.stage = .waiting limit →
    (∀ atGate, event ≠ .poll id atGate) → (hall.step inspect settings event).jobs id = some job
  patient : ∀ id limit atGate, ∀ job ∈ hall.jobs id, job.stage = .waiting limit →
    hall.now < limit → (hall.step inspect settings (.poll id atGate)).jobs id = some job ∨
      ∃ taken ∈ job.candidates, (hall.step inspect settings (.poll id atGate)).Holds id taken
  served : ∀ id limit lane atGate, ∀ job ∈ hall.jobs id, job.stage = .waiting limit →
    lane ∈ job.candidates → (∀ other, ¬ hall.Holds other lane) →
    (hall.lanes lane).cooldownUntil ≤ hall.now →
    ∃ taken ∈ job.candidates, (hall.step inspect settings (.poll id atGate)).Holds id taken

/-- The step gives no lane back a second time: the grant of a landed transaction is written,
and an unbound sponsoring does not bench a wallet whose lane is busy. -/
def Undisturbed (hall : SponsorHall) : HallEvent → Prop
  | .recordFails id _ => ∀ job ∈ hall.jobs id, ∀ lane attempt, job.stage ≠ .recording lane attempt
  | .unboundBenches lane => (hall.lanes lane).busy = false
  | _ => True

end SponsorHall

end Nightgate.Submission
