import Nightgate.Library.Machine

/-!
# The instance lease

One process per database runs background work: the one the lease row names. Each process
believes what it was last answered, and every call may fail before or after it took effect.
A call and its answer are two steps.
-/

namespace Nightgate.Runtime

open Library

/-- The row of the role, its only key. -/
structure LeaseRow where
  instanceId : Nat
  acquiredAt : Nat
  heartbeatAt : Nat

/-- The row names the process. -/
def namesIn (row : Option LeaseRow) (holder : Nat) : Bool :=
  row.any fun row => row.instanceId = holder

/-- A statement of `tryAcquireInstanceLease`, to be run or with its answer on the way. -/
inductive AcquireStage where
  | refresh
  | refreshed (hit : Bool)
  | takeOver
  | taken (hit : Bool)
  | read
  | found (present : Bool)
  | insert
  | inserted (fresh : Bool)

/-- A call of `tryAcquireInstanceLease`, with the time it was called at. -/
structure Acquisition where
  now : Nat
  afterInsertRace : Bool
  stage : AcquireStage

/-- The statement of the stage on the row. The takeover only matches a stale row. -/
def runStatement (ttlMs : Nat) (row : Option LeaseRow) (holder : Nat) (call : Acquisition) :
    Option LeaseRow × AcquireStage :=
  let mine : LeaseRow := ⟨holder, call.now, call.now⟩
  match call.stage with
  | .refresh =>
    if namesIn row holder then
      (row.map fun row => { row with heartbeatAt := call.now }, .refreshed true)
    else (row, .refreshed false)
  | .takeOver =>
    if row.any fun row => row.heartbeatAt + ttlMs < call.now then (some mine, .taken true)
    else (row, .taken false)
  | .read => (row, .found row.isSome)
  | .insert =>
    match row with
    | none => (some mine, .inserted true)
    | some row => (some row, .inserted false)
  | answered => (row, answered)

inductive AcquireOutcome where
  | next (call : Acquisition)
  | acquired
  | refused

/-- What the answer leads to. A lost race for the insert is tried once more. -/
def takeAnswer (call : Acquisition) : AcquireOutcome :=
  match call.stage with
  | .refreshed true | .taken true | .inserted true => .acquired
  | .refreshed false => .next { call with stage := .takeOver }
  | .taken false => .next { call with stage := .read }
  | .found true => .refused
  | .found false => .next { call with stage := .insert }
  | .inserted false =>
    if call.afterInsertRace then .refused
    else .next { call with stage := .refresh, afterInsertRace := true }
  | .refresh | .takeOver | .read | .insert => .next call

/-! ## Processes -/

/-- What a process keeps: whether it believes it has the lease (`activeLease`), whether it is
fenced, its heartbeat, and the answers on their way. It counts the checks it passed before a
broadcast and the jobs it dispatched. -/
structure Process where
  lease : Bool := false
  fenced : Bool := false
  heartbeat : Bool := false
  acquiring : Option Acquisition := none
  renewals : List Bool := []
  asserts : List (Option Nat) := []
  passed : Nat := 0
  dispatched : Nat := 0

structure Fleet where
  now : Nat
  row : Option LeaseRow
  procs : Nat → Process

inductive LeaseEvent where
  | tick (span : Nat)
  | beginAcquire (holder : Nat)
  | acquireRun (holder : Nat)
  | acquireAnswer (holder : Nat)
  /-- The call throws, whether or not its statement took effect. -/
  | acquireFails (holder : Nat)
  | renewRun (holder : Nat)
  | renewAnswer (holder : Nat) (hit : Bool)
  | renewFails (holder : Nat) (hit : Bool)
  /-- `assertLeaseHeld` is called and reads the row. -/
  | assertLease (holder : Nat)
  | assertAnswer (holder : Nat) (named : Option Nat)
  | assertFails (holder : Nat) (named : Option Nat)
  | dispatch (holder : Nat)
  | stopHeartbeat (holder : Nat)
  | release (holder : Nat)
  | clearLease (holder : Nat)

/-- The process an event is a step of. -/
def LeaseEvent.holder : LeaseEvent → Option Nat
  | .tick _ => none
  | .beginAcquire holder | .acquireRun holder | .acquireAnswer holder | .acquireFails holder
  | .renewRun holder | .renewAnswer holder _ | .renewFails holder _ | .assertLease holder
  | .assertAnswer holder _ | .assertFails holder _ | .dispatch holder | .stopHeartbeat holder
  | .release holder | .clearLease holder => some holder

/-- The process takes a step of an acquisition, or gives up its belief in a lease. -/
def LeaseEvent.Restarts (holder : Nat) : LeaseEvent → Prop
  | .acquireRun other | .acquireAnswer other | .clearLease other => other = holder
  | _ => False

namespace Process

/-- The process after an answer to its acquisition. `setActiveLease` lifts the fence, and the
answers of an earlier heartbeat no longer count. -/
def answered (proc : Process) (call : Acquisition) : Process :=
  match takeAnswer call with
  | .next call => { proc with acquiring := some call }
  | .acquired =>
    { proc with
      acquiring := none, lease := true, fenced := false, heartbeat := true, renewals := [] }
  | .refused => { proc with acquiring := none }

/-- The process after the answer to a renewal: the first one that found no row fences it. -/
def renewed (proc : Process) (hit : Bool) : Process :=
  let rest := proc.renewals.erase hit
  if !hit && proc.heartbeat then
    { proc with renewals := rest, fenced := true, heartbeat := false }
  else { proc with renewals := rest }

/-- `assertLeaseHeld` up to its read. A process without a lease is not checked. -/
def asserting (proc : Process) (named : Option Nat) : Process :=
  if proc.fenced then proc
  else if !proc.lease then { proc with passed := proc.passed + 1 }
  else { proc with asserts := named :: proc.asserts }

/-- `assertLeaseHeld` after its read. It throws when the lease was cleared meanwhile. -/
def asserted (proc : Process) (holder : Nat) (named : Option Nat) : Process :=
  let rest := proc.asserts.erase named
  if !proc.lease then { proc with asserts := rest }
  else if named = some holder then { proc with asserts := rest, passed := proc.passed + 1 }
  else { proc with asserts := rest, fenced := true }

end Process

namespace Fleet

def initial : Fleet where
  now := 0
  row := none
  procs := fun _ => {}

/-- The row names the process. -/
def Named (fleet : Fleet) (holder : Nat) : Prop :=
  namesIn fleet.row holder = true

def put (fleet : Fleet) (holder : Nat) (proc : Process) : Fleet :=
  { fleet with procs := Function.update fleet.procs holder proc }

/-- A step of one process. -/
def stepOf (ttlMs : Nat) (fleet : Fleet) (holder : Nat) (proc : Process) : LeaseEvent → Fleet
  | .beginAcquire _ =>
    if proc.acquiring = none then
      fleet.put holder { proc with acquiring := some ⟨fleet.now, false, .refresh⟩ }
    else fleet
  | .acquireRun _ =>
    match proc.acquiring with
    | some call =>
      let (row, stage) := runStatement ttlMs fleet.row holder call
      { fleet with row }.put holder { proc with acquiring := some { call with stage } }
    | none => fleet
  | .acquireAnswer _ =>
    match proc.acquiring with
    | some call => fleet.put holder (proc.answered call)
    | none => fleet
  | .acquireFails _ => fleet.put holder { proc with acquiring := none }
  | .renewRun _ =>
    if proc.heartbeat then
      let row :=
        if namesIn fleet.row holder then
          fleet.row.map fun row => { row with heartbeatAt := fleet.now }
        else fleet.row
      { fleet with row }.put holder
        { proc with renewals := namesIn fleet.row holder :: proc.renewals }
    else fleet
  | .renewAnswer _ hit =>
    if hit ∈ proc.renewals then fleet.put holder (proc.renewed hit) else fleet
  | .renewFails _ hit => fleet.put holder { proc with renewals := proc.renewals.erase hit }
  | .assertLease _ =>
    fleet.put holder (proc.asserting (fleet.row.map LeaseRow.instanceId))
  | .assertAnswer _ named =>
    if named ∈ proc.asserts then fleet.put holder (proc.asserted holder named)
    else fleet
  | .assertFails _ named => fleet.put holder { proc with asserts := proc.asserts.erase named }
  | .dispatch _ =>
    if proc.fenced then fleet
    else fleet.put holder { proc with dispatched := proc.dispatched + 1 }
  | .stopHeartbeat _ => fleet.put holder { proc with heartbeat := false }
  | .release _ =>
    { fleet with row := if namesIn fleet.row holder then none else fleet.row }
  | .clearLease _ => fleet.put holder { proc with lease := false }
  | .tick _ => fleet

def step (ttlMs : Nat) (fleet : Fleet) (event : LeaseEvent) : Fleet :=
  match event.holder with
  | some holder => fleet.stepOf ttlMs holder (fleet.procs holder) event
  | none =>
    match event with
    | .tick span => { fleet with now := fleet.now + span }
    | _ => fleet

end Fleet

end Nightgate.Runtime
