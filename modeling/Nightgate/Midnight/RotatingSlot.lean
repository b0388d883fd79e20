import Nightgate.Midnight.WorkerRotation

/-!
# The slot of a worker that restarts

The main thread's side of a worker slot. A call waits while the slot's worker drains, goes to
the worker or starts a new one, and is repeated once if the worker refused it, or if it sends
nothing and the worker was replaced under it.
-/

namespace Nightgate.Midnight.Rotation

open Library

inductive Outcome where
  | answered
  /-- `WORKER_ROTATING`. -/
  | rotating
  /-- `WORKER_ROTATED`. -/
  | rotated
  /-- A timeout, an exit, or a pool that was not started. -/
  | failed
  deriving DecidableEq

inductive Phase where
  /-- `waitForDrainingWorker`: for the exit of a worker, or past the wait. -/
  | waiting (on : Option Nat)
  /-- Awaits the start of a worker. -/
  | starting (worker : Nat)
  | posted (worker : Nat)
  | settled (outcome : Outcome)
  deriving DecidableEq

/-- How often a call in this phase was sent in its present attempt. -/
def Phase.sends : Phase → Nat
  | .posted _ => 1
  | .settled _ => 1
  | _ => 0

structure Call where
  method : RpcMethod
  attempt : Nat
  phase : Phase
  /-- The workers it was sent to, the last one first. -/
  sentTo : List Nat

/-- `WorkerSlot`, with the workers it has had and the calls on it. -/
structure Slot where
  worker : Option Nat
  drainingWorker : Option Nat
  rotationAnnouncedBy : Option Nat
  stoppingWorker : Option Nat
  everStarted : Bool
  /-- `stopWalletWorker` was called. -/
  stopRequested : Bool
  /-- The worker that `stopWorkerSlot` is at. -/
  stopping : Option Nat
  threads : Nat → Option Thread
  nextWorker : Nat
  calls : Nat → Option Call
  nextCall : Nat

def Slot.start : Slot where
  worker := none
  drainingWorker := none
  rotationAnnouncedBy := none
  stoppingWorker := none
  everStarted := false
  stopRequested := false
  stopping := none
  threads := fun _ => none
  nextWorker := 0
  calls := fun _ => none
  nextCall := 0

inductive Event where
  /-- The plugin starts the pool when the server is served, before it ever stops it. -/
  | startWalletWorker
  | rpc (method : RpcMethod)
  /-- A call is past the wait for a draining worker. -/
  | proceed (id : Nat)
  /-- The worker that a call has started is ready. -/
  | ready (id : Nat)
  /-- The reply on the port of a call. -/
  | reply (id : Nat)
  | timeout (id : Nat)
  /-- `NIGHTGATE_WORKER_DRAIN_MAX_MS` is over for a call that waits. -/
  | drainTimeout (id : Nat)
  /-- The next message on a worker's own port. -/
  | deliver (worker : Nat)
  /-- The `error` event of a worker that crashed. -/
  | workerError (worker : Nat)
  | exit (worker : Nat)
  | stopWalletWorker
  /-- The worker refuses `shutdown`. -/
  | stopRefused
  /-- `stopWorkerSlot` goes on, after the shutdown or without. -/
  | stopWorkerSlot
  | handle (worker : Nat)
  | begin (worker id : Nat)
  | importGeneration (worker id digest : Nat)
  | finish (worker id : Nat)
  | shutdownDone (worker : Nat)
  | evicted (worker : Nat)
  | die (worker : Nat)

namespace Slot

def onThread (s : Slot) (worker : Nat) (change : Thread → Thread) : Slot :=
  { s with
    threads := fun other =>
      if other = worker then (s.threads other).map change else s.threads other }

/-- A step of the worker. -/
def work (s : Slot) (worker : Nat) (change : Thread → Thread) : Slot :=
  s.onThread worker fun t => if t.alive then change t else t

def setCall (s : Slot) (id : Nat) (call : Call) : Slot :=
  { s with calls := Function.update s.calls id (some call) }

/-- `startWorkerSlot`, up to the wait for `ready`. -/
def startWorkerSlot (s : Slot) : Slot :=
  match s.worker with
  | some _ => { s with everStarted := true }
  | none =>
    { s with
      everStarted := true
      worker := some s.nextWorker
      threads := Function.update s.threads s.nextWorker (some Thread.new)
      nextWorker := s.nextWorker + 1 }

def settle (s : Slot) (id : Nat) (call : Call) (outcome : Outcome) : Slot :=
  s.setCall id { call with phase := .settled outcome }

/-- `rpc`, up to the wait for a draining worker. -/
def rpc (s : Slot) (method : RpcMethod) : Slot :=
  { s with nextCall := s.nextCall + 1 }.setCall s.nextCall
    ⟨method, 0, .waiting s.drainingWorker, []⟩

/-- The second turn of the loop in `rpc`. -/
def retry (s : Slot) (id : Nat) (call : Call) : Slot :=
  s.setCall id { call with attempt := 1, phase := .waiting s.drainingWorker }

def post (s : Slot) (id : Nat) (call : Call) (worker : Nat) : Slot :=
  (s.setCall id { call with phase := .posted worker, sentTo := worker :: call.sentTo }).work
    worker fun t => { t with inbox := t.inbox ++ [.call id call.method] }

/-- `rpcOnce`, up to the start of a worker or to the post. -/
def proceed (s : Slot) (id : Nat) : Slot :=
  match s.calls id with
  | some call =>
    if call.phase = .waiting none then
      match s.worker with
      | some worker => s.post id call worker
      | none =>
        if s.everStarted then
          s.startWorkerSlot.setCall id { call with phase := .starting s.nextWorker }
        else s.settle id call .failed
    else s
  | none => s

def ready (s : Slot) (id : Nat) : Slot :=
  match s.calls id with
  | some call =>
    match call.phase with
    | .starting _ =>
      match s.worker with
      | some worker => s.post id call worker
      | none => s.settle id call .failed
    | _ => s
  | none => s

/-- The worker refused the call: it drains, and the announcement may come later. -/
def refuse (s : Slot) (id : Nat) (call : Call) : Slot :=
  if call.attempt = 0 then
    { s with drainingWorker := s.drainingWorker.or s.worker }.retry id call
  else s.settle id call .rotating

def reply (s : Slot) (id : Nat) : Slot :=
  match s.calls id with
  | some call =>
    match call.phase with
    | .posted worker =>
      match s.threads worker with
      | some t =>
        if id ∈ t.refused then
          (s.onThread worker fun t => { t with refused := t.refused.erase id }).refuse id call
        else if id ∈ t.answered then s.settle id call .answered
        else s
      | none => s
    | _ => s
  | none => s

def timeout (s : Slot) (id : Nat) : Slot :=
  match s.calls id with
  | some call =>
    match call.phase with
    | .posted _ => s.settle id call .failed
    | _ => s
  | none => s

/-- The ceiling of one call that waits ends the drain for all. -/
def drainTimeout (s : Slot) (id : Nat) : Slot :=
  match s.calls id with
  | some call =>
    match call.phase with
    | .waiting (some worker) =>
      if s.drainingWorker = some worker then s.onThread worker Thread.die else s
    | _ => s
  | none => s

/-- `rotating` marks the worker; `rotation-done` also terminates it. -/
def deliver (s : Slot) (worker : Nat) : Slot :=
  match s.threads worker with
  | some t =>
    match t.exited, t.outbox with
    | false, message :: rest =>
      { s with rotationAnnouncedBy := some worker, drainingWorker := some worker }.onThread
        worker fun t => { t with
          outbox := rest
          alive := t.alive && message = Announcement.rotating }
    | _, _ => s
  | none => s

/-- What `rejectPendingRpcs` makes of a call, and what its loop does then. -/
def rejectPending (drainingWorker : Option Nat) (rotated : Bool) (call : Call) : Call :=
  match call.phase with
  | .posted _ =>
    if rotated ∧ call.attempt = 0 ∧ call.method.submitting = false then
      { call with attempt := 1, phase := .waiting drainingWorker }
    else { call with phase := .settled (if rotated then .rotated else .failed) }
  | _ => call

/-- The worker of an `error` or `exit` event has ended, and its exit was not seen yet. -/
def ended (s : Slot) (worker : Nat) : Bool :=
  (s.threads worker).any fun t => !t.alive && !t.exited

def workerError (s : Slot) (worker : Nat) : Slot :=
  if s.ended worker then
    { s with calls := fun id => (s.calls id).map (rejectPending s.drainingWorker false) }
  else s

/-- The fields of the slot that are the worker's are cleared. -/
def clear (field : Option Nat) (worker : Nat) : Option Nat :=
  if field = some worker then none else field

/-- What the exit of a worker makes of a call. -/
def afterExit (drainingWorker : Option Nat) (worker : Nat) (rotated : Bool) (call : Call) : Call :=
  match call.phase with
  | .starting other =>
    if other = worker then { call with phase := .settled .failed } else call
  | .waiting on => { call with phase := .waiting (clear on worker) }
  | _ => rejectPending drainingWorker rotated call

def exit (s : Slot) (worker : Nat) : Slot :=
  if s.ended worker then
    { s.onThread worker Thread.exit with
      worker := clear s.worker worker
      drainingWorker := clear s.drainingWorker worker
      rotationAnnouncedBy := clear s.rotationAnnouncedBy worker
      stoppingWorker := clear s.stoppingWorker worker
      calls := fun id => (s.calls id).map (afterExit (clear s.drainingWorker worker) worker
        (s.stoppingWorker ≠ some worker && s.rotationAnnouncedBy = some worker)) }
  else s

def stopWalletWorker (s : Slot) : Slot :=
  let stopped := { s with everStarted := false, stopRequested := true }
  match s.stopping, s.worker with
  | none, some worker =>
    { stopped with stopping := some worker }.work worker fun t =>
      { t with inbox := t.inbox ++ [Request.shutdown] }
  | _, _ => stopped

def stopRefused (s : Slot) : Slot :=
  match s.stopping with
  | some worker =>
    if (s.threads worker).any fun t => t.shutdownRefused && !t.exited then
      { s with drainingWorker := s.drainingWorker.or (some worker) }
    else s
  | none => s

def stopWorkerSlot (s : Slot) : Slot :=
  match s.stopping with
  | some worker =>
    if s.worker = some worker then
      { s with stopping := none, worker := none, stoppingWorker := some worker }.onThread worker
        Thread.die
    else { s with stopping := none }
  | none => s

def step (maxGenerations : Nat) (s : Slot) : Event → Slot
  | .startWalletWorker => if s.stopRequested then s else s.startWorkerSlot
  | .rpc method => s.rpc method
  | .proceed id => s.proceed id
  | .ready id => s.ready id
  | .reply id => s.reply id
  | .timeout id => s.timeout id
  | .drainTimeout id => s.drainTimeout id
  | .deliver worker => s.deliver worker
  | .workerError worker => s.workerError worker
  | .exit worker => s.exit worker
  | .stopWalletWorker => s.stopWalletWorker
  | .stopRefused => s.stopRefused
  | .stopWorkerSlot => s.stopWorkerSlot
  | .handle worker => s.work worker Thread.handle
  | .begin worker id => s.work worker fun t => t.begin id
  | .importGeneration worker id digest =>
    s.work worker fun t => t.importGeneration maxGenerations id digest
  | .finish worker id => s.work worker fun t => t.finish id
  | .shutdownDone worker => s.work worker Thread.shutdownDone
  | .evicted worker => s.work worker Thread.evicted
  | .die worker => s.onThread worker Thread.die

end Slot

end Nightgate.Midnight.Rotation
