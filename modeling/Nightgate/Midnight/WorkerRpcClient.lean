import Nightgate.Library.Machine

/-!
# Calls to a helper thread

The client starts its worker lazily, sends each call to it, and settles the call by the reply,
a timeout or the worker's exit. A worker ended for a timed-out call leaves the calls it had not
begun to the next one. A call that waits for a worker goes on in a step of its own.
-/

namespace Nightgate.Midnight

open Library

inductive HelperStage where
  | unborn
  | starting
  | ready
  /-- An error before it was ready; the exit follows. -/
  | failed
  | exited
  deriving DecidableEq

/-- The exit is still to come. -/
def HelperStage.alive : HelperStage → Bool
  | .starting | .ready | .failed => true
  | .unborn | .exited => false

/-- Where a call is. In `resuming` and `rejected` the start it waited for ended and its rest is
due; in `lost` that rest threw, and nothing refers to the call any more. -/
inductive CallStage where
  | starting (worker : Nat)
  | resuming
  | rejected
  | sent (worker : Nat)
  | settled
  | lost
  deriving DecidableEq

/-- A call, with how often its promise was settled and its message posted, and the posts there
were when the worker reported that it began. -/
structure PendingRpc where
  stage : CallStage
  started : Bool := false
  resent : Bool := false
  timer : Bool := false
  settles : Nat := 0
  sends : Nat := 0
  reported : Option Nat := none
  deriving DecidableEq

namespace PendingRpc

def settle (call : PendingRpc) : PendingRpc :=
  { call with
    stage := .settled, started := false, timer := false, settles := call.settles + 1 }

/-- The message is posted to the worker. -/
def post (call : PendingRpc) (worker : Nat) (budgetFromStart : Bool) : PendingRpc :=
  { call with stage := .sent worker, timer := !budgetFromStart, sends := call.sends + 1 }

/-- The worker reported that it began the call. -/
def begun (call : PendingRpc) (budgetFromStart : Bool) : PendingRpc :=
  { call with
    started := true
    timer := call.timer || budgetFromStart
    reported := call.reported.or (some call.sends) }

/-- The call goes to the next worker, once. -/
def moves (call : PendingRpc) (worker : Nat) (restarting : Bool) : Bool :=
  call.stage = .sent worker && restarting && !call.started && !call.resent

end PendingRpc

structure RpcOptions where
  budgetFromStart : Bool
  terminateOnTimeout : Bool

structure WorkerRpcClient where
  workers : Nat → HelperStage
  born : Nat
  client : Option Nat
  stoppingWorker : Option Nat
  restartingWorker : Option Nat
  calls : List PendingRpc

inductive RpcEvent where
  /-- Another caller of `start`. A new thread comes up or the constructor throws. -/
  | start (spawns : Bool)
  | rpc (spawns : Bool)
  | workerReady (worker : Nat)
  | workerError (worker : Nat)
  /-- The rest of `send` once the start ended. Posting may throw. -/
  | resume (call : Nat) (posts : Bool)
  | started (call : Nat)
  | reply (call : Nat)
  | messageError (call : Nat)
  | timeout (call : Nat)
  | exit (worker : Nat) (spawns : Bool)
  | stop

namespace WorkerRpcClient

def initial : WorkerRpcClient where
  workers := fun _ => .unborn
  born := 0
  client := none
  stoppingWorker := none
  restartingWorker := none
  calls := []

/-- `start`, and where a call that awaits it is. -/
def start (link : WorkerRpcClient) (spawns : Bool) : WorkerRpcClient × CallStage :=
  match link.client with
  | some worker =>
    (link, if link.workers worker = .ready then .resuming else .starting worker)
  | none =>
    if spawns then
      ({ link with
          workers := Function.update link.workers link.born .starting
          born := link.born + 1
          client := some link.born }, .starting link.born)
    else (link, .rejected)

def stop (link : WorkerRpcClient) : WorkerRpcClient :=
  match link.client with
  | some worker => { link with client := none, stoppingWorker := some worker }
  | none => link

def setCall (link : WorkerRpcClient) (id : Nat) (call : PendingRpc) : WorkerRpcClient :=
  { link with calls := link.calls.set id call }

/-- The start that calls await ends for each of them. -/
def endStart (link : WorkerRpcClient) (worker : Nat) (stage : CallStage) : List PendingRpc :=
  link.calls.map fun call =>
    if call.stage = .starting worker then { call with stage } else call

/-- What the exit of its worker does to a call: it moves on, fails, or was not there. -/
def afterExit (worker : Nat) (restarting : Bool) (next : CallStage) (call : PendingRpc) :
    PendingRpc :=
  if call.moves worker restarting then
    { call with stage := next, resent := true, timer := false }
  else if call.stage = .sent worker then call.settle
  else if call.stage = .starting worker then { call with stage := .rejected }
  else call

/-- The worker is gone, from the client's fields. -/
def forget (link : WorkerRpcClient) (worker : Nat) : WorkerRpcClient :=
  { link with
    workers := Function.update link.workers worker .exited
    client := link.client.filter (· ≠ worker)
    stoppingWorker := link.stoppingWorker.filter (· ≠ worker)
    restartingWorker := link.restartingWorker.filter (· ≠ worker) }

/-- The exit handler. The calls that move await the next worker. -/
def exits (link : WorkerRpcClient) (worker : Nat) (spawns : Bool) : WorkerRpcClient :=
  let restarting := link.restartingWorker = some worker
  let gone := link.forget worker
  let (next, stage) :=
    if link.calls.any fun call => call.moves worker restarting then gone.start spawns
    else (gone, .rejected)
  { next with calls := link.calls.map (afterExit worker restarting stage) }

/-- The rest of `send` for a call whose start ended well. -/
def resumed (options : RpcOptions) (link : WorkerRpcClient) (id : Nat) (call : PendingRpc)
    (posts : Bool) : WorkerRpcClient :=
  match link.client with
  -- The client was stopped meanwhile: reading `state.worker` throws before anything is sent.
  | none => link.setCall id { call with stage := .lost }
  | some worker =>
    if posts then link.setCall id (call.post worker options.budgetFromStart)
    else link.setCall id call.settle

/-- The step of one call. -/
def stepCall (options : RpcOptions) (link : WorkerRpcClient) (id : Nat) (call : PendingRpc) :
    RpcEvent → WorkerRpcClient
  | .resume _ posts =>
    match call.stage with
    | .rejected => link.setCall id call.settle
    | .resuming => link.resumed options id call posts
    | _ => link
  | .started _ =>
    match call.stage with
    | .sent _ => link.setCall id (call.begun options.budgetFromStart)
    | _ => link
  | .reply _ | .messageError _ =>
    match call.stage with
    | .sent _ => link.setCall id call.settle
    | _ => link
  | .timeout _ =>
    match call.stage with
    | .sent worker =>
      if call.timer then
        let next := link.setCall id call.settle
        if options.terminateOnTimeout ∧ link.client = some worker then
          { next with restartingWorker := some worker }.stop
        else next
      else link
    | _ => link
  | _ => link

def step (options : RpcOptions) (link : WorkerRpcClient) (event : RpcEvent) : WorkerRpcClient :=
  match event with
  | .start spawns => (link.start spawns).1
  | .rpc spawns =>
    let (next, stage) := link.start spawns
    { next with calls := next.calls ++ [{ stage }] }
  | .workerReady worker =>
    if link.workers worker = .starting then
      { link with
        workers := Function.update link.workers worker .ready
        calls := link.endStart worker .resuming }
    else link
  | .workerError worker =>
    if link.workers worker = .starting then
      { link with
        workers := Function.update link.workers worker .failed
        client := link.client.filter (· ≠ worker)
        calls := link.endStart worker .rejected }
    else link
  | .exit worker spawns => if (link.workers worker).alive then link.exits worker spawns else link
  | .stop => link.stop
  | .resume id _ | .started id | .reply id | .messageError id | .timeout id =>
    match link.calls[id]? with
    | some call => link.stepCall options id call event
    | none => link

/-! ## The law of the calls -/

/-- Something is still to come that settles the call or sends it on. -/
def Kept (link : WorkerRpcClient) (call : PendingRpc) : Prop :=
  call.stage = .resuming ∨ call.stage = .rejected ∨
    ∃ worker, (call.stage = .starting worker ∨ call.stage = .sent worker) ∧
      (link.workers worker).alive = true

/-- A call is settled once or something is still to come for it, a call that was reported as
begun is not posted again, and no call is posted more than twice. -/
structure SettlesOnce (link : WorkerRpcClient) : Prop where
  once : ∀ call ∈ link.calls, call.settles ≤ 1
  kept : ∀ call ∈ link.calls, call.settles = 1 ∨ link.Kept call
  begun : ∀ call ∈ link.calls, ∀ posts ∈ call.reported, call.sends = posts
  resent : ∀ call ∈ link.calls, call.sends ≤ 1 + call.resent.toNat

/-- No call goes on after the client was stopped. -/
def NotStopped (link : WorkerRpcClient) : RpcEvent → Prop
  | .resume id _ => ∀ call ∈ link.calls[id]?, call.stage = .resuming → link.client.isSome = true
  | _ => True

end WorkerRpcClient

end Nightgate.Midnight
