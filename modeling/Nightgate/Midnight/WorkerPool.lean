import Nightgate.Library.Machine

/-!
# The pool of wallet workers

The main thread sends a call on a wallet to the worker slot of its facade key: a slot of its
own for a sponsor that was assigned one, and else the user slot its hash picks. A slot has one
worker thread at a time; a crashed or rotated one is replaced by the next call. What a worker
holds the main thread knows from progress reports only, which arrive some time later.
-/

namespace Nightgate.Midnight

open Library

inductive SponsorWorkersMode where
  | shared
  | dedicated
  deriving DecidableEq

structure WalletWorkerPoolConfig where
  /-- `NIGHTGATE_WALLET_WORKERS`. -/
  walletWorkers : Nat
  sponsorWorkers : SponsorWorkersMode

def DEFAULT_SLOT : String := "user-0"

/-- The UTF-16 code units of a text. -/
def charCodes (text : String) : List UInt32 :=
  text.toList.flatMap fun c =>
    if c.toNat < 0x10000 then [UInt32.ofNat c.toNat]
    else
      [UInt32.ofNat (0xD800 + (c.toNat - 0x10000) / 0x400),
        UInt32.ofNat (0xDC00 + (c.toNat - 0x10000) % 0x400)]

/-- FNV-1a. -/
def hashKey (key : String) : UInt32 :=
  (charCodes key).foldl (fun h code => (h ^^^ code) * 0x01000193) 0x811c9dc5

/-- A text that is there and not empty. -/
def nonEmpty : Option String → Option String
  | some text => if text = "" then none else some text
  | none => none

/-- The slot of a wallet, given the dedicated ones. -/
def workerIdFor (config : WalletWorkerPoolConfig) (dedicated : List String)
    (facadeKey : Option String) : String :=
  match nonEmpty facadeKey with
  | none => DEFAULT_SLOT
  | some key =>
    if key ∈ dedicated then "sponsor-" ++ String.ofList (key.toList.take 16)
    else
      let n := max 1 config.walletWorkers
      if n ≤ 1 then DEFAULT_SLOT else "user-" ++ toString ((hashKey key).toNat % n)

/-- The wallets a call names. -/
structure RpcArgs where
  sessionId : Option String
  sponsorSessionId : Option String
  deriving DecidableEq

def RpcArgs.named (args : RpcArgs) : List String :=
  (nonEmpty args.sessionId).toList ++ (nonEmpty args.sponsorSessionId).toList

/-- The wallet a call works on: the caller's, else the sponsor's. -/
def facadeKeyOf (args : RpcArgs) : Option String :=
  match nonEmpty args.sessionId with
  | some key => some key
  | none => nonEmpty args.sponsorSessionId

/-- `assertSameWorker` does not throw. -/
def assertSameWorker (config : WalletWorkerPoolConfig) (dedicated : List String)
    (args : RpcArgs) : Bool :=
  match args.sessionId, nonEmpty args.sponsorSessionId with
  | some session, some sponsor =>
    workerIdFor config dedicated (some session) = workerIdFor config dedicated (some sponsor)
  | _, _ => true

inductive WorkerMethod where
  | init
  | evict
  | shutdown
  /-- A call on wallets that are loaded; it may send a transaction. -/
  | wallet (submitting : Bool)
  deriving DecidableEq

structure PostedCall where
  method : WorkerMethod
  args : RpcArgs
  deriving DecidableEq

inductive WorkerMessage where
  | syncProgress (sessionId : String)
  | rotating
  | rotationDone
  | exit
  deriving DecidableEq

structure WorkerThread where
  slot : String
  alive : Bool
  draining : Bool
  inbox : List PostedCall
  facades : List String
  /-- Evicted wallets that no call finds any more. They live on until the final save is over and
  their keys are wiped. -/
  leaving : List String
  /-- `buildsInFlight`. -/
  building : List String
  evictedWhileBuilding : List String
  outbox : List WorkerMessage
  deriving DecidableEq

/-- The worker has the wallet, is still unloading it, or is building it. -/
def WorkerThread.holds (thread : WorkerThread) (key : String) : Prop :=
  key ∈ thread.facades ∨ key ∈ thread.leaving ∨ key ∈ thread.building

/-- The worker holds the wallet, or is about to build it. -/
def WorkerThread.touches (thread : WorkerThread) (key : String) : Prop :=
  thread.holds key ∨ ∃ posted ∈ thread.inbox, posted.method = .init ∧
    posted.args.sessionId = some key

instance (thread : WorkerThread) (key : String) : Decidable (thread.touches key) := by
  unfold WorkerThread.touches WorkerThread.holds
  infer_instance

/-- The worker runs a call if it takes calls and finds every wallet that the call names. -/
def WorkerThread.runs (thread : WorkerThread) (posted : PostedCall) : Bool :=
  !thread.draining && posted.args.named.all (· ∈ thread.facades)

structure WorkerSlot where
  worker : Option Nat
  rotationAnnouncedBy : Option Nat
  drainingWorker : Option Nat
  stoppingWorker : Option Nat

inductive CallPhase where
  /-- `waitForDrainingWorker`. -/
  | waiting
  /-- Awaits `startWorkerSlot`. -/
  | starting
  | posted
  | settled
  deriving DecidableEq

structure Call where
  method : WorkerMethod
  args : RpcArgs
  slot : String
  attempt : Nat
  phase : CallPhase

structure WalletPool where
  dedicatedFacades : List String
  sessionWorker : String → Option String
  slots : String → WorkerSlot
  workers : Nat → Option WorkerThread
  nextWorker : Nat
  calls : Nat → Option Call
  nextCall : Nat
  everStarted : Bool

def WalletPool.start : WalletPool where
  dedicatedFacades := []
  sessionWorker := fun _ => none
  slots := fun _ => ⟨none, none, none, none⟩
  workers := fun _ => none
  nextWorker := 0
  calls := fun _ => none
  nextCall := 0
  everStarted := false

inductive CallReply where
  /-- The call is over, with a result or an error, or no answer came in time. -/
  | answered
  /-- The worker refused the call: it rotates. -/
  | rotating
  /-- The worker rotated while the call was running. -/
  | rotated
  deriving DecidableEq

inductive PoolEvent where
  | assignDedicatedWorker (facadeKey : String)
  | rpc (method : WorkerMethod) (args : RpcArgs)
  /-- A call is past the wait for a draining worker. -/
  | proceed (call : Nat)
  | started (call : Nat)
  | settle (call : Nat) (reply : CallReply)
  | handle (worker : Nat)
  | built (worker : Nat) (sessionId : String) (ok : Bool)
  /-- An eviction is over. -/
  | unloaded (worker : Nat) (sessionId : String)
  | report (worker : Nat) (sessionId : String)
  | rotate (worker : Nat)
  /-- `evictAllFacades`, of a rotation or a shutdown. -/
  | evictAll (worker : Nat)
  | rotationDone (worker : Nat)
  /-- The thread ends: it crashed, or was terminated. -/
  | die (worker : Nat)
  | deliver (worker : Nat)
  | startWalletWorker
  | stopWalletWorker
  | postShutdown (slot : String)
  /-- `stopWorkerSlot` gives the worker up and terminates it. -/
  | stopWorkerSlot (slot : String)
  | stopped (slot : String)

namespace WalletPool

/-! ## The main thread -/

def setSlot (s : WalletPool) (id : String) (slot : WorkerSlot) : WalletPool :=
  { s with slots := Function.update s.slots id slot }

def setCall (s : WalletPool) (id : Nat) (call : Call) : WalletPool :=
  { s with calls := Function.update s.calls id (some call) }

def setWorker (s : WalletPool) (id : Nat) (thread : WorkerThread) : WalletPool :=
  { s with workers := Function.update s.workers id (some thread) }

def assignDedicatedWorker (config : WalletWorkerPoolConfig) (s : WalletPool)
    (facadeKey : String) : WalletPool :=
  if config.sponsorWorkers ≠ .dedicated then s
  else if facadeKey ∈ s.dedicatedFacades then s
  else if (s.sessionWorker facadeKey).isSome then s
  else { s with dedicatedFacades := facadeKey :: s.dedicatedFacades }

/-- `startWorkerSlot`, up to the wait for `ready`. -/
def startWorkerSlot (s : WalletPool) (id : String) : WalletPool :=
  let slot := s.slots id
  match slot.worker with
  | some _ => s
  | none =>
    { s with everStarted := true, nextWorker := s.nextWorker + 1 }.setSlot id
      { slot with worker := some s.nextWorker }
    |>.setWorker s.nextWorker ⟨id, true, false, [], [], [], [], [], []⟩

/-- `rpc`: refused, or under way to the slot of its wallet. -/
def rpc (config : WalletWorkerPoolConfig) (s : WalletPool) (method : WorkerMethod)
    (args : RpcArgs) : WalletPool :=
  if assertSameWorker config s.dedicatedFacades args then
    { s with nextCall := s.nextCall + 1 }.setCall s.nextCall
      ⟨method, args, workerIdFor config s.dedicatedFacades (facadeKeyOf args), 0, .waiting⟩
  else s

def post (s : WalletPool) (id : Nat) (call : Call) (worker : Nat) : WalletPool :=
  let posted := s.setCall id { call with phase := .posted }
  match s.workers worker with
  | some thread =>
    if thread.alive then
      posted.setWorker worker { thread with inbox := thread.inbox ++ [⟨call.method, call.args⟩] }
    else posted
  | none => posted

def forgetSession (s : WalletPool) (sessionId : String) : WalletPool :=
  { s with sessionWorker := Function.update s.sessionWorker sessionId none }

def forgetWorkerSessions (s : WalletPool) (slotId : String) : WalletPool :=
  { s with
    sessionWorker := fun sessionId =>
      if s.sessionWorker sessionId = some slotId then none else s.sessionWorker sessionId }

/-- The call is over; `walletEvict` forgets the session whatever came of it. -/
def finish (s : WalletPool) (id : Nat) (call : Call) : WalletPool :=
  let settled := s.setCall id { call with phase := .settled }
  match call.method, call.args.sessionId with
  | .evict, some sessionId => settled.forgetSession sessionId
  | _, _ => settled

def proceed (s : WalletPool) (id : Nat) : WalletPool :=
  match s.calls id with
  | some call =>
    if call.phase = .waiting ∧ (s.slots call.slot).drainingWorker = none then
      match (s.slots call.slot).worker with
      | some worker => s.post id call worker
      | none =>
        if s.everStarted then
          (s.startWorkerSlot call.slot).setCall id { call with phase := .starting }
        else s.finish id call
    else s
  | none => s

def started (s : WalletPool) (id : Nat) : WalletPool :=
  match s.calls id with
  | some call =>
    if call.phase = .starting then
      match (s.slots call.slot).worker with
      | some worker => s.post id call worker
      | none => s.finish id call
    else s
  | none => s

def isSubmittingMethod : WorkerMethod → Bool
  | .wallet submitting => submitting
  | _ => false

/-- The reply to a posted call. A refusal of the first attempt, and the loss of a call that
sends nothing, lead to a second attempt. -/
def settle (s : WalletPool) (id : Nat) (reply : CallReply) : WalletPool :=
  match s.calls id with
  | some call =>
    if call.phase = .posted then
      match reply with
      | .answered => s.finish id call
      | .rotating =>
        if call.attempt = 0 then
          let slot := s.slots call.slot
          (s.setSlot call.slot { slot with
            drainingWorker := slot.drainingWorker.or slot.worker }).setCall id
              { call with attempt := 1, phase := .waiting }
        else s.finish id call
      | .rotated =>
        if call.attempt = 0 ∧ isSubmittingMethod call.method = false then
          s.setCall id { call with attempt := 1, phase := .waiting }
        else s.finish id call
    else s
  | none => s

/-- The main thread takes the next message of a worker. -/
def deliver (s : WalletPool) (worker : Nat) : WalletPool :=
  match s.workers worker with
  | some thread =>
    match thread.outbox with
    | [] => s
    | message :: rest =>
      let s := s.setWorker worker { thread with outbox := rest }
      let slot := s.slots thread.slot
      match message with
      | .syncProgress sessionId =>
        { s with
          sessionWorker := Function.update s.sessionWorker sessionId (some thread.slot) }
      | .rotating | .rotationDone =>
        s.setSlot thread.slot { slot with
          rotationAnnouncedBy := some worker
          drainingWorker := some worker }
      | .exit =>
        s.setSlot thread.slot {
          worker := if slot.worker = some worker then none else slot.worker
          drainingWorker :=
            if slot.drainingWorker = some worker then none else slot.drainingWorker
          rotationAnnouncedBy :=
            if slot.rotationAnnouncedBy = some worker then none
            else slot.rotationAnnouncedBy
          stoppingWorker :=
            if slot.stoppingWorker = some worker then none else slot.stoppingWorker }
        |>.forgetWorkerSessions thread.slot
  | none => s

def postShutdown (s : WalletPool) (id : String) : WalletPool :=
  match (s.slots id).worker with
  | some worker =>
    match s.workers worker with
    | some thread =>
      if thread.alive then
        s.setWorker worker { thread with inbox := thread.inbox ++ [⟨.shutdown, none, none⟩] }
      else s
    | none => s
  | none => s

def stopWorkerSlot (s : WalletPool) (id : String) : WalletPool :=
  let slot := s.slots id
  match slot.worker with
  | some worker => s.setSlot id { slot with worker := none, stoppingWorker := some worker }
  | none => s

end WalletPool

/-- A worker takes the next call. -/
def WorkerThread.handle (thread : WorkerThread) : WorkerThread :=
  match thread.inbox with
  | [] => thread
  | posted :: rest =>
    let thread := { thread with inbox := rest }
    if thread.draining then thread
    else
      match posted.method, posted.args.sessionId with
      | .init, some sessionId =>
        if sessionId ∈ thread.facades ∨ sessionId ∈ thread.building then thread
        else
          { thread with
            building := sessionId :: thread.building
            evictedWhileBuilding := thread.evictedWhileBuilding.filter (· ≠ sessionId) }
      | .evict, some sessionId =>
        if sessionId ∈ thread.facades then
          { thread with
            facades := thread.facades.filter (· ≠ sessionId)
            leaving := sessionId :: thread.leaving }
        else if sessionId ∈ thread.building then
          { thread with
            evictedWhileBuilding := sessionId :: thread.evictedWhileBuilding }
        else thread
      | .shutdown, _ => { thread with draining := true }
      | _, _ => thread

/-- A wallet build ends; a wallet that was evicted meanwhile is thrown away. -/
def WorkerThread.built (thread : WorkerThread) (sessionId : String) (ok : Bool) :
    WorkerThread :=
  if sessionId ∈ thread.building then
    let thread := { thread with building := thread.building.filter (· ≠ sessionId) }
    if ok then
      if sessionId ∈ thread.evictedWhileBuilding then
        { thread with
          evictedWhileBuilding := thread.evictedWhileBuilding.filter (· ≠ sessionId) }
      else { thread with facades := sessionId :: thread.facades }
    else thread
  else thread

/-- The lock of the session, the final save and the wiping of the keys are behind an eviction. -/
def WorkerThread.unloaded (thread : WorkerThread) (sessionId : String) : WorkerThread :=
  { thread with leaving := thread.leaving.erase sessionId }

def WorkerThread.report (thread : WorkerThread) (sessionId : String) : WorkerThread :=
  if sessionId ∈ thread.facades then
    { thread with outbox := thread.outbox ++ [.syncProgress sessionId] }
  else thread

def WorkerThread.rotate (thread : WorkerThread) : WorkerThread :=
  { thread with draining := true, outbox := thread.outbox ++ [.rotating] }

def WorkerThread.evictAll (thread : WorkerThread) : WorkerThread :=
  if thread.draining then
    { thread with facades := [], leaving := thread.facades ++ thread.leaving }
  else thread

def WorkerThread.rotationDone (thread : WorkerThread) : WorkerThread :=
  if thread.draining then { thread with outbox := thread.outbox ++ [.rotationDone] } else thread

def WorkerThread.die (thread : WorkerThread) : WorkerThread :=
  { thread with
    alive := false
    inbox := []
    facades := []
    leaving := []
    building := []
    outbox := thread.outbox ++ [.exit] }

namespace WalletPool

/-- A live worker does something on its own. -/
def onWorker (s : WalletPool) (worker : Nat) (act : WorkerThread → WorkerThread) : WalletPool :=
  match s.workers worker with
  | some thread => if thread.alive then s.setWorker worker (act thread) else s
  | none => s

def step (config : WalletWorkerPoolConfig) (s : WalletPool) : PoolEvent → WalletPool
  | .assignDedicatedWorker facadeKey => s.assignDedicatedWorker config facadeKey
  | .rpc method args => s.rpc config method args
  | .proceed call => s.proceed call
  | .started call => s.started call
  | .settle call reply => s.settle call reply
  | .handle worker => s.onWorker worker .handle
  | .built worker sessionId ok => s.onWorker worker fun thread => thread.built sessionId ok
  | .unloaded worker sessionId => s.onWorker worker fun thread => thread.unloaded sessionId
  | .report worker sessionId => s.onWorker worker fun thread => thread.report sessionId
  | .rotate worker => s.onWorker worker .rotate
  | .evictAll worker => s.onWorker worker .evictAll
  | .rotationDone worker => s.onWorker worker .rotationDone
  | .die worker => s.onWorker worker .die
  | .deliver worker => s.deliver worker
  | .startWalletWorker => s.startWorkerSlot DEFAULT_SLOT
  | .stopWalletWorker => { s with everStarted := false }
  | .postShutdown slot => s.postShutdown slot
  | .stopWorkerSlot slot => s.stopWorkerSlot slot
  | .stopped slot => s.forgetWorkerSessions slot

end WalletPool

end Nightgate.Midnight
