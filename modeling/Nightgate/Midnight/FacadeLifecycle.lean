import Nightgate.Library.Fairness

/-!
# Wallets of the worker

A wallet is built on `init`, registered, and removed, saved and wiped on `evict`. A build is long:
a second `init` joins it, and an `evict` that comes meanwhile leaves a mark, on which the finished
wallet is wiped instead of registered. A build makes the keys, then the facade, and last starts it.
The worker runs one message or one settled promise at a time, with all that its promise callbacks
do.
-/

namespace Nightgate.Midnight.Facades

open Library

/-- Where the build that an `init` started is. -/
inductive BuildPhase where
  /-- Awaits `WalletFacade.init` or what comes before it. -/
  | building
  /-- There is a facade with its keys, and `facade.start` is awaited. -/
  | starting
  /-- Awaits `zeroEntry`, the session having been evicted. -/
  | discarding
  /-- Failed without a facade. -/
  | failed
  /-- `facade.start` threw. -/
  | startFailed
  | discarded
  /-- Registered. -/
  | finished
  deriving DecidableEq

/-- What an `evict` awaits. -/
inductive EvictPhase where
  /-- The periodic saves, for a bounded time. -/
  | saveLane
  | sessionLock
  /-- `collectSerializedStates`. -/
  | collecting
  /-- The confirmation of the last save. -/
  | saving
  /-- `zeroEntry`. -/
  | wiping
  | finished
  deriving DecidableEq

structure Eviction where
  caller : Nat
  awaitSaveAck : Bool
  saved : Bool
  phase : EvictPhase

/-- What an eviction does next; a failed last save does not keep the keys. -/
def Eviction.next (eviction : Eviction) (succeeds changed : Bool) : Eviction :=
  match eviction.phase with
  | .saveLane => { eviction with phase := .sessionLock }
  | .sessionLock => { eviction with phase := .collecting }
  | .collecting =>
    if succeeds && changed && eviction.awaitSaveAck then { eviction with phase := .saving }
    else { eviction with saved := succeeds, phase := .wiping }
  | .saving => { eviction with saved := succeeds, phase := .wiping }
  | .wiping => { eviction with phase := .finished }
  | .finished => eviction

inductive Reply where
  /-- The wallet of this build may be used. -/
  | ready (entry : Nat) (alreadyExisted : Bool)
  | buildFailed
  /-- `Session … was evicted while its wallet was being built`. -/
  | evictedWhileBuilding
  | evicted (saved : Bool)
  | notEvicted

/-- A wallet, from the `init` that starts its build. -/
structure Wallet (Session : Type) where
  session : Session
  phase : BuildPhase
  /-- The calls that joined the build. -/
  joined : List Nat
  /-- The `evict` that took it out. It is the only one, since a wallet is registered once. -/
  eviction : Option Eviction
  /-- `zeroEntry` has cleared the keys. -/
  cleared : Bool

/-- The worker's registry. Calls are numbered, and a wallet has the number of the `init` that builds
it. -/
structure Registry (Session : Type) where
  facades : Session → Option Nat
  buildsInFlight : Session → Option Nat
  evictedWhileBuilding : Session → Bool
  wallets : Nat → Option (Wallet Session)
  nextCall : Nat

inductive Event (Session : Type) where
  | init (session : Session)
  /-- `WalletFacade.init` gives a facade. -/
  | made (build : Nat)
  /-- `buildFacade` returns or throws; it returns when `facade.start` has. -/
  | built (build : Nat) (succeeds : Bool)
  /-- `zeroEntry` of a build that is discarded ends. -/
  | discarded (build : Nat)
  | evict (session : Session) (awaitSaveAck : Bool)
  /-- What the eviction of a wallet awaits settles; `changed`: there is something to save. -/
  | proceed (entry : Nat) (succeeds changed : Bool)

variable {Session : Type} [DecidableEq Session]

namespace Registry

def start : Registry Session where
  facades _ := none
  buildsInFlight _ := none
  evictedWhileBuilding _ := false
  wallets _ := none
  nextCall := 0

/-- A change of one wallet. -/
def onWallet (r : Registry Session) (entry : Nat) (change : Wallet Session → Wallet Session) :
    Registry Session :=
  { r with
    wallets := fun other =>
      if other = entry then (r.wallets other).map change else r.wallets other }

/-- `facades.set` and `facades.delete`. -/
def register (r : Registry Session) (session : Session) (entry : Option Nat) : Registry Session :=
  { r with facades := fun other => if other = session then entry else r.facades other }

/-- `buildsInFlight.set` and `buildsInFlight.delete`. -/
def track (r : Registry Session) (session : Session) (build : Option Nat) : Registry Session :=
  { r with
    buildsInFlight := fun other => if other = session then build else r.buildsInFlight other }

/-- `evictedWhileBuilding.add` and `evictedWhileBuilding.delete`. -/
def mark (r : Registry Session) (session : Session) (marked : Bool) : Registry Session :=
  { r with
    evictedWhileBuilding := fun other =>
      if other = session then marked else r.evictedWhileBuilding other }

def init (r : Registry Session) (session : Session) : Registry Session × List (Nat × Reply) :=
  let caller := r.nextCall
  let called := { r with nextCall := caller + 1 }
  match r.facades session with
  | some entry => (called, [(caller, .ready entry true)])
  | none =>
    match r.buildsInFlight session with
    | some running =>
      (called.onWallet running fun w => { w with joined := w.joined ++ [caller] }, [])
    | none =>
      let wallet : Wallet Session := ⟨session, .building, [], none, false⟩
      ({ (called.mark session false).track session (some caller) with
          wallets := fun other => if other = caller then some wallet else r.wallets other }, [])

/-- The answers to the `init` that started a build and to those that joined it. -/
def answers (entry : Nat) (joined : List Nat) (first later : Reply) : List (Nat × Reply) :=
  (entry, first) :: joined.map fun caller => (caller, later)

def made (r : Registry Session) (entry : Nat) : Registry Session × List (Nat × Reply) :=
  match r.wallets entry with
  | some ⟨_, .building, _, _, _⟩ => (r.onWallet entry fun w => { w with phase := .starting }, [])
  | _ => (r, [])

/-- `buildFacade` has thrown. It has no `catch`, and `init` has no entry whose keys to clear. -/
def buildThrows (r : Registry Session) (entry : Nat) (session : Session) (joined : List Nat)
    (phase : BuildPhase) : Registry Session × List (Nat × Reply) :=
  ((r.onWallet entry fun w => { w with phase := phase }).track session none,
    answers entry joined .buildFailed .buildFailed)

def built (r : Registry Session) (entry : Nat) (succeeds : Bool) :
    Registry Session × List (Nat × Reply) :=
  match r.wallets entry with
  | some ⟨session, .building, joined, _, _⟩ =>
    if succeeds then (r, []) else r.buildThrows entry session joined .failed
  | some ⟨session, .starting, joined, _, _⟩ =>
    if !succeeds then r.buildThrows entry session joined .startFailed
    else if r.evictedWhileBuilding session then
      -- `zeroEntry` clears the keys at once and then awaits the stop
      ((r.onWallet entry fun w => { w with phase := .discarding, cleared := true }).mark session
        false, [])
    else
      (((r.onWallet entry fun w => { w with phase := .finished }).register session
          (some entry)).track session none,
        answers entry joined (.ready entry false) (.ready entry true))
  | _ => (r, [])

def discarded (r : Registry Session) (entry : Nat) : Registry Session × List (Nat × Reply) :=
  match r.wallets entry with
  | some ⟨session, .discarding, joined, _, _⟩ =>
    ((r.onWallet entry fun w => { w with phase := .discarded }).track session none,
      answers entry joined .evictedWhileBuilding .evictedWhileBuilding)
  | _ => (r, [])

def evict (r : Registry Session) (session : Session) (awaitSaveAck : Bool) :
    Registry Session × List (Nat × Reply) :=
  let caller := r.nextCall
  let called := { r with nextCall := caller + 1 }
  match r.facades session with
  | none =>
    if (r.buildsInFlight session).isNone then (called, [(caller, .notEvicted)])
    else (called.mark session true, [(caller, .evicted false)])
  | some entry =>
    -- removed first, so no new submit finds the wallet
    ((called.register session none).onWallet entry fun w =>
      { w with eviction := some ⟨caller, awaitSaveAck, true, .saveLane⟩ }, [])

def proceed (r : Registry Session) (entry : Nat) (succeeds changed : Bool) :
    Registry Session × List (Nat × Reply) :=
  match (r.wallets entry).bind Wallet.eviction with
  | none => (r, [])
  | some eviction =>
    let next := eviction.next succeeds changed
    (r.onWallet entry fun w =>
        { w with eviction := some next, cleared := w.cleared || next.phase = .wiping },
      if eviction.phase = .wiping then [(eviction.caller, .evicted eviction.saved)] else [])

def handle (r : Registry Session) : Event Session → Registry Session × List (Nat × Reply)
  | .init session => r.init session
  | .made build => r.made build
  | .built build succeeds => r.built build succeeds
  | .discarded build => r.discarded build
  | .evict session awaitSaveAck => r.evict session awaitSaveAck
  | .proceed entry succeeds changed => r.proceed entry succeeds changed

def step (r : Registry Session) (event : Event Session) : Registry Session :=
  (r.handle event).1

end Registry

end Nightgate.Midnight.Facades
