import Nightgate.Library.Pointwise
import Nightgate.Midnight.WorkerPool

/-!
# One worker a wallet

A wallet does not move, so its key must not change its slot while the wallet is loaded, is
being loaded, or a call on it is under way. A dedicated slot is the one thing that changes it.
-/

namespace Nightgate.Midnight

open Library

section Keys

variable {config : WalletWorkerPoolConfig} {dedicated : List String}

@[simp] theorem nonEmpty_empty : nonEmpty (some "") = none := rfl

theorem nonEmpty_some {text : String} (there : text ≠ "") : nonEmpty (some text) = some text :=
  if_neg there

/-- A slot of its own for one wallet moves no other. -/
theorem workerIdFor_assigned {key other : String} (different : other ≠ key) :
    workerIdFor config (key :: dedicated) (some other) =
      workerIdFor config dedicated (some other) := by
  unfold workerIdFor
  by_cases empty : other = ""
  · rw [empty, nonEmpty_empty]
  · rw [nonEmpty_some empty]
    simp only [List.mem_cons, different, false_or]

/-- The call is on the wallet. -/
def RpcArgs.Concerns (args : RpcArgs) (key : String) : Prop :=
  args.sessionId = some key ∨ nonEmpty args.sponsorSessionId = some key

instance (args : RpcArgs) (key : String) : Decidable (args.Concerns key) :=
  inferInstanceAs (Decidable (_ ∨ _))

/-- A call that is not refused goes to the slot of every wallet it is on. -/
theorem workerIdFor_facadeKeyOf {args : RpcArgs} {key : String}
    (same : assertSameWorker config dedicated args = true) (concerns : args.Concerns key) :
    workerIdFor config dedicated (some key) = workerIdFor config dedicated (facadeKeyOf args) := by
  rcases args with ⟨session, sponsor⟩
  unfold RpcArgs.Concerns at concerns
  dsimp only at concerns
  unfold assertSameWorker at same
  unfold facadeKeyOf
  rcases concerns with isSession | isSponsor
  · rw [isSession] at same ⊢
    by_cases empty : key = ""
    · rw [empty] at same ⊢
      rw [nonEmpty_empty]
      cases paying : nonEmpty sponsor with
      | none => rfl
      | some sponsor => simpa only [paying, decide_eq_true_eq] using same
    · rw [nonEmpty_some empty]
  · rw [isSponsor] at same ⊢
    cases session with
    | none => rfl
    | some session =>
      simp only [decide_eq_true_eq] at same
      by_cases empty : session = ""
      · rw [empty, nonEmpty_empty]
      · rw [nonEmpty_some empty]
        exact same.symm

end Keys

/-! ## What holds in every state -/

namespace WalletPool

/-- A live worker holds wallets of its own slot only, and a slot has one live worker. -/
structure Routed (config : WalletWorkerPoolConfig) (s : WalletPool) : Prop where
  known : ∀ id thread, s.workers id = some thread → id < s.nextWorker
  knownCall : ∀ id call, s.calls id = some call → id < s.nextCall
  alone : ∀ id thread other otherThread, s.workers id = some thread →
    s.workers other = some otherThread → thread.alive = true → otherThread.alive = true →
      thread.slot = otherThread.slot → id = other
  current : ∀ slotId id, (s.slots slotId).worker = some id → ∃ thread,
    s.workers id = some thread ∧ thread.slot = slotId ∧
      ∀ other otherThread, s.workers other = some otherThread → otherThread.alive = true →
        otherThread.slot = slotId → other = id
  touched : ∀ id thread key, s.workers id = some thread → thread.alive = true →
    thread.touches key → workerIdFor config s.dedicatedFacades (some key) = thread.slot
  underWay : ∀ id call key, s.calls id = some call → call.phase ≠ .settled →
    call.args.Concerns key → workerIdFor config s.dedicatedFacades (some key) = call.slot

/-- What a worker becomes without a wallet of another slot. -/
structure Acted (config : WalletWorkerPoolConfig) (dedicated : List String)
    (thread acted : WorkerThread) : Prop where
  slot : acted.slot = thread.slot
  alive : acted.alive = true → thread.alive = true
  touches : ∀ key, acted.alive = true → acted.touches key →
    thread.touches key ∨ workerIdFor config dedicated (some key) = thread.slot

section Steps

variable {config : WalletWorkerPoolConfig} {s later : WalletPool}

section Routed

variable (routed : s.Routed config)

include routed

theorem Routed.acted {id : Nat} {thread acted : WorkerThread}
    (found : s.workers id = some thread) (acts : Acted config s.dedicatedFacades thread acted) :
    (s.setWorker id acted).Routed config := by
  have before : ∀ other otherThread, (s.setWorker id acted).workers other = some otherThread →
      ∃ old, s.workers other = some old ∧ Acted config s.dedicatedFacades old otherThread := by
    intro other otherThread isThread
    simp only [setWorker] at isThread
    rcases mem_update isThread with ⟨rfl, ⟨⟩⟩ | ⟨same, isThread⟩
    · exact ⟨thread, found, acts⟩
    · exact ⟨otherThread, isThread, rfl, fun alive => alive, fun _ _ touches => Or.inl touches⟩
  constructor
  · intro other otherThread isThread
    rcases before other otherThread isThread with ⟨old, wasThread, _⟩
    exact routed.known other old wasThread
  · exact routed.knownCall
  · intro first firstThread second secondThread isFirst isSecond alive otherAlive sameSlot
    rcases before first firstThread isFirst with ⟨old, wasFirst, firstActs⟩
    rcases before second secondThread isSecond with ⟨other, wasSecond, secondActs⟩
    apply routed.alone first old second other wasFirst wasSecond (firstActs.alive alive)
      (secondActs.alive otherAlive)
    rw [← firstActs.slot, ← secondActs.slot, sameSlot]
  · intro slotId worker isWorker
    rcases routed.current slotId worker isWorker with ⟨old, wasThread, wasSlot, only⟩
    have still : ∃ now, (s.setWorker id acted).workers worker = some now ∧ now.slot = old.slot := by
      simp only [setWorker]
      by_cases same : worker = id
      · rw [same, found] at wasThread
        cases wasThread
        rw [same, Function.update_self]
        exact ⟨acted, rfl, acts.slot⟩
      · rw [Function.update_of_ne same]
        exact ⟨old, wasThread, rfl⟩
    rcases still with ⟨now, isNow, sameSlot⟩
    refine ⟨now, isNow, sameSlot.trans wasSlot, ?_⟩
    intro other otherThread isThread alive slot
    rcases before other otherThread isThread with ⟨old, wasOther, otherActs⟩
    exact only other old wasOther (otherActs.alive alive) (otherActs.slot.symm.trans slot)
  · intro other otherThread key isThread alive touches
    rcases before other otherThread isThread with ⟨old, wasThread, otherActs⟩
    rw [otherActs.slot]
    rcases otherActs.touches key alive touches with touched | ownSlot
    · exact routed.touched other old key wasThread (otherActs.alive alive) touched
    · exact ownSlot
  · exact routed.underWay

/-- The slots may lose their workers, whatever the main thread records beside them. -/
theorem Routed.slots (dedicated : later.dedicatedFacades = s.dedicatedFacades)
    (slots : ∀ slotId id, (later.slots slotId).worker = some id → (s.slots slotId).worker = some id)
    (workers : later.workers = s.workers) (nextWorker : later.nextWorker = s.nextWorker)
    (calls : later.calls = s.calls) (nextCall : later.nextCall = s.nextCall) :
    later.Routed config := by
  constructor
  · rw [workers, nextWorker]
    exact routed.known
  · rw [calls, nextCall]
    exact routed.knownCall
  · rw [workers]
    exact routed.alone
  · intro slotId id isWorker
    rw [workers]
    exact routed.current slotId id (slots slotId id isWorker)
  · rw [workers, dedicated]
    exact routed.touched
  · rw [calls, dedicated]
    exact routed.underWay

theorem Routed.setSlot {slotId : String} {slot : WorkerSlot}
    (worker : ∀ id, slot.worker = some id → (s.slots slotId).worker = some id) :
    (s.setSlot slotId slot).Routed config := by
  refine routed.slots rfl ?_ rfl rfl rfl rfl
  intro other id isWorker
  simp only [WalletPool.setSlot] at isWorker
  by_cases own : other = slotId
  · rw [own, Function.update_self] at isWorker
    rw [own]
    exact worker id isWorker
  · rw [Function.update_of_ne own] at isWorker
    exact isWorker

/-- A call goes on, to the slot it was for. -/
theorem Routed.call {id : Nat} {call : Call} (found : s.calls id = some call) (phase : CallPhase)
    (attempt : Nat) (stillOpen : phase ≠ .settled → call.phase ≠ .settled) :
    (s.setCall id { call with attempt, phase }).Routed config := by
  constructor
  · exact routed.known
  · intro other otherCall isCall
    simp only [setCall] at isCall
    by_cases same : other = id
    · rw [same]
      exact routed.knownCall id call found
    · rw [Function.update_of_ne same] at isCall
      exact routed.knownCall other otherCall isCall
  · exact routed.alone
  · exact routed.current
  · exact routed.touched
  · intro other otherCall key isCall unsettled concerns
    simp only [setCall] at isCall
    by_cases same : other = id
    · rw [same, Function.update_self] at isCall
      cases isCall
      exact routed.underWay id call key found (stillOpen unsettled) concerns
    · rw [Function.update_of_ne same] at isCall
      exact routed.underWay other otherCall key isCall unsettled concerns

theorem Routed.post {id : Nat} {call : Call}
    (found : s.calls id = some call) (unsettled : call.phase ≠ .settled) {worker : Nat}
    (current : (s.slots call.slot).worker = some worker) :
    (s.post id call worker).Routed config := by
  have posted := routed.call found .posted call.attempt fun _ => unsettled
  simp only [WalletPool.post]
  split
  next thread isThread =>
    split
    next alive =>
      apply posted.acted isThread
      constructor
      · rfl
      · exact fun _ => alive
      · intro key _ touches
        rcases touches with holds | ⟨other, listed, isInit, isKey⟩
        · exact Or.inl (Or.inl holds)
        · rcases List.mem_append.1 listed with before | new
          · exact Or.inl (Or.inr ⟨other, before, isInit, isKey⟩)
          · rw [List.mem_singleton] at new
            rw [new] at isKey
            right
            rcases routed.current call.slot worker current with ⟨same, isSame, slot, _⟩
            rw [isThread] at isSame
            cases isSame
            rw [slot]
            exact routed.underWay id call key found unsettled (Or.inl isKey)
    · exact posted
  · exact posted

theorem Routed.finish {id : Nat} {call : Call}
    (found : s.calls id = some call) : (s.finish id call).Routed config := by
  have settled := routed.call found .settled call.attempt fun impossible => absurd rfl impossible
  simp only [WalletPool.finish]
  split
  · exact settled.slots rfl (fun _ _ same => same) rfl rfl rfl rfl
  · exact settled

/-- A slot without a live worker gets one. -/
theorem Routed.startWorkerSlot {slotId : String}
    (free : (s.slots slotId).worker = none → ∀ id thread, s.workers id = some thread →
      thread.slot = slotId → thread.alive = false) : (s.startWorkerSlot slotId).Routed config := by
  simp only [WalletPool.startWorkerSlot]
  split
  · exact routed
  next noWorker =>
    have noLive := free noWorker
    have newThread : ∀ id thread, Function.update s.workers s.nextWorker
          (some ⟨slotId, true, false, [], [], [], [], [], []⟩) id = some thread →
        (id = s.nextWorker ∧ thread = ⟨slotId, true, false, [], [], [], [], [], []⟩) ∨
          (id ≠ s.nextWorker ∧ s.workers id = some thread) := by
      intro id thread isThread
      by_cases new : id = s.nextWorker
      · rw [new, Function.update_self] at isThread
        cases isThread
        exact Or.inl ⟨new, rfl⟩
      · rw [Function.update_of_ne new] at isThread
        exact Or.inr ⟨new, isThread⟩
    constructor
    · intro id thread isThread
      rcases newThread id thread isThread with ⟨new, _⟩ | ⟨_, old⟩
      · rw [new]
        exact Nat.lt_succ_self _
      · exact Nat.lt_succ_of_lt (routed.known id thread old)
    · exact routed.knownCall
    · intro id thread other otherThread isThread isOther alive otherAlive sameSlot
      rcases newThread id thread isThread with ⟨new, rfl⟩ | ⟨_, old⟩
      · rcases newThread other otherThread isOther with ⟨otherNew, _⟩ | ⟨_, otherOld⟩
        · rw [new, otherNew]
        · rw [noLive other otherThread otherOld sameSlot.symm] at otherAlive
          cases otherAlive
      · rcases newThread other otherThread isOther with ⟨_, rfl⟩ | ⟨_, otherOld⟩
        · rw [noLive id thread old sameSlot] at alive
          cases alive
        · exact routed.alone id thread other otherThread old otherOld alive otherAlive sameSlot
    · intro other worker isWorker
      simp only [WalletPool.setSlot, setWorker] at isWorker ⊢
      by_cases own : other = slotId
      · rw [own, Function.update_self] at isWorker
        cases isWorker
        rw [Function.update_self]
        refine ⟨_, rfl, own.symm, ?_⟩
        intro id thread isThread alive slot
        rcases newThread id thread isThread with ⟨new, _⟩ | ⟨_, old⟩
        · exact new
        · rw [noLive id thread old (slot.trans own)] at alive
          cases alive
      · rw [Function.update_of_ne own] at isWorker
        rcases routed.current other worker isWorker with ⟨thread, isThread, slot, only⟩
        have older := Nat.ne_of_lt (routed.known worker thread isThread)
        rw [Function.update_of_ne older]
        refine ⟨thread, isThread, slot, ?_⟩
        intro id otherThread isOther alive otherSlot
        rcases newThread id otherThread isOther with ⟨_, rfl⟩ | ⟨_, old⟩
        · exact absurd otherSlot.symm own
        · exact only id otherThread old alive otherSlot
    · intro id thread key isThread alive touches
      rcases newThread id thread isThread with ⟨_, rfl⟩ | ⟨_, old⟩
      · rcases touches with (impossible | impossible | impossible) | ⟨posted, impossible, _⟩
        · cases impossible
        · cases impossible
        · cases impossible
        · cases impossible
      · exact routed.touched id thread key old alive touches
    · exact routed.underWay

end Routed

variable {dedicated : List String} {thread acted : WorkerThread}

theorem Acted.of_holds (slot : acted.slot = thread.slot)
    (alive : acted.alive = true → thread.alive = true)
    (holds : ∀ key, acted.holds key → thread.touches key)
    (inbox : ∀ posted ∈ acted.inbox, posted ∈ thread.inbox) :
    Acted config dedicated thread acted := by
  refine ⟨slot, alive, ?_⟩
  intro key _ touches
  rcases touches with held | ⟨posted, listed, isInit, isKey⟩
  · exact Or.inl (holds key held)
  · exact Or.inl (Or.inr ⟨posted, inbox posted listed, isInit, isKey⟩)

theorem acted_handle : Acted config dedicated thread thread.handle := by
  unfold WorkerThread.handle
  split
  · exact .of_holds rfl id (fun _ => Or.inl) fun _ => id
  next posted rest isInbox =>
    have later : ∀ other ∈ rest, other ∈ thread.inbox := by
      intro other listed
      rw [isInbox]
      exact List.mem_cons_of_mem _ listed
    dsimp only
    split
    · exact .of_holds rfl id (fun _ => Or.inl) later
    · split
      next sessionId isInit isKey =>
        split
        · exact .of_holds rfl id (fun _ => Or.inl) later
        · refine Acted.of_holds rfl id ?_ later
          intro key held
          rcases held with loaded | leaving | building
          · exact Or.inl (Or.inl loaded)
          · exact Or.inl (Or.inr (Or.inl leaving))
          · rcases List.mem_cons.1 building with rfl | building
            · exact Or.inr ⟨posted, by rw [isInbox]; exact List.mem_cons_self, isInit, isKey⟩
            · exact Or.inl (Or.inr (Or.inr building))
      · split
        next isLoaded =>
          refine Acted.of_holds rfl id ?_ later
          intro key held
          rcases held with loaded | leaving | building
          · exact Or.inl (Or.inl (List.mem_filter.1 loaded).1)
          · rcases List.mem_cons.1 leaving with rfl | leaving
            · exact Or.inl (Or.inl isLoaded)
            · exact Or.inl (Or.inr (Or.inl leaving))
          · exact Or.inl (Or.inr (Or.inr building))
        · split
          · exact .of_holds rfl id (fun _ => Or.inl) later
          · exact .of_holds rfl id (fun _ => Or.inl) later
      · exact .of_holds rfl id (fun _ => Or.inl) later
      · exact .of_holds rfl id (fun _ => Or.inl) later

theorem acted_built (sessionId : String) (ok : Bool) :
    Acted config dedicated thread (thread.built sessionId ok) := by
  have built : ∀ key, key ∈ thread.facades ∨ key ∈ thread.leaving ∨
      key ∈ thread.building.filter (· ≠ sessionId) → thread.touches key := by
    intro key held
    rcases held with loaded | leaving | building
    · exact Or.inl (Or.inl loaded)
    · exact Or.inl (Or.inr (Or.inl leaving))
    · exact Or.inl (Or.inr (Or.inr (List.mem_filter.1 building).1))
  unfold WorkerThread.built
  split
  next isBuilding =>
    dsimp only
    split
    · split
      · exact Acted.of_holds rfl id built fun _ => id
      · refine Acted.of_holds rfl id ?_ fun _ => id
        intro key held
        rcases held with loaded | kept
        · rcases List.mem_cons.1 loaded with rfl | loaded
          · exact Or.inl (Or.inr (Or.inr isBuilding))
          · exact built key (Or.inl loaded)
        · exact built key (Or.inr kept)
    · exact Acted.of_holds rfl id built fun _ => id
  · exact .of_holds rfl id (fun _ => Or.inl) fun _ => id

/-- What changes neither the wallets nor the calls of a worker. -/
theorem acted_same (slot : acted.slot = thread.slot)
    (alive : acted.alive = true → thread.alive = true) (facades : acted.facades = thread.facades)
    (leaving : acted.leaving = thread.leaving) (building : acted.building = thread.building)
    (inbox : acted.inbox = thread.inbox) :
    Acted config dedicated thread acted := by
  apply Acted.of_holds slot alive
  · intro key held
    unfold WorkerThread.holds at held
    rw [facades, leaving, building] at held
    exact Or.inl held
  · rw [inbox]
    exact fun _ => id

theorem acted_evictAll : Acted config dedicated thread thread.evictAll := by
  unfold WorkerThread.evictAll
  split
  · refine Acted.of_holds rfl id ?_ fun _ => id
    intro key held
    rcases held with loaded | leaving | building
    · cases loaded
    · rcases List.mem_append.1 leaving with loaded | leaving
      · exact Or.inl (Or.inl loaded)
      · exact Or.inl (Or.inr (Or.inl leaving))
    · exact Or.inl (Or.inr (Or.inr building))
  · exact acted_same rfl id rfl rfl rfl rfl

theorem acted_unloaded (sessionId : String) :
    Acted config dedicated thread (thread.unloaded sessionId) := by
  refine Acted.of_holds rfl id ?_ fun _ => id
  intro key held
  rcases held with loaded | leaving | building
  · exact Or.inl (Or.inl loaded)
  · exact Or.inl (Or.inr (Or.inl (List.mem_of_mem_erase leaving)))
  · exact Or.inl (Or.inr (Or.inr building))

theorem acted_die : Acted config dedicated thread thread.die := by
  refine ⟨rfl, ?_, ?_⟩
  · nofun
  · nofun

theorem Routed.onWorker (routed : s.Routed config) (id : Nat) {act : WorkerThread → WorkerThread}
    (acts : ∀ thread, Acted config s.dedicatedFacades thread (act thread)) :
    (s.onWorker id act).Routed config := by
  unfold WalletPool.onWorker
  split
  next thread isThread =>
    split
    · exact routed.acted isThread (acts thread)
    · exact routed
  · exact routed

end Steps

/-! ## Steps that move no wallet -/

/-- No live worker has the wallet, unloads it, builds it or is about to, and no call on it is under
way. -/
def Untouched (s : WalletPool) (key : String) : Prop :=
  (∀ id < s.nextWorker, ∀ thread ∈ s.workers id, thread.alive = true → ¬ thread.touches key) ∧
  ∀ id < s.nextCall, ∀ call ∈ s.calls id, call.phase ≠ .settled → ¬ call.args.Concerns key

/-- The slot has no live worker. -/
def SlotFree (s : WalletPool) (slotId : String) : Prop :=
  ∀ id < s.nextWorker, ∀ thread ∈ s.workers id, thread.slot = slotId → thread.alive = false

instance (s : WalletPool) (key : String) : Decidable (s.Untouched key) :=
  inferInstanceAs (Decidable (_ ∧ _))

instance (s : WalletPool) (slotId : String) : Decidable (s.SlotFree slotId) := by
  unfold SlotFree
  infer_instance

/-- A wallet gets a slot of its own only while it is untouched, and a slot a new worker only
when its last one has ended. -/
def MovesNoWallet (config : WalletWorkerPoolConfig) (s : WalletPool) : PoolEvent → Prop
  | .assignDedicatedWorker facadeKey =>
    config.sponsorWorkers = .dedicated → facadeKey ∉ s.dedicatedFacades →
      s.sessionWorker facadeKey = none → s.Untouched facadeKey
  | .proceed id =>
    ∀ call ∈ s.calls id, call.phase = .waiting → (s.slots call.slot).drainingWorker = none →
      (s.slots call.slot).worker = none → s.everStarted = true → s.SlotFree call.slot
  | .startWalletWorker => (s.slots DEFAULT_SLOT).worker = none → s.SlotFree DEFAULT_SLOT
  | _ => True

instance (config : WalletWorkerPoolConfig) (s : WalletPool) (event : PoolEvent) :
    Decidable (MovesNoWallet config s event) := by
  cases event <;> unfold MovesNoWallet <;> infer_instance

section Step

variable {config : WalletWorkerPoolConfig} {s : WalletPool}

theorem Routed.slotFree (routed : s.Routed config) {slotId : String} (free : s.SlotFree slotId)
    (id : Nat) (thread : WorkerThread) (found : s.workers id = some thread)
    (slot : thread.slot = slotId) : thread.alive = false :=
  free id (routed.known id thread found) thread found slot

@[simp] theorem startWorkerSlot_calls (s : WalletPool) (slotId : String) :
    (s.startWorkerSlot slotId).calls = s.calls := by
  simp only [WalletPool.startWorkerSlot]
  split <;> rfl

section Routed

variable (routed : s.Routed config)

include routed

theorem routed_assign {facadeKey : String}
    (moves : MovesNoWallet config s (.assignDedicatedWorker facadeKey)) :
    (s.assignDedicatedWorker config facadeKey).Routed config := by
  unfold assignDedicatedWorker
  split
  · exact routed
  next mode =>
    split
    · exact routed
    next fresh =>
      split
      · exact routed
      next unknown =>
        rw [Option.not_isSome_iff_eq_none] at unknown
        have untouched := moves (Decidable.not_not.1 mode) fresh unknown
        constructor
        · exact routed.known
        · exact routed.knownCall
        · exact routed.alone
        · exact routed.current
        · intro id thread key isThread alive touches
          have different : key ≠ facadeKey := by
            intro same
            rw [same] at touches
            exact untouched.1 id (routed.known id thread isThread) thread isThread alive touches
          rw [workerIdFor_assigned different]
          exact routed.touched id thread key isThread alive touches
        · intro id call key isCall unsettled concerns
          have different : key ≠ facadeKey := by
            intro same
            rw [same] at concerns
            exact untouched.2 id (routed.knownCall id call isCall) call isCall unsettled concerns
          rw [workerIdFor_assigned different]
          exact routed.underWay id call key isCall unsettled concerns

theorem routed_rpc (method : WorkerMethod) (args : RpcArgs) :
    (s.rpc config method args).Routed config := by
  unfold rpc
  split
  next same =>
    constructor
    · exact routed.known
    · intro id call isCall
      simp only [setCall] at isCall
      by_cases new : id = s.nextCall
      · rw [new]
        exact Nat.lt_succ_self _
      · rw [Function.update_of_ne new] at isCall
        exact Nat.lt_succ_of_lt (routed.knownCall id call isCall)
    · exact routed.alone
    · exact routed.current
    · exact routed.touched
    · intro id call key isCall unsettled concerns
      simp only [setCall] at isCall
      rcases mem_update isCall with ⟨rfl, ⟨⟩⟩ | ⟨new, isCall⟩
      · exact workerIdFor_facadeKeyOf same concerns
      · exact routed.underWay id call key isCall unsettled concerns
  · exact routed

theorem routed_proceed {id : Nat}
    (moves : MovesNoWallet config s (.proceed id)) : (s.proceed id).Routed config := by
  unfold proceed
  split
  next call found =>
    split
    next ready =>
      have unsettled : call.phase ≠ .settled := by
        rw [ready.1]
        decide
      split
      next worker current => exact routed.post found unsettled current
      next noWorker =>
        split
        next started =>
          have free := moves call found ready.1 ready.2 noWorker started
          have fresh : (s.startWorkerSlot call.slot).Routed config :=
            routed.startWorkerSlot fun _ => routed.slotFree free
          apply fresh.call
          · rw [startWorkerSlot_calls]
            exact found
          · exact fun _ => unsettled
        · exact routed.finish found
    · exact routed
  · exact routed

theorem routed_started (id : Nat) :
    (s.started id).Routed config := by
  unfold started
  split
  next call found =>
    split
    next isStarting =>
      split
      next worker current =>
        apply routed.post found _ current
        rw [isStarting]
        decide
      · exact routed.finish found
    · exact routed
  · exact routed

theorem routed_settle (id : Nat) (reply : CallReply) :
    (s.settle id reply).Routed config := by
  unfold settle
  split
  next call found =>
    split
    next isPosted =>
      have unsettled : call.phase ≠ .settled := by
        rw [isPosted]
        decide
      split
      · exact routed.finish found
      · split
        · have drained : (s.setSlot call.slot { s.slots call.slot with
              drainingWorker :=
                (s.slots call.slot).drainingWorker.or (s.slots call.slot).worker }).Routed
              config := routed.setSlot fun _ same => same
          exact drained.call found .waiting 1 fun _ => unsettled
        · exact routed.finish found
      · split
        · exact routed.call found .waiting 1 fun _ => unsettled
        · exact routed.finish found
    · exact routed
  · exact routed

theorem routed_deliver (worker : Nat) :
    (s.deliver worker).Routed config := by
  unfold deliver
  split
  next thread found =>
    split
    · exact routed
    next message rest _ =>
      have taken : (s.setWorker worker { thread with outbox := rest }).Routed config :=
        routed.acted found (acted_same rfl id rfl rfl rfl rfl)
      split
      · exact taken.slots rfl (fun _ _ => id) rfl rfl rfl rfl
      · exact taken.setSlot fun _ => id
      · exact taken.setSlot fun _ => id
      · have exited : ((s.setWorker worker { thread with outbox := rest }).setSlot
            thread.slot {
              worker :=
                if (s.slots thread.slot).worker = some worker then none
                else (s.slots thread.slot).worker
              drainingWorker :=
                if (s.slots thread.slot).drainingWorker = some worker then none
                else (s.slots thread.slot).drainingWorker
              rotationAnnouncedBy :=
                if (s.slots thread.slot).rotationAnnouncedBy = some worker then none
                else (s.slots thread.slot).rotationAnnouncedBy
              stoppingWorker :=
                if (s.slots thread.slot).stoppingWorker = some worker then none
                else (s.slots thread.slot).stoppingWorker }).Routed config := by
          apply taken.setSlot
          intro id isWorker
          split at isWorker
          · cases isWorker
          · exact isWorker
        exact exited.slots rfl (fun _ _ => id) rfl rfl rfl rfl
  · exact routed

theorem routed_postShutdown (slotId : String) :
    (s.postShutdown slotId).Routed config := by
  unfold postShutdown
  split
  · split
    next thread found =>
      split
      · apply routed.acted found
        refine ⟨rfl, id, ?_⟩
        intro key _ touches
        rcases touches with held | ⟨posted, listed, isInit, isKey⟩
        · exact Or.inl (Or.inl held)
        · rcases List.mem_append.1 listed with before | new
          · exact Or.inl (Or.inr ⟨posted, before, isInit, isKey⟩)
          · rw [List.mem_singleton] at new
            rw [new] at isInit
            cases isInit
      · exact routed
    · exact routed
  · exact routed

theorem routed_step (event : PoolEvent)
    (moves : MovesNoWallet config s event) : (s.step config event).Routed config := by
  cases event with
  | assignDedicatedWorker facadeKey => exact routed_assign routed moves
  | rpc method args => exact routed_rpc routed method args
  | proceed id => exact routed_proceed routed moves
  | started id => exact routed_started routed id
  | settle id reply => exact routed_settle routed id reply
  | handle worker => exact routed.onWorker worker fun _ => acted_handle
  | built worker sessionId ok =>
    exact routed.onWorker worker fun _ => acted_built sessionId ok
  | unloaded worker sessionId => exact routed.onWorker worker fun _ => acted_unloaded sessionId
  | report worker sessionId =>
    apply routed.onWorker worker
    intro thread
    unfold WorkerThread.report
    split <;> exact acted_same rfl id rfl rfl rfl rfl
  | rotate worker => exact routed.onWorker worker fun _ => acted_same rfl id rfl rfl rfl rfl
  | evictAll worker => exact routed.onWorker worker fun _ => acted_evictAll
  | rotationDone worker =>
    apply routed.onWorker worker
    intro thread
    unfold WorkerThread.rotationDone
    split <;> exact acted_same rfl id rfl rfl rfl rfl
  | die worker => exact routed.onWorker worker fun _ => acted_die
  | deliver worker => exact routed_deliver routed worker
  | startWalletWorker =>
    apply routed.startWorkerSlot
    intro free
    exact routed.slotFree (moves free)
  | stopWalletWorker | stopped => exact routed.slots rfl (fun _ _ => id) rfl rfl rfl rfl
  | postShutdown slotId => exact routed_postShutdown routed slotId
  | stopWorkerSlot slotId =>
    simp only [step, stopWorkerSlot]
    split
    · apply routed.setSlot
      intro id impossible
      cases impossible
    · exact routed

end Routed

theorem routed_start (config : WalletWorkerPoolConfig) :
    WalletPool.start.Routed config := by
  constructor
  · nofun
  · nofun
  · nofun
  · nofun
  · nofun
  · nofun

end Step

/-! ## Runs -/

/-- No wallet is in two workers, a call goes to the worker that holds its wallet, and one that
names two wallets runs where both are. -/
structure OneWorker (s : WalletPool) : Prop where
  once : ∀ id thread other otherThread key, s.workers id = some thread →
    s.workers other = some otherThread → thread.alive = true → otherThread.alive = true →
      thread.holds key → otherThread.holds key → id = other
  sent : ∀ id call worker key, s.calls id = some call → call.phase ≠ .settled →
    (s.slots call.slot).worker = some worker → call.args.Concerns key →
      ∀ holder thread, s.workers holder = some thread → thread.alive = true →
        thread.holds key → holder = worker
  together : ∀ id thread posted key, s.workers id = some thread → thread.alive = true →
    posted ∈ thread.inbox → thread.runs posted = true → key ∈ posted.args.named →
      key ∈ thread.facades ∧ ∀ holder other, s.workers holder = some other →
        other.alive = true → other.holds key → holder = id

theorem Routed.oneWorker {config : WalletWorkerPoolConfig} {s : WalletPool}
    (routed : s.Routed config) : s.OneWorker := by
  have once : ∀ id thread other otherThread key, s.workers id = some thread →
      s.workers other = some otherThread → thread.alive = true → otherThread.alive = true →
        thread.holds key → otherThread.holds key → id = other := by
    intro id thread other otherThread key found otherFound alive otherAlive holds otherHolds
    have slot := routed.touched id thread key found alive (Or.inl holds)
    have otherSlot := routed.touched other otherThread key otherFound otherAlive (Or.inl otherHolds)
    exact routed.alone id thread other otherThread found otherFound alive otherAlive
      (slot.symm.trans otherSlot)
  constructor
  · exact once
  · intro id call worker key found unsettled current concerns holder thread isThread alive holds
    have slot := routed.touched holder thread key isThread alive (Or.inl holds)
    have callSlot := routed.underWay id call key found unsettled concerns
    rcases routed.current call.slot worker current with ⟨_, _, _, only⟩
    exact only holder thread isThread alive (slot.symm.trans callSlot)
  · intro id thread posted key found alive listed runs named
    simp only [WorkerThread.runs, Bool.and_eq_true, List.all_eq_true, decide_eq_true_eq] at runs
    have loaded := runs.2 key named
    refine ⟨loaded, ?_⟩
    intro holder other isOther otherAlive holds
    exact once holder other id thread key isOther found otherAlive alive holds (Or.inl loaded)

/-- As long as no wallet gets a slot of its own while it is loaded or unloaded or a call on it is
under way, and no slot a new worker beside a live one, a wallet has one worker in every interleaving
of calls, reports, evictions, crashes, rotations and stops. -/
theorem one_worker_per_wallet (config : WalletWorkerPoolConfig) (events : List PoolEvent)
    (still : Along (step config) (MovesNoWallet config) WalletPool.start events) :
    (run (step config) WalletPool.start events).OneWorker := by
  have routed : (run (step config) WalletPool.start events).Routed config := by
    apply run_invariant _ (routed_start config) events still
    intro state event routed moves
    exact routed_step routed event moves
  exact routed.oneWorker

/-- A sponsor gets its slot, is loaded there and reports. -/
def sponsorLoads (key : String) : List PoolEvent := [
  .startWalletWorker, .assignDedicatedWorker key, .rpc .init ⟨some key, none⟩, .proceed 0,
  .started 0, .handle 1, .built 1 key true, .settle 0 .answered, .report 1 key, .deliver 1,
  .rpc (.wallet true) ⟨some key, none⟩]

theorem one_worker_per_wallet_sponsorLoads :
    (run (step ⟨1, .dedicated⟩) WalletPool.start (sponsorLoads "a")).OneWorker :=
  one_worker_per_wallet ⟨1, .dedicated⟩ (sponsorLoads "a") (by decide)

/-- A wallet that is loaded and has not reported yet is loaded a second time, in a slot of its
own. -/
theorem unreported_wallet_loaded_twice :
    ¬ ∀ (config : WalletWorkerPoolConfig) (events : List PoolEvent),
      (run (step config) WalletPool.start events).OneWorker := by
  intro always
  have law := always ⟨1, .dedicated⟩ [.startWalletWorker, .rpc .init ⟨some "a", none⟩,
    .proceed 0, .handle 0, .built 0 "a" true, .settle 0 .answered,
    .assignDedicatedWorker "a", .rpc .init ⟨some "a", none⟩, .proceed 1, .started 1, .handle 1,
    .built 1 "a" true]
  have same := law.once 0 ⟨"user-0", true, false, [], ["a"], [], [], [], []⟩ 1
    ⟨"sponsor-a", true, false, [], ["a"], [], [], [], []⟩ "a" (by decide) (by decide) rfl rfl
    (Or.inl (by decide)) (Or.inl (by decide))
  cases same

end WalletPool

end Nightgate.Midnight
