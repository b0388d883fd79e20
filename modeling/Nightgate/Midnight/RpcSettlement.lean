import Nightgate.Midnight.WorkerRpcClient

/-!
# When every call is settled once
-/

namespace Nightgate.Midnight

open Library

/-- The call awaits a start or its end. -/
def CallStage.waits : CallStage → Bool
  | .starting _ | .resuming | .rejected => true
  | .sent _ | .settled | .lost => false

namespace PendingRpc

/-- The counts of a call fit its stage. -/
def Counted (call : PendingRpc) : Prop :=
  match call.stage with
  | .sent _ =>
    call.settles = 0 ∧ call.sends = call.resent.toNat + 1 ∧
      ∀ posts ∈ call.reported, call.sends = posts ∧ call.started = true
  | .settled =>
    call.settles = 1 ∧ call.sends ≤ 1 + call.resent.toNat ∧
      ∀ posts ∈ call.reported, call.sends = posts
  | _ => call.settles = 0 ∧ call.sends = call.resent.toNat ∧ call.reported = none

variable {call : PendingRpc}

variable (counted : call.Counted)

include counted

theorem Counted.of_waits (waits : call.stage.waits = true) :
    call.settles = 0 ∧ call.sends = call.resent.toNat ∧ call.reported = none := by
  rw [Counted] at counted
  cases isStage : call.stage with
  | starting worker | resuming | rejected =>
    rw [isStage] at counted
    exact counted
  | sent worker | settled | lost =>
    rw [isStage] at waits
    cases waits

theorem Counted.of_sent {worker : Nat} (isSent : call.stage = .sent worker) :
    call.settles = 0 ∧ call.sends = call.resent.toNat + 1 ∧
      ∀ posts ∈ call.reported, call.sends = posts ∧ call.started = true := by
  rw [Counted, isSent] at counted
  exact counted

/-- A call in any stage but the last has the counts it needs to be settled. -/
theorem Counted.settle (open_ : call.stage.waits = true ∨ ∃ worker, call.stage = .sent worker) :
    call.settle.Counted := by
  simp only [Counted, PendingRpc.settle]
  rcases open_ with waits | ⟨worker, isSent⟩
  · obtain ⟨settles, sends, reported⟩ := counted.of_waits waits
    refine ⟨by omega, by omega, ?_⟩
    rw [reported]
    exact nofun
  · obtain ⟨settles, sends, reported⟩ := counted.of_sent isSent
    exact ⟨by omega, by omega, fun posts isPosts => (reported posts isPosts).1⟩

theorem Counted.post (waits : call.stage.waits = true) (worker : Nat)
    (budgetFromStart : Bool) : (call.post worker budgetFromStart).Counted := by
  obtain ⟨settles, sends, reported⟩ := counted.of_waits waits
  simp only [Counted, PendingRpc.post]
  refine ⟨settles, by omega, ?_⟩
  rw [reported]
  exact nofun

theorem Counted.begun {worker : Nat} (isSent : call.stage = .sent worker) (budgetFromStart : Bool) :
    (call.begun budgetFromStart).Counted := by
  obtain ⟨settles, sends, reported⟩ := counted.of_sent isSent
  simp only [Counted, PendingRpc.begun, isSent]
  refine ⟨settles, sends, ?_⟩
  intro posts isPosts
  cases isReported : call.reported with
  | none =>
    rw [isReported] at isPosts
    cases isPosts
    exact ⟨rfl, trivial⟩
  | some before =>
    rw [isReported] at isPosts
    cases isPosts
    exact ⟨(reported posts isReported).1, trivial⟩

/-- A waiting call that waits for something else. -/
theorem Counted.restage (waits : call.stage.waits = true)
    {stage : CallStage} (waitsToo : stage.waits = true) : Counted { call with stage } := by
  have counts := counted.of_waits waits
  cases stage with
  | starting worker | resuming | rejected => exact counts
  | sent worker | settled | lost => cases waitsToo

/-- A call that moves was not begun, so it was posted once and is not posted again after a
report. -/
theorem Counted.moved {worker : Nat} {restarting : Bool}
    (moves : call.moves worker restarting = true) {stage : CallStage} (waits : stage.waits = true) :
    Counted { call with stage, resent := true, timer := false } := by
  simp only [PendingRpc.moves, Bool.and_eq_true, decide_eq_true_eq, Bool.not_eq_true'] at moves
  obtain ⟨⟨⟨isSent, _⟩, unbegun⟩, unsent⟩ := moves
  obtain ⟨settles, sends, reported⟩ := counted.of_sent isSent
  have unreported : call.reported = none := by
    cases isReported : call.reported with
    | none => rfl
    | some posts =>
      have begun := (reported posts isReported).2
      rw [unbegun] at begun
      cases begun
  rw [unsent] at sends
  cases stage with
  | starting worker | resuming | rejected => exact ⟨settles, sends, unreported⟩
  | sent worker | settled | lost => cases waits

end PendingRpc

namespace WorkerRpcClient

variable {link next : WorkerRpcClient} {options : RpcOptions}

/-! ## The invariant -/

/-- The client's worker is up or coming up, and workers not born yet are no workers. -/
structure WorkersSound (link : WorkerRpcClient) : Prop where
  client : ∀ worker ∈ link.client, link.workers worker = .starting ∨ link.workers worker = .ready
  unborn : ∀ worker, link.born ≤ worker → link.workers worker = .unborn

structure Sound (link : WorkerRpcClient) : Prop where
  workers : link.WorkersSound
  counted : ∀ call ∈ link.calls, call.Counted
  kept : ∀ call ∈ link.calls, call.stage = .settled ∨ link.Kept call

theorem Sound.initial : Sound WorkerRpcClient.initial where
  workers := ⟨by simp [WorkerRpcClient.initial], fun _ _ => rfl⟩
  counted := by simp [WorkerRpcClient.initial]
  kept := by simp [WorkerRpcClient.initial]

variable {call : PendingRpc}

theorem Kept.mono (kept : link.Kept call)
    (alive : ∀ worker, (link.workers worker).alive = true → (next.workers worker).alive = true) :
    next.Kept call := by
  rcases kept with isResuming | isRejected | ⟨worker, isStage, isAlive⟩
  · exact Or.inl isResuming
  · exact Or.inr (Or.inl isRejected)
  · exact Or.inr (Or.inr ⟨worker, isStage, alive worker isAlive⟩)

variable {worker : Nat}

theorem alive_of_client (sound : link.WorkersSound)
    (isClient : worker ∈ link.client) : (link.workers worker).alive = true := by
  rcases sound.client worker isClient with isStarting | isReady
  · rw [isStarting]
    rfl
  · rw [isReady]
    rfl

theorem Kept.open_ (kept : link.Kept call) :
    call.stage.waits = true ∨ ∃ worker, call.stage = .sent worker := by
  rcases kept with isResuming | isRejected | ⟨worker, isStarting | isSent, _⟩
  · exact Or.inl (by rw [isResuming]; rfl)
  · exact Or.inl (by rw [isRejected]; rfl)
  · exact Or.inl (by rw [isStarting]; rfl)
  · exact Or.inr ⟨worker, isSent⟩

theorem Sound.settlesOnce (sound : link.Sound) : link.SettlesOnce := by
  have counts : ∀ call ∈ link.calls, (call.settles = 1 ∨ (call.settles = 0 ∧ link.Kept call)) ∧
      call.sends ≤ 1 + call.resent.toNat ∧ ∀ posts ∈ call.reported, call.sends = posts := by
    intro call isCall
    have counted := sound.counted call isCall
    rcases sound.kept call isCall with isSettled | kept
    · rw [PendingRpc.Counted, isSettled] at counted
      exact ⟨Or.inl counted.1, counted.2.1, counted.2.2⟩
    · rcases kept.open_ with waits | ⟨worker, isSent⟩
      · obtain ⟨settles, sends, reported⟩ := counted.of_waits waits
        refine ⟨Or.inr ⟨settles, kept⟩, by omega, ?_⟩
        rw [reported]
        exact nofun
      · obtain ⟨settles, sends, reported⟩ := counted.of_sent isSent
        exact ⟨Or.inr ⟨settles, kept⟩, by omega, fun posts isPosts => (reported posts isPosts).1⟩
  exact {
    once := fun call isCall => by
      rcases (counts call isCall).1 with isOne | ⟨isZero, _⟩
      · omega
      · omega
    kept := fun call isCall => (counts call isCall).1.imp id And.right
    begun := fun call isCall => (counts call isCall).2.2
    resent := fun call isCall => (counts call isCall).2.1 }

@[simp] theorem start_calls (spawns : Bool) : (link.start spawns).1.calls = link.calls := by
  simp only [start]
  split
  · rfl
  · split <;> rfl

theorem start_sound (sound : link.WorkersSound) (spawns : Bool) :
    (link.start spawns).1.WorkersSound := by
  simp only [start]
  split
  · exact sound
  · split
    · refine ⟨?_, ?_⟩
      · intro worker isClient
        cases isClient
        exact Or.inl (Function.update_self ..)
      · intro worker later
        dsimp only at later ⊢
        rw [Function.update_of_ne (by omega)]
        exact sound.unborn worker (by omega)
    · exact sound

theorem start_alive (sound : link.WorkersSound) (spawns : Bool) (worker : Nat)
    (isAlive : (link.workers worker).alive = true) :
    ((link.start spawns).1.workers worker).alive = true := by
  simp only [start]
  split
  · exact isAlive
  · split
    · have born : worker ≠ link.born := by
        rintro rfl
        rw [sound.unborn _ (Nat.le_refl _)] at isAlive
        cases isAlive
      dsimp only
      rw [Function.update_of_ne born]
      exact isAlive
    · exact isAlive

@[simp] theorem start_waits (spawns : Bool) : (link.start spawns).2.waits = true := by
  simp only [start]
  split
  · split <;> rfl
  · split <;> rfl

/-- A call that awaits the start is kept. -/
theorem start_kept (sound : link.WorkersSound) (spawns : Bool)
    (isStage : call.stage = (link.start spawns).2) : (link.start spawns).1.Kept call := by
  cases isClient : link.client with
  | some worker =>
    simp only [start, isClient] at isStage ⊢
    split at isStage
    · exact Or.inl isStage
    · exact Or.inr (Or.inr ⟨worker, Or.inl isStage, alive_of_client sound isClient⟩)
  | none =>
    cases spawns with
    | true =>
      simp only [start, isClient, if_true] at isStage ⊢
      refine Or.inr (Or.inr ⟨link.born, Or.inl isStage, ?_⟩)
      dsimp only
      rw [Function.update_self]
      rfl
    | false =>
      simp only [start, isClient, Bool.false_eq_true, if_false] at isStage ⊢
      exact Or.inr (Or.inl isStage)

/-! ## Steps -/

theorem Sound.setCall (sound : link.Sound) (id : Nat)
    (counted : call.Counted) (kept : call.stage = .settled ∨ link.Kept call) :
    (link.setCall id call).Sound where
  workers := ⟨sound.workers.client, sound.workers.unborn⟩
  counted := by
    intro other isOther
    rcases List.mem_or_eq_of_mem_set isOther with isOld | rfl
    · exact sound.counted other isOld
    · exact counted
  kept := by
    intro other isOther
    rcases List.mem_or_eq_of_mem_set isOther with isOld | rfl
    · exact sound.kept other isOld
    · exact kept

variable {id : Nat}

theorem Sound.settleCall (sound : link.Sound) (isCall : call ∈ link.calls)
    (open_ : call.stage.waits = true ∨ ∃ worker, call.stage = .sent worker) :
    (link.setCall id call.settle).Sound :=
  sound.setCall id ((sound.counted call isCall).settle open_) (Or.inl rfl)

theorem Sound.stop (sound : link.Sound) : link.stop.Sound := by
  simp only [WorkerRpcClient.stop]
  split
  · exact ⟨⟨by simp, sound.workers.unborn⟩, sound.counted, sound.kept⟩
  · exact sound

/-- A start that ends moves the calls that await it on. -/
theorem Sound.endStart (sound : link.Sound) {stage : CallStage}
    (next : link.workers worker = .starting) (helper : HelperStage) (isAlive : helper.alive = true)
    (client : Option Nat)
    (clientSound : ∀ other ∈ client, other ∈ link.client ∧ (other = worker → helper = .ready))
    (isStage : stage = .resuming ∨ stage = .rejected) :
    Sound { link with
      workers := Function.update link.workers worker helper
      client
      calls := link.endStart worker stage } := by
  have waits : stage.waits = true := by rcases isStage with rfl | rfl <;> rfl
  have alive : ∀ other, (link.workers other).alive = true →
      (Function.update link.workers worker helper other).alive = true := by
    intro other before
    by_cases same : other = worker
    · rw [same, Function.update_self]
      exact isAlive
    · rw [Function.update_of_ne same]
      exact before
  refine ⟨⟨?_, ?_⟩, ?_, ?_⟩
  · intro other isClient
    obtain ⟨before, isReady⟩ := clientSound other isClient
    by_cases same : other = worker
    · dsimp only
      rw [same, Function.update_self]
      exact Or.inr (isReady same)
    · dsimp only
      rw [Function.update_of_ne same]
      exact sound.workers.client other before
  · intro other later
    dsimp only at later ⊢
    have different : other ≠ worker := by
      rintro rfl
      rw [sound.workers.unborn other later] at next
      cases next
    rw [Function.update_of_ne different]
    exact sound.workers.unborn other later
  · intro call isCall
    obtain ⟨before, isBefore, rfl⟩ := List.mem_map.mp isCall
    split
    next isStarting =>
      exact (sound.counted before isBefore).restage (by rw [isStarting]; rfl) waits
    · exact sound.counted before isBefore
  · intro call isCall
    obtain ⟨before, isBefore, rfl⟩ := List.mem_map.mp isCall
    split
    · right
      rcases isStage with rfl | rfl
      · exact Or.inl rfl
      · exact Or.inr (Or.inl rfl)
    · exact (sound.kept before isBefore).imp id fun kept =>
        show Kept { link with workers := Function.update link.workers worker helper } before from
          kept.mono alive

/-- Without its worker a client is sound but for the calls that worker had. -/
theorem forget_sound (sound : link.WorkersSound)
    (isAlive : (link.workers worker).alive = true) : (link.forget worker).WorkersSound where
  client := by
    intro other isClient
    obtain ⟨before, different⟩ := Option.mem_filter_iff.mp isClient
    simp only [decide_eq_true_eq] at different
    simp only [forget]
    rw [Function.update_of_ne different]
    exact sound.client other before
  unborn := by
    intro other later
    have different : other ≠ worker := by
      rintro rfl
      rw [sound.unborn other later] at isAlive
      cases isAlive
    simp only [forget]
    rw [Function.update_of_ne different]
    exact sound.unborn other later

theorem afterExit_counted (counted : call.Counted) (worker : Nat)
    (restarting : Bool) {stage : CallStage} (waits : stage.waits = true) :
    (afterExit worker restarting stage call).Counted := by
  simp only [afterExit]
  split
  next moves => exact counted.moved moves waits
  · split
    next isSent => exact counted.settle (Or.inr ⟨worker, isSent⟩)
    · split
      next isStarting => exact counted.restage (by rw [isStarting]; rfl) rfl
      · exact counted

/-- After the exit every call is settled, on its way, or with another worker. -/
theorem afterExit_kept {restarting : Bool} {stage : CallStage}
    (kept : call.stage = .settled ∨ link.Kept call)
    (alive : ∀ other, other ≠ worker → (link.workers other).alive = true →
      (next.workers other).alive = true)
    (moved : call.moves worker restarting = true → ∀ other : PendingRpc, other.stage = stage →
      next.Kept other) :
    (afterExit worker restarting stage call).stage = .settled ∨
      next.Kept (afterExit worker restarting stage call) := by
  simp only [afterExit]
  split
  next moves => exact Or.inr (moved moves _ rfl)
  · split
    · exact Or.inl rfl
    next notSent =>
      split
      · exact Or.inr (Or.inr (Or.inl rfl))
      next notStarting =>
        refine kept.imp id fun kept => ?_
        rcases kept with isResuming | isRejected | ⟨other, isStage, isAlive⟩
        · exact Or.inl isResuming
        · exact Or.inr (Or.inl isRejected)
        · refine Or.inr (Or.inr ⟨other, isStage, alive other ?_ isAlive⟩)
          rintro rfl
          exact isStage.elim notStarting notSent

section Sound

variable (sound : link.Sound)

include sound

theorem Sound.exits
    (isAlive : (link.workers worker).alive = true) (spawns : Bool) :
    (link.exits worker spawns).Sound := by
  have gone := forget_sound sound.workers isAlive
  have aliveGone : ∀ other, other ≠ worker → (link.workers other).alive = true →
      ((link.forget worker).workers other).alive = true := by
    intro other different before
    simp only [forget]
    rw [Function.update_of_ne different]
    exact before
  simp only [WorkerRpcClient.exits]
  split
  · have started := start_sound gone spawns
    refine ⟨⟨started.client, started.unborn⟩, ?_, ?_⟩
    · intro call isCall
      obtain ⟨before, isBefore, rfl⟩ := List.mem_map.mp isCall
      exact afterExit_counted (sound.counted before isBefore) worker _ (start_waits spawns)
    · intro call isCall
      obtain ⟨before, isBefore, rfl⟩ := List.mem_map.mp isCall
      have restarted : ∀ other, other ≠ worker → (link.workers other).alive = true →
          (((link.forget worker).start spawns).1.workers other).alive = true := by
        intro other different isAliveToo
        exact start_alive gone spawns other (aliveGone other different isAliveToo)
      exact afterExit_kept (sound.kept before isBefore) restarted
        fun _ other isStage => start_kept gone spawns isStage
  next nobody =>
    refine ⟨⟨gone.client, gone.unborn⟩, ?_, ?_⟩
    · intro call isCall
      obtain ⟨before, isBefore, rfl⟩ := List.mem_map.mp isCall
      exact afterExit_counted (sound.counted before isBefore) worker _ rfl
    · intro call isCall
      obtain ⟨before, isBefore, rfl⟩ := List.mem_map.mp isCall
      exact afterExit_kept (sound.kept before isBefore) aliveGone
        fun moves => absurd (List.any_eq_true.mpr ⟨before, isBefore, moves⟩) nobody

theorem Sound.resumed (isCall : call ∈ link.calls)
    (isResuming : call.stage = .resuming) (notStopped : link.client.isSome = true) (posts : Bool) :
    (link.resumed options id call posts).Sound := by
  have waits : call.stage.waits = true := by rw [isResuming]; rfl
  simp only [WorkerRpcClient.resumed]
  split
  next isNone =>
    rw [isNone] at notStopped
    cases notStopped
  next worker isClient =>
    split
    · have counted := (sound.counted call isCall).post waits worker options.budgetFromStart
      exact sound.setCall id counted
        (Or.inr (Or.inr (Or.inr ⟨worker, Or.inr rfl, alive_of_client sound.workers isClient⟩)))
    · exact sound.settleCall isCall (Or.inl waits)

theorem Sound.stepCall
    (isCall : link.calls[id]? = some call) {event : RpcEvent}
    (notStopped : ∀ other posts, event = .resume other posts → call.stage = .resuming →
      link.client.isSome = true) : (link.stepCall options id call event).Sound := by
  have isMember : call ∈ link.calls := List.mem_of_getElem? isCall
  cases event with
  | start spawns | rpc spawns | workerReady worker | workerError worker | exit worker spawns
  | stop => exact sound
  | resume other posts =>
    simp only [WorkerRpcClient.stepCall]
    split
    next isRejected => exact sound.settleCall isMember (Or.inl (by rw [isRejected]; rfl))
    next isResuming =>
      exact sound.resumed isMember isResuming (notStopped other posts rfl isResuming) posts
    · exact sound
  | started other =>
    simp only [WorkerRpcClient.stepCall]
    split
    next worker isSent =>
      have counted := (sound.counted call isMember).begun isSent options.budgetFromStart
      exact sound.setCall id counted (sound.kept call isMember)
    · exact sound
  | reply other | messageError other =>
    simp only [WorkerRpcClient.stepCall]
    split
    next worker isSent => exact sound.settleCall isMember (Or.inr ⟨worker, isSent⟩)
    · exact sound
  | timeout other =>
    simp only [WorkerRpcClient.stepCall]
    split
    next worker isSent =>
      split
      · have settled : (link.setCall id call.settle).Sound :=
          sound.settleCall isMember (Or.inr ⟨worker, isSent⟩)
        split
        · exact Sound.stop ⟨⟨settled.workers.client, settled.workers.unborn⟩,
            settled.counted, settled.kept⟩
        · exact settled
      · exact sound
    · exact sound

theorem Sound.rpc (spawns : Bool) :
    (link.step options (.rpc spawns)).Sound := by
  have started := start_sound sound.workers spawns
  simp only [WorkerRpcClient.step]
  refine ⟨⟨started.client, started.unborn⟩, ?_, ?_⟩
  · intro call isCall
    rw [start_calls, List.mem_append, List.mem_singleton] at isCall
    rcases isCall with isOld | rfl
    · exact sound.counted call isOld
    · have waits : (link.start spawns).2.waits = true := start_waits spawns
      simp only [PendingRpc.Counted]
      cases isStage : (link.start spawns).2 with
      | starting worker | resuming | rejected => simp
      | sent worker | settled | lost =>
        rw [isStage] at waits
        cases waits
  · intro call isCall
    rw [start_calls, List.mem_append, List.mem_singleton] at isCall
    rcases isCall with isOld | rfl
    · exact (sound.kept call isOld).imp id fun kept =>
        show Kept (link.start spawns).1 call from kept.mono (start_alive sound.workers spawns)
    · exact Or.inr (start_kept sound.workers spawns rfl)

theorem Sound.step (event : RpcEvent) (notStopped : link.NotStopped event) :
    (link.step options event).Sound := by
  cases event with
  | start spawns =>
    refine ⟨start_sound sound.workers spawns, ?_, ?_⟩
    · intro call isCall
      simp only [WorkerRpcClient.step, start_calls] at isCall
      exact sound.counted call isCall
    · intro call isCall
      simp only [WorkerRpcClient.step, start_calls] at isCall
      exact (sound.kept call isCall).imp id fun kept =>
        kept.mono (start_alive sound.workers spawns)
  | rpc spawns => exact sound.rpc spawns
  | workerReady worker =>
    simp only [WorkerRpcClient.step]
    split
    next isStarting =>
      exact sound.endStart isStarting .ready rfl link.client
        (fun other isClient => ⟨isClient, fun _ => rfl⟩) (Or.inl rfl)
    · exact sound
  | workerError worker =>
    simp only [WorkerRpcClient.step]
    split
    next isStarting =>
      refine sound.endStart isStarting .failed rfl _ ?_ (Or.inr rfl)
      intro other isClient
      obtain ⟨before, different⟩ := Option.mem_filter_iff.mp isClient
      exact ⟨before, fun same => absurd same (by simpa using different)⟩
    · exact sound
  | exit worker spawns =>
    simp only [WorkerRpcClient.step]
    split
    next isAlive => exact sound.exits isAlive spawns
    · exact sound
  | stop => exact sound.stop
  | resume id posts | started id | reply id | messageError id | timeout id =>
    simp only [WorkerRpcClient.step]
    split
    next call isCall =>
      refine sound.stepCall isCall ?_
      intro other otherPosts isEvent isResuming
      first
        | cases isEvent
          done
        | cases isEvent
          exact notStopped call isCall isResuming
    · exact sound

end Sound

/-- A call that goes on after the client was stopped is lost: not settled, and not kept. -/
theorem lost_of_stopped {posts : Bool} (isCall : link.calls[id]? = some call)
    (isResuming : call.stage = .resuming) (stopped : link.client = none) :
    (link.step options (.resume id posts)).calls[id]? = some { call with stage := .lost } := by
  simp only [step, isCall, stepCall, isResuming, resumed, stopped, setCall]
  rw [List.getElem?_set_self (List.getElem?_eq_some_iff.mp isCall).1]

theorem NotStopped.of_settlesOnce (sound : link.Sound) {event : RpcEvent}
    (law : (link.step options event).SettlesOnce) : link.NotStopped event := by
  cases event with
  | resume id posts =>
    intro call isCall isResuming
    by_contra stopped
    rw [Bool.not_eq_true, Option.isSome_eq_false_iff, Option.isNone_iff_eq_none] at stopped
    have isLost : (link.step options (.resume id posts)).calls[id]? =
        some { call with stage := .lost } := lost_of_stopped isCall isResuming stopped
    have counts := (sound.counted call (List.mem_of_getElem? isCall)).of_waits (by
      rw [isResuming]; rfl)
    rcases law.kept _ (List.mem_of_getElem? isLost) with isSettled | kept
    · rw [counts.1] at isSettled
      cases isSettled
    · rcases kept with stage | stage | ⟨worker, stage | stage, _⟩ <;> cases stage
  | start spawns | rpc spawns | workerReady worker | workerError worker | started id | reply id
  | messageError id | timeout id | exit worker spawns | stop => trivial

@[simp] theorem stop_calls : link.stop.calls = link.calls := by
  simp only [stop]
  split <;> rfl

theorem setCall_elsewhere {id other : Nat} (different : id ≠ other) (call : PendingRpc) :
    (link.setCall other call).calls[id]? = link.calls[id]? :=
  List.getElem?_set_ne different.symm

theorem stepCall_elsewhere {id other : Nat} (different : id ≠ other) (call : PendingRpc)
    (event : RpcEvent) :
    (link.stepCall options other call event).calls[id]? = link.calls[id]? := by
  cases event with
  | start spawns | rpc spawns | workerReady worker | workerError worker | exit worker spawns
  | stop => rfl
  | resume first posts =>
    simp only [stepCall]
    split
    · exact setCall_elsewhere different _
    · simp only [resumed]
      split
      · exact setCall_elsewhere different _
      · split <;> exact setCall_elsewhere different _
    · rfl
  | started first | reply first | messageError first =>
    simp only [stepCall]
    split
    · exact setCall_elsewhere different _
    · rfl
  | timeout first =>
    simp only [stepCall]
    split
    · split
      · split
        · rw [stop_calls]
          exact setCall_elsewhere different _
        · exact setCall_elsewhere different _
      · rfl
    · rfl

theorem stepCall_lost (isLost : call.stage = .lost)
    (event : RpcEvent) : link.stepCall options id call event = link := by
  cases event <;> simp only [stepCall, isLost]

theorem afterExit_lost (isLost : call.stage = .lost) (worker : Nat)
    (restarting : Bool) (stage : CallStage) : afterExit worker restarting stage call = call := by
  simp [afterExit, PendingRpc.moves, isLost]

/-- Whatever happens, nothing settles a lost call. -/
theorem lost_step (isCall : link.calls[id]? = some call)
    (isLost : call.stage = .lost) (event : RpcEvent) :
    (link.step options event).calls[id]? = some call := by
  cases event with
  | start spawns =>
    simp only [step, start_calls]
    exact isCall
  | rpc spawns =>
    simp only [step, start_calls]
    rw [List.getElem?_append_left (List.getElem?_eq_some_iff.mp isCall).1]
    exact isCall
  | workerReady worker | workerError worker =>
    simp only [step]
    split
    · simp [endStart, isCall, isLost]
    · exact isCall
  | exit worker spawns =>
    simp only [step]
    split
    · simp only [exits, List.getElem?_map, isCall, Option.map_some]
      rw [afterExit_lost isLost]
    · exact isCall
  | stop =>
    simp only [step, stop_calls]
    exact isCall
  | resume other posts | started other | reply other | messageError other | timeout other =>
    simp only [step]
    split
    next current isCurrent =>
      by_cases same : id = other
      · subst same
        rw [isCall, Option.some.injEq] at isCurrent
        subst isCurrent
        rw [stepCall_lost isLost]
        exact isCall
      · rw [stepCall_elsewhere same]
        exact isCall
    · exact isCall

theorem lost_run (isCall : link.calls[id]? = some call)
    (isLost : call.stage = .lost) (events : List RpcEvent) :
    (run (step options) link events).calls[id]? = some call := by
  induction events generalizing link with
  | nil => exact isCall
  | cons event rest ih => exact ih (lost_step isCall isLost event)

/-! ## Runs -/

/-- In every state of a run each call is settled once or will be, is not posted again after the
worker began it, and is posted twice at most, exactly if no call goes on after its start while
the client is stopped. -/
theorem settles_once_iff (options : RpcOptions) (events : List RpcEvent) :
    Along (step options) NotStopped initial events ↔
      ∀ earlier, earlier <+: events → (run (step options) initial earlier).SettlesOnce := by
  have keeps : ∀ (link : WorkerRpcClient) (event : RpcEvent), link.Sound →
      link.NotStopped event → (link.step options event).Sound :=
    fun link event sound notStopped => sound.step event notStopped
  have breaks : ∀ (link : WorkerRpcClient) (event : RpcEvent), link.Sound →
      (link.step options event).SettlesOnce → link.NotStopped event :=
    fun link event sound law => .of_settlesOnce sound law
  exact along_iff_law (fun link sound => sound.settlesOnce) keeps breaks Sound.initial events

/-- The client is stopped between the worker's ready and the rest of the call. -/
def stoppedRun : List RpcEvent :=
  [.rpc true, .workerReady 0, .stop, .resume 0 true, .exit 0 true]

/-- The call is never settled, though its worker is gone. -/
theorem call_lost_after_stop (events : List RpcEvent) :
    ∃ call, (run (step ⟨false, false⟩) initial (stoppedRun ++ events)).calls[0]? = some call ∧
      call.settles = 0 := by
  rw [run_append]
  have isCall : (run (step ⟨false, false⟩) initial stoppedRun).calls[0]? =
      some { stage := .lost } := by decide
  exact ⟨_, lost_run isCall rfl events, rfl⟩

/-- So the law fails in the state where the call went on. -/
theorem settlesOnce_fails_after_stop :
    ¬ (run (step ⟨false, false⟩) initial stoppedRun).SettlesOnce ∧
      ∀ events, ∃ call, (run (step ⟨false, false⟩) initial
        (stoppedRun ++ events)).calls[0]? = some call ∧ call.settles = 0 := by
  refine ⟨?_, call_lost_after_stop⟩
  intro law
  have isCall : (run (step ⟨false, false⟩) initial stoppedRun).calls[0]? =
      some { stage := .lost } := by decide
  rcases law.kept _ (List.mem_of_getElem? isCall) with isSettled | kept
  · cases isSettled
  · rcases kept with stage | stage | ⟨worker, stage | stage, _⟩ <;> cases stage

end WorkerRpcClient

end Nightgate.Midnight
