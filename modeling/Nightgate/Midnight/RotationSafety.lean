import Nightgate.Midnight.RotatingSlot
import Mathlib.Order.Nat
import Nightgate.Library.Pointwise

/-!
# What holds across a planned restart

One worker of a slot is alive at a time, a marked worker takes no more calls, and a call that
may send is with one worker at most. Every step of the main thread and of the workers keeps
this.
-/

namespace Nightgate.Midnight.Rotation

open Library

namespace Slot

def Unexited (s : Slot) (worker : Nat) : Prop :=
  ∃ t, s.threads worker = some t ∧ t.exited = false

/-- The worker has not exited, but takes no more calls. -/
def Leaves (s : Slot) (worker : Nat) : Prop :=
  ∃ t, s.threads worker = some t ∧ t.exited = false ∧ (t.draining = true ∨ t.alive = false)

/-- No worker has got the call. -/
def Nowhere (s : Slot) (id : Nat) : Prop :=
  ∀ worker t, s.threads worker = some t → t.places.count id = 0

/-- No other worker has got the call, and this one has got it once at most. -/
def OnlyAt (s : Slot) (id home : Nat) : Prop :=
  ∀ worker t, s.threads worker = some t →
    t.places.count id ≤ 1 ∧ (worker ≠ home → t.places.count id = 0)

/-- Where a call that may send can be. -/
def Sole (s : Slot) (id : Nat) : Phase → Prop
  | .waiting _ => s.Nowhere id
  | .starting _ => s.Nowhere id
  | .posted worker => s.OnlyAt id worker
  | .settled _ => ∃ worker, s.OnlyAt id worker

structure CallSound (s : Slot) (id : Nat) (call : Call) : Prop where
  waiting : ∀ worker, call.phase = .waiting (some worker) → s.drainingWorker = some worker
  starting : ∀ worker, call.phase = .starting worker → s.Unexited worker
  posted : ∀ worker, call.phase = .posted worker → s.Unexited worker
  attempt : call.attempt ≤ 1
  sent : call.sentTo.length ≤ call.attempt + call.phase.sends
  sole : call.method.submitting = true → s.Sole id call.phase

structure Sound (s : Slot) : Prop where
  threads : ∀ worker t, s.threads worker = some t → t.Sound
  known : ∀ worker t, s.threads worker = some t → worker < s.nextWorker
  worker : ∀ worker, s.worker = some worker → s.Unexited worker
  /-- One worker at a time. -/
  unique : ∀ worker other, s.Unexited worker → s.Unexited other → worker = other
  orphan : ∀ worker, s.worker = none → s.Unexited worker → s.stopRequested = true
  stopped : s.stopRequested = true → s.everStarted = false
  draining : ∀ worker, s.drainingWorker = some worker → s.Leaves worker
  stopping : ∀ worker, s.stopping = some worker → s.stopRequested = true
  calls : ∀ id call, s.calls id = some call → s.CallSound id call
  fresh : ∀ id, s.calls id = none → s.Nowhere id
  numbered : ∀ id call, s.calls id = some call → id < s.nextCall

section Frames

variable {s s' : Slot} {id worker : Nat} {call : Call} {change : Thread → Thread}

theorem Leaves.unexited (leaves : s.Leaves worker) : s.Unexited worker := by
  rcases leaves with ⟨t, isThread, unexited, _⟩
  exact ⟨t, isThread, unexited⟩

theorem Nowhere.onlyAt (nowhere : s.Nowhere id) (home : Nat) : s.OnlyAt id home := by
  intro worker t isThread
  have none := nowhere worker t isThread
  exact ⟨none ▸ Nat.zero_le 1, fun _ => none⟩

/-- A worker after the change of one worker. -/
theorem of_onThread {other : Nat} {t' : Thread}
    (isThread : (s.onThread worker change).threads other = some t') :
    (other = worker ∧ ∃ t, s.threads worker = some t ∧ t' = change t) ∨
      (other ≠ worker ∧ s.threads other = some t') := by
  simp only [onThread] at isThread
  split at isThread
  next same =>
    subst same
    rcases Option.map_eq_some_iff.mp isThread with ⟨t, wasThread, rfl⟩
    exact Or.inl ⟨rfl, t, wasThread, rfl⟩
  next different => exact Or.inr ⟨different, isThread⟩

theorem onThread_self {t : Thread} (isThread : s.threads worker = some t) :
    (s.onThread worker change).threads worker = some (change t) := by
  simp only [onThread, if_true, isThread, Option.map_some]

theorem onThread_other {other : Nat} (different : other ≠ worker) :
    (s.onThread worker change).threads other = s.threads other := by
  simp only [onThread, if_neg different]

/-- The workers stay, and there are no new ones. -/
def Follows (s s' : Slot) : Prop :=
  (∀ worker t', s'.threads worker = some t' → ∃ t, s.threads worker = some t ∧ t.Stays t') ∧
    ∀ worker t, s.threads worker = some t → ∃ t', s'.threads worker = some t' ∧ t.Stays t'

theorem Follows.unexited (follows : s.Follows s') : s'.Unexited worker ↔ s.Unexited worker := by
  constructor
  · intro unexited
    rcases unexited with ⟨t', isThread', here⟩
    rcases follows.1 worker t' isThread' with ⟨t, isThread, stays⟩
    exact ⟨t, isThread, stays.exited ▸ here⟩
  · intro unexited
    rcases unexited with ⟨t, isThread, here⟩
    rcases follows.2 worker t isThread with ⟨t', isThread', stays⟩
    exact ⟨t', isThread', stays.exited.trans here⟩

theorem Follows.leaves (follows : s.Follows s') (leaves : s.Leaves worker) :
    s'.Leaves worker := by
  rcases leaves with ⟨t, isThread, here, gone⟩
  rcases follows.2 worker t isThread with ⟨t', isThread', stays⟩
  refine ⟨t', isThread', stays.exited.trans here, ?_⟩
  rcases gone with drains | dead
  · exact Or.inl (stays.draining drains)
  · right
    cases alive : t'.alive with
    | false => rfl
    | true =>
      rw [stays.alive alive] at dead
      cases dead

theorem onThread_follows (stays : ∀ t, s.threads worker = some t → t.Stays (change t)) :
    s.Follows (s.onThread worker change) := by
  constructor
  · intro other t' isThread'
    rcases of_onThread isThread' with ⟨rfl, t, isThread, rfl⟩ | ⟨_, isThread⟩
    · exact ⟨t, isThread, stays t isThread⟩
    · exact ⟨t', isThread, Thread.Stays.refl t'⟩
  · intro other t isThread
    by_cases same : other = worker
    · subst same
      exact ⟨change t, onThread_self isThread, stays t isThread⟩
    · exact ⟨t, (onThread_other same).trans isThread, Thread.Stays.refl t⟩

/-- The workers of `s'` are workers of `s`, and a call of theirs is where it was. -/
def Fewer (s s' : Slot) (id : Nat) : Prop :=
  ∀ worker t', s'.threads worker = some t' →
    ∃ t, s.threads worker = some t ∧ t'.places.count id ≤ t.places.count id

theorem Fewer.nowhere (fewer : s.Fewer s' id) (nowhere : s.Nowhere id) : s'.Nowhere id := by
  intro worker t' isThread'
  rcases fewer worker t' isThread' with ⟨t, isThread, count⟩
  rw [nowhere worker t isThread] at count
  exact Nat.le_zero.mp count

theorem Fewer.onlyAt {home : Nat} (fewer : s.Fewer s' id) (only : s.OnlyAt id home) :
    s'.OnlyAt id home := by
  intro worker t' isThread'
  rcases fewer worker t' isThread' with ⟨t, isThread, count⟩
  rcases only worker t isThread with ⟨once, elsewhere⟩
  refine ⟨count.trans once, ?_⟩
  intro other
  rw [elsewhere other] at count
  exact Nat.le_zero.mp count

theorem Fewer.sole {phase : Phase} (fewer : s.Fewer s' id) (sole : s.Sole id phase) :
    s'.Sole id phase := by
  cases phase with
  | waiting | starting => exact fewer.nowhere sole
  | posted worker => exact fewer.onlyAt sole
  | settled outcome =>
    rcases sole with ⟨home, only⟩
    exact ⟨home, fewer.onlyAt only⟩

theorem onThread_fewer
    (places : ∀ t, s.threads worker = some t → (change t).places.count id ≤ t.places.count id) :
    s.Fewer (s.onThread worker change) id := by
  intro other t' isThread'
  rcases of_onThread isThread' with ⟨rfl, t, isThread, rfl⟩ | ⟨_, isThread⟩
  · exact ⟨t, isThread, places t isThread⟩
  · exact ⟨t', isThread, Nat.le_refl _⟩

/-- The frame rule for a change of one worker that leaves every call where it can be. -/
theorem Sound.onThread_of (sound : s.Sound)
    (keeps : ∀ t, s.threads worker = some t → t.Sound → (change t).Sound)
    (stays : ∀ t, s.threads worker = some t → t.Stays (change t))
    (sole : ∀ id call, s.calls id = some call → call.method.submitting = true →
      (s.onThread worker change).Sole id call.phase)
    (fresh : ∀ id, s.calls id = none → (s.onThread worker change).Nowhere id) :
    (s.onThread worker change).Sound := by
  have follows : s.Follows (s.onThread worker change) := onThread_follows stays
  constructor
  · intro other t' isThread'
    rcases of_onThread isThread' with ⟨rfl, t, isThread, rfl⟩ | ⟨_, isThread⟩
    · exact keeps t isThread (sound.threads other t isThread)
    · exact sound.threads other t' isThread
  · intro other t' isThread'
    rcases follows.1 other t' isThread' with ⟨t, isThread, _⟩
    exact sound.known other t isThread
  · intro other isWorker
    exact follows.unexited.mpr (sound.worker other isWorker)
  · intro first second firstStays secondStays
    exact sound.unique first second (follows.unexited.mp firstStays)
      (follows.unexited.mp secondStays)
  · intro other noWorker stays
    exact sound.orphan other noWorker (follows.unexited.mp stays)
  · exact sound.stopped
  · intro other isDraining
    exact follows.leaves (sound.draining other isDraining)
  · exact sound.stopping
  · intro id call isCall
    have isSound := sound.calls id call isCall
    exact { isSound with
      starting := fun other starts => follows.unexited.mpr (isSound.starting other starts)
      posted := fun other posts => follows.unexited.mpr (isSound.posted other posts)
      sole := sole id call isCall }
  · exact fresh
  · exact sound.numbered

/-- The frame rule for a step of one worker. -/
theorem Sound.onThread (sound : s.Sound)
    (keeps : ∀ t, s.threads worker = some t → t.Sound → (change t).Sound)
    (becomes : ∀ t, s.threads worker = some t → t.Becomes (change t)) :
    (s.onThread worker change).Sound := by
  have fewer : ∀ id, s.Fewer (s.onThread worker change) id :=
    fun id => onThread_fewer fun t isThread => (becomes t isThread).places id
  apply sound.onThread_of keeps
  · intro t isThread
    exact (becomes t isThread).toStays
  · intro id call isCall submits
    exact (fewer id).sole ((sound.calls id call isCall).sole submits)
  · intro id noCall
    exact (fewer id).nowhere (sound.fresh id noCall)

theorem Sound.work (sound : s.Sound) (keeps : ∀ t : Thread, t.Sound → (change t).Sound)
    (becomes : ∀ t : Thread, t.Becomes (change t)) : (s.work worker change).Sound := by
  apply sound.onThread
  · intro t _ isSound
    split
    · exact keeps t isSound
    · exact isSound
  · intro t _
    split
    · exact becomes t
    · exact Thread.Becomes.refl t

/-- The frame rule for a change of one call. -/
theorem Sound.setCall (sound : s.Sound) (known : id < s.nextCall) (isSound : s.CallSound id call) :
    (s.setCall id call).Sound := by
  refine { sound with calls := ?_, fresh := ?_, numbered := ?_ }
  · intro other otherCall isCall
    simp only [Slot.setCall] at isCall
    rcases mem_update isCall with ⟨rfl, ⟨⟩⟩ | ⟨same, isCall⟩
    · exact { isSound with }
    · exact { sound.calls other otherCall isCall with }
  · intro other noCall
    simp only [Slot.setCall] at noCall
    by_cases same : other = id
    · rw [same, Function.update_self] at noCall
      cases noCall
    · rw [Function.update_of_ne same] at noCall
      exact sound.fresh other noCall
  · intro other otherCall isCall
    simp only [Slot.setCall] at isCall
    by_cases same : other = id
    · rw [same]
      exact known
    · rw [Function.update_of_ne same] at isCall
      exact sound.numbered other otherCall isCall

end Frames

/-! ## The steps keep it -/

section Steps

variable {s : Slot} {id worker : Nat} {call : Call}

theorem sound_start : Slot.start.Sound := by
  constructor
  · nofun
  · nofun
  · nofun
  · intro worker other impossible
    rcases impossible with ⟨t, impossible, _⟩
    cases impossible
  · intro worker _ impossible
    rcases impossible with ⟨t, impossible, _⟩
    cases impossible
  · nofun
  · nofun
  · nofun
  · nofun
  · nofun
  · nofun

/-- A worker that is new has got no call. -/
theorem of_spawned {next : Nat} {t : Thread}
    (isThread : Function.update s.threads next (some Thread.new) worker = some t) :
    (worker = next ∧ t = Thread.new) ∨ s.threads worker = some t := by
  by_cases same : worker = next
  · subst same
    rw [Function.update_self] at isThread
    exact Or.inl ⟨rfl, (Option.some.inj isThread).symm⟩
  · rw [Function.update_of_ne same] at isThread
    exact Or.inr isThread

variable {s' : Slot}

theorem Sole.spawned {phase : Phase} {next : Nat}
    (isThreads : s'.threads = Function.update s.threads next (some Thread.new))
    (sole : s.Sole id phase) : s'.Sole id phase := by
  have nowhere : s.Nowhere id → s'.Nowhere id := by
    intro nowhere worker t isThread
    rw [isThreads] at isThread
    rcases of_spawned isThread with ⟨_, rfl⟩ | before
    · rfl
    · exact nowhere worker t before
  have onlyAt : ∀ home, s.OnlyAt id home → s'.OnlyAt id home := by
    intro home only worker t isThread
    rw [isThreads] at isThread
    rcases of_spawned isThread with ⟨_, rfl⟩ | before
    · exact ⟨Nat.zero_le 1, fun _ => rfl⟩
    · exact only worker t before
  cases phase with
  | waiting | starting => exact nowhere sole
  | posted worker => exact onlyAt worker sole
  | settled outcome =>
    rcases sole with ⟨home, only⟩
    exact ⟨home, onlyAt home only⟩

/-- No worker runs where the slot has none and no stop was asked for. -/
theorem Sound.all_exited (sound : s.Sound) (noWorker : s.worker = none)
    (running : s.stopRequested = false) (worker : Nat) : ¬ s.Unexited worker := by
  intro stays
  rw [sound.orphan worker noWorker stays] at running
  cases running

theorem Sound.startWorkerSlot (sound : s.Sound) (running : s.stopRequested = false) :
    s.startWorkerSlot.Sound := by
  have vacuous : ∀ {everStarted : Bool}, s.stopRequested = true → everStarted = false := by
    intro everStarted stopped
    rw [running] at stopped
    cases stopped
  unfold Slot.startWorkerSlot
  split
  next worker isWorker =>
    exact { sound with
      stopped := vacuous
      calls := fun id call isCall => { sound.calls id call isCall with } }
  next noWorker =>
    have gone := sound.all_exited noWorker running
    constructor
    · intro worker t isThread
      rcases of_spawned isThread with ⟨_, rfl⟩ | before
      · exact Thread.sound_new
      · exact sound.threads worker t before
    · intro worker t isThread
      rcases of_spawned isThread with ⟨rfl, _⟩ | before
      · exact Nat.lt_succ_self s.nextWorker
      · exact Nat.lt_succ_of_lt (sound.known worker t before)
    · intro worker isWorker
      cases isWorker
      exact ⟨Thread.new, Function.update_self .., rfl⟩
    · have onlyNext : ∀ worker t,
          Function.update s.threads s.nextWorker (some Thread.new) worker = some t →
            t.exited = false → worker = s.nextWorker := by
        intro worker t isThread stays
        rcases of_spawned isThread with ⟨same, _⟩ | before
        · exact same
        · exact absurd ⟨t, before, stays⟩ (gone worker)
      intro worker other unexited otherUnexited
      rcases unexited with ⟨t, isThread, stays⟩
      rcases otherUnexited with ⟨t', isThread', stays'⟩
      rw [onlyNext worker t isThread stays, onlyNext other t' isThread' stays']
    · nofun
    · exact vacuous
    · intro worker isDraining
      exact absurd (sound.draining worker isDraining).unexited (gone worker)
    · exact sound.stopping
    · intro id call isCall
      have isSound := sound.calls id call isCall
      refine { isSound with starting := ?_, posted := ?_, sole := ?_ }
      · intro worker starts
        exact absurd (isSound.starting worker starts) (gone worker)
      · intro worker posts
        exact absurd (isSound.posted worker posts) (gone worker)
      · intro submits
        exact Sole.spawned rfl (isSound.sole submits)
    · intro id noCall
      have sole : s.Sole id (.waiting none) := sound.fresh id noCall
      exact sole.spawned rfl
    · exact sound.numbered

theorem once_sent (phase : Phase) : phase.sends ≤ 1 := by
  cases phase <;> simp [Phase.sends]

theorem Sole.settled {phase : Phase} (sole : s.Sole id phase) (outcome : Outcome) :
    s.Sole id (.settled outcome) := by
  cases phase with
  | waiting | starting => exact ⟨0, Nowhere.onlyAt sole 0⟩
  | posted worker => exact ⟨worker, sole⟩
  | settled outcome => exact sole

/-- A call that ends, whatever becomes of the workers. -/
theorem CallSound.settled (isSound : s.CallSound id call)
    (sole : s.Sole id call.phase → s'.Sole id call.phase) (outcome : Outcome) :
    s'.CallSound id { call with phase := .settled outcome } where
  waiting worker impossible := by cases impossible
  starting worker impossible := by cases impossible
  posted worker impossible := by cases impossible
  attempt := isSound.attempt
  sent := isSound.sent.trans (Nat.add_le_add_left (once_sent call.phase) call.attempt)
  sole submits := (sole (isSound.sole submits)).settled outcome

theorem Sound.settle (sound : s.Sound) (isCall : s.calls id = some call) (outcome : Outcome) :
    (s.settle id call outcome).Sound := by
  apply sound.setCall (sound.numbered id call isCall)
  exact (sound.calls id call isCall).settled (fun sole => sole) outcome

theorem Sound.rpc (sound : s.Sound) (method : RpcMethod) : (s.rpc method).Sound := by
  have free : s.calls s.nextCall = none := by
    cases isCall : s.calls s.nextCall with
    | none => rfl
    | some call => exact absurd (sound.numbered s.nextCall call isCall) (Nat.lt_irrefl _)
  have numbered : Slot.Sound { s with nextCall := s.nextCall + 1 } :=
    { sound with
      calls := fun id call isCall => { sound.calls id call isCall with }
      numbered := fun id call isCall => Nat.lt_succ_of_lt (sound.numbered id call isCall) }
  apply numbered.setCall (Nat.lt_succ_self s.nextCall)
  constructor
  · intro worker waits
    exact Phase.waiting.inj waits
  · nofun
  · nofun
  · exact Nat.zero_le 1
  · exact Nat.le_refl 0
  · intro _
    exact sound.fresh s.nextCall free

/-- What the post of a call does to the worker. -/
theorem push_places (t : Thread) (id : Nat) (method : RpcMethod) (other : Nat) :
    ({ t with inbox := t.inbox ++ [.call id method] } : Thread).places.count other =
      t.places.count other + if id = other then 1 else 0 := by
  simp only [Thread.places, List.filterMap_append, List.filterMap_cons, Request.id?,
    List.filterMap_nil, List.count_append, List.count_cons, List.count_nil, beq_iff_eq]
  omega

section Sound

variable (sound : s.Sound)

include sound

/-- A call that no worker has got is sent to the worker of the slot. -/
theorem Sound.post (isCall : s.calls id = some call)
    (notSent : call.phase.sends = 0)
    (nowhere : call.method.submitting = true → s.Nowhere id) (isWorker : s.worker = some worker) :
    (s.post id call worker).Sound := by
  have isSound := sound.calls id call isCall
  have posted : (s.setCall id
      { call with phase := .posted worker, sentTo := worker :: call.sentTo }).Sound := by
    apply sound.setCall (sound.numbered id call isCall)
    constructor
    · nofun
    · nofun
    · intro other isWorker'
      cases isWorker'
      exact sound.worker worker isWorker
    · exact isSound.attempt
    · have sent := isSound.sent
      rw [notSent] at sent
      exact Nat.succ_le_succ sent
    · intro submits
      exact Nowhere.onlyAt (nowhere submits) worker
  have elsewhere : ∀ other, other ≠ id → ∀ t : Thread,
      (if t.alive then { t with inbox := t.inbox ++ [.call id call.method] } else t).places.count
        other ≤ t.places.count other := by
    intro other different t
    split
    · rw [push_places, if_neg different.symm]; exact Nat.le_refl _
    · exact Nat.le_refl _
  apply posted.onThread_of
  · intro t _ isSound
    split
    · exact { isSound with }
    · exact isSound
  · intro t _
    split
    · exact ⟨fun living => living, rfl, fun drains => drains⟩
    · exact Thread.Stays.refl t
  · intro other otherCall isOther submits
    by_cases same : other = id
    · subst same
      simp only [Slot.setCall, Function.update_self] at isOther
      cases isOther
      intro here t' isThread'
      rcases of_onThread isThread' with ⟨rfl, t, isThread, rfl⟩ | ⟨_, isThread⟩
      · have none := nowhere submits here t isThread
        refine ⟨?_, fun different => absurd rfl different⟩
        split
        · rw [push_places, none, if_pos rfl]
        · rw [none]; exact Nat.zero_le 1
      · have none := nowhere submits here t' isThread
        exact ⟨none ▸ Nat.zero_le 1, fun _ => none⟩
    · apply (onThread_fewer fun t _ => elsewhere other same t).sole
      exact (posted.calls other otherCall isOther).sole submits
  · intro other noCall
    have different : other ≠ id := by
      intro same
      subst same
      simp only [Slot.setCall, Function.update_self] at noCall
      cases noCall
    exact (onThread_fewer fun t _ => elsewhere other different t).nowhere
      (posted.fresh other noCall)

theorem Sound.proceed (id : Nat) : (s.proceed id).Sound := by
  unfold Slot.proceed
  split
  next call isCall =>
    have isSound := sound.calls id call isCall
    split
    next phase =>
      have nowhere : call.method.submitting = true → s.Nowhere id := by
        intro submits
        have sole := isSound.sole submits
        rw [phase] at sole
        exact sole
      split
      next worker isWorker =>
        exact sound.post isCall (by rw [phase]; rfl) nowhere isWorker
      next noWorker =>
        split
        next started =>
          have running : s.stopRequested = false := by
            cases stopped : s.stopRequested with
            | false => rfl
            | true =>
              rw [sound.stopped stopped] at started
              cases started
          have spawned := sound.startWorkerSlot running
          have sameCalls : s.startWorkerSlot.calls = s.calls := by
            simp only [Slot.startWorkerSlot, noWorker]
          have sameNext : s.startWorkerSlot.nextCall = s.nextCall := by
            simp only [Slot.startWorkerSlot, noWorker]
          have known := sound.numbered id call isCall
          rw [← sameCalls] at isCall
          have later := spawned.calls id call isCall
          apply spawned.setCall (sameNext ▸ known)
          refine ⟨?_, ?_, ?_, later.attempt, ?_, ?_⟩
          · nofun
          · intro worker isNext
            cases isNext
            refine ⟨Thread.new, ?_, rfl⟩
            simp only [Slot.startWorkerSlot, noWorker, Function.update_self]
          · nofun
          · have sent := later.sent
            rw [phase] at sent
            exact sent
          · intro submits
            have sole := later.sole submits
            rw [phase] at sole
            exact sole
        · exact sound.settle isCall .failed
    · exact sound
  · exact sound

theorem Sound.ready (id : Nat) : (s.ready id).Sound := by
  unfold Slot.ready
  split
  next call isCall =>
    split
    next starting phase =>
      split
      next worker isWorker =>
        apply sound.post isCall (by rw [phase]; rfl) _ isWorker
        intro submits
        have sole := (sound.calls id call isCall).sole submits
        rw [phase] at sole
        exact sole
      · exact sound.settle isCall .failed
    · exact sound
  · exact sound

/-- A worker that leaves is marked, unless another mark is there. -/
theorem Sound.mark (leaves : s.Leaves worker)
    (free : s.drainingWorker = none ∨ s.drainingWorker = some worker) :
    Slot.Sound { s with drainingWorker := some worker } := by
  refine { sound with draining := ?_, calls := ?_ }
  · intro other isDraining
    cases isDraining
    exact leaves
  · intro id call isCall
    have isSound := sound.calls id call isCall
    refine { isSound with waiting := ?_ }
    intro other waits
    have marked := isSound.waiting other waits
    rcases free with none | same
    · rw [none] at marked
      cases marked
    · exact same ▸ marked

/-- A worker that has not exited is marked, or no worker is. -/
theorem Sound.marked (stays : s.Unexited worker) :
    s.drainingWorker = none ∨ s.drainingWorker = some worker := by
  cases isDraining : s.drainingWorker with
  | none => exact Or.inl rfl
  | some other =>
    right
    rw [sound.unique other worker (sound.draining other isDraining).unexited stays]

theorem Sound.retry (isCall : s.calls id = some call) (first : call.attempt = 0)
    (nowhere : call.method.submitting = true → s.Nowhere id) : (s.retry id call).Sound := by
  have isSound := sound.calls id call isCall
  apply sound.setCall (sound.numbered id call isCall)
  refine ⟨?_, ?_, ?_, Nat.le_refl 1, ?_, nowhere⟩
  · intro worker waits
    exact Phase.waiting.inj waits
  · nofun
  · nofun
  · have sent := isSound.sent
    rw [first] at sent
    exact sent.trans (Nat.add_le_add_left (once_sent call.phase) 0)

/-- The reply of a worker that refused the call is taken from its port. -/
theorem Sound.takeRefusal (worker id : Nat) :
    (s.onThread worker fun t => { t with refused := t.refused.erase id }).Sound := by
  apply sound.onThread
  · intro t _ isSound
    exact { isSound with
      refused := fun other listed => isSound.refused other (List.mem_of_mem_erase listed) }
  · intro t _
    refine ⟨⟨fun living => living, rfl, fun drains => drains⟩, ?_⟩
    intro other
    simp only [Thread.places, List.count_append]
    have fewer := (List.erase_sublist (a := id) (l := t.refused)).count_le other
    omega

end Sound

/-- A call that was refused is nowhere, once the refusal is taken. -/
theorem taken_nowhere {t : Thread} (only : s.OnlyAt id worker)
    (isThread : s.threads worker = some t) (refused : id ∈ t.refused) :
    (s.onThread worker fun t => { t with refused := t.refused.erase id }).Nowhere id := by
  intro other t' isThread'
  rcases of_onThread isThread' with ⟨rfl, before, wasThread, rfl⟩ | ⟨different, isThread⟩
  · rw [isThread] at wasThread
    cases wasThread
    have once := (only other t isThread).1
    have present : 0 < t.refused.count id := List.count_pos_iff.mpr refused
    simp only [Thread.places, List.count_append] at once ⊢
    rw [List.count_erase_self]
    omega
  · exact (only other t' isThread).2 different

section Sound

variable (sound : s.Sound)

include sound

/-- The mark that `rpc` sets when a call was refused: the worker of the slot is the one that
refused it. -/
theorem Sound.orMark (leaves : s.Leaves worker) :
    Slot.Sound { s with drainingWorker := s.drainingWorker.or s.worker } := by
  cases isDraining : s.drainingWorker with
  | some marked =>
    rw [Option.some_or]
    exact sound.mark (sound.draining marked isDraining) (Or.inr isDraining)
  | none =>
    rw [Option.none_or]
    cases isWorker : s.worker with
    | some current =>
      have same := sound.unique current worker (sound.worker current isWorker) leaves.unexited
      subst same
      have marked := sound.mark leaves (Or.inl isDraining)
      rw [isWorker] at marked
      exact marked
    | none =>
      have same : ({ s with worker := none, drainingWorker := none } : Slot) = s := by
        rcases s with ⟨⟩
        simp_all
      exact same.symm ▸ sound

theorem Sound.reply (id : Nat) : (s.reply id).Sound := by
  unfold Slot.reply
  split
  next call isCall =>
    split
    next worker phase =>
      split
      next t isThread =>
        have isSound := sound.calls id call isCall
        split
        next refusedHere =>
          have taken := sound.takeRefusal worker id
          unfold Slot.refuse
          split
          next first =>
            have drains := (sound.threads worker t isThread).refused id refusedHere
            let change : Thread → Thread :=
              fun t => { t with refused := t.refused.erase id }
            have isTaken : (s.onThread worker change).threads worker =
                some (change t) := onThread_self isThread
            rcases isSound.posted worker phase with ⟨t', isThread', here⟩
            rw [isThread] at isThread'
            cases isThread'
            apply (taken.orMark ⟨_, isTaken, here, Or.inl drains⟩).retry isCall first
            intro submits
            have sole := isSound.sole submits
            rw [phase] at sole
            exact taken_nowhere sole isThread refusedHere
          · exact taken.settle isCall .rotating
        · split
          · exact sound.settle isCall .answered
          · exact sound
      · exact sound
    · exact sound
  · exact sound

theorem Sound.timeout (id : Nat) : (s.timeout id).Sound := by
  unfold Slot.timeout
  split
  next call isCall =>
    split
    · exact sound.settle isCall .failed
    · exact sound
  · exact sound

theorem Sound.kill (worker : Nat) : (s.onThread worker Thread.die).Sound :=
  sound.onThread (fun _ _ isSound => isSound.die) fun t _ => Thread.die_becomes t

theorem Sound.drainTimeout (id : Nat) : (s.drainTimeout id).Sound := by
  unfold Slot.drainTimeout
  split
  · split
    next worker _ =>
      split
      · exact sound.kill worker
      · exact sound
    · exact sound
  · exact sound

theorem Sound.deliver (worker : Nat) : (s.deliver worker).Sound := by
  unfold Slot.deliver
  split
  next t isThread =>
    split
    next message rest exited outbox =>
      have drains := (sound.threads worker t isThread).announced message
        (outbox ▸ List.mem_cons_self)
      have leaves : s.Leaves worker := ⟨t, isThread, exited, Or.inl drains⟩
      have marked := sound.mark leaves (sound.marked leaves.unexited)
      have announced : Slot.Sound
          { s with rotationAnnouncedBy := some worker, drainingWorker := some worker } :=
        { marked with calls := fun id call isCall => { marked.calls id call isCall with } }
      apply announced.onThread
      · intro t' isThread' isSound
        have same : s.threads worker = some t' := isThread'
        rw [isThread] at same
        cases same
        refine { isSound with announced := ?_ }
        intro later listed
        exact isSound.announced later (outbox ▸ List.mem_cons_of_mem message listed)
      · intro t' isThread'
        refine ⟨⟨?_, rfl, fun drains => drains⟩, fun _ => Nat.le_refl _⟩
        intro living
        rw [Bool.and_eq_true] at living
        exact living.1
    · exact sound
  · exact sound

end Sound

/-- A posted call that is rejected ends, or is repeated if it sends nothing. -/
theorem CallSound.rejected (isSound : s.CallSound id call) (phase : call.phase = .posted worker)
    (sole : s.Sole id call.phase → s'.Sole id call.phase) (rotated : Bool) :
    s'.CallSound id (rejectPending s'.drainingWorker rotated call) := by
  simp only [rejectPending, phase]
  split
  next repeated =>
    refine ⟨?_, ?_, ?_, Nat.le_refl 1, ?_, ?_⟩
    · intro other waits
      exact Phase.waiting.inj waits
    · nofun
    · nofun
    · have sent := isSound.sent
      rw [repeated.2.1] at sent
      exact sent.trans (Nat.add_le_add_left (once_sent call.phase) 0)
    · intro submits
      rw [repeated.2.2] at submits
      cases submits
  · exact isSound.settled sole _

theorem rejectPending_of_not_posted {drainingWorker : Option Nat} {rotated : Bool}
    (phase : ∀ worker, call.phase ≠ .posted worker) :
    rejectPending drainingWorker rotated call = call := by
  unfold rejectPending
  split
  next worker isPosted => exact absurd isPosted (phase worker)
  · rfl

theorem Sound.workerError (sound : s.Sound) (worker : Nat) : (s.workerError worker).Sound := by
  unfold Slot.workerError
  split
  · refine { sound with calls := ?_, fresh := ?_, numbered := ?_ }
    · intro id call isCall
      rcases Option.map_eq_some_iff.mp isCall with ⟨before, wasCall, rfl⟩
      have isSound := sound.calls id before wasCall
      cases phase : before.phase with
      | posted at_ =>
        have rejected := isSound.rejected phase (fun sole => sole) false
        exact { rejected with }
      | waiting | starting | settled =>
        rw [rejectPending_of_not_posted (by simp [phase])]
        exact { isSound with }
    · intro id noCall
      exact sound.fresh id (Option.map_eq_none_iff.mp noCall)
    · intro id call isCall
      rcases Option.map_eq_some_iff.mp isCall with ⟨before, wasCall, _⟩
      exact sound.numbered id before wasCall
  · exact sound

theorem of_clear {field : Option Nat} {other : Nat} (kept : clear field worker = some other) :
    field = some other ∧ other ≠ worker := by
  unfold clear at kept
  split at kept
  · cases kept
  next different =>
    refine ⟨kept, ?_⟩
    intro same
    rw [same] at kept
    exact different kept

section IsThreads

variable (isThreads : s'.threads = (s.onThread worker Thread.exit).threads)

include isThreads

/-- The other workers do not notice that one has exited. -/
theorem unexited_of_exited {other : Nat} :
    s'.Unexited other ↔ other ≠ worker ∧ s.Unexited other := by
  unfold Unexited
  rw [isThreads]
  constructor
  · intro unexited
    rcases unexited with ⟨t', isThread', here⟩
    rcases of_onThread isThread' with ⟨_, t, _, rfl⟩ | ⟨different, isThread⟩
    · cases here
    · exact ⟨different, t', isThread, here⟩
  · intro both
    rcases both with ⟨different, t, isThread, here⟩
    exact ⟨t, (onThread_other different).trans isThread, here⟩

theorem leaves_of_exited {other : Nat}
    (different : other ≠ worker) (leaves : s.Leaves other) : s'.Leaves other := by
  rcases leaves with ⟨t, isThread, here, gone⟩
  refine ⟨t, ?_, here, gone⟩
  rw [isThreads, onThread_other different]
  exact isThread

theorem fewer_of_exited (id : Nat) :
    s.Fewer s' id := by
  have same : ∀ t, s.threads worker = some t →
      t.exit.places.count id ≤ t.places.count id := fun t _ => Nat.le_refl _
  intro other t' isThread'
  rw [isThreads] at isThread'
  exact onThread_fewer same other t' isThread'

theorem CallSound.afterExit (isSound : s.CallSound id call)
    (isDraining : s'.drainingWorker = clear s.drainingWorker worker) (rotated : Bool) :
    s'.CallSound id (afterExit s'.drainingWorker worker rotated call) := by
  have fewer := fewer_of_exited isThreads id
  unfold Slot.afterExit
  split
  next at_ phase =>
    split
    · exact isSound.settled fewer.sole .failed
    next different =>
      refine { isSound with waiting := ?_, starting := ?_, posted := ?_, sole := ?_ }
      · intro other waits
        rw [phase] at waits
        cases waits
      · intro other starts
        rw [phase] at starts
        cases starts
        exact (unexited_of_exited isThreads).mpr ⟨different, isSound.starting at_ phase⟩
      · intro other posts
        rw [phase] at posts
        cases posts
      · intro submits
        exact fewer.sole (isSound.sole submits)
  next on phase =>
    refine ⟨?_, ?_, ?_, isSound.attempt, ?_, ?_⟩
    · intro other waits
      rcases of_clear (Phase.waiting.inj waits) with ⟨was, different⟩
      have marked := isSound.waiting other (phase.trans (congrArg Phase.waiting was))
      rw [isDraining, marked, clear, if_neg fun same => different (Option.some.inj same)]
    · nofun
    · nofun
    · have sent := isSound.sent
      rw [phase] at sent
      exact sent
    · intro submits
      have sole := isSound.sole submits
      rw [phase] at sole
      exact fewer.nowhere sole
  next notStarting notWaiting =>
    cases phase : call.phase with
    | posted at_ => exact isSound.rejected phase fewer.sole rotated
    | waiting on => exact absurd phase (notWaiting on)
    | starting at_ => exact absurd phase (notStarting at_)
    | settled outcome =>
      rw [rejectPending_of_not_posted (by simp [phase])]
      refine { isSound with waiting := ?_, starting := ?_, posted := ?_, sole := ?_ }
      · intro other waits
        rw [phase] at waits
        cases waits
      · intro other starts
        rw [phase] at starts
        cases starts
      · intro other posts
        rw [phase] at posts
        cases posts
      · intro submits
        exact fewer.sole (isSound.sole submits)

end IsThreads

variable (sound : s.Sound)

include sound

theorem Sound.exit (worker : Nat) : (s.exit worker).Sound := by
  unfold Slot.exit
  split
  · constructor
    · intro other t' isThread'
      rcases of_onThread isThread' with ⟨rfl, t, isThread, rfl⟩ | ⟨_, isThread⟩
      · exact { sound.threads other t isThread with }
      · exact sound.threads other t' isThread
    · intro other t' isThread'
      rcases fewer_of_exited rfl 0 other t' isThread' with ⟨t, isThread, _⟩
      exact sound.known other t isThread
    · intro other isWorker
      rcases of_clear isWorker with ⟨was, different⟩
      exact (unexited_of_exited rfl).mpr ⟨different, sound.worker other was⟩
    · intro first second firstStays secondStays
      exact sound.unique first second ((unexited_of_exited rfl).mp firstStays).2
        ((unexited_of_exited rfl).mp secondStays).2
    · intro other noWorker stays
      rcases (unexited_of_exited rfl).mp stays with ⟨different, here⟩
      cases isWorker : s.worker with
      | none => exact sound.orphan other isWorker here
      | some current =>
        have same := sound.unique current other (sound.worker current isWorker) here
        subst same
        simp [clear, isWorker, different] at noWorker
    · exact sound.stopped
    · intro other isDraining
      rcases of_clear isDraining with ⟨was, different⟩
      exact leaves_of_exited rfl different (sound.draining other was)
    · exact sound.stopping
    · intro id call isCall
      rcases Option.map_eq_some_iff.mp isCall with ⟨before, wasCall, rfl⟩
      exact CallSound.afterExit (by rfl) (sound.calls id before wasCall) (by rfl) _
    · intro id noCall
      exact (fewer_of_exited rfl id).nowhere (sound.fresh id (Option.map_eq_none_iff.mp noCall))
    · intro id call isCall
      rcases Option.map_eq_some_iff.mp isCall with ⟨before, wasCall, _⟩
      exact sound.numbered id before wasCall
  · exact sound

theorem Sound.stopWalletWorker : s.stopWalletWorker.Sound := by
  have stopped : ∀ stopping : Option Nat, Slot.Sound
      { s with everStarted := false, stopRequested := true, stopping := stopping } :=
    fun stopping =>
      { sound with
        orphan := fun _ _ _ => rfl
        stopped := fun _ => rfl
        stopping := fun _ _ => rfl
        calls := fun id call isCall => { sound.calls id call isCall with } }
  simp only [Slot.stopWalletWorker]
  split
  next worker _ _ =>
    apply (stopped (some worker)).work
    · intro t isSound
      exact { isSound with }
    · intro t
      refine Thread.becomes_of_same rfl rfl (fun drains => drains) ?_
      simp [Thread.places, Request.id?]
  · exact stopped s.stopping

theorem Sound.stopRefused : s.stopRefused.Sound := by
  unfold Slot.stopRefused
  split
  next worker _ =>
    split
    next refused =>
      rcases (Option.any_eq_true _ _).mp refused with ⟨t, isThread, flags⟩
      rw [Bool.and_eq_true, Bool.not_eq_true'] at flags
      have drains := (sound.threads worker t isThread).shutdownRefused flags.1
      have leaves : s.Leaves worker := ⟨t, isThread, flags.2, Or.inl drains⟩
      rcases sound.marked leaves.unexited with none | same
      · rw [none, Option.none_or]
        exact sound.mark leaves (Or.inl none)
      · rw [same, Option.some_or]
        exact sound.mark leaves (Or.inr same)
    · exact sound
  · exact sound

theorem Sound.stopWorkerSlot : s.stopWorkerSlot.Sound := by
  unfold Slot.stopWorkerSlot
  split
  next worker isStopping =>
    have asked := sound.stopping worker isStopping
    split
    · apply Sound.kill
      exact { sound with
        worker := nofun
        orphan := fun _ _ _ => asked
        stopping := fun _ _ => asked
        calls := fun id call isCall => { sound.calls id call isCall with } }
    · exact { sound with
        stopping := fun _ _ => asked
        calls := fun id call isCall => { sound.calls id call isCall with } }
  · exact sound

theorem Sound.step {maxGenerations : Nat} (event : Event) :
    (s.step maxGenerations event).Sound := by
  cases event with
  | startWalletWorker =>
    simp only [Slot.step]
    split
    · exact sound
    next running => exact sound.startWorkerSlot (Bool.not_eq_true _ ▸ running)
  | rpc method => exact sound.rpc method
  | proceed id => exact sound.proceed id
  | ready id => exact sound.ready id
  | reply id => exact sound.reply id
  | timeout id => exact sound.timeout id
  | drainTimeout id => exact sound.drainTimeout id
  | deliver worker => exact sound.deliver worker
  | workerError worker => exact sound.workerError worker
  | exit worker => exact sound.exit worker
  | stopWalletWorker => exact sound.stopWalletWorker
  | stopRefused => exact sound.stopRefused
  | stopWorkerSlot => exact sound.stopWorkerSlot
  | handle worker =>
    exact sound.work (fun _ isSound => isSound.handle) Thread.handle_becomes
  | begin worker id =>
    exact sound.work (fun _ isSound => isSound.begin id) fun t => t.begin_becomes id
  | importGeneration worker id digest =>
    exact sound.work (fun _ isSound => isSound.importGeneration id digest) fun t =>
      t.importGeneration_becomes id digest
  | finish worker id =>
    exact sound.work (fun _ isSound => isSound.finish id) fun t => t.finish_becomes id
  | shutdownDone worker =>
    exact sound.work (fun _ isSound => isSound.shutdownDone) Thread.shutdownDone_becomes
  | evicted worker =>
    exact sound.work (fun _ isSound => isSound.evicted) Thread.evicted_becomes
  | die worker => exact sound.kill worker

end Steps

end Slot

end Nightgate.Midnight.Rotation
