import Nightgate.Library.Fairness
import Nightgate.Midnight.RotationSafety

/-!
# Planned restarts

Whatever the order of calls, messages, exits and a stop is: no worker accepts a call once it
drains, no call that may send is run by two workers, a call waits only for a worker that takes
no more calls, and every call ends.
-/

namespace Nightgate.Midnight.Rotation

open Library

namespace Slot

def aliveAt (s : Slot) (worker : Nat) : Bool :=
  (s.threads worker).any Thread.alive

/-- What ends the phase that a call is in: a microtask, a timer, the ready message of a worker
that starts, or the exit of one that has ended. -/
def due (s : Slot) (id : Nat) : Option Event :=
  match (s.calls id).map Call.phase with
  | some (.waiting none) => some (.proceed id)
  | some (.waiting (some worker)) =>
    some (if s.aliveAt worker then .drainTimeout id else .exit worker)
  | some (.starting worker) => some (if s.aliveAt worker then .ready id else .exit worker)
  | some (.posted _) => some (.timeout id)
  | some (.settled _) => none
  | none => none

/-- How far a call is from its end. -/
def rankOf (alive : Nat → Bool) (call : Call) : Nat :=
  match call.phase with
  | .settled _ => 0
  | .posted _ => 1 + 6 * (1 - call.attempt)
  | .starting worker => 2 + (alive worker).toNat + 6 * (1 - call.attempt)
  | .waiting none => 4 + 6 * (1 - call.attempt)
  | .waiting (some worker) => 5 + (alive worker).toNat + 6 * (1 - call.attempt)

def rank (s : Slot) (id : Nat) : Nat :=
  ((s.calls id).map (rankOf s.aliveAt)).getD 0

/-- A step brings the call closer to its end, or the same thing stays due. -/
def Advances (s s' : Slot) (id : Nat) : Prop :=
  s'.rank id < s.rank id ∨ (s'.rank id = s.rank id ∧ s'.due id = s.due id)

section Progress

variable {s s' : Slot} {id worker : Nat} {call call' : Call}

theorem rank_of_call (isCall : s.calls id = some call) : s.rank id = rankOf s.aliveAt call := by
  rw [rank, isCall, Option.map_some, Option.getD_some]

/-- A call that the step leaves alone, with no new life in the worker it is at. -/
theorem advances_of_same (isCall : s.calls id = some call) (same : s'.calls id = some call)
    (starting : ∀ worker, call.phase = .starting worker →
      s'.aliveAt worker = true → s.aliveAt worker = true)
    (waiting : ∀ worker, call.phase = .waiting (some worker) →
      s'.aliveAt worker = true → s.aliveAt worker = true) : s.Advances s' id := by
  have lives : ∀ worker, (s'.aliveAt worker = true → s.aliveAt worker = true) →
      s'.aliveAt worker = s.aliveAt worker ∨
        (s'.aliveAt worker).toNat < (s.aliveAt worker).toNat := by
    intro worker implied
    cases before : s.aliveAt worker with
    | true => cases s'.aliveAt worker <;> simp
    | false =>
      cases after : s'.aliveAt worker with
      | true =>
        rw [implied after] at before
        cases before
      | false => exact Or.inl rfl
  unfold Advances
  rw [rank_of_call isCall, rank_of_call same]
  cases phase : call.phase with
  | settled | posted =>
    right
    simp [rankOf, due, isCall, same, phase]
  | starting worker =>
    rcases lives worker (starting worker phase) with equal | less
    · right
      simp [rankOf, due, isCall, same, phase, equal]
    · left
      simp only [rankOf, phase]
      omega
  | waiting on =>
    cases on with
    | none =>
      right
      simp [rankOf, due, isCall, same, phase]
    | some worker =>
      rcases lives worker (waiting worker phase) with equal | less
      · right
        simp [rankOf, due, isCall, same, phase, equal]
      · left
        simp only [rankOf, phase]
        omega

theorem Follows.aliveAt (follows : s.Follows s') (living : s'.aliveAt worker = true) :
    s.aliveAt worker = true := by
  rcases (Option.any_eq_true _ _).mp living with ⟨t', isThread', alive⟩
  rcases follows.1 worker t' isThread' with ⟨t, isThread, stays⟩
  exact (Option.any_eq_true _ _).mpr ⟨t, isThread, stays.alive alive⟩

theorem Follows.advances (follows : s.Follows s') (isCall : s.calls id = some call)
    (same : s'.calls id = s.calls id) : s.Advances s' id :=
  advances_of_same isCall (same.trans isCall) (fun _ _ => follows.aliveAt)
    fun _ _ => follows.aliveAt

theorem Follows.refl (s : Slot) : s.Follows s :=
  ⟨fun _ t isThread => ⟨t, isThread, Thread.Stays.refl t⟩,
    fun _ t isThread => ⟨t, isThread, Thread.Stays.refl t⟩⟩

theorem Follows.of_threads (same : s'.threads = s.threads) : s.Follows s' := by
  unfold Follows
  rw [same]
  exact Follows.refl s

/-- A worker that starts is none that the call is at. -/
theorem startWorkerSlot_advances (sound : s.Sound) (isCall : s.calls id = some call)
    (isThreads : s'.threads = s.startWorkerSlot.threads) (same : s'.calls id = s.calls id) :
    s.Advances s' id := by
  have isSound := sound.calls id call isCall
  have known : ∀ worker, s.Unexited worker → s'.aliveAt worker = true →
      s.aliveAt worker = true := by
    intro worker unexited living
    rcases unexited with ⟨t, isThread, _⟩
    have old := sound.known worker t isThread
    unfold Slot.aliveAt at living ⊢
    rw [isThreads] at living
    unfold Slot.startWorkerSlot at living
    split at living
    · exact living
    · dsimp only at living
      rw [Function.update_of_ne (Nat.ne_of_lt old)] at living
      exact living
  apply advances_of_same isCall (same.trans isCall)
  · intro worker phase
    exact known worker (isSound.starting worker phase)
  · intro worker phase
    exact known worker (sound.draining worker (isSound.waiting worker phase)).unexited

@[simp] theorem setCall_self : (s.setCall id call).calls id = some call :=
  Function.update_self ..

theorem setCall_other {other : Nat} (different : other ≠ id) :
    (s.setCall id call).calls other = s.calls other :=
  Function.update_of_ne different _ _

@[simp] theorem post_self : (s.post id call worker).calls id =
    some { call with phase := .posted worker, sentTo := worker :: call.sentTo } :=
  setCall_self

theorem post_other {other : Nat} (different : other ≠ id) :
    (s.post id call worker).calls other = s.calls other :=
  setCall_other different

theorem post_follows (s : Slot) (id : Nat) (call : Call) (worker : Nat) :
    s.Follows (s.post id call worker) := by
  have stays : ∀ t : Thread, t.Stays
      (if t.alive then { t with inbox := t.inbox ++ [.call id call.method] } else t) := by
    intro t
    split
    · exact ⟨fun living => living, rfl, fun drains => drains⟩
    · exact Thread.Stays.refl t
  exact onThread_follows (s := s.setCall id
    { call with phase := .posted worker, sentTo := worker :: call.sentTo }) fun t _ => stays t

@[simp] theorem settle_rank (outcome : Outcome) : (s.settle id call outcome).rank id = 0 :=
  rank_of_call setCall_self

theorem post_rank : (s.post id call worker).rank id = 1 + 6 * (1 - call.attempt) :=
  rank_of_call post_self

section IsCall

variable (isCall : s.calls id = some call)

include isCall

/-- A step that changes another call only. -/
theorem advances_of_other {other : Nat}
    (different : id ≠ other) : s.Advances (s.setCall other call') id := by
  have follows : s.Follows (s.setCall other call') := Follows.of_threads rfl
  exact follows.advances isCall (setCall_other different)

/-- A call that waits no longer goes on. -/
theorem proceed_rank (phase : call.phase = .waiting none) :
    (s.proceed id).rank id < s.rank id := by
  rw [rank_of_call isCall]
  simp only [Slot.proceed, isCall, phase, if_true]
  split
  · rw [post_rank]
    simp only [rankOf, phase]
    omega
  · split
    · rw [rank_of_call setCall_self]
      have atMost := Bool.toNat_le
        ((s.startWorkerSlot.setCall id { call with phase := .starting s.nextWorker }).aliveAt
          s.nextWorker)
      simp only [rankOf, phase]
      omega
    · rw [settle_rank]
      simp only [rankOf, phase]
      omega

theorem ready_rank (phase : call.phase = .starting worker) :
    (s.ready id).rank id < s.rank id := by
  rw [rank_of_call isCall]
  simp only [Slot.ready, isCall, phase]
  split
  · rw [post_rank]
    simp only [rankOf, phase]
    omega
  · rw [settle_rank]
    simp only [rankOf, phase]
    omega

theorem settled_rank {outcome : Outcome}
    (phase : call.phase = .posted worker) : (s'.settle id call outcome).rank id < s.rank id := by
  rw [rank_of_call isCall, settle_rank]
  simp only [rankOf, phase]
  omega

theorem timeout_rank (phase : call.phase = .posted worker) :
    (s.timeout id).rank id < s.rank id := by
  simp only [Slot.timeout, isCall, phase]
  exact settled_rank isCall phase

end IsCall

theorem proceed_advances (sound : s.Sound) (isCall : s.calls id = some call) (other : Nat) :
    s.Advances (s.proceed other) id := by
  cases isOther : s.calls other with
  | none =>
    simp only [Slot.proceed, isOther]
    exact (Follows.refl s).advances isCall rfl
  | some otherCall =>
    by_cases phase : otherCall.phase = .waiting none
    · by_cases same : id = other
      · subst same
        rw [isCall] at isOther
        cases isOther
        exact Or.inl (proceed_rank isCall phase)
      · simp only [Slot.proceed, isOther, phase, if_true]
        split
        · exact (post_follows s other otherCall _).advances isCall (post_other same)
        next noWorker =>
          split
          · refine startWorkerSlot_advances sound isCall ?_ ?_
            · rfl
            · rw [setCall_other same]
              simp only [Slot.startWorkerSlot, noWorker]
          · exact advances_of_other isCall same
    · simp only [Slot.proceed, isOther, phase, if_false]
      exact (Follows.refl s).advances isCall rfl

theorem ready_advances (isCall : s.calls id = some call) (other : Nat) :
    s.Advances (s.ready other) id := by
  by_cases same : id = other
  · subst same
    cases phase : call.phase with
    | starting worker => exact Or.inl (ready_rank isCall phase)
    | _ =>
      simp only [Slot.ready, isCall, phase]
      exact (Follows.refl s).advances isCall rfl
  · unfold Slot.ready
    split
    next otherCall _ =>
      split
      · split
        · exact (post_follows s other otherCall _).advances isCall (post_other same)
        · exact advances_of_other isCall same
      · exact (Follows.refl s).advances isCall rfl
    · exact (Follows.refl s).advances isCall rfl

theorem timeout_advances (isCall : s.calls id = some call) (other : Nat) :
    s.Advances (s.timeout other) id := by
  by_cases same : id = other
  · subst same
    cases phase : call.phase with
    | posted worker => exact Or.inl (timeout_rank isCall phase)
    | _ =>
      simp only [Slot.timeout, isCall, phase]
      exact (Follows.refl s).advances isCall rfl
  · unfold Slot.timeout
    split
    · split
      · exact advances_of_other isCall same
      · exact (Follows.refl s).advances isCall rfl
    · exact (Follows.refl s).advances isCall rfl

/-- A second attempt is closer to its end than the first one, wherever it waits. -/
theorem repeated_rank {alive alive' : Nat → Bool} {on : Option Nat} (first : call.attempt = 0)
    (phase : call.phase = .posted worker) :
    rankOf alive' { call with attempt := 1, phase := .waiting on } < rankOf alive call := by
  cases on with
  | none =>
    simp only [rankOf, phase, first]
    omega
  | some draining =>
    have atMost := Bool.toNat_le (alive' draining)
    simp only [rankOf, phase, first]
    omega

theorem reply_advances (isCall : s.calls id = some call) (other : Nat) :
    s.Advances (s.reply other) id := by
  have unchanged : s.Advances s id := (Follows.refl s).advances isCall rfl
  cases isOther : s.calls other with
  | none =>
    simp only [Slot.reply, isOther]
    exact unchanged
  | some otherCall =>
    cases phase : otherCall.phase with
    | posted worker =>
      have follows : ∀ otherCall' : Call, ∀ drainingWorker : Option Nat,
          s.Follows (({ s.onThread worker fun t => { t with refused := t.refused.erase other }
            with drainingWorker := drainingWorker } : Slot).setCall other otherCall') := by
        intro otherCall' drainingWorker
        exact onThread_follows fun t _ => ⟨fun living => living, rfl, fun drains => drains⟩
      simp only [Slot.reply, isOther, phase]
      split
      next t _ =>
        split
        · simp only [Slot.refuse]
          split
          next first =>
            by_cases same : id = other
            · subst same
              rw [isCall] at isOther
              cases isOther
              left
              rw [rank_of_call isCall, Slot.retry, rank_of_call setCall_self]
              exact repeated_rank first phase
            · exact (follows _ _).advances isCall (setCall_other same)
          · by_cases same : id = other
            · subst same
              rw [isCall] at isOther
              cases isOther
              exact Or.inl (settled_rank isCall phase)
            · exact (follows _ s.drainingWorker).advances isCall (setCall_other same)
        · split
          · by_cases same : id = other
            · subst same
              rw [isCall] at isOther
              cases isOther
              exact Or.inl (settled_rank isCall phase)
            · exact advances_of_other isCall same
          · exact unchanged
      · exact unchanged
    | _ =>
      simp only [Slot.reply, isOther, phase]
      exact unchanged

theorem kill_follows (s : Slot) (worker : Nat) : s.Follows (s.onThread worker Thread.die) :=
  onThread_follows fun t _ => (Thread.die_becomes t).toStays

theorem drainTimeout_advances (isCall : s.calls id = some call) (other : Nat) :
    s.Advances (s.drainTimeout other) id := by
  have unchanged : s.Advances s id := (Follows.refl s).advances isCall rfl
  unfold Slot.drainTimeout
  split
  · split
    next worker _ =>
      split
      · exact (kill_follows s worker).advances isCall rfl
      · exact unchanged
    · exact unchanged
  · exact unchanged

theorem deliver_advances (isCall : s.calls id = some call) (worker : Nat) :
    s.Advances (s.deliver worker) id := by
  have unchanged : s.Advances s id := (Follows.refl s).advances isCall rfl
  unfold Slot.deliver
  split
  · split
    next message rest _ _ =>
      have follows : s.Follows (s.onThread worker fun t => { t with
          outbox := rest
          alive := t.alive && message = Announcement.rotating }) := by
        apply onThread_follows
        intro t _
        refine ⟨?_, rfl, fun drains => drains⟩
        intro living
        rw [Bool.and_eq_true] at living
        exact living.1
      exact Follows.advances follows isCall rfl
    · exact unchanged
  · exact unchanged

/-- A posted call that is rejected is closer to its end. -/
theorem rejected_rank {alive alive' : Nat → Bool} {drainingWorker : Option Nat} {rotated : Bool}
    (phase : call.phase = .posted worker) :
    rankOf alive' (rejectPending drainingWorker rotated call) < rankOf alive call := by
  simp only [rejectPending, phase]
  split
  next repeated => exact repeated_rank repeated.2.1 phase
  · simp only [rankOf, phase]
    omega

section IsCall

variable (isCall : s.calls id = some call)

include isCall

theorem workerError_advances (worker : Nat) :
    s.Advances (s.workerError worker) id := by
  unfold Slot.workerError
  split
  · have rejected : ((s.calls id).map (rejectPending s.drainingWorker false)) =
        some (rejectPending s.drainingWorker false call) := by
      rw [isCall, Option.map_some]
    by_cases posted : ∃ at_, call.phase = .posted at_
    · rcases posted with ⟨at_, phase⟩
      left
      rw [rank_of_call isCall, rank_of_call rejected]
      exact rejected_rank phase
    · rw [rejectPending_of_not_posted fun at_ phase => posted ⟨at_, phase⟩, ← isCall] at rejected
      exact Follows.advances (Follows.of_threads rfl) isCall rejected
  · exact (Follows.refl s).advances isCall rfl

/-- The exit of the worker that a call waits for, or that starts for it, brings it on. -/
theorem exit_rank (ended : s.ended worker = true)
    (phase : call.phase = .starting worker ∨ call.phase = .waiting (some worker)) :
    (s.exit worker).rank id < s.rank id := by
  have after : (s.exit worker).calls id = some (afterExit (clear s.drainingWorker worker) worker
      (s.stoppingWorker ≠ some worker && s.rotationAnnouncedBy = some worker) call) := by
    simp only [Slot.exit, ended, if_true, isCall, Option.map_some]
  rw [rank_of_call isCall, rank_of_call after]
  rcases phase with phase | phase
  · simp only [afterExit, phase, if_true, rankOf]
    omega
  · simp only [afterExit, phase, clear, if_true, rankOf]
    omega

theorem exit_advances (worker : Nat) :
    s.Advances (s.exit worker) id := by
  cases ended : s.ended worker with
  | false =>
    simp only [Slot.exit, ended]
    exact (Follows.refl s).advances isCall rfl
  | true =>
    have after : (s.exit worker).calls id = some (afterExit (clear s.drainingWorker worker) worker
          (s.stoppingWorker ≠ some worker && s.rotationAnnouncedBy = some worker) call) := by
      simp only [Slot.exit, ended, if_true, isCall, Option.map_some]
    have alive : ∀ other, (s.exit worker).aliveAt other = true → s.aliveAt other = true := by
      intro other living
      simp only [Slot.exit, ended, if_true] at living
      rcases (Option.any_eq_true _ _).mp living with ⟨t', isThread', isAlive⟩
      rcases of_onThread isThread' with ⟨rfl, t, isThread, rfl⟩ | ⟨_, isThread⟩
      · exact (Option.any_eq_true _ _).mpr ⟨t, isThread, isAlive⟩
      · exact (Option.any_eq_true _ _).mpr ⟨t', isThread, isAlive⟩
    cases phase : call.phase with
    | posted at_ =>
      left
      rw [rank_of_call isCall, rank_of_call after]
      simp only [afterExit, phase]
      exact rejected_rank phase
    | settled outcome =>
      simp only [afterExit, phase, rejectPending] at after
      exact advances_of_same isCall after (fun _ _ => alive _) fun _ _ => alive _
    | starting at_ =>
      by_cases same : at_ = worker
      · subst same
        exact Or.inl (exit_rank isCall ended (Or.inl phase))
      · simp only [afterExit, phase, if_neg same] at after
        exact advances_of_same isCall after (fun _ _ => alive _) fun _ _ => alive _
    | waiting on =>
      by_cases same : on = some worker
      · subst same
        exact Or.inl (exit_rank isCall ended (Or.inr phase))
      · simp only [afterExit, phase, clear, if_neg same] at after
        rw [← phase] at after
        exact advances_of_same isCall after (fun _ _ => alive _) fun _ _ => alive _

theorem work_advances {change : Thread → Thread}
    (becomes : ∀ t : Thread, t.Becomes (change t)) : s.Advances (s.work worker change) id := by
  have follows : s.Follows (s.work worker change) := by
    apply onThread_follows
    intro t _
    split
    · exact (becomes t).toStays
    · exact Thread.Stays.refl t
  exact follows.advances isCall rfl

end IsCall

theorem step_advances {maxGenerations : Nat} (sound : s.Sound) (isCall : s.calls id = some call)
    (event : Event) : s.Advances (s.step maxGenerations event) id := by
  have unchanged : ∀ {s' : Slot}, s'.threads = s.threads → s'.calls = s.calls →
      s.Advances s' id := by
    intro s' sameThreads sameCalls
    exact (Follows.of_threads sameThreads).advances isCall (congrFun sameCalls id)
  cases event with
  | startWalletWorker =>
    simp only [Slot.step]
    split
    · exact unchanged rfl rfl
    · apply startWorkerSlot_advances sound isCall rfl
      unfold Slot.startWorkerSlot
      split <;> rfl
  | rpc method =>
    have different := Nat.ne_of_lt (sound.numbered id call isCall)
    have follows : s.Follows (s.rpc method) := Follows.of_threads rfl
    exact follows.advances isCall (Function.update_of_ne different _ _)
  | proceed other => exact proceed_advances sound isCall other
  | ready other => exact ready_advances isCall other
  | reply other => exact reply_advances isCall other
  | timeout other => exact timeout_advances isCall other
  | drainTimeout other => exact drainTimeout_advances isCall other
  | deliver worker => exact deliver_advances isCall worker
  | workerError worker => exact workerError_advances isCall worker
  | exit worker => exact exit_advances isCall worker
  | stopWalletWorker =>
    simp only [Slot.step, Slot.stopWalletWorker]
    split
    next asked _ _ =>
      have follows : s.Follows (s.work asked fun t =>
          { t with inbox := t.inbox ++ [Request.shutdown] }) := by
        apply onThread_follows
        intro t _
        split
        · exact ⟨fun living => living, rfl, fun drains => drains⟩
        · exact Thread.Stays.refl t
      exact Follows.advances follows isCall rfl
    · exact unchanged rfl rfl
  | stopRefused =>
    simp only [Slot.step, Slot.stopRefused]
    split
    · split <;> exact unchanged rfl rfl
    · exact unchanged rfl rfl
  | stopWorkerSlot =>
    simp only [Slot.step, Slot.stopWorkerSlot]
    split
    · split
      · exact (kill_follows s _).advances isCall rfl
      · exact unchanged rfl rfl
    · exact unchanged rfl rfl
  | handle worker => exact work_advances isCall Thread.handle_becomes
  | begin worker other => exact work_advances isCall fun t => t.begin_becomes other
  | importGeneration worker other digest =>
    exact work_advances isCall fun t => t.importGeneration_becomes other digest
  | finish worker other => exact work_advances isCall fun t => t.finish_becomes other
  | shutdownDone worker => exact work_advances isCall Thread.shutdownDone_becomes
  | evicted worker => exact work_advances isCall Thread.evicted_becomes
  | die worker => exact (kill_follows s worker).advances isCall rfl

theorem ended_of_dead (unexited : s.Unexited worker) (dead : s.aliveAt worker = false) :
    s.ended worker = true := by
  rcases unexited with ⟨t, isThread, here⟩
  unfold Slot.aliveAt at dead
  rw [isThread, Option.any_some] at dead
  unfold Slot.ended
  rw [isThread, Option.any_some, dead, here]
  rfl

/-- What is due brings its call closer to its end. -/
theorem due_rank {maxGenerations : Nat} (sound : s.Sound) {event : Event}
    (isDue : s.due id = some event) : (s.step maxGenerations event).rank id < s.rank id := by
  cases isCall : s.calls id with
  | none => simp [Slot.due, isCall] at isDue
  | some call =>
    have isSound := sound.calls id call isCall
    simp only [Slot.due, isCall, Option.map_some] at isDue
    cases phase : call.phase with
    | settled outcome => simp [phase] at isDue
    | posted worker =>
      simp only [phase, Option.some.injEq] at isDue
      subst isDue
      exact timeout_rank isCall phase
    | starting worker =>
      simp only [phase, Option.some.injEq] at isDue
      cases alive : s.aliveAt worker with
      | true =>
        rw [alive, if_pos rfl] at isDue
        subst isDue
        exact ready_rank isCall phase
      | false =>
        rw [alive, if_neg Bool.false_ne_true] at isDue
        subst isDue
        exact exit_rank isCall (ended_of_dead (isSound.starting worker phase) alive) (Or.inl phase)
    | waiting on =>
      cases on with
      | none =>
        simp only [phase, Option.some.injEq] at isDue
        subst isDue
        exact proceed_rank isCall phase
      | some worker =>
        have marked := isSound.waiting worker phase
        have unexited := (sound.draining worker marked).unexited
        simp only [phase, Option.some.injEq] at isDue
        cases alive : s.aliveAt worker with
        | true =>
          rw [alive, if_pos rfl] at isDue
          subst isDue
          have after : (s.onThread worker Thread.die).aliveAt worker = false := by
            rcases unexited with ⟨t, isThread, _⟩
            unfold Slot.aliveAt
            rw [onThread_self isThread]
            rfl
          have same : (s.onThread worker Thread.die).calls id = some call := isCall
          simp only [Slot.step, Slot.drainTimeout, isCall, phase, marked, if_true]
          rw [rank_of_call isCall, rank_of_call same]
          simp only [rankOf, phase, alive, after, Bool.toNat_true, Bool.toNat_false]
          omega
        | false =>
          rw [alive, if_neg Bool.false_ne_true] at isDue
          subst isDue
          exact exit_rank isCall (ended_of_dead unexited alive) (Or.inr phase)

theorem settled_of_nothing_due (isCall : s.calls id = some call) (nothing : s.due id = none) :
    ∃ outcome, call.phase = .settled outcome := by
  simp only [Slot.due, isCall, Option.map_some] at nothing
  cases phase : call.phase with
  | settled outcome => exact ⟨outcome, rfl⟩
  | posted | starting => simp [phase] at nothing
  | waiting on => cases on <;> simp [phase] at nothing

theorem setCall_stays {other : Nat} (isThere : (s.calls id).isSome) :
    ((s.setCall other call).calls id).isSome := by
  by_cases same : id = other
  · rw [same, setCall_self]
    rfl
  · rw [setCall_other same]
    exact isThere

/-- A call is never forgotten. -/
theorem call_stays {maxGenerations : Nat} (isThere : (s.calls id).isSome) (event : Event) :
    ((s.step maxGenerations event).calls id).isSome := by
  have started : (s.startWorkerSlot.calls id).isSome := by
    unfold Slot.startWorkerSlot
    split <;> exact isThere
  cases event with
  | startWalletWorker =>
    simp only [Slot.step]
    split
    · exact isThere
    · exact started
  | rpc method => exact setCall_stays (s := { s with nextCall := s.nextCall + 1 }) isThere
  | proceed other =>
    simp only [Slot.step, Slot.proceed]
    split
    · split
      · split
        · exact setCall_stays isThere
        · split
          · exact setCall_stays started
          · exact setCall_stays isThere
      · exact isThere
    · exact isThere
  | ready other =>
    simp only [Slot.step, Slot.ready]
    split
    · split
      · split <;> exact setCall_stays isThere
      · exact isThere
    · exact isThere
  | reply other =>
    simp only [Slot.step, Slot.reply]
    split
    · split
      · split
        · split
          · simp only [Slot.refuse]
            split <;> exact setCall_stays isThere
          · split
            · exact setCall_stays isThere
            · exact isThere
        · exact isThere
      · exact isThere
    · exact isThere
  | timeout other =>
    simp only [Slot.step, Slot.timeout]
    split
    · split
      · exact setCall_stays isThere
      · exact isThere
    · exact isThere
  | drainTimeout other =>
    simp only [Slot.step, Slot.drainTimeout]
    split
    · split
      · split <;> exact isThere
      · exact isThere
    · exact isThere
  | deliver worker =>
    simp only [Slot.step, Slot.deliver]
    split
    · split <;> exact isThere
    · exact isThere
  | workerError worker =>
    simp only [Slot.step, Slot.workerError]
    split
    · exact Option.isSome_map.trans isThere
    · exact isThere
  | exit worker =>
    simp only [Slot.step, Slot.exit]
    split
    · exact Option.isSome_map.trans isThere
    · exact isThere
  | stopWalletWorker =>
    simp only [Slot.step, Slot.stopWalletWorker]
    split <;> exact isThere
  | stopRefused =>
    simp only [Slot.step, Slot.stopRefused]
    split
    · split <;> exact isThere
    · exact isThere
  | stopWorkerSlot =>
    simp only [Slot.step, Slot.stopWorkerSlot]
    split
    · split <;> exact isThere
    · exact isThere
  | _ => exact isThere

end Progress

/-! ## The restart -/

/-- What a planned restart promises in every state. -/
structure RestartSafe (s : Slot) : Prop where
  /-- A worker accepts no call once it drains. -/
  admission : ∀ worker t, s.threads worker = some t → ∀ entry ∈ t.accepted, entry.draining = false
  /-- It starts the handlers of calls that it accepted, and no others. -/
  handlers : ∀ worker t, s.threads worker = some t → ∀ entry ∈ t.started,
    ∃ accept ∈ t.accepted, accept.id = entry.id
  reports : ∀ worker t, s.threads worker = some t → t.doneReports ≤ 1
  /-- It reports `rotation-done` when no call that may send is running, and none is after. -/
  idle : ∀ worker t, s.threads worker = some t → 0 < t.doneReports →
    ∀ call ∈ t.running, call.method.submitting = false
  oneWorker : ∀ id call, s.calls id = some call → call.method.submitting = true →
    ∀ worker t other t', s.threads worker = some t → s.threads other = some t' →
      id ∈ t.accepted.map HandlerStart.id → id ∈ t'.accepted.map HandlerStart.id → worker = other
  resends : ∀ id call, s.calls id = some call → call.sentTo.length ≤ 2
  /-- A call waits for a worker only if this one takes no more calls. -/
  waits : ∀ id call worker, s.calls id = some call → call.phase = .waiting (some worker) →
    s.Leaves worker

theorem Sole.one {s : Slot} {id : Nat} {phase : Phase} (sole : s.Sole id phase) {worker other : Nat}
    {t t' : Thread} (isThread : s.threads worker = some t) (isOther : s.threads other = some t')
    (placed : 0 < t.places.count id) (placedOther : 0 < t'.places.count id) : worker = other := by
  have nowhere : ¬ s.Nowhere id := by
    intro nowhere
    rw [nowhere worker t isThread] at placed
    exact Nat.lt_irrefl 0 placed
  have onlyAt : ∀ home, s.OnlyAt id home → worker = other := by
    intro home only
    have here : worker = home := by
      by_contra elsewhere
      rw [(only worker t isThread).2 elsewhere] at placed
      exact Nat.lt_irrefl 0 placed
    have there : other = home := by
      by_contra elsewhere
      rw [(only other t' isOther).2 elsewhere] at placedOther
      exact Nat.lt_irrefl 0 placedOther
    exact here.trans there.symm
  cases phase with
  | waiting | starting => exact absurd sole nowhere
  | posted home => exact onlyAt home sole
  | settled outcome =>
    rcases sole with ⟨home, only⟩
    exact onlyAt home only

theorem Sound.restartSafe {s : Slot} (sound : s.Sound) : s.RestartSafe where
  admission worker t isThread := (sound.threads worker t isThread).accepted
  handlers worker t isThread entry listed :=
    List.mem_map.mp ((sound.threads worker t isThread).started entry listed)
  reports worker t isThread := (sound.threads worker t isThread).reports_once
  idle worker t isThread reported :=
    ((sound.threads worker t isThread).idle_of_reported reported).2
  oneWorker id call isCall submits worker t other t' isThread isOther accepted acceptedOther := by
    have placed : ∀ t : Thread, id ∈ t.accepted.map HandlerStart.id → 0 < t.places.count id := by
      intro t listed
      rw [List.count_pos_iff, Thread.places, List.mem_append, List.mem_append]
      exact Or.inl (Or.inr listed)
    exact ((sound.calls id call isCall).sole submits).one isThread isOther (placed t accepted)
      (placed t' acceptedOther)
  resends id call isCall := by
    have isSound := sound.calls id call isCall
    exact isSound.sent.trans (Nat.add_le_add isSound.attempt (once_sent call.phase))
  waits id call worker isCall phase :=
    sound.draining worker ((sound.calls id call isCall).waiting worker phase)

/-- A schedule in which timers fire, started workers get ready or exit, and workers that have
ended exit. -/
def FairTo (maxGenerations : Nat) (schedule : Nat → Event) (id : Nat) : Prop :=
  Fair (step maxGenerations) (fun s => s.due id) Slot.start schedule

/-- Every order of calls, generations, messages, refusals, timeouts, exits and a stop keeps the
promise of a planned restart, and under a fair schedule every call ends. -/
theorem planned_restart (maxGenerations : Nat) :
    (∀ events, (run (step maxGenerations) Slot.start events).RestartSafe) ∧
      ∀ schedule id time call, FairTo maxGenerations schedule id →
        (stateAt (step maxGenerations) Slot.start schedule time).calls id = some call →
          ∃ later, time ≤ later ∧ ∃ ended outcome,
            (stateAt (step maxGenerations) Slot.start schedule later).calls id = some ended ∧
              ended.phase = .settled outcome := by
  constructor
  · intro events
    have keeps : ∀ (s : Slot) event, s.Sound → True → (s.step maxGenerations event).Sound :=
      fun _ event sound _ => sound.step event
    exact (run_invariant keeps sound_start events (Along.trivial events)).restartSafe
  · intro schedule id time call fair isCall
    have keeps : ∀ (s : Slot) event, s.Sound ∧ (s.calls id).isSome →
        (s.step maxGenerations event).Sound ∧ ((s.step maxGenerations event).calls id).isSome :=
      fun _ event both => ⟨both.1.step event, call_stays both.2 event⟩
    have always : ∀ (s : Slot) event, s.Sound → (s.step maxGenerations event).Sound :=
      fun _ event sound => sound.step event
    have sound : Slot.Sound (stateAt (step maxGenerations) Slot.start schedule time) :=
      stateAt_invariant always sound_start time
    have both := And.intro sound (Option.isSome_iff_exists.mpr ⟨call, isCall⟩)
    have progress : ∀ (s : Slot) event, s.Sound ∧ (s.calls id).isSome →
        s.Advances (s.step maxGenerations event) id := by
      intro s event holds
      rcases Option.isSome_iff_exists.mp holds.2 with ⟨call, isCall⟩
      exact step_advances holds.1 isCall event
    have helps : ∀ (s : Slot) event, s.Sound ∧ (s.calls id).isSome → s.due id = some event →
        (s.step maxGenerations event).rank id < s.rank id :=
      fun _ _ holds isDue => due_rank holds.1 isDue
    have reaches := @eventually_nothing_due _ _ (step maxGenerations) Slot.start schedule
      (fun s => s.Sound ∧ (s.calls id).isSome) (fun s => s.rank id) (fun s => s.due id)
      keeps progress helps fair time both
    rcases reaches with ⟨later, after, nothing⟩
    have there := (stateAt_invariant_from keeps both after).2
    rcases Option.isSome_iff_exists.mp there with ⟨ended, isEnded⟩
    rcases settled_of_nothing_due isEnded nothing with ⟨outcome, phase⟩
    exact ⟨later, after, ended, outcome, isEnded, phase⟩

def submit : RpcMethod := ⟨true, ["wallet"]⟩

def read : RpcMethod := ⟨false, []⟩

/-- A submit loads a generation over the limit, so the worker drains once it has ended. The worker
refuses a read that comes before the slot knows of this. It exits, and the next worker answers the
read. -/
def readOverRestart : List Event := [
  .startWalletWorker,
  .rpc submit, .proceed 0, .handle 0, .begin 0 0, .importGeneration 0 0 7, .finish 0 0, .reply 0,
  .rpc read, .proceed 1, .handle 0, .reply 1,
  .deliver 0, .evicted 0, .deliver 0, .exit 0,
  .proceed 1, .ready 1, .handle 1, .finish 1 1, .reply 1]

/-- A call that has been answered has no timeout any more. -/
def restarted : Nat → Event :=
  thenIdle readOverRestart (.timeout 0)

theorem restarted_fair : FairTo 1 restarted 1 := by
  intro time event _
  refine ⟨time + 21, Nat.le_add_right time 21, Or.inr ?_⟩
  have after : readOverRestart.length ≤ time + 21 := Nat.le_add_left 21 time
  rw [restarted, stateAt_thenIdle rfl rfl after]
  exact fun impossible => nomatch impossible

theorem planned_restart_answered : ∃ later, 9 ≤ later ∧ ∃ ended outcome,
    (stateAt (step 1) Slot.start restarted later).calls 1 = some ended ∧
      ended.phase = .settled outcome :=
  (planned_restart 1).2 restarted 1 9 _ restarted_fair rfl

/-- Every handler starts before its worker drains. -/
def HandlersBeforeDrain (s : Slot) : Prop :=
  ∀ worker t, s.threads worker = some t → ∀ entry ∈ t.started, entry.draining = false

/-- A call waits only for a worker that restarts or has ended. -/
def WaitsForReplaced (s : Slot) : Prop :=
  ∀ id call worker, s.calls id = some call → call.phase = .waiting (some worker) →
    ∃ t, s.threads worker = some t ∧ (t.pending = true ∨ t.alive = false)

/-- Two submits of one wallet are accepted. The first one loads a generation over the limit and
ends, so the worker drains, and the handler of the second one gets its lock and starts. -/
def startsUnderDrain : List Event := [
  .startWalletWorker,
  .rpc submit, .proceed 0, .handle 0, .begin 0 0, .importGeneration 0 0 7,
  .rpc submit, .proceed 1, .handle 0,
  .finish 0 0, .begin 0 1]

/-- The pool stops, and the worker unloads its wallets. A call is refused and waits for the
exit of the worker, which no other one will follow. -/
def waitsForStopped : List Event := [
  .startWalletWorker, .stopWalletWorker, .handle 0,
  .rpc read, .proceed 0, .handle 0, .reply 0]

theorem handler_starts_under_drain :
    (¬ ∀ maxGenerations events, (run (step maxGenerations) Slot.start events).HandlersBeforeDrain) ∧
        ¬ ∀ maxGenerations events,
          (run (step maxGenerations) Slot.start events).WaitsForReplaced := by
  constructor
  · intro always
    have starts := always 1 startsUnderDrain 0 _ rfl ⟨1, true⟩
    revert starts
    decide +kernel
  · intro always
    rcases always 1 waitsForStopped 0 _ 0 rfl rfl with ⟨t, isThread, replaced⟩
    cases isThread
    revert replaced
    decide +kernel

/-- In every run one worker of the slot at most has not exited, the count of each is that of the
submitting calls it runs, and none is left when it finishes. -/
theorem one_unexited_worker (maxGenerations : Nat) (events : List Event) :
    let s := run (step maxGenerations) Slot.start events
    (∀ worker other, s.Unexited worker → s.Unexited other → worker = other) ∧
      ∀ worker t, s.threads worker = some t →
        t.inflight = t.running.countP (fun call => call.method.submitting) ∧
          (t.finalizing = true → t.draining = true ∧ t.inflight = 0) := by
  have keeps : ∀ (s : Slot) event, s.Sound → True → (s.step maxGenerations event).Sound :=
    fun _ event sound _ => sound.step event
  have sound := run_invariant keeps sound_start events (Along.trivial events)
  refine ⟨sound.unique, fun worker t isThread => ?_⟩
  have ofThread := sound.threads worker t isThread
  exact ⟨ofThread.inflight, ofThread.finalizing⟩

end Slot

end Nightgate.Midnight.Rotation
