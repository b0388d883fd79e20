import Nightgate.Library.Machine

/-!
# Planned worker restarts

Node never frees an imported module, so a worker that has loaded many contract generations
stops taking calls, finishes those that may send a transaction, unloads its wallets and is
replaced. The worker and the main thread each know for themselves that the worker drains:
the worker refuses calls on their own ports and announces the restart on another one, so the
main thread learns of it in any order. This module is about one worker slot; the slots share
nothing but whether the pool was started.
-/

namespace Nightgate.Midnight.Rotation

open Library

/-- What a restart asks of a method. -/
structure RpcMethod where
  /-- `isSubmittingMethod`: it may send a transaction. -/
  submitting : Bool
  /-- `submitLockKeys`, for the methods that hold the submit locks of their sessions. -/
  lockKeys : List String
  deriving DecidableEq

inductive Request where
  | call (id : Nat) (method : RpcMethod)
  | shutdown

/-- The call that a message brings. -/
def Request.id? : Request → Option Nat
  | .call id _ => some id
  | .shutdown => none

/-- A call that was accepted. Its handler starts once it holds its locks. -/
structure RunningCall where
  id : Nat
  method : RpcMethod
  started : Bool
  deriving DecidableEq

inductive Announcement where
  | rotating
  | rotationDone
  deriving DecidableEq

/-- The start of a handler, and whether the worker was draining then. -/
structure HandlerStart where
  id : Nat
  draining : Bool
  deriving DecidableEq

structure Thread where
  alive : Bool
  /-- The main thread has seen the exit. -/
  exited : Bool
  inbox : List Request
  importedGenerations : List Nat
  /-- `rotationState`. -/
  pending : Bool
  draining : Bool
  inflight : Nat
  finalizing : Bool
  running : List RunningCall
  /-- The `shutdown` handler runs. -/
  shuttingDown : Bool
  shutdownRefused : Bool
  /-- `evictAllFacades` of the rotation runs. -/
  evicting : Bool
  /-- Messages on the worker's own port. -/
  outbox : List Announcement
  /-- Calls refused with `WORKER_ROTATING`, on their ports. -/
  refused : List Nat
  /-- Other replies, on their ports. -/
  answered : List Nat
  /-- The calls accepted so far, the last one first, and whether the worker was draining. -/
  accepted : List HandlerStart
  /-- The handlers started so far, the last one first. -/
  started : List HandlerStart
  /-- How often `rotation-done` was posted. -/
  doneReports : Nat

def Thread.new : Thread where
  alive := true
  exited := false
  inbox := []
  importedGenerations := []
  pending := false
  draining := false
  inflight := 0
  finalizing := false
  running := []
  shuttingDown := false
  shutdownRefused := false
  evicting := false
  outbox := []
  refused := []
  answered := []
  accepted := []
  started := []
  doneReports := 0

namespace Thread

/-- `noteGenerationImported`. -/
def noteGenerationImported (maxGenerations : Nat) (t : Thread) (digest : Nat) : Thread :=
  let imported := if digest ∈ t.importedGenerations then t.importedGenerations
    else digest :: t.importedGenerations
  { t with
    importedGenerations := imported
    pending :=
      t.pending || (decide (0 < maxGenerations) && decide (maxGenerations ≤ imported.length)) }

/-- The first half of `rotateIfDue`: the worker takes no more calls, and says so. -/
def announceRotation (t : Thread) : Thread :=
  if t.draining then t
  else { t with draining := true, outbox := t.outbox ++ [.rotating] }

/-- The second half: once no call is running, the wallets are unloaded. -/
def finalizeRotation (t : Thread) : Thread :=
  if 0 < t.inflight ∨ t.finalizing = true then t
  else { t with finalizing := true, evicting := true }

def rotateIfDue (t : Thread) : Thread :=
  if t.pending then t.announceRotation.finalizeRotation else t

/-- `dispatch`, up to the wait for the locks of the call. -/
def dispatch (t : Thread) (id : Nat) (method : RpcMethod) : Thread :=
  if t.draining then { t with refused := id :: t.refused }
  else
    { t with
      inflight := if method.submitting then t.inflight + 1 else t.inflight
      running := t.running ++ [⟨id, method, method.lockKeys.isEmpty⟩]
      accepted := ⟨id, t.draining⟩ :: t.accepted
      started := if method.lockKeys.isEmpty then ⟨id, t.draining⟩ :: t.started else t.started }

/-- The `shutdown` call: refused like any other, or the worker drains. -/
def shutdown (t : Thread) : Thread :=
  if t.draining then { t with shutdownRefused := true }
  else { t with draining := true, shuttingDown := true }

/-- The worker takes its next message. -/
def handle (t : Thread) : Thread :=
  match t.inbox with
  | [] => t
  | .call id method :: rest => { t with inbox := rest }.dispatch id method
  | .shutdown :: rest => { t with inbox := rest }.shutdown

/-- `withSessionLocks`: the calls accepted earlier hold none of the keys. -/
def locksFree (t : Thread) (call : RunningCall) : Bool :=
  (t.running.takeWhile fun other => other.id ≠ call.id).all fun other =>
    other.method.lockKeys.all fun key => key ∉ call.method.lockKeys

/-- A call that waited for its locks gets them. -/
def begin (t : Thread) (id : Nat) : Thread :=
  match t.running.find? fun call => call.id = id with
  | some call =>
    if call.started = false ∧ t.locksFree call then
      { t with
        running := t.running.map fun other =>
          if other.id = id then { other with started := true } else other
        started := ⟨id, t.draining⟩ :: t.started }
    else t
  | none => t

/-- A handler loads a contract generation. -/
def importGeneration (maxGenerations : Nat) (t : Thread) (id digest : Nat) : Thread :=
  if t.running.any fun call => call.id = id && call.started then
    t.noteGenerationImported maxGenerations digest
  else t

/-- The end of `dispatch`: the reply, and a restart that is due. -/
def finish (t : Thread) (id : Nat) : Thread :=
  match t.running.find? fun call => call.id = id && call.started with
  | some call =>
    { t with
      running := t.running.erase call
      inflight := if call.method.submitting then t.inflight - 1 else t.inflight
      answered := id :: t.answered }.rotateIfDue
  | none => t

/-- The `shutdown` handler has unloaded the wallets, after the running submits or without. -/
def shutdownDone (t : Thread) : Thread :=
  if t.shuttingDown then { t with shuttingDown := false }.rotateIfDue else t

/-- The wallets are unloaded: the worker asks to be terminated. -/
def evicted (t : Thread) : Thread :=
  if t.evicting then
    { t with
      evicting := false
      outbox := t.outbox ++ [.rotationDone]
      doneReports := t.doneReports + 1 }
  else t

/-- The thread ends: it crashed, or was terminated. -/
def die (t : Thread) : Thread :=
  { t with alive := false }

/-- The main thread sees the exit. -/
def exit (t : Thread) : Thread :=
  { t with exited := true }

/-- Where a call is in the worker. -/
def places (t : Thread) : List Nat :=
  t.inbox.filterMap Request.id? ++ t.accepted.map HandlerStart.id ++ t.refused

/-! ## What a worker does at every step -/

/-- The worker's own law. -/
structure Sound (t : Thread) : Prop where
  /-- No call is accepted once the worker drains. -/
  accepted : ∀ entry ∈ t.accepted, entry.draining = false
  /-- A handler that starts belongs to a call that was accepted. -/
  started : ∀ entry ∈ t.started, entry.id ∈ t.accepted.map HandlerStart.id
  running : ∀ call ∈ t.running, call.id ∈ t.accepted.map HandlerStart.id
  inflight : t.inflight = t.running.countP fun call => call.method.submitting
  finalizing : t.finalizing = true → t.draining = true ∧ t.inflight = 0
  reports : t.doneReports + t.evicting.toNat = t.finalizing.toNat
  announced : ∀ message ∈ t.outbox, t.draining = true
  refused : ∀ id ∈ t.refused, t.draining = true
  shutdownRefused : t.shutdownRefused = true → t.draining = true

/-- A worker never takes calls again once it drains or is dead. -/
structure Stays (t t' : Thread) : Prop where
  alive : t'.alive = true → t.alive = true
  exited : t'.exited = t.exited
  draining : t.draining = true → t'.draining = true

/-- How a worker changes by itself: it gets no call that it has not got. -/
structure Becomes (t t' : Thread) : Prop extends t.Stays t' where
  places : ∀ id, t'.places.count id ≤ t.places.count id

theorem Stays.refl (t : Thread) : t.Stays t :=
  ⟨id, rfl, id⟩

theorem Becomes.refl (t : Thread) : t.Becomes t :=
  ⟨Stays.refl t, fun _ => Nat.le_refl _⟩

theorem Becomes.trans {t t' t'' : Thread} (first : t.Becomes t') (second : t'.Becomes t'') :
    t.Becomes t'' where
  alive living := first.alive (second.alive living)
  exited := second.exited.trans first.exited
  draining drains := second.draining (first.draining drains)
  places id := Nat.le_trans (second.places id) (first.places id)

section Steps

variable {t : Thread} {maxGenerations : Nat}

theorem sound_new : Thread.new.Sound := by
  constructor <;> simp [Thread.new]

@[simp] theorem announceRotation_draining (t : Thread) : t.announceRotation.draining = true := by
  unfold announceRotation
  split
  next drains => exact drains
  · rfl

theorem Sound.announceRotation (sound : t.Sound) : t.announceRotation.Sound := by
  unfold Thread.announceRotation
  split
  · exact sound
  · exact { sound with
      finalizing := fun final => ⟨rfl, (sound.finalizing final).2⟩
      announced := fun _ _ => rfl
      refused := fun _ _ => rfl
      shutdownRefused := fun _ => rfl }

theorem Sound.finalizeRotation (sound : t.Sound) (drains : t.draining = true) :
    t.finalizeRotation.Sound := by
  unfold Thread.finalizeRotation
  split
  · exact sound
  next free =>
    rw [not_or, Nat.not_lt, Nat.le_zero, Bool.not_eq_true] at free
    have reports := sound.reports
    rw [free.2, Bool.toNat_false] at reports
    refine { sound with finalizing := fun _ => ⟨drains, free.1⟩, reports := ?_ }
    dsimp only
    rw [Bool.toNat_true]
    omega

theorem Sound.rotateIfDue (sound : t.Sound) : t.rotateIfDue.Sound := by
  unfold Thread.rotateIfDue
  split
  · exact sound.announceRotation.finalizeRotation (announceRotation_draining t)
  · exact sound

/-- A change that leaves the life, the exit and the calls of the worker alone. -/
theorem becomes_of_same {t' : Thread} (alive : t'.alive = t.alive) (exited : t'.exited = t.exited)
    (draining : t.draining = true → t'.draining = true) (places : t'.places = t.places) :
    t.Becomes t' where
  alive living := alive ▸ living
  exited := exited
  draining := draining
  places id := Nat.le_of_eq (congrArg (List.count id) places)

theorem rotateIfDue_becomes (t : Thread) : t.Becomes t.rotateIfDue := by
  have announces : t.Becomes t.announceRotation := by
    unfold announceRotation
    split
    · exact Becomes.refl t
    · exact becomes_of_same rfl rfl (fun _ => rfl) rfl
  have finalizes : ∀ t : Thread, t.Becomes t.finalizeRotation := by
    intro t
    unfold finalizeRotation
    split
    · exact Becomes.refl t
    · exact becomes_of_same rfl rfl (fun drains => drains) rfl
  unfold rotateIfDue
  split
  · exact announces.trans (finalizes _)
  · exact Becomes.refl t

theorem Sound.handle (sound : t.Sound) : t.handle.Sound := by
  unfold Thread.handle
  split
  · exact sound
  next id method rest isInbox =>
    unfold dispatch
    split
    next drains =>
      exact { sound with refused := fun _ _ => drains }
    next admits =>
      rw [Bool.not_eq_true] at admits
      have notFinal : t.finalizing = false := by
        by_contra final
        rw [Bool.not_eq_false] at final
        rw [(sound.finalizing final).1] at admits
        cases admits
      constructor
      · intro entry listed
        rcases List.mem_cons.mp listed with rfl | earlier
        · exact admits
        · exact sound.accepted entry earlier
      · intro entry listed
        dsimp only at listed ⊢
        rw [List.map_cons, List.mem_cons]
        split at listed
        · rcases List.mem_cons.mp listed with rfl | earlier
          · exact Or.inl rfl
          · exact Or.inr (sound.started entry earlier)
        · exact Or.inr (sound.started entry listed)
      · intro call listed
        rw [List.map_cons, List.mem_cons]
        rcases List.mem_append.mp listed with earlier | new
        · exact Or.inr (sound.running call earlier)
        · rw [List.mem_singleton.mp new]
          exact Or.inl rfl
      · simp only [List.countP_append, List.countP_singleton, ← sound.inflight]
        split <;> simp
      · intro final
        rw [notFinal] at final
        cases final
      · exact sound.reports
      · exact sound.announced
      · exact sound.refused
      · exact sound.shutdownRefused
  next rest isInbox =>
    unfold shutdown
    split
    next drains => exact { sound with shutdownRefused := fun _ => drains }
    · exact { sound with
        finalizing := fun final => ⟨rfl, (sound.finalizing final).2⟩
        announced := fun _ _ => rfl
        refused := fun _ _ => rfl
        shutdownRefused := fun _ => rfl }

theorem handle_becomes (t : Thread) : t.Becomes t.handle := by
  unfold Thread.handle
  split
  · exact Becomes.refl t
  next id method rest isInbox =>
    unfold dispatch
    split
    · refine ⟨⟨fun living => living, rfl, fun drains => drains⟩, ?_⟩
      intro other
      simp only [places, isInbox, List.filterMap_cons, Request.id?, List.count_append,
        List.count_cons]
      omega
    · refine ⟨⟨fun living => living, rfl, fun drains => drains⟩, ?_⟩
      intro other
      simp only [places, isInbox, List.filterMap_cons, Request.id?, List.count_append,
        List.map_cons, List.count_cons]
      omega
  next rest isInbox =>
    have same : ({ t with inbox := rest } : Thread).places = t.places := by
      simp only [places, isInbox, List.filterMap_cons, Request.id?]
    unfold shutdown
    split
    · exact becomes_of_same rfl rfl id same
    · exact becomes_of_same rfl rfl (fun _ => rfl) same

theorem Sound.begin (sound : t.Sound) (id : Nat) : (t.begin id).Sound := by
  unfold Thread.begin
  split
  next call isCall =>
    split
    · have listed := List.mem_of_find?_eq_some isCall
      have isId : call.id = id := by simpa using List.find?_some isCall
      have sameCalls : ∀ other : RunningCall,
          (if other.id = id then { other with started := true } else other).id = other.id ∧
          (if other.id = id then { other with started := true } else other).method =
            other.method := by
        intro other
        split <;> exact ⟨rfl, rfl⟩
      constructor
      · exact sound.accepted
      · intro entry isStarted
        rcases List.mem_cons.mp isStarted with rfl | earlier
        · rw [← isId]
          exact sound.running call listed
        · exact sound.started entry earlier
      · intro other isRunning
        rcases List.mem_map.mp isRunning with ⟨before, wasRunning, rfl⟩
        rw [(sameCalls before).1]
        exact sound.running before wasRunning
      · rw [sound.inflight, List.countP_map]
        apply List.countP_congr
        intro other _
        rw [Function.comp_apply, (sameCalls other).2]
      · exact sound.finalizing
      · exact sound.reports
      · exact sound.announced
      · exact sound.refused
      · exact sound.shutdownRefused
    · exact sound
  · exact sound

theorem begin_becomes (t : Thread) (id : Nat) : t.Becomes (t.begin id) := by
  unfold Thread.begin
  split
  · split
    · exact becomes_of_same rfl rfl (fun drains => drains) rfl
    · exact Becomes.refl t
  · exact Becomes.refl t

theorem Sound.importGeneration (sound : t.Sound) (id digest : Nat) :
    (t.importGeneration maxGenerations id digest).Sound := by
  unfold Thread.importGeneration
  split
  · exact { sound with }
  · exact sound

theorem importGeneration_becomes (t : Thread) (id digest : Nat) :
    t.Becomes (t.importGeneration maxGenerations id digest) := by
  unfold importGeneration
  split
  · exact becomes_of_same rfl rfl (fun drains => drains) rfl
  · exact Becomes.refl t

theorem Sound.finish (sound : t.Sound) (id : Nat) : (t.finish id).Sound := by
  unfold Thread.finish
  split
  next call isCall =>
    have listed := List.mem_of_find?_eq_some isCall
    have counted := (List.perm_cons_erase listed).countP_eq
      fun call : RunningCall => call.method.submitting
    rw [List.countP_cons] at counted
    apply Sound.rotateIfDue
    refine { sound with running := ?_, inflight := ?_, finalizing := ?_ }
    · intro other isRunning
      exact sound.running other (List.mem_of_mem_erase isRunning)
    · dsimp only
      rw [sound.inflight, counted]
      split
      · exact Nat.add_sub_cancel _ _
      · rfl
    · intro final
      rcases sound.finalizing final with ⟨drains, idle⟩
      refine ⟨drains, ?_⟩
      rw [idle]
      split <;> rfl
  · exact sound

theorem finish_becomes (t : Thread) (id : Nat) : t.Becomes (t.finish id) := by
  unfold finish
  split
  · apply Becomes.trans _ (rotateIfDue_becomes _)
    exact becomes_of_same rfl rfl (fun drains => drains) rfl
  · exact Becomes.refl t

theorem Sound.shutdownDone (sound : t.Sound) : t.shutdownDone.Sound := by
  unfold Thread.shutdownDone
  split
  · apply Sound.rotateIfDue
    exact { sound with }
  · exact sound

theorem shutdownDone_becomes (t : Thread) : t.Becomes t.shutdownDone := by
  unfold shutdownDone
  split
  · apply Becomes.trans _ (rotateIfDue_becomes _)
    exact becomes_of_same rfl rfl (fun drains => drains) rfl
  · exact Becomes.refl t

theorem Sound.evicted (sound : t.Sound) : t.evicted.Sound := by
  unfold Thread.evicted
  split
  next evicts =>
    have reports := sound.reports
    rw [evicts] at reports
    have final : t.finalizing = true := by
      cases isFinal : t.finalizing with
      | true => rfl
      | false => simp [isFinal] at reports
    refine { sound with reports := ?_, announced := ?_ }
    · simpa using reports
    · intro message _
      exact (sound.finalizing final).1
  · exact sound

theorem evicted_becomes (t : Thread) : t.Becomes t.evicted := by
  unfold evicted
  split
  · exact becomes_of_same rfl rfl (fun drains => drains) rfl
  · exact Becomes.refl t

theorem Sound.die (sound : t.Sound) : t.die.Sound :=
  { sound with }

theorem die_becomes (t : Thread) : t.Becomes t.die :=
  ⟨⟨fun impossible => Bool.noConfusion impossible, rfl, id⟩, fun _ => Nat.le_refl _⟩

/-- From its report on, no call that may send is running, and none will be. -/
theorem Sound.idle_of_reported (sound : t.Sound) (reported : 0 < t.doneReports) :
    t.draining = true ∧ ∀ call ∈ t.running, call.method.submitting = false := by
  have reports := sound.reports
  have final : t.finalizing = true := by
    cases isFinal : t.finalizing with
    | true => rfl
    | false =>
      rw [isFinal, Bool.toNat_false] at reports
      omega
  rcases sound.finalizing final with ⟨drains, idle⟩
  refine ⟨drains, ?_⟩
  rw [sound.inflight, List.countP_eq_zero] at idle
  intro call listed
  exact Bool.eq_false_iff.mpr (idle call listed)

theorem Sound.reports_once (sound : t.Sound) : t.doneReports ≤ 1 := by
  have reports := sound.reports
  have atMost := Bool.toNat_le t.finalizing
  omega

end Steps

end Thread

end Nightgate.Midnight.Rotation
