import Mathlib.Data.List.Count
import Nightgate.Runtime.InstanceLease

/-!
# A process whose lease was taken over
-/

namespace Nightgate.Runtime

open Library

theorem namesIn_unique {row : Option LeaseRow} {first second : Nat}
    (isFirst : namesIn row first = true) (isSecond : namesIn row second = true) :
    first = second := by
  cases row with
  | none => cases isFirst
  | some row =>
    simp only [namesIn, Option.any_some, decide_eq_true_eq] at isFirst isSecond
    rw [← isFirst, ← isSecond]

theorem namesIn_iff {row : Option LeaseRow} {holder : Nat} :
    namesIn row holder = true ↔ row.map LeaseRow.instanceId = some holder := by
  cases row with
  | none | some => simp [namesIn]

/-- A heartbeat does not change whom the row names. -/
theorem namesIn_heartbeat (row : Option LeaseRow) (holder now : Nat) :
    namesIn (row.map fun row => { row with heartbeatAt := now }) holder = namesIn row holder := by
  cases row <;> rfl

/-- A statement of an acquisition names nobody new but its process. -/
theorem namesIn_runStatement {ttlMs : Nat} {row : Option LeaseRow} {holder other : Nat}
    {call : Acquisition} (named : namesIn (runStatement ttlMs row holder call).1 other = true) :
    other = holder ∨ namesIn row other = true := by
  have mine : namesIn (some ⟨holder, call.now, call.now⟩) other = true → other = holder := by
    intro isMine
    exact namesIn_unique isMine (by simp [namesIn])
  simp only [runStatement] at named
  split at named
  · split at named
    · rw [namesIn_heartbeat] at named
      exact Or.inr named
    · exact Or.inr named
  · split at named
    · exact Or.inl (mine named)
    · exact Or.inr named
  · exact Or.inr named
  · split at named
    · exact Or.inl (mine named)
    · exact Or.inr named
  · exact Or.inr named

namespace Fleet

variable {ttlMs : Nat} {fleet : Fleet} {holder other : Nat}

variable {proc : Process}

theorem put_other (different : other ≠ holder) :
    (fleet.put holder proc).procs other = fleet.procs other :=
  Function.update_of_ne different ..

@[simp] theorem put_self : (fleet.put holder proc).procs holder = proc :=
  Function.update_self ..

/-- A step of one process leaves the others as they are. -/
theorem stepOf_other (different : other ≠ holder) (proc : Process) (event : LeaseEvent) :
    (fleet.stepOf ttlMs holder proc event).procs other = fleet.procs other := by
  cases event with
  | tick | release => rfl
  | acquireFails first | renewFails first hit | assertLease first | assertFails first named
  | stopHeartbeat first | clearLease first => exact put_other different
  | beginAcquire first | renewRun first | renewAnswer first hit | assertAnswer first named
  | dispatch first =>
    simp only [stepOf]
    split
    all_goals first | exact put_other different | rfl
  | acquireRun first | acquireAnswer first =>
    simp only [stepOf]
    split
    all_goals first | exact put_other different | rfl

variable {event : LeaseEvent}

/-- Only an acquisition of its own makes the row name a process. -/
theorem stepOf_names (named : (fleet.stepOf ttlMs holder proc event).Named other) :
    fleet.Named other ∨ (other = holder ∧ ∃ first, event = .acquireRun first) := by
  cases event with
  | tick span => exact Or.inl named
  | acquireFails first | renewFails first hit | assertLease first | assertFails first named'
  | stopHeartbeat first | clearLease first => exact Or.inl named
  | beginAcquire first | renewAnswer first hit | assertAnswer first named' | dispatch first =>
    simp only [stepOf] at named
    split at named
    all_goals exact Or.inl named
  | acquireAnswer first =>
    simp only [stepOf] at named
    split at named
    all_goals exact Or.inl named
  | renewRun first =>
    simp only [stepOf] at named
    split at named
    · simp only [Named, put] at named
      split at named
      · rw [namesIn_heartbeat] at named
        exact Or.inl named
      · exact Or.inl named
    · exact Or.inl named
  | release first =>
    simp only [stepOf, Named] at named
    split at named
    · cases named
    · exact Or.inl named
  | acquireRun first =>
    simp only [stepOf] at named
    split at named
    · cases namesIn_runStatement named with
      | inl isOwn => exact Or.inr ⟨isOwn, first, rfl⟩
      | inr isOld => exact Or.inl isOld
    · exact Or.inl named

/-! ## A displaced process -/

/-- What a displaced process does not undo: it passes a check only on a row read before, its
renewals find no row, and a fence stays up with no job dispatched. -/
structure Follows (holder : Nat) (before after : Process) : Prop where
  lease : before.lease = true → after.lease = true
  passes : after.passed + after.asserts.count (some holder) ≤
    before.passed + before.asserts.count (some holder)
  renewals : after.renewals.count true ≤ before.renewals.count true
  fenced : before.fenced = true → after.fenced = true ∧ after.dispatched = before.dispatched

theorem Follows.refl (holder : Nat) (proc : Process) : Follows holder proc proc :=
  ⟨id, Nat.le_refl _, Nat.le_refl _, fun isFenced => ⟨isFenced, rfl⟩⟩

theorem Follows.trans {before between after : Process} (first : Follows holder before between)
    (second : Follows holder between after) : Follows holder before after where
  lease := fun isHeld => second.lease (first.lease isHeld)
  passes := Nat.le_trans second.passes first.passes
  renewals := Nat.le_trans second.renewals first.renewals
  fenced := by
    intro isFenced
    obtain ⟨still, same⟩ := first.fenced isFenced
    obtain ⟨later, sameLater⟩ := second.fenced still
    exact ⟨later, sameLater.trans same⟩

theorem Follows.renewed (holder : Nat) (proc : Process) (hit : Bool) :
    Follows holder proc (proc.renewed hit) := by
  have fewer : (proc.renewals.erase hit).count true ≤ proc.renewals.count true :=
    (List.erase_sublist ..).count_le true
  simp only [Process.renewed]
  split
  · exact ⟨id, Nat.le_refl _, fewer, fun _ => ⟨rfl, rfl⟩⟩
  · exact ⟨id, Nat.le_refl _, fewer, fun isFenced => ⟨isFenced, rfl⟩⟩

/-- A row that does not name the process adds no check it will pass. -/
theorem Follows.asserting (isHeld : proc.lease = true) {named : Option Nat}
    (foreign : named ≠ some holder) : Follows holder proc (proc.asserting named) := by
  simp only [Process.asserting, isHeld, Bool.not_true, Bool.false_eq_true, if_false]
  split
  · exact .refl holder proc
  · refine ⟨fun _ => rfl, ?_, Nat.le_refl _, fun isFenced => ⟨isFenced, rfl⟩⟩
    have same : (named :: proc.asserts).count (some holder) = proc.asserts.count (some holder) :=
      List.count_cons_of_ne foreign
    exact Nat.le_of_eq (congrArg (proc.passed + ·) same)

/-- An answer uses up the read it answers. -/
theorem Follows.asserted {named : Option Nat} (isRead : named ∈ proc.asserts) :
    Follows holder proc (proc.asserted holder named) := by
  have fewer : (proc.asserts.erase named).count (some holder) ≤
      proc.asserts.count (some holder) := (List.erase_sublist ..).count_le _
  simp only [Process.asserted]
  split
  · exact ⟨id, Nat.add_le_add_left fewer _, Nat.le_refl _, fun isFenced => ⟨isFenced, rfl⟩⟩
  · split
    next isOwn =>
      subst isOwn
      refine ⟨id, ?_, Nat.le_refl _, fun isFenced => ⟨isFenced, rfl⟩⟩
      have present : 0 < proc.asserts.count (some holder) := List.count_pos_iff.mpr isRead
      dsimp only
      rw [List.count_erase_self]
      omega
    · exact ⟨id, Nat.add_le_add_left fewer _, Nat.le_refl _, fun _ => ⟨rfl, rfl⟩⟩

/-- Own steps of a displaced process that takes no step of an acquisition. -/
theorem stepOf_follows (isHeld : (fleet.procs holder).lease = true) (unnamed : ¬ fleet.Named holder)
    (isOwn : event.holder = some holder) (goesOn : ¬ event.Restarts holder) :
    Follows holder (fleet.procs holder)
      ((fleet.stepOf ttlMs holder (fleet.procs holder) event).procs holder) := by
  set proc := fleet.procs holder with isProc
  have unchanged : Follows holder proc (fleet.procs holder) := .refl holder proc
  cases event with
  | tick span => cases isOwn
  | acquireRun first | acquireAnswer first | clearLease first =>
    cases isOwn
    exact absurd rfl goesOn
  | release first => exact unchanged
  | beginAcquire first =>
    simp only [stepOf]
    split
    · rw [put_self]
      exact ⟨id, Nat.le_refl _, Nat.le_refl _, fun isFenced => ⟨isFenced, rfl⟩⟩
    · exact unchanged
  | acquireFails first | stopHeartbeat first =>
    simp only [stepOf, put_self]
    exact ⟨id, Nat.le_refl _, Nat.le_refl _, fun isFenced => ⟨isFenced, rfl⟩⟩
  | renewRun first =>
    simp only [stepOf]
    split
    · rw [put_self]
      have lost : namesIn fleet.row holder = false := by simpa [Named] using unnamed
      refine ⟨id, Nat.le_refl _, ?_, fun isFenced => ⟨isFenced, rfl⟩⟩
      rw [lost]
      exact Nat.le_of_eq (List.count_cons_of_ne (by decide))
    · exact unchanged
  | renewAnswer first hit =>
    simp only [stepOf]
    split
    · rw [put_self]
      exact .renewed holder proc hit
    · exact unchanged
  | renewFails first hit =>
    simp only [stepOf, put_self]
    exact ⟨id, Nat.le_refl _, (List.erase_sublist ..).count_le true,
      fun isFenced => ⟨isFenced, rfl⟩⟩
  | assertLease first =>
    simp only [stepOf, put_self]
    refine .asserting isHeld ?_
    intro isOwnRow
    exact unnamed (namesIn_iff.mpr isOwnRow)
  | assertAnswer first named =>
    simp only [stepOf]
    split
    next isRead =>
      rw [put_self]
      exact .asserted isRead
    · exact unchanged
  | assertFails first named =>
    simp only [stepOf, put_self]
    exact ⟨id, Nat.add_le_add_left ((List.erase_sublist ..).count_le _) _, Nat.le_refl _,
      fun isFenced => ⟨isFenced, rfl⟩⟩
  | dispatch first =>
    simp only [stepOf]
    split
    · exact unchanged
    next open_ =>
      rw [put_self]
      exact ⟨id, Nat.le_refl _, Nat.le_refl _, fun isFenced => absurd isFenced open_⟩

/-- The process believes in a lease the row does not give it. -/
def Displaced (fleet : Fleet) (holder : Nat) : Prop :=
  (fleet.procs holder).lease = true ∧ ¬ fleet.Named holder

instance (fleet : Fleet) (holder : Nat) : Decidable (fleet.Named holder) :=
  inferInstanceAs (Decidable (_ = true))

instance (fleet : Fleet) (holder : Nat) : Decidable (fleet.Displaced holder) :=
  inferInstanceAs (Decidable (_ ∧ _))

theorem step_eq_stepOf (isHolder : event.holder = some holder) :
    fleet.step ttlMs event = fleet.stepOf ttlMs holder (fleet.procs holder) event := by
  simp only [step, isHolder]

theorem step_displaced (displaced : fleet.Displaced holder) (goesOn : ¬ event.Restarts holder) :
    (fleet.step ttlMs event).Displaced holder ∧
      Follows holder (fleet.procs holder) ((fleet.step ttlMs event).procs holder) := by
  cases isHolder : event.holder with
  | none =>
    cases event with
    | tick span => exact ⟨displaced, .refl holder _⟩
    | beginAcquire first | acquireRun first | acquireAnswer first | acquireFails first
    | renewRun first | renewAnswer first hit | renewFails first hit | assertLease first
    | assertAnswer first named | assertFails first named | dispatch first
    | stopHeartbeat first | release first | clearLease first => cases isHolder
  | some first =>
    rw [step_eq_stepOf isHolder]
    have stillUnnamed :
        ¬ (fleet.stepOf ttlMs first (fleet.procs first) event).Named holder := by
      intro named
      rcases stepOf_names named with before | ⟨rfl, other, rfl⟩
      · exact displaced.2 before
      · cases isHolder
        exact goesOn rfl
    by_cases same : holder = first
    · subst same
      have follows : Follows holder (fleet.procs holder)
          ((fleet.stepOf ttlMs holder (fleet.procs holder) event).procs holder) :=
        stepOf_follows displaced.1 displaced.2 isHolder goesOn
      exact ⟨⟨follows.lease displaced.1, stillUnnamed⟩, follows⟩
    · have unchanged : (fleet.stepOf ttlMs first (fleet.procs first) event).procs holder =
          fleet.procs holder := stepOf_other same _ event
      rw [Displaced, unchanged]
      exact ⟨⟨displaced.1, stillUnnamed⟩, .refl holder _⟩

/-- Until it takes a step of an acquisition or gives up its belief, a displaced process stays
one. -/
theorem run_displaced (displaced : fleet.Displaced holder) (events : List LeaseEvent)
    (goesOn : ∀ event ∈ events, ¬ event.Restarts holder) :
    (run (step ttlMs) fleet events).Displaced holder ∧
      Follows holder (fleet.procs holder) ((run (step ttlMs) fleet events).procs holder) := by
  induction events generalizing fleet with
  | nil => exact ⟨displaced, .refl holder _⟩
  | cons event rest ih =>
    have stepped : (fleet.step ttlMs event).Displaced holder ∧
        Follows holder (fleet.procs holder) ((fleet.step ttlMs event).procs holder) :=
      step_displaced displaced (goesOn event (List.mem_cons_self ..))
    obtain ⟨still, follows⟩ := stepped
    obtain ⟨atEnd, followsToo⟩ := ih still fun later isLater =>
      goesOn later (List.mem_cons_of_mem _ isLater)
    exact ⟨atEnd, follows.trans followsToo⟩

/-- The process is answered that the row is not its own: a renewal found no row while the
heartbeat ran, or a check read another name. -/
def Tells (fleet : Fleet) (holder : Nat) : LeaseEvent → Prop
  | .renewAnswer first hit =>
    first = holder ∧ hit = false ∧ false ∈ (fleet.procs holder).renewals ∧
      (fleet.procs holder).heartbeat = true
  | .assertAnswer first named =>
    first = holder ∧ named ∈ (fleet.procs holder).asserts ∧ named ≠ some holder
  | _ => False

theorem fenced_of_tells (displaced : fleet.Displaced holder) (tells : fleet.Tells holder event) :
    ((fleet.step ttlMs event).procs holder).fenced = true := by
  cases event with
  | renewAnswer first hit =>
    obtain ⟨rfl, rfl, isAnswer, beats⟩ := tells
    rw [step_eq_stepOf rfl]
    simp only [stepOf, if_pos isAnswer, put_self, Process.renewed, beats, Bool.not_false,
      Bool.and_self, if_true]
  | assertAnswer first named =>
    obtain ⟨rfl, isRead, foreign⟩ := tells
    rw [step_eq_stepOf rfl]
    simp only [stepOf, if_pos isRead, put_self, Process.asserted, displaced.1, Bool.not_true,
      Bool.false_eq_true, if_false, if_neg foreign]
  | tick span | beginAcquire first | acquireRun first | acquireAnswer first | acquireFails first
  | renewRun first | renewFails first hit | assertLease first | assertFails first named
  | dispatch first | stopHeartbeat first | release first | clearLease first => cases tells

theorem release_unnamed (unnamed : ¬ fleet.Named holder) :
    (fleet.step ttlMs (.release holder)).row = fleet.row := by
  rw [step_eq_stepOf rfl]
  exact if_neg unnamed

/-- In every state of a run the row names one process at most, and a release by another leaves
it. A process that believes in a lease the row no longer gives it stays displaced until it takes
a step of an acquisition or gives up its belief: it passes only checks that read the row before
the takeover, none of its later renewals finds the row, the first such answer fences it, and a
fenced process dispatches no job. -/
theorem displaced_process_fenced (ttlMs : Nat) (before : List LeaseEvent) :
    let fleet := run (step ttlMs) initial before
    (∀ first second, fleet.Named first → fleet.Named second → first = second) ∧
    (∀ holder, ¬ fleet.Named holder → (fleet.step ttlMs (.release holder)).row = fleet.row) ∧
    (∀ holder events, fleet.Displaced holder → (∀ event ∈ events, ¬ event.Restarts holder) →
      let later := run (step ttlMs) fleet events
      later.Displaced holder ∧
      (later.procs holder).passed ≤
        (fleet.procs holder).passed + (fleet.procs holder).asserts.count (some holder) ∧
      (later.procs holder).renewals.count true ≤ (fleet.procs holder).renewals.count true ∧
      (∀ event, later.Tells holder event → ((later.step ttlMs event).procs holder).fenced = true) ∧
      ((fleet.procs holder).fenced = true → (later.procs holder).fenced = true ∧
        (later.procs holder).dispatched = (fleet.procs holder).dispatched)) := by
  intro fleet
  refine ⟨?_, ?_, ?_⟩
  · intro first second isFirst isSecond
    exact namesIn_unique isFirst isSecond
  · intro holder unnamed
    exact release_unnamed unnamed
  · intro holder events displaced goesOn
    have displacedToo : (run (step ttlMs) fleet events).Displaced holder ∧
        Follows holder (fleet.procs holder) ((run (step ttlMs) fleet events).procs holder) :=
      run_displaced displaced events goesOn
    obtain ⟨still, follows⟩ := displacedToo
    refine ⟨still, ?_, follows.renewals, fun event tells => fenced_of_tells still tells,
      follows.fenced⟩
    exact Nat.le_trans (Nat.le_add_right ..) follows.passes

/-- The first process has its check before a broadcast read when the second takes the stale
lease over. -/
def takeoverRun : List LeaseEvent :=
  [.beginAcquire 1, .acquireRun 1, .acquireAnswer 1, .acquireRun 1, .acquireAnswer 1,
    .acquireRun 1, .acquireAnswer 1, .acquireRun 1, .acquireAnswer 1, .tick 11, .assertLease 1,
    .beginAcquire 2, .acquireRun 2, .acquireAnswer 2, .acquireRun 2, .acquireAnswer 2]

/-- The process that was taken over still passes that check and dispatches a job. -/
theorem displaced_process_goes_on :
    let fleet := run (step 10) initial takeoverRun
    let later := run (step 10) fleet [.assertAnswer 1 (some 1), .dispatch 1]
    fleet.Displaced 1 ∧ fleet.Named 2 ∧ (fleet.procs 1).passed = 0 ∧
      (later.procs 1).passed = 1 ∧ (later.procs 1).dispatched = 1 := by
  refine ⟨?_, ?_, ?_, ?_, ?_⟩ <;> decide

/-- After its next renewal it dispatches no job. -/
theorem displaced_process_fenced_renewal :
    let told := run (step 10) initial (takeoverRun ++ [.renewRun 1, .renewAnswer 1 false])
    told.Displaced 1 ∧ ((run (step 10) told [.assertLease 1, .dispatch 1]).procs 1).dispatched =
      (told.procs 1).dispatched := by
  intro told
  have displaced : told.Displaced 1 := by decide
  have goesOn : ∀ event ∈ [.assertLease 1, .dispatch 1], ¬ LeaseEvent.Restarts 1 event := by
    simp [LeaseEvent.Restarts]
  have isFenced : (told.procs 1).fenced = true := by decide
  have afterwards := displaced_process_fenced 10
    (takeoverRun ++ [.renewRun 1, .renewAnswer 1 false])
  obtain ⟨_, _, _, _, stays⟩ := afterwards.2.2 1 _ displaced goesOn
  exact ⟨displaced, (stays isFenced).2⟩

end Fleet

end Nightgate.Runtime
