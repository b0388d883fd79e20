import Mathlib.Data.List.Nodup
import Mathlib.Data.List.Perm.Basic

/-!
# Counting semaphores that hand a slot over

A released slot goes straight to the first waiter; only without waiters does the count go
down. A semaphore serves the tasks that hold a slot when it counts them, never more than it
may, and lets no task wait beside a free slot.
-/

namespace Nightgate.Library

structure Semaphore (Task : Type*) where
  max : Nat
  inFlight : Nat
  waiters : List Task

namespace Semaphore

variable {Task : Type*}

def empty (max : Nat) : Semaphore Task := ⟨max, 0, []⟩

/-- Takes a slot, or queues the task; says which. -/
def acquire (semaphore : Semaphore Task) (task : Task) : Semaphore Task × Bool :=
  if semaphore.inFlight < semaphore.max then
    ({ semaphore with inFlight := semaphore.inFlight + 1 }, true)
  else ({ semaphore with waiters := semaphore.waiters ++ [task] }, false)

/-- Gives a slot back; says which waiter it goes to. -/
def release (semaphore : Semaphore Task) : Semaphore Task × Option Task :=
  match semaphore.waiters with
  | next :: rest => ({ semaphore with waiters := rest }, some next)
  | [] => ({ semaphore with inFlight := semaphore.inFlight - 1 }, none)

/-- The slots a new task finds free. -/
def available (semaphore : Semaphore Task) : Nat :=
  semaphore.max - semaphore.inFlight - semaphore.waiters.length

structure Serves (semaphore : Semaphore Task) (holders : List Task) : Prop where
  counted : semaphore.inFlight = holders.length
  bounded : semaphore.inFlight ≤ semaphore.max
  noneWaitsBesideFree : semaphore.waiters ≠ [] → semaphore.inFlight = semaphore.max
  distinct : (holders ++ semaphore.waiters).Nodup

theorem serves_empty (max : Nat) : (empty max : Semaphore Task).Serves [] :=
  ⟨rfl, Nat.zero_le _, fun waiting => absurd rfl waiting, List.nodup_nil⟩

section Rules

variable {semaphore : Semaphore Task} {holders : List Task} {task next : Task}

theorem Serves.disjoint (serves : semaphore.Serves holders) (holds : task ∈ holders) :
    task ∉ semaphore.waiters := by
  intro waits
  exact (List.nodup_append.1 serves.distinct).2.2 task holds task waits rfl

/-- A granted task holds a slot. -/
theorem Serves.acquire_granted (serves : semaphore.Serves holders) (idle : task ∉ holders)
    (granted : (semaphore.acquire task).2 = true) :
    (semaphore.acquire task).1.Serves (holders ++ [task]) ∧
      (semaphore.acquire task).1.waiters = semaphore.waiters := by
  simp only [acquire] at granted ⊢
  split at granted
  next free =>
    rw [if_pos free]
    have noWaiter : semaphore.waiters = [] := by
      by_contra waiting
      have full := serves.noneWaitsBesideFree waiting
      omega
    refine ⟨⟨?_, free, ?_, ?_⟩, rfl⟩
    · simp [serves.counted]
    · intro waiting
      exact absurd noWaiter waiting
    · have distinct := serves.distinct
      rw [noWaiter, List.append_nil] at distinct
      simp only [noWaiter, List.append_nil]
      rw [List.nodup_append]
      refine ⟨distinct, by simp, ?_⟩
      intro other listed same single
      rw [List.mem_singleton] at single
      rw [single]
      intro equal
      exact idle (equal ▸ listed)
  · cases granted

/-- A task that is not granted a slot waits last. -/
theorem Serves.acquire_queued (serves : semaphore.Serves holders) (idle : task ∉ holders)
    (alone : task ∉ semaphore.waiters) (queued : (semaphore.acquire task).2 = false) :
    (semaphore.acquire task).1.Serves holders ∧
      (semaphore.acquire task).1.waiters = semaphore.waiters ++ [task] := by
  simp only [acquire] at queued ⊢
  split at queued
  · cases queued
  next full =>
    rw [if_neg full]
    refine ⟨⟨serves.counted, serves.bounded, ?_, ?_⟩, rfl⟩
    · intro waiting
      have bounded := serves.bounded
      simp only
      omega
    · rw [← List.append_assoc, List.nodup_append]
      refine ⟨serves.distinct, by simp, ?_⟩
      intro other listed same single
      rw [List.mem_singleton] at single
      rw [single]
      intro equal
      rw [equal] at listed
      rcases List.mem_append.1 listed with holds | waits
      · exact idle holds
      · exact alone waits

variable [DecidableEq Task]

/-- With a waiter, the slot changes hands. -/
theorem Serves.release_handed (serves : semaphore.Serves holders) (holds : task ∈ holders)
    (handed : semaphore.release.2 = some next) :
    semaphore.release.1.Serves (holders.erase task ++ [next]) ∧
      semaphore.waiters = next :: semaphore.release.1.waiters := by
  simp only [release] at handed ⊢
  split at handed
  next first rest waiting =>
    cases handed
    have counted := serves.counted
    have bounded := serves.bounded
    have full := serves.noneWaitsBesideFree (by simp [waiting])
    have distinct := serves.distinct
    have present := List.length_pos_of_mem holds
    rw [waiting] at distinct
    simp only [waiting]
    refine ⟨⟨?_, bounded, fun _ => full, ?_⟩, trivial⟩
    · rw [List.length_append, List.length_erase_of_mem holds, counted, List.length_singleton]
      omega
    · rw [List.append_assoc]
      exact distinct.sublist (List.Sublist.append_right List.erase_sublist _)
  · cases handed

/-- Without waiters, the slot is free again. -/
theorem Serves.release_freed (serves : semaphore.Serves holders) (holds : task ∈ holders)
    (freed : semaphore.release.2 = none) :
    semaphore.release.1.Serves (holders.erase task) ∧
      semaphore.waiters = [] ∧ semaphore.release.1.waiters = [] := by
  simp only [release] at freed ⊢
  split at freed
  · cases freed
  next idle =>
    have counted := serves.counted
    have bounded := serves.bounded
    have distinct := serves.distinct
    rw [idle, List.append_nil] at distinct
    simp only [idle]
    refine ⟨⟨?_, ?_, fun waiting => absurd rfl waiting, ?_⟩, trivial, trivial⟩
    · rw [List.length_erase_of_mem holds, counted]
    · simp only
      omega
    · rw [List.append_nil]
      exact distinct.erase task

end Rules

end Semaphore

end Nightgate.Library
