import Nightgate.Library.Machine
import Mathlib.Order.Nat

/-!
# Machines under a fair schedule

An infinite schedule takes one event after the other. In some states an event is due; a fair
schedule takes an event that stays due at some time. If no step moves away from the end, and
a due event moves towards it, then every fair schedule gets there.
-/

namespace Nightgate.Library

variable {State Event : Type*}

/-- The state after the first events of a schedule. -/
def stateAt (step : State → Event → State) (start : State) (schedule : Nat → Event) : Nat → State
  | 0 => start
  | time + 1 => step (stateAt step start schedule time) (schedule time)

/-- What is due is taken, unless it is due no more. -/
def Fair (step : State → Event → State) (due : State → Option Event) (start : State)
    (schedule : Nat → Event) : Prop :=
  ∀ time event, due (stateAt step start schedule time) = some event → ∃ later, time ≤ later ∧
      (schedule later = event ∨ due (stateAt step start schedule later) ≠ some event)

section Schedules

variable {step : State → Event → State} {start : State} {schedule : Nat → Event}

theorem stateAt_invariant {invariant : State → Prop}
    (keeps : ∀ state event, invariant state → invariant (step state event))
    (initially : invariant start) (time : Nat) : invariant (stateAt step start schedule time) := by
  induction time with
  | zero => exact initially
  | succ time ih => exact keeps _ _ ih

/-- From some time on, an invariant that every step keeps. -/
theorem stateAt_invariant_from {invariant : State → Prop}
    (keeps : ∀ state event, invariant state → invariant (step state event)) {time later : Nat}
    (holds : invariant (stateAt step start schedule time)) (after : time ≤ later) :
    invariant (stateAt step start schedule later) := by
  induction later, after using Nat.le_induction with
  | base => exact holds
  | succ later _ ih => exact keeps _ _ ih

variable {invariant : State → Prop} {rank : State → Nat}

/-- While the rank stays as it is, so does what is awaited. -/
theorem rank_and_due {Due : Type*} {due : State → Due}
    (keeps : ∀ state event, invariant state → invariant (step state event))
    (progress : ∀ state event, invariant state → rank (step state event) < rank state ∨
      (rank (step state event) = rank state ∧ due (step state event) = due state))
    {time later : Nat} (holds : invariant (stateAt step start schedule time))
    (after : time ≤ later) :
    rank (stateAt step start schedule later) < rank (stateAt step start schedule time) ∨
      (rank (stateAt step start schedule later) = rank (stateAt step start schedule time) ∧
        due (stateAt step start schedule later) = due (stateAt step start schedule time)) := by
  induction later, after using Nat.le_induction with
  | base => exact Or.inr ⟨rfl, rfl⟩
  | succ later isLater ih =>
    have here := stateAt_invariant_from keeps holds isLater
    rcases progress _ (schedule later) here with lower | ⟨sameRank, sameDue⟩
    · rcases ih with before | ⟨before, _⟩
      · exact Or.inl (lower.trans before)
      · exact Or.inl (before ▸ lower)
    · rcases ih with before | ⟨before, dueBefore⟩
      · exact Or.inl (sameRank.trans_lt before)
      · exact Or.inr ⟨sameRank.trans before, sameDue.trans dueBefore⟩

/-- A height that always falls again, short of the goal, gets there. -/
theorem eventually_of_descent {goal : Nat → Prop} {height : Nat → Nat} (time : Nat)
    (descends : ∀ now, time ≤ now → ¬goal now → ∃ later, now ≤ later ∧ height later < height now) :
    ∃ later, time ≤ later ∧ goal later := by
  have reaches : ∀ bound now, time ≤ now → height now = bound →
      ∃ later, time ≤ later ∧ goal later := by
    intro bound
    induction bound using Nat.strongRecOn with
    | ind bound ih =>
      intro now after isHeight
      by_cases isGoal : goal now
      · exact ⟨now, after, isGoal⟩
      · obtain ⟨later, afterNow, lower⟩ := descends now after isGoal
        exact ih _ (isHeight ▸ lower) later (after.trans afterNow) rfl
  exact reaches _ time le_rfl rfl

/-- What is awaited ends, if each event that can end it lowers the rank and one of them comes. -/
theorem eventually_lower {Due : Type*} (due : State → Due) (ending : Due → Event → Prop)
    (keeps : ∀ state event, invariant state → invariant (step state event))
    (progress : ∀ state event, invariant state → rank (step state event) < rank state ∨
      (rank (step state event) = rank state ∧ due (step state event) = due state))
    (helps : ∀ state event, invariant state → ending (due state) event →
      rank (step state event) < rank state)
    {time later : Nat} (holds : invariant (stateAt step start schedule time)) (after : time ≤ later)
    (ends : ending (due (stateAt step start schedule time)) (schedule later)) :
    ∃ final, time ≤ final ∧
      rank (stateAt step start schedule final) < rank (stateAt step start schedule time) := by
  rcases rank_and_due keeps progress holds after with lower | ⟨sameRank, sameDue⟩
  · exact ⟨later, after, lower⟩
  · refine ⟨later + 1, after.trans (Nat.le_succ later), ?_⟩
    rw [← sameRank]
    exact helps _ _ (stateAt_invariant_from keeps holds after) (sameDue ▸ ends)

/-- A fair schedule gets to a state in which nothing is due any more. -/
theorem eventually_nothing_due {due : State → Option Event}
    (keeps : ∀ state event, invariant state → invariant (step state event))
    (progress : ∀ state event, invariant state → rank (step state event) < rank state ∨
      (rank (step state event) = rank state ∧ due (step state event) = due state))
    (helps : ∀ state event, invariant state → due state = some event →
      rank (step state event) < rank state)
    (fair : Fair step due start schedule) (time : Nat)
    (holds : invariant (stateAt step start schedule time)) :
    ∃ later, time ≤ later ∧ due (stateAt step start schedule later) = none := by
  apply eventually_of_descent time
  intro now after isDue
  obtain ⟨event, isDue⟩ := Option.ne_none_iff_exists'.mp isDue
  have here := stateAt_invariant_from keeps holds after
  obtain ⟨later, afterNow, taken⟩ := fair now event isDue
  rcases taken with isEvent | other
  · have ends : due (stateAt step start schedule now) = some (schedule later) := by
      rw [isDue, isEvent]
    exact eventually_lower due (fun isDue event => isDue = some event) keeps progress helps here
      afterNow ends
  · rcases rank_and_due keeps progress here afterNow with lower | ⟨_, sameDue⟩
    · exact ⟨later, afterNow, lower⟩
    · exact absurd (sameDue.trans isDue) other

end Schedules

/-- The events of a list, and then one that is taken again and again. -/
def thenIdle (events : List Event) (idle : Event) (time : Nat) : Event :=
  (events[time]?).getD idle

theorem thenIdle_of_le {events : List Event} {idle : Event} {time : Nat}
    (after : events.length ≤ time) : thenIdle events idle time = idle := by
  rw [thenIdle, List.getElem?_eq_none after]
  rfl

/-- An event that changes nothing leaves the state as the list has brought it. -/
theorem stateAt_thenIdle {step : State → Event → State} {start state : State} {events : List Event}
    {idle : Event} (there : stateAt step start (thenIdle events idle) events.length = state)
    (rests : step state idle = state) {time : Nat} (after : events.length ≤ time) :
    stateAt step start (thenIdle events idle) time = state := by
  induction time, after using Nat.le_induction with
  | base => exact there
  | succ time isLater ih =>
    rw [stateAt, ih, thenIdle_of_le isLater]
    exact rests

end Nightgate.Library
