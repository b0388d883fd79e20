import Mathlib.Order.Lattice

/-!
# Budgets that count per window

A meter counts what is used of each kind in one window and forgets the count when it moves on to a
later one. Beside it stands what is outstanding of every window: taken in it and not given back.
The meter knows of one window only, so a limit on its count is one on what is outstanding as long
as nothing is given back to a window it was not taken in.
-/

namespace Nightgate.Library

structure Meter (Window Kind : Type*) where
  window : Option Window
  used : Kind → Nat
  outstanding : Window → Kind → Nat

namespace Meter

variable {Window Kind : Type*} [LinearOrder Window]

/-- What the meter counts in a window. -/
def usedIn (meter : Meter Window Kind) (window : Window) (kind : Kind) : Nat :=
  if meter.window = some window then meter.used kind else 0

/-- The meter has not moved on to a window after this one. -/
def NotPast (meter : Meter Window Kind) (now : Window) : Prop :=
  ∀ window, meter.window = some window → window ≤ now

/-- What is outstanding is within the limit in every window, and in the current one within the
count. -/
structure Sound (limit : Kind → Option Nat) (meter : Meter Window Kind) : Prop where
  counted : ∀ window, meter.window = some window →
    ∀ kind, meter.outstanding window kind ≤ meter.used kind
  later : ∀ day, (∀ window, meter.window = some window → window < day) →
    ∀ kind, meter.outstanding day kind = 0
  used : ∀ window, meter.window = some window →
    ∀ kind bound, limit kind = some bound → meter.used kind ≤ bound
  outstanding : ∀ day kind bound, limit kind = some bound → meter.outstanding day kind ≤ bound

/-- The count is what is outstanding in the current window. -/
def Exact (meter : Meter Window Kind) : Prop :=
  ∀ window, meter.window = some window → ∀ kind, meter.used kind = meter.outstanding window kind

section Counts

variable {limit : Kind → Option Nat} {before after : Meter Window Kind}

/-- What is outstanding in a window not past is within what the meter counts in it. -/
theorem Sound.outstanding_le (sound : before.Sound limit) {now : Window}
    (notPast : before.NotPast now) (kind : Kind) :
    before.outstanding now kind ≤ before.usedIn now kind := by
  by_cases current : before.window = some now
  · rw [usedIn, if_pos current]
    exact sound.counted now current kind
  · rw [sound.later now]
    · exact Nat.zero_le _
    · intro window isWindow
      apply lt_of_le_of_ne (notPast window isWindow)
      intro same
      exact current (same ▸ isWindow)

theorem Exact.usedIn_eq (exact : before.Exact) (sound : before.Sound limit) {now : Window}
    (notPast : before.NotPast now) (kind : Kind) :
    before.usedIn now kind = before.outstanding now kind := by
  by_cases current : before.window = some now
  · rw [usedIn, if_pos current]
    exact exact now current kind
  · have le := sound.outstanding_le notPast kind
    rw [usedIn, if_neg current] at le ⊢
    omega

end Counts

variable [DecidableEq Kind]

/-- How the meter and what is outstanding change together. -/
inductive Move (limit : Kind → Option Nat) (before after : Meter Window Kind) : Prop where
  | take (now : Window) (kind : Kind) (amount : Nat) (notPast : before.NotPast now)
      (room : ∀ bound, limit kind = some bound → before.usedIn now kind + amount ≤ bound)
      (window : after.window = some now)
      (used : ∀ other, after.used other =
        before.usedIn now other + if other = kind then amount else 0)
      (outstanding : ∀ day other, after.outstanding day other =
        before.outstanding day other + if day = now ∧ other = kind then amount else 0)
  /-- Given back to the window it was taken in. -/
  | giveBack (day : Window) (kind : Kind) (amount : Nat) (current : before.window = some day)
      (window : after.window = some day)
      (used : ∀ other, after.used other = before.used other - if other = kind then amount else 0)
      (outstanding : ∀ window other, after.outstanding window other +
        (if window = day ∧ other = kind then amount else 0) = before.outstanding window other)
  /-- No longer outstanding, without a change of the count. -/
  | forget (window : after.window = before.window) (used : ∀ other, after.used other =
      before.used other)
      (outstanding : ∀ day other, after.outstanding day other ≤ before.outstanding day other)

section Moves

variable {limit : Kind → Option Nat} {before after : Meter Window Kind}

theorem Move.sound (move : Move limit before after) (sound : before.Sound limit) :
    after.Sound limit := by
  cases move with
  | take now kind amount notPast room window used outstanding =>
    have bounded : ∀ other bound, limit other = some bound → after.used other ≤ bound := by
      intro other bound isBound
      rw [used other]
      split
      next same =>
        subst same
        exact room bound isBound
      · rw [usedIn]
        split
        next current => exact sound.used now current other bound isBound
        · exact Nat.zero_le _
    have counted : ∀ other, after.outstanding now other ≤ after.used other := by
      intro other
      rw [used other, outstanding now other]
      have le := sound.outstanding_le notPast other
      split <;> simp_all
    constructor
    · intro day isDay other
      rw [window] at isDay
      cases isDay
      exact counted other
    · intro day isLater other
      have after := isLater now window
      have notNow : day ≠ now := ne_of_gt after
      rw [outstanding day other, sound.later day, if_neg (fun both => notNow both.1)]
      intro past isPast
      exact lt_of_le_of_lt (notPast past isPast) after
    · intro day isDay other bound isBound
      exact bounded other bound isBound
    · intro day other bound isBound
      by_cases isNow : day = now
      · subst isNow
        exact Nat.le_trans (counted other) (bounded other bound isBound)
      · rw [outstanding day other, if_neg (fun both => isNow both.1)]
        exact sound.outstanding day other bound isBound
  | giveBack day kind amount current window used outstanding =>
    constructor
    · intro now isNow other
      rw [window] at isNow
      cases isNow
      have within := sound.counted day current other
      have moved := outstanding day other
      rw [used other]
      by_cases same : other = kind
      · simp only [same, and_self, if_true] at within moved ⊢
        omega
      · simp only [same, and_false, if_false] at moved ⊢
        omega
    · intro later isLater other
      have before := sound.later later (by
        intro now isNow
        rw [current] at isNow
        cases isNow
        exact isLater day window) other
      have moved := outstanding later other
      omega
    · intro now isNow other bound isBound
      have within := sound.used day current other bound isBound
      rw [used other]
      omega
    · intro now other bound isBound
      have within := sound.outstanding now other bound isBound
      have moved := outstanding now other
      omega
  | forget window used outstanding =>
    constructor
    · intro now isNow other
      rw [used other]
      exact Nat.le_trans (outstanding now other) (sound.counted now (window ▸ isNow) other)
    · intro day isLater other
      have before := sound.later day (fun now isNow => isLater now (window ▸ isNow)) other
      have moved := outstanding day other
      omega
    · intro now isNow other bound isBound
      rw [used other]
      exact sound.used now (window ▸ isNow) other bound isBound
    · intro day other bound isBound
      exact Nat.le_trans (outstanding day other) (sound.outstanding day other bound isBound)

/-- A take keeps the count exact. -/
theorem exact_of_take {now : Window} {kind : Kind} {amount : Nat} (exact : before.Exact)
    (sound : before.Sound limit) (notPast : before.NotPast now)
    (window : after.window = some now)
    (used : ∀ other, after.used other =
      before.usedIn now other + if other = kind then amount else 0)
    (outstanding : ∀ other, after.outstanding now other =
      before.outstanding now other + if other = kind then amount else 0) : after.Exact := by
  intro day isDay other
  rw [window] at isDay
  cases isDay
  rw [used other, outstanding other, exact.usedIn_eq sound notPast other]

end Moves

end Meter

end Nightgate.Library
