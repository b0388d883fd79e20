import Mathlib.Logic.Function.Iterate

/-!
# Ancestors by level

A parent function that goes down one level at a time. The ancestors of an element are determined
by their levels, so that two lines of descent that meet agree from there on down.
-/

namespace Nightgate.Library

variable {α : Type*}

/-- A parent is one level lower, down to level zero. -/
def StepsDown (parent : α → α) (level : α → Nat) : Prop :=
  ∀ element, 0 < level element → level (parent element) + 1 = level element

/-- An element, its parent and so on. -/
def Ancestor (parent : α → α) (level : α → Nat) (top element : α) : Prop :=
  ∃ steps ≤ level top, parent^[steps] top = element

namespace StepsDown

variable {parent : α → α} {level : α → Nat}

theorem level_iterate (down : StepsDown parent level) {top : α} {steps : Nat}
    (within : steps ≤ level top) : level (parent^[steps] top) = level top - steps := by
  induction steps with
  | zero => rfl
  | succ steps ih =>
    have above := ih (Nat.le_of_succ_le within)
    have positive : 0 < level (parent^[steps] top) := by omega
    have below := down _ positive
    rw [Function.iterate_succ_apply']
    omega

end StepsDown

namespace Ancestor

variable {parent : α → α} {level : α → Nat} {top element other : α}

theorem refl (top : α) : Ancestor parent level top top :=
  ⟨0, Nat.zero_le _, rfl⟩

theorem parent_of (down : StepsDown parent level) (ancestor : Ancestor parent level top element)
    (positive : 0 < level element) : Ancestor parent level top (parent element) := by
  obtain ⟨steps, within, rfl⟩ := ancestor
  rw [down.level_iterate within] at positive
  exact ⟨steps + 1, by omega, Function.iterate_succ_apply' _ _ _⟩

/-- Ancestors of one element on the same level are the same. -/
theorem eq_of_level_eq (down : StepsDown parent level)
    (ancestor : Ancestor parent level top element) (another : Ancestor parent level top other)
    (same : level element = level other) : element = other := by
  obtain ⟨steps, within, rfl⟩ := ancestor
  obtain ⟨further, withinToo, rfl⟩ := another
  rw [down.level_iterate within, down.level_iterate withinToo] at same
  have : steps = further := by omega
  rw [this]

end Ancestor

end Nightgate.Library
