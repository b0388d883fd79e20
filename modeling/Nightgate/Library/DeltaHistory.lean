import Mathlib.Data.Nat.Basic
import Mathlib.Logic.Function.Basic

/-!
# Histories stored on change

A history keeps a value for some heights, and the newest at or below a height stands for the height.
-/

namespace Nightgate.Library

variable {α : Type*}

/-- The newest value at or below a height. -/
def newestAt (rows : Nat → Option α) : Nat → Option α
  | 0 => rows 0
  | height + 1 => (rows (height + 1)).or (newestAt rows height)

/-- The newest value below a height. -/
def newestBelow (rows : Nat → Option α) : Nat → Option α
  | 0 => none
  | height + 1 => newestAt rows height

section Newest

variable {rows other : Nat → Option α} {height : Nat}

theorem newestAt_eq (rows : Nat → Option α) (height : Nat) :
    newestAt rows height = (rows height).or (newestBelow rows height) := by
  cases height with
  | zero => exact (Option.or_none).symm
  | succ height => rfl

theorem newestAt_congr (same : ∀ lower ≤ height, rows lower = other lower) :
    newestAt rows height = newestAt other height := by
  induction height with
  | zero => exact same 0 (Nat.le_refl _)
  | succ height ih =>
    have below := ih fun lower low => same lower (Nat.le_succ_of_le low)
    rw [newestAt, newestAt, same (height + 1) (Nat.le_refl _), below]

theorem newestAt_of_row {value : α} (isRow : rows height = some value) :
    newestAt rows height = some value := by
  rw [newestAt_eq, isRow, Option.some_or]

theorem newestAt_of_no_row (noRow : rows height = none) :
    newestAt rows height = newestBelow rows height := by
  rw [newestAt_eq, noRow, Option.none_or]

theorem newestAt_eq_none (noRows : ∀ lower ≤ height, rows lower = none) :
    newestAt rows height = none := by
  induction height with
  | zero => exact noRows 0 (Nat.le_refl _)
  | succ height ih =>
    rw [newestAt_of_no_row (noRows (height + 1) (Nat.le_refl _))]
    exact ih fun lower low => noRows lower (Nat.le_succ_of_le low)

/-- Nothing newer stands above the row. -/
theorem newestAt_of_highest {row : Nat} (low : row ≤ height)
    (noRows : ∀ upper, row < upper → upper ≤ height → rows upper = none) :
    newestAt rows height = newestAt rows row := by
  induction height with
  | zero => rw [Nat.le_zero.mp low]
  | succ height ih =>
    rcases Nat.lt_or_eq_of_le low with lower | isRow
    · rw [newestAt_of_no_row (noRows (height + 1) lower (Nat.le_refl _))]
      exact ih (Nat.le_of_lt_succ lower) fun upper above below =>
        noRows upper above (Nat.le_succ_of_le below)
    · rw [isRow]

end Newest

end Nightgate.Library
