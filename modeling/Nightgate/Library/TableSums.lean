import Mathlib.Algebra.Order.BigOperators.Group.List
import Mathlib.Algebra.Order.Ring.Nat
import Nightgate.Library.Table

/-!
# Sums over a table

What the rows weigh together, and how an insert or an update changes it.
-/

namespace Nightgate.Library

namespace Table

variable {Row : Type*} [Keyed Row]

/-- The weight of all rows. -/
def total (weight : Row → Nat) (table : Table Row) : Nat := (table.rows.map weight).sum

@[simp] theorem total_empty (weight : Row → Nat) : (empty : Table Row).total weight = 0 := rfl

variable {table : Table Row} {weight : Row → Nat} {id : Nat} {row new : Row}
  {matching : Row → Bool} {patch : Patch Row}

theorem total_insert (free : table.find? (Keyed.key new) = none) :
    (table.insert new).total weight = table.total weight + weight new := by
  unfold total insert
  rw [dif_pos free]
  simp

theorem total_insert_weightless (weightless : weight new = 0) :
    (table.insert new).total weight = table.total weight := by
  by_cases free : table.find? (Keyed.key new) = none
  · rw [total_insert free, weightless, Nat.add_zero]
  · rw [insert, dif_neg free]

/-- An update moves the sum by what it does to its one row. -/
theorem total_update (found : table.find? id = some row) (isMatch : matching row = true) :
    (table.update id matching patch).total weight + weight row =
      table.total weight + weight (patch.set row) := by
  have distinct := table.distinct
  unfold find? at found
  simp only [total, update, updateWhere]
  generalize table.rows = rows at distinct found
  induction rows with
  | nil => cases found
  | cons head rest ih =>
    rw [List.map_cons, List.nodup_cons] at distinct
    rw [List.find?_cons] at found
    split at found
    next isHead =>
      cases found
      have isKey : Keyed.key row = id := of_decide_eq_true isHead
      have others : rest.map (fun other =>
          if (decide (Keyed.key other = id) && matching other) = true then patch.set other
          else other) = rest := by
        apply (List.map_congr_left _).trans (List.map_id rest)
        intro other listed
        have notKey : Keyed.key other ≠ id := by
          intro same
          apply distinct.1
          rw [isKey, ← same]
          exact List.mem_map_of_mem listed
        simp [notKey]
      simp only [List.map_cons, List.sum_cons, others, isKey, decide_true, isMatch, Bool.and_self,
        if_true]
      omega
    next notHead =>
      have notKey : Keyed.key head ≠ id := by simpa using notHead
      have tail := ih distinct.2 found
      simp only [List.map_cons, List.sum_cons, notKey, decide_false, Bool.false_and,
        Bool.false_eq_true, if_false]
      omega

/-- What an update leaves the weight of alone, it leaves the sum of alone. -/
theorem total_update_same
    (same : ∀ row, table.find? id = some row → matching row = true →
      weight (patch.set row) = weight row) :
    (table.update id matching patch).total weight = table.total weight := by
  simp only [total, update, updateWhere]
  rw [List.map_map]
  congr 1
  apply List.map_congr_left
  intro row stored
  simp only [Function.comp_apply]
  split
  next isMatch =>
    simp only [Bool.and_eq_true, decide_eq_true_eq] at isMatch
    exact same row (isMatch.1 ▸ find?_of_mem stored) isMatch.2
  · rfl

theorem total_congr {other : Row → Nat} (same : ∀ row ∈ table.rows, weight row = other row) :
    table.total weight = table.total other := by
  unfold total
  rw [List.map_congr_left same]

/-- A weight that is a sum of two. -/
theorem total_add (left right : Row → Nat) :
    table.total (fun row => left row + right row) = table.total left + table.total right := by
  unfold total
  generalize table.rows = rows
  induction rows with
  | nil => rfl
  | cons head rest ih =>
    simp only [List.map_cons, List.sum_cons, ih]
    omega

end Table

end Nightgate.Library
