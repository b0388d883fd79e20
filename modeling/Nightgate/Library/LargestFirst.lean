import Mathlib.Algebra.BigOperators.Group.List.Basic
import Mathlib.Algebra.GroupWithZero.Nat
import Mathlib.Algebra.Order.Group.Nat
import Mathlib.Data.List.Perm.Subperm
import Mathlib.Data.List.Nodup

/-!
# Taking the largest first

Among all choices of a bounded number of items, the first ones of a descending list weigh the
most. When a choice has at most one item of each key, the heaviest item of each key does for it.
-/

namespace Nightgate.Library

variable {α κ : Type*} {size : α → Nat} {key : α → κ}

variable {sorted chosen : List α} {limit : Nat}

/-- No choice among descending items weighs more than as many of the first ones. -/
theorem sum_le_sum_take (descending : sorted.Pairwise fun first later => size later ≤ size first)
    (among : chosen.Sublist sorted) (few : chosen.length ≤ limit) :
    (chosen.map size).sum ≤ ((sorted.take limit).map size).sum := by
  induction sorted generalizing chosen limit with
  | nil =>
    rw [List.sublist_nil] at among
    subst among
    exact Nat.zero_le _
  | cons first rest ih =>
    rw [List.pairwise_cons] at descending
    cases chosen with
    | nil => exact Nat.zero_le _
    | cons item others =>
      cases limit with
      | zero => exact absurd few (by simp)
      | succ limit =>
        have fewer : others.length ≤ limit := by simpa using few
        -- The item is the first one, or lighter; the others come later either way.
        have step : size item ≤ size first ∧ others.Sublist rest := by
          cases among with
          | cons _ later =>
            have isLater : item ∈ rest := later.subset List.mem_cons_self
            exact ⟨descending.1 item isLater, (List.sublist_cons_self _ _).trans later⟩
          | cons_cons _ later => exact ⟨le_refl _, later⟩
        have later := ih descending.2 step.2 fewer
        simp only [List.map_cons, List.sum_cons, List.take_succ_cons]
        omega

/-- The same, for items in any order. -/
theorem sum_le_sum_take_of_subperm
    (descending : sorted.Pairwise fun first later => size later ≤ size first)
    (among : chosen.Subperm sorted) (few : chosen.length ≤ limit) :
    (chosen.map size).sum ≤ ((sorted.take limit).map size).sum := by
  obtain ⟨ordered, same, sub⟩ := among
  rw [← (same.map size).sum_eq]
  exact sum_le_sum_take descending sub (same.length_eq ▸ few)

/-- The same, for the last ones of an ascending list. -/
theorem sum_le_sum_drop_of_subperm
    (ascending : sorted.Pairwise fun first later => size first ≤ size later)
    (among : chosen.Subperm sorted) (few : chosen.length ≤ limit) :
    (chosen.map size).sum ≤ ((sorted.drop (sorted.length - limit)).map size).sum := by
  have descending : sorted.reverse.Pairwise fun first later => size later ≤ size first :=
    List.pairwise_reverse.mpr ascending
  have bound := sum_le_sum_take_of_subperm descending
    (among.trans (List.reverse_perm sorted).symm.subperm) few
  rw [List.take_reverse, List.map_reverse, List.sum_reverse] at bound
  exact bound

/-- Items of distinct keys can be replaced by candidates at least as heavy, one for each key. -/
theorem exists_heavier {candidates chosen : List α} (distinct : (chosen.map key).Nodup)
    (dominated : ∀ item ∈ chosen, 0 < size item →
      ∃ other ∈ candidates, key other = key item ∧ size item ≤ size other) :
    ∃ heavier, heavier.Nodup ∧ heavier ⊆ candidates ∧
      (∀ item ∈ heavier, key item ∈ chosen.map key) ∧ heavier.length ≤ chosen.length ∧
      (chosen.map size).sum ≤ (heavier.map size).sum := by
  induction chosen with
  | nil => exact ⟨[], by simp⟩
  | cons item rest ih =>
    rw [List.map_cons, List.nodup_cons] at distinct
    obtain ⟨heavier, nodup, sub, keys, few, sum⟩ := ih distinct.2 fun other listed =>
      dominated other (List.mem_cons_of_mem _ listed)
    have keysLater : ∀ other ∈ heavier, key other ∈ (item :: rest).map key := by
      intro other listed
      rw [List.map_cons]
      exact List.mem_cons_of_mem _ (keys other listed)
    by_cases weighs : 0 < size item
    case pos =>
      obtain ⟨other, isCandidate, sameKey, atLeast⟩ := dominated item List.mem_cons_self weighs
      have fresh : other ∉ heavier := by
        intro listed
        exact distinct.1 (sameKey ▸ keys other listed)
      refine ⟨other :: heavier, nodup.cons fresh, List.cons_subset.mpr ⟨isCandidate, sub⟩, ?_,
        by simpa using few, ?_⟩
      · intro either listed
        cases listed with
        | head => simp [sameKey]
        | tail _ listed => exact keysLater either listed
      · simp only [List.map_cons, List.sum_cons]
        omega
    case neg =>
      refine ⟨heavier, nodup, sub, keysLater, few.trans (Nat.le_succ _), ?_⟩
      simp only [List.map_cons, List.sum_cons]
      omega

/-- The first of the descending candidates weigh as much as any choice of distinct keys. -/
theorem sum_le_sum_take_of_dominated
    (descending : sorted.Pairwise fun first later => size later ≤ size first)
    (distinct : (chosen.map key).Nodup)
    (dominated : ∀ item ∈ chosen, 0 < size item →
      ∃ other ∈ sorted, key other = key item ∧ size item ≤ size other)
    (few : chosen.length ≤ limit) :
    (chosen.map size).sum ≤ ((sorted.take limit).map size).sum := by
  obtain ⟨heavier, nodup, sub, _, fewer, sum⟩ := exists_heavier distinct dominated
  exact sum.trans (sum_le_sum_take_of_subperm descending (List.subperm_of_subset nodup sub)
    (fewer.trans few))

end Nightgate.Library
