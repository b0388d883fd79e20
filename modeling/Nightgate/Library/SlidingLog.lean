import Mathlib.Algebra.Order.Group.Basic
import Mathlib.Data.List.Basic

/-!
# Logs of a sliding window

A hit is admitted when the hits of the last window, kept in a log, leave room for it under the
limit in force. The log may forget what no later window can reach, and every window still holds
no more hits than the limit of its last one allowed.
-/

namespace Nightgate.Library

/-- An admitted hit, with the limit in force when it was admitted. -/
structure Admission (Time : Type*) where
  now : Time
  limit : Int

variable {Time : Type*} [AddCommGroup Time] [LinearOrder Time]

/-- The hits of the window that begins after a time. -/
def hitsWithin (width start : Time) (admissions : List (Admission Time)) : List (Admission Time) :=
  admissions.filter fun hit => start < hit.now ∧ hit.now ≤ start + width

/-- The log misses no hit that a window ending at `last` or later can reach, and no window holds
more hits than the limit of its last one. -/
structure SlidingLog (width last : Time) (admissions : List (Admission Time)) (log : List Time) :
    Prop where
  past : ∀ hit ∈ admissions, hit.now ≤ last
  kept : ∀ start, last - width ≤ start → admissions.countP (start < ·.now) ≤ log.countP (start < ·)
  bounded : ∀ start hit, (hitsWithin width start admissions).getLast? = some hit →
    ((hitsWithin width start admissions).length : Int) ≤ hit.limit

namespace SlidingLog

variable {width last now : Time} {admissions : List (Admission Time)} {log : List Time}

/-- With no hit admitted yet, any log will do. -/
theorem start (width last : Time) (log : List Time) : SlidingLog width last [] log where
  past := by simp
  kept := by simp
  bounded := by simp [hitsWithin]

theorem perm (sliding : SlidingLog width last admissions log) {other : List Time}
    (same : other.Perm log) : SlidingLog width last admissions other where
  past := sliding.past
  kept start recent := (sliding.kept start recent).trans (same.countP_eq _).ge
  bounded := sliding.bounded

/-- Only what lies in the window that ends now is needed. -/
theorem active (sliding : SlidingLog width now admissions log) :
    SlidingLog width now admissions (log.filter (now - width < ·)) where
  past := sliding.past
  kept start recent := by
    rw [List.countP_filter]
    apply (sliding.kept start recent).trans_eq
    apply List.countP_congr
    intro time _
    simp only [Bool.and_eq_true, decide_eq_true_eq]
    constructor
    · intro after
      exact ⟨after, recent.trans_lt after⟩
    · intro both
      exact both.1
  bounded := sliding.bounded

/-- A log without a hit in the window that ends now may be dropped. -/
theorem drop (sliding : SlidingLog width now admissions log)
    (idle : log.filter (now - width < ·) = []) : SlidingLog width now admissions [] :=
  idle ▸ sliding.active

theorem hitsWithin_append (start : Time) (more : List (Admission Time)) :
    hitsWithin width start (admissions ++ more) =
      hitsWithin width start admissions ++ hitsWithin width start more :=
  List.filter_append ..

variable [IsOrderedAddMonoid Time]

theorem later (sliding : SlidingLog width last admissions log) (passed : last ≤ now) :
    SlidingLog width now admissions log where
  past hit admitted := (sliding.past hit admitted).trans passed
  kept start recent := sliding.kept start ((sub_le_sub_right passed width).trans recent)
  bounded := sliding.bounded

/-- The hits of a window that ends now or later are within those of the log. -/
theorem length_hitsWithin_le (sliding : SlidingLog width now admissions log) {start : Time}
    (reaches : now ≤ start + width) :
    (hitsWithin width start admissions).length ≤ log.length := by
  have recent : now - width ≤ start := sub_le_iff_le_add.mpr reaches
  calc (hitsWithin width start admissions).length
      = admissions.countP fun hit => start < hit.now ∧ hit.now ≤ start + width := by
        rw [hitsWithin, List.countP_eq_length_filter]
    _ ≤ admissions.countP (start < ·.now) := by
        apply List.countP_mono_left
        intro hit _ within
        simp only [decide_eq_true_eq] at within ⊢
        exact within.1
    _ ≤ log.countP (start < ·) := sliding.kept start recent
    _ ≤ log.length := List.countP_le_length

/-- Hits admitted now within the limit. -/
theorem record (sliding : SlidingLog width now admissions log) {count : Nat} {limit : Int}
    (fits : (log.length : Int) + count ≤ limit) :
    SlidingLog width now (admissions ++ List.replicate count ⟨now, limit⟩)
      (log ++ List.replicate count now) where
  past hit admitted := by
    rw [List.mem_append] at admitted
    cases admitted with
    | inl before => exact sliding.past hit before
    | inr isNew => rw [List.eq_of_mem_replicate isNew]
  kept start recent := by
    rw [List.countP_append, List.countP_append, List.countP_replicate, List.countP_replicate]
    exact Nat.add_le_add_right (sliding.kept start recent) _
  bounded start hit isLast := by
    rw [hitsWithin_append] at isLast ⊢
    by_cases within : start < now ∧ now ≤ start + width
    · have all : hitsWithin width start (List.replicate count ⟨now, limit⟩) =
          List.replicate count ⟨now, limit⟩ := by
        rw [hitsWithin, List.filter_replicate_of_pos (by simpa using within)]
      rw [all] at isLast ⊢
      cases count with
      | zero =>
        rw [List.replicate_zero, List.append_nil] at isLast ⊢
        exact sliding.bounded start hit isLast
      | succ count =>
        have isNew : hit = ⟨now, limit⟩ := by
          rw [List.getLast?_append, List.getLast?_replicate,
            if_neg (Nat.succ_ne_zero count)] at isLast
          simpa using isLast.symm
        have few := sliding.length_hitsWithin_le within.2
        rw [isNew, List.length_append, List.length_replicate]
        push_cast at fits ⊢
        omega
    · have none : hitsWithin width start (List.replicate count ⟨now, limit⟩) = [] := by
        rw [hitsWithin, List.filter_replicate_of_neg (by simpa using within)]
      rw [none, List.append_nil] at isLast ⊢
      exact sliding.bounded start hit isLast

end SlidingLog

end Nightgate.Library
