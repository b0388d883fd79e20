import Mathlib.Algebra.Order.BigOperators.Group.List
import Mathlib.Algebra.Order.Group.Unbundled.Basic
import Nightgate.Library.Fallible
import Nightgate.Library.InsertionMap

/-!
# Budgets by key

A budget holds an amount for each key that was ever paid into. What is drawn under a key comes
off its amount and never exceeds it, so all draws together stay within what was paid in.
-/

namespace Nightgate.Library

/-- What a list of entries says under a key. -/
def amountUnder {Key Amount : Type*} [DecidableEq Key] [AddMonoid Amount]
    (entries : List (Key × Amount)) (key : Key) : Amount :=
  ((entries.filter fun entry => entry.1 = key).map Prod.snd).sum

section AmountUnder

variable {Key Amount : Type*} [DecidableEq Key] [AddMonoid Amount]

@[simp] theorem amountUnder_nil (key : Key) :
    amountUnder ([] : List (Key × Amount)) key = 0 :=
  rfl

theorem amountUnder_cons (entry : Key × Amount) (rest : List (Key × Amount)) (key : Key) :
    amountUnder (entry :: rest) key =
      (if entry.1 = key then entry.2 else 0) + amountUnder rest key := by
  by_cases isKey : entry.1 = key
  · simp [amountUnder, isKey]
  · simp [amountUnder, isKey]

theorem amountUnder_cons_self (key : Key) (amount : Amount) (rest : List (Key × Amount)) :
    amountUnder ((key, amount) :: rest) key = amount + amountUnder rest key := by
  simp [amountUnder]

theorem amountUnder_cons_of_ne {key other : Key} (distinct : other ≠ key) (amount : Amount)
    (rest : List (Key × Amount)) :
    amountUnder ((other, amount) :: rest) key = amountUnder rest key := by
  simp [amountUnder, distinct]

theorem amountUnder_perm {Total : Type*} [AddCommMonoid Total] {entries others : List (Key × Total)}
    (same : entries.Perm others) (key : Key) : amountUnder entries key = amountUnder others key :=
  ((same.filter _).map _).sum_eq

theorem amountUnder_append (entries more : List (Key × Amount)) (key : Key) :
    amountUnder (entries ++ more) key = amountUnder entries key + amountUnder more key := by
  simp [amountUnder]

end AmountUnder

namespace InsertionMap

variable {Key Amount : Type*} [DecidableEq Key] [AddCommGroup Amount]

/-- The amount left under a key. -/
def left (budget : InsertionMap Key Amount) (key : Key) : Amount :=
  (budget.get? key).getD 0

def deposit (budget : InsertionMap Key Amount) (key : Key) (amount : Amount) :
    InsertionMap Key Amount :=
  budget.set key (budget.left key + amount)

def depositAll (budget : InsertionMap Key Amount) (entries : List (Key × Amount)) :
    InsertionMap Key Amount :=
  entries.foldl (fun budget entry => budget.deposit entry.1 entry.2) budget

@[simp] theorem left_empty (key : Key) : (empty : InsertionMap Key Amount).left key = 0 :=
  rfl

theorem left_of_get? {budget : InsertionMap Key Amount} {key : Key} {amount : Amount}
    (held : budget.get? key = some amount) : budget.left key = amount := by
  rw [left, held, Option.getD_some]

section Budget

variable (budget : InsertionMap Key Amount)

@[simp] theorem left_set_self (key : Key) (amount : Amount) :
    (budget.set key amount).left key = amount :=
  left_of_get? (get?_set_self budget key amount)

theorem left_set_of_ne {key other : Key} (amount : Amount)
    (distinct : other ≠ key) : (budget.set key amount).left other = budget.left other := by
  rw [left, left, get?_set_of_ne distinct]

/-- A key stands in one entry, so its amount is what the entries say. -/
theorem left_eq_amountUnder (key : Key) :
    budget.left key = amountUnder budget.entries key := by
  have listed : ∀ entries : List (Key × Amount), (entries.map Prod.fst).Nodup →
      ((entries.find? fun entry => entry.1 = key).map Prod.snd).getD 0 =
        amountUnder entries key := by
    intro entries distinct
    induction entries with
    | nil => rfl
    | cons entry rest ih =>
      rw [List.map_cons, List.nodup_cons] at distinct
      by_cases isKey : entry.1 = key
      · have none : amountUnder rest key = 0 := by
          rw [amountUnder, List.filter_eq_nil_iff.mpr, List.map_nil, List.sum_nil]
          intro other isOther sameKey
          apply distinct.1
          rw [isKey, ← of_decide_eq_true sameKey]
          exact List.mem_map_of_mem isOther
        rw [amountUnder_cons, if_pos isKey, none, add_zero]
        simp [isKey]
      · rw [amountUnder_cons, if_neg isKey, zero_add, ← ih distinct.2]
        simp [isKey]
  exact listed budget.entries budget.distinct

theorem left_deposit (key : Key) (amount : Amount) (other : Key) :
    (budget.deposit key amount).left other =
      budget.left other + if key = other then amount else 0 := by
  by_cases isKey : key = other
  · rw [deposit, if_pos isKey, ← isKey, left_set_self]
  · rw [deposit, if_neg isKey, left_set_of_ne _ _ (Ne.symm isKey), add_zero]

end Budget

theorem left_depositAll (entries : List (Key × Amount)) (budget : InsertionMap Key Amount)
    (key : Key) :
    (budget.depositAll entries).left key = budget.left key + amountUnder entries key := by
  induction entries generalizing budget with
  | nil => rw [amountUnder_nil, add_zero]; rfl
  | cons entry rest ih =>
    have first := ih (budget.deposit entry.1 entry.2)
    rw [depositAll, List.foldl_cons, ← depositAll, first]
    by_cases isKey : entry.1 = key
    · subst isKey
      rw [deposit, left_set_self, amountUnder_cons_self, add_assoc]
    · rw [deposit, left_set_of_ne budget _ (Ne.symm isKey), amountUnder_cons_of_ne isKey]

/-- What paying in leaves under a key of a budget that held nothing. -/
theorem left_depositAll_empty (entries : List (Key × Amount)) (key : Key) :
    ((empty : InsertionMap Key Amount).depositAll entries).left key = amountUnder entries key := by
  rw [left_depositAll, left_empty, zero_add]

section Draws

variable [LinearOrder Amount]

/-- No key is overdrawn. -/
def Covered (budget : InsertionMap Key Amount) : Prop :=
  ∀ key, 0 ≤ budget.left key

theorem covered_empty : (empty : InsertionMap Key Amount).Covered := by
  intro key
  rw [left_empty]

/-- `drawn` took the budget from `before` to `after` without overdrawing it. -/
structure DrawnFrom (before after : InsertionMap Key Amount) (drawn : Key → Amount) : Prop where
  covered : after.Covered
  balance : ∀ key, after.left key + drawn key = before.left key

variable {budget : InsertionMap Key Amount}

theorem DrawnFrom.nothing (covered : budget.Covered) :
    DrawnFrom budget budget fun _ => 0 where
  covered := covered
  balance := by
    intro key
    rw [add_zero]

theorem DrawnFrom.trans {first second third : InsertionMap Key Amount} {drawn later : Key → Amount}
    (one : DrawnFrom first second drawn) (two : DrawnFrom second third later) :
    DrawnFrom first third fun key => drawn key + later key where
  covered := two.covered
  balance := by
    intro key
    rw [← one.balance key, ← two.balance key, add_assoc, add_comm (drawn key)]

theorem DrawnFrom.of_eq {before after : InsertionMap Key Amount} {drawn other : Key → Amount}
    (paid : DrawnFrom before after drawn) (same : ∀ key, drawn key = other key) :
    DrawnFrom before after other := by
  rw [← funext same]
  exact paid

variable [IsOrderedAddMonoid Amount]

theorem covered_depositAll (covered : budget.Covered)
    {entries : List (Key × Amount)} (positive : ∀ entry ∈ entries, 0 ≤ entry.2) :
    (budget.depositAll entries).Covered := by
  intro key
  rw [left_depositAll]
  apply add_nonneg (covered key)
  apply List.sum_nonneg
  intro amount listed
  obtain ⟨entry, isEntry, rfl⟩ := List.mem_map.mp listed
  exact positive entry (List.mem_of_mem_filter isEntry)

/-- Taking what is left under a key, whether or not anything was ever paid in there. -/
theorem DrawnFrom.take (covered : budget.Covered) {key : Key}
    {taken : Amount} (within : taken ≤ budget.left key) :
    DrawnFrom budget (budget.set key (budget.left key - taken))
      fun other => if other = key then taken else 0 where
  covered := by
    intro other
    by_cases isKey : other = key
    · rw [isKey, left_set_self]
      exact sub_nonneg.mpr within
    · rw [left_set_of_ne _ _ isKey]
      exact covered other
  balance := by
    intro other
    by_cases isKey : other = key
    · rw [if_pos isKey, isKey, left_set_self, sub_add_cancel]
    · rw [if_neg isKey, left_set_of_ne _ _ isKey, add_zero]

/-- Taking an amount that is there. -/
theorem DrawnFrom.draw (covered : budget.Covered) {key : Key}
    {held taken : Amount} (isHeld : budget.get? key = some held) (within : taken ≤ held) :
    DrawnFrom budget (budget.set key (held - taken))
      fun other => if other = key then taken else 0 := by
  have isLeft := left_of_get? isHeld
  rw [← isLeft] at within ⊢
  exact DrawnFrom.take covered within

/-- All that is drawn under a key is within what was there. -/
theorem DrawnFrom.le {before after : InsertionMap Key Amount} {drawn : Key → Amount}
    (paid : DrawnFrom before after drawn) (key : Key) : drawn key ≤ before.left key := by
  rw [← paid.balance key]
  exact le_add_of_nonneg_left (paid.covered key)

end Draws

/-- A loop whose steps draw, draws what its steps do together. -/
theorem DrawnFrom.of_foldlM {Key Item Amount Refusal : Type} [DecidableEq Key]
    [AddCommGroup Amount] [LinearOrder Amount]
    {step : InsertionMap Key Amount → Item → Except Refusal (InsertionMap Key Amount)}
    {drawn : Item → Key → Amount} {items : List Item} {before after : InsertionMap Key Amount}
    (ran : items.foldlM step before = .ok after) (covered : before.Covered)
    (each : ∀ item ∈ items, ∀ budget next, budget.Covered → step budget item = .ok next →
      DrawnFrom budget next (drawn item)) :
    DrawnFrom before after fun key => (items.map fun item => drawn item key).sum := by
  induction items generalizing before with
  | nil =>
    cases ran
    exact DrawnFrom.nothing covered
  | cons first rest ih =>
    rw [List.foldlM_cons] at ran
    rcases of_bind_ok ran with ⟨next, stepped, ran⟩
    have drawsFirst := each first (List.mem_cons_self ..) before next covered stepped
    have drawsRest := ih ran drawsFirst.covered
      (fun item isMem => each item (List.mem_cons_of_mem _ isMem))
    exact (drawsFirst.trans drawsRest).of_eq (by simp)

end InsertionMap

end Nightgate.Library
