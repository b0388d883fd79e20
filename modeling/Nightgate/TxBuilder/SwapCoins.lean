import Mathlib.Data.List.Sort
import Nightgate.Library.LargestFirst

/-!
# The coins of a swap half

A half spends coins of one token type, at most as many as it has slots. The wallet asks for them
one at a time, and each pick is the smallest coin that still lets the remaining slots cover the
rest. So the picks never get stuck: what the largest coins can cover before a pick, the largest of
the others can cover after it.
-/

namespace Nightgate.TxBuilder

open Nightgate.Library

/-- A free coin; `ref` tells the objects of a list apart. -/
structure SwapCoin where
  ref : Nat
  type : String
  value : Nat
deriving DecidableEq

/-- The free coins of a wallet, each an object of its own. -/
structure FreeCoins where
  coins : List SwapCoin
  distinct : coins.Nodup

/-- What a half has left to cover, and the coins it may still spend. -/
structure SwapPlan where
  remaining : Int
  slots : Nat

/-- The last `count` items, as `slice(-count)` takes them: all of them for zero. -/
def sliceLast {α : Type*} (items : List α) (count : Nat) : List α :=
  if count = 0 then items else items.drop (items.length - count)

def total (coins : List SwapCoin) : Nat :=
  (coins.map SwapCoin.value).sum

/-- The coins of a type, the smallest first. -/
def ownCoins (coins : List SwapCoin) (tokenType : String) : List SwapCoin :=
  (coins.filter (·.type = tokenType)).insertionSort fun first later => first.value ≤ later.value

/-- The most one half can give of a token type. -/
def spendableWithin (coins : List SwapCoin) (tokenType : String) (maxInputs : Nat) : Nat :=
  total (sliceLast (ownCoins coins tokenType) maxInputs)

/-- The slots that are left after a pick can cover the rest. -/
def stillCovered (own : List SwapCoin) (plan : SwapPlan) (coin : SwapCoin) : Bool :=
  let rest := plan.remaining - coin.value
  let others := own.filter (· ≠ coin)
  let reach := if 1 < plan.slots then total (sliceLast others (plan.slots - 1)) else 0
  rest ≤ 0 ∨ rest ≤ reach

/-- Picks the smallest coin that still lets the remaining slots cover the rest, and updates the
plan. -/
def chooseSwapCoin (coins : List SwapCoin) (tokenType : String) (plan : SwapPlan) :
    Option (SwapCoin × SwapPlan) :=
  if plan.slots = 0 ∨ plan.remaining ≤ 0 then none
  else
    let own := ownCoins coins tokenType
    (own.find? (stillCovered own plan)).map fun coin =>
      (coin, ⟨plan.remaining - coin.value, plan.slots - 1⟩)

theorem chooseSwapCoin_slots {coins : List SwapCoin} {tokenType : String} {plan : SwapPlan}
    {coin : SwapCoin} {next : SwapPlan}
    (chosen : chooseSwapCoin coins tokenType plan = some (coin, next)) :
    next.slots < plan.slots := by
  rw [chooseSwapCoin] at chosen
  split at chosen
  · cases chosen
  next isOpen =>
    obtain ⟨_, _, isPair⟩ := Option.map_eq_some_iff.mp chosen
    cases isPair
    show plan.slots - 1 < plan.slots
    omega

/-- Picks coins until the amount is covered; fails when no coin is offered before that. -/
def pickCoins (coins : List SwapCoin) (tokenType : String) (plan : SwapPlan) :
    Option (List SwapCoin) :=
  if plan.remaining ≤ 0 then some []
  else
    match chosen : chooseSwapCoin coins tokenType plan with
    | none => none
    | some (coin, next) =>
      have := chooseSwapCoin_slots chosen
      (pickCoins (coins.filter (· ≠ coin)) tokenType next).map (coin :: ·)
termination_by plan.slots

section Largest

variable {coins own : List SwapCoin} {tokenType : String} {coin : SwapCoin}

/-- The last `count` items, none for zero. -/
def largest (own : List SwapCoin) (count : Nat) : List SwapCoin :=
  own.drop (own.length - count)

theorem sliceLast_eq_largest {count : Nat} (positive : 0 < count) :
    sliceLast own count = largest own count := by
  rw [sliceLast, if_neg (Nat.ne_of_gt positive), largest]

theorem ownCoins_perm (coins : List SwapCoin) (tokenType : String) :
    (ownCoins coins tokenType).Perm (coins.filter (·.type = tokenType)) :=
  List.perm_insertionSort _ _

theorem mem_ownCoins : coin ∈ ownCoins coins tokenType ↔ coin ∈ coins ∧ coin.type = tokenType := by
  rw [ownCoins, List.mem_insertionSort, List.mem_filter, decide_eq_true_eq]

theorem ownCoins_pairwise (coins : List SwapCoin) (tokenType : String) :
    (ownCoins coins tokenType).Pairwise fun first later => first.value ≤ later.value := by
  have total : Std.Total fun first later : SwapCoin => first.value ≤ later.value :=
    ⟨fun first later => Nat.le_total first.value later.value⟩
  have trans : IsTrans SwapCoin fun first later => first.value ≤ later.value :=
    ⟨fun _ _ _ => Nat.le_trans⟩
  exact List.pairwise_insertionSort _ _

theorem ownCoins_nodup (distinct : coins.Nodup) (tokenType : String) :
    (ownCoins coins tokenType).Nodup :=
  (ownCoins_perm coins tokenType).nodup_iff.mpr (distinct.filter _)

/-- No choice of so many coins is worth more than the largest ones. -/
theorem total_le_largest {chosen : List SwapCoin} {count : Nat}
    (among : chosen.Subperm (ownCoins coins tokenType)) (few : chosen.length ≤ count) :
    total chosen ≤ total (largest (ownCoins coins tokenType) count) :=
  sum_le_sum_drop_of_subperm (ownCoins_pairwise coins tokenType) among few

theorem length_largest_le (own : List SwapCoin) (count : Nat) :
    (largest own count).length ≤ count := by
  rw [largest, List.length_drop]
  omega

/-- Without a coin, the others are the coins that are left. -/
theorem others_perm (coins : List SwapCoin) (tokenType : String) (coin : SwapCoin) :
    ((ownCoins coins tokenType).filter (· ≠ coin)).Perm
      (ownCoins (coins.filter (· ≠ coin)) tokenType) := by
  have filtered := (ownCoins_perm coins tokenType).filter (· ≠ coin)
  rw [List.filter_comm] at filtered
  exact filtered.trans (ownCoins_perm _ tokenType).symm

/-- One more of the largest coins is the very largest and so many of the others. -/
theorem total_largest_succ {front : List SwapCoin} {count : Nat} :
    total (largest (front ++ [coin]) (count + 1)) = total (largest front count) + coin.value := by
  have start : (front ++ [coin]).length - (count + 1) = front.length - count := by
    rw [List.length_append, List.length_singleton]
    omega
  rw [largest, start, List.drop_append_of_le_length (Nat.sub_le _ _), total, List.map_append,
    List.sum_append, List.map_singleton, List.sum_singleton]
  rfl

end Largest

/-! ## Picking -/

section Picking

variable {coins : List SwapCoin} {tokenType : String} {plan : SwapPlan}

theorem stillCovered_iff (own : List SwapCoin) (plan : SwapPlan) (coin : SwapCoin) :
    stillCovered own plan coin = true ↔
      plan.remaining - coin.value ≤ total (largest (own.filter (· ≠ coin)) (plan.slots - 1)) := by
  rw [stillCovered, decide_eq_true_eq]
  by_cases last : 1 < plan.slots
  · rw [if_pos last, sliceLast_eq_largest (by omega)]
    omega
  · have none : plan.slots - 1 = 0 := by omega
    rw [if_neg last, none, largest, Nat.sub_zero, List.drop_length]
    simp [total]

/-- As long as the largest coins cover what remains, a coin is offered, and the largest of the
others cover the rest. -/
theorem chooseSwapCoin_of_covered (distinct : coins.Nodup) (uncovered : 0 < plan.remaining)
    (covered : plan.remaining ≤ total (largest (ownCoins coins tokenType) plan.slots)) :
    ∃ coin, coin ∈ ownCoins coins tokenType ∧ 0 < plan.slots ∧ chooseSwapCoin coins tokenType plan =
        some (coin, ⟨plan.remaining - coin.value, plan.slots - 1⟩) ∧
      plan.remaining - coin.value ≤
        total (largest (ownCoins (coins.filter (· ≠ coin)) tokenType) (plan.slots - 1)) := by
  have slots : plan.slots ≠ 0 := by
    intro none
    rw [none, largest, Nat.sub_zero, List.drop_length] at covered
    simp only [total, List.map_nil, List.sum_nil] at covered
    omega
  have isOpen : ¬(plan.slots = 0 ∨ plan.remaining ≤ 0) := by omega
  rw [chooseSwapCoin, if_neg isOpen]
  -- The largest coin always qualifies: the others were counted beside it.
  have offered : ∃ coin ∈ ownCoins coins tokenType,
      stillCovered (ownCoins coins tokenType) plan coin = true := by
    have nodup := ownCoins_nodup distinct tokenType
    rcases List.eq_nil_or_concat (ownCoins coins tokenType) with none | ⟨front, coin, isOwn⟩
    · rw [none] at covered
      simp only [largest, total, List.drop_nil, List.map_nil, List.sum_nil] at covered
      omega
    · rw [List.concat_eq_append] at isOwn
      rw [isOwn] at covered nodup ⊢
      refine ⟨coin, List.mem_append_right _ (List.mem_singleton_self coin), ?_⟩
      have fresh : coin ∉ front := by
        intro listed
        exact (List.nodup_append.mp nodup).2.2 coin listed coin (List.mem_singleton_self coin) rfl
      have others : (front ++ [coin]).filter (· ≠ coin) = front := by
        rw [List.filter_append, List.filter_eq_self.mpr]
        · simp
        · intro other listed
          simpa using fun same : other = coin => fresh (same ▸ listed)
      obtain ⟨count, isCount⟩ := Nat.exists_eq_succ_of_ne_zero slots
      rw [stillCovered_iff, others]
      rw [isCount] at covered ⊢
      rw [Nat.succ_eq_add_one, total_largest_succ] at covered
      rw [Nat.succ_sub_one]
      push_cast at covered
      omega
  cases found : (ownCoins coins tokenType).find? (stillCovered (ownCoins coins tokenType) plan) with
  | none =>
    obtain ⟨coin, listed, qualifies⟩ := offered
    exact absurd qualifies (List.find?_eq_none.mp found coin listed)
  | some coin =>
    refine ⟨coin, List.mem_of_find?_eq_some found, Nat.pos_of_ne_zero slots,
      congrArg (Option.map _) found, ?_⟩
    have reach := (stillCovered_iff _ plan coin).mp (List.find?_some found)
    have left := total_le_largest
      ((List.drop_sublist _ _).subperm.trans (others_perm coins tokenType coin).subperm)
      (length_largest_le _ (plan.slots - 1))
    exact reach.trans (Int.ofNat_le.mpr left)

theorem pickCoins_of_chosen {coin : SwapCoin} {next : SwapPlan} (uncovered : ¬plan.remaining ≤ 0)
    (chosen : chooseSwapCoin coins tokenType plan = some (coin, next)) :
    pickCoins coins tokenType plan =
      (pickCoins (coins.filter (· ≠ coin)) tokenType next).map (coin :: ·) := by
  rw [pickCoins, if_neg uncovered]
  split
  next none => simp [chosen] at none
  next offered =>
    cases chosen.symm.trans offered
    rfl

/-- What the picks are: distinct coins of the type, within the slots, that cover what remains. -/
structure Covers (coins : List SwapCoin) (tokenType : String) (plan : SwapPlan)
    (picked : List SwapCoin) : Prop where
  distinct : picked.Nodup
  among : ∀ coin ∈ picked, coin ∈ coins ∧ coin.type = tokenType
  few : picked.length ≤ plan.slots
  covers : plan.remaining ≤ total picked

/-- The picks never get stuck before what remains is covered. -/
theorem pickCoins_covers (distinct : coins.Nodup)
    (covered : plan.remaining ≤ total (largest (ownCoins coins tokenType) plan.slots)) :
    ∃ picked, pickCoins coins tokenType plan = some picked ∧
      Covers coins tokenType plan picked := by
  -- The slots that are left go down with each pick.
  induction slots : plan.slots generalizing coins plan with
  | zero =>
    have done : plan.remaining ≤ 0 := by
      rw [slots, largest, Nat.sub_zero, List.drop_length] at covered
      simpa [total] using covered
    refine ⟨[], by rw [pickCoins, if_pos done], List.nodup_nil, by simp, Nat.zero_le _, ?_⟩
    simpa [total] using done
  | succ count ih =>
    by_cases done : plan.remaining ≤ 0
    · refine ⟨[], by rw [pickCoins, if_pos done], List.nodup_nil, by simp, Nat.zero_le _, ?_⟩
      simpa [total] using done
    · obtain ⟨coin, isOwn, _, chosen, reach⟩ :=
        chooseSwapCoin_of_covered distinct (Int.not_le.mp done) covered
      obtain ⟨rest, picked, restDistinct, among, few, covers⟩ :=
        @ih (coins.filter (· ≠ coin)) ⟨plan.remaining - coin.value, plan.slots - 1⟩
          (distinct.filter (· ≠ coin)) reach (by show plan.slots - 1 = count; omega)
      have others : ∀ other ∈ rest, other ∈ coins ∧ other ≠ coin ∧ other.type = tokenType := by
        intro other listed
        obtain ⟨left, isType⟩ := among other listed
        rw [List.mem_filter, decide_eq_true_eq] at left
        exact ⟨left.1, left.2, isType⟩
      refine ⟨coin :: rest, ?_, ?_, ?_, ?_, ?_⟩
      · rw [pickCoins_of_chosen done chosen, picked, Option.map_some]
      · exact restDistinct.cons fun listed => (others coin listed).2.1 rfl
      · intro other listed
        cases List.mem_cons.mp listed with
        | inl same => exact same ▸ mem_ownCoins.mp isOwn
        | inr listed => exact ⟨(others other listed).1, (others other listed).2.2⟩
      · rw [List.length_cons]
        dsimp only at few
        omega
      · simp only [total, List.map_cons, List.sum_cons] at covers ⊢
        omega

/-- What is reported as spendable can be picked coin by coin, and nothing beyond it can be given
with so many coins. -/
theorem spendableWithin_exact (free : FreeCoins) (tokenType : String) (amount maxInputs : Nat)
    (atLeastOne : 1 ≤ maxInputs) :
    (amount ≤ spendableWithin free.coins tokenType maxInputs →
      ∃ picked, pickCoins free.coins tokenType ⟨amount, maxInputs⟩ = some picked ∧
        Covers free.coins tokenType ⟨amount, maxInputs⟩ picked) ∧
    (spendableWithin free.coins tokenType maxInputs < amount →
      ∀ chosen : List SwapCoin, chosen.Nodup →
        (∀ coin ∈ chosen, coin ∈ free.coins ∧ coin.type = tokenType) →
        chosen.length ≤ maxInputs → total chosen < amount) := by
  rw [spendableWithin, sliceLast_eq_largest atLeastOne]
  constructor
  · intro enough
    exact pickCoins_covers free.distinct (Int.ofNat_le.mpr enough)
  · intro tooLittle chosen nodup among few
    have isOwn : chosen ⊆ ownCoins free.coins tokenType := by
      intro coin listed
      exact mem_ownCoins.mpr (among coin listed)
    exact (total_le_largest (List.subperm_of_subset nodup isOwn) few).trans_lt tooLittle

/-- Two coins of equal value and a larger one: six of the seven that two coins can give. -/
theorem spendableWithin_exact_pair :
    ∃ picked,
      pickCoins [⟨0, "a", 2⟩, ⟨1, "b", 9⟩, ⟨2, "a", 5⟩, ⟨3, "a", 2⟩] "a" ⟨6, 2⟩ = some picked ∧
      Covers [⟨0, "a", 2⟩, ⟨1, "b", 9⟩, ⟨2, "a", 5⟩, ⟨3, "a", 2⟩] "a" ⟨6, 2⟩ picked :=
  (spendableWithin_exact
    ⟨[⟨0, "a", 2⟩, ⟨1, "b", 9⟩, ⟨2, "a", 5⟩, ⟨3, "a", 2⟩], by decide⟩ "a" 6 2 (by decide)).1
    (by decide)

end Picking

end Nightgate.TxBuilder
