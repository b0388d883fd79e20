import Mathlib.Order.Iterate
import Nightgate.Midnight.NotePicking

/-!
# The fee of a dust spend

Every dust spend raises the fee that the spends must cover. A spend of several notes is priced
until its fee holds, a bounded number of times; a spend of one note is not priced at all.
-/

namespace Nightgate.Midnight

/-- The fee of the transaction by its number of dust spends, and for which numbers the estimate
can be told. -/
structure SpendFees where
  fee : Nat → Nat
  monotone : Monotone fee
  told : Nat → Bool

/-- The notes a spend on the lease is built from. -/
def spendNotes (sessionId : String) (leased : DustLease) (needSpecks : Nat)
    (fresh : List DustNote) : List DustNote :=
  match leasedNotes sessionId fresh leased needSpecks with
  | .ok notes => notes
  | .error _ => []

namespace SpendFees

variable (fees : SpendFees) (notes : List DustNote)

/-- The estimate for the spend of these notes that takes a target. -/
def price (target : Nat) : Option Nat :=
  let spends := (dustSpendInputs notes target).length
  if fees.told spends then some (fees.fee spends) else none

/-- The target after a round. -/
def nextTarget (target : Nat) : Nat :=
  (fees.price notes target).getD target

/-- The fee is above the target in each of the first `rounds` rounds. -/
def Outruns (needSpecks rounds : Nat) : Prop :=
  ∀ round < rounds,
    (fees.nextTarget notes)^[round] needSpecks < (fees.nextTarget notes)^[round + 1] needSpecks

instance (needSpecks rounds : Nat) : Decidable (fees.Outruns notes needSpecks rounds) :=
  inferInstanceAs (Decidable (∀ _ < _, _))

end SpendFees

def DustSpend.paid (spend : DustSpend) : Nat :=
  (spend.inputs.map Prod.snd).sum

/-- What a spend of these notes pays, against the fee of the transaction with it. -/
structure FeePaid (fees : SpendFees) (notes : List DustNote) (needSpecks : Nat)
    (spend : DustSpend) : Prop where
  need : needSpecks ≤ spend.paid
  /-- The spend of a single note is not priced. -/
  single : notes.length < 2 → spend.paid = needSpecks
  several : 2 ≤ notes.length → fees.told spend.inputs.length = true →
    (fees.fee spend.inputs.length ≤ spend.paid ↔ ¬ fees.Outruns notes needSpecks (maxFeeRounds + 1))
  /-- As many notes as the rounds the fee is priced for. -/
  few : 2 ≤ notes.length → notes.length ≤ maxFeeRounds → 0 < needSpecks →
    fees.told spend.inputs.length = true → fees.fee spend.inputs.length ≤ spend.paid

section Rounds

variable {fees : SpendFees} {notes : List DustNote}

theorem nextTarget_of_told {target : Nat}
    (told : fees.told (dustSpendInputs notes target).length = true) :
    fees.nextTarget notes target = fees.fee (dustSpendInputs notes target).length := by
  rw [SpendFees.nextTarget, SpendFees.price, if_pos told, Option.getD_some]

/-- A target that rises was told. -/
theorem told_of_rises {target : Nat} (rises : target < fees.nextTarget notes target) :
    fees.nextTarget notes target = fees.fee (dustSpendInputs notes target).length := by
  apply nextTarget_of_told
  by_contra untold
  rw [SpendFees.nextTarget, SpendFees.price, if_neg untold, Option.getD_none] at rises
  exact lt_irrefl _ rises

theorem outruns_succ {target rounds : Nat} :
    fees.Outruns notes target (rounds + 1) ↔ target < fees.nextTarget notes target ∧
        fees.Outruns notes (fees.nextTarget notes target) rounds := by
  constructor
  · intro outruns
    refine ⟨outruns 0 (Nat.succ_pos rounds), fun round within => ?_⟩
    exact outruns (round + 1) (Nat.succ_lt_succ within)
  · rintro ⟨first, later⟩ round within
    cases round with
    | zero => exact first
    | succ round => exact later round (Nat.lt_of_succ_lt_succ within)

variable {held count rounds target final : Nat}

theorem settleFee_bounds {backing : String} {price : Nat → Option Nat}
    (settled : settleFee backing held count price rounds target = .ok final) :
    target ≤ final ∧ final ≤ held := by
  induction rounds generalizing target with
  | zero =>
    rw [settleFee] at settled
    split at settled
    · cases settled
    next enough =>
      cases settled
      exact ⟨le_refl _, Nat.le_of_not_lt enough⟩
  | succ rounds ih =>
    rw [settleFee] at settled
    split at settled
    · cases settled
    next enough =>
      have here : target ≤ target ∧ target ≤ held := ⟨le_refl _, Nat.le_of_not_lt enough⟩
      split at settled
      · cases settled
        exact here
      · dsimp only at settled
        split at settled
        · cases settled
          exact here
        next above =>
          have later := ih settled
          exact ⟨(Nat.le_of_not_le above).trans later.1, later.2⟩

theorem settleFee_single {backing : String} {price : Nat → Option Nat} (single : count < 2)
    (settled : settleFee backing held count price rounds target = .ok final) :
    final = target := by
  cases rounds with
  | zero =>
    rw [settleFee] at settled
    split at settled
    · cases settled
    · exact (Except.ok.inj settled).symm
  | succ rounds =>
    rw [settleFee, if_pos single] at settled
    split at settled
    · cases settled
    · exact (Except.ok.inj settled).symm

/-- The fee holds for the settled target exactly when it did not outrun every round. -/
theorem settleFee_holds_iff {backing : String} (several : 2 ≤ count)
    (settled : settleFee backing held count (fees.price notes) rounds target = .ok final) :
    fees.nextTarget notes final ≤ final ↔ ¬ fees.Outruns notes target (rounds + 1) := by
  rw [outruns_succ]
  induction rounds generalizing target with
  | zero =>
    rw [settleFee] at settled
    split at settled
    · cases settled
    · cases settled
      have nothing : fees.Outruns notes (fees.nextTarget notes final) 0 := by
        intro round within
        exact absurd within (Nat.not_lt_zero round)
      simp [nothing]
  | succ rounds ih =>
    rw [settleFee] at settled
    split at settled
    · cases settled
    · rw [if_neg (Nat.not_lt_of_le several)] at settled
      dsimp only at settled
      rw [← SpendFees.nextTarget] at settled
      split at settled
      next holds =>
        cases settled
        have notAbove := Nat.not_lt_of_le holds
        simp [notAbove, holds]
      next above =>
        rw [ih settled, outruns_succ]
        simp [Nat.lt_of_not_le above]

/-- Each round that the fee outruns takes a note more. -/
theorem spends_of_outruns {target rounds : Nat}
    (positive : 0 < (dustSpendInputs notes target).length)
    (outruns : fees.Outruns notes target (rounds + 1)) :
    rounds < (dustSpendInputs notes ((fees.nextTarget notes)^[rounds] target)).length := by
  induction rounds with
  | zero => exact positive
  | succ rounds ih =>
    have before := ih fun round within => outruns round (within.trans (Nat.lt_succ_self _))
    have rises := outruns rounds (by omega)
    have risesAgain := outruns (rounds + 1) (by omega)
    rw [Function.iterate_succ_apply'] at rises
    rw [Function.iterate_succ_apply' _ (rounds + 1), Function.iterate_succ_apply'] at risesAgain
    rw [Function.iterate_succ_apply']
    set current := (fees.nextTarget notes)^[rounds] target
    -- A higher fee is the fee of more spends.
    have higher := risesAgain
    rw [told_of_rises risesAgain] at higher
    conv_lhs at higher => rw [told_of_rises rises]
    have more : (dustSpendInputs notes current).length <
        (dustSpendInputs notes (fees.nextTarget notes current)).length := by
      by_contra notMore
      exact absurd (fees.monotone (Nat.le_of_not_lt notMore)) (Nat.not_le_of_lt higher)
    omega

theorem dustSpendInputs_length_le (notes : List DustNote) (target : Nat) :
    (dustSpendInputs notes target).length ≤ notes.length := by
  induction notes generalizing target with
  | nil => simp [dustSpendInputs]
  | cons note rest ih =>
    rw [dustSpendInputs]
    split
    · simp
    · exact Nat.succ_le_succ (ih _)

/-- With no more notes than rounds the fee cannot outrun them all. -/
theorem not_outruns {needSpecks : Nat} (some : notes ≠ []) (few : notes.length ≤ maxFeeRounds)
    (positive : 0 < needSpecks) : ¬ fees.Outruns notes needSpecks (maxFeeRounds + 1) := by
  intro outruns
  have first : 0 < (dustSpendInputs notes needSpecks).length := by
    cases notes with
    | nil => exact absurd rfl some
    | cons note rest =>
      rw [dustSpendInputs, if_neg positive.ne']
      exact Nat.succ_pos _
  have more := spends_of_outruns first outruns
  have atMost := dustSpendInputs_length_le notes ((fees.nextTarget notes)^[maxFeeRounds] needSpecks)
  omega

end Rounds

/-- A spend that is built pays the fee of its transaction when it is of several notes and the fee
did not outrun the target every time it was told; with up to four notes it never does. -/
theorem buildDustSpend_pays (fees : SpendFees) {sessionId : String} {leased : DustLease}
    {needSpecks : Nat} {fresh : List DustNote} {spend : DustSpend}
    (built : buildDustSpend sessionId leased needSpecks fresh
      (fees.price (spendNotes sessionId leased needSpecks fresh)) = .ok spend) :
    FeePaid fees (spendNotes sessionId leased needSpecks fresh) needSpecks spend := by
  rw [buildDustSpend] at built
  split at built
  · cases built
  next notes isNotes =>
    have isSpendNotes : spendNotes sessionId leased needSpecks fresh = notes := by
      rw [spendNotes, isNotes]
    rw [isSpendNotes] at built ⊢
    dsimp only at built
    split at built
    · cases built
    next final settled =>
      cases built
      have bounds := settleFee_bounds settled
      have total := (dustSpendInputs_spends bounds.2).total
      refine ⟨?_, ?_, ?_, ?_⟩
      · rw [DustSpend.paid, total]
        exact bounds.1
      · intro single
        rw [DustSpend.paid, total]
        exact settleFee_single single settled
      · intro several told
        rw [DustSpend.paid, total, ← nextTarget_of_told told]
        exact settleFee_holds_iff several settled
      · intro several few positive told
        rw [DustSpend.paid, total, ← nextTarget_of_told told, settleFee_holds_iff several settled]
        have some : notes ≠ [] := by
          rintro rfl
          simp at several
        exact not_outruns some few positive

/-- Ten specks for each dust spend. -/
def linearFees : SpendFees where
  fee := fun spends => 10 * spends + 5
  monotone := fun _ _ atMost => Nat.add_le_add_right (Nat.mul_le_mul_left 10 atMost) 5
  told := fun _ => true

/-- Notes of that many specks, each on its own backing. -/
def evenNotes (backings : List String) (specks : Nat) : List DustNote :=
  backings.map fun backing => ⟨some backing, some specks, some backing⟩

def leaseOn (backings : List String) : DustLease where
  parts := backings.mapIdx fun token backing => ("s|" ++ backing, token + 1)
  backing := "+".intercalate backings

/-- Two notes pay for both their spends. -/
theorem buildDustSpend_pays_pair :
    FeePaid linearFees (evenNotes ["a", "b"] 20) 25
      ⟨(evenNotes ["a", "b"] 20).zip [20, 5], ["a", "b"]⟩ :=
  @buildDustSpend_pays linearFees "s" (leaseOn ["a", "b"]) 25 (evenNotes ["a", "b"] 20)
    ⟨(evenNotes ["a", "b"] 20).zip [20, 5], ["a", "b"]⟩ (by decide +kernel)

/-- A single note pays the fee without its spend, and six notes may fall behind in every round. -/
theorem dust_spend_underpays :
    (∃ spend, buildDustSpend "s" (leaseOn ["a"]) 5 (evenNotes ["a"] 100)
        (linearFees.price (evenNotes ["a"] 100)) = .ok spend ∧
      spend.paid < linearFees.fee spend.inputs.length) ∧
    ∃ spend, buildDustSpend "s" (leaseOn ["a", "b", "c", "d", "e", "f"]) 15
        (evenNotes ["a", "b", "c", "d", "e", "f"] 10)
        (linearFees.price (evenNotes ["a", "b", "c", "d", "e", "f"] 10)) = .ok spend ∧
      spend.paid < linearFees.fee spend.inputs.length := by
  refine ⟨⟨⟨(evenNotes ["a"] 100).zip [5], ["a"]⟩, by decide +kernel, by decide +kernel⟩, ?_⟩
  exact ⟨⟨(evenNotes ["a", "b", "c", "d", "e", "f"] 10).zip [10, 10, 10, 10, 10, 5],
    ["a", "b", "c", "d", "e", "f"]⟩, by decide +kernel, by decide +kernel⟩

end Nightgate.Midnight
