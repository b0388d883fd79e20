import Nightgate.Midnight.SponsorShape

/-!
# Accounts of unshielded offers

What an accepted unshielded offer pays, and to whom. The offers of an intent draw on one budget of
payouts that its calls claim; what a claim covers may go anywhere, the rest goes to contracts or
back to the spenders. An output of nothing counts as covered without any claim.
-/

namespace Nightgate.Midnight

open Library Nightgate.Submission

/-- The atoms of a coin; an accepted offer has no other. -/
def Utxo.atoms (utxo : Utxo) : Int :=
  match utxoValue utxo.value "" with
  | .ok value => value
  | .error _ => 0

def Utxo.tokenType (utxo : Utxo) : String := bareHex utxo.type

def Utxo.ownerText (utxo : Utxo) : String := bareHex utxo.owner

/-- The amounts of some coins, by token type. -/
def amountsByType (coins : List Utxo) : List (String × Int) :=
  coins.map fun coin => (coin.tokenType, coin.atoms)

/-- The amounts of some outputs, by token type and recipient. -/
def amountsByPayee (outputs : List Utxo) : List (String × Int) :=
  outputs.map fun output => (payoutKey output.tokenType output.ownerText, output.atoms)

/-- A reported move, before its amount is written as text. -/
structure MovedValue where
  type : String
  amount : Int
  toAddress : String

def MovedValue.report (moved : MovedValue) : UnshieldedMove :=
  ⟨moved.type, toString moved.amount, moved.toAddress⟩

def movedOf (moved : List MovedValue) (type : String) : Int :=
  amountUnder (moved.map fun move => (move.type, move.amount)) type

/-- What the calls on these contracts claim, in the order of the transcripts. -/
def payoutClaims (actions : List TxAction) (contracts : List String) : List (String × Int) :=
  actions.flatMap fun action =>
    if action.addressText ∉ contracts then []
    else (action.effects.flatMap fun effects =>
        effects.claimedUnshieldedSpends.getD []).filterMap fun spend =>
      match spend.2 with
      | none => none
      | some amount =>
        if spend.1.tag ≠ "unshielded" || amount ≤ 0 then none
        else some (payoutKey (bareHex spend.1.raw) (bareHex spend.1.recipient), amount)

theorem claimedPayouts_eq (actions : List TxAction) (contracts : List String) :
    claimedPayouts actions contracts =
      InsertionMap.empty.depositAll (payoutClaims actions contracts) :=
  rfl

/-- What the calls claim for a token type and a recipient. -/
def claimedFor (actions : List TxAction) (contracts : List String) (key : String) : Int :=
  amountUnder (payoutClaims actions contracts) key

theorem payoutClaims_positive {actions : List TxAction} {contracts : List String} :
    ∀ claim ∈ payoutClaims actions contracts, 0 ≤ claim.2 := by
  intro claim listed
  obtain ⟨action, _, isClaim⟩ := List.mem_flatMap.mp listed
  split at isClaim
  · cases isClaim
  · obtain ⟨spend, _, isSpend⟩ := List.mem_filterMap.mp isClaim
    split at isSpend
    · cases isSpend
    next amount isAmount =>
      split at isSpend
      · cases isSpend
      next accepted =>
        simp only [ne_eq, decide_not, Bool.or_eq_true, decide_eq_true_eq, not_or,
          not_le] at accepted
        rw [Option.some.injEq] at isSpend
        rw [← isSpend]
        exact le_of_lt accepted.2

theorem claimedPayouts_covered (actions : List TxAction) (contracts : List String) :
    (claimedPayouts actions contracts).Covered := by
  rw [claimedPayouts_eq]
  exact InsertionMap.covered_depositAll InsertionMap.covered_empty payoutClaims_positive

theorem left_claimedPayouts (actions : List TxAction) (contracts : List String) (key : String) :
    (claimedPayouts actions contracts).left key = claimedFor actions contracts key := by
  rw [claimedPayouts_eq, InsertionMap.left_depositAll_empty, claimedFor]

/-! ## The claim -/

section Accounted

variable (policy : ShapePolicy) (called : List String)

/-- A contract the intent calls, or one the policy lists. -/
def IsPayeeContract (address : String) : Prop :=
  address ∈ called ∨ policy.listedContract address = true

instance (address : String) : Decidable (IsPayeeContract policy called address) :=
  inferInstanceAs (Decidable (_ ∨ _))

/-- The addresses of the spenders of these inputs. -/
def spenderAddresses (inputs : List Utxo) : List String :=
  inputs.flatMap fun input =>
    (policy.addressFromKey.map fun addressFromKey =>
      bareHex (addressFromKey input.ownerText)).toList

/-- The recipient of an output is a contract, a spender, or claimed for. -/
def KnownPayee (claims : String → Int) (inputs : List Utxo) (output : Utxo) : Prop :=
  IsPayeeContract policy called output.ownerText ∨
    output.ownerText ∈ spenderAddresses policy inputs ∨
    0 < claims (payoutKey output.tokenType output.ownerText)

instance (claims : String → Int) (inputs : List Utxo) (output : Utxo) :
    Decidable (KnownPayee policy called claims inputs output) :=
  inferInstanceAs (Decidable (_ ∨ _ ∨ _))

/-- The outputs of an offer, taken apart: those a claim covers and the others. -/
structure OfferAccount where
  covered : List Utxo
  rest : List Utxo

/-- The outputs no claim covers go to contracts or back to the spenders. -/
structure OfferAccount.Of (offer : UnshieldedOffer) (account : OfferAccount) : Prop where
  outputs : (account.covered ++ account.rest).Perm offer.outputs.items
  rest : ∀ output ∈ account.rest, IsPayeeContract policy called output.ownerText ∨
    output.ownerText ∈ spenderAddresses policy offer.inputs.items

def paysContract (output : Utxo) : Bool :=
  decide (IsPayeeContract policy called output.ownerText)

/-- What of the offer went back to the spenders. -/
def OfferAccount.returned (account : OfferAccount) : List Utxo :=
  account.rest.filter fun output => !paysContract policy called output

/-- The outputs of the offers of an intent are accounted for. -/
structure OutputsAccounted (claims : String → Int) (offers : List UnshieldedOffer)
    (moves : List UnshieldedMove) : Prop where
  payees : ∀ offer ∈ offers, ∀ output ∈ offer.outputs.items,
    KnownPayee policy called claims offer.inputs.items output
  noSponsorInput : ∀ offer ∈ offers, ∀ input ∈ offer.inputs.items,
    input.ownerText ∉ policy.sponsorInputKeys.getD []
  accounts : ∃ accounts : List OfferAccount, ∃ moved : List MovedValue,
    List.Forall₂ (OfferAccount.Of policy called) offers accounts ∧
    (∀ key, amountUnder (amountsByPayee (accounts.flatMap OfferAccount.covered)) key ≤ claims key) ∧
    moves = moved.map MovedValue.report ∧
    ∀ type, movedOf moved type =
      amountUnder (amountsByType (offers.flatMap fun offer => offer.inputs.items)) type -
        amountUnder (amountsByType (accounts.flatMap fun account =>
          account.returned policy called)) type

end Accounted

section Offer

variable {ctx : UnshieldedContext} {key : String}

theorem atoms_of_ok {coin : Utxo} {what : String} {value : Int}
    (read : utxoValue coin.value what = .ok value) : coin.atoms = value := by
  rw [Utxo.atoms]
  cases isValue : coin.value with
  | bigint amount | number amount =>
    rw [isValue] at read
    exact Except.ok.inj read
  | text text =>
    rw [isValue] at read
    simp only [utxoValue] at read ⊢
    split at read
    next digits =>
      rw [if_pos digits]
      exact Except.ok.inj read
    · cases read
  | unreadable =>
    rw [isValue] at read
    cases read

theorem decimalValue_nonneg (digits : List Char) : 0 ≤ decimalValue digits := by
  have grows : ∀ (rest : List Char) (start : Int), 0 ≤ start →
      0 ≤ rest.foldl (fun value digit => 10 * value + ((digit.toNat - '0'.toNat : Nat) : Int))
        start := by
    intro rest
    induction rest with
    | nil => exact fun start nonneg => nonneg
    | cons digit rest ih =>
      intro start nonneg
      apply ih
      dsimp only
      omega
  exact grows digits 0 (le_refl 0)

theorem atoms_nonneg (coin : Utxo) : 0 ≤ coin.atoms := by
  rw [Utxo.atoms]
  have unsigned := coin.unsigned
  cases isValue : coin.value with
  | bigint amount | number amount =>
    rw [isValue] at unsigned
    exact unsigned
  | text text =>
    simp only [utxoValue]
    split
    next value isRead =>
      split at isRead
      · rw [← Except.ok.inj isRead]
        exact decimalValue_nonneg text.toList
      · cases isRead
    · exact le_refl 0
  | unreadable => exact le_refl 0

/-- An input that passes adds its amount to the sum of its type. -/
theorem addInput_ok {totals next : InputTotals} {input : Utxo}
    (passed : addInput ctx key totals input = .ok next) :
    next.sums = totals.sums.deposit input.tokenType input.atoms ∧
      next.ownerAddresses = totals.ownerAddresses ++ spenderAddresses ctx.policy [input] ∧
      input.ownerText ∉ ctx.policy.sponsorInputKeys.getD [] := by
  simp only [addInput] at passed
  split at passed
  · cases passed
  · split at passed
    · cases passed
    · split at passed
      · cases passed
      next notSponsor =>
        rcases of_bind_ok passed with ⟨value, read, isNext⟩
        cases isNext
        refine ⟨?_, ?_, notSponsor⟩
        · rw [atoms_of_ok read]
          rfl
        · simp [spenderAddresses, Utxo.ownerText]

theorem addInputs_ok {inputs : List Utxo} {totals final : InputTotals}
    (ran : inputs.foldlM (addInput ctx key) totals = .ok final) :
    (∀ type, final.sums.left type =
      totals.sums.left type + amountUnder (amountsByType inputs) type) ∧
      final.ownerAddresses = totals.ownerAddresses ++ spenderAddresses ctx.policy inputs ∧
      ∀ input ∈ inputs, input.ownerText ∉ ctx.policy.sponsorInputKeys.getD [] := by
  induction inputs generalizing totals with
  | nil =>
    cases ran
    simp [amountsByType, spenderAddresses]
  | cons input rest ih =>
    rw [List.foldlM_cons] at ran
    rcases of_bind_ok ran with ⟨next, passed, ran⟩
    obtain ⟨sums, owners, notSponsor⟩ := addInput_ok passed
    obtain ⟨sumsLater, ownersLater, notSponsorLater⟩ := ih ran
    refine ⟨fun type => ?_, ?_, ?_⟩
    · rw [sumsLater, sums, InsertionMap.left_deposit]
      simp only [amountsByType, List.map_cons, amountUnder_cons, add_assoc]
    · rw [ownersLater, owners, List.append_assoc]
      simp [spenderAddresses]
    · intro other listed
      cases listed with
      | head => exact notSponsor
      | tail _ listed => exact notSponsorLater other listed

/-! ## Outputs -/

/-- The move of an output into a contract. -/
def movedOutput (output : Utxo) : MovedValue :=
  ⟨output.tokenType, output.atoms, output.ownerText⟩

/-- What the loop over the outputs did, for these outputs taken apart. -/
structure OutputsRun (ctx : UnshieldedContext) (spenders : List String)
    (before after : OutputTotals) (account : OfferAccount) : Prop where
  drawn : before.claimed.DrawnFrom after.claimed (amountUnder (amountsByPayee account.covered))
  rest : ∀ output ∈ account.rest,
    IsPayeeContract ctx.policy ctx.calledContracts output.ownerText ∨ output.ownerText ∈ spenders
  sums : ∀ type, after.sums.left type =
    before.sums.left type - amountUnder (amountsByType account.rest) type
  moves : after.moves = before.moves ++ ((account.rest.filter
    (paysContract ctx.policy ctx.calledContracts)).map movedOutput).map MovedValue.report

variable {spenders : List String}

theorem OutputsRun.none {totals : OutputTotals}
    (covered : totals.claimed.Covered) : OutputsRun ctx spenders totals totals ⟨[], []⟩ where
  drawn := InsertionMap.DrawnFrom.nothing covered
  rest := by simp
  sums := by simp [amountsByType]
  moves := by simp

theorem OutputsRun.trans {first second third : OutputTotals}
    {one two : OfferAccount} (earlier : OutputsRun ctx spenders first second one)
    (later : OutputsRun ctx spenders second third two) :
    OutputsRun ctx spenders first third ⟨one.covered ++ two.covered, one.rest ++ two.rest⟩ where
  drawn := by
    apply (earlier.drawn.trans later.drawn).of_eq
    intro key
    simp [amountsByPayee, amountUnder_append]
  rest := by
    intro output listed
    exact (List.mem_append.mp listed).elim (earlier.rest output) (later.rest output)
  sums := by
    intro type
    rw [later.sums, earlier.sums]
    simp only [amountsByType, List.map_append, amountUnder_append]
    omega
  moves := by
    rw [later.moves, earlier.moves]
    simp

/-- An output that passes is covered by a claim, or it goes to a contract or a spender. -/
theorem addOutput_ok {totals next : OutputTotals} {output : Utxo} (covered : totals.claimed.Covered)
    (passed : addOutput ctx key spenders totals output = .ok next) :
    OutputsRun ctx spenders totals next ⟨[output], []⟩ ∨
      OutputsRun ctx spenders totals next ⟨[], [output]⟩ := by
  simp only [addOutput] at passed
  split at passed
  · cases passed
  · split at passed
    · cases passed
    · rcases of_bind_ok passed with ⟨value, read, passed⟩
      have isValue := atoms_of_ok read
      subst isValue
      split at passed
      next within =>
        cases passed
        refine Or.inl ⟨?_, by simp, ?_, by simp⟩
        · apply (InsertionMap.DrawnFrom.take covered within).of_eq
          intro other
          simp [amountsByPayee, amountUnder_cons, Utxo.tokenType, Utxo.ownerText,
            eq_comm (a := other)]
        · intro type
          simp [amountsByType, InsertionMap.left_deposit]
      · have sums : ∀ type, (totals.sums.deposit output.tokenType (-output.atoms)).left type =
            totals.sums.left type - amountUnder (amountsByType [output]) type := by
          intro type
          rw [InsertionMap.left_deposit]
          simp only [amountsByType, List.map_cons, List.map_nil, amountUnder_cons, amountUnder_nil]
          split
          · omega
          · omega
        split at passed
        next isContract =>
          cases passed
          have contract : IsPayeeContract ctx.policy ctx.calledContracts output.ownerText := by
            simpa [IsPayeeContract, Utxo.ownerText] using isContract
          refine Or.inr ⟨InsertionMap.DrawnFrom.nothing covered, ?_, sums, ?_⟩
          · intro other listed
            rw [List.mem_singleton.mp listed]
            exact Or.inl contract
          · have pays : paysContract ctx.policy ctx.calledContracts output = true :=
              decide_eq_true contract
            rw [List.filter_singleton, pays]
            rfl
        next noContract =>
          have outside : ¬ IsPayeeContract ctx.policy ctx.calledContracts output.ownerText := by
            simpa [IsPayeeContract, Utxo.ownerText] using noContract
          split at passed
          next isSpender =>
            cases passed
            refine Or.inr ⟨InsertionMap.DrawnFrom.nothing covered, ?_, sums, ?_⟩
            · intro other listed
              rw [List.mem_singleton.mp listed]
              exact Or.inr isSpender
            · have paysNot : paysContract ctx.policy ctx.calledContracts output = false :=
                decide_eq_false outside
              rw [List.filter_singleton, paysNot]
              simp
          · cases passed

theorem addOutputs_ok {outputs : List Utxo}
    {totals final : OutputTotals} (covered : totals.claimed.Covered)
    (ran : outputs.foldlM (addOutput ctx key spenders) totals = .ok final) :
    ∃ account, (account.covered ++ account.rest).Perm outputs ∧
      OutputsRun ctx spenders totals final account := by
  induction outputs generalizing totals with
  | nil =>
    cases ran
    exact ⟨⟨[], []⟩, List.Perm.refl _, OutputsRun.none covered⟩
  | cons output rest ih =>
    rw [List.foldlM_cons] at ran
    rcases of_bind_ok ran with ⟨next, passed, ran⟩
    cases addOutput_ok covered passed with
    | inl isCovered =>
      obtain ⟨account, same, later⟩ := ih isCovered.drawn.covered ran
      refine ⟨⟨[output] ++ account.covered, [] ++ account.rest⟩, ?_, isCovered.trans later⟩
      exact same.cons output
    | inr isRest =>
      obtain ⟨account, same, later⟩ := ih isRest.drawn.covered ran
      refine ⟨⟨[] ++ account.covered, [output] ++ account.rest⟩, ?_, isRest.trans later⟩
      exact List.perm_middle.trans (same.cons output)

/-- What is left of a type goes into the called contract. -/
theorem settleNet_ok {moves next : List UnshieldedMove} {sum : String × Int}
    (passed : settleNet ctx key moves sum = .ok next) :
    ∃ moved : List MovedValue, next = moves ++ moved.map MovedValue.report ∧
      ∀ type, movedOf moved type = if sum.1 = type then sum.2 else 0 := by
  simp only [settleNet] at passed
  split at passed
  · cases passed
  · rcases of_bind_ok passed with ⟨imbalance, _, passed⟩
    cases imbalance with
    | none => cases passed
    | some imbalance =>
      dsimp only at passed
      split at passed
      · cases passed
      · split at passed
        next isZero =>
          cases passed
          refine ⟨[], by simp, fun type => ?_⟩
          rw [isZero, ite_self]
          rfl
        · split at passed
          next contract _ =>
            cases passed
            refine ⟨[⟨sum.1, sum.2, contract⟩], rfl, fun type => ?_⟩
            simp only [movedOf, List.map_cons, List.map_nil, amountUnder_cons, amountUnder_nil,
              add_zero]
          · cases passed

theorem movedOf_append (moved more : List MovedValue) (type : String) :
    movedOf (moved ++ more) type = movedOf moved type + movedOf more type := by
  simp [movedOf, amountUnder_append]

theorem settleNets_ok {sums : List (String × Int)} {moves final : List UnshieldedMove}
    (ran : sums.foldlM (settleNet ctx key) moves = .ok final) :
    ∃ moved : List MovedValue, final = moves ++ moved.map MovedValue.report ∧
      ∀ type, movedOf moved type = amountUnder sums type := by
  induction sums generalizing moves with
  | nil =>
    cases ran
    exact ⟨[], by simp, fun _ => rfl⟩
  | cons sum rest ih =>
    rw [List.foldlM_cons] at ran
    rcases of_bind_ok ran with ⟨next, passed, ran⟩
    obtain ⟨first, isNext, amounts⟩ := settleNet_ok passed
    obtain ⟨later, isFinal, laterAmounts⟩ := ih ran
    refine ⟨first ++ later, ?_, fun type => ?_⟩
    · rw [isFinal, isNext, List.map_append, List.append_assoc]
    · rw [movedOf_append, amounts, laterAmounts, amountUnder_cons]

theorem movedOf_outputs (outputs : List Utxo) (type : String) :
    movedOf (outputs.map movedOutput) type = amountUnder (amountsByType outputs) type := by
  simp only [movedOf, amountsByType, List.map_map]
  rfl

theorem amountUnder_split (chosen : Utxo → Bool) (outputs : List Utxo) (type : String) :
    amountUnder (amountsByType outputs) type =
      amountUnder (amountsByType (outputs.filter chosen)) type +
        amountUnder (amountsByType (outputs.filter fun output => !chosen output)) type := by
  have same := ((List.filter_append_perm chosen outputs).symm.map
    fun coin : Utxo => (coin.tokenType, coin.atoms))
  rw [amountsByType, amountUnder_perm same, List.map_append, amountUnder_append]
  rfl

/-! ## One offer -/

/-- What the check of an offer did. -/
structure OfferRun (ctx : UnshieldedContext) (offer : UnshieldedOffer) (account : OfferAccount)
    (moved : List MovedValue) (before after : ClaimedPayouts) : Prop where
  taken : account.Of ctx.policy ctx.calledContracts offer
  drawn : before.DrawnFrom after (amountUnder (amountsByPayee account.covered))
  noSponsorInput : ∀ input ∈ offer.inputs.items,
    input.ownerText ∉ ctx.policy.sponsorInputKeys.getD []
  moved : ∀ type, movedOf moved type = amountUnder (amountsByType offer.inputs.items) type -
    amountUnder (amountsByType (account.returned ctx.policy ctx.calledContracts)) type

theorem checkUnshieldedOffer_ok {offer : UnshieldedOffer} {claimed left : ClaimedPayouts}
    {moves : List UnshieldedMove} (covered : claimed.Covered)
    (passed : checkUnshieldedOffer offer key ctx claimed = .ok (moves, left)) :
    ∃ account moved, moves = moved.map MovedValue.report ∧
      OfferRun ctx offer account moved claimed left := by
  rw [checkUnshieldedOffer] at passed
  split at passed
  next inputs outputs isInputs isOutputs =>
    simp only [bind_eq_ok] at passed
    obtain ⟨spent, spends, paid, pays, passed⟩ := passed
    split at passed
    · cases passed
    · rcases of_bind_ok passed with ⟨settled, nets, passed⟩
      cases passed
      obtain ⟨inputSums, isSpenders, noSponsorInput⟩ := addInputs_ok spends
      obtain ⟨account, same, paidOut⟩ := addOutputs_ok covered pays
      obtain ⟨netMoved, isSettled, netAmounts⟩ := settleNets_ok nets
      have spenders : spent.ownerAddresses = spenderAddresses ctx.policy inputs := isSpenders
      have items : offer.inputs.items = inputs := by rw [isInputs]; rfl
      have outputItems : offer.outputs.items = outputs := by rw [isOutputs]; rfl
      refine ⟨account, (account.rest.filter (paysContract ctx.policy ctx.calledContracts)).map
        movedOutput ++ netMoved, ?_, ⟨?_, ?_⟩, paidOut.drawn, ?_, ?_⟩
      · rw [isSettled, paidOut.moves, List.map_append]
        rfl
      · rwa [outputItems]
      · rw [items, ← spenders]
        exact paidOut.rest
      · rwa [items]
      · intro type
        have byKey : amountUnder paid.sums.entries type = paid.sums.left type :=
          (InsertionMap.left_eq_amountUnder paid.sums type).symm
        have split := amountUnder_split (paysContract ctx.policy ctx.calledContracts)
          account.rest type
        have spentSum := inputSums type
        rw [movedOf_append, movedOf_outputs, netAmounts, byKey, paidOut.sums, items]
        simp only [InsertionMap.left_empty, zero_add] at spentSum
        rw [spentSum, OfferAccount.returned]
        omega
  · cases passed

end Offer

section Intent

variable {policy : ShapePolicy} {tx : CallerTx} {called : List String}

/-- What the checks of some offers did, one after the other. -/
structure OffersRun (policy : ShapePolicy) (called : List String)
    (offers : List UnshieldedOffer) (accounts : List OfferAccount) (moved : List MovedValue)
    (before after : ClaimedPayouts) : Prop where
  taken : List.Forall₂ (OfferAccount.Of policy called) offers accounts
  drawn : before.DrawnFrom after
    (amountUnder (amountsByPayee (accounts.flatMap OfferAccount.covered)))
  noSponsorInput : ∀ offer ∈ offers, ∀ input ∈ offer.inputs.items,
    input.ownerText ∉ policy.sponsorInputKeys.getD []
  moved : ∀ type, movedOf moved type =
    amountUnder (amountsByType (offers.flatMap fun offer => offer.inputs.items)) type -
      amountUnder (amountsByType (accounts.flatMap fun account =>
        account.returned policy called)) type

theorem OffersRun.cons {offer : UnshieldedOffer} {offers : List UnshieldedOffer}
    {account : OfferAccount} {accounts : List OfferAccount} {first later : List MovedValue}
    {balance : LedgerBalance} {before middle after : ClaimedPayouts}
    (one : OfferRun ⟨policy, called, balance⟩ offer account first before middle)
    (rest : OffersRun policy called offers accounts later middle after) :
    OffersRun policy called (offer :: offers) (account :: accounts) (first ++ later) before
      after where
  taken := .cons one.taken rest.taken
  drawn := by
    apply (one.drawn.trans rest.drawn).of_eq
    intro key
    simp [amountsByPayee, amountUnder_append]
  noSponsorInput := by
    intro other listed
    cases listed with
    | head => exact one.noSponsorInput
    | tail _ listed => exact rest.noSponsorInput other listed
  moved := by
    intro type
    have here := one.moved type
    have there := rest.moved type
    simp only [amountsByType] at here there
    rw [movedOf_append, here, there]
    simp only [amountsByType, List.flatMap_cons, List.map_append, amountUnder_append]
    omega

theorem checkUnshielded_ok {slots : List (String × Nat × UnshieldedOffer)}
    {start final : List UnshieldedMove × ClaimedPayouts} (covered : start.2.Covered)
    (ran : slots.foldlM (checkUnshielded policy tx called) start = .ok final) :
    ∃ accounts moved, final.1 = start.1 ++ moved.map MovedValue.report ∧
      OffersRun policy called (slots.map fun slot => slot.2.2) accounts moved start.2 final.2 := by
  induction slots generalizing start with
  | nil =>
    cases ran
    refine ⟨[], [], by simp, .nil, InsertionMap.DrawnFrom.nothing covered, by simp, ?_⟩
    intro type
    rfl
  | cons slot rest ih =>
    rw [List.foldlM_cons] at ran
    rcases of_bind_ok ran with ⟨next, passed, ran⟩
    rcases of_bind_ok passed with ⟨balance, _, passed⟩
    rcases of_bind_ok passed with ⟨checked, isChecked, isNext⟩
    cases isNext
    obtain ⟨account, first, isFirst, one⟩ := checkUnshieldedOffer_ok covered isChecked
    have later := @ih (start.1 ++ checked.1, checked.2) one.drawn.covered ran
    obtain ⟨accounts, moved, isLater, others⟩ := later
    refine ⟨account :: accounts, first ++ moved, ?_, OffersRun.cons one others⟩
    rw [isLater, isFirst, List.map_append, List.append_assoc]

/-- An output no account gives to a contract or a spender is among the covered ones. -/
theorem covered_of_unknown {claims : String → Int} {offers : List UnshieldedOffer}
    {accounts : List OfferAccount}
    (taken : List.Forall₂ (OfferAccount.Of policy called) offers accounts) {offer : UnshieldedOffer}
    (listed : offer ∈ offers) {output : Utxo} (isOutput : output ∈ offer.outputs.items)
    (unknown : ¬ KnownPayee policy called claims offer.inputs.items output) :
    output ∈ accounts.flatMap OfferAccount.covered := by
  induction taken with
  | nil => cases listed
  | cons first rest ih =>
    rw [List.flatMap_cons, List.mem_append]
    cases listed with
    | head =>
      apply Or.inl
      cases List.mem_append.mp (first.outputs.mem_iff.mpr isOutput) with
      | inl isCovered => exact isCovered
      | inr isRest =>
        cases first.rest output isRest with
        | inl isContract => exact absurd (Or.inl isContract) unknown
        | inr isSpender => exact absurd (Or.inr (Or.inl isSpender)) unknown
    | tail _ listed => exact Or.inr (ih listed)

theorem atoms_le_amountUnder {outputs : List Utxo} {output : Utxo} (listed : output ∈ outputs) :
    output.atoms ≤
      amountUnder (amountsByPayee outputs) (payoutKey output.tokenType output.ownerText) := by
  induction outputs with
  | nil => cases listed
  | cons first rest ih =>
    have nonneg : ∀ key, 0 ≤ amountUnder (amountsByPayee rest) key := by
      intro key
      apply List.sum_nonneg
      intro amount isAmount
      obtain ⟨entry, isEntry, rfl⟩ := List.mem_map.mp isAmount
      obtain ⟨coin, _, rfl⟩ := List.mem_map.mp (List.mem_of_mem_filter isEntry)
      exact atoms_nonneg coin
    rw [amountsByPayee, List.map_cons, amountUnder_cons, ← amountsByPayee]
    cases listed with
    | head =>
      rw [if_pos rfl]
      have := nonneg (payoutKey output.tokenType output.ownerText)
      omega
    | tail _ listed =>
      have later := ih listed
      have here := atoms_nonneg first
      split
      · omega
      · omega

/-- The outputs of the offers an intent passes are accounted for exactly when those of nothing
go to contracts, to spenders, or to somebody the calls claim that type for. -/
theorem outputs_accounted_iff {actions : List TxAction}
    {slots : List (String × Nat × UnshieldedOffer)} {moves : List UnshieldedMove}
    {left : ClaimedPayouts}
    (ran : slots.foldlM (checkUnshielded policy tx called)
      ([], claimedPayouts actions called) = .ok (moves, left)) :
    OutputsAccounted policy called (claimedFor actions called)
        (slots.map fun slot => slot.2.2) moves ↔
      ∀ slot ∈ slots, ∀ output ∈ slot.2.2.outputs.items, output.atoms = 0 →
        KnownPayee policy called (claimedFor actions called) slot.2.2.inputs.items output := by
  constructor
  · intro accounted slot listed output isOutput _
    exact accounted.payees slot.2.2 (List.mem_map_of_mem listed) output isOutput
  · intro emptyKnown
    obtain ⟨accounts, moved, isMoves, run⟩ :=
      checkUnshielded_ok (claimedPayouts_covered actions called) ran
    have within : ∀ key, amountUnder (amountsByPayee (accounts.flatMap OfferAccount.covered)) key ≤
        claimedFor actions called key := by
      intro key
      rw [← left_claimedPayouts]
      exact run.drawn.le key
    refine ⟨?_, run.noSponsorInput, accounts, moved, run.taken, within, isMoves, run.moved⟩
    intro offer listed output isOutput
    obtain ⟨slot, isSlot, rfl⟩ := List.mem_map.mp listed
    by_contra unknown
    have isCovered := covered_of_unknown run.taken listed isOutput unknown
    have atMost := (atoms_le_amountUnder isCovered).trans (within _)
    have unclaimed : ¬ 0 < claimedFor actions called
        (payoutKey output.tokenType output.ownerText) :=
      fun claimed => unknown (Or.inr (Or.inr claimed))
    have nonneg := atoms_nonneg output
    exact unknown (emptyKnown slot isSlot output isOutput (by omega))

end Intent

/-- NIGHT may move; calls on `aa` are sponsored and `aa` is a payee. -/
def transferPolicy : ShapePolicy where
  allowedContracts := some ["aa"]
  allowedCircuits := none
  allowDeploy := false
  maxDeploys := none
  ownContracts := none
  allowedTokenTypes := none
  nightTokenType := some "00"
  contractCircuits := none
  allowContractMints := false
  deriveTokenType := none
  allowUnshieldedOffers := true
  allowedUnshieldedTokenTypes := none
  addressFromKey := some id
  sponsorInputKeys := none

def payerKey : String := String.ofList (List.replicate 64 'c')

def strangerAddress : String := String.ofList (List.replicate 64 'd')

/-- A call on `aa` that claims these payouts in NIGHT. -/
def payingCall (claims : List (String × Int)) : TxAction where
  kind := "ContractCall"
  entryPoint := .text "pay"
  address := .value "aa"
  updates := false
  initialState := false
  guaranteedTranscript := some ⟨none, some (claims.map fun claim =>
    (⟨"unshielded", "00", claim.1⟩, some claim.2))⟩
  fallibleTranscript := none

/-- A coin of NIGHT. -/
def nightCoin (owner : String) (atoms : Nat) : Utxo :=
  ⟨"00", owner, .bigint atoms, Int.natCast_nonneg atoms⟩

def nightOffer (inputs outputs : List Utxo) : UnshieldedOffer where
  inputs := .value (.array inputs)
  outputs := .value (.array outputs)

/-- A transaction of one intent, balanced in both segments. -/
def payingTx (claims : List (String × Int)) (offer : UnshieldedOffer) : CallerTx where
  intents := some [(1, ⟨none, some offer, none, [payingCall claims]⟩)]
  guaranteedOffer := .absent
  fallibleOffer := .absent
  guaranteedCoins := .absent
  fallibleCoins := .absent
  imbalances := some fun _ => .ok [(⟨"unshielded", "00"⟩, .bigint 0)]

/-- Ten of change to the spender, and a claimed payout of seven to somebody else. -/
def claimedPayoutOffer : UnshieldedOffer :=
  nightOffer [nightCoin payerKey 10] [nightCoin payerKey 10, nightCoin strangerAddress 7]

theorem outputs_accounted_claimed :
    OutputsAccounted transferPolicy ["aa"]
        (claimedFor [payingCall [(strangerAddress, 7)]] ["aa"]) [claimedPayoutOffer] [] ↔
      ∀ slot ∈ [("guaranteedUnshieldedOffer", 0, claimedPayoutOffer)],
        ∀ output ∈ slot.2.2.outputs.items, output.atoms = 0 → KnownPayee transferPolicy ["aa"]
            (claimedFor [payingCall [(strangerAddress, 7)]] ["aa"])
            slot.2.2.inputs.items output :=
  @outputs_accounted_iff transferPolicy (payingTx [(strangerAddress, 7)] claimedPayoutOffer) ["aa"]
    [payingCall [(strangerAddress, 7)]] [("guaranteedUnshieldedOffer", 0, claimedPayoutOffer)] []
    (InsertionMap.empty.set (payoutKey "00" strangerAddress) 0) (by decide +kernel)

/-- An output of nothing to somebody no call claims anything for. -/
def strayOffer : UnshieldedOffer :=
  nightOffer [nightCoin payerKey 10] [nightCoin payerKey 10, nightCoin strangerAddress 0]

theorem payout_of_nothing_accepted :
    checkSponsorableShape ⟨1024, 1024⟩ (fun _ => "") transferPolicy 8 (payingTx [] strayOffer) =
        .ok ([⟨"aa", "pay"⟩], []) ∧
      ¬ OutputsAccounted transferPolicy ["aa"] (claimedFor [payingCall []] ["aa"]) [strayOffer]
        [] := by
  refine ⟨by decide +kernel, fun accounted => ?_⟩
  have known := accounted.payees strayOffer (by decide) (nightCoin strangerAddress 0) (by decide)
  revert known
  decide +kernel

end Nightgate.Midnight
