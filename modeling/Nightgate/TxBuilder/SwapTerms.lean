import Nightgate.Midnight.SwapHalves

/-!
# The terms of a swap half, as the builder reads them

The builder reads what a half gives and wants from the transaction itself, apart from the sponsor.
Of a half that the sponsor accepts it reads the same terms, since the token types that a sponsor
lists are raw types of 64 hex digits.
-/

namespace Nightgate.TxBuilder

open Library Nightgate.Submission Nightgate.Midnight

/-- A token type and an amount of it. -/
structure Leg where
  tokenType : String
  amount : Int

/-- What a half gives and wants, and how many coins it has. -/
structure ReadTerms where
  gives : Leg
  wants : Leg
  inputs : Nat
  outputs : Nat

def rawTokenTypeOf (value name : String) : Except String String :=
  if isLowerHex64 (bareHex value) then .ok (bareHex value)
  else .error (name ++ " must be a raw token type (64 hex)")

/-- Reads what a swap half gives and wants. -/
def readSwapTerms (tx : CallerTx) : Except String ReadTerms :=
  let refuse := fun why => "not a swap half: " ++ why
  if tx.carriesIntent then
    .error (refuse "it carries an intent (a contract call, unshielded value or dust actions)")
  else if tx.fallibleOffer.extent.carries then .error (refuse "it carries a fallible offer")
  else
    match tx.readableOffer with
    | none => .error (refuse "it carries no guaranteed offer")
    | some (offer, inputs, outputs) =>
      if offer.carriesTransient then .error (refuse "it carries a transient coin")
      else if (inputs ++ outputs).any (·.contractAddress.isSome) then
        .error (refuse "it carries a contract-owned coin")
      else
        match offer.deltaEntries with
        | none => .error (refuse "its offer exposes no deltas")
        | some deltas =>
          let gives := positiveDeltas deltas
          let wants := negativeDeltas deltas
          if gives.length + wants.length ≠ deltas.length then
            .error (refuse "its offer exposes a delta that is not a non-zero amount")
          else
            match gives, wants with
            | [give], [want] => do
                let given ← rawTokenTypeOf give.1 "the given type"
                let wanted ← rawTokenTypeOf want.1 "the wanted type"
                if given = wanted then
                  .error (refuse "it gives and wants the same token type")
                else
                  pure ⟨⟨given, give.2⟩, ⟨wanted, -want.2⟩, inputs.length, outputs.length⟩
            | _, _ =>
              .error (refuse ("it gives " ++ toString gives.length ++
                " token type(s) and wants " ++ toString wants.length ++
                "; a half gives one and wants one"))

theorem deltasWhere_perm {sign : Int → Bool} {typed others : List (String × Option Int)}
    (same : typed.Perm others) : (deltasWhere sign typed).Perm (deltasWhere sign others) :=
  same.filterMap _

theorem deltasWhere_bare (sign : Int → Bool) (entries : List (String × Option Int)) :
    deltasWhere sign (bareDeltas entries) =
      (deltasWhere sign entries).map fun entry => (bareHex entry.1, entry.2) := by
  rw [deltasWhere, deltasWhere, bareDeltas, List.filterMap_map, List.map_filterMap]
  congr 1
  funext entry
  obtain ⟨type, amount⟩ := entry
  cases amount with
  | none => rfl
  | some amount =>
    simp only [Function.comp_apply]
    split
    · rfl
    · rfl

/-- The one given and the one wanted entry, with their types as the ledger shows them. -/
theorem deltas_of_terms {entries : List (String × Option Int)} {terms : HalfTerms}
    (read : DeltaTerms (bareDeltas entries) terms) :
    ∃ give want, positiveDeltas entries = [(give, terms.give.2)] ∧
      negativeDeltas entries = [(want, -terms.want.2)] ∧ entries.length = 2 ∧
      bareHex give = terms.give.1 ∧ bareHex want = terms.want.1 := by
  have givesPositive := read.gives
  have wantsPositive := read.wants
  have gives : (positiveDeltas _).Perm _ := deltasWhere_perm read.deltas
  have wants : (negativeDeltas _).Perm _ := deltasWhere_perm read.deltas
  have onlyGive : positiveDeltas
      [(terms.give.1, some terms.give.2), (terms.want.1, some (-terms.want.2))] = [terms.give] := by
    have notPositive : ¬0 < -terms.want.2 := by omega
    simp only [positiveDeltas, deltasWhere, List.filterMap_cons, decide_eq_true_eq,
      if_pos givesPositive, if_neg notPositive, List.filterMap_nil]
  have onlyWant : negativeDeltas
      [(terms.give.1, some terms.give.2), (terms.want.1, some (-terms.want.2))] =
        [(terms.want.1, -terms.want.2)] := by
    have notNegative : ¬terms.give.2 < 0 := by omega
    have negative : -terms.want.2 < 0 := by omega
    simp only [negativeDeltas, deltasWhere, List.filterMap_cons, decide_eq_true_eq,
      if_neg notNegative, if_pos negative, List.filterMap_nil]
  rw [positiveDeltas, deltasWhere_bare] at gives
  rw [negativeDeltas, deltasWhere_bare] at wants
  change ((positiveDeltas entries).map _).Perm (positiveDeltas _) at gives
  change ((negativeDeltas entries).map _).Perm (negativeDeltas _) at wants
  rw [onlyGive, List.perm_singleton, List.map_eq_singleton_iff] at gives
  rw [onlyWant, List.perm_singleton, List.map_eq_singleton_iff] at wants
  obtain ⟨⟨give, given⟩, isGive, sameGive⟩ := gives
  obtain ⟨⟨want, wanted⟩, isWant, sameWant⟩ := wants
  have two := read.deltas.length_eq
  rw [bareDeltas, List.length_map] at two
  rw [Prod.ext_iff] at sameGive sameWant
  dsimp only at sameGive sameWant
  refine ⟨give, want, ?_, ?_, two, sameGive.1, sameWant.1⟩
  · rw [isGive, sameGive.2]
  · rw [isWant, sameWant.2]

/-- What the builder makes of the terms of a half: it reads raw token types alone. -/
def readingOf (terms : HalfTerms) (inputs outputs : Nat) : Except String ReadTerms :=
  if !isLowerHex64 terms.give.1 then
    .error "the given type must be a raw token type (64 hex)"
  else if !isLowerHex64 terms.want.1 then
    .error "the wanted type must be a raw token type (64 hex)"
  else .ok ⟨⟨terms.give.1, terms.give.2⟩, ⟨terms.want.1, terms.want.2⟩, inputs, outputs⟩

theorem readSwapTerms_of_half {half : CallerTx} {options : SwapOptions} {terms : HalfTerms}
    {offer : ShieldedOffer} {inputs outputs : List OfferCoin} {entries : List (String × Option Int)}
    (isHalf : SwapHalf half options terms offer inputs outputs entries) :
    readSwapTerms half = readingOf terms inputs.length outputs.length := by
  obtain ⟨give, want, isGive, isWant, two, giveType, wantType⟩ := deltas_of_terms isHalf.read
  have readable := readableOffer_some.mpr
    ⟨isHalf.plain.guaranteed, isHalf.plain.isInputs, isHalf.plain.isOutputs⟩
  have unowned : (inputs ++ outputs).any (·.contractAddress.isSome) = false := by
    rw [List.any_eq_false]
    intro coin listed
    rw [isHalf.plain.unowned coin listed]
    simp
  rw [readSwapTerms, isHalf.plain.intents, isHalf.plain.fallible, readable]
  simp only [isHalf.plain.transients, unowned, isHalf.shown, isGive, isWant, two,
    List.length_singleton, Bool.false_eq_true, if_false, ne_eq, not_true_eq_false,
    Int.neg_neg]
  rw [rawTokenTypeOf, rawTokenTypeOf, giveType, wantType, readingOf]
  cases isLowerHex64 terms.give.1 with
  | false => rfl
  | true =>
    cases isLowerHex64 terms.want.1 with
    | false => rfl
    | true =>
      change (if terms.give.1 = terms.want.1 then _ else _) = _
      rw [if_neg isHalf.read.other]
      rfl

/-- A type on a validated list is a raw type, and not the one of NIGHT. -/
theorem raw_of_tradable {options : SwapOptions} {type : String}
    (validated : ∀ listed ∈ options.allowedTokenTypes.getD [], isLowerHex64 listed = true)
    (tradable : Tradable options type) :
    isLowerHex64 type = true ∧ options.nightType ≠ some type := by
  obtain ⟨listed, isListed, bare⟩ := List.mem_map.mp tradable.listed
  have raw := validated listed isListed
  rw [bareHex_of_raw raw] at bare
  subst bare
  refine ⟨raw, fun isNight => ?_⟩
  rw [tradable.notNight isNight] at raw
  cases raw

/-- Accepted halves are plain offers of two tradable types that mirror each other, so the merged
transaction changes no balance; of each half the builder reads the terms that the sponsor reads.
The lists of token types are validated where they are given. -/
theorem acceptedSwap_balances (maker taker : CallerTx) (options : SwapOptions) (terms : SwapTerms)
    (validated : ∀ type ∈ options.allowedTokenTypes.getD [], isLowerHex64 type = true)
    (accepted : checkSwapHalves maker taker options = .ok terms) :
    ∃ m t : HalfTerms, terms = m.shown ∧ m.Mirrors t ∧
      options.nightType ≠ some m.give.1 ∧ options.nightType ≠ some m.want.1 ∧
      (∃ offer inputs outputs entries, SwapHalf maker options m offer inputs outputs entries ∧
        readSwapTerms maker = .ok ⟨⟨m.give.1, m.give.2⟩, ⟨m.want.1, m.want.2⟩,
          inputs.length, outputs.length⟩) ∧
      (∃ offer inputs outputs entries, SwapHalf taker options t offer inputs outputs entries ∧
        readSwapTerms taker = .ok ⟨⟨t.give.1, t.give.2⟩, ⟨t.want.1, t.want.2⟩,
          inputs.length, outputs.length⟩) ∧
      ∀ type, mergedDelta maker taker type = 0 := by
  obtain ⟨m, t, shown, mirrors, ⟨mOffer, mInputs, mOutputs, mEntries, isMaker⟩,
    ⟨tOffer, tInputs, tOutputs, tEntries, isTaker⟩⟩ := checkSwapHalves_ok accepted
  have mGive := raw_of_tradable validated isMaker.give
  have mWant := raw_of_tradable validated isMaker.want
  have tGive := raw_of_tradable validated isTaker.give
  have tWant := raw_of_tradable validated isTaker.want
  refine ⟨m, t, shown, mirrors, mGive.2, mWant.2,
    ⟨mOffer, mInputs, mOutputs, mEntries, isMaker, ?_⟩,
    ⟨tOffer, tInputs, tOutputs, tEntries, isTaker, ?_⟩, ?_⟩
  · rw [readSwapTerms_of_half isMaker, readingOf, mGive.1, mWant.1]
    rfl
  · rw [readSwapTerms_of_half isTaker, readingOf, tGive.1, tWant.1]
    rfl
  · exact mergedDelta_eq_zero mirrors isMaker.shownDeltas_perm isTaker.shownDeltas_perm

/-- A half with one coin on each side and these deltas. -/
def halfOf (deltas : List (String × Option Int)) : CallerTx where
  intents := none
  guaranteedOffer := .single
    { inputs := .value (.array [⟨none⟩])
      outputs := .value (.array [⟨none⟩])
      transients := .undefined
      transient := .undefined
      deltas := .value (.map deltas) }
  fallibleOffer := .absent
  guaranteedCoins := .absent
  fallibleCoins := .absent
  imbalances := none

/-- Halves of raw token types. -/
theorem acceptedSwap_balances_raw :
    let a := "aaaaaaaaaaaaaaaaaaaaaaaaaaaaaaaaaaaaaaaaaaaaaaaaaaaaaaaaaaaaaaaa"
    let b := "bbbbbbbbbbbbbbbbbbbbbbbbbbbbbbbbbbbbbbbbbbbbbbbbbbbbbbbbbbbbbbbb"
    let maker := halfOf [(a, some 3), (b, some (-5))]
    let taker := halfOf [(a, some (-3)), (b, some 5)]
    ∀ type, mergedDelta maker taker type = 0 := by
  intro a b maker taker
  have accepted : checkSwapHalves maker taker ⟨some [a, b], none, some 4⟩ =
      .ok ⟨⟨a, "3"⟩, ⟨b, "5"⟩⟩ := by
    decide +kernel
  have validated : ∀ type ∈ [a, b], isLowerHex64 type = true := by decide +kernel
  obtain ⟨_, _, _, _, _, _, _, _, balanced⟩ :=
    acceptedSwap_balances maker taker ⟨some [a, b], none, some 4⟩ _ validated accepted
  exact balanced

end Nightgate.TxBuilder
