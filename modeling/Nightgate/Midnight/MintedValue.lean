import Nightgate.Midnight.SponsorShape

/-!
# Shielded value is bounded by declared mints

The delta check draws on one mint budget over all offers, so what they create of a type that the
policy does not list stays within what the calls declare. Contract-owned coins are checked offer by
offer; an offer taken for empty is not looked at, though it may carry coins in `transients`.
-/

namespace Nightgate.Midnight

open Library Nightgate.Submission

/-- What a delta creates of a token type. -/
def createdBy (entry : String × Option Int) (type : String) : Int :=
  match entry.2 with
  | some delta => if bareHex entry.1 = type then max (-delta) 0 else 0
  | none => 0

namespace ShieldedOffer

def entries (offer : ShieldedOffer) : List (String × Option Int) :=
  offer.deltaEntries.getD []

def created (offer : ShieldedOffer) (type : String) : Int :=
  (offer.entries.map fun entry => createdBy entry type).sum

end ShieldedOffer

namespace CallerTx

/-- The offers of all guaranteed and fallible parts. -/
def offers (tx : CallerTx) : List ShieldedOffer :=
  tx.parts.filterMap Prod.snd

/-- What the offers create of a token type in all. -/
def created (tx : CallerTx) (type : String) : Int :=
  (tx.offers.map fun offer => offer.created type).sum

end CallerTx

/-- What the calls on sponsorable contracts declare as minted of a token type. -/
def ShapePolicy.declared (policy : ShapePolicy) (tx : CallerTx) (type : String) : Int :=
  match policy.deriveTokenType with
  | some deriveTokenType =>
    amountUnder (declaredMintEntries policy.contractSponsorable deriveTokenType tx.actions) type
  | none => 0

/-- The token types outside the list move only as far as the transaction mints them. -/
structure WithinMints (policy : ShapePolicy) (tx : CallerTx) : Prop where
  notPaidIn : ∀ offer ∈ tx.offers, ∀ entry ∈ offer.entries,
    bareHex entry.1 ∉ policy.tokenTypes → ∀ delta, entry.2 = some delta → delta ≤ 0
  created_le : ∀ type, type ∉ policy.tokenTypes → tx.created type ≤ policy.declared tx type
  noNight : ∀ offer ∈ tx.offers, ∀ entry ∈ offer.entries,
    policy.offerRules.isNight (bareHex entry.1) = false

/-- Contract-owned coins of these offers go to contracts the policy sponsors. -/
def OwnersSponsorable (policy : ShapePolicy) (offers : List ShieldedOffer) : Prop :=
  ∀ offer ∈ offers, ∀ address ∈ offer.owners, policy.contractSponsorable address = true

structure ShieldedValueBounded (policy : ShapePolicy) (tx : CallerTx) : Prop where
  withinMints : WithinMints policy tx
  owners : OwnersSponsorable policy tx.offers

/-- A field that makes no offer non-empty. -/
def Extent.IsEmpty : Extent → Prop
  | .undefined | .null => True
  | .counted size => size = 0
  | .unmeasured => False

theorem isEmpty_of_scan {fields : List Extent} {sawKnownKey : Bool}
    (scanned : nonEmptyScan sawKnownKey fields = false) : ∀ field ∈ fields, field.IsEmpty := by
  induction fields generalizing sawKnownKey with
  | nil =>
    intro field listed
    cases listed
  | cons first rest ih =>
    intro field listed
    cases first with
    | undefined | null =>
      rw [nonEmptyScan] at scanned
      cases listed with
      | head => trivial
      | tail _ listed => exact ih scanned field listed
    | counted size =>
      rw [nonEmptyScan] at scanned
      split at scanned
      · cases scanned
      next empty =>
        cases listed with
        | head => exact Nat.eq_zero_of_not_pos empty
        | tail _ listed => exact ih scanned field listed
    | unmeasured => cases scanned

theorem items_of_empty {Item : Type} {field : Nullish (Collection Item)}
    (empty : (field.extent Collection.measure).IsEmpty) : field.items = [] := by
  cases field with
  | undefined | null => rfl
  | value collection =>
    cases collection with
    | array items => exact List.eq_nil_of_length_eq_zero empty
    | sized | unsized => rfl

/-- The contract-owned coins among these. -/
def ownersOf (coins : List OfferCoin) : List String :=
  coins.filterMap OfferCoin.contractAddress

/-- An offer taken for empty has contract-owned coins in `transients` only. -/
theorem owners_of_empty {offer : ShieldedOffer} (empty : offer.nonEmpty = false) :
    offer.owners = ownersOf offer.transients.items := by
  have inputs := items_of_empty
    (isEmpty_of_scan empty (offer.inputs.extent Collection.measure)
      (by simp [ShieldedOffer.fields]))
  have outputs := items_of_empty
    (isEmpty_of_scan empty (offer.outputs.extent Collection.measure)
      (by simp [ShieldedOffer.fields]))
  have transient := items_of_empty
    (isEmpty_of_scan empty (offer.transient.extent Collection.measure)
      (by simp [ShieldedOffer.fields]))
  rw [ShieldedOffer.owners, ShieldedOffer.coins, inputs, outputs, transient]
  simp [ownersOf]

theorem entries_of_empty {offer : ShieldedOffer} (empty : offer.nonEmpty = false) :
    offer.entries = [] := by
  have deltas : (offer.deltas.extent Deltas.measure).IsEmpty :=
    isEmpty_of_scan empty _ (by simp [ShieldedOffer.fields])
  rw [ShieldedOffer.entries, ShieldedOffer.deltaEntries]
  cases isDeltas : offer.deltas with
  | undefined | null => rfl
  | value deltas' =>
    rw [isDeltas] at deltas
    cases deltas' with
    | map entries => exact List.eq_nil_of_length_eq_zero deltas
    | array length =>
      have none : length = 0 := deltas
      rw [none]
      rfl
    | sized | unsized => rfl

/-! ## The checks of an offer -/

section Offer

variable {key : String} {rules : OfferRules}

/-- A delta as the check lets it through. -/
structure DeltaChecked (rules : OfferRules) (entry : String × Option Int) : Prop where
  notPaidIn : bareHex entry.1 ∉ rules.tokenTypes → ∀ delta, entry.2 = some delta → delta ≤ 0
  notNight : rules.isNight (bareHex entry.1) = false

/-- What of it comes off the budget: listed types are free. -/
def drawnBy (rules : OfferRules) (created : String → Int) (type : String) : Int :=
  if type ∈ rules.tokenTypes then 0 else created type

variable {entry : String × Option Int}

theorem createdBy_of_le {delta : Int} (isDelta : entry.2 = some delta)
    (le : delta ≤ 0) (type : String) :
    createdBy entry type = if type = bareHex entry.1 then -delta else 0 := by
  rw [createdBy, isDelta]
  simp only [eq_comm (a := bareHex entry.1)]
  split
  · exact max_eq_left (by omega)
  · rfl

theorem drawnBy_listed {created : String → Int} {type : String} (listed : type ∈ rules.tokenTypes) :
    drawnBy rules created type = 0 :=
  if_pos listed

theorem drawnBy_unlisted {created : String → Int} {type : String}
    (unlisted : type ∉ rules.tokenTypes) : drawnBy rules created type = created type :=
  if_neg unlisted

variable {mints left : MintBudget}

/-- What a delta that passed did to the budget: nothing, or it took what it creates. -/
theorem checkDelta_cases (passed : checkDelta key rules mints entry = .ok left) :
    rules.isNight (bareHex entry.1) = false ∧ ((bareHex entry.1 ∈ rules.tokenTypes ∧ left = mints) ∨
        ∃ minted delta, bareHex entry.1 ∉ rules.tokenTypes ∧
          mints.get? (bareHex entry.1) = some minted ∧ entry.2 = some delta ∧ delta < 0 ∧
          -delta ≤ minted ∧ left = mints.set (bareHex entry.1) (minted - -delta)) := by
  simp only [checkDelta] at passed
  split at passed
  · cases passed
  next notNight =>
    refine ⟨by simpa using notNight, ?_⟩
    split at passed
    next listed =>
      cases passed
      exact Or.inl ⟨listed, rfl⟩
    next unlisted =>
      split at passed
      · cases passed
      next minted isMinted =>
        split at passed
        · cases passed
        next taken isTaken =>
          split at passed
          · cases passed
          next positive =>
            split at passed
            · cases passed
            next within =>
              cases passed
              obtain ⟨delta, isDelta, rfl⟩ := Option.map_eq_some_iff.mp isTaken
              exact Or.inr ⟨minted, delta, unlisted, isMinted, isDelta, by omega, by omega, rfl⟩

theorem checkDelta_checked
    (passed : checkDelta key rules mints entry = .ok left) : DeltaChecked rules entry := by
  obtain ⟨notNight,
    listed | ⟨minted, delta, unlisted, isMinted, isDelta, negative, within, isLeft⟩⟩ :=
    checkDelta_cases passed
  · exact ⟨fun unlisted => absurd listed.1 unlisted, notNight⟩
  · refine ⟨fun _ other isOther => ?_, notNight⟩
    rw [isDelta, Option.some.injEq] at isOther
    omega

theorem checkDelta_draws
    (covered : mints.Covered) (passed : checkDelta key rules mints entry = .ok left) :
    mints.DrawnFrom left (drawnBy rules (createdBy entry)) := by
  obtain ⟨_, listed | ⟨minted, delta, unlisted, isMinted, isDelta, negative, within, isLeft⟩⟩ :=
    checkDelta_cases passed
  · rw [listed.2]
    apply (InsertionMap.DrawnFrom.nothing covered).of_eq
    intro type
    by_cases free : type ∈ rules.tokenTypes
    · exact (drawnBy_listed free).symm
    · have other : bareHex entry.1 ≠ type := fun same => free (same ▸ listed.1)
      rw [drawnBy_unlisted free, createdBy]
      cases entry.2 with
      | none => rfl
      | some delta => exact (if_neg other).symm
  · rw [isLeft]
    apply (InsertionMap.DrawnFrom.draw covered isMinted within).of_eq
    intro type
    by_cases isType : type = bareHex entry.1
    · rw [if_pos isType, isType, drawnBy_unlisted unlisted,
        createdBy_of_le isDelta (le_of_lt negative), if_pos rfl]
    · rw [if_neg isType]
      by_cases free : type ∈ rules.tokenTypes
      · exact (drawnBy_listed free).symm
      · rw [drawnBy_unlisted free, createdBy_of_le isDelta (le_of_lt negative), if_neg isType]

theorem checkOwners_ok {owners : List String} {result : Unit}
    (passed : checkOwners key rules owners = .ok result) :
    ∀ address ∈ owners, rules.contractSponsorable address = true := by
  rw [checkOwners] at passed
  split at passed
  next noForeign =>
    intro address listed
    have allowed := List.find?_eq_none.mp noForeign address listed
    simp only [Bool.or_eq_true, decide_eq_true_eq, Bool.not_eq_true', not_or,
      Bool.not_eq_false] at allowed
    exact allowed.2
  · cases passed

/-- An offer as the check lets it through. -/
structure OfferChecked (rules : OfferRules) (offer : ShieldedOffer) : Prop where
  deltas : ∀ entry ∈ offer.entries, DeltaChecked rules entry
  owners : offer.nonEmpty = true →
    ∀ address ∈ offer.owners, rules.contractSponsorable address = true

theorem sum_drawnBy (created : String × Option Int → String → Int)
    (entries : List (String × Option Int)) (type : String) :
    (entries.map fun entry => drawnBy rules (created entry) type).sum =
      drawnBy rules (fun type => (entries.map fun entry => created entry type).sum) type := by
  simp only [drawnBy]
  split
  · simp
  · rfl

theorem checkOfferTokens_ok {offer : ShieldedOffer}
    (covered : mints.Covered) (passed : checkOfferTokens offer key rules mints = .ok left) :
    OfferChecked rules offer ∧ mints.DrawnFrom left (drawnBy rules offer.created) := by
  rw [checkOfferTokens] at passed
  split at passed
  · cases passed
  next entries isEntries =>
    have same : offer.entries = entries := by
      rw [ShieldedOffer.entries, isEntries, Option.getD_some]
    split at passed
    · cases passed
    · simp only [bind_eq_ok] at passed
      obtain ⟨final, drained, _, owned, passed⟩ := passed
      cases passed
      constructor
      · constructor
        · rw [same]
          exact forall_of_foldlM_ok drained fun _ _ _ _ stepped => checkDelta_checked stepped
        · intro _
          exact checkOwners_ok owned
      · have draws := InsertionMap.DrawnFrom.of_foldlM drained covered
          (fun entry _ budget next covered stepped => checkDelta_draws covered stepped)
        apply draws.of_eq
        intro type
        rw [sum_drawnBy, ← same]
        rfl

theorem checkPart_ok {part : String × Option ShieldedOffer}
    (covered : mints.Covered) (passed : checkPart rules mints part = .ok left) :
    (∀ offer ∈ part.2, OfferChecked rules offer) ∧ mints.DrawnFrom left (drawnBy rules fun type =>
        ((part.2.toList.map fun offer => offer.created type).sum)) := by
  obtain ⟨key, none | offer⟩ := part
  · cases passed
    refine ⟨by simp, (InsertionMap.DrawnFrom.nothing covered).of_eq fun type => ?_⟩
    simp [drawnBy]
  · rw [checkPart] at passed
    dsimp only at passed ⊢
    split at passed
    next isEmpty =>
      cases passed
      have empty : offer.nonEmpty = false := by simpa using isEmpty
      have noEntries := entries_of_empty empty
      constructor
      · intro other isOther
        cases isOther
        refine ⟨by simp [noEntries], fun filled => ?_⟩
        rw [empty] at filled
        cases filled
      · apply (InsertionMap.DrawnFrom.nothing covered).of_eq
        intro type
        simp [drawnBy, ShieldedOffer.created, noEntries]
    · split at passed
      · cases passed
      · have checked := checkOfferTokens_ok covered passed
        refine ⟨fun other isOther => ?_, checked.2.of_eq fun type => ?_⟩
        · cases isOther
          exact checked.1
        · simp [drawnBy]

/-- All parts: each offer is checked, and they draw on one budget. -/
theorem checkParts_ok {parts : List (String × Option ShieldedOffer)}
    (covered : mints.Covered) (passed : parts.foldlM (checkPart rules) mints = .ok left) :
    (∀ offer ∈ parts.filterMap Prod.snd, OfferChecked rules offer) ∧
      mints.DrawnFrom left (drawnBy rules fun type =>
        ((parts.filterMap Prod.snd).map fun offer => offer.created type).sum) := by
  induction parts generalizing mints with
  | nil =>
    cases passed
    refine ⟨by simp, (InsertionMap.DrawnFrom.nothing covered).of_eq fun type => ?_⟩
    simp [drawnBy]
  | cons part rest ih =>
    rw [List.foldlM_cons] at passed
    rcases of_bind_ok passed with ⟨next, first, passed⟩
    have checkedFirst := checkPart_ok covered first
    have checkedRest := ih checkedFirst.2.covered passed
    obtain ⟨key, none | offer⟩ := part
    · refine ⟨checkedRest.1, (checkedFirst.2.trans checkedRest.2).of_eq fun type => ?_⟩
      simp [drawnBy]
    · constructor
      · intro other listed
        cases listed with
        | head => exact checkedFirst.1 offer rfl
        | tail _ listed => exact checkedRest.1 other listed
      · apply (checkedFirst.2.trans checkedRest.2).of_eq
        intro type
        simp only [drawnBy, Option.toList_some, List.map_cons, List.map_nil, List.sum_cons,
          List.sum_nil, add_zero]
        split
        · rfl
        · rfl

end Offer

theorem mintsOf_positive {deriveTokenType : String → String → String} {action : TxAction} :
    ∀ entry ∈ mintsOf deriveTokenType action, 0 ≤ entry.2 := by
  intro entry listed
  obtain ⟨mint, _, isMint⟩ := List.mem_filterMap.mp listed
  split at isMint
  · cases isMint
  next amount isAmount =>
    dsimp only at isMint
    split at isMint
    · cases isMint
    next positive =>
      split at isMint
      · rw [Option.some.injEq] at isMint
        rw [← isMint]
        exact le_of_lt (not_le.mp positive)
      · exact absurd isMint (Option.some_ne_none entry).symm

theorem declaredMintEntries_positive {contractSponsorable : String → Bool}
    {deriveTokenType : String → String → String} {actions : List TxAction} :
    ∀ entry ∈ declaredMintEntries contractSponsorable deriveTokenType actions, 0 ≤ entry.2 := by
  intro entry listed
  obtain ⟨action, _, isEntry⟩ := List.mem_flatMap.mp listed
  split at isEntry
  · cases isEntry
  · exact mintsOf_positive entry isEntry

namespace ShapePolicy

variable (policy : ShapePolicy) (tx : CallerTx)

theorem mintBudget_covered : (policy.mintBudget tx).Covered := by
  rw [mintBudget]
  split
  · exact InsertionMap.covered_depositAll InsertionMap.covered_empty declaredMintEntries_positive
  · exact InsertionMap.covered_empty

theorem declared_nonneg (type : String) : 0 ≤ policy.declared tx type := by
  rw [declared]
  split
  next deriveTokenType _ =>
    rw [← InsertionMap.left_depositAll_empty]
    exact InsertionMap.covered_depositAll InsertionMap.covered_empty declaredMintEntries_positive
      type
  · exact le_refl 0

/-- The budget holds no more than what the calls declare. -/
theorem mintBudget_le (type : String) :
    (policy.mintBudget tx).left type ≤ policy.declared tx type := by
  rw [mintBudget]
  split
  next deriveTokenType _ isDerive =>
    rw [declaredMints, InsertionMap.left_depositAll_empty, declared, isDerive]
  · rw [InsertionMap.left_empty]
    exact policy.declared_nonneg tx type

end ShapePolicy

/-! ## Accepted transactions -/

section Accepted

variable {limits : SponsorLimits} {decode : List UInt8 → String} {policy : ShapePolicy}
  {byteLength : Nat} {tx : CallerTx} {result : List ContractCall × List UnshieldedMove}

variable (accepted : checkSponsorableShape limits decode policy byteLength tx = .ok result)

include accepted

/-- An accepted transaction passed the check of its shielded offers. -/
theorem parts_of_accepted :
    ∃ left, tx.parts.foldlM (checkPart policy.offerRules) (policy.mintBudget tx) = .ok left := by
  rw [checkSponsorableShape] at accepted
  split at accepted
  · cases accepted
  · split at accepted
    · cases accepted
    · rcases of_bind_ok accepted with ⟨left, passed, _⟩
      exact ⟨left, passed⟩

theorem withinMints_of_accepted :
    WithinMints policy tx := by
  obtain ⟨left, passed⟩ := parts_of_accepted accepted
  have checked := checkParts_ok (policy.mintBudget_covered tx) passed
  constructor
  · intro offer listed entry isEntry
    exact ((checked.1 offer listed).deltas entry isEntry).notPaidIn
  · intro type unlisted
    have within := (checked.2.le type).trans (policy.mintBudget_le tx type)
    rwa [drawnBy_unlisted unlisted] at within
  · intro offer listed entry isEntry
    exact ((checked.1 offer listed).deltas entry isEntry).notNight

/-- The offers of an accepted transaction move unlisted token types only as far as its sponsorable
calls mint them, and never NIGHT. Their contract-owned coins go to sponsorable contracts exactly
when those in the `transients` of the offers taken for empty do. -/
theorem shielded_value_bounded_iff :
    ShieldedValueBounded policy tx ↔ ∀ offer ∈ tx.offers, offer.nonEmpty = false →
        ∀ address ∈ ownersOf offer.transients.items, policy.contractSponsorable address = true := by
  obtain ⟨left, passed⟩ := parts_of_accepted accepted
  have checked := checkParts_ok (policy.mintBudget_covered tx) passed
  constructor
  · intro bounded offer listed empty address isOwner
    rw [← owners_of_empty empty] at isOwner
    exact bounded.owners offer listed address isOwner
  · intro empties
    refine ⟨withinMints_of_accepted accepted, ?_⟩
    intro offer listed address isOwner
    cases filled : offer.nonEmpty with
    | true => exact (checked.1 offer listed).owners filled address isOwner
    | false =>
      rw [owners_of_empty filled] at isOwner
      exact empties offer listed filled address isOwner

end Accepted

def sampleLimits : SponsorLimits where
  maxTxBytes := 1024
  maxDeployBytes := 1024

/-- Calls on the contract `aa` are sponsored, with what they mint. -/
def mintingPolicy : ShapePolicy where
  allowedContracts := some ["aa"]
  allowedCircuits := none
  allowDeploy := false
  maxDeploys := none
  ownContracts := none
  allowedTokenTypes := none
  nightTokenType := some "00"
  contractCircuits := none
  allowContractMints := true
  deriveTokenType := some fun domainSeparator _ => domainSeparator
  allowUnshieldedOffers := false
  allowedUnshieldedTokenTypes := none
  addressFromKey := none
  sponsorInputKeys := none

def mintedType : String := String.ofList (List.replicate 64 'a')

/-- A call on `aa` that mints ten of the type. -/
def mintingCall : TxAction where
  kind := "ContractCall"
  entryPoint := .text "mint"
  address := .value "aa"
  updates := false
  initialState := false
  guaranteedTranscript := some ⟨some [(mintedType, some 10)], none⟩
  fallibleTranscript := none

def mintingTx (offer : ShieldedOffer) : CallerTx where
  intents := some [(1, ⟨none, none, none, [mintingCall]⟩)]
  guaranteedOffer := .single offer
  fallibleOffer := .absent
  guaranteedCoins := .absent
  fallibleCoins := .absent
  imbalances := none

/-- An offer with these deltas and transients, and a coin where something was created. -/
def offerOf (entries : List (String × Option Int)) (transients : List OfferCoin) :
    ShieldedOffer where
  inputs := .value (.array [])
  outputs := .value (.array [])
  transients := .value (.array transients)
  transient := .undefined
  deltas := .value (.map entries)

/-- The minted tokens are taken in one offer. -/
theorem shielded_value_bounded_minted :
    ShieldedValueBounded mintingPolicy (mintingTx (offerOf [(mintedType, some (-10))] [])) ↔
      ∀ offer ∈ (mintingTx (offerOf [(mintedType, some (-10))] [])).offers,
        offer.nonEmpty = false → ∀ address ∈ ownersOf offer.transients.items,
          mintingPolicy.contractSponsorable address = true :=
  @shielded_value_bounded_iff sampleLimits (fun _ => "") mintingPolicy 8 _ ([⟨"aa", "mint"⟩], [])
    (by decide +kernel)

/-- A coin of a contract that is not sponsored passes in `transients`. -/
theorem foreign_transient_coin_accepted :
    checkSponsorableShape sampleLimits (fun _ => "") mintingPolicy 8
        (mintingTx (offerOf [] [⟨some "bb"⟩])) = .ok ([⟨"aa", "mint"⟩], []) ∧
      ¬ ShieldedValueBounded mintingPolicy (mintingTx (offerOf [] [⟨some "bb"⟩])) := by
  refine ⟨rfl, fun bounded => ?_⟩
  have sponsored := bounded.owners (offerOf [] [⟨some "bb"⟩]) (by decide) "bb" (by decide)
  revert sponsored
  decide

end Nightgate.Midnight
