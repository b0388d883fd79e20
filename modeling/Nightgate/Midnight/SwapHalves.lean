import Nightgate.Midnight.SponsorShape

/-!
# Swap halves

A swap half gives one token type and wants another. Its coins do not show their types, so its
terms are read from the deltas of its one offer. Two halves are sponsored when they mirror each
other; joined, they change no balance.
-/

namespace Nightgate.Midnight

open Library Nightgate.Submission

/-- Whether a field holds something: `sizeOf` of it is not zero. -/
def Extent.carries : Extent → Bool
  | .undefined | .null => false
  | .counted size => size ≠ 0
  | .unmeasured => true

def OfferSlot.extent : OfferSlot → Extent
  | .absent => .undefined
  | .single _ => .unmeasured
  | .perSegment offers => .counted offers.length

namespace CallerTx

variable (tx : CallerTx)

def carriesIntent : Bool :=
  match tx.intents with
  | none => false
  | some intents => intents.length ≠ 0

/-- The guaranteed offer with its coins, where they are arrays. -/
def readableOffer : Option (ShieldedOffer × List OfferCoin × List OfferCoin) :=
  match tx.guaranteedOffer with
  | .single offer =>
    match offer.inputs, offer.outputs with
    | .value (.array inputs), .value (.array outputs) => some (offer, inputs, outputs)
    | _, _ => none
  | .absent | .perSegment _ => none

end CallerTx

def ShieldedOffer.carriesTransient (offer : ShieldedOffer) : Bool :=
  (offer.transients.extent Collection.measure).carries

/-- The guaranteed offer of a plain shielded transaction. -/
def plainShieldedOffer (tx : CallerTx) (maxInputs : Int) (refuse : String → String)
    (outputsWhy : String) : Except String ShieldedOffer :=
  if tx.carriesIntent then
    .error (refuse "carries an intent (a contract call, unshielded value or dust actions)")
  else if tx.fallibleOffer.extent.carries then .error (refuse "carries a fallible offer")
  else
    match tx.readableOffer with
    | none => .error (refuse "carries no readable guaranteed offer")
    | some (offer, inputs, outputs) =>
      if offer.carriesTransient then .error (refuse "carries a transient coin")
      else if (inputs ++ outputs).any (·.contractAddress.isSome) then
        .error (refuse "carries a contract-owned coin")
      else if inputs.length < 1 ∨ maxInputs < inputs.length then
        .error (refuse ("carries " ++ toString inputs.length ++ " inputs; 1 to " ++
          toString maxInputs ++ " are sponsored (NIGHTGATE_SPONSOR_SWAP_MAX_INPUTS)"))
      else if outputs.length < 1 ∨ 2 < outputs.length then
        .error (refuse ("carries " ++ toString outputs.length ++ " outputs; " ++ outputsWhy))
      else .ok offer

/-- One offer and nothing beside it, whose coins belong to no contract. -/
structure PlainOffer (tx : CallerTx) (maxInputs : Int) (offer : ShieldedOffer)
    (inputs outputs : List OfferCoin) : Prop where
  intents : tx.carriesIntent = false
  fallible : tx.fallibleOffer.extent.carries = false
  guaranteed : tx.guaranteedOffer = .single offer
  isInputs : offer.inputs = .value (.array inputs)
  isOutputs : offer.outputs = .value (.array outputs)
  transients : offer.carriesTransient = false
  unowned : ∀ coin ∈ inputs ++ outputs, coin.contractAddress = none
  someInput : 1 ≤ inputs.length
  inputLimit : (inputs.length : Int) ≤ maxInputs
  outputLimit : 1 ≤ outputs.length ∧ outputs.length ≤ 2

theorem readableOffer_some {tx : CallerTx} {offer : ShieldedOffer}
    {inputs outputs : List OfferCoin} :
    tx.readableOffer = some (offer, inputs, outputs) ↔
      tx.guaranteedOffer = .single offer ∧ offer.inputs = .value (.array inputs) ∧
        offer.outputs = .value (.array outputs) := by
  constructor
  · intro readable
    rw [CallerTx.readableOffer] at readable
    split at readable
    next single =>
      split at readable
      next isInputs isOutputs =>
        cases readable
        exact ⟨single, isInputs, isOutputs⟩
      · cases readable
    · cases readable
    · cases readable
  · rintro ⟨single, isInputs, isOutputs⟩
    simp only [CallerTx.readableOffer, single, isInputs, isOutputs]

variable {refuse : String → String}

theorem plainShieldedOffer_ok {tx : CallerTx} {maxInputs : Int}
    {outputsWhy : String} {offer : ShieldedOffer}
    (plain : plainShieldedOffer tx maxInputs refuse outputsWhy = .ok offer) :
    ∃ inputs outputs, PlainOffer tx maxInputs offer inputs outputs := by
  rw [plainShieldedOffer] at plain
  split at plain
  · cases plain
  next noIntent =>
    split at plain
    · cases plain
    next noFallible =>
      split at plain
      · cases plain
      next found inputs outputs readable =>
        rw [readableOffer_some] at readable
        rcases readable with ⟨single, isInputs, isOutputs⟩
        split at plain
        · cases plain
        next noTransient =>
          split at plain
          · cases plain
          next unowned =>
            split at plain
            · cases plain
            next inputLimit =>
              split at plain
              · cases plain
              next outputLimit =>
                cases plain
                refine ⟨inputs, outputs, by simpa using noIntent, by simpa using noFallible,
                  single, isInputs, isOutputs, by simpa using noTransient, ?_, by omega,
                  by omega, by omega⟩
                intro coin listed
                have all := List.any_eq_false.mp (Bool.eq_false_iff.mpr unowned) coin listed
                simpa using all

/-! ## The terms of a half -/

/-- What a half gives and what it wants, each a bare token type and a positive amount. -/
structure HalfTerms where
  give : String × Int
  want : String × Int

/-- The entries whose amount has a sign. -/
def deltasWhere (sign : Int → Bool) (deltas : List (String × Option Int)) : List (String × Int) :=
  deltas.filterMap fun entry =>
    match entry.2 with
    | none => none
    | some amount => if sign amount then some (entry.1, amount) else none

def positiveDeltas (deltas : List (String × Option Int)) : List (String × Int) :=
  deltasWhere (fun amount => 0 < amount) deltas

def negativeDeltas (deltas : List (String × Option Int)) : List (String × Int) :=
  deltasWhere (fun amount => amount < 0) deltas

/-- No NIGHT, and a listed type. -/
def checkHalfType (tokenTypes : Option (List String)) (nightType : Option String)
    (refuse : String → String) (type : String) : Except String Unit :=
  if nightType = some type ∧ type ≠ "" then .error (refuse "moves NIGHT")
  else
    match tokenTypes with
    | none => .ok ()
    | some types =>
      if type ∈ types then .ok ()
      else .error (refuse ("moves token type " ++ sliceText type 16 ++
        "…, not in allowedTokenTypes"))

def readHalfTerms (typed : List (String × Option Int)) (refuse : String → String) :
    Except String HalfTerms :=
  if typed.any fun entry => entry.2 = none ∨ entry.2 = some 0 then
    .error (refuse "exposes a delta that is not a non-zero amount")
  else
    match positiveDeltas typed, negativeDeltas typed with
    | [give], [want] =>
      if give.1 = want.1 then .error (refuse "gives and wants the same token type")
      else .ok ⟨give, (want.1, -want.2)⟩
    | gives, wants =>
      .error (refuse ("gives " ++ toString gives.length ++ " token type(s) and wants " ++
        toString wants.length ++ "; a half gives one and wants one"))

/-- The deltas with their types as bare hex. -/
def bareDeltas (entries : List (String × Option Int)) : List (String × Option Int) :=
  entries.map fun entry => (bareHex entry.1, entry.2)

/-- Reads and checks a half; `opening` begins every refusal. -/
def swapHalfTerms (half : CallerTx) (label : String) (tokenTypes : Option (List String))
    (nightType : Option String) (maxInputs : Int) (opening : String) : Except String HalfTerms := do
  let refuse := fun why => opening ++ ": the " ++ label ++ " " ++ why
  let offer ← plainShieldedOffer half maxInputs refuse
    "a half has the coin it wants and at most its change"
  match offer.deltaEntries with
  | none => .error (refuse "exposes no deltas (terms not readable)")
  | some entries =>
    let terms ← readHalfTerms (bareDeltas entries) refuse
    checkHalfType tokenTypes nightType refuse terms.give.1
    checkHalfType tokenTypes nightType refuse terms.want.1
    pure terms

structure SwapLeg where
  tokenType : String
  amount : String
  deriving DecidableEq

/-- What a swap exchanges, from the maker's side. -/
structure SwapTerms where
  gives : SwapLeg
  wants : SwapLeg
  deriving DecidableEq

def HalfTerms.shown (terms : HalfTerms) : SwapTerms where
  gives := ⟨terms.give.1, toString terms.give.2⟩
  wants := ⟨terms.want.1, toString terms.want.2⟩

/-- The options of a swap check; `maxInputs` where it is an integer. -/
structure SwapOptions where
  allowedTokenTypes : Option (List String)
  nightTokenType : Option String
  maxInputs : Option Int

namespace SwapOptions

variable (options : SwapOptions)

def tokenTypes : List String := (options.allowedTokenTypes.getD []).map bareHex

def nightType : Option String := (options.nightTokenType.filter (· ≠ "")).map bareHex

def inputLimit : Int :=
  match options.maxInputs with
  | some limit => if 1 ≤ limit then limit else 4
  | none => 4

end SwapOptions

/-- What one half gives, the other wants. -/
def HalfTerms.Mirrors (maker taker : HalfTerms) : Prop :=
  maker.give = taker.want ∧ maker.want = taker.give

instance (maker taker : HalfTerms) : Decidable (maker.Mirrors taker) :=
  inferInstanceAs (Decidable (_ ∧ _))

def describeLegs (terms : HalfTerms) : String :=
  "gives " ++ toString terms.give.2 ++ " of " ++ sliceText terms.give.1 16 ++ "… for " ++
    toString terms.want.2 ++ " of " ++ sliceText terms.want.1 16 ++ "…"

def checkSwapHalves (maker taker : CallerTx) (options : SwapOptions) :
    Except String SwapTerms := do
  if options.tokenTypes.isEmpty then
    refuseSponsoring "a swap needs its token types in allowedTokenTypes, and none is listed"
  else do
    let m ← swapHalfTerms maker "maker half" (some options.tokenTypes) options.nightType
      options.inputLimit "refusing to sponsor"
    let t ← swapHalfTerms taker "taker half" (some options.tokenTypes) options.nightType
      options.inputLimit "refusing to sponsor"
    if m.Mirrors t then pure m.shown
    else
      refuseSponsoring ("the halves do not mirror each other (maker " ++ describeLegs m ++
        ", taker " ++ describeLegs t ++ ")")

/-- The deltas of a half: one type that it gives and one that it wants. -/
structure DeltaTerms (typed : List (String × Option Int)) (terms : HalfTerms) : Prop where
  deltas : typed.Perm [(terms.give.1, some terms.give.2), (terms.want.1, some (-terms.want.2))]
  gives : 0 < terms.give.2
  wants : 0 < terms.want.2
  other : terms.give.1 ≠ terms.want.1

variable {typed : List (String × Option Int)}

/-- Amounts that are not zero are given or wanted. -/
theorem deltas_perm (amounts : ∀ entry ∈ typed, ¬(entry.2 = none ∨ entry.2 = some 0)) :
    typed.Perm ((positiveDeltas typed ++ negativeDeltas typed).map fun entry =>
      (entry.1, some entry.2)) := by
  induction typed with
  | nil => exact List.Perm.nil
  | cons entry rest ih =>
    have later := ih fun other listed => amounts other (List.mem_cons_of_mem _ listed)
    have isAmount := amounts entry List.mem_cons_self
    obtain ⟨type, amount⟩ := entry
    cases amount with
    | none => exact absurd (Or.inl rfl) isAmount
    | some amount =>
      rcases lt_trichotomy amount 0 with negative | zero | positive
      · have notPositive : ¬0 < amount := by omega
        simp only [positiveDeltas, negativeDeltas, deltasWhere, List.filterMap_cons,
          decide_eq_true_eq, if_neg notPositive, if_pos negative, List.map_append,
          List.map_cons] at later ⊢
        exact (later.cons _).trans List.perm_middle.symm
      · exact absurd (Or.inr (congrArg some zero)) isAmount
      · have notNegative : ¬amount < 0 := by omega
        simp only [positiveDeltas, negativeDeltas, deltasWhere, List.filterMap_cons,
          decide_eq_true_eq, if_pos positive, if_neg notNegative, List.map_append,
          List.map_cons, List.cons_append] at later ⊢
        exact later.cons _

theorem mem_deltasWhere {sign : Int → Bool}
    {entry : String × Int} (listed : entry ∈ deltasWhere sign typed) : sign entry.2 = true := by
  obtain ⟨⟨type, amount⟩, _, isEntry⟩ := List.mem_filterMap.mp listed
  cases amount with
  | none => cases isEntry
  | some amount =>
    dsimp only at isEntry
    split at isEntry
    next signed =>
      cases isEntry
      exact signed
    · cases isEntry

theorem readHalfTerms_ok {terms : HalfTerms} (read : readHalfTerms typed refuse = .ok terms) :
    DeltaTerms typed terms := by
  rw [readHalfTerms] at read
  split at read
  · cases read
  next amounts =>
    split at read
    next give want isGive isWant =>
      split at read
      · cases read
      next other =>
        cases read
        have nonzero : ∀ entry ∈ typed, ¬(entry.2 = none ∨ entry.2 = some 0) := by
          intro entry listed
          have all := List.any_eq_false.mp (Bool.eq_false_iff.mpr amounts) entry listed
          simpa using all
        have perm := deltas_perm nonzero
        rw [isGive, isWant] at perm
        have positive : 0 < give.2 :=
          of_decide_eq_true (mem_deltasWhere (isGive ▸ List.mem_singleton_self give))
        have negative : want.2 < 0 :=
          of_decide_eq_true (mem_deltasWhere (isWant ▸ List.mem_singleton_self want))
        refine ⟨by simpa using perm, positive, ?_, other⟩
        show 0 < -want.2
        omega
    · cases read

/-- A listed type that is not NIGHT. -/
structure Tradable (options : SwapOptions) (type : String) : Prop where
  listed : type ∈ options.tokenTypes
  notNight : options.nightType = some type → type = ""

variable {options : SwapOptions}

theorem checkHalfType_ok {type : String}
    (checked : checkHalfType (some options.tokenTypes) options.nightType refuse type = .ok ()) :
    Tradable options type := by
  rw [checkHalfType] at checked
  split at checked
  · cases checked
  next notNight =>
    split at checked
    next listed =>
      refine ⟨listed, fun isNight => ?_⟩
      by_contra named
      exact notNight ⟨isNight, named⟩
    · cases checked

/-- An accepted half: one plain offer, with the terms its deltas show. -/
structure SwapHalf (half : CallerTx) (options : SwapOptions) (terms : HalfTerms)
    (offer : ShieldedOffer) (inputs outputs : List OfferCoin)
    (entries : List (String × Option Int)) : Prop where
  plain : PlainOffer half options.inputLimit offer inputs outputs
  shown : offer.deltaEntries = some entries
  read : DeltaTerms (bareDeltas entries) terms
  give : Tradable options terms.give.1
  want : Tradable options terms.want.1

theorem swapHalfTerms_ok {half : CallerTx} {label opening : String}
    {terms : HalfTerms}
    (accepted : swapHalfTerms half label (some options.tokenTypes) options.nightType
      options.inputLimit opening = .ok terms) :
    ∃ offer inputs outputs entries, SwapHalf half options terms offer inputs outputs entries := by
  rw [swapHalfTerms] at accepted
  obtain ⟨offer, isPlain, accepted⟩ := of_bind_ok accepted
  obtain ⟨inputs, outputs, plain⟩ := plainShieldedOffer_ok isPlain
  split at accepted
  · cases accepted
  next entries isEntries =>
    obtain ⟨read, isRead, accepted⟩ := of_bind_ok accepted
    obtain ⟨_, giveChecked, accepted⟩ := of_bind_ok accepted
    obtain ⟨_, wantChecked, accepted⟩ := of_bind_ok accepted
    cases accepted
    exact ⟨offer, inputs, outputs, entries, plain, isEntries, readHalfTerms_ok isRead,
      checkHalfType_ok giveChecked, checkHalfType_ok wantChecked⟩

theorem checkSwapHalves_ok {maker taker : CallerTx} {terms : SwapTerms}
    (accepted : checkSwapHalves maker taker options = .ok terms) :
    ∃ m t : HalfTerms, terms = m.shown ∧ m.Mirrors t ∧ (∃ offer inputs outputs entries,
        SwapHalf maker options m offer inputs outputs entries) ∧
      ∃ offer inputs outputs entries, SwapHalf taker options t offer inputs outputs entries := by
  rw [checkSwapHalves] at accepted
  split at accepted
  · cases accepted
  · obtain ⟨m, isMaker, accepted⟩ := of_bind_ok accepted
    obtain ⟨t, isTaker, accepted⟩ := of_bind_ok accepted
    split at accepted
    next mirrors =>
      cases accepted
      exact ⟨m, t, rfl, mirrors, swapHalfTerms_ok isMaker, swapHalfTerms_ok isTaker⟩
    · cases accepted

/-- The net change of a half by bare token type. -/
def shownDeltas (half : CallerTx) : List (String × Int) :=
  match half.guaranteedOffer with
  | .single offer =>
    (bareDeltas (offer.deltaEntries.getD [])).map fun entry => (entry.1, entry.2.getD 0)
  | .absent | .perSegment _ => []

/-- The delta of the merged transaction, which adds up those of its halves. -/
def mergedDelta (maker taker : CallerTx) (type : String) : Int :=
  amountUnder (shownDeltas maker ++ shownDeltas taker) type

theorem SwapHalf.shownDeltas_perm {half : CallerTx} {terms : HalfTerms} {offer : ShieldedOffer}
    {inputs outputs : List OfferCoin} {entries : List (String × Option Int)}
    (isHalf : SwapHalf half options terms offer inputs outputs entries) :
    (shownDeltas half).Perm [terms.give, (terms.want.1, -terms.want.2)] := by
  rw [shownDeltas, isHalf.plain.guaranteed]
  dsimp only
  rw [isHalf.shown, Option.getD_some]
  exact isHalf.read.deltas.map fun entry => (entry.1, entry.2.getD 0)

/-- Halves that mirror each other change no balance. -/
theorem mergedDelta_eq_zero {maker taker : CallerTx} {m t : HalfTerms} (mirrors : m.Mirrors t)
    (isMaker : (shownDeltas maker).Perm [m.give, (m.want.1, -m.want.2)])
    (isTaker : (shownDeltas taker).Perm [t.give, (t.want.1, -t.want.2)]) (type : String) :
    mergedDelta maker taker type = 0 := by
  rw [mergedDelta, amountUnder_append, amountUnder_perm isMaker, amountUnder_perm isTaker,
    mirrors.1, mirrors.2]
  simp only [amountUnder_cons, amountUnder_nil]
  split <;> split <;> omega

end Nightgate.Midnight
