import Nightgate.Library.KeyedBudget
import Nightgate.Midnight.BatchSegments
import Nightgate.Midnight.DedicatedSubmit
import Nightgate.Midnight.SubmitIntent
import Nightgate.Submission.LandedRows

/-!
# Shielded offers of a sponsored transaction

A sponsor pays the fee of a transaction that somebody else built. Its shielded offers may move
listed token types only, and create what calls of the same transaction mint.
-/

namespace Nightgate.Midnight

open Library Nightgate.Submission

/-- A field that may be `undefined` or `null`. -/
inductive Nullish (Content : Type) where
  | undefined
  | null
  | value (content : Content)
  deriving DecidableEq

/-- A collection: an array, another object with a size or a length, or one with neither. -/
inductive Collection (Item : Type) where
  | array (items : List Item)
  | sized (size : Nat)
  | unsized
  deriving DecidableEq

/-- What `offerNonEmpty` reads of a field. -/
inductive Extent where
  | undefined
  | null
  | counted (size : Nat)
  | unmeasured

def Nullish.extent {Content : Type} (measure : Content → Option Nat) : Nullish Content → Extent
  | .undefined => .undefined
  | .null => .null
  | .value content =>
    match measure content with
    | some size => .counted size
    | none => .unmeasured

def Collection.measure {Item : Type} : Collection Item → Option Nat
  | .array items => some items.length
  | .sized size => some size
  | .unsized => none

/-- The elements, where it is an array. -/
def Nullish.items {Item : Type} : Nullish (Collection Item) → List Item
  | .value (.array items) => items
  | _ => []

/-- A coin of a shielded offer, with the contract that owns it. -/
structure OfferCoin where
  contractAddress : Option String
  deriving DecidableEq

/-- The net change by token type, inputs minus outputs; what is not a bigint is `none`. -/
inductive Deltas where
  | map (entries : List (String × Option Int))
  | array (length : Nat)
  | sized (size : Nat)
  | unsized
  deriving DecidableEq

def Deltas.measure : Deltas → Option Nat
  | .map entries => some entries.length
  | .array length => some length
  | .sized size => some size
  | .unsized => none

structure ShieldedOffer where
  inputs : Nullish (Collection OfferCoin)
  outputs : Nullish (Collection OfferCoin)
  transients : Nullish (Collection OfferCoin)
  transient : Nullish (Collection OfferCoin)
  deltas : Nullish Deltas
  deriving DecidableEq

/-- An offer field of a transaction: one offer, or one for each segment. -/
inductive OfferSlot where
  | absent
  | single (offer : ShieldedOffer)
  | perSegment (offers : List (Nat × Option ShieldedOffer))

/-- A key of `claimedUnshieldedSpends`. -/
structure ClaimedSpend where
  tag : String
  raw : String
  recipient : String

/-- The proven results of a call, as far as they are maps. -/
structure CallEffects where
  shieldedMints : Option (List (String × Option Int))
  claimedUnshieldedSpends : Option (List (ClaimedSpend × Option Int))

/-- An action of an intent; `kind` is the name of its class. -/
structure TxAction where
  kind : String
  entryPoint : EntryPoint
  address : Nullish String
  /-- Whether it has `updates` and `initialState`. -/
  updates : Bool
  initialState : Bool
  guaranteedTranscript : Option CallEffects
  fallibleTranscript : Option CallEffects

/-- `String(action?.address ?? '')`. -/
def TxAction.addressText (action : TxAction) : String :=
  match action.address with
  | .value address => address
  | .undefined | .null => ""

/-- The effects of both transcripts, the guaranteed one first. -/
def TxAction.effects (action : TxAction) : List CallEffects :=
  [action.guaranteedTranscript, action.fallibleTranscript].filterMap id

/-- A message of a `SponsorRefusalError`. -/
def refuseSponsoring {Result : Type} (reason : String) : Except String Result :=
  .error ("refusing to sponsor: " ++ reason)

/-- What the policy says about shielded offers. -/
structure OfferRules where
  /-- Listed token types and the type of NIGHT, as bare hex. -/
  tokenTypes : List String
  nightType : Option String
  contractSponsorable : String → Bool

/-- The type of NIGHT the offer check knows. -/
def OfferRules.isNight (rules : OfferRules) (type : String) : Bool :=
  rules.nightType = some type && type ≠ ""

/-- The keys one after the other; no known key at all counts as an unreadable shape. -/
def nonEmptyScan : Bool → List Extent → Bool
  | sawKnownKey, [] => !sawKnownKey
  | sawKnownKey, .undefined :: rest => nonEmptyScan sawKnownKey rest
  | _, .null :: rest => nonEmptyScan true rest
  | _, .counted size :: rest => if 0 < size then true else nonEmptyScan true rest
  | _, .unmeasured :: _ => true

/-- `offerNonEmpty` of an object with these fields. -/
def offerNonEmpty (fields : List Extent) : Bool :=
  nonEmptyScan false fields

namespace ShieldedOffer

/-- The fields `offerNonEmpty` reads: `inputs`, `outputs`, `transient` and `deltas`. -/
def fields (offer : ShieldedOffer) : List Extent :=
  [offer.inputs.extent Collection.measure, offer.outputs.extent Collection.measure,
    offer.transient.extent Collection.measure, offer.deltas.extent Deltas.measure]

def nonEmpty (offer : ShieldedOffer) : Bool :=
  offerNonEmpty offer.fields

/-- The coins of the offer, in the order of the collections. -/
def coins (offer : ShieldedOffer) : List OfferCoin :=
  offer.inputs.items ++ offer.outputs.items ++ offer.transients.items ++ offer.transient.items

/-- The owners of its contract-owned coins. -/
def owners (offer : ShieldedOffer) : List String :=
  offer.coins.filterMap OfferCoin.contractAddress

/-- The pairs `deltas.entries()` gives. Those of an array are its places with what stands there,
which is a pair and no bigint. -/
def deltaEntries (offer : ShieldedOffer) : Option (List (String × Option Int)) :=
  match offer.deltas with
  | .value (.map entries) => some entries
  | .value (.array length) => some ((List.range length).map fun place => (toString place, none))
  | .value (.sized _) | .value .unsized | .undefined | .null => none

end ShieldedOffer

/-- The offers of a field with `key`; a segment may have none. -/
def OfferSlot.parts : OfferSlot → List (Option ShieldedOffer)
  | .absent => []
  | .single offer => [some offer]
  | .perSegment offers => offers.map Prod.snd

/-- Amount minted by the calls of the transaction, by raw token type. -/
abbrev MintBudget := InsertionMap String Int

/-- The mints one call declares, in the order its transcripts list them. -/
def mintsOf (deriveTokenType : String → String → String) (action : TxAction) :
    List (String × Int) :=
  (action.effects.flatMap fun effects => effects.shieldedMints.getD []).filterMap fun mint =>
    match mint.2 with
    | none => none
    | some amount =>
      let type := bareHex (deriveTokenType (bareHex mint.1) action.addressText)
      if amount ≤ 0 then none
      else if isLowerHex64 type then some (type, amount)
      else none

/-- The mints that calls on sponsorable contracts declare. -/
def declaredMintEntries (contractSponsorable : String → Bool)
    (deriveTokenType : String → String → String) (actions : List TxAction) :
    List (String × Int) :=
  actions.flatMap fun action =>
    if action.addressText = "" || !contractSponsorable action.addressText then []
    else mintsOf deriveTokenType action

def declaredMints (contractSponsorable : String → Bool)
    (deriveTokenType : String → String → String) (actions : List TxAction) : MintBudget :=
  InsertionMap.empty.depositAll (declaredMintEntries contractSponsorable deriveTokenType actions)

/-! ## The check of an offer -/

/-- One delta of an offer; a mint shows as a negative one and uses up the budget. -/
def checkDelta (key : String) (rules : OfferRules) (mints : MintBudget)
    (entry : String × Option Int) : Except String MintBudget :=
  let type := bareHex entry.1
  if rules.isNight type then refuseSponsoring (key ++ " moves NIGHT")
  else if type ∈ rules.tokenTypes then .ok mints
  else
    match mints.get? type with
    | none =>
      refuseSponsoring (key ++ " moves token type " ++ sliceText type 16 ++
        "…, not in allowedTokenTypes")
    | some minted =>
      match entry.2.map Neg.neg with
      | none => paysIn type
      | some taken =>
        if taken ≤ 0 then paysIn type
        else if minted < taken then
          refuseSponsoring (key ++ " creates " ++ toString taken ++ " of token type " ++
            sliceText type 16 ++ "…, the transaction's calls mint " ++ toString minted)
        else .ok (mints.set type (minted - taken))
where
  paysIn (type : String) : Except String MintBudget :=
    refuseSponsoring (key ++ " pays in token type " ++ sliceText type 16 ++
      "…, not in allowedTokenTypes (a mint in the same transaction covers only what it creates)")

/-- Contract-owned coins go to sponsorable contracts. -/
def checkOwners (key : String) (rules : OfferRules) (owners : List String) :
    Except String Unit :=
  match owners.find? fun address => address = "" || !rules.contractSponsorable address with
  | none => .ok ()
  | some address =>
    refuseSponsoring (key ++ " carries a coin owned by contract " ++ sliceText address 16 ++
      "…, which is not sponsorable here")

def checkOfferTokens (offer : ShieldedOffer) (key : String) (rules : OfferRules)
    (mints : MintBudget) : Except String MintBudget :=
  match offer.deltaEntries with
  | none => refuseSponsoring (key ++ " exposes no deltas (token types not inspectable)")
  | some entries =>
    if entries.isEmpty && offer.owners.isEmpty then
      refuseSponsoring (key ++ " nets to zero and carries no contract-owned coin " ++
        "(a shielded transfer alongside the call, not value the call moves)")
    else do
      let left ← entries.foldlM (checkDelta key rules) mints
      checkOwners key rules offer.owners
      pure left

/-- One part of an offer field, with what is left of the mint budget. -/
def checkPart (rules : OfferRules) (mints : MintBudget) (part : String × Option ShieldedOffer) :
    Except String MintBudget :=
  match part.2 with
  | none => .ok mints
  | some offer =>
    if !offer.nonEmpty then .ok mints
    else if rules.tokenTypes.isEmpty && mints.size == 0 then
      refuseSponsoring ("transaction carries a " ++ part.1 ++ " (shielded value transfer)")
    else checkOfferTokens offer part.1 rules mints

end Nightgate.Midnight
