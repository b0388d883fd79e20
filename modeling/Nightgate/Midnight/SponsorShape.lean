import Nightgate.Midnight.ShieldedOffers

/-!
# The shape of a sponsored transaction

What a transaction contains is checked before the sponsor pays. An allowed call could hide a
deploy, transfers or dust actions; parts that cannot be read are refused.
-/

namespace Nightgate.Midnight

open Library Nightgate.Submission

/-- The value of an unshielded coin, as a bigint, an integer number or a text. -/
inductive UtxoValue where
  | bigint (value : Int)
  | number (value : Int)
  | text (text : String)
  | unreadable
  deriving DecidableEq

/-- A coin of the ledger is worth no less than nothing. -/
def UtxoValue.Unsigned : UtxoValue → Prop
  | .bigint value | .number value => 0 ≤ value
  | .text _ | .unreadable => True

structure Utxo where
  type : String
  owner : String
  value : UtxoValue
  unsigned : value.Unsigned
  deriving DecidableEq

structure UnshieldedOffer where
  inputs : Nullish (Collection Utxo)
  outputs : Nullish (Collection Utxo)
  deriving DecidableEq

structure DustActions where
  spends : Extent
  registrations : Extent

structure TxIntent where
  dustActions : Option DustActions
  guaranteedUnshieldedOffer : Option UnshieldedOffer
  fallibleUnshieldedOffer : Option UnshieldedOffer
  actions : List TxAction

/-- A token type in a balance of the ledger. -/
structure BalanceType where
  tag : String
  raw : String

abbrev LedgerBalance := List (BalanceType × UtxoValue)

/-- A deserialized transaction. `imbalances` may throw, with a message. -/
structure CallerTx where
  intents : Option (List (Nat × TxIntent))
  guaranteedOffer : OfferSlot
  fallibleOffer : OfferSlot
  guaranteedCoins : OfferSlot
  fallibleCoins : OfferSlot
  imbalances : Option (Nat → Except String LedgerBalance)

/-- The parts of the shielded offers, each with the field it stands in. -/
def CallerTx.parts (tx : CallerTx) : List (String × Option ShieldedOffer) :=
  [("guaranteedOffer", tx.guaranteedOffer), ("fallibleOffer", tx.fallibleOffer),
    ("guaranteedCoins", tx.guaranteedCoins), ("fallibleCoins", tx.fallibleCoins)].flatMap
      fun slot => slot.2.parts.map fun part => (slot.1, part)

def CallerTx.actions (tx : CallerTx) : List TxAction :=
  (tx.intents.getD []).flatMap fun intent => intent.2.actions

/-- The circuits of one contract: all, or those listed. -/
inductive CircuitRule where
  | all
  | listed (circuits : List String)
  deriving DecidableEq

/-- The size limits of the configuration. -/
structure SponsorLimits where
  maxTxBytes : Nat
  maxDeployBytes : Nat

/-- The arguments of `checkSponsorableShape` besides the transaction and its length. -/
structure ShapePolicy where
  allowedContracts : Option (List String)
  allowedCircuits : Option (List String)
  allowDeploy : Bool
  /-- An integer, where one is given. -/
  maxDeploys : Option Int
  ownContracts : Option (List String)
  allowedTokenTypes : Option (List String)
  nightTokenType : Option String
  /-- Replaces `allowedCircuits` for calls on the listed contracts. -/
  contractCircuits : Option (InsertionMap String CircuitRule)
  allowContractMints : Bool
  deriveTokenType : Option (String → String → String)
  allowUnshieldedOffers : Bool
  allowedUnshieldedTokenTypes : Option (List String)
  addressFromKey : Option (String → String)
  sponsorInputKeys : Option (List String)

namespace ShapePolicy

variable (policy : ShapePolicy)

def tokenTypes : List String := (policy.allowedTokenTypes.getD []).map bareHex

def nightType : Option String :=
  (policy.nightTokenType.filter fun type => type ≠ "").map bareHex

def isOwn (address : String) : Bool := address ∈ policy.ownContracts.getD []

def contractSponsorable (address : String) : Bool :=
  (policy.allowedContracts.getD []).isEmpty || address ∈ policy.allowedContracts.getD [] ||
    policy.isOwn address

/-- Named in the allow-list or deployed under the grant. An empty list allows every call but
names no payee here. -/
def listedContract (address : String) : Bool :=
  address ∈ policy.allowedContracts.getD [] || policy.isOwn address

def maxDeploysPerTx : Int :=
  match policy.maxDeploys with
  | some limit => if 0 ≤ limit then limit else 1
  | none => 1

def unshieldedTypes : List String := (policy.allowedUnshieldedTokenTypes.getD []).map bareHex

def offerRules : OfferRules where
  tokenTypes := policy.tokenTypes
  nightType := policy.nightType
  contractSponsorable := policy.contractSponsorable

/-- Whether the lists let `circuit` of a contract be called. -/
def circuitSponsorable (address circuit : String) : Bool :=
  match policy.contractCircuits.bind fun rules => rules.get? address with
  | some .all => true
  | some (.listed circuits) => circuit ∈ circuits
  | none =>
    (policy.allowedCircuits.getD []).isEmpty || circuit ∈ policy.allowedCircuits.getD []

/-- What the calls mint, where the policy counts it. -/
def mintBudget (tx : CallerTx) : MintBudget :=
  match policy.allowContractMints, policy.deriveTokenType with
  | true, some deriveTokenType =>
    declaredMints policy.contractSponsorable deriveTokenType tx.actions
  | _, _ => InsertionMap.empty

end ShapePolicy

/-- The number a decimal text stands for. -/
def decimalValue (digits : List Char) : Int :=
  digits.foldl (fun value digit => 10 * value + (digit.toNat - '0'.toNat : Nat)) 0

def utxoValue (value : UtxoValue) (what : String) : Except String Int :=
  match value with
  | .bigint value | .number value => .ok value
  | .text text =>
    if !text.toList.isEmpty && text.toList.all isDigit then .ok (decimalValue text.toList)
    else refuseSponsoring (what ++ " carries a value that is not readable")
  | .unreadable => refuseSponsoring (what ++ " carries a value that is not readable")

/-- The imbalance of an unshielded token type; none when the segment never touched it. -/
def ledgerImbalance (balance : LedgerBalance) (type : String) : Except String (Option Int) :=
  match balance.find? fun entry => entry.1.tag = "unshielded" && bareHex entry.1.raw = type with
  | none => .ok none
  | some entry =>
    (utxoValue entry.2 ("the ledger balance of " ++ sliceText type 16 ++ "…")).map some

/-- Payouts the called contracts require, by raw token type and recipient. -/
abbrev ClaimedPayouts := InsertionMap String Int

def payoutKey (type address : String) : String := type ++ ":" ++ address

def claimedPayouts (actions : List TxAction) (contracts : List String) : ClaimedPayouts :=
  InsertionMap.empty.depositAll <| actions.flatMap fun action =>
    if action.addressText ∉ contracts then []
    else (action.effects.flatMap fun effects =>
        effects.claimedUnshieldedSpends.getD []).filterMap fun spend =>
      match spend.2 with
      | none => none
      | some amount =>
        if spend.1.tag ≠ "unshielded" || amount ≤ 0 then none
        else some (payoutKey (bareHex spend.1.raw) (bareHex spend.1.recipient), amount)

/-- What the check of an unshielded offer is given besides the offer. -/
structure UnshieldedContext where
  policy : ShapePolicy
  /-- The contracts the same intent calls. -/
  calledContracts : List String
  /-- The balance of the offer's segment. -/
  balance : LedgerBalance

def UnshieldedContext.allowedType (ctx : UnshieldedContext) (type : String) : Bool :=
  ctx.policy.nightType = some type || type ∈ ctx.policy.unshieldedTypes

/-- What the inputs of an offer come to: the net by token type, and the spenders' addresses. -/
structure InputTotals where
  sums : InsertionMap String Int
  ownerAddresses : List String

def addInput (ctx : UnshieldedContext) (key : String) (totals : InputTotals) (input : Utxo) :
    Except String InputTotals :=
  let type := bareHex input.type
  let owner := bareHex input.owner
  if !ctx.allowedType type then
    refuseSponsoring (key ++ " spends token type " ++ sliceText type 16 ++
      "…, which is neither NIGHT nor in allowedUnshieldedTokenTypes")
  else if !isLowerHex64 owner then
    refuseSponsoring (key ++ " has an input without a readable owner key")
  else if owner ∈ ctx.policy.sponsorInputKeys.getD [] then
    refuseSponsoring (key ++ " spends a UTXO of the sponsor itself")
  else do
    let value ← utxoValue input.value (key ++ " input")
    pure {
      sums := totals.sums.deposit type value
      ownerAddresses := totals.ownerAddresses ++
        (ctx.policy.addressFromKey.map fun addressFromKey =>
          bareHex (addressFromKey owner)).toList }

/-- The check of the outputs so far. -/
structure OutputTotals where
  sums : InsertionMap String Int
  claimed : ClaimedPayouts
  moves : List UnshieldedMove
  payouts : Nat

def addOutput (ctx : UnshieldedContext) (key : String) (ownerAddresses : List String)
    (totals : OutputTotals) (output : Utxo) : Except String OutputTotals :=
  let type := bareHex output.type
  let recipient := bareHex output.owner
  if !ctx.allowedType type then
    refuseSponsoring (key ++ " creates token type " ++ sliceText type 16 ++
      "…, which is neither NIGHT nor in allowedUnshieldedTokenTypes")
  else if !isLowerHex64 recipient then
    refuseSponsoring (key ++ " has an output without a readable owner")
  else do
    let value ← utxoValue output.value (key ++ " output")
    let left := totals.claimed.left (payoutKey type recipient)
    -- A payout the called contract requires. The contract funds it, so it stays out of the net.
    if value ≤ left then
      pure { totals with
        claimed := totals.claimed.set (payoutKey type recipient) (left - value)
        sums := totals.sums.deposit type 0
        payouts := totals.payouts + 1 }
    else
      let sums := totals.sums.deposit type (-value)
      if recipient ∈ ctx.calledContracts || ctx.policy.listedContract recipient then
        pure { totals with
          sums := sums
          moves := totals.moves ++ [⟨type, toString value, recipient⟩] }
      else if recipient ∈ ownerAddresses then pure { totals with sums := sums }
      else
        refuseSponsoring (key ++ " pays " ++ sliceText recipient 16 ++
          "…, which is neither a sponsorable contract nor an owner of its inputs, and no " ++
          "called contract claims that payout")

/-- The net of one token type; what is left over goes into the one called contract. -/
def settleNet (ctx : UnshieldedContext) (key : String) (moves : List UnshieldedMove)
    (sum : String × Int) : Except String (List UnshieldedMove) :=
  let short := sliceText sum.1 16
  if sum.2 < 0 then
    refuseSponsoring (key ++ " creates more of token type " ++ short ++
      "… than it spends, beyond what the called contracts claim")
  else do
    match ← ledgerImbalance ctx.balance sum.1 with
    | none =>
      refuseSponsoring ("the ledger reports no balance of token type " ++ short ++ "… for " ++ key)
    | some imbalance =>
      if imbalance ≠ 0 then
        refuseSponsoring (key ++ " does not balance in token type " ++ short ++
          "…: the offer and the calls' intake leave a " ++
          (if 0 < imbalance then "surplus" else "deficit") ++ " of " ++
          toString imbalance.natAbs)
      else if sum.2 = 0 then pure moves
      else
        match ctx.calledContracts with
        | [contract] => pure (moves ++ [⟨sum.1, toString sum.2, contract⟩])
        | called =>
          refuseSponsoring (key ++ " pays " ++ toString sum.2 ++ " of token type " ++ short ++
            "… into " ++ toString called.length ++
            " called contracts; one contract per intent takes value")

/-- Gives what the offer moves into contracts, and the payouts still to be covered. -/
def checkUnshieldedOffer (offer : UnshieldedOffer) (key : String) (ctx : UnshieldedContext)
    (claimed : ClaimedPayouts) : Except String (List UnshieldedMove × ClaimedPayouts) :=
  match offer.inputs, offer.outputs with
  | .value (.array inputs), .value (.array outputs) => do
      let spent ← inputs.foldlM (addInput ctx key) ⟨InsertionMap.empty, []⟩
      let paid ← outputs.foldlM (addOutput ctx key spent.ownerAddresses)
        ⟨spent.sums, claimed, [], 0⟩
      if inputs.isEmpty && paid.payouts == 0 then
        refuseSponsoring (key ++ " spends nothing and pays out nothing a called contract claims")
      else
        let moves ← paid.sums.entries.foldlM (settleNet ctx key) paid.moves
        pure (moves, paid.claimed)
  | _, _ => refuseSponsoring (key ++ " is not inspectable (no inputs/outputs)")

def ledgerBalance (tx : CallerTx) (segment : Nat) : Except String LedgerBalance :=
  match tx.imbalances with
  | none => refuseSponsoring "transaction structure is not inspectable (no imbalances)"
  | some imbalances =>
    match imbalances segment with
    | .ok balance => .ok balance
    | .error message =>
      refuseSponsoring ("the balance of segment " ++ toString segment ++
        " is not readable (" ++ sliceText message 80 ++ ")")

/-! ## Actions -/

/-- What the check has collected so far. -/
structure ShapeProgress where
  calls : List ContractCall
  deployCount : Int
  moves : List UnshieldedMove

/-- An action without an entry point; a deploy is let through when the policy allows it. -/
def checkNonCall (limits : SponsorLimits) (policy : ShapePolicy) (byteLength : Nat)
    (progress : ShapeProgress) (action : TxAction) : Except String ShapeProgress :=
  let isDeploy := action.kind = "ContractDeploy" ||
    (action.initialState && decide (action.address ≠ .undefined))
  if action.kind = "MaintenanceUpdate" || action.updates then
    refuseSponsoring "transaction carries a contract maintenance update (never sponsorable)"
  else if isDeploy && policy.allowDeploy then
    if action.addressText = "" then
      refuseSponsoring "deploy action carries no contract address"
    else if policy.maxDeploysPerTx < progress.deployCount + 1 then
      refuseSponsoring ("transaction carries " ++ toString (progress.deployCount + 1) ++
        "+ contract deploys; at most " ++ toString policy.maxDeploysPerTx ++
        " per sponsored transaction")
    else if limits.maxDeployBytes < byteLength then
      refuseSponsoring ("deploy transaction is " ++ toString byteLength ++ "B, over the " ++
        toString limits.maxDeployBytes ++
        "B deploy budget (NIGHTGATE_SPONSOR_MAX_DEPLOY_BYTES)")
    else .ok { progress with
      deployCount := progress.deployCount + 1
      calls := progress.calls ++ [⟨action.addressText, DEPLOY_ENTRY_POINT⟩] }
  else
    refuseSponsoring ("transaction carries a non-call action (" ++ action.kind ++ ")" ++
      if isDeploy then
        "; deploys need allowDeploy on the grant and NIGHTGATE_SPONSOR_ALLOW_DEPLOY on the server"
      else "")

/-- A call of `circuit` on a contract. -/
def checkCall (policy : ShapePolicy) (address circuit : String) : Except String Unit :=
  if !(policy.allowedContracts.getD []).isEmpty &&
      !decide (address ∈ policy.allowedContracts.getD []) then
    refuseSponsoring ("contract " ++ sliceText address 16 ++ " is not in the allow-list")
  else if !policy.isOwn address && !policy.circuitSponsorable address circuit then
    refuseSponsoring ("circuit '" ++ circuit ++ "' is not sponsorable on contract " ++
      sliceText address 16)
  else .ok ()

/-- `new TextDecoder().decode` is a parameter. -/
def actionName (decode : List UInt8 → String) (action : TxAction) : String :=
  match action.entryPoint with
  | .text name => name
  | .bytes utf8 => decode utf8
  | .absent => ""

section Check

variable (limits : SponsorLimits) (decode : List UInt8 → String) (policy : ShapePolicy)
  (byteLength : Nat)

/-- One action, with the contracts its intent called before. -/
def checkAction (progress : ShapeProgress × List String) (action : TxAction) :
    Except String (ShapeProgress × List String) :=
  let name := actionName decode action
  if name = "" then do
    let next ← checkNonCall limits policy byteLength progress.1 action
    pure (next, progress.2)
  else do
    let address := action.addressText
    checkCall policy address name
    pure ({ progress.1 with calls := progress.1.calls ++ [⟨address, name⟩] },
      if address ∈ progress.2 then progress.2 else progress.2 ++ [address])

/-- The unshielded offers of an intent that are not empty, each with its segment. -/
def TxIntent.unshieldedOffers (intent : TxIntent) (segmentId : Nat) :
    List (String × Nat × UnshieldedOffer) :=
  [("guaranteedUnshieldedOffer", 0, intent.guaranteedUnshieldedOffer),
    ("fallibleUnshieldedOffer", segmentId, intent.fallibleUnshieldedOffer)].filterMap
      fun slot => slot.2.2.bind fun offer =>
        if offerNonEmpty [offer.inputs.extent Collection.measure,
            offer.outputs.extent Collection.measure] then
          some (slot.1, slot.2.1, offer)
        else none

/-- One unshielded offer, with the moves collected and the payouts left. -/
def checkUnshielded (tx : CallerTx) (calledContracts : List String)
    (progress : List UnshieldedMove × ClaimedPayouts) (slot : String × Nat × UnshieldedOffer) :
    Except String (List UnshieldedMove × ClaimedPayouts) := do
  let balance ← ledgerBalance tx slot.2.1
  let checked ← checkUnshieldedOffer slot.2.2 slot.1 ⟨policy, calledContracts, balance⟩ progress.2
  pure (progress.1 ++ checked.1, checked.2)

def checkIntent (tx : CallerTx) (progress : ShapeProgress) (segment : Nat × TxIntent) :
    Except String ShapeProgress :=
  let offers := segment.2.unshieldedOffers segment.1
  if segment.2.dustActions.any fun dust => offerNonEmpty [dust.spends, dust.registrations] then
    refuseSponsoring "transaction carries dustActions alongside its contract calls"
  else
    match offers, policy.allowUnshieldedOffers with
    | first :: _, false =>
      refuseSponsoring ("transaction carries " ++ first.1 ++
        " alongside its contract calls; moving unshielded tokens needs allowUnshieldedOffers " ++
        "on the grant and NIGHTGATE_SPONSOR_ALLOW_UNSHIELDED_OFFERS on the server")
    | _, _ => do
        let checked ← segment.2.actions.foldlM (checkAction limits decode policy byteLength)
          (progress, [])
        match offers, checked.2 with
        | first :: _, [] =>
          refuseSponsoring (first.1 ++ " sits in an intent without a contract call")
        | _, calledContracts => do
            let settled ← offers.foldlM (checkUnshielded policy tx calledContracts)
              ([], claimedPayouts segment.2.actions calledContracts)
            pure { checked.1 with moves := checked.1.moves ++ settled.1 }

/-- Gives the sponsored calls, and what the unshielded offers move into contracts. -/
def checkSponsorableShape (tx : CallerTx) :
    Except String (List ContractCall × List UnshieldedMove) :=
  if limits.maxTxBytes < byteLength then
    refuseSponsoring ("transaction is " ++ toString byteLength ++ "B, over the " ++
      toString limits.maxTxBytes ++ "B budget (NIGHTGATE_SPONSOR_MAX_TX_BYTES)")
  else
    match tx.intents with
    | none => refuseSponsoring "transaction structure is not inspectable (no intents)"
    | some intents => do
        let _ ← tx.parts.foldlM (checkPart policy.offerRules) (policy.mintBudget tx)
        let checked ← intents.foldlM (checkIntent limits decode policy byteLength tx) ⟨[], 0, []⟩
        if checked.calls.isEmpty then
          refuseSponsoring "the transaction carries no contract call"
        else pure (checked.calls, checked.moves)

end Check

end Nightgate.Midnight
