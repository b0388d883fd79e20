import Nightgate.Library.Json

/-!
# The announced intent

Before a broadcast the worker announces what it is about to send. The client rebuilds the
announcement field by field for the caller's hook, and the hook stores what it got as the
row's `submitIntentData`, which later phases parse. Each of these hops is a function here;
the port between worker and client hands an announcement over as it is.
-/

namespace Nightgate.Midnight

open Library

structure SubmitIntentSegment where
  segment : Nat
  calls : List String
  deriving DecidableEq

/-- Unshielded tokens a call moves into a contract. -/
structure UnshieldedMove where
  type : String
  amount : String
  toAddress : String
  deriving DecidableEq

/-- The declared terms of a sponsored transfer. -/
structure DeclaredTransfer where
  tokenType : String
  amount : String
  deriving DecidableEq

/-- `SubmitIntent` of the worker and `SubmitIntentInfo` of the client; an undefined field
is `none`. -/
structure SubmitIntent where
  txHash : String
  contractAddress : Option String := none
  circuits : Option (List String) := none
  note : Option String := none
  sponsorAccountId : Option String := none
  deployed : Option (List String) := none
  ttl : Option String := none
  segments : Option (List SubmitIntentSegment) := none
  minted : Option (List String) := none
  nullifiers : Option (List String) := none
  unshielded : Option (List UnshieldedMove) := none
  transfer : Option DeclaredTransfer := none
  deriving DecidableEq

/-- A contract call of a sponsored transaction. -/
structure ContractCall where
  address : String
  entryPoint : String
  deriving DecidableEq

/-- A proven transaction: its identifiers, and its contract calls in apply order with
their segments. -/
structure ProvenTx where
  identifiers : List String
  orderedCalls : List (Nat × String)

/-- `String(tx.identifiers().at(-1))`. -/
def ProvenTx.lastIdentifier (tx : ProvenTx) : String :=
  tx.identifiers.getLast?.getD "undefined"

/-- Adds a call to the entry of its segment, or a new entry at the end. -/
def addCall (call : Nat × String) : List SubmitIntentSegment → List SubmitIntentSegment
  | [] => [⟨call.1, [call.2]⟩]
  | entry :: rest =>
    if entry.segment = call.1 then { entry with calls := entry.calls ++ [call.2] } :: rest
    else entry :: addCall call rest

/-- `callSegments`: the calls of each segment, for two or more calls. -/
def callSegments (tx : ProvenTx) : Option (List SubmitIntentSegment) :=
  if tx.orderedCalls.length < 2 then none
  else some (tx.orderedCalls.foldl (fun segments call => addCall call segments) [])

/-- The entry point a deploy is listed under. -/
def DEPLOY_ENTRY_POINT : String := "<deploy>"

def deployedOf (calls : List ContractCall) : List String :=
  (calls.filter fun call => call.entryPoint = DEPLOY_ENTRY_POINT).map ContractCall.address

/-- A field that is set only with elements. -/
def nonempty {α : Type} : List α → Option (List α)
  | [] => none
  | values => some values

/-- Who asked for a transaction of a job's own wallet. -/
inductive BoundCaller where
  /-- `TransactionSubmitter`, with the contract address of the job's shape. -/
  | submitter (shapeAddress : Option String)
  /-- A wallet operation of a session, which keeps no submission. -/
  | session
  deriving DecidableEq

/-- What the sponsor executor adds to an intent on its own. -/
structure SponsorRecord where
  feeSponsor : String
  grantId : Option String
  offerId : Option String

/-- What a worker path knows when it announces, and who called it. -/
inductive Announcement where
  /-- `submitWithDustGuard`, for a transaction of the job's own wallet. -/
  | bound (tx : ProvenTx) (contractAddress : Option String) (circuits : Option (List String))
      (note ttl : Option String) (caller : BoundCaller)
  /-- `sponsorAndSubmitFinalized`. -/
  | finalized (tx : ProvenTx) (calls : Option (List ContractCall))
      (sponsorAccountId ttl : String) (minted : List String)
      (unshielded : List UnshieldedMove) (record : SponsorRecord)
  /-- `sponsorUnboundTx`. -/
  | unbound (tx : ProvenTx) (contractAddress : Option String) (calls : List ContractCall)
      (note sponsorAccountId ttl : String) (minted nullifiers : List String)
      (unshielded : List UnshieldedMove) (transfer : Option DeclaredTransfer)
      (record : SponsorRecord)

/-- The announcement each path posts. -/
def Announcement.intent : Announcement → SubmitIntent
  | .bound tx contractAddress circuits note ttl _ => {
      txHash := tx.lastIdentifier
      contractAddress, circuits, note, ttl
      segments := callSegments tx }
  | .finalized tx calls sponsorAccountId ttl minted unshielded _ => {
      txHash := tx.lastIdentifier
      contractAddress := calls.bind fun calls => calls.head?.map ContractCall.address
      circuits := calls.map fun calls => calls.map ContractCall.entryPoint
      sponsorAccountId := some sponsorAccountId
      deployed := some ((calls.map deployedOf).getD [])
      ttl := some ttl
      segments := callSegments tx
      minted := nonempty minted
      unshielded := nonempty unshielded }
  | .unbound tx contractAddress calls note sponsorAccountId ttl minted nullifiers unshielded
      transfer _ => {
      txHash := tx.lastIdentifier
      contractAddress
      circuits := some (calls.map ContractCall.entryPoint)
      note := some note
      sponsorAccountId := some sponsorAccountId
      deployed := some (deployedOf calls)
      ttl := some ttl
      segments := callSegments tx
      minted := nonempty minted
      nullifiers := nonempty nullifiers
      unshielded := nonempty unshielded
      transfer }

/-- The intent the submit-intent handler rebuilds for the hook. -/
def submitIntentInfo (message : SubmitIntent) : SubmitIntent where
  txHash := message.txHash
  contractAddress := message.contractAddress
  circuits := message.circuits
  note := message.note
  sponsorAccountId := message.sponsorAccountId
  deployed := message.deployed
  ttl := message.ttl
  minted := message.minted.filter fun minted => minted ≠ []

/-! ## The hooks -/

def SubmitIntentSegment.toJson (entry : SubmitIntentSegment) : Json :=
  .obj [("segment", .num entry.segment), ("calls", .strings entry.calls)]

def UnshieldedMove.toJson (move : UnshieldedMove) : Json :=
  .obj [("type", .str move.type), ("amount", .str move.amount), ("to", .str move.toAddress)]

def DeclaredTransfer.toJson (transfer : DeclaredTransfer) : Json :=
  .obj [("tokenType", .str transfer.tokenType), ("amount", .str transfer.amount)]

/-- A string that a truthiness test lets through. -/
def truthy (text : Option String) : Option String :=
  text.filter (· ≠ "")

/-- A list with elements. -/
def filled {α : Type} (values : Option (List α)) : Option (List α) :=
  values.filter fun values => !values.isEmpty

/-- A text or `null`. -/
def orNull : Option String → Json
  | none => .null
  | some text => .str text

/-- The coordinates `TransactionSubmitter` stores. -/
def boundCoordinates (intent : SubmitIntent) (shapeAddress : Option String) : Json :=
  .obj ( [("channel", .str "bound"), ("circuits", .strings (intent.circuits.getD [])),
      ("contractAddress", orNull (intent.contractAddress.or shapeAddress))] ++
    Json.optional "note" ((truthy intent.note).map .str) ++
    Json.optional "ttl" ((truthy intent.ttl).map .str) ++
    Json.optional "segments" ((filled intent.segments).map fun segments =>
      .arr (segments.map SubmitIntentSegment.toJson)))

/-- `deployed.map(String).filter(Boolean)`. -/
def deployedAddresses (intent : SubmitIntent) : List String :=
  (intent.deployed.getD []).filter (· ≠ "")

/-- The coordinates the sponsor executor stores. -/
def sponsorCoordinates (intent : SubmitIntent) (record : SponsorRecord) : Json :=
  .obj ( [("feeSponsor", .str record.feeSponsor),
      ("sponsorAccountId", orNull intent.sponsorAccountId),
      ("circuits", .strings (intent.circuits.getD [])),
      ("contractAddress", orNull intent.contractAddress)] ++
    Json.optional "note" ((truthy intent.note).map .str) ++
    Json.optional "ttl" ((truthy intent.ttl).map .str) ++
    Json.optional "segments" ((filled intent.segments).map fun segments =>
      .arr (segments.map SubmitIntentSegment.toJson)) ++
    Json.optional "deployed" ((filled (some (deployedAddresses intent))).map .strings) ++
    Json.optional "minted" ((filled intent.minted).map .strings) ++
    Json.optional "nullifiers" ((filled intent.nullifiers).map .strings) ++
    Json.optional "unshielded" ((filled intent.unshielded).map fun moves =>
      .arr (moves.map UnshieldedMove.toJson)) ++
    Json.optional "transfer" (intent.transfer.map DeclaredTransfer.toJson) ++
    Json.optional "offerId" ((truthy record.offerId).map .str) ++
    Json.optional "deployReservation" (
      match truthy record.grantId, deployedAddresses intent with
      | some grantId, _ :: _ =>
        some (.obj [("grantId", .str grantId), ("count", .num (deployedAddresses intent).length)])
      | _, _ => none))

/-- A `submitIntentData` column: empty, no JSON, or a JSON text. -/
inductive IntentData where
  | null
  | malformed
  | text (value : Json)

/-- The columns of the attempt row that a hook fills from the intent. -/
structure RecordedAttempt where
  txHash : String
  submitIntentData : IntentData

/-- The attempt row an announcement leaves, if its caller keeps one. -/
def Announcement.recorded (announcement : Announcement) : Option RecordedAttempt :=
  let info := submitIntentInfo announcement.intent
  match announcement with
  | .bound _ _ _ _ _ (.submitter shapeAddress) =>
    some ⟨info.txHash, .text (boundCoordinates info shapeAddress)⟩
  | .bound _ _ _ _ _ .session => none
  | .finalized _ _ _ _ _ _ record | .unbound _ _ _ _ _ _ _ _ _ _ record =>
    some ⟨info.txHash, .text (sponsorCoordinates info record)⟩

/-- `parseSubmitIntent`: missing or malformed data reads as no coordinates. -/
def parseSubmitIntent : IntentData → Json.Fields
  | .text (.obj fields) => fields
  | _ => []

/-- A parsed field, read as the type of `SubmitIntentCoordinates` says. -/
def readField {α : Type} (coordinates : Json.Fields) (name : String)
    (read : Json → Option α) : Option α :=
  (Json.get? name coordinates).bind read

def SubmitIntentSegment.ofJson? (value : Json) : Option SubmitIntentSegment := do
  let fields ← value.asFields?
  let segment ← readField fields "segment" Json.asNat?
  let calls ← readField fields "calls" (Json.asList? Json.asString?)
  return ⟨segment, calls⟩

def UnshieldedMove.ofJson? (value : Json) : Option UnshieldedMove := do
  let fields ← value.asFields?
  let type ← readField fields "type" Json.asString?
  let amount ← readField fields "amount" Json.asString?
  let toAddress ← readField fields "to" Json.asString?
  return ⟨type, amount, toAddress⟩

def DeclaredTransfer.ofJson? (value : Json) : Option DeclaredTransfer := do
  let fields ← value.asFields?
  let tokenType ← readField fields "tokenType" Json.asString?
  let amount ← readField fields "amount" Json.asString?
  return ⟨tokenType, amount⟩

/-! ## Round trips -/

@[simp] theorem SubmitIntentSegment.ofJson?_toJson (entry : SubmitIntentSegment) :
    SubmitIntentSegment.ofJson? entry.toJson = some entry := by
  cases entry
  simp [toJson, ofJson?, readField]

@[simp] theorem UnshieldedMove.ofJson?_toJson (move : UnshieldedMove) :
    UnshieldedMove.ofJson? move.toJson = some move := by
  cases move
  simp [toJson, ofJson?, readField]

@[simp] theorem DeclaredTransfer.ofJson?_toJson (transfer : DeclaredTransfer) :
    DeclaredTransfer.ofJson? transfer.toJson = some transfer := by
  cases transfer
  simp [toJson, ofJson?, readField]

/-- The intent as later phases read it from a row. -/
def parsedIntent (row : RecordedAttempt) : SubmitIntent :=
  let coordinates := parseSubmitIntent row.submitIntentData
  { txHash := row.txHash
    contractAddress := readField coordinates "contractAddress" Json.asString?
    circuits := readField coordinates "circuits" (Json.asList? Json.asString?)
    note := readField coordinates "note" Json.asString?
    sponsorAccountId := readField coordinates "sponsorAccountId" Json.asString?
    deployed := readField coordinates "deployed" (Json.asList? Json.asString?)
    ttl := readField coordinates "ttl" Json.asString?
    segments := readField coordinates "segments" (Json.asList? SubmitIntentSegment.ofJson?)
    minted := readField coordinates "minted" (Json.asList? Json.asString?)
    nullifiers := readField coordinates "nullifiers" (Json.asList? Json.asString?)
    unshielded := readField coordinates "unshielded" (Json.asList? UnshieldedMove.ofJson?)
    transfer := readField coordinates "transfer" DeclaredTransfer.ofJson? }

/-- An announced field is read with its value. -/
def ReadsBack {α : Type} (announced parsed : Option α) : Prop :=
  ∀ value, announced = some value → parsed = some value

/-- What is parsed has every field of an announced intent. A missing list of deploys reads
as an empty one. -/
structure Recorded (announced parsed : SubmitIntent) : Prop where
  txHash : parsed.txHash = announced.txHash
  contractAddress : ReadsBack announced.contractAddress parsed.contractAddress
  circuits : ReadsBack announced.circuits parsed.circuits
  note : ReadsBack announced.note parsed.note
  sponsorAccountId : ReadsBack announced.sponsorAccountId parsed.sponsorAccountId
  deployed : parsed.deployed.getD [] = announced.deployed.getD []
  ttl : ReadsBack announced.ttl parsed.ttl
  segments : ReadsBack announced.segments parsed.segments
  minted : ReadsBack announced.minted parsed.minted
  nullifiers : ReadsBack announced.nullifiers parsed.nullifiers
  unshielded : ReadsBack announced.unshielded parsed.unshielded
  transfer : ReadsBack announced.transfer parsed.transfer

/-- The hook gets the intent that was announced, and the row it leaves records it. -/
def Announcement.ArrivesWhole (announcement : Announcement) : Prop :=
  submitIntentInfo announcement.intent = announcement.intent ∧
    ∀ row, announcement.recorded = some row → Recorded announcement.intent (parsedIntent row)

@[simp] theorem asList?_segments (segments : List SubmitIntentSegment) :
    (Json.arr (segments.map SubmitIntentSegment.toJson)).asList?
      SubmitIntentSegment.ofJson? = some segments :=
  Json.asList?_arr SubmitIntentSegment.ofJson?_toJson segments

@[simp] theorem asList?_moves (moves : List UnshieldedMove) :
    (Json.arr (moves.map UnshieldedMove.toJson)).asList? UnshieldedMove.ofJson? = some moves :=
  Json.asList?_arr UnshieldedMove.ofJson?_toJson moves

@[simp] theorem asString?_orNull (text : Option String) :
    (orNull text).asString? = text := by
  cases text <;> rfl

variable {α : Type}

/-- A field written through `write` is read back by what inverts `write`. -/
theorem bind_map_read {write : α → Json} {read : Json → Option α}
    (reads : ∀ value, read (write value) = some value) (written : Option α) :
    (written.map write).bind read = written := by
  cases written with
  | none => rfl
  | some value => exact reads value

@[simp] theorem bind_map_str (text : Option String) :
    (text.map Json.str).bind Json.asString? = text :=
  bind_map_read Json.asString?_str text

@[simp] theorem bind_map_strings (values : Option (List String)) :
    (values.map Json.strings).bind (Json.asList? Json.asString?) = values :=
  bind_map_read Json.asList?_strings values

@[simp] theorem bind_map_segments (segments : Option (List SubmitIntentSegment)) :
    (segments.map fun segments => .arr (segments.map SubmitIntentSegment.toJson)).bind
      (Json.asList? SubmitIntentSegment.ofJson?) = segments :=
  bind_map_read asList?_segments segments

@[simp] theorem bind_map_moves (moves : Option (List UnshieldedMove)) :
    (moves.map fun moves => .arr (moves.map UnshieldedMove.toJson)).bind
      (Json.asList? UnshieldedMove.ofJson?) = moves :=
  bind_map_read asList?_moves moves

@[simp] theorem bind_map_transfer (transfer : Option DeclaredTransfer) :
    (transfer.map DeclaredTransfer.toJson).bind DeclaredTransfer.ofJson? = transfer :=
  bind_map_read DeclaredTransfer.ofJson?_toJson transfer

/-- What `TransactionSubmitter` stores, read back. -/
theorem parsedIntent_bound (txHash : String) (intent : SubmitIntent)
    (shapeAddress : Option String) :
    parsedIntent ⟨txHash, .text (boundCoordinates intent shapeAddress)⟩ = {
      txHash
      contractAddress := intent.contractAddress.or shapeAddress
      circuits := some (intent.circuits.getD [])
      note := truthy intent.note
      ttl := truthy intent.ttl
      segments := filled intent.segments } := by
  simp [parsedIntent, parseSubmitIntent, boundCoordinates, readField]

/-- What the sponsor executor stores, read back. -/
theorem parsedIntent_sponsor (txHash : String) (intent : SubmitIntent) (record : SponsorRecord) :
    parsedIntent ⟨txHash, .text (sponsorCoordinates intent record)⟩ = {
      txHash
      contractAddress := intent.contractAddress
      circuits := some (intent.circuits.getD [])
      note := truthy intent.note
      sponsorAccountId := intent.sponsorAccountId
      deployed := filled (some (deployedAddresses intent))
      ttl := truthy intent.ttl
      segments := filled intent.segments
      minted := filled intent.minted
      nullifiers := filled intent.nullifiers
      unshielded := filled intent.unshielded
      transfer := intent.transfer } := by
  simp [parsedIntent, parseSubmitIntent, sponsorCoordinates, readField]

@[simp] theorem readsBack_self (announced : Option α) :
    ReadsBack announced announced := fun _ equal => equal

@[simp] theorem readsBack_or (announced fallback : Option α) :
    ReadsBack announced (announced.or fallback) := by
  intro value equal
  simp [equal]

@[simp] theorem readsBack_getD (announced : Option α) (fallback : α) :
    ReadsBack announced (some (announced.getD fallback)) := by
  intro value equal
  simp [equal]

@[simp] theorem readsBack_truthy_iff (text : Option String) :
    ReadsBack text (truthy text) ↔ text ≠ some "" := by
  cases text with
  | none => simp [ReadsBack]
  | some value => simp [ReadsBack, truthy]

@[simp] theorem readsBack_filled_iff (values : Option (List α)) :
    ReadsBack values (filled values) ↔ values ≠ some [] := by
  cases values with
  | none => simp [ReadsBack]
  | some values => simp [ReadsBack, filled]

@[simp] theorem getD_filled (values : List α) : (filled (some values)).getD [] = values := by
  cases values <;> rfl

theorem filter_nonempty_eq_iff (texts : List String) :
    texts.filter (· ≠ "") = texts ↔ "" ∉ texts := by
  rw [List.filter_eq_self]
  constructor
  · intro kept listed
    simpa using kept "" listed
  · intro absent text listed
    have : text ≠ "" := fun empty => absent (empty ▸ listed)
    simpa using this

/-- What `TransactionSubmitter` stores has every field that is not announced empty. -/
theorem recorded_bound_iff (intent : SubmitIntent) (shapeAddress : Option String)
    (noSponsor : intent.sponsorAccountId = none) (noDeploys : intent.deployed = none)
    (noMinted : intent.minted = none) (noNullifiers : intent.nullifiers = none)
    (noUnshielded : intent.unshielded = none) (noTransfer : intent.transfer = none) :
    Recorded intent (parsedIntent ⟨intent.txHash, .text (boundCoordinates intent shapeAddress)⟩) ↔
      intent.note ≠ some "" ∧ intent.ttl ≠ some "" ∧ intent.segments ≠ some [] := by
  rw [parsedIntent_bound]
  constructor
  · intro recorded
    have note := recorded.note
    have ttl := recorded.ttl
    have segments := recorded.segments
    simp only [readsBack_truthy_iff, readsBack_filled_iff] at note ttl segments
    exact ⟨note, ttl, segments⟩
  · intro kept
    rcases kept with ⟨note, ttl, segments⟩
    constructor <;> simp_all

/-- What the sponsor executor stores has every field that is not announced empty. -/
theorem recorded_sponsor_iff (intent : SubmitIntent) (record : SponsorRecord) :
    Recorded intent (parsedIntent ⟨intent.txHash, .text (sponsorCoordinates intent record)⟩) ↔
      (intent.note ≠ some "" ∧ intent.ttl ≠ some "" ∧ "" ∉ intent.deployed.getD []) ∧
        intent.segments ≠ some [] ∧ intent.minted ≠ some [] ∧ intent.nullifiers ≠ some [] ∧
          intent.unshielded ≠ some [] := by
  have deploys := filter_nonempty_eq_iff (intent.deployed.getD [])
  rw [parsedIntent_sponsor]
  constructor
  · intro recorded
    rcases recorded with ⟨_, _, _, note, _, deployed, ttl, segments, minted, nullifiers,
      unshielded, _⟩
    simp only [readsBack_truthy_iff, readsBack_filled_iff, getD_filled, deployedAddresses,
      deploys] at note deployed ttl segments minted nullifiers unshielded
    exact ⟨⟨note, ttl, deployed⟩, segments, minted, nullifiers, unshielded⟩
  · intro kept
    rcases kept with ⟨⟨note, ttl, deployed⟩, segments, minted, nullifiers, unshielded⟩
    constructor <;> simp_all [getD_filled, deployedAddresses]

theorem filter_ne_nil_eq_iff [DecidableEq α] (values : Option (List α)) :
    (values.filter fun values => values ≠ []) = values ↔ values ≠ some [] := by
  cases values with
  | none => simp
  | some values =>
    by_cases empty : values = []
    · simp [empty]
    · simp [empty]

/-- The client's intent is the announced one exactly without the fields it leaves out. -/
theorem submitIntentInfo_eq_iff (intent : SubmitIntent) :
    submitIntentInfo intent = intent ↔
      intent.segments = none ∧ intent.minted ≠ some [] ∧ intent.nullifiers = none ∧
        intent.unshielded = none ∧ intent.transfer = none := by
  have minted := filter_ne_nil_eq_iff intent.minted
  cases intent with
  | mk txHash contractAddress circuits note sponsorAccountId deployed ttl segments minted
      nullifiers unshielded transfer =>
      simp only [submitIntentInfo, SubmitIntent.mk.injEq, true_and, minted]
      constructor
      · intro same
        rcases same with ⟨noSegments, minted, noNullifiers, noUnshielded, noTransfer⟩
        exact ⟨noSegments.symm, minted, noNullifiers.symm, noUnshielded.symm, noTransfer.symm⟩
      · intro absent
        rcases absent with ⟨noSegments, minted, noNullifiers, noUnshielded, noTransfer⟩
        exact ⟨noSegments.symm, minted, noNullifiers.symm, noUnshielded.symm, noTransfer.symm⟩

theorem callSegments_eq_none_iff (tx : ProvenTx) :
    callSegments tx = none ↔ tx.orderedCalls.length < 2 := by
  simp only [callSegments]
  split
  next few => simp [few]
  next many => simp [many]

@[simp] theorem nonempty_ne_some_nil (values : List α) :
    nonempty values ≠ some [] := by
  cases values <;> simp [nonempty]

@[simp] theorem nonempty_eq_none_iff (values : List α) :
    nonempty values = none ↔ values = [] := by
  cases values <;> simp [nonempty]

/-- A transaction of fewer than two calls, announced with none of the fields the client
leaves out, and with no empty text that the caller's hook would leave out. -/
def Announcement.Plain : Announcement → Prop
  | .bound tx _ _ note ttl caller =>
    tx.orderedCalls.length < 2 ∧ (caller = .session ∨ note ≠ some "" ∧ ttl ≠ some "")
  | .finalized tx calls _ ttl _ unshielded _ =>
    tx.orderedCalls.length < 2 ∧ unshielded = [] ∧ ttl ≠ "" ∧ "" ∉ (calls.map deployedOf).getD []
  | .unbound tx _ calls note _ ttl _ nullifiers unshielded transfer _ =>
    tx.orderedCalls.length < 2 ∧ nullifiers = [] ∧ unshielded = [] ∧ transfer = none ∧
      note ≠ "" ∧ ttl ≠ "" ∧ "" ∉ deployedOf calls

instance (announcement : Announcement) : Decidable announcement.Plain := by
  cases announcement <;> exact inferInstanceAs (Decidable (_ ∧ _))

/-- An announcement arrives whole when the client drops nothing and the row its caller
stores from the announced intent records it. -/
theorem arrivesWhole_iff (announcement : Announcement)
    (store : SubmitIntent → Option RecordedAttempt)
    (stored : announcement.recorded = store (submitIntentInfo announcement.intent)) :
    announcement.ArrivesWhole ↔ submitIntentInfo announcement.intent = announcement.intent ∧
        ∀ row, store announcement.intent = some row →
          Recorded announcement.intent (parsedIntent row) := by
  simp only [Announcement.ArrivesWhole, stored]
  constructor
  · intro whole
    have same := whole.1
    rw [same] at whole
    exact ⟨same, whole.2⟩
  · intro whole
    have same := whole.1
    rw [same]
    exact ⟨rfl, whole.2⟩

/-- Exactly plain announcements arrive whole. -/
theorem arrives_whole_iff_plain (announcement : Announcement) :
    announcement.ArrivesWhole ↔ announcement.Plain := by
  cases announcement with
  | bound tx contractAddress circuits note ttl caller =>
    cases caller with
    | submitter shapeAddress =>
      rw [arrivesWhole_iff _
          (fun intent => some ⟨intent.txHash, .text (boundCoordinates intent shapeAddress)⟩)
          rfl, submitIntentInfo_eq_iff]
      simp only [Option.some.injEq, forall_eq']
      rw [recorded_bound_iff _ _ rfl rfl rfl rfl rfl rfl]
      simp only [Announcement.intent, Announcement.Plain]
      rw [← callSegments_eq_none_iff]
      constructor
      · intro whole
        rcases whole with ⟨⟨few, _⟩, note, ttl, _⟩
        exact ⟨few, Or.inr ⟨note, ttl⟩⟩
      · intro plain
        rcases plain with ⟨few, session | texts⟩
        · cases session
        · simp [few, texts]
    | session =>
      rw [arrivesWhole_iff _ (fun _ => none) rfl, submitIntentInfo_eq_iff]
      simp [Announcement.intent, Announcement.Plain, callSegments_eq_none_iff]
  | finalized tx calls sponsorAccountId ttl minted unshielded record =>
    rw [arrivesWhole_iff _
        (fun intent => some ⟨intent.txHash, .text (sponsorCoordinates intent record)⟩) rfl,
      submitIntentInfo_eq_iff]
    simp only [Option.some.injEq, forall_eq', recorded_sponsor_iff]
    simp only [Announcement.intent, Announcement.Plain]
    rw [← callSegments_eq_none_iff]
    constructor
    · intro whole
      rcases whole with ⟨⟨few, _, _, unshielded, _⟩, ⟨_, ttl, deployed⟩, _⟩
      exact ⟨few, (nonempty_eq_none_iff _).1 unshielded, by simpa using ttl, deployed⟩
    · intro plain
      rcases plain with ⟨few, unshielded, ttl, deployed⟩
      subst unshielded
      simpa [few, ttl] using deployed
  | unbound tx contractAddress calls note sponsorAccountId ttl minted nullifiers unshielded
      transfer record =>
      rw [arrivesWhole_iff _
          (fun intent => some ⟨intent.txHash, .text (sponsorCoordinates intent record)⟩) rfl,
        submitIntentInfo_eq_iff]
      simp only [Option.some.injEq, forall_eq', recorded_sponsor_iff]
      simp only [Announcement.intent, Announcement.Plain]
      rw [← callSegments_eq_none_iff]
      constructor
      · intro whole
        rcases whole with ⟨⟨few, _, nullifiers, unshielded, transfer⟩, ⟨note, ttl, deployed⟩, _⟩
        exact ⟨few, (nonempty_eq_none_iff _).1 nullifiers,
          (nonempty_eq_none_iff _).1 unshielded, transfer, by simpa using note,
          by simpa using ttl, deployed⟩
      · intro plain
        rcases plain with ⟨few, nullifiers, unshielded, transfer, note, ttl, deployed⟩
        subst nullifiers unshielded transfer
        simpa [few, note, ttl] using deployed

/-- The segments of a batch of two calls do not reach the hook. -/
theorem batch_segments_lost :
    ¬ Announcement.ArrivesWhole (.bound ⟨["id"], [(1, "issue"), (2, "retract")]⟩
      (some "contract") (some ["issue", "retract"]) none none (.submitter none)) := by
  intro whole
  have same := whole.1
  revert same
  decide

end Nightgate.Midnight
