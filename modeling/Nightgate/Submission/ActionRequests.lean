import Nightgate.Submission.ContractCommands
import Nightgate.Submission.OfferFile

/-!
# Submitting actions

Each action checks its arguments, derives the command of its job from them, and lists the fields
that the fingerprint of the job is taken of. The list is written out beside the command. Arguments
come as their types have it; an integer that is 64 bits wide is an integer, the threshold a text.
-/

namespace Nightgate.Submission

open Library

/-- The first check that fails, with its message. -/
def firstRejection (checks : List (Option String)) : Option String := checks.findSome? id

def need (holds : Bool) (message : String) : Option String :=
  if holds then none else some message

def rejectionOf {Value : Type} : Except String Value → Option String
  | .ok _ => none
  | .error message => some message

/-- An argument that is there and not empty. -/
def Arg.given (arg : Arg String) : Bool := arg.get?.any (· ≠ "")

/-- `String(arg)`. -/
def Arg.text : Arg String → String
  | .undefined => "undefined"
  | .null => "null"
  | .value text => text

def required (arg : Arg String) (name : String) : Option String :=
  need arg.given (name ++ " is required")

/-- Code from elsewhere: the case mapping, the hashes, the attester of a session, the width of a
registered contract, and the path of a value in the set built with the contract's circuits. -/
structure SubmissionServices where
  toLowerCase : String → String
  blake2b256Hex : String → String
  sha256Hex : String → String
  attesterIdForSession : String → String
  slotWidthOf : String → Nat
  membershipPathFor : String → List String → String → Except String (Option (String × SetProof))

def DEFAULT_ATTESTATION_VAULT_REF : String := "attestation-vault"

def vaultRef (compiledRef : Arg String) : String :=
  if compiledRef.given then compiledRef.text else DEFAULT_ATTESTATION_VAULT_REF

def CLAIM_MAX_LIFETIME_S : Int := 5 * 365 * 24 * 60 * 60

def UINT64_MAX : Int := 2 ^ 64 - 1

def INT64_MAX : Int := 9223372036854775807

def SET_DEPTH : Nat := 6

def VALUE_EXCEEDS : String := "exceeds Uint<64>"

def THRESHOLD_EXCEEDS : String := "exceeds the recorded range (at most 9223372036854775807)"

/-- The rejection of `parseValidUntil`. -/
def validUntilError (now : Int) : Arg Int → Option String
  | .value v =>
    if v ≤ now + 60 then some "validUntil must lie at least a minute in the future"
    else if v > now + CLAIM_MAX_LIFETIME_S then
      some ("validUntil may lie at most " ++ toString CLAIM_MAX_LIFETIME_S ++
        " seconds (5 years) ahead; the vault refuses longer claims")
    else none
  | _ => none

def radixDigit (radix : Nat) (c : Char) : Option Nat :=
  let value :=
    if '0' ≤ c ∧ c ≤ '9' then c.toNat - '0'.toNat
    else if 'a' ≤ c ∧ c ≤ 'f' then c.toNat - 'a'.toNat + 10
    else if 'A' ≤ c ∧ c ≤ 'F' then c.toNat - 'A'.toNat + 10
    else radix
  if value < radix then some value else none

def radixValue (radix : Nat) (digits : List Char) : Option Int :=
  if digits = [] then none
  else
    (digits.mapM (radixDigit radix)).map fun values =>
      values.foldl (fun total value => total * radix + value) 0

/-- `BigInt(text)`, none where it throws. -/
def parseBigInt (text : String) : Option Int :=
  match trim text.toList with
  | [] => some 0
  | '0' :: 'x' :: digits | '0' :: 'X' :: digits => radixValue 16 digits
  | '0' :: 'o' :: digits | '0' :: 'O' :: digits => radixValue 8 digits
  | '0' :: 'b' :: digits | '0' :: 'B' :: digits => radixValue 2 digits
  | '-' :: digits => (radixValue 10 digits).map fun value => -value
  | '+' :: digits => radixValue 10 digits
  | digits => radixValue 10 digits

def readUnsignedArg (raw : Arg String) (name : String) (max : Int) (exceeds : String) :
    Except String Int :=
  if raw.given then
    match parseBigInt raw.text with
    | none => .error (name ++ " must be an integer (decimal string)")
    | some n =>
      if n < 0 then .error (name ++ " must be a non-negative integer")
      else if n > max then .error (name ++ " " ++ exceeds)
      else .ok n
  else .error (name ++ " is required")

/-- A number that was read. -/
def numberText (read : Except String Int) : String :=
  match read with
  | .ok n => String.ofList (Json.decimal n)
  | .error _ => ""

/-- `HEX64_ANY_CASE_RE`. -/
def isHex64 (text : String) : Bool :=
  text.toList.length = 64 && text.toList.all fun c => (radixDigit 16 c).isSome

/-! ## Predicates and paths -/

inductive PredicateKind where
  | numeric
  | equality
  | membership
  | integrity
  | diff
  deriving DecidableEq

structure ParsedPredicate where
  kind : PredicateKind
  opCode : Option Nat

def parsePredicate (literal : String) : Option ParsedPredicate :=
  if literal = "lessOrEqual" then some ⟨.numeric, some 0⟩
  else if literal = "greaterOrEqual" then some ⟨.numeric, some 1⟩
  else if literal = "bytesEquality" then some ⟨.equality, none⟩
  else if literal = "setMembership" then some ⟨.membership, none⟩
  else if literal = "documentIntegrity" then some ⟨.integrity, none⟩
  else if literal = "documentDiff" then some ⟨.diff, none⟩
  else none

section Services

variable (services : SubmissionServices)

/-- `?.toLowerCase()`. -/
def lowerArg (arg : Arg String) : Option String := arg.get?.map services.toLowerCase

def depthOf (compiledRef : Arg String) : Nat :=
  Nat.log2 (services.slotWidthOf (vaultRef compiledRef))

/-- `readInclusionPath`. -/
def readInclusionPath (siblings : Arg (List String)) (dirs : Arg (List Bool)) (depth : Nat)
    (siblingsName dirsName : String) : Except String SetProof :=
  let sibs := siblings.get?.getD []
  let ds := dirs.get?.getD []
  if sibs.length ≠ depth then
    .error (siblingsName ++ " must be an array of " ++ toString depth ++ " hashes")
  else if ds.length ≠ depth then
    .error (dirsName ++ " must be an array of " ++ toString depth ++ " booleans")
  else if sibs.any fun s => !isHex64 s then
    .error (siblingsName ++ " entries must be 64 hex chars (32 bytes)")
  else .ok ⟨sibs.map services.toLowerCase, ds⟩

/-- A path that was read. -/
def pathOf (read : Except String SetProof) : SetProof :=
  match read with
  | .ok path => path
  | .error _ => ⟨[], []⟩

/-- `resolveAttester`. -/
def resolveAttester (sessionId requested : Arg String) : String :=
  if requested.given then services.toLowerCase requested.text
  else services.attesterIdForSession sessionId.text

def attesterRejection (sessionId requested : Arg String) (anchorsRoot : Bool) : Option String :=
  need (!anchorsRoot || resolveAttester services sessionId requested =
    services.attesterIdForSession sessionId.text)
    ("a content root can only be anchored under the session's own attester id; " ++
      "omit attesterId or drop contentRoot")

/-- What an action hands to `startJob`. The command names the rows by generated ids. -/
structure ActionJob where
  kind : String
  sessionId : String
  idempotencyKey : Arg String
  /-- `idempotencyPayload`, or the request. -/
  payload : Json
  command : (Nat → String) → ContractCommandV1

/-- What every action takes. -/
structure SubmissionArgs where
  sessionId : Arg String
  contractAddress : Arg String
  compiledArtifactRef : Arg String
  idempotencyKey : Arg String
  sponsorSessionId : Arg String

def accept (checks : List (Option String)) (job : ActionJob) : Except String ActionJob :=
  match firstRejection checks with
  | some message => .error message
  | none => .ok job

/-- `sponsor?.sponsorSessionId`. -/
def SubmissionArgs.feeSponsor (args : SubmissionArgs) : Option String :=
  if args.sponsorSessionId.given then some args.sponsorSessionId.text else none

/-- `?? null`. -/
def orNull (value : Option String) : Option Json := some ((value.map .str).getD .null)

structure AnchorDocumentArgs extends SubmissionArgs where
  sha256 : Arg String
  storageRef : Arg String
  metadata : Arg String

def anchorDocument (data : AnchorDocumentArgs) : Except String ActionJob :=
  let payloadHash := services.toLowerCase data.sha256.text
  let metadataStr := data.metadata.get?.getD ""
  let compiledRef := vaultRef data.compiledArtifactRef
  accept [required data.sha256 "sha256", required data.storageRef "storageRef",
      required data.sessionId "sessionId", required data.contractAddress "contractAddress"]
    { kind := "anchorDocument"
      sessionId := data.sessionId.text
      idempotencyKey := data.idempotencyKey
      payload := .object [("sha256", some (.str payloadHash)),
        ("contractAddress", data.contractAddress.json), ("compiledRef", some (.str compiledRef)),
        ("metadata", some (.str metadataStr)), ("feeSponsor", orNull data.feeSponsor)]
      command := fun rowId => .anchorDocument (rowId 0) payloadHash
        (services.sha256Hex metadataStr) (services.attesterIdForSession data.sessionId.text)
        data.contractAddress.text compiledRef data.feeSponsor }

structure RegisterPassportArgs extends SubmissionArgs where
  documentId : Arg String
  passportId : Arg String
  ownerId : Arg String
  mode : Arg Int

def zeroId : String := String.ofList (List.replicate 64 '0')

def RegisterPassportArgs.registerMode (data : RegisterPassportArgs) : Int := data.mode.get?.getD 0

/-- Modes 2 to 4 have no id. -/
def RegisterPassportArgs.id (data : RegisterPassportArgs) : Arg String :=
  if data.registerMode ≥ 2 then .value zeroId
  else if data.passportId.given then data.passportId
  else if data.documentId.given then data.documentId
  else data.passportId

/-- Mode 1 has no owner. -/
def RegisterPassportArgs.owner (data : RegisterPassportArgs) : Arg String :=
  if data.registerMode = 1 then .value zeroId else data.ownerId

def registerPassport (data : RegisterPassportArgs) : Except String ActionJob :=
  let passportId := services.toLowerCase data.id.text
  let ownerId := services.toLowerCase data.owner.text
  let contractAddress := services.toLowerCase data.contractAddress.text
  accept [need (data.registerMode ∈ [0, 1, 2, 3, 4])
        ("mode must be 0 (register), 1 (unregister), 2 (transfer registrar), " ++
          "3 (recovery: set registrar) or 4 (recovery: set recovery)"),
      required data.id "documentId", required data.owner "ownerId",
      required data.sessionId "sessionId", required data.contractAddress "contractAddress"]
    { kind := "registerPassport"
      sessionId := data.sessionId.text
      idempotencyKey := data.idempotencyKey
      payload := .object [("passportId", some (.str passportId)),
        ("documentId", some (.str passportId)), ("ownerId", some (.str ownerId)),
        ("mode", some (.num data.registerMode)), ("contractAddress", some (.str contractAddress)),
        ("feeSponsor", orNull data.feeSponsor)]
      command := fun _ => .registerPassport passportId ownerId data.registerMode contractAddress
        (vaultRef data.compiledArtifactRef) data.feeSponsor }

/-- `submitRetract`. -/
def submitRetract (checks : List (Option String)) (mode : Nat) (key : Arg String)
    (data : SubmissionArgs) : Except String ActionJob :=
  let keyLc := services.toLowerCase key.text
  let contractAddress := services.toLowerCase data.contractAddress.text
  accept (checks ++ [required data.sessionId "sessionId",
      required data.contractAddress "contractAddress"])
    { kind := "retract"
      sessionId := data.sessionId.text
      idempotencyKey := data.idempotencyKey
      payload := .object [("mode", some (.num mode)), ("key", some (.str keyLc)),
        ("contractAddress", some (.str contractAddress)), ("feeSponsor", orNull data.feeSponsor)]
      command := fun _ => .retract mode keyLc
        (if mode = 0 then some (services.attesterIdForSession data.sessionId.text) else none)
        contractAddress (vaultRef data.compiledArtifactRef) data.feeSponsor }

structure RetractAttestationArgs extends SubmissionArgs where
  payloadHash : Arg String

def retractAttestation (data : RetractAttestationArgs) : Except String ActionJob :=
  submitRetract services [required data.payloadHash "payloadHash"] 0 data.payloadHash
    data.toSubmissionArgs

structure PurgeExpiredArgs extends SubmissionArgs where
  kind : Arg String
  key : Arg String

def purgeExpired (data : PurgeExpiredArgs) : Except String ActionJob :=
  submitRetract services
    [need (data.kind = .value "claim") "kind must be 'claim'", required data.key "key"] 1 data.key
    data.toSubmissionArgs

/-! ## Claims about a field -/

/-- What the claims about one field take. -/
structure FieldClaimArgs extends SubmissionArgs where
  payloadHash : Arg String
  attesterId : Arg String
  fieldKey : Arg String
  fieldSalt : Arg String
  contentRoot : Arg String
  schemaId : Arg String
  siblings : Arg (List String)
  dirs : Arg (List Bool)
  validUntil : Arg Int

namespace FieldClaimArgs

variable (data : FieldClaimArgs)

def path : Except String SetProof :=
  readInclusionPath services data.siblings data.dirs (depthOf services data.compiledArtifactRef)
    "siblings" "dirs"

def saltRejection : Option String :=
  need data.fieldSalt.given
    "fieldSalt is required (v4 salted leaves; prepareDocumentProof returns it per field)"

def schemaRejection : Option String :=
  need (!data.contentRoot.given || data.schemaId.given)
    "schemaId is required when contentRoot is supplied (anchorContentRoot anchors both)"

/-- The checks after the path, the same in each action. -/
def lastChecks : List (Option String) :=
  [data.schemaRejection, required data.sessionId "sessionId",
    required data.contractAddress "contractAddress",
    attesterRejection services data.sessionId data.attesterId data.contentRoot.given]

/-- The fields of the payload before those of the predicate. -/
def firstFields : List (String × Option Json) :=
  [("payloadHash", some (.str (services.toLowerCase data.payloadHash.text))),
    ("attesterId", some (.str (resolveAttester services data.sessionId data.attesterId))),
    ("fieldKey", some (.str (services.toLowerCase data.fieldKey.text))),
    ("contractAddress", data.contractAddress.json)]

/-- The fields of the payload after those of the predicate. -/
def lastFields : List (String × Option Json) :=
  [("fieldSalt", data.fieldSalt.json), ("contentRoot", data.contentRoot.json),
    ("schemaId", data.schemaId.json),
    ("siblings", some (.strings (pathOf (data.path services)).siblings)),
    ("dirs", some (.bools (pathOf (data.path services)).dirs)),
    ("feeSponsor", orNull data.feeSponsor)]

def workflow (rowId : Nat → String) : FieldWorkflow where
  predicateAttestationId := rowId 0
  validUntil := data.validUntil.get?
  payloadHash := services.toLowerCase data.payloadHash.text
  attesterId := resolveAttester services data.sessionId data.attesterId
  fieldKey := services.toLowerCase data.fieldKey.text
  contractAddress := data.contractAddress.text
  compiledArtifactRef := vaultRef data.compiledArtifactRef
  salt := services.toLowerCase data.fieldSalt.text
  siblings := (pathOf (data.path services)).siblings
  dirs := (pathOf (data.path services)).dirs
  contentRoot := lowerArg services data.contentRoot
  schemaId := lowerArg services data.schemaId
  sponsorSessionId := data.feeSponsor

end FieldClaimArgs

structure FieldPredicateArgs extends FieldClaimArgs where
  value : Arg String
  predicate : Arg String
  threshold : Arg String
  unit : Arg String

def readValue (data : FieldPredicateArgs) : Except String Int :=
  readUnsignedArg data.value "value" UINT64_MAX VALUE_EXCEEDS

def readThreshold (data : FieldPredicateArgs) : Except String Int :=
  readUnsignedArg data.threshold "threshold" INT64_MAX THRESHOLD_EXCEEDS

def issueFieldPredicateAttestation (now : Int) (data : FieldPredicateArgs) :
    Except String ActionJob :=
  let parsed := data.predicate.get?.bind parsePredicate
  accept ([validUntilError now data.validUntil, required data.payloadHash "payloadHash",
      required data.fieldKey "fieldKey", rejectionOf (readValue data), data.saltRejection,
      rejectionOf (readThreshold data),
      need (parsed.any (·.kind = .numeric))
        ("predicate must be 'lessOrEqual' or 'greaterOrEqual' (use " ++
          "issueFieldEqualityAttestation / issueFieldMembershipAttestation for the bytes kinds)"),
      rejectionOf (data.path services)] ++ data.lastChecks services)
    { kind := "issueFieldPredicateAttestation"
      sessionId := data.sessionId.text
      idempotencyKey := data.idempotencyKey
      payload := .object (data.firstFields services ++
        [("predicate", data.predicate.json), ("threshold", some (.str data.threshold.text)),
          ("value", data.value.json)] ++ data.lastFields services)
      command := fun rowId => .fieldPredicateWorkflow
        -- The hashes of the path are lower case already.
        { data.workflow services rowId with
          siblings := (pathOf (data.path services)).siblings.map services.toLowerCase }
        data.predicate.text (numberText (readThreshold data))
        ((parsed.bind (·.opCode)).getD 0) data.unit (numberText (readValue data)) }

structure FieldEqualityArgs extends FieldClaimArgs where
  expectedValue : Arg String
  expectedDigest : Arg String

/-- A digest as it is given, or that of the given text. -/
def digestOf (digest text : Arg String) : String :=
  if digest.given then services.toLowerCase digest.text else services.blake2b256Hex text.text

def issueFieldEqualityAttestation (now : Int) (data : FieldEqualityArgs) :
    Except String ActionJob :=
  let expectedDigest := digestOf services data.expectedDigest data.expectedValue
  accept ([validUntilError now data.validUntil, required data.payloadHash "payloadHash",
      required data.fieldKey "fieldKey",
      need (data.expectedValue.given ≠ data.expectedDigest.given)
        "pass exactly one of expectedValue / expectedDigest",
      data.saltRejection, rejectionOf (data.path services)] ++ data.lastChecks services)
    { kind := "issueFieldEqualityAttestation"
      sessionId := data.sessionId.text
      idempotencyKey := data.idempotencyKey
      payload := .object (data.firstFields services ++ [("predicate", some (.str "bytesEquality")),
          ("expectedDigest", some (.str expectedDigest))] ++ data.lastFields services)
      command := fun rowId => .fieldEqualityWorkflow (data.workflow services rowId) expectedDigest }

structure FieldMembershipArgs extends FieldClaimArgs where
  value : Arg String
  valueDigest : Arg String
  allowedValues : Arg (List String)
  setRoot : Arg String
  setSiblings : Arg (List String)
  setDirs : Arg (List Bool)

namespace FieldMembershipArgs

variable (data : FieldMembershipArgs)

def digest : String := digestOf services data.valueDigest data.value

def hasList : Bool := data.allowedValues.get?.any (· ≠ [])

def hasSetPath : Bool :=
  data.setRoot.given || data.setSiblings.get?.isSome || data.setDirs.get?.isSome

def hasWholeSetPath : Bool :=
  data.setRoot.given && data.setSiblings.get?.isSome && data.setDirs.get?.isSome

/-- The root of the set and the path of the value: built from the allowed values, or given. -/
def set : Except String (String × SetProof) :=
  if data.hasList then
    let allowed := data.allowedValues.get?.getD []
    if allowed.any (· = "") then .error "allowedValues entries must be non-empty strings"
    else if allowed.length > 1024 then
      .error "allowedValues supports at most 1024 raw entries (64 distinct values)"
    else
      match services.membershipPathFor (vaultRef data.compiledArtifactRef) allowed
          (data.digest services) with
      | .error message => .error message
      | .ok none => .error "value is not in the allowed list"
      | .ok (some member) => .ok member
  else
    match readInclusionPath services data.setSiblings data.setDirs SET_DEPTH "setSiblings"
        "setDirs" with
    | .error message => .error message
    | .ok path => .ok (services.toLowerCase data.setRoot.text, path)

/-- A set that was read. -/
def setOf (read : Except String (String × SetProof)) : String × SetProof :=
  match read with
  | .ok set => set
  | .error _ => ("", ⟨[], []⟩)

end FieldMembershipArgs

def issueFieldMembershipAttestation (now : Int) (data : FieldMembershipArgs) :
    Except String ActionJob :=
  let set := FieldMembershipArgs.setOf (data.set services)
  accept ([validUntilError now data.validUntil, required data.payloadHash "payloadHash",
      required data.fieldKey "fieldKey",
      need (data.value.given ≠ data.valueDigest.given) "pass exactly one of value / valueDigest",
      data.saltRejection,
      need (!(data.hasList && data.hasSetPath))
        "pass either allowedValues or setRoot + setSiblings + setDirs, not both",
      need (data.hasList || data.hasWholeSetPath)
        "allowedValues or setRoot + setSiblings + setDirs is required",
      rejectionOf (data.path services), data.schemaRejection, required data.sessionId "sessionId",
      required data.contractAddress "contractAddress", rejectionOf (data.set services),
      attesterRejection services data.sessionId data.attesterId data.contentRoot.given])
    { kind := "issueFieldMembershipAttestation"
      sessionId := data.sessionId.text
      idempotencyKey := data.idempotencyKey
      payload := .object (data.firstFields services ++
        [("predicate", some (.str "setMembership")), ("setRoot", some (.str set.1)),
          ("valueDigest", some (.str (data.digest services)))] ++ data.lastFields services)
      command := fun rowId => .fieldMembershipWorkflow (data.workflow services rowId) set.1
        (data.digest services) set.2.siblings set.2.dirs }

/-! ## Claims about two documents -/

structure SchemaSlotArg where
  fieldKey : Arg String
  kind : Arg Int
  scale : Arg String

structure SlotOpeningArg where
  present : Arg Bool
  value : Arg String
  valueDigest : Arg String

structure OpeningArg where
  saltSeed : Arg String
  slots : Arg (List SlotOpeningArg)

/-- A text that is a number of 64 bits, in its decimal form. -/
def uint64Text (text : Arg String) (name : String) : Except String String :=
  match parseBigInt text.text with
  | none => .error (name ++ " must be an integer (decimal string)")
  | some n =>
    if n < 0 ∨ n > UINT64_MAX then .error (name ++ " must fit Uint<64>")
    else .ok (String.ofList (Json.decimal n))

def hex64Arg (arg : Arg String) (name : String) : Except String String :=
  match arg with
  | .value text =>
    if isHex64 text then .ok (services.toLowerCase text)
    else .error (name ++ " must be 64 hex chars (32 bytes)")
  | _ => .error (name ++ " must be 64 hex chars (32 bytes)")

/-- The same of an argument that may be left out. -/
def optionalHex64Arg (arg : Arg String) (name : String) : Except String (Option String) :=
  match arg with
  | .undefined => .ok none
  | arg => (hex64Arg services arg name).map some

def optionalUint64Text (arg : Arg String) (name : String) : Except String (Option String) :=
  match arg with
  | .undefined => .ok none
  | arg => (uint64Text arg name).map some

/-- Applies to each element, with its index. -/
def mapIndexed {Value Result : Type} (values : List Value)
    (read : Nat → Value → Except String Result) : Except String (List Result) :=
  values.zipIdx.mapM fun indexed => read indexed.2 indexed.1

def indexed (name : String) (i : Nat) : String := name ++ "[" ++ toString i ++ "]"

def slotKind (kind : Arg Int) (name : String) : Except String Nat :=
  match kind with
  | .value 0 => .ok 0
  | .value 1 => .ok 1
  | .value 2 => .ok 2
  | _ => .error (name ++ " must be 0 (uint), 1 (bytes) or 2 (padding)")

def validateSchemaSlot (name : String) (slot : SchemaSlotArg) : Except String SchemaSlotWire := do
  let fieldKey ← hex64Arg services slot.fieldKey (name ++ ".fieldKey")
  let kind ← slotKind slot.kind (name ++ ".kind")
  let scale ← uint64Text (.value (slot.scale.get?.getD "0")) (name ++ ".scale")
  return ⟨fieldKey, kind, scale⟩

def validateSchemaSlots (schema : Arg (List SchemaSlotArg)) (name : String) (width : Nat) :
    Except String (List SchemaSlotWire) :=
  match schema with
  | .value slots =>
    if slots.length = width then
      mapIndexed slots fun i slot => validateSchemaSlot services (indexed name i) slot
    else
      .error (name ++ " must be an array of exactly " ++ toString width ++ " slot descriptors")
  | _ => .error (name ++ " must be an array of exactly " ++ toString width ++ " slot descriptors")

def slotPresent (present : Arg Bool) (name : String) : Except String Bool :=
  match present with
  | .value present => .ok present
  | _ => .error (name ++ " must be a boolean")

def validateSlotOpening (name : String) (slot : SlotOpeningArg) : Except String SlotOpening := do
  let present ← slotPresent slot.present (name ++ ".present")
  let value ← optionalUint64Text slot.value (name ++ ".value")
  let valueDigest ← optionalHex64Arg services slot.valueDigest (name ++ ".valueDigest")
  if present && value.isNone && valueDigest.isNone then
    .error (name ++ ": a present slot needs value or valueDigest")
  else
    return ⟨present, value, valueDigest⟩

def validateOpening (opening : Arg OpeningArg) (name : String) (width : Nat) :
    Except String OpeningWire :=
  match opening with
  | .value opening => do
      let saltSeed ← hex64Arg services opening.saltSeed (name ++ ".saltSeed")
      let slots := opening.slots.get?.getD []
      if slots.length = width then
        let slots ← mapIndexed slots fun i slot =>
          validateSlotOpening services (indexed (name ++ ".slots") i) slot
        return ⟨saltSeed, slots⟩
      else
        .error (name ++ ".slots must be an array of exactly " ++ toString width ++ " slot openings")
  | _ => .error (name ++ " must be an object")

structure DocPair where
  schema : List SchemaSlotWire
  openingA : OpeningWire
  openingB : OpeningWire

/-- `parseDocPairInputs`. -/
def parseDocPair (schema : Arg (List SchemaSlotArg)) (openingA openingB : Arg OpeningArg)
    (schemaName nameA nameB : String) (width : Nat) : Except String DocPair := do
  let schema ← validateSchemaSlots services schema schemaName width
  let openingA ← validateOpening services openingA nameA width
  let openingB ← validateOpening services openingB nameB width
  return ⟨schema, openingA, openingB⟩

/-- A pair that was read. -/
def docPairOf (read : Except String DocPair) : DocPair :=
  match read with
  | .ok docPair => docPair
  | .error _ => ⟨[], ⟨"", []⟩, ⟨"", []⟩⟩

/-- Every real field may change. -/
def isVacuousMask (allowedMask : Int) (schema : List SchemaSlotWire) : Bool :=
  schema.zipIdx.all fun slot => slot.1.kind = 2 || allowedMask.toNat.testBit slot.2

def maxMaskOf (width : Nat) : Int := 2 ^ width - 1

/-- What the claims about two documents take. -/
structure DocumentPairArgs extends SubmissionArgs where
  payloadHashA : Arg String
  payloadHashB : Arg String
  attesterIdA : Arg String
  attesterIdB : Arg String
  schema : Arg (List SchemaSlotArg)
  openingA : Arg OpeningArg
  openingB : Arg OpeningArg
  contentRootA : Arg String
  contentRootB : Arg String
  schemaId : Arg String
  validUntil : Arg Int

namespace DocumentPairArgs

variable (data : DocumentPairArgs)

def width : Nat := services.slotWidthOf (vaultRef data.compiledArtifactRef)

def docPair : Except String DocPair :=
  parseDocPair services data.schema data.openingA data.openingB "schema" "openingA" "openingB"
    (data.width services)

def attesterA : String := resolveAttester services data.sessionId data.attesterIdA

/-- The attester of B is that of A unless it is given. -/
def requestedB : Arg String :=
  match data.attesterIdB with
  | .value attesterId => .value attesterId
  | _ => .value (data.attesterA services)

def attesterB : String := resolveAttester services data.sessionId (data.requestedB services)

def firstChecks (now : Int) (whySame : String) : List (Option String) :=
  [validUntilError now data.validUntil, required data.payloadHashA "payloadHashA",
    required data.payloadHashB "payloadHashB",
    need (services.toLowerCase data.payloadHashA.text ≠ services.toLowerCase data.payloadHashB.text)
      ("payloadHashA and payloadHashB must differ (" ++ whySame ++ " against itself)")]

def lastChecks : List (Option String) :=
  [need (!(data.contentRootA.given || data.contentRootB.given) || data.schemaId.given)
      "schemaId is required when anchoring a content root (anchorContentRoot anchors both)",
    required data.sessionId "sessionId", required data.contractAddress "contractAddress",
    attesterRejection services data.sessionId data.attesterIdA data.contentRootA.given,
    attesterRejection services data.sessionId (data.requestedB services) data.contentRootB.given]

def firstFields : List (String × Option Json) :=
  [("payloadHashA", some (.str (services.toLowerCase data.payloadHashA.text))),
    ("payloadHashB", some (.str (services.toLowerCase data.payloadHashB.text))),
    ("attesterIdA", some (.str (data.attesterA services))),
    ("attesterIdB", some (.str (data.attesterB services))),
    ("contractAddress", data.contractAddress.json)]

def lastFields : List (String × Option Json) :=
  let pair := docPairOf (data.docPair services)
  [("schema", some (schemaJson pair.schema)), ("openingA", some pair.openingA.json),
    ("openingB", some pair.openingB.json),
    ("contentRootA", orNull (lowerArg services data.contentRootA)),
    ("contentRootB", orNull (lowerArg services data.contentRootB)),
    ("schemaId", orNull (lowerArg services data.schemaId)), ("feeSponsor", orNull data.feeSponsor)]

def workflow (rowId : Nat → String) : DocumentPairWorkflow where
  predicateAttestationId := rowId 0
  validUntil := data.validUntil.get?
  payloadHashA := services.toLowerCase data.payloadHashA.text
  payloadHashB := services.toLowerCase data.payloadHashB.text
  attesterIdA := data.attesterA services
  attesterIdB := data.attesterB services
  contractAddress := data.contractAddress.text
  compiledArtifactRef := vaultRef data.compiledArtifactRef
  schema := (docPairOf (data.docPair services)).schema
  openingA := (docPairOf (data.docPair services)).openingA
  openingB := (docPairOf (data.docPair services)).openingB
  contentRootA := lowerArg services data.contentRootA
  contentRootB := lowerArg services data.contentRootB
  schemaId := lowerArg services data.schemaId
  sponsorSessionId := data.feeSponsor

end DocumentPairArgs

structure DocumentIntegrityArgs extends DocumentPairArgs where
  allowedMask : Arg Int

def issueDocumentIntegrityAttestation (now : Int) (data : DocumentIntegrityArgs) :
    Except String ActionJob :=
  let width := data.width services
  let allowedMask := data.allowedMask.get?.getD 0
  accept (data.firstChecks services now "a document is trivially unchanged" ++
      [need data.allowedMask.get?.isSome "allowedMask is required",
        need (0 ≤ allowedMask && allowedMask ≤ maxMaskOf width)
          ("allowedMask must be an integer in 0.." ++ toString (maxMaskOf width) ++ " (packed " ++
            toString width ++ "-bit slot mask)"),
        need (allowedMask ≠ maxMaskOf width) ("allowedMask " ++ toString (maxMaskOf width) ++
            " permits every slot to differ; the claim would be vacuous"),
        rejectionOf (data.docPair services),
        need (!isVacuousMask allowedMask (docPairOf (data.docPair services)).schema)
          "allowedMask frees every real (non-padding) schema slot; the claim would be vacuous"] ++
      data.lastChecks services)
    { kind := "issueDocumentIntegrityAttestation"
      sessionId := data.sessionId.text
      idempotencyKey := data.idempotencyKey
      payload := .object (data.firstFields services ++
        [("predicate", some (.str "documentIntegrity")),
          ("allowedMask", some (.num allowedMask))] ++
        data.lastFields services)
      command :=
        fun rowId => .documentIntegrityWorkflow (data.workflow services rowId) allowedMask }

structure DocumentDiffArgs extends DocumentPairArgs where
  k : Arg Int

def issueDocumentDiffAttestation (now : Int) (data : DocumentDiffArgs) :
    Except String ActionJob :=
  let width := data.width services
  let k := data.k.get?.getD 0
  accept (data.firstChecks services now "a document has no differences" ++
      [need data.k.get?.isSome "k is required", need (1 ≤ k && k ≤ width)
          ("k must be an integer in 1.." ++ toString width ++ " (minimum differing slots)"),
        rejectionOf (data.docPair services)] ++ data.lastChecks services)
    { kind := "issueDocumentDiffAttestation"
      sessionId := data.sessionId.text
      idempotencyKey := data.idempotencyKey
      payload := .object (data.firstFields services ++
        [("predicate", some (.str "documentDiff")), ("k", some (.num k))] ++
        data.lastFields services)
      command := fun rowId => .documentDiffWorkflow (data.workflow services rowId) k }

/-! ## Batches -/

structure BatchClaimArg where
  predicate : Arg String
  fieldKey : Arg String
  salt : Arg String
  siblings : Arg (List String)
  dirs : Arg (List Bool)
  unit : Arg String
  value : Arg String
  threshold : Arg String
  expectedValue : Arg String
  expectedDigest : Arg String
  valueDigest : Arg String
  allowedValues : Arg (List String)
  setRoot : Arg String
  setSiblings : Arg (List String)
  setDirs : Arg (List Bool)
  payloadHashB : Arg String
  attesterIdB : Arg String
  allowedMask : Arg Int
  k : Arg Int
  schema : Arg (List SchemaSlotArg)
  openingA : Arg OpeningArg
  openingB : Arg OpeningArg

structure BatchArgs extends SubmissionArgs where
  payloadHash : Arg String
  attesterId : Arg String
  contentRoot : Arg String
  schemaId : Arg String
  claims : Arg (List BatchClaimArg)
  validUntil : Arg Int

/-- A claim whose row has no id yet, with the fields its predicate uses. -/
def emptyClaim (predicate : String) : BatchClaimCommand where
  predicateAttestationId := ""
  predicate := predicate
  unit := none
  validUntil := none
  fieldKey := none
  salt := none
  threshold := none
  opCode := none
  value := none
  expectedDigest := none
  setRoot := none
  valueDigest := none
  setSiblings := none
  setDirs := none
  payloadHashB := none
  attesterIdB := none
  allowedMask := none
  k := none
  schema := none
  openingA := none
  openingB := none
  siblings := none
  dirs := none

def check (holds : Bool) (message : String) : Except String Unit :=
  if holds then .ok () else .error message

/-- A claim of the comparison kinds. Document A is that of the batch. -/
def parseDocumentClaim (name : String) (data : BatchArgs) (entry : BatchClaimArg)
    (kind : PredicateKind) : Except String BatchClaimCommand := do
  let width := services.slotWidthOf (vaultRef data.compiledArtifactRef)
  let payloadHashB ← hex64Arg services entry.payloadHashB (name ++ ".payloadHashB")
  let attesterIdB ← optionalHex64Arg services entry.attesterIdB (name ++ ".attesterIdB")
  check (payloadHashB ≠ services.toLowerCase data.payloadHash.text)
    (name ++ ".payloadHashB must differ from the batch payloadHash")
  let pair ← parseDocPair services entry.schema entry.openingA entry.openingB (name ++ ".schema")
    (name ++ ".openingA") (name ++ ".openingB") width
  if kind = .integrity then
    let allowedMask := entry.allowedMask.get?.getD (-1)
    check (0 ≤ allowedMask && allowedMask ≤ maxMaskOf width)
      (name ++ ".allowedMask must be an integer in 0.." ++ toString (maxMaskOf width))
    check (allowedMask ≠ maxMaskOf width) (name ++ ".allowedMask " ++ toString (maxMaskOf width) ++
        " permits every slot to differ; the claim would be vacuous")
    check (!isVacuousMask allowedMask pair.schema)
      (name ++ ".allowedMask frees every real (non-padding) schema slot; " ++
        "the claim would be vacuous")
    return { emptyClaim "documentIntegrity" with
      payloadHashB := some payloadHashB, attesterIdB, allowedMask := some allowedMask,
      schema := some pair.schema, openingA := some pair.openingA, openingB := some pair.openingB }
  else
    let k := entry.k.get?.getD 0
    check (1 ≤ k && k ≤ width) (name ++ ".k must be an integer in 1.." ++ toString width)
    return { emptyClaim "documentDiff" with
      payloadHashB := some payloadHashB, attesterIdB, k := some k,
      schema := some pair.schema, openingA := some pair.openingA, openingB := some pair.openingB }

def saltArg (salt : Arg String) (name : String) : Except String String :=
  match salt with
  | .value salt =>
    if isHex64 salt then .ok (services.toLowerCase salt)
    else .error (name ++ ".salt must be 64 hex chars (32 bytes; v4 salted leaves)")
  | _ => .error (name ++ ".salt must be 64 hex chars (32 bytes; v4 salted leaves)")

/-- The fields that every claim about one field has. -/
def parseFieldBase (name : String) (data : BatchArgs) (entry : BatchClaimArg) :
    Except String BatchClaimCommand := do
  let fieldKey ← hex64Arg services entry.fieldKey (name ++ ".fieldKey")
  let path ← readInclusionPath services entry.siblings entry.dirs
    (depthOf services data.compiledArtifactRef) (name ++ ".siblings") (name ++ ".dirs")
  let salt ← saltArg services entry.salt name
  return { emptyClaim entry.predicate.text with
    fieldKey := some fieldKey, salt := some salt, siblings := some path.siblings,
    dirs := some path.dirs, unit := if entry.unit.given then some entry.unit.text else none }

/-- A digest of a claim, or that of its text; exactly one of the two is given. -/
def claimDigest (name digestName pair : String) (digest text : Arg String) :
    Except String String := do
  check (digest.given ≠ text.given) (name ++ ": pass exactly one of " ++ pair)
  if digest.given then hex64Arg services digest (name ++ "." ++ digestName)
  else return services.blake2b256Hex text.text

def parseEqualityClaim (name : String) (entry : BatchClaimArg) (base : BatchClaimCommand) :
    Except String BatchClaimCommand := do
  let digest ← claimDigest services name "expectedDigest" "expectedValue / expectedDigest"
    entry.expectedDigest entry.expectedValue
  return { base with expectedDigest := some digest }

/-- A membership claim that comes with its set path, as far as it does not come with a list. -/
def parseSetPath (name : String) (entry : BatchClaimArg) (base : BatchClaimCommand) :
    Except String BatchClaimCommand := do
  check (entry.setRoot.given && entry.setSiblings.get?.isSome && entry.setDirs.get?.isSome)
    (name ++ ": allowedValues or setRoot + setSiblings + setDirs is required")
  let setRoot ← hex64Arg services entry.setRoot (name ++ ".setRoot")
  let set ← readInclusionPath services entry.setSiblings entry.setDirs SET_DEPTH
    (name ++ ".setSiblings") (name ++ ".setDirs")
  return { base with
    setRoot := some setRoot, setSiblings := some set.siblings, setDirs := some set.dirs }

def checkAllowed (name : String) (entry : BatchClaimArg) (allowed : List String) :
    Except String Unit := do
  check (!(entry.setRoot.given || entry.setSiblings.get?.isSome || entry.setDirs.get?.isSome))
    (name ++ ": pass either allowedValues or setRoot + setSiblings + setDirs, not both")
  check (allowed ≠ [] && allowed.all (· ≠ ""))
    (name ++ ".allowedValues must be a non-empty array of non-empty strings")
  check (allowed.length ≤ 1024)
    (name ++ ".allowedValues supports at most 1024 raw entries (64 distinct values)")

def parseMembershipClaim (name : String) (entry : BatchClaimArg) (base : BatchClaimCommand) :
    Except String (BatchClaimCommand × Option (List String)) := do
  let digest ← claimDigest services name "valueDigest" "value / valueDigest"
    entry.valueDigest entry.value
  match entry.allowedValues with
  | .value allowed =>
    checkAllowed name entry allowed
    return ({ base with valueDigest := some digest }, some allowed)
  | _ =>
    let claim ← parseSetPath services name entry { base with valueDigest := some digest }
    return (claim, none)

def parseNumericClaim (name : String) (entry : BatchClaimArg) (opCode : Option Nat)
    (base : BatchClaimCommand) : Except String BatchClaimCommand := do
  let value ← readUnsignedArg entry.value (name ++ ".value") UINT64_MAX VALUE_EXCEEDS
  let threshold ← readUnsignedArg entry.threshold (name ++ ".threshold") INT64_MAX THRESHOLD_EXCEEDS
  return { base with
    value := some (String.ofList (Json.decimal value)),
    threshold := some (String.ofList (Json.decimal threshold)), opCode }

/-- A claim; a membership claim may come with a raw list of allowed values. -/
def parseClaim (data : BatchArgs) (i : Nat) (entry : BatchClaimArg) :
    Except String (BatchClaimCommand × Option (List String)) :=
  let name := indexed "claims" i
  match entry.predicate.get?.bind parsePredicate with
  | none =>
    .error (name ++ ".predicate must be 'lessOrEqual', 'greaterOrEqual', 'bytesEquality', " ++
      "'setMembership', 'documentIntegrity' or 'documentDiff'")
  | some parsed =>
    match parsed.kind with
    | .integrity | .diff =>
      (parseDocumentClaim services name data entry parsed.kind).map (·, none)
    | .equality => do
        let base ← parseFieldBase services name data entry
        (parseEqualityClaim services name entry base).map (·, none)
    | .membership => do
        let base ← parseFieldBase services name data entry
        parseMembershipClaim services name entry base
    | .numeric => do
        let base ← parseFieldBase services name data entry
        (parseNumericClaim name entry parsed.opCode base).map (·, none)

/-- Builds the set of a membership claim that came with allowed values. -/
def buildSet (data : BatchArgs) (i : Nat) (claim : BatchClaimCommand × Option (List String)) :
    Except String BatchClaimCommand :=
  match claim.2 with
  | none => .ok claim.1
  | some allowed =>
    match services.membershipPathFor (vaultRef data.compiledArtifactRef) allowed
        (claim.1.valueDigest.getD "") with
    | .error message => .error (indexed "claims" i ++ ": " ++ message)
    | .ok none => .error (indexed "claims" i ++ ": value is not in the allowed list")
    | .ok (some member) =>
      .ok { claim.1 with
        setRoot := some member.1, setSiblings := some member.2.siblings,
        setDirs := some member.2.dirs }

/-- What two claims of a batch are told apart by: the fields of the claim stored on chain. -/
def claimTuple (claim : BatchClaimCommand) : List (Option String) :=
  if claim.predicate = "bytesEquality" then [claim.fieldKey, some "eq", claim.expectedDigest]
  else if claim.predicate = "setMembership" then [claim.fieldKey, some "set", claim.setRoot]
  else if claim.predicate = "documentIntegrity" then
    [some (claim.attesterIdB.getD ""), claim.payloadHashB, some "integ",
      claim.allowedMask.map toString]
  else if claim.predicate = "documentDiff" then
    [some (claim.attesterIdB.getD ""), claim.payloadHashB, some "diff", claim.k.map toString]
  else [claim.fieldKey, claim.threshold, claim.opCode.map toString]

/-- Drops the claims that repeat an earlier one. -/
def dropDuplicates (seen : List (List (Option String))) :
    List BatchClaimCommand → List BatchClaimCommand
  | [] => []
  | claim :: rest =>
    if claimTuple claim ∈ seen then dropDuplicates seen rest
    else claim :: dropDuplicates (claimTuple claim :: seen) rest

/-- At most 8 calls per transaction, of which the content root takes one. -/
def maxClaims (data : BatchArgs) : Nat := if data.contentRoot.given then 7 else 8

def parsedClaims (data : BatchArgs) :
    Except String (List (BatchClaimCommand × Option (List String))) :=
  mapIndexed (data.claims.get?.getD []) (parseClaim services data)

/-- The claims without duplicates, their sets built. -/
def uniqueClaims (data : BatchArgs) : Except String (List BatchClaimCommand) := do
  let claims ← parsedClaims services data
  let claims ← mapIndexed claims (buildSet services data)
  return dropDuplicates [] claims

/-- Claims that were read. -/
def claimsOf (read : Except String (List BatchClaimCommand)) : List BatchClaimCommand :=
  match read with
  | .ok claims => claims
  | .error _ => []

/-- A claim as the payload lists it. -/
def claimJson (claim : BatchClaimCommand) : Json :=
  .object [("fieldKey", claim.fieldKey.map .str), ("predicate", some (.str claim.predicate)),
    ("threshold", claim.threshold.map .str), ("value", claim.value.map .str),
    ("expectedDigest", claim.expectedDigest.map .str), ("setRoot", claim.setRoot.map .str),
    ("valueDigest", claim.valueDigest.map .str), ("salt", claim.salt.map .str),
    ("siblings", claim.siblings.map .strings), ("dirs", claim.dirs.map .bools),
    ("payloadHashB", claim.payloadHashB.map .str), ("attesterIdB", claim.attesterIdB.map .str),
    ("allowedMask", claim.allowedMask.map .num), ("k", claim.k.map .num),
    ("schema", claim.schema.map schemaJson), ("openingA", claim.openingA.map OpeningWire.json),
    ("openingB", claim.openingB.map OpeningWire.json)]

/-- `rowedClaims`. -/
def rowClaims (rowId : Nat → String) (claims : List BatchClaimCommand) : List BatchClaimCommand :=
  claims.zipIdx.map fun claim => { claim.1 with predicateAttestationId := rowId claim.2 }

def issueFieldPredicateAttestationBatch (now : Int) (data : BatchArgs) :
    Except String ActionJob :=
  let claims := claimsOf (uniqueClaims services data)
  let attesterId := resolveAttester services data.sessionId data.attesterId
  let payloadHash := services.toLowerCase data.payloadHash.text
  accept [validUntilError now data.validUntil, required data.payloadHash "payloadHash",
      need (!data.contentRoot.given || data.schemaId.given)
        "schemaId is required when contentRoot is supplied (anchorContentRoot anchors both)",
      required data.sessionId "sessionId", required data.contractAddress "contractAddress",
      need (data.claims.get?.any (· ≠ [])) "claims is required",
      need ((data.claims.get?.getD []).length ≤ maxClaims data)
        ("claims supports at most " ++ toString (maxClaims data) ++ " entries per batch" ++
          if data.contentRoot.given then
            " (the contentRoot anchor occupies one of the 8 call slots)"
          else ""),
      rejectionOf (uniqueClaims services data),
      attesterRejection services data.sessionId data.attesterId data.contentRoot.given]
    { kind := "issueFieldPredicateAttestationBatch"
      sessionId := data.sessionId.text
      idempotencyKey := data.idempotencyKey
      payload := .object [("payloadHash", some (.str payloadHash)),
        ("attesterId", some (.str attesterId)), ("contractAddress", data.contractAddress.json),
        ("contentRoot", orNull (lowerArg services data.contentRoot)),
        ("claims", some (.arr (claims.map claimJson))), ("feeSponsor", orNull data.feeSponsor)]
      command := fun rowId => .fieldPredicateBatchWorkflow {
        payloadHash, attesterId
        validUntil := data.validUntil.get?
        contractAddress := data.contractAddress.text
        compiledArtifactRef := vaultRef data.compiledArtifactRef
        contentRoot := lowerArg services data.contentRoot
        schemaId := lowerArg services data.schemaId
        claims := rowClaims rowId claims
        sponsorSessionId := data.feeSponsor } }

end Services

end Nightgate.Submission
