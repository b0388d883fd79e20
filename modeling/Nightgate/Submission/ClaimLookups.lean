import Nightgate.Submission.WorkflowSteps

/-!
# Claim lookups

A claim goes to its circuit as converted arguments, and it is found again by a key that is computed
of the same public inputs: from the row that the issuing action recorded, or from what a caller of
`verifyPredicateState` names. The keys themselves, and the contract that stores them, are libraries.
-/

namespace Nightgate.Submission

open Library

/-- What a circuit proves a claim of, and what its key is computed of besides the roots on chain. -/
inductive ClaimTuple (Bytes Mask : Type) where
  | field (recordKey fieldKey : Bytes) (threshold op : Int)
  | equality (recordKey fieldKey expectedDigest : Bytes)
  | membership (recordKey fieldKey setRoot : Bytes)
  | integrity (recordKeyA recordKeyB : Bytes) (allowedMask : Mask)
  | diff (recordKeyA recordKeyB : Bytes) (k : Int)

/-- The digits of the bytes, none where it throws. -/
def hexToBytes (text : String) : Option (List Nat) := text.toList.mapM (radixDigit 16)

/-- The same inputs with their hex texts read as bytes. -/
def ClaimTuple.bytes {Mask : Type} : ClaimTuple String Mask → Option (ClaimTuple (List Nat) Mask)
  | .field recordKey fieldKey threshold op => do
      some (.field (← hexToBytes recordKey) (← hexToBytes fieldKey) threshold op)
  | .equality recordKey fieldKey expectedDigest => do
      some (.equality (← hexToBytes recordKey) (← hexToBytes fieldKey)
        (← hexToBytes expectedDigest))
  | .membership recordKey fieldKey setRoot => do
      some (.membership (← hexToBytes recordKey) (← hexToBytes fieldKey) (← hexToBytes setRoot))
  | .integrity recordKeyA recordKeyB allowedMask => do
      some (.integrity (← hexToBytes recordKeyA) (← hexToBytes recordKeyB) allowedMask)
  | .diff recordKeyA recordKeyB k => do
      some (.diff (← hexToBytes recordKeyA) (← hexToBytes recordKeyB) k)

inductive CircuitArg (Mask : Type) where
  | bytes (digits : List Nat)
  | int (value : Int)
  | mask (mask : Mask)

section Circuits

variable {Mask : Type} (expandAllowedMask : Int → Nat → Mask)

/-- `hexToBytes(String(arg))`. -/
def bytesArg (arg : Option String) : Option (CircuitArg Mask) :=
  (hexToBytes (arg.getD "null")).map .bytes

/-- `BigInt(String(arg))`. -/
def intArg (arg : Option String) : Option (CircuitArg Mask) :=
  (parseBigInt (arg.getD "null")).map .int

/-- `expandAllowedMask(Number(arg), width)`. A mask has at most 32 bits, so it is a safe number. -/
def maskArg (width : Nat) (arg : Option String) : Option (CircuitArg Mask) :=
  (parseBigInt (arg.getD "null")).map fun allowedMask => .mask (expandAllowedMask allowedMask width)

abbrev ArgTypes (Mask : Type) : Type := List (Option String → Option (CircuitArg Mask))

/-- Converts the arguments one by one; more of them than there are types are dropped. -/
def coerceArgs (types : ArgTypes Mask) (args : List (Option String)) :
    Option (List (CircuitArg Mask)) :=
  types.zipIdx.mapM fun indexed => indexed.1 (args.getD indexed.2 (some "undefined"))

def fieldPredicateTypes : ArgTypes Mask := [bytesArg, bytesArg, intArg, intArg, intArg]

def fieldBytesTypes : ArgTypes Mask := [bytesArg, bytesArg, bytesArg, intArg]

def anchorRootTypes : ArgTypes Mask := [bytesArg, bytesArg, bytesArg]

def documentComparisonTypes (width : Nat) : ArgTypes Mask :=
  [bytesArg, bytesArg, intArg, maskArg expandAllowedMask width, intArg, intArg]

/-- How the arguments of a proof step are converted, by the kind of its job. -/
def typesOfKind (width : Nat) (kind : String) : Option (ArgTypes Mask) :=
  if kind = "fieldAnchorRoot" then some anchorRootTypes
  else if kind = "fieldPredicateProof" then some fieldPredicateTypes
  else if kind = "fieldEqualityProof" ∨ kind = "fieldMembershipProof" then some fieldBytesTypes
  else if kind = "documentIntegrityProof" ∨ kind = "documentDiffProof" then
    some (documentComparisonTypes expandAllowedMask width)
  else none

/-- How the arguments of a call of a batch are converted, by its circuit. -/
def typesOfCircuit (width : Nat) (circuit : String) : ArgTypes Mask :=
  if circuit = "anchorContentRoot" then anchorRootTypes
  else if circuit = "proveFieldEquality" ∨ circuit = "proveFieldMembership" then fieldBytesTypes
  else if circuit = "proveDocumentComparison" then documentComparisonTypes expandAllowedMask width
  else fieldPredicateTypes

/-- The claim that a circuit proves of its arguments. The comparison has two modes. -/
def claimOfCall (circuit : String) (args : List (CircuitArg Mask)) :
    Option (ClaimTuple (List Nat) Mask) :=
  match args with
  | [.bytes recordKey, .bytes fieldKey, .int threshold, .int op, .int _] =>
    if circuit = "proveFieldPredicate" then some (.field recordKey fieldKey threshold op)
    else none
  | [.bytes recordKey, .bytes fieldKey, .bytes operand, .int _] =>
    if circuit = "proveFieldEquality" then some (.equality recordKey fieldKey operand)
    else if circuit = "proveFieldMembership" then some (.membership recordKey fieldKey operand)
    else none
  | [.bytes recordKeyA, .bytes recordKeyB, .int mode, .mask allowedMask, .int k, .int _] =>
    if circuit = "proveDocumentComparison" then
      if mode = 0 then some (.integrity recordKeyA recordKeyB allowedMask)
      else if mode = 1 then some (.diff recordKeyA recordKeyB k)
      else none
    else none
  | _ => none

/-- The claims of the calls that a step makes: none where an argument does not convert. -/
def StepCommand.claims (widthOf : String → Nat) (kind : String) :
    StepCommand → Option (List (ClaimTuple (List Nat) Mask))
  | .call _ circuit compiledArtifactRef args _ _ => do
      let types ← typesOfKind expandAllowedMask (widthOf compiledArtifactRef) kind
      let coerced ← coerceArgs types args
      some (claimOfCall circuit coerced).toList
  | .callBatch _ calls compiledArtifactRef _ _ _ => do
      let coerced ← calls.mapM fun call => do
        let types := typesOfCircuit expandAllowedMask (widthOf compiledArtifactRef) call.circuit
        some (call.circuit, ← coerceArgs types call.args)
      some (coerced.filterMap fun call => claimOfCall call.1 call.2)

end Circuits

/-- What a contract stores for a document. -/
structure Anchor where
  root : String
  schema : String

/-- `missing` answers false without a lookup. -/
inductive ClaimLookup (Mask : Type) where
  | missing
  | claim (tuple : ClaimTuple String Mask)

/-- The documents of a claim are anchored, two of them with one field layout. -/
def ClaimTuple.anchored {Mask : Type} (anchorOf : String → Option Anchor) :
    ClaimTuple String Mask → Bool
  | .field recordKey .. | .equality recordKey .. | .membership recordKey .. =>
    (anchorOf recordKey).isSome
  | .integrity recordKeyA recordKeyB _ | .diff recordKeyA recordKeyB _ =>
    match anchorOf recordKeyA, anchorOf recordKeyB with
    | some anchorA, some anchorB => anchorA.schema = anchorB.schema
    | _, _ => false

def ClaimTuple.lookup {Mask : Type} (anchorOf : String → Option Anchor)
    (tuple : ClaimTuple String Mask) : ClaimLookup Mask :=
  if tuple.anchored anchorOf then .claim tuple else .missing

/-- `ReadPredicateStateForContractArgs`. -/
structure ReadPredicateStateArgs where
  attesterId : String
  payloadHash : String
  threshold : Option Int := none
  op : Option Int := none
  fieldKey : Option String := none
  expectedDigest : Option String := none
  setRoot : Option String := none
  payloadHashB : Option String := none
  attesterIdB : Option String := none
  allowedMask : Option Int := none
  k : Option Int := none
  slotWidth : Nat

section Lookups

variable {Mask : Type} (persistentHash : List Nat → List Nat → String)
  (expandAllowedMask : Int → Nat → Mask)

/-- A claim about one field, by what is given of it. -/
def ReadPredicateStateArgs.fieldClaim (args : ReadPredicateStateArgs) (recordKey : String) :
    Option (ClaimTuple String Mask) := do
  let fieldKey ← truthy args.fieldKey
  match truthy args.expectedDigest, truthy args.setRoot with
  | some expectedDigest, _ => some (.equality recordKey fieldKey expectedDigest)
  | none, some setRoot => some (.membership recordKey fieldKey setRoot)
  | none, none => some (.field recordKey fieldKey (← args.threshold) (← args.op))

/-- A claim about two documents: an integrity claim where a mask is given. -/
def ReadPredicateStateArgs.documentClaim (args : ReadPredicateStateArgs)
    (recordKeyA recordKeyB : String) : Option (ClaimTuple String Mask) :=
  match args.allowedMask with
  | some allowedMask =>
    some (.integrity recordKeyA recordKeyB (expandAllowedMask allowedMask args.slotWidth))
  | none => args.k.map (.diff recordKeyA recordKeyB ·)

/-- `readPredicateStateForContract` over the anchors of the contract's ledger, none where it
throws. -/
def readPredicateStateForContract (anchorOf : String → Option Anchor)
    (args : ReadPredicateStateArgs) : Option (ClaimLookup Mask) := do
  let recordKeyA ← computeRecordKey persistentHash args.attesterId args.payloadHash
  match anchorOf recordKeyA, truthy args.payloadHashB with
  | none, _ => some .missing
  | some _, none => (args.fieldClaim recordKeyA).map .claim
  | some anchorA, some payloadHashB => do
      let recordKeyB ← computeRecordKey persistentHash (args.attesterIdB.getD args.attesterId)
        payloadHashB
      match anchorOf recordKeyB with
      | none => some .missing
      | some anchorB =>
        if anchorA.schema ≠ anchorB.schema then some .missing
        else (args.documentClaim expandAllowedMask recordKeyA recordKeyB).map .claim

end Lookups

/-! ## Recorded claims -/

/-- `PredicateAttestations`, as far as a verification reads it. -/
structure PredicateAttestation where
  ID : String
  payloadHash : String
  attesterId : String
  contractAddress : String
  predicate : String
  op : Option Nat
  /-- The driver returns the 64-bit integer as a text. -/
  threshold : Option String
  fieldKey : Option String
  expectedDigest : Option String
  setRoot : Option String
  payloadHashB : Option String
  attesterIdB : Option String
  allowedMask : Option Int
  compiledArtifactRef : String

namespace PredicateAttestation

variable (row : PredicateAttestation)

def bytesKind : Bool := row.predicate = "bytesEquality" || row.predicate = "setMembership"

def docKind : Bool := row.predicate = "documentIntegrity" || row.predicate = "documentDiff"

end PredicateAttestation

section Services

variable (services : SubmissionServices)

/-- `verifyPredicateViaState` up to the reader: none where it answers false before. -/
def verifyPredicateViaState (row : PredicateAttestation) : Option ReadPredicateStateArgs :=
  if row.attesterId = "" then none
  else do
    let threshold ← if row.bytesKind || row.docKind then some none
      else (row.threshold.bind parseBigInt).map some
    some {
      attesterId := row.attesterId
      payloadHash := row.payloadHash
      threshold
      op := if row.bytesKind || row.docKind then none else some (row.op.getD 0 : Nat)
      fieldKey := truthy row.fieldKey
      expectedDigest := if row.predicate = "bytesEquality" then truthy row.expectedDigest else none
      setRoot := if row.predicate = "setMembership" then truthy row.setRoot else none
      payloadHashB := if row.docKind then truthy row.payloadHashB else none
      attesterIdB := if row.docKind then truthy row.attesterIdB else none
      allowedMask :=
        if row.predicate = "documentIntegrity" then some (row.allowedMask.getD 0) else none
      k :=
        if row.predicate = "documentDiff" then some ((row.threshold.bind parseBigInt).getD 0)
        else none
      slotWidth := services.slotWidthOf (vaultRef (.value row.compiledArtifactRef)) }

/-- The columns that every row about one field has. -/
def FieldClaimArgs.row (data : FieldClaimArgs) (rowId : Nat → String) (predicate : String) :
    PredicateAttestation where
  ID := rowId 0
  payloadHash := services.toLowerCase data.payloadHash.text
  attesterId := resolveAttester services data.sessionId data.attesterId
  contractAddress := data.contractAddress.text
  predicate := predicate
  op := none
  threshold := none
  fieldKey := some (services.toLowerCase data.fieldKey.text)
  expectedDigest := none
  setRoot := none
  payloadHashB := none
  attesterIdB := none
  allowedMask := none
  compiledArtifactRef := vaultRef data.compiledArtifactRef

/-- The row of `issueFieldPredicateAttestation`. -/
def FieldPredicateArgs.row (data : FieldPredicateArgs) (rowId : Nat → String) :
    PredicateAttestation :=
  { data.toFieldClaimArgs.row services rowId data.predicate.text with
    op := (data.predicate.get?.bind parsePredicate).bind (·.opCode)
    threshold := some data.threshold.text }

/-- The row of `issueFieldEqualityAttestation`. -/
def FieldEqualityArgs.row (data : FieldEqualityArgs) (rowId : Nat → String) :
    PredicateAttestation :=
  { data.toFieldClaimArgs.row services rowId "bytesEquality" with
    expectedDigest := some (digestOf services data.expectedDigest data.expectedValue) }

/-- The row of `issueFieldMembershipAttestation`. -/
def FieldMembershipArgs.row (data : FieldMembershipArgs) (rowId : Nat → String) :
    PredicateAttestation :=
  { data.toFieldClaimArgs.row services rowId "setMembership" with
    setRoot := some (FieldMembershipArgs.setOf (data.set services)).1 }

/-- The columns that both rows about two documents have. Document A is in the first ones. -/
def DocumentPairArgs.row (data : DocumentPairArgs) (rowId : Nat → String) (predicate : String) :
    PredicateAttestation where
  ID := rowId 0
  payloadHash := services.toLowerCase data.payloadHashA.text
  attesterId := data.attesterA services
  contractAddress := data.contractAddress.text
  predicate := predicate
  op := none
  threshold := none
  fieldKey := none
  expectedDigest := none
  setRoot := none
  payloadHashB := some (services.toLowerCase data.payloadHashB.text)
  attesterIdB := some (data.attesterB services)
  allowedMask := none
  compiledArtifactRef := vaultRef data.compiledArtifactRef

/-- The row of `issueDocumentIntegrityAttestation`. -/
def DocumentIntegrityArgs.row (data : DocumentIntegrityArgs) (rowId : Nat → String) :
    PredicateAttestation :=
  { data.toDocumentPairArgs.row services rowId "documentIntegrity" with
    allowedMask := some (data.allowedMask.get?.getD 0) }

/-- The row of `issueDocumentDiffAttestation`. The threshold column has the k. -/
def DocumentDiffArgs.row (data : DocumentDiffArgs) (rowId : Nat → String) : PredicateAttestation :=
  { data.toDocumentPairArgs.row services rowId "documentDiff" with
    threshold := some (numText (data.k.get?.getD 0)) }

/-- The row of one claim of a batch. -/
def BatchArgs.row (data : BatchArgs) (claim : BatchClaimCommand) : PredicateAttestation where
  ID := claim.predicateAttestationId
  payloadHash := services.toLowerCase data.payloadHash.text
  attesterId := resolveAttester services data.sessionId data.attesterId
  contractAddress := data.contractAddress.text
  predicate := claim.predicate
  op := claim.opCode
  threshold := if claim.predicate = "documentDiff" then claim.k.map numText else claim.threshold
  fieldKey := claim.fieldKey
  expectedDigest := claim.expectedDigest
  setRoot := claim.setRoot
  payloadHashB := claim.payloadHashB
  attesterIdB := claim.attesterIdB
  allowedMask := claim.allowedMask
  compiledArtifactRef := vaultRef data.compiledArtifactRef

/-- The rows of `issueFieldPredicateAttestationBatch`. -/
def BatchArgs.rows (data : BatchArgs) (rowId : Nat → String) : List PredicateAttestation :=
  (rowClaims rowId (claimsOf (uniqueClaims services data))).map (data.row services)

structure VerifyPredicateArgs where
  contractAddress : Arg String
  attesterId : Arg String
  payloadHash : Arg String
  fieldKey : Arg String := .undefined
  predicate : Arg String
  threshold : Arg String := .undefined
  expectedDigest : Arg String := .undefined
  setRoot : Arg String := .undefined
  payloadHashB : Arg String := .undefined
  attesterIdB : Arg String := .undefined
  allowedMask : Arg Int := .undefined
  k : Arg Int := .undefined
  compiledArtifactRef : Arg String

namespace VerifyPredicateArgs

variable (data : VerifyPredicateArgs)

def width : Nat := services.slotWidthOf (vaultRef data.compiledArtifactRef)

/-- `data.text ? data.text.toLowerCase() : undefined`. -/
def lowerGiven (arg : Arg String) : Option String :=
  if arg.given then some (services.toLowerCase arg.text) else none

/-- What is read whatever the predicate is. -/
def base : ReadPredicateStateArgs where
  attesterId := services.toLowerCase data.attesterId.text
  payloadHash := services.toLowerCase data.payloadHash.text
  attesterIdB := lowerGiven services data.attesterIdB
  fieldKey := lowerGiven services data.fieldKey
  slotWidth := services.slotWidthOf (vaultRef (.value (vaultRef data.compiledArtifactRef)))

def forPredicate : String := " is required for predicate '" ++ data.predicate.text ++ "'"

def checkFieldKey : Except String Unit :=
  check data.fieldKey.given ("fieldKey" ++ data.forPredicate)

def checkNumeric : Except String Int := do
  data.checkFieldKey
  check data.threshold.get?.isSome "threshold is required"
  match parseBigInt data.threshold.text with
  | none => .error "threshold must be an integer"
  | some threshold =>
    check (0 ≤ threshold) "threshold must be a non-negative integer"
    check (threshold ≤ UINT64_MAX) "threshold exceeds Uint<64>"
    return threshold

def integrity : Except String ReadPredicateStateArgs := do
  check data.payloadHashB.given ("payloadHashB" ++ data.forPredicate)
  let allowedMask := data.allowedMask.get?.getD (-1)
  check (0 ≤ allowedMask && allowedMask ≤ maxMaskOf (data.width services))
    ("allowedMask (integer 0.." ++ toString (maxMaskOf (data.width services)) ++
      ") is required for predicate 'documentIntegrity'")
  return { data.base services with
    payloadHashB := some (services.toLowerCase data.payloadHashB.text)
    allowedMask := some allowedMask }

def diff : Except String ReadPredicateStateArgs := do
  check data.payloadHashB.given ("payloadHashB" ++ data.forPredicate)
  let k := data.k.get?.getD 0
  check (1 ≤ k && k ≤ data.width services) ("k (integer 1.." ++ toString (data.width services) ++
      ") is required for predicate 'documentDiff'")
  return { data.base services with
    payloadHashB := some (services.toLowerCase data.payloadHashB.text), k := some k }

def equality : Except String ReadPredicateStateArgs := do
  data.checkFieldKey
  check data.expectedDigest.given "expectedDigest is required for predicate 'bytesEquality'"
  return { data.base services with
    expectedDigest := some (services.toLowerCase data.expectedDigest.text) }

def membership : Except String ReadPredicateStateArgs := do
  data.checkFieldKey
  check data.setRoot.given "setRoot is required for predicate 'setMembership'"
  return { data.base services with setRoot := some (services.toLowerCase data.setRoot.text) }

end VerifyPredicateArgs

/-- `verifyPredicateState` up to the reader. -/
def verifyPredicateState (data : VerifyPredicateArgs) : Except String ReadPredicateStateArgs := do
  check data.contractAddress.given "contractAddress is required"
  check data.attesterId.given "attesterId is required (the attester whose record carries the claim)"
  check data.payloadHash.given "payloadHash is required"
  match data.predicate.get?.bind parsePredicate with
  | none =>
    .error ("predicate must be 'lessOrEqual', 'greaterOrEqual', 'bytesEquality', " ++
      "'setMembership', 'documentIntegrity' or 'documentDiff'")
  | some parsed =>
    match parsed.kind with
    | .integrity => data.integrity services
    | .diff => data.diff services
    | .numeric => do
        let threshold ← data.checkNumeric
        return { data.base services with
          threshold := some threshold, op := parsed.opCode.map Int.ofNat }
    | .equality => data.equality services
    | .membership => data.membership services

end Services

end Nightgate.Submission
