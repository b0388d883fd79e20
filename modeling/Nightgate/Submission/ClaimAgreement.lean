import Nightgate.Submission.FingerprintCover
import Nightgate.Submission.PublicClaims

/-!
# Issued claims and their verification

A request for claims starts a job that proves them and records a row for each. Both functions that
verify a claim look up what the job proves: the one that reads the row, and the one that is given
the inputs of the request again.
-/

namespace Nightgate.Submission

open Library

inductive ClaimRequest where
  | fieldPredicate (data : FieldPredicateArgs)
  | fieldEquality (data : FieldEqualityArgs)
  | fieldMembership (data : FieldMembershipArgs)
  | documentIntegrity (data : DocumentIntegrityArgs)
  | documentDiff (data : DocumentDiffArgs)
  | batch (data : BatchArgs)

/-- The type `Hex64` of the service, whose format is checked before an action runs. -/
def Arg.Hex (arg : Arg String) : Prop := arg.get?.all isHex64 = true

section Services

variable (services : SubmissionServices)

/-! ## The same inputs -/

/-- Who verifies names the attester: the one named at the issue, or else the session's own. -/
def namedAttester (sessionId requested : Arg String) : Arg String :=
  if requested.given then requested else .value (services.attesterIdForSession sessionId.text)

/-- Who verifies names the digest: the one given at the issue, or else that of the text. -/
def namedDigest (digest text : Arg String) : Arg String :=
  if digest.given then digest else .value (services.blake2b256Hex text.text)

def FieldClaimArgs.verification (data : FieldClaimArgs) (predicate : Arg String) :
    VerifyPredicateArgs where
  contractAddress := data.contractAddress
  attesterId := namedAttester services data.sessionId data.attesterId
  payloadHash := data.payloadHash
  fieldKey := data.fieldKey
  predicate := predicate
  compiledArtifactRef := data.compiledArtifactRef

def FieldPredicateArgs.verification (data : FieldPredicateArgs) : VerifyPredicateArgs :=
  { data.toFieldClaimArgs.verification services data.predicate with threshold := data.threshold }

def FieldEqualityArgs.verification (data : FieldEqualityArgs) : VerifyPredicateArgs :=
  { data.toFieldClaimArgs.verification services (.value "bytesEquality") with
    expectedDigest := namedDigest services data.expectedDigest data.expectedValue }

/-- The root of the set is the one given, or that of the set built of the allowed values. -/
def FieldMembershipArgs.verification (data : FieldMembershipArgs) : VerifyPredicateArgs :=
  { data.toFieldClaimArgs.verification services (.value "setMembership") with
    setRoot :=
      if data.hasList then .value (FieldMembershipArgs.setOf (data.set services)).1
      else data.setRoot }

def DocumentPairArgs.verification (data : DocumentPairArgs) (predicate : String) :
    VerifyPredicateArgs where
  contractAddress := data.contractAddress
  attesterId := namedAttester services data.sessionId data.attesterIdA
  payloadHash := data.payloadHashA
  predicate := .value predicate
  payloadHashB := data.payloadHashB
  attesterIdB := data.attesterIdB
  compiledArtifactRef := data.compiledArtifactRef

def DocumentIntegrityArgs.verification (data : DocumentIntegrityArgs) : VerifyPredicateArgs :=
  { data.toDocumentPairArgs.verification services "documentIntegrity" with
    allowedMask := data.allowedMask }

def DocumentDiffArgs.verification (data : DocumentDiffArgs) : VerifyPredicateArgs :=
  { data.toDocumentPairArgs.verification services "documentDiff" with k := data.k }

/-- The root of the set that is built of the allowed values of an entry. -/
def BatchArgs.builtRoot (data : BatchArgs) (entry : BatchClaimArg) : String :=
  let digest := digestOf services entry.valueDigest entry.value
  match services.membershipPathFor (vaultRef data.compiledArtifactRef)
      (entry.allowedValues.get?.getD []) digest with
  | .ok (some member) => member.1
  | _ => ""

/-- One entry of the claims of a batch. -/
def BatchArgs.verification (data : BatchArgs) (entry : BatchClaimArg) : VerifyPredicateArgs where
  contractAddress := data.contractAddress
  attesterId := namedAttester services data.sessionId data.attesterId
  payloadHash := data.payloadHash
  fieldKey := entry.fieldKey
  predicate := entry.predicate
  threshold := entry.threshold
  expectedDigest := namedDigest services entry.expectedDigest entry.expectedValue
  setRoot := if entry.setRoot.given then entry.setRoot else .value (data.builtRoot services entry)
  payloadHashB := entry.payloadHashB
  attesterIdB := entry.attesterIdB
  allowedMask := entry.allowedMask
  k := entry.k
  compiledArtifactRef := data.compiledArtifactRef

namespace ClaimRequest

def issue (now : Int) : ClaimRequest → Except String ActionJob
  | .fieldPredicate data => issueFieldPredicateAttestation services now data
  | .fieldEquality data => issueFieldEqualityAttestation services now data
  | .fieldMembership data => issueFieldMembershipAttestation services now data
  | .documentIntegrity data => issueDocumentIntegrityAttestation services now data
  | .documentDiff data => issueDocumentDiffAttestation services now data
  | .batch data => issueFieldPredicateAttestationBatch services now data

/-- The rows that are recorded with the job. -/
def rows (rowId : Nat → String) : ClaimRequest → List PredicateAttestation
  | .fieldPredicate data => [data.row services rowId]
  | .fieldEquality data => [data.row services rowId]
  | .fieldMembership data => [data.row services rowId]
  | .documentIntegrity data => [data.row services rowId]
  | .documentDiff data => [data.row services rowId]
  | .batch data => data.rows services rowId

/-- A verification for each claim that is asked for, from the same inputs. -/
def verifications : ClaimRequest → List VerifyPredicateArgs
  | .fieldPredicate data => [data.verification services]
  | .fieldEquality data => [data.verification services]
  | .fieldMembership data => [data.verification services]
  | .documentIntegrity data => [data.verification services]
  | .documentDiff data => [data.verification services]
  | .batch data => (data.claims.get?.getD []).map (data.verification services)

end ClaimRequest

end Services

def FieldClaimArgs.Typed (data : FieldClaimArgs) : Prop :=
  data.payloadHash.Hex ∧ data.attesterId.Hex ∧ data.fieldKey.Hex

def DocumentPairArgs.Typed (data : DocumentPairArgs) : Prop :=
  data.payloadHashA.Hex ∧ data.payloadHashB.Hex ∧ data.attesterIdA.Hex ∧ data.attesterIdB.Hex

/-- The inputs have the types of the service, as far as the action does not check them itself. -/
def ClaimRequest.Typed : ClaimRequest → Prop
  | .fieldPredicate data => data.toFieldClaimArgs.Typed
  | .fieldEquality data => data.toFieldClaimArgs.Typed ∧ data.expectedDigest.Hex
  | .fieldMembership data => data.toFieldClaimArgs.Typed ∧ data.setRoot.Hex
  | .documentIntegrity data => data.toDocumentPairArgs.Typed
  | .documentDiff data => data.toDocumentPairArgs.Typed
  | .batch data =>
    data.payloadHash.Hex ∧ data.attesterId.Hex ∧ data.contentRoot.Hex ∧ data.schemaId.Hex

/-- A text of 64 hex digits in lower case. -/
def SubmissionServices.LowerHex (services : SubmissionServices) (text : String) : Prop :=
  isHex64 text ∧ services.toLowerCase text = text

/-- The case mapping keeps hex texts hex texts, and has nothing to do on its own results; the ids
and digests that are computed are hex texts in lower case. -/
structure SubmissionServices.Lawful (services : SubmissionServices) : Prop where
  toLowerCase : ∀ text, isHex64 text → services.LowerHex (services.toLowerCase text)
  attesterIdForSession : ∀ sessionId, services.LowerHex (services.attesterIdForSession sessionId)
  blake2b256Hex : ∀ text, services.LowerHex (services.blake2b256Hex text)
  membershipPathFor : ∀ compiledRef allowed digest member,
    services.membershipPathFor compiledRef allowed digest = .ok (some member) →
      services.LowerHex member.1

section Lawful

variable {services : SubmissionServices}

theorem lowerHex_of_given (lawful : services.Lawful) {arg : Arg String} (given : arg.given = true)
    (hex : arg.Hex) :
    services.LowerHex (services.toLowerCase arg.text) := by
  cases arg with
  | undefined | null => cases given
  | value text => exact lawful.toLowerCase text hex

theorem resolveAttester_lowerHex (lawful : services.Lawful) {sessionId requested : Arg String}
    (hex : requested.Hex) :
    services.LowerHex (resolveAttester services sessionId requested) := by
  unfold resolveAttester
  split
  next given => exact lowerHex_of_given lawful given hex
  · exact lawful.attesterIdForSession sessionId.text

/-- A text in lower case is given, and it is its own lower case. -/
theorem lowersTo_value {text : String} (hex : services.LowerHex text) :
    LowersTo services (.value text) text := by
  refine ⟨?_, hex.2⟩
  simp [Arg.given, Arg.get?, ne_empty_of_hex hex.1]

theorem namedAttester_lowersTo (lawful : services.Lawful) (sessionId requested : Arg String) :
    LowersTo services (namedAttester services sessionId requested)
      (resolveAttester services sessionId requested) := by
  unfold namedAttester resolveAttester
  split
  next given => exact ⟨given, rfl⟩
  · exact lowersTo_value (lawful.attesterIdForSession sessionId.text)

theorem digestOf_lowerHex (lawful : services.Lawful) {digest text : Arg String} (hex : digest.Hex) :
    services.LowerHex (digestOf services digest text) := by
  unfold digestOf
  split
  next given => exact lowerHex_of_given lawful given hex
  · exact lawful.blake2b256Hex text.text

theorem namedDigest_lowersTo (lawful : services.Lawful) (digest text : Arg String) :
    LowersTo services (namedDigest services digest text) (digestOf services digest text) := by
  unfold namedDigest digestOf
  split
  next given => exact ⟨given, rfl⟩
  · exact lowersTo_value (lawful.blake2b256Hex text.text)

end Lawful

section Agreement

variable {Mask : Type} (services : SubmissionServices)
  (persistentHash : List Nat → List Nat → String) (expandAllowedMask : Int → Nat → Mask)

/-- The proof step of the command passes these claims to its circuits. -/
def Passes (configured : Option Nat) (readings : Nat → Nat) (command : ContractCommandV1)
    (tuples : List (ClaimTuple String Mask)) : Prop :=
  ∃ proof passed, command.proofCommand persistentHash configured readings = some proof ∧
    proof.claims expandAllowedMask (fun ref => services.slotWidthOf (vaultRef (.value ref)))
      command.proofNames.1 = some passed ∧ tuples.mapM ClaimTuple.bytes = some passed

def LooksUpRow (row : PredicateAttestation) (tuple : ClaimTuple String Mask) : Prop :=
  ∃ args, verifyPredicateViaState services row = some args ∧
    LooksUp persistentHash expandAllowedMask args tuple

def LooksUpNamed (data : VerifyPredicateArgs) (tuple : ClaimTuple String Mask) : Prop :=
  ∃ args, verifyPredicateState services data = .ok args ∧
    LooksUp persistentHash expandAllowedMask args tuple

/-- The job, its rows and the verifications are about the same claims, in the same order. A claim
that is asked for twice is proved and recorded once. -/
structure Agrees (configured : Option Nat) (readings : Nat → Nat) (command : ContractCommandV1)
    (rows : List PredicateAttestation) (verifications : List VerifyPredicateArgs)
    (asked tuples : List (ClaimTuple String Mask)) : Prop where
  passes : Passes services persistentHash expandAllowedMask configured readings command tuples
  recorded : List.Forall₂ (LooksUpRow services persistentHash expandAllowedMask) rows tuples
  named : List.Forall₂ (LooksUpNamed services persistentHash expandAllowedMask) verifications asked
  fromAsked : tuples.Sublist asked
  complete : ∀ tuple ∈ asked, tuple ∈ tuples

end Agreement

section Singles

variable {Mask : Type} {services : SubmissionServices}
  {persistentHash : List Nat → List Nat → String} {expandAllowedMask : Int → Nat → Mask}
  {subject : ClaimSubject} {claim : PublicClaim}

theorem PublicClaim.RecordedBy.looksUp {row : PredicateAttestation}
    (recorded : claim.RecordedBy services subject row) (subjectHex : subject.Hex)
    (hex : claim.Hex) :
    LooksUpRow services persistentHash expandAllowedMask row
      (claim.tuple persistentHash expandAllowedMask subject) := by
  rcases recorded.read subjectHex hex with ⟨args, isRead, reads⟩
  exact ⟨args, isRead, reads.looksUp subjectHex hex⟩

theorem PublicClaim.NamedBy.looksUp {data : VerifyPredicateArgs}
    (named : claim.NamedBy services subject data) (subjectHex : subject.Hex) (hex : claim.Hex) :
    LooksUpNamed services persistentHash expandAllowedMask data
      (claim.tuple persistentHash expandAllowedMask subject) := by
  rcases named.read with ⟨args, isRead, reads⟩
  exact ⟨args, isRead, reads.looksUp subjectHex hex⟩

/-- A proof step that makes the call of one claim passes that claim. -/
theorem passes_of_call {configured : Option Nat} {readings : Nat → Nat}
    {command : ContractCommandV1} {contractAddress compiledArtifactRef : String}
    {merkleProof : Option MerkleProofBundle} {sponsorSessionId : Option String} {validUntil : Int}
    (hashes : HashesToHex persistentHash) (hex : claim.Hex)
    (proof : command.proofCommand persistentHash configured readings =
      some (.call contractAddress claim.circuit compiledArtifactRef
        (claim.args persistentHash subject validUntil) merkleProof sponsorSessionId))
    (width : services.slotWidthOf (vaultRef (.value compiledArtifactRef)) = subject.width)
    (types : ∀ width, typesOfKind expandAllowedMask width command.proofNames.1 =
      some (typesOfCircuit expandAllowedMask width claim.circuit)) :
    Passes services persistentHash expandAllowedMask configured readings command
      [claim.tuple persistentHash expandAllowedMask subject] := by
  rcases claim.claimOfCall_args expandAllowedMask hashes subject hex validUntil with
    ⟨coerced, passed, isCoerced, isClaim, isBytes⟩
  refine ⟨_, [passed], proof, ?_, ?_⟩
  · simp [StepCommand.claims, width, types, isCoerced, isClaim]
  · simp [isBytes]

/-- One claim that is proved, recorded and named. -/
theorem agrees_single {configured : Option Nat} {readings : Nat → Nat}
    {command : ContractCommandV1} {row : PredicateAttestation} {data : VerifyPredicateArgs}
    (subjectHex : subject.Hex) (hex : claim.Hex)
    (passes : Passes services persistentHash expandAllowedMask configured readings command
      [claim.tuple persistentHash expandAllowedMask subject])
    (recorded : claim.RecordedBy services subject row)
    (named : claim.NamedBy services subject data) :
    ∃ asked tuples, Agrees services persistentHash expandAllowedMask configured readings command
      [row] [data] asked tuples := by
  refine ⟨_, _, passes, ?_, ?_, List.Sublist.refl _, fun _ isMem => isMem⟩
  · exact .cons (recorded.looksUp subjectHex hex) .nil
  · exact .cons (named.looksUp subjectHex hex) .nil

end Singles

/-! ## Accepted arguments -/

theorem of_need {holds : Bool} {message : String} (passed : need holds message = none) :
    holds = true := by
  unfold need at passed
  split at passed
  next isTrue => exact isTrue
  · cases passed

theorem of_rejectionOf {Value : Type} {read : Except String Value}
    (passed : rejectionOf read = none) : ∃ value, read = .ok value := by
  cases read with
  | ok value => exact ⟨value, rfl⟩
  | error message => cases passed

theorem readUnsignedArg_ok {raw : Arg String} {name : String} {max value : Int} {exceeds : String}
    (read : readUnsignedArg raw name max exceeds = .ok value) :
    raw.given = true ∧ parseBigInt raw.text = some value ∧ 0 ≤ value ∧ value ≤ max := by
  unfold readUnsignedArg at read
  split at read
  next given =>
    split at read
    · cases read
    next n isNumber =>
      split at read
      · cases read
      next nonneg =>
        split at read
        · cases read
        next bounded =>
          cases read
          exact ⟨given, isNumber, by omega, by omega⟩
  · cases read

theorem isSome_of_given {arg : Arg String} (given : arg.given = true) : arg.get?.isSome = true := by
  cases arg with
  | undefined | null => cases given
  | value text => rfl

/-- The predicates of a numeric claim. -/
theorem numeric_literal {literal : String} {parsed : ParsedPredicate}
    (isParsed : parsePredicate literal = some parsed) (numeric : parsed.kind = .numeric) :
    (literal = "lessOrEqual" ∨ literal = "greaterOrEqual") ∧ ∃ op, parsed.opCode = some op := by
  unfold parsePredicate at isParsed
  split at isParsed
  next isLess =>
    cases isParsed
    exact ⟨.inl isLess, 0, rfl⟩
  · split at isParsed
    next isGreater =>
      cases isParsed
      exact ⟨.inr isGreater, 1, rfl⟩
    · repeat' split at isParsed
      all_goals cases isParsed
      all_goals cases numeric

theorem notBytes_of_numeric {row : PredicateAttestation}
    (numeric : row.predicate = "lessOrEqual" ∨ row.predicate = "greaterOrEqual") :
    row.bytesKind = false ∧ row.docKind = false := by
  unfold PredicateAttestation.bytesKind PredicateAttestation.docKind
  cases numeric with
  | inl isLess =>
    rw [isLess]
    decide
  | inr isGreater =>
    rw [isGreater]
    decide

theorem text_of_get? {arg : Arg String} {text : String} (isText : arg.get? = some text) :
    arg.text = text := by
  cases arg with
  | undefined | null => cases isText
  | value other => exact Option.some.inj isText

/-- The first document of a request. -/
def subjectOf (services : SubmissionServices)
    (sessionId attesterId payloadHash compiledArtifactRef : Arg String) : ClaimSubject where
  attesterId := resolveAttester services sessionId attesterId
  payloadHash := services.toLowerCase payloadHash.text
  width := services.slotWidthOf (vaultRef compiledArtifactRef)

section Subjects

variable {services : SubmissionServices}
  {sessionId attesterId payloadHash compiledArtifactRef : Arg String} {claim : PublicClaim}

theorem subjectOf_hex (lawful : services.Lawful) (attesterHex : attesterId.Hex)
    (payloadHex : payloadHash.Hex) (given : payloadHash.given = true) :
    (subjectOf services sessionId attesterId payloadHash compiledArtifactRef).Hex :=
  ⟨(resolveAttester_lowerHex lawful attesterHex).1, (lowerHex_of_given lawful given payloadHex).1⟩

theorem recordedBy_subjectOf {row : PredicateAttestation}
    (sameAttester : row.attesterId = resolveAttester services sessionId attesterId)
    (samePayload : row.payloadHash = services.toLowerCase payloadHash.text)
    (sameRef : row.compiledArtifactRef = vaultRef compiledArtifactRef)
    (stored : claim.StoredIn row) :
    claim.RecordedBy services
      (subjectOf services sessionId attesterId payloadHash compiledArtifactRef) row := by
  refine ⟨sameAttester, samePayload, ?_, stored⟩
  rw [sameRef, vaultRef_vaultRef]
  rfl

/-- The arguments of a verification name the documents of the claim. -/
theorem namedBy_subjectOf (lawful : services.Lawful) {data : VerifyPredicateArgs}
    (contract : data.contractAddress.given = true) (given : payloadHash.given = true)
    (sameAttester : data.attesterId = namedAttester services sessionId attesterId)
    (samePayload : data.payloadHash = payloadHash)
    (sameRef : data.compiledArtifactRef = compiledArtifactRef)
    (named : claim.NamedIn services
      (subjectOf services sessionId attesterId payloadHash compiledArtifactRef) data) :
    claim.NamedBy services
      (subjectOf services sessionId attesterId payloadHash compiledArtifactRef) data := by
  refine ⟨contract, ?_, ?_, ?_, named⟩
  · rw [sameAttester]
    exact namedAttester_lowersTo lawful sessionId attesterId
  · rw [samePayload]
    exact ⟨given, rfl⟩
  · rw [sameRef]
    rfl

end Subjects

namespace FieldClaimArgs

variable {services : SubmissionServices} {data : FieldClaimArgs}

abbrev subject (services : SubmissionServices) (data : FieldClaimArgs) : ClaimSubject :=
  subjectOf services data.sessionId data.attesterId data.payloadHash data.compiledArtifactRef

/-- The proof of a claim about one field passes that claim. -/
theorem passes {Mask : Type} {persistentHash : List Nat → List Nat → String}
    {expandAllowedMask : Int → Nat → Mask} {configured : Option Nat} {readings : Nat → Nat}
    {claim : PublicClaim} {command : ContractCommandV1} {workflow : FieldWorkflow}
    {operand : List (Option String)} {merkleProof : MerkleProofBundle} {validUntil : Int}
    (hashes : HashesToHex persistentHash) (subjectHex : (data.subject services).Hex)
    (hex : claim.Hex)
    (proof : command.proofCommand persistentHash configured readings =
      workflow.proofCommand persistentHash claim.circuit operand merkleProof validUntil)
    (attesterId : workflow.attesterId = (data.subject services).attesterId)
    (payloadHash : workflow.payloadHash = (data.subject services).payloadHash)
    (compiledRef : workflow.compiledArtifactRef = vaultRef data.compiledArtifactRef)
    (args : [some ((data.subject services).recordKey persistentHash), some workflow.fieldKey] ++
      operand ++ [some (numText validUntil)] =
        claim.args persistentHash (data.subject services) validUntil)
    (types : ∀ width, typesOfKind expandAllowedMask width command.proofNames.1 =
      some (typesOfCircuit expandAllowedMask width claim.circuit)) :
    Passes services persistentHash expandAllowedMask configured readings command
      [claim.tuple persistentHash expandAllowedMask (data.subject services)] := by
  have width : services.slotWidthOf (vaultRef (.value workflow.compiledArtifactRef)) =
      (data.subject services).width := by
    rw [compiledRef, vaultRef_vaultRef]
    rfl
  have key : computeRecordKey persistentHash workflow.attesterId workflow.payloadHash =
      some ((data.subject services).recordKey persistentHash) := by
    rw [attesterId, payloadHash]
    exact computeRecordKey_of_hex persistentHash subjectHex.1 subjectHex.2
  have isCall : command.proofCommand persistentHash configured readings =
      some (.call workflow.contractAddress claim.circuit workflow.compiledArtifactRef
        (claim.args persistentHash (data.subject services) validUntil) (some merkleProof)
        workflow.sponsorSessionId) := by
    rw [proof, FieldWorkflow.proofCommand, key, ← args]
    rfl
  exact passes_of_call hashes hex isCall width types

end FieldClaimArgs

section Fields

variable {Mask : Type} {services : SubmissionServices}
  {persistentHash : List Nat → List Nat → String} {now : Int} {job : ActionJob}

/-- A request for one claim, its job and its row. -/
def SingleAgrees (services : SubmissionServices) (persistentHash : List Nat → List Nat → String)
    (expandAllowedMask : Int → Nat → Mask) (configured : Option Nat) (readings : Nat → Nat)
    (command : ContractCommandV1) (row : PredicateAttestation) (data : VerifyPredicateArgs) :
    Prop :=
  ∃ asked tuples, Agrees services persistentHash expandAllowedMask configured readings command
    [row] [data] asked tuples

/-- The root of the set is a hex text in lower case, and it is named as it is recorded. -/
theorem FieldMembershipArgs.setRoot_named (lawful : services.Lawful) {data : FieldMembershipArgs}
    (typed : data.setRoot.Hex) (given : data.hasList = false → data.setRoot.given = true)
    {set : String × SetProof} (isSet : data.set services = .ok set) :
    services.LowerHex set.1 ∧ LowersTo services (data.verification services).setRoot set.1 := by
  have setRoot : (data.verification services).setRoot =
      if data.hasList then .value set.1 else data.setRoot := by
    unfold FieldMembershipArgs.verification
    rw [isSet]
    rfl
  rw [setRoot]
  unfold FieldMembershipArgs.set at isSet
  cases hasList : data.hasList with
  | true =>
    rw [hasList, if_pos rfl] at isSet
    dsimp only at isSet
    split at isSet
    · cases isSet
    · split at isSet
      · cases isSet
      · split at isSet
        · cases isSet
        · cases isSet
        next member isMember =>
          cases isSet
          have lower := lawful.membershipPathFor _ _ _ _ isMember
          exact ⟨lower, lowersTo_value lower⟩
  | false =>
    rw [hasList, if_neg Bool.false_ne_true] at isSet
    split at isSet
    · cases isSet
    · cases isSet
      exact ⟨lowerHex_of_given lawful (given hasList) typed, given hasList, rfl⟩

variable (lawful : services.Lawful) (hashes : HashesToHex persistentHash)
  (expandAllowedMask : Int → Nat → Mask) (rowId : Nat → String) (configured : Option Nat)
  (readings : Nat → Nat)

include lawful hashes

theorem fieldPredicate_agrees {data : FieldPredicateArgs} (typed : data.toFieldClaimArgs.Typed)
    (issued : issueFieldPredicateAttestation services now data = .ok job) :
    SingleAgrees services persistentHash expandAllowedMask configured readings (job.command rowId)
      (data.row services rowId) (data.verification services) := by
  rcases of_accept_ok issued with ⟨checks, rfl⟩
  simp only [FieldClaimArgs.lastChecks, List.cons_append, List.nil_append, List.forall_mem_cons,
    List.not_mem_nil] at checks
  rcases checks with ⟨_, payload, field, _, _, read, kind, _, _, _, contract, _, _⟩
  rcases of_rejectionOf read with ⟨threshold, isRead⟩
  rcases readUnsignedArg_ok isRead with ⟨given, isThreshold, nonneg, bounded⟩
  rcases (Option.any_eq_true _ _).mp (of_need kind) with ⟨parsed, isParsed, numeric⟩
  rcases Option.bind_eq_some_iff.mp isParsed with ⟨literal, isLiteral, parses⟩
  rcases numeric_literal parses (of_decide_eq_true numeric) with ⟨isNumeric, op, isOp⟩
  have payload := of_need payload
  have fieldHex := lowerHex_of_given lawful (of_need field) typed.2.2
  have subjectHex : (data.subject services).Hex := subjectOf_hex lawful typed.2.1 typed.1 payload
  have opCode : (data.predicate.get?.bind parsePredicate).bind (·.opCode) = some op := by
    rw [isParsed]
    exact isOp
  have hex : (PublicClaim.field (services.toLowerCase data.fieldKey.text) threshold op).Hex :=
    fieldHex.1
  refine agrees_single subjectHex hex ?_ ?_ ?_
  · refine FieldClaimArgs.passes hashes subjectHex hex rfl rfl rfl rfl ?_ fun _ => rfl
    simp only [isRead, numberText, opCode]
    rfl
  · refine recordedBy_subjectOf rfl rfl rfl ?_
    have predicate : (data.row services rowId).predicate = literal := text_of_get? isLiteral
    rw [← predicate] at isNumeric
    rcases notBytes_of_numeric isNumeric with ⟨notBytes, notDoc⟩
    exact ⟨notBytes, notDoc, rfl, isThreshold, opCode⟩
  · refine namedBy_subjectOf lawful (of_need contract) payload rfl rfl rfl ?_
    have isOf : (data.verification services).IsOf .numeric (some op) := by
      rw [VerifyPredicateArgs.IsOf, ← of_decide_eq_true numeric, ← isOp]
      exact isParsed
    have bound : threshold ≤ UINT64_MAX := bounded.trans (by decide)
    exact ⟨isOf, ⟨of_need field, rfl⟩, isSome_of_given given, isThreshold, nonneg, bound⟩

theorem fieldEquality_agrees {data : FieldEqualityArgs}
    (typed : data.toFieldClaimArgs.Typed) (digestTyped : data.expectedDigest.Hex)
    (issued : issueFieldEqualityAttestation services now data = .ok job) :
    SingleAgrees services persistentHash expandAllowedMask configured readings (job.command rowId)
      (data.row services rowId) (data.verification services) := by
  rcases of_accept_ok issued with ⟨checks, rfl⟩
  simp only [FieldClaimArgs.lastChecks, List.cons_append, List.nil_append, List.forall_mem_cons,
    List.not_mem_nil] at checks
  rcases checks with ⟨_, payload, field, _, _, _, _, _, contract, _, _⟩
  have payload := of_need payload
  have fieldHex := lowerHex_of_given lawful (of_need field) typed.2.2
  have digestHex : services.LowerHex (digestOf services data.expectedDigest data.expectedValue) :=
    digestOf_lowerHex lawful digestTyped
  have subjectHex : (data.subject services).Hex := subjectOf_hex lawful typed.2.1 typed.1 payload
  have hex : (PublicClaim.equality (services.toLowerCase data.fieldKey.text)
      (digestOf services data.expectedDigest data.expectedValue)).Hex :=
    ⟨fieldHex.1, digestHex.1⟩
  refine agrees_single subjectHex hex ?_ ?_ ?_
  · exact FieldClaimArgs.passes hashes subjectHex hex rfl rfl rfl rfl rfl fun _ => rfl
  · exact recordedBy_subjectOf rfl rfl rfl ⟨rfl, rfl, rfl⟩
  · refine namedBy_subjectOf lawful (of_need contract) payload rfl rfl rfl ?_
    exact ⟨rfl, ⟨of_need field, rfl⟩,
      namedDigest_lowersTo lawful data.expectedDigest data.expectedValue⟩

theorem fieldMembership_agrees {data : FieldMembershipArgs}
    (typed : data.toFieldClaimArgs.Typed) (rootTyped : data.setRoot.Hex)
    (issued : issueFieldMembershipAttestation services now data = .ok job) :
    SingleAgrees services persistentHash expandAllowedMask configured readings (job.command rowId)
      (data.row services rowId) (data.verification services) := by
  rcases of_accept_ok issued with ⟨checks, rfl⟩
  simp only [List.forall_mem_cons, List.not_mem_nil] at checks
  rcases checks with ⟨_, payload, field, _, _, _, whole, _, _, _, contract, isSet, _, _⟩
  rcases of_rejectionOf isSet with ⟨set, isSet⟩
  have payload := of_need payload
  have fieldHex := lowerHex_of_given lawful (of_need field) typed.2.2
  have given : data.hasList = false → data.setRoot.given = true := by
    intro noList
    have isWhole := of_need whole
    simp only [noList, Bool.false_or, FieldMembershipArgs.hasWholeSetPath, Bool.and_eq_true]
      at isWhole
    exact isWhole.1.1
  rcases data.setRoot_named lawful rootTyped given isSet with ⟨rootHex, named⟩
  have recorded : (FieldMembershipArgs.setOf (data.set services)).1 = set.1 := by
    rw [isSet]
    rfl
  have subjectHex : (data.subject services).Hex := subjectOf_hex lawful typed.2.1 typed.1 payload
  have hex : (PublicClaim.membership (services.toLowerCase data.fieldKey.text) set.1).Hex :=
    ⟨fieldHex.1, rootHex.1⟩
  refine agrees_single subjectHex hex ?_ ?_ ?_
  · refine FieldClaimArgs.passes hashes subjectHex hex rfl rfl rfl rfl ?_ fun _ => rfl
    rw [recorded]
    rfl
  · exact recordedBy_subjectOf rfl rfl rfl ⟨rfl, rfl, congrArg some recorded⟩
  · refine namedBy_subjectOf lawful (of_need contract) payload rfl rfl rfl ?_
    exact ⟨rfl, ⟨of_need field, rfl⟩, named⟩

end Fields

/-! ## Claims about two documents -/

namespace DocumentPairArgs

variable {services : SubmissionServices} {data : DocumentPairArgs}

abbrev subject (services : SubmissionServices) (data : DocumentPairArgs) : ClaimSubject :=
  subjectOf services data.sessionId data.attesterIdA data.payloadHashA data.compiledArtifactRef

/-- Who leaves the attester of B out means that of A, at the issue and at the verification. -/
theorem attesterB_named (lawful : services.Lawful) (typed : data.Typed) :
    isHex64 (data.attesterB services) ∧
      (VerifyPredicateArgs.lowerGiven services data.attesterIdB).getD
        (data.subject services).attesterId = data.attesterB services := by
  have attesterA : services.LowerHex (data.attesterA services) :=
    resolveAttester_lowerHex lawful typed.2.2.1
  have fallback : resolveAttester services data.sessionId (.value (data.attesterA services)) =
      data.attesterA services := by
    have lowers := lowersTo_value attesterA
    unfold resolveAttester
    rw [if_pos lowers.1]
    exact lowers.2
  unfold attesterB requestedB
  cases isB : data.attesterIdB with
  | undefined | null =>
    rw [fallback]
    exact ⟨attesterA.1, rfl⟩
  | value text =>
    have hex := typed.2.2.2
    rw [isB] at hex
    have given : (Arg.value text).given = true := by
      simp [Arg.given, Arg.get?, ne_empty_of_hex hex]
    refine ⟨(resolveAttester_lowerHex lawful hex).1, ?_⟩
    unfold VerifyPredicateArgs.lowerGiven resolveAttester
    rw [if_pos given, if_pos given]
    rfl

/-- The proof of a claim about two documents passes that claim. -/
theorem passes {Mask : Type} {persistentHash : List Nat → List Nat → String}
    {expandAllowedMask : Int → Nat → Mask} {configured : Option Nat} {readings : Nat → Nat}
    {claim : PublicClaim} {command : ContractCommandV1} {mode : List (Option String)}
    {rowId : Nat → String} {validUntil : Int} (hashes : HashesToHex persistentHash)
    (subjectHex : (data.subject services).Hex) (hex : claim.Hex)
    (isComparison : claim.circuit = "proveDocumentComparison")
    (hexB : isHex64 (data.attesterB services) ∧
      isHex64 (services.toLowerCase data.payloadHashB.text))
    (proof : command.proofCommand persistentHash configured readings =
      (data.workflow services rowId).proofCommand persistentHash mode validUntil)
    (args : [some ((data.subject services).recordKey persistentHash),
        some (recordKeyOf persistentHash (data.attesterB services)
          (services.toLowerCase data.payloadHashB.text))] ++ mode ++ [some (numText validUntil)] =
      claim.args persistentHash (data.subject services) validUntil)
    (types : ∀ width, typesOfKind expandAllowedMask width command.proofNames.1 =
      some (typesOfCircuit expandAllowedMask width claim.circuit)) :
    Passes services persistentHash expandAllowedMask configured readings command
      [claim.tuple persistentHash expandAllowedMask (data.subject services)] := by
  have keyA : computeRecordKey persistentHash (data.attesterA services)
      (services.toLowerCase data.payloadHashA.text) =
        some ((data.subject services).recordKey persistentHash) :=
    computeRecordKey_of_hex persistentHash subjectHex.1 subjectHex.2
  have keyB := computeRecordKey_of_hex persistentHash hexB.1 hexB.2
  have isCall : command.proofCommand persistentHash configured readings =
      some (.call (data.workflow services rowId).contractAddress claim.circuit
        (vaultRef data.compiledArtifactRef)
        (claim.args persistentHash (data.subject services) validUntil)
        (some { docPair := some ⟨some (data.workflow services rowId).schema,
          some (data.workflow services rowId).openingA,
          some (data.workflow services rowId).openingB⟩ })
        (data.workflow services rowId).sponsorSessionId) := by
    rw [proof, isComparison, ← args]
    unfold DocumentPairWorkflow.proofCommand workflow
    rw [keyA, keyB]
    rfl
  exact passes_of_call hashes hex isCall (by rw [vaultRef_vaultRef]; rfl) types

end DocumentPairArgs

section Documents

variable {Mask : Type} {services : SubmissionServices}
  {persistentHash : List Nat → List Nat → String} {now : Int} {job : ActionJob}

variable (lawful : services.Lawful) (hashes : HashesToHex persistentHash)
  (expandAllowedMask : Int → Nat → Mask) (rowId : Nat → String) (configured : Option Nat)
  (readings : Nat → Nat)

include lawful hashes

theorem documentIntegrity_agrees {data : DocumentIntegrityArgs}
    (typed : data.toDocumentPairArgs.Typed)
    (issued : issueDocumentIntegrityAttestation services now data = .ok job) :
    SingleAgrees services persistentHash expandAllowedMask configured readings (job.command rowId)
      (data.row services rowId) (data.verification services) := by
  rcases of_accept_ok issued with ⟨checks, rfl⟩
  simp only [DocumentPairArgs.firstChecks, DocumentPairArgs.lastChecks, List.cons_append,
    List.nil_append, List.forall_mem_cons, List.not_mem_nil] at checks
  rcases checks with ⟨_, payloadA, payloadB, _, isMask, bounds, _, _, _, _, _, contract, _, _, _⟩
  have payloadA := of_need payloadA
  have payloadB := of_need payloadB
  rcases Option.isSome_iff_exists.mp (of_need isMask) with ⟨allowedMask, isMask⟩
  have bounds := of_need bounds
  simp only [isMask, Option.getD_some, Bool.and_eq_true, decide_eq_true_eq] at bounds
  have isRecorded : data.allowedMask.get?.getD 0 = allowedMask := by rw [isMask]; rfl
  have hashB := lowerHex_of_given lawful payloadB typed.2.1
  rcases data.attesterB_named lawful typed with ⟨attesterHex, attesterNamed⟩
  have subjectHex : (data.subject services).Hex :=
    subjectOf_hex lawful typed.2.2.1 typed.1 payloadA
  have hex : (PublicClaim.integrity (services.toLowerCase data.payloadHashB.text)
      (data.attesterB services) allowedMask).Hex := ⟨attesterHex, hashB.1⟩
  refine agrees_single subjectHex hex ?_ ?_ ?_
  · refine data.passes hashes subjectHex hex rfl ⟨attesterHex, hashB.1⟩ rfl ?_ fun _ => rfl
    rw [isRecorded]
    rfl
  · exact recordedBy_subjectOf rfl rfl rfl ⟨rfl, rfl, rfl, congrArg some isRecorded⟩
  · refine namedBy_subjectOf lawful (of_need contract) payloadA rfl rfl rfl ?_
    exact ⟨rfl, ⟨payloadB, rfl⟩, attesterNamed, isMask, bounds.1, bounds.2⟩

theorem documentDiff_agrees {data : DocumentDiffArgs} (typed : data.toDocumentPairArgs.Typed)
    (issued : issueDocumentDiffAttestation services now data = .ok job) :
    SingleAgrees services persistentHash expandAllowedMask configured readings (job.command rowId)
      (data.row services rowId) (data.verification services) := by
  rcases of_accept_ok issued with ⟨checks, rfl⟩
  simp only [DocumentPairArgs.firstChecks, DocumentPairArgs.lastChecks, List.cons_append,
    List.nil_append, List.forall_mem_cons, List.not_mem_nil] at checks
  rcases checks with ⟨_, payloadA, payloadB, _, isK, bounds, _, _, _, contract, _, _, _⟩
  have payloadA := of_need payloadA
  have payloadB := of_need payloadB
  rcases Option.isSome_iff_exists.mp (of_need isK) with ⟨k, isK⟩
  have bounds := of_need bounds
  simp only [isK, Option.getD_some, Bool.and_eq_true, decide_eq_true_eq] at bounds
  have isRecorded : data.k.get?.getD 0 = k := by rw [isK]; rfl
  have hashB := lowerHex_of_given lawful payloadB typed.2.1
  rcases data.attesterB_named lawful typed with ⟨attesterHex, attesterNamed⟩
  have subjectHex : (data.subject services).Hex :=
    subjectOf_hex lawful typed.2.2.1 typed.1 payloadA
  have hex : (PublicClaim.diff (services.toLowerCase data.payloadHashB.text)
      (data.attesterB services) k).Hex := ⟨attesterHex, hashB.1⟩
  refine agrees_single subjectHex hex ?_ ?_ ?_
  · refine data.passes hashes subjectHex hex rfl ⟨attesterHex, hashB.1⟩ rfl ?_ fun _ => rfl
    rw [isRecorded]
    rfl
  · refine recordedBy_subjectOf rfl rfl rfl ⟨rfl, rfl, rfl, ?_⟩
    show parseBigInt (numText (data.k.get?.getD 0)) = some k
    rw [isRecorded, parseBigInt_numText]
  · refine namedBy_subjectOf lawful (of_need contract) payloadA rfl rfl rfl ?_
    exact ⟨rfl, ⟨payloadB, rfl⟩, attesterNamed, isK, bounds.1, bounds.2⟩

end Documents

end Nightgate.Submission
