import Nightgate.Library.Fallible
import Nightgate.Submission.ActionRequests
import Nightgate.Submission.JobAdmission

/-!
# What the fingerprint covers

Two requests with one key get one job if their fingerprints agree, and then the job runs the command
of the first. The fields that the fingerprint is taken of are listed by hand, and none of the lists
has all that the command is made of: but for the anchoring of a document, each leaves out the name
of the compiled contract, the claims leave out how long they are valid, and some leave out more.
-/

namespace Nightgate.Submission

open Library

inductive ActionRequest where
  | anchorDocument (data : AnchorDocumentArgs)
  | registerPassport (data : RegisterPassportArgs)
  | retractAttestation (data : RetractAttestationArgs)
  | purgeExpired (data : PurgeExpiredArgs)
  | issueFieldPredicateAttestation (data : FieldPredicateArgs)
  | issueFieldEqualityAttestation (data : FieldEqualityArgs)
  | issueFieldMembershipAttestation (data : FieldMembershipArgs)
  | issueDocumentIntegrityAttestation (data : DocumentIntegrityArgs)
  | issueDocumentDiffAttestation (data : DocumentDiffArgs)
  | issueFieldPredicateAttestationBatch (data : BatchArgs)

section Services

variable (services : SubmissionServices)

/-- What the handler of a request answers, unless the submission is blocked, over its rate or the
session is not the caller's. -/
def ActionRequest.handle (now : Int) : ActionRequest → Except String ActionJob
  | .anchorDocument data => Submission.anchorDocument services data
  | .registerPassport data => Submission.registerPassport services data
  | .retractAttestation data => Submission.retractAttestation services data
  | .purgeExpired data => Submission.purgeExpired services data
  | .issueFieldPredicateAttestation data =>
    Submission.issueFieldPredicateAttestation services now data
  | .issueFieldEqualityAttestation data =>
    Submission.issueFieldEqualityAttestation services now data
  | .issueFieldMembershipAttestation data =>
    Submission.issueFieldMembershipAttestation services now data
  | .issueDocumentIntegrityAttestation data =>
    Submission.issueDocumentIntegrityAttestation services now data
  | .issueDocumentDiffAttestation data =>
    Submission.issueDocumentDiffAttestation services now data
  | .issueFieldPredicateAttestationBatch data =>
    Submission.issueFieldPredicateAttestationBatch services now data

/-- What a command is made of and the fingerprint leaves out. -/
structure Uncovered where
  compiledArtifactRef : Option String := none
  validUntil : Option Int := none
  unit : Arg String := .undefined
  /-- The path of the value in the set of allowed values. -/
  setPath : Option SetProof := none
  schemaId : Option String := none
  /-- For each claim of a batch its unit and its path in the set. -/
  claims : List (Option String × Option (List String) × Option (List Bool)) := []

def ActionRequest.uncovered : ActionRequest → Uncovered
  | .anchorDocument _ => {}
  | .registerPassport data => { compiledArtifactRef := some (vaultRef data.compiledArtifactRef) }
  | .retractAttestation data => { compiledArtifactRef := some (vaultRef data.compiledArtifactRef) }
  | .purgeExpired data => { compiledArtifactRef := some (vaultRef data.compiledArtifactRef) }
  | .issueFieldPredicateAttestation data =>
    { compiledArtifactRef := some (vaultRef data.compiledArtifactRef)
      validUntil := data.validUntil.get?
      unit := data.unit }
  | .issueFieldEqualityAttestation data =>
    { compiledArtifactRef := some (vaultRef data.compiledArtifactRef)
      validUntil := data.validUntil.get? }
  | .issueFieldMembershipAttestation data =>
    { compiledArtifactRef := some (vaultRef data.compiledArtifactRef)
      validUntil := data.validUntil.get?
      setPath := some (FieldMembershipArgs.setOf (data.set services)).2 }
  | .issueDocumentIntegrityAttestation data =>
    { compiledArtifactRef := some (vaultRef data.compiledArtifactRef)
      validUntil := data.validUntil.get? }
  | .issueDocumentDiffAttestation data =>
    { compiledArtifactRef := some (vaultRef data.compiledArtifactRef)
      validUntil := data.validUntil.get? }
  | .issueFieldPredicateAttestationBatch data =>
    { compiledArtifactRef := some (vaultRef data.compiledArtifactRef)
      validUntil := data.validUntil.get?
      schemaId := lowerArg services data.schemaId
      claims := (claimsOf (uniqueClaims services data)).map fun claim =>
        (claim.unit, claim.setSiblings, claim.setDirs) }

/-- The two requests are to the same action. -/
def ActionRequest.sameAction : ActionRequest → ActionRequest → Bool
  | .anchorDocument _, .anchorDocument _ => true
  | .registerPassport _, .registerPassport _ => true
  | .retractAttestation _, .retractAttestation _ => true
  | .purgeExpired _, .purgeExpired _ => true
  | .issueFieldPredicateAttestation _, .issueFieldPredicateAttestation _ => true
  | .issueFieldEqualityAttestation _, .issueFieldEqualityAttestation _ => true
  | .issueFieldMembershipAttestation _, .issueFieldMembershipAttestation _ => true
  | .issueDocumentIntegrityAttestation _, .issueDocumentIntegrityAttestation _ => true
  | .issueDocumentDiffAttestation _, .issueDocumentDiffAttestation _ => true
  | .issueFieldPredicateAttestationBatch _, .issueFieldPredicateAttestationBatch _ => true
  | _, _ => false

end Services

/-! ## Accepted requests -/

theorem of_accept_ok {checks : List (Option String)} {job answered : ActionJob}
    (handled : accept checks job = .ok answered) :
    (∀ check ∈ checks, check = none) ∧ answered = job := by
  unfold accept firstRejection at handled
  split at handled
  · cases handled
  next noMessage =>
    cases handled
    refine ⟨?_, rfl⟩
    intro check listed
    exact List.findSome?_eq_none_iff.mp noMessage check listed

theorem given_of_readUnsigned {raw : Arg String} {name : String} {max : Int} {exceeds : String}
    (noRejection : rejectionOf (readUnsignedArg raw name max exceeds) = none) :
    raw.given = true := by
  unfold readUnsignedArg at noRejection
  split at noRejection
  next isGiven => exact isGiven
  · cases noRejection

theorem Arg.eq_of_text {first second : Arg String} (given : first.given = true)
    (otherGiven : second.given = true) (same : first.text = second.text) : first = second := by
  cases first <;> cases second <;> simp_all [Arg.given, Arg.get?, Arg.text]

theorem orNull_injective : Function.Injective orNull := by
  intro first second same
  cases first <;> cases second <;> simp_all [orNull]

section Actions

variable {services : SubmissionServices} {now now' : Int} {job job' : ActionJob}

/-- The commands of two jobs name the same rows by the same ids. -/
def SameCommand (job job' : ActionJob) : Prop :=
  ∀ rowId, job.command rowId = job'.command rowId

theorem anchorDocument_covered {data data' : AnchorDocumentArgs}
    (handled : anchorDocument services data = .ok job)
    (handled' : anchorDocument services data' = .ok job') (session : job.sessionId = job'.sessionId)
    (payload : job.payload = job'.payload) : SameCommand job job' := by
  rcases of_accept_ok handled with ⟨_, rfl⟩
  rcases of_accept_ok handled' with ⟨_, rfl⟩
  have fields := Json.object_inj payload rfl (by simp)
  simp only [List.cons.injEq, Prod.mk.injEq, true_and, and_true, Option.some.injEq,
    Json.str.injEq, Arg.json_injective.eq_iff, orNull_injective.eq_iff] at fields session
  intro rowId
  simp [fields, session]

theorem registerPassport_iff {data data' : RegisterPassportArgs}
    (handled : registerPassport services data = .ok job)
    (handled' : registerPassport services data' = .ok job') (payload : job.payload = job'.payload) :
    SameCommand job job' ↔
      vaultRef data.compiledArtifactRef = vaultRef data'.compiledArtifactRef := by
  rcases of_accept_ok handled with ⟨_, rfl⟩
  rcases of_accept_ok handled' with ⟨_, rfl⟩
  have fields := Json.object_inj payload rfl (by simp)
  simp only [List.cons.injEq, Prod.mk.injEq, true_and, and_true, Option.some.injEq,
    Json.str.injEq, Json.num.injEq, orNull_injective.eq_iff] at fields
  simp [SameCommand, fields]

theorem submitRetract_iff {checks checks' : List (Option String)} {mode : Nat}
    {key key' : Arg String} {data data' : SubmissionArgs}
    (handled : submitRetract services checks mode key data = .ok job)
    (handled' : submitRetract services checks' mode key' data' = .ok job')
    (session : job.sessionId = job'.sessionId) (payload : job.payload = job'.payload) :
    SameCommand job job' ↔
      vaultRef data.compiledArtifactRef = vaultRef data'.compiledArtifactRef := by
  rcases of_accept_ok handled with ⟨_, rfl⟩
  rcases of_accept_ok handled' with ⟨_, rfl⟩
  have fields := Json.object_inj payload rfl (by simp)
  simp only [List.cons.injEq, Prod.mk.injEq, true_and, and_true, Option.some.injEq,
    Json.str.injEq, orNull_injective.eq_iff] at fields session
  simp [SameCommand, fields, session]

/-- What the payloads of two claims about a field agree in, in terms of the arguments. -/
structure SameField (services : SubmissionServices) (data data' : FieldClaimArgs) : Prop where
  payloadHash : services.toLowerCase data.payloadHash.text =
    services.toLowerCase data'.payloadHash.text
  attesterId : resolveAttester services data.sessionId data.attesterId =
    resolveAttester services data'.sessionId data'.attesterId
  fieldKey : services.toLowerCase data.fieldKey.text = services.toLowerCase data'.fieldKey.text
  contractAddress : data.contractAddress = data'.contractAddress
  fieldSalt : data.fieldSalt = data'.fieldSalt
  contentRoot : data.contentRoot = data'.contentRoot
  schemaId : data.schemaId = data'.schemaId
  path : pathOf (data.path services) = pathOf (data'.path services)
  feeSponsor : data.feeSponsor = data'.feeSponsor

theorem setProof_eq {first second : SetProof} (siblings : first.siblings = second.siblings)
    (dirs : first.dirs = second.dirs) : first = second := by
  cases first
  cases second
  simp_all

/-- The workflows of two claims that agree so are the same up to the name of the contract and
the validity. -/
theorem SameField.workflow_iff {data data' : FieldClaimArgs} (same : SameField services data data')
    (rowId : Nat → String) :
    data.workflow services rowId = data'.workflow services rowId ↔
      vaultRef data.compiledArtifactRef = vaultRef data'.compiledArtifactRef ∧
        data.validUntil.get? = data'.validUntil.get? := by
  rcases same with ⟨payloadHash, attesterId, fieldKey, contractAddress, fieldSalt, contentRoot,
    schemaId, path, feeSponsor⟩
  simp only [FieldClaimArgs.workflow, FieldWorkflow.mk.injEq, payloadHash, attesterId, fieldKey,
    contractAddress, fieldSalt, contentRoot, schemaId, path, feeSponsor, true_and, and_true]
  exact and_comm

/-- The payload of a claim about a field, with the fields of the predicate in the middle. -/
theorem sameField_of_payload {data data' : FieldClaimArgs}
    {middle middle' : List (String × Option Json)}
    (payload : Json.object (data.firstFields services ++ middle ++ data.lastFields services) =
      Json.object (data'.firstFields services ++ middle' ++ data'.lastFields services))
    (names : middle.map Prod.fst = middle'.map Prod.fst)
    (distinct : ((data.firstFields services ++ middle ++ data.lastFields services).map
      Prod.fst).Nodup) :
    SameField services data data' ∧ middle = middle' := by
  obtain ⟨first, sameMiddle, last⟩ := Json.object_append_inj payload rfl names rfl distinct
  simp only [FieldClaimArgs.firstFields, List.cons.injEq, Prod.mk.injEq, true_and, and_true,
    Option.some.injEq, Json.str.injEq, Arg.json_injective.eq_iff] at first
  simp only [FieldClaimArgs.lastFields, List.cons.injEq, Prod.mk.injEq, true_and, and_true,
    Option.some.injEq, Arg.json_injective.eq_iff, Json.strings_injective.eq_iff,
    Json.bools_injective.eq_iff, orNull_injective.eq_iff] at last
  rcases first with ⟨payloadHash, attesterId, fieldKey, contractAddress⟩
  rcases last with ⟨fieldSalt, contentRoot, schemaId, siblings, dirs, feeSponsor⟩
  exact ⟨⟨payloadHash, attesterId, fieldKey, contractAddress, fieldSalt, contentRoot, schemaId,
    setProof_eq siblings dirs, feeSponsor⟩, sameMiddle⟩

theorem issueFieldEqualityAttestation_iff {data data' : FieldEqualityArgs}
    (handled : issueFieldEqualityAttestation services now data = .ok job)
    (handled' : issueFieldEqualityAttestation services now' data' = .ok job')
    (payload : job.payload = job'.payload) :
    SameCommand job job' ↔ vaultRef data.compiledArtifactRef = vaultRef data'.compiledArtifactRef ∧
        data.validUntil.get? = data'.validUntil.get? := by
  rcases of_accept_ok handled with ⟨_, rfl⟩
  rcases of_accept_ok handled' with ⟨_, rfl⟩
  rcases sameField_of_payload payload rfl
    (by simp [FieldClaimArgs.firstFields, FieldClaimArgs.lastFields]) with ⟨same, middle⟩
  simp only [List.cons.injEq, Prod.mk.injEq, true_and, and_true, Option.some.injEq,
    Json.str.injEq] at middle
  simp only [SameCommand, ContractCommandV1.fieldEqualityWorkflow.injEq, middle, and_true,
    same.workflow_iff, forall_const]

theorem issueFieldMembershipAttestation_iff {data data' : FieldMembershipArgs}
    (handled : issueFieldMembershipAttestation services now data = .ok job)
    (handled' : issueFieldMembershipAttestation services now' data' = .ok job')
    (payload : job.payload = job'.payload) :
    SameCommand job job' ↔ vaultRef data.compiledArtifactRef = vaultRef data'.compiledArtifactRef ∧
        data.validUntil.get? = data'.validUntil.get? ∧
          (FieldMembershipArgs.setOf (data.set services)).2 =
            (FieldMembershipArgs.setOf (data'.set services)).2 := by
  rcases of_accept_ok handled with ⟨_, rfl⟩
  rcases of_accept_ok handled' with ⟨_, rfl⟩
  rcases sameField_of_payload payload rfl
    (by simp [FieldClaimArgs.firstFields, FieldClaimArgs.lastFields]) with ⟨same, middle⟩
  simp only [List.cons.injEq, Prod.mk.injEq, true_and, and_true, Option.some.injEq,
    Json.str.injEq] at middle
  rcases middle with ⟨root, digest⟩
  simp only [SameCommand, ContractCommandV1.fieldMembershipWorkflow.injEq, root, digest, true_and,
    same.workflow_iff, forall_const, and_assoc]
  constructor
  · intro equal
    exact ⟨equal.1, equal.2.1, setProof_eq equal.2.2.1 equal.2.2.2⟩
  · intro equal
    exact ⟨equal.1, equal.2.1, congrArg SetProof.siblings equal.2.2,
      congrArg SetProof.dirs equal.2.2⟩

theorem issueFieldPredicateAttestation_iff {data data' : FieldPredicateArgs}
    (handled : issueFieldPredicateAttestation services now data = .ok job)
    (handled' : issueFieldPredicateAttestation services now' data' = .ok job')
    (payload : job.payload = job'.payload) :
    SameCommand job job' ↔ vaultRef data.compiledArtifactRef = vaultRef data'.compiledArtifactRef ∧
        data.validUntil.get? = data'.validUntil.get? ∧ data.unit = data'.unit := by
  rcases of_accept_ok handled with ⟨accepted, rfl⟩
  rcases of_accept_ok handled' with ⟨accepted', rfl⟩
  rcases sameField_of_payload payload rfl
    (by simp [FieldClaimArgs.firstFields, FieldClaimArgs.lastFields]) with ⟨same, middle⟩
  simp only [List.cons.injEq, Prod.mk.injEq, true_and, and_true, Option.some.injEq,
    Json.str.injEq, Arg.json_injective.eq_iff] at middle
  rcases middle with ⟨predicate, threshold, value⟩
  have read : rejectionOf (readThreshold data) = none := accepted _ (by simp)
  have read' : rejectionOf (readThreshold data') = none := accepted' _ (by simp)
  have sameThreshold : data.threshold = data'.threshold :=
    Arg.eq_of_text (given_of_readUnsigned read) (given_of_readUnsigned read') threshold
  have siblings (rowId : Nat → String) :
      ({ data.workflow services rowId with
          siblings := (pathOf (data.path services)).siblings.map services.toLowerCase } :
          FieldWorkflow) =
        { data'.workflow services rowId with
          siblings := (pathOf (data'.path services)).siblings.map services.toLowerCase } ↔
      data.workflow services rowId = data'.workflow services rowId := by
    simp only [FieldClaimArgs.workflow, FieldWorkflow.mk.injEq, same.path]
  simp only [SameCommand, ContractCommandV1.fieldPredicateWorkflow.injEq, siblings,
    same.workflow_iff, readThreshold, readValue, sameThreshold, value, predicate, true_and,
    and_true, forall_const, and_assoc]

/-- What the payloads of two claims about documents agree in, in terms of the arguments. -/
structure SamePair (services : SubmissionServices) (data data' : DocumentPairArgs) : Prop where
  payloadHashA : services.toLowerCase data.payloadHashA.text =
    services.toLowerCase data'.payloadHashA.text
  payloadHashB : services.toLowerCase data.payloadHashB.text =
    services.toLowerCase data'.payloadHashB.text
  attesterA : data.attesterA services = data'.attesterA services
  attesterB : data.attesterB services = data'.attesterB services
  contractAddress : data.contractAddress = data'.contractAddress
  schema : (docPairOf (data.docPair services)).schema = (docPairOf (data'.docPair services)).schema
  openingA : (docPairOf (data.docPair services)).openingA =
    (docPairOf (data'.docPair services)).openingA
  openingB : (docPairOf (data.docPair services)).openingB =
    (docPairOf (data'.docPair services)).openingB
  contentRootA : lowerArg services data.contentRootA = lowerArg services data'.contentRootA
  contentRootB : lowerArg services data.contentRootB = lowerArg services data'.contentRootB
  schemaId : lowerArg services data.schemaId = lowerArg services data'.schemaId
  feeSponsor : data.feeSponsor = data'.feeSponsor

theorem SamePair.workflow_iff {data data' : DocumentPairArgs}
    (same : SamePair services data data') (rowId : Nat → String) :
    data.workflow services rowId = data'.workflow services rowId ↔
      vaultRef data.compiledArtifactRef = vaultRef data'.compiledArtifactRef ∧
        data.validUntil.get? = data'.validUntil.get? := by
  rcases same with ⟨payloadHashA, payloadHashB, attesterA, attesterB, contractAddress, schema,
    openingA, openingB, contentRootA, contentRootB, schemaId, feeSponsor⟩
  simp only [DocumentPairArgs.workflow, DocumentPairWorkflow.mk.injEq, payloadHashA, payloadHashB,
    attesterA, attesterB, contractAddress, schema, openingA, openingB, contentRootA, contentRootB,
    schemaId, feeSponsor, true_and, and_true]
  exact and_comm

/-- The payload of a claim about two documents, with the fields of the predicate in the middle. -/
theorem samePair_of_payload {data data' : DocumentPairArgs}
    {middle middle' : List (String × Option Json)}
    (payload : Json.object (data.firstFields services ++ middle ++ data.lastFields services) =
      Json.object (data'.firstFields services ++ middle' ++ data'.lastFields services))
    (names : middle.map Prod.fst = middle'.map Prod.fst)
    (distinct : ((data.firstFields services ++ middle ++ data.lastFields services).map
      Prod.fst).Nodup) :
    SamePair services data data' ∧ middle = middle' := by
  obtain ⟨first, sameMiddle, last⟩ := Json.object_append_inj payload rfl names rfl distinct
  simp only [DocumentPairArgs.firstFields, List.cons.injEq, Prod.mk.injEq, true_and, and_true,
    Option.some.injEq, Json.str.injEq, Arg.json_injective.eq_iff] at first
  simp only [DocumentPairArgs.lastFields, List.cons.injEq, Prod.mk.injEq, true_and, and_true,
    Option.some.injEq, schemaJson_injective.eq_iff, OpeningWire.json_injective.eq_iff,
    orNull_injective.eq_iff] at last
  rcases first with ⟨payloadHashA, payloadHashB, attesterA, attesterB, contractAddress⟩
  rcases last with ⟨schema, openingA, openingB, contentRootA, contentRootB, schemaId, feeSponsor⟩
  exact ⟨⟨payloadHashA, payloadHashB, attesterA, attesterB, contractAddress, schema, openingA,
    openingB, contentRootA, contentRootB, schemaId, feeSponsor⟩, sameMiddle⟩

theorem issueDocumentIntegrityAttestation_iff {data data' : DocumentIntegrityArgs}
    (handled : issueDocumentIntegrityAttestation services now data = .ok job)
    (handled' : issueDocumentIntegrityAttestation services now' data' = .ok job')
    (payload : job.payload = job'.payload) :
    SameCommand job job' ↔ vaultRef data.compiledArtifactRef = vaultRef data'.compiledArtifactRef ∧
        data.validUntil.get? = data'.validUntil.get? := by
  rcases of_accept_ok handled with ⟨_, rfl⟩
  rcases of_accept_ok handled' with ⟨_, rfl⟩
  rcases samePair_of_payload payload rfl
    (by simp [DocumentPairArgs.firstFields, DocumentPairArgs.lastFields]) with ⟨same, middle⟩
  simp only [List.cons.injEq, Prod.mk.injEq, true_and, and_true, Option.some.injEq,
    Json.num.injEq] at middle
  simp only [SameCommand, ContractCommandV1.documentIntegrityWorkflow.injEq, middle, and_true,
    same.workflow_iff, forall_const]

theorem issueDocumentDiffAttestation_iff {data data' : DocumentDiffArgs}
    (handled : issueDocumentDiffAttestation services now data = .ok job)
    (handled' : issueDocumentDiffAttestation services now' data' = .ok job')
    (payload : job.payload = job'.payload) :
    SameCommand job job' ↔ vaultRef data.compiledArtifactRef = vaultRef data'.compiledArtifactRef ∧
        data.validUntil.get? = data'.validUntil.get? := by
  rcases of_accept_ok handled with ⟨_, rfl⟩
  rcases of_accept_ok handled' with ⟨_, rfl⟩
  rcases samePair_of_payload payload rfl
    (by simp [DocumentPairArgs.firstFields, DocumentPairArgs.lastFields]) with ⟨same, middle⟩
  simp only [List.cons.injEq, Prod.mk.injEq, true_and, and_true, Option.some.injEq,
    Json.num.injEq] at middle
  simp only [SameCommand, ContractCommandV1.documentDiffWorkflow.injEq, middle, and_true,
    same.workflow_iff, forall_const]

/-! ## Batches -/

/-- What the parsing leaves to be read off the predicate, or sets later. -/
structure ParsedClaim (claim : BatchClaimCommand) : Prop where
  opCode : claim.opCode = (parsePredicate claim.predicate).bind (·.opCode)
  rowId : claim.predicateAttestationId = ""
  validUntil : claim.validUntil = none

theorem opCode_of_not_numeric {literal : String} {parsed : ParsedPredicate}
    (isParsed : parsePredicate literal = some parsed) (notNumeric : parsed.kind ≠ .numeric) :
    parsed.opCode = none := by
  unfold parsePredicate at isParsed
  split at isParsed
  · cases isParsed
    exact absurd rfl notNumeric
  · split at isParsed
    · cases isParsed
      exact absurd rfl notNumeric
    · repeat' split at isParsed
      all_goals cases isParsed
      all_goals rfl

variable {entry : BatchClaimArg} {data : BatchArgs}

theorem parseDocumentClaim_parsed {name : String} {kind : PredicateKind} {claim : BatchClaimCommand}
    (ran : parseDocumentClaim services name data entry kind = .ok claim) : ParsedClaim claim := by
  unfold parseDocumentClaim at ran
  simp only [bind_eq_ok] at ran
  obtain ⟨payloadHashB, _, attesterIdB, _, _, _, pair, _, ran⟩ := ran
  split at ran
  · simp only [bind_eq_ok] at ran
    obtain ⟨_, _, _, _, _, _, ran⟩ := ran
    cases ran
    exact ⟨rfl, rfl, rfl⟩
  · rcases of_bind_ok ran with ⟨_, _, ran⟩
    cases ran
    exact ⟨rfl, rfl, rfl⟩

theorem parseFieldBase_parsed {name : String}
    {base : BatchClaimCommand} (ran : parseFieldBase services name data entry = .ok base) :
    base.predicate = entry.predicate.text ∧ base.opCode = none ∧
      base.predicateAttestationId = "" ∧ base.validUntil = none := by
  unfold parseFieldBase at ran
  simp only [bind_eq_ok] at ran
  obtain ⟨fieldKey, _, path, _, salt, _, ran⟩ := ran
  cases ran
  exact ⟨rfl, rfl, rfl, rfl⟩

/-- What the later fields of a claim about one field leave alone. -/
def SameBase (base claim : BatchClaimCommand) : Prop :=
  claim.predicate = base.predicate ∧ claim.predicateAttestationId = base.predicateAttestationId ∧
    claim.validUntil = base.validUntil

variable {claim : BatchClaimCommand × Option (List String)}

theorem parseMembershipClaim_base {name : String} {base : BatchClaimCommand}
    (ran : parseMembershipClaim services name entry base = .ok claim) :
    SameBase base claim.1 ∧ claim.1.opCode = base.opCode := by
  rcases of_bind_ok ran with ⟨digest, _, ran⟩
  split at ran
  · rcases of_bind_ok ran with ⟨_, _, ran⟩
    cases ran
    exact ⟨⟨rfl, rfl, rfl⟩, rfl⟩
  · rcases of_bind_ok ran with ⟨withPath, isPath, ran⟩
    cases ran
    unfold parseSetPath at isPath
    simp only [bind_eq_ok] at isPath
    obtain ⟨_, _, setRoot, _, set, _, isPath⟩ := isPath
    cases isPath
    exact ⟨⟨rfl, rfl, rfl⟩, rfl⟩

theorem parseClaim_parsed {i : Nat}
    (ran : parseClaim services data i entry = .ok claim) : ParsedClaim claim.1 := by
  unfold parseClaim at ran
  split at ran
  · cases ran
  next parsed isParsed =>
    rcases Option.bind_eq_some_iff.mp isParsed with ⟨literal, isLiteral, isKind⟩
    have text : entry.predicate.text = literal := by
      cases predicate : entry.predicate with
      | value given =>
        rw [predicate] at isLiteral
        exact Option.some.inj isLiteral
      | undefined | null =>
        rw [predicate] at isLiteral
        cases isLiteral
    split at ran
    · rcases of_map_ok ran with ⟨document, isDocument, rfl⟩
      exact parseDocumentClaim_parsed isDocument
    · rcases of_map_ok ran with ⟨document, isDocument, rfl⟩
      exact parseDocumentClaim_parsed isDocument
    next kind =>
      rcases of_bind_ok ran with ⟨base, isBase, ran⟩
      rcases of_map_ok ran with ⟨equality, isEquality, rfl⟩
      rcases parseFieldBase_parsed isBase with ⟨predicate, opCode, rowId, validUntil⟩
      rcases of_bind_ok isEquality with ⟨digest, _, isEquality⟩
      cases isEquality
      refine ⟨?_, rowId, validUntil⟩
      rw [opCode, predicate, text, isKind]
      exact (opCode_of_not_numeric isKind (by rw [kind]; decide)).symm
    next kind =>
      rcases of_bind_ok ran with ⟨base, isBase, ran⟩
      rcases parseFieldBase_parsed isBase with ⟨predicate, opCode, rowId, validUntil⟩
      rcases parseMembershipClaim_base ran with ⟨⟨samePredicate, sameRow, sameValid⟩, sameOp⟩
      refine ⟨?_, sameRow.trans rowId, sameValid.trans validUntil⟩
      rw [sameOp, opCode, samePredicate, predicate, text, isKind]
      exact (opCode_of_not_numeric isKind (by rw [kind]; decide)).symm
    next kind =>
      rcases of_bind_ok ran with ⟨base, isBase, ran⟩
      rcases of_map_ok ran with ⟨numeric, isNumeric, rfl⟩
      rcases parseFieldBase_parsed isBase with ⟨predicate, _, rowId, validUntil⟩
      unfold parseNumericClaim at isNumeric
      simp only [bind_eq_ok] at isNumeric
      obtain ⟨value, _, threshold, _, isNumeric⟩ := isNumeric
      cases isNumeric
      refine ⟨?_, rowId, validUntil⟩
      rw [predicate, text, isKind]
      rfl

theorem buildSet_parsed {i : Nat} {built : BatchClaimCommand} (parsed : ParsedClaim claim.1)
    (ran : buildSet services data i claim = .ok built) :
    ParsedClaim built := by
  unfold buildSet at ran
  split at ran
  · cases ran
    exact parsed
  · split at ran
    · cases ran
    · cases ran
    · cases ran
      exact ⟨parsed.opCode, parsed.rowId, parsed.validUntil⟩

theorem mem_of_mem_dropDuplicates {seen : List (List (Option String))}
    {claims : List BatchClaimCommand} {claim : BatchClaimCommand}
    (listed : claim ∈ dropDuplicates seen claims) : claim ∈ claims := by
  induction claims generalizing seen with
  | nil => exact listed
  | cons first rest ih =>
    unfold dropDuplicates at listed
    split at listed
    · exact List.mem_cons_of_mem _ (ih listed)
    · cases listed with
      | head => exact List.mem_cons_self ..
      | tail _ listed => exact List.mem_cons_of_mem _ (ih listed)

theorem claimsOf_parsed (data : BatchArgs) :
    ∀ claim ∈ claimsOf (uniqueClaims services data), ParsedClaim claim := by
  intro claim listed
  cases unique : uniqueClaims services data with
  | error message =>
    rw [unique] at listed
    cases listed
  | ok claims =>
    rw [unique] at listed
    rcases of_bind_ok unique with ⟨parsed, areParsed, ran⟩
    rcases of_bind_ok ran with ⟨built, areBuilt, ran⟩
    cases ran
    have each : ∀ claim ∈ parsed, ParsedClaim claim.1 := by
      refine forall_of_mapM_ok areParsed ?_
      intro indexed _ claim ran
      exact parseClaim_parsed ran
    have eachBuilt : ∀ claim ∈ built, ParsedClaim claim := by
      refine forall_of_mapM_ok areBuilt ?_
      intro indexed isMem claim ran
      exact buildSet_parsed (each indexed.1 (List.fst_mem_of_mem_zipIdx isMem)) ran
    exact eachBuilt claim (mem_of_mem_dropDuplicates listed)

/-- What the payload leaves out of a claim. -/
def uncoveredClaim (claim : BatchClaimCommand) :
    Option String × Option (List String) × Option (List Bool) :=
  (claim.unit, claim.setSiblings, claim.setDirs)

theorem claim_eq_of_json {claim claim' : BatchClaimCommand} (parsed : ParsedClaim claim)
    (parsed' : ParsedClaim claim') (same : claimJson claim = claimJson claim')
    (rest : uncoveredClaim claim = uncoveredClaim claim') : claim = claim' := by
  have fields := Json.object_inj same rfl (by simp)
  simp only [List.cons.injEq, Prod.mk.injEq, true_and, and_true, Option.some.injEq,
    Json.str.injEq, (Option.map_injective Json.str_injective).eq_iff,
    (Option.map_injective Json.num_injective).eq_iff,
    (Option.map_injective Json.strings_injective).eq_iff,
    (Option.map_injective Json.bools_injective).eq_iff,
    (Option.map_injective schemaJson_injective).eq_iff,
    (Option.map_injective OpeningWire.json_injective).eq_iff] at fields
  rcases fields with ⟨fieldKey, predicate, threshold, value, expectedDigest, setRoot, valueDigest,
    salt, siblings, dirs, payloadHashB, attesterIdB, allowedMask, k, schema, openingA, openingB⟩
  simp only [uncoveredClaim, Prod.mk.injEq] at rest
  rcases rest with ⟨unit, setSiblings, setDirs⟩
  have opCode : claim.opCode = claim'.opCode := by
    rw [parsed.opCode, parsed'.opCode, predicate]
  have rowId := parsed.rowId.trans parsed'.rowId.symm
  have validUntil := parsed.validUntil.trans parsed'.validUntil.symm
  cases claim
  cases claim'
  simp_all

theorem claims_eq_iff {claims claims' : List BatchClaimCommand}
    (parsed : ∀ claim ∈ claims, ParsedClaim claim) (parsed' : ∀ claim ∈ claims', ParsedClaim claim)
    (same : claims.map claimJson = claims'.map claimJson) :
    claims = claims' ↔ claims.map uncoveredClaim = claims'.map uncoveredClaim := by
  constructor
  · intro equal
    rw [equal]
  · intro rest
    induction claims generalizing claims' with
    | nil => exact (List.map_eq_nil_iff.mp same.symm).symm
    | cons claim claims ih =>
      cases claims' with
      | nil => cases same
      | cons claim' claims' =>
        rcases List.cons.inj same with ⟨sameClaim, sameClaims⟩
        rcases List.cons.inj rest with ⟨restClaim, restClaims⟩
        have first := claim_eq_of_json (parsed claim (List.mem_cons_self ..))
          (parsed' claim' (List.mem_cons_self ..)) sameClaim restClaim
        have others := ih (fun claim isMem => parsed claim (List.mem_cons_of_mem _ isMem))
          (fun claim isMem => parsed' claim (List.mem_cons_of_mem _ isMem)) sameClaims
          restClaims
        rw [first, others]

/-- The generated ids can be taken away again. -/
theorem map_rowClaims {claims : List BatchClaimCommand}
    (parsed : ∀ claim ∈ claims, ParsedClaim claim) (rowId : Nat → String) :
    (rowClaims rowId claims).map (fun claim => { claim with predicateAttestationId := "" }) =
      claims := by
  unfold rowClaims
  rw [List.map_map]
  have cleared : ∀ indexed ∈ claims.zipIdx,
      ((fun claim : BatchClaimCommand => { claim with predicateAttestationId := "" }) ∘
        fun indexed : BatchClaimCommand × Nat =>
          { indexed.1 with predicateAttestationId := rowId indexed.2 }) indexed = indexed.1 := by
    intro indexed isMem
    have isEmpty := (parsed indexed.1 (List.fst_mem_of_mem_zipIdx isMem)).rowId
    simp only [Function.comp_apply]
    rw [← isEmpty]
  rw [List.map_congr_left cleared]
  exact List.zipIdx_map_fst 0 claims

theorem rowClaims_eq_iff {claims claims' : List BatchClaimCommand}
    (parsed : ∀ claim ∈ claims, ParsedClaim claim) (parsed' : ∀ claim ∈ claims', ParsedClaim claim)
    (rowId : Nat → String) :
    rowClaims rowId claims = rowClaims rowId claims' ↔ claims = claims' := by
  constructor
  · intro same
    rw [← map_rowClaims parsed rowId, ← map_rowClaims parsed' rowId, same]
  · intro same
    rw [same]

theorem issueFieldPredicateAttestationBatch_iff {data data' : BatchArgs}
    (handled : issueFieldPredicateAttestationBatch services now data = .ok job)
    (handled' : issueFieldPredicateAttestationBatch services now' data' = .ok job')
    (payload : job.payload = job'.payload) :
    SameCommand job job' ↔ vaultRef data.compiledArtifactRef = vaultRef data'.compiledArtifactRef ∧
        data.validUntil.get? = data'.validUntil.get? ∧
          lowerArg services data.schemaId = lowerArg services data'.schemaId ∧
            (claimsOf (uniqueClaims services data)).map uncoveredClaim =
              (claimsOf (uniqueClaims services data')).map uncoveredClaim := by
  rcases of_accept_ok handled with ⟨_, rfl⟩
  rcases of_accept_ok handled' with ⟨_, rfl⟩
  have fields := Json.object_inj payload rfl (by simp)
  simp only [List.cons.injEq, Prod.mk.injEq, true_and, and_true, Option.some.injEq,
    Json.str.injEq, Json.arr.injEq, Arg.json_injective.eq_iff, orNull_injective.eq_iff] at fields
  rcases fields with ⟨payloadHash, attesterId, contractAddress, contentRoot, claims, feeSponsor⟩
  have parsed : ∀ claim ∈ claimsOf (uniqueClaims services data), ParsedClaim claim :=
    claimsOf_parsed data
  have parsed' : ∀ claim ∈ claimsOf (uniqueClaims services data'), ParsedClaim claim :=
    claimsOf_parsed data'
  simp only [SameCommand, ContractCommandV1.fieldPredicateBatchWorkflow.injEq,
    BatchWorkflow.mk.injEq, payloadHash, attesterId, contractAddress, contentRoot, feeSponsor,
    true_and, and_true, rowClaims_eq_iff parsed parsed', claims_eq_iff parsed parsed' claims,
    forall_const]
  constructor
  · intro equal
    exact ⟨equal.2.1, equal.1, equal.2.2⟩
  · intro equal
    exact ⟨equal.2.1, equal.1, equal.2.2⟩

/-! ## One job for two requests -/

/-- The request that the action of a job makes of `startJob`. -/
structure ActionJob.Starts (job : ActionJob) (start : StartRequest) : Prop where
  key : job.idempotencyKey = .value start.tuple.idempotencyKey
  sessionId : start.tuple.sessionId = job.sessionId
  kind : start.tuple.kind = job.kind
  payload : start.payload = job.payload.stringify

/-- A caller whose rows are kept got this job for an answer. -/
def AnsweredWith (pinned : Nat → Bool) (s : Admission) (start : StartRequest) (jobId : Nat) :
    Prop :=
  ∃ caller answer, s.Kept pinned caller ∧ (start, answer) ∈ (s.callers caller).answers ∧
    answer.jobId = some jobId

/-- The row of the job has the key and the fingerprint of the request. -/
theorem AnsweredWith.row {pinned : Nat → Bool} {s : Admission} {start : StartRequest}
    {jobId : Nat} (answered : AnsweredWith pinned s start jobId) (sound : s.Sound pinned) :
    ∃ row ∈ s.held, row.ID = jobId ∧ row.tuple = start.tuple ∧
      row.payloadFingerprint = start.payloadFingerprint := by
  rcases answered with ⟨caller, answer, kept, listed, isJob⟩
  have agrees := (sound.callers caller).answers kept (start, answer) listed
  have isRow : ∃ job ∈ s.visible caller, job.tuple = start.tuple ∧ job.ID = jobId ∧
      job.payloadFingerprint = start.payloadFingerprint := by
    cases answer with
    | started | existing =>
      cases isJob
      exact agrees
    | conflict | keyInvalid | busy | insertError => cases isJob
  rcases isRow with ⟨row, isVisible, tuple, id, fingerprint⟩
  exact ⟨row, Admission.held_of_visible isVisible, id, tuple, fingerprint⟩

/-- Two requests that got one job were fingerprinted from the same payload. -/
theorem payload_eq_of_answered {pinned : Nat → Bool} {s : Admission} (sound : s.Sound pinned)
    {start start' : StartRequest} {jobId : Nat} (answered : AnsweredWith pinned s start jobId)
    (answered' : AnsweredWith pinned s start' jobId) :
    start.tuple = start'.tuple ∧ start.payload = start'.payload := by
  rcases answered.row sound with ⟨row, isHeld, id, tuple, fingerprint⟩
  rcases answered'.row sound with ⟨row', isHeld', id', tuple', fingerprint'⟩
  have same : row = row' :=
    List.inj_on_of_nodup_map sound.rows.ids isHeld isHeld' (id.trans id'.symm)
  subst same
  have tuples := tuple.symm.trans tuple'
  have texts := congrArg Sha256.text (fingerprint.symm.trans fingerprint')
  refine ⟨tuples, ?_⟩
  simp only [StartRequest.payloadFingerprint, tuples, String.append_right_inj] at texts
  exact texts

/-- Two requests to one action that are answered with the same job have the same command, up to
the ids of their rows, if and only if they agree in what the fingerprint leaves out. -/
theorem same_job_same_command_iff (services : SubmissionServices) (pinned : Nat → Bool)
    (events : List AdmissionEvent) {request request' : ActionRequest} {now now' : Int}
    {job job' : ActionJob} {start start' : StartRequest} {jobId : Nat}
    (sameAction : request.sameAction request' = true)
    (handled : request.handle services now = .ok job)
    (handled' : request'.handle services now' = .ok job')
    (starts : job.Starts start) (starts' : job'.Starts start')
    (answered : AnsweredWith pinned (run (Admission.step pinned) .start events) start jobId)
    (answered' : AnsweredWith pinned (run (Admission.step pinned) .start events) start' jobId) :
    SameCommand job job' ↔ request.uncovered services = request'.uncovered services := by
  have sound := Admission.run_sound pinned events
  rcases payload_eq_of_answered sound answered answered' with ⟨tuple, text⟩
  have session : job.sessionId = job'.sessionId := by
    rw [← starts.sessionId, ← starts'.sessionId, tuple]
  have payload : job.payload = job'.payload := by
    apply Json.stringify_injective
    rw [← starts.payload, ← starts'.payload, text]
  cases request <;> cases request' <;> cases sameAction
  case anchorDocument data data' =>
      exact ⟨fun _ => rfl, fun _ => anchorDocument_covered handled handled' session payload⟩
  case registerPassport data data' =>
      rw [registerPassport_iff handled handled' payload]
      simp [ActionRequest.uncovered]
  case retractAttestation data data' =>
      rw [submitRetract_iff handled handled' session payload]
      simp [ActionRequest.uncovered]
  case purgeExpired data data' =>
      rw [submitRetract_iff handled handled' session payload]
      simp [ActionRequest.uncovered]
  case issueFieldPredicateAttestation data data' =>
      rw [issueFieldPredicateAttestation_iff handled handled' payload]
      simp [ActionRequest.uncovered]
  case issueFieldEqualityAttestation data data' =>
      rw [issueFieldEqualityAttestation_iff handled handled' payload]
      simp [ActionRequest.uncovered]
  case issueFieldMembershipAttestation data data' =>
      rw [issueFieldMembershipAttestation_iff handled handled' payload]
      simp [ActionRequest.uncovered]
  case issueDocumentIntegrityAttestation data data' =>
      rw [issueDocumentIntegrityAttestation_iff handled handled' payload]
      simp [ActionRequest.uncovered]
  case issueDocumentDiffAttestation data data' =>
      rw [issueDocumentDiffAttestation_iff handled handled' payload]
      simp [ActionRequest.uncovered]
  case issueFieldPredicateAttestationBatch data data' =>
      rw [issueFieldPredicateAttestationBatch_iff handled handled' payload]
      simp only [ActionRequest.uncovered, Uncovered.mk.injEq, Option.some.injEq, true_and]
      rfl

/-- Services for an example: ASCII texts, one wallet, contracts of 16 slots. -/
def exampleServices : SubmissionServices where
  toLowerCase := fun text => String.ofList (text.toList.map toLowerCase)
  blake2b256Hex := id
  sha256Hex := id
  attesterIdForSession := fun _ => "a1"
  slotWidthOf := fun _ => 16
  membershipPathFor := fun _ _ _ => .ok none

/-- A claim that a field holds a text, valid until a given time. -/
def equalityRequest (validUntil : Arg Int) : ActionRequest :=
  .issueFieldEqualityAttestation {
    sessionId := .value "s0"
    contractAddress := .value "0c"
    compiledArtifactRef := .undefined
    idempotencyKey := .value "key"
    sponsorSessionId := .undefined
    payloadHash := .value "d0"
    attesterId := .undefined
    fieldKey := .value "f0"
    fieldSalt := .value "05"
    contentRoot := .undefined
    schemaId := .undefined
    siblings := .value (List.replicate 4 zeroId)
    dirs := .value [false, true, false, true]
    validUntil
    expectedValue := .value "red"
    expectedDigest := .undefined }

/-- What the action makes of it. -/
def equalityJob (validUntil : Arg Int) : ActionJob where
  kind := "issueFieldEqualityAttestation"
  sessionId := "s0"
  idempotencyKey := .value "key"
  payload := .object [("payloadHash", some (.str "d0")), ("attesterId", some (.str "a1")),
    ("fieldKey", some (.str "f0")), ("contractAddress", some (.str "0c")),
    ("predicate", some (.str "bytesEquality")), ("expectedDigest", some (.str "red")),
    ("fieldSalt", some (.str "05")), ("contentRoot", none), ("schemaId", none),
    ("siblings", some (.strings (List.replicate 4 zeroId))),
    ("dirs", some (.bools [false, true, false, true])), ("feeSponsor", some .null)]
  command := fun rowId => .fieldEqualityWorkflow {
      predicateAttestationId := rowId 0
      validUntil := validUntil.get?
      payloadHash := "d0"
      attesterId := "a1"
      fieldKey := "f0"
      contractAddress := "0c"
      compiledArtifactRef := "attestation-vault"
      salt := "05"
      siblings := List.replicate 4 zeroId
      dirs := [false, true, false, true]
      contentRoot := none
      schemaId := none
      sponsorSessionId := none } "red"

/-- The request to `startJob`, the same for every `validUntil`. -/
def equalityStart : StartRequest where
  tuple := ⟨"s0", "issueFieldEqualityAttestation", "key", by decide⟩
  payload := (equalityJob .undefined).payload.stringify

theorem equalityJob_starts (validUntil : Arg Int) : (equalityJob validUntil).Starts equalityStart :=
  ⟨rfl, rfl, rfl, rfl⟩

/-- One caller gets a new job, and a later one asks with the same key. -/
def askTwice (start : StartRequest) : List AdmissionEvent :=
  [.startJob 0 start, .look 0, .insert 0 .proceeds, .startJob 1 start, .look 1]

theorem askTwice_answers (start : StartRequest)
    (short : utf16Length start.tuple.idempotencyKey ≤ IDEMPOTENCY_KEY_MAX_LENGTH) :
    let s := run (Admission.step fun _ => false) .start (askTwice start)
    (s.callers 0).answers = [(start, .started 0)] ∧
      (s.callers 1).answers = [(start, .existing 0)] := by
  have notLong : ¬ IDEMPOTENCY_KEY_MAX_LENGTH < utf16Length start.tuple.idempotencyKey :=
    Nat.not_lt.mpr short
  simp [askTwice, run, Admission.step, Admission.startJob, Admission.look, Admission.insert,
    Admission.insertRow, Admission.answer, Admission.moveTo, Admission.setCaller,
    Admission.visible, Admission.dedupExisting, Admission.start, notLong]

/-- A claim is asked for again with another `validUntil`: the answer is the job of the first
request, and its command is valid until another time. -/
theorem later_validUntil_ignored :
    (equalityRequest (.value 2000)).handle exampleServices 1000 = .ok (equalityJob (.value 2000)) ∧
      (equalityRequest (.value 3000)).handle exampleServices 1000 =
        .ok (equalityJob (.value 3000)) ∧
      (equalityJob (.value 2000)).Starts equalityStart ∧
      (equalityJob (.value 3000)).Starts equalityStart ∧
      (let s := run (Admission.step fun _ => false) .start (askTwice equalityStart)
      (s.callers 0).answers = [(equalityStart, .started 0)] ∧
        (s.callers 1).answers = [(equalityStart, .existing 0)]) ∧
      ¬ SameCommand (equalityJob (.value 2000)) (equalityJob (.value 3000)) := by
  refine ⟨rfl, rfl, equalityJob_starts _, equalityJob_starts _,
    askTwice_answers equalityStart (by decide), ?_⟩
  intro same
  have commands := same fun _ => ""
  simp [equalityJob, Arg.get?] at commands

/-- A request that leaves `validUntil` out, and one where it is null. -/
theorem same_job_same_command_iff_repeated :
    SameCommand (equalityJob .undefined) (equalityJob .null) := by
  have answers := askTwice_answers equalityStart (by decide)
  have kept (s : Admission) (caller : Nat) : s.Kept (fun _ => false) caller := by
    intro isPinned
    cases isPinned
  have handled : (equalityRequest .undefined).handle exampleServices 1000 =
      .ok (equalityJob .undefined) := rfl
  have handled' : (equalityRequest .null).handle exampleServices 1000 =
      .ok (equalityJob .null) := rfl
  have first : AnsweredWith (fun _ => false)
      (run (Admission.step fun _ => false) .start (askTwice equalityStart)) equalityStart 0 := by
    refine ⟨0, .started 0, kept _ 0, ?_, rfl⟩
    rw [answers.1]
    exact List.mem_singleton_self _
  have second : AnsweredWith (fun _ => false)
      (run (Admission.step fun _ => false) .start (askTwice equalityStart)) equalityStart 0 := by
    refine ⟨1, .existing 0, kept _ 1, ?_, rfl⟩
    rw [answers.2]
    exact List.mem_singleton_self _
  exact (same_job_same_command_iff exampleServices (fun _ => false) (askTwice equalityStart) rfl
    handled handled' (equalityJob_starts _) (equalityJob_starts _) first second).mpr rfl

end Actions

end Nightgate.Submission
