import Nightgate.Midnight.SubmitIntent
import Nightgate.Submission.LandedRows
import Nightgate.Submission.WorkflowReplay

/-!
# Recording an outcome

An executor that sees what became of its transaction writes the rows the command is about. If the
process stops before, the reconciliation learns the outcome from the chain: a finalizer writes the
rows from the stored command and the announced intent, and a workflow is executed again.
-/

namespace Nightgate.Submission

open Library

/-- What the chain says about a transaction. -/
structure ConfirmedOutcome where
  txHash : String
  blockHeight : Option Nat
  success : Bool

/-- The contract and the artifact of a command. -/
structure ContractFields where
  contractAddress : String
  compiledArtifactRef : String
  artifactDigest : Option String

/-- The swap of a sponsor command, with the offer it names. -/
structure SwapCommand where
  offerId : Option RowId

/-- `SponsorJobCommand`, with what recording its outcome reads. -/
structure SponsorJobCommand where
  sponsorSessionId : Option String
  grantId : Option RowId
  swap : Option SwapCommand
  transfer : Bool

def SponsorJobCommand.offerId (command : SponsorJobCommand) : Option RowId :=
  command.swap.bind SwapCommand.offerId

/-- A sponsored transaction, as the worker announces and sends it. -/
inductive SponsoredTx where
  | finalized (tx : Midnight.ProvenTx) (calls : List Midnight.ContractCall)
      (sponsorAccountId ttl : String) (minted : List String)
      (unshielded : List Midnight.UnshieldedMove)
  | unbound (tx : Midnight.ProvenTx) (contractAddress : Option String)
      (calls : List Midnight.ContractCall) (note sponsorAccountId ttl : String)
      (minted nullifiers : List String) (unshielded : List Midnight.UnshieldedMove)
      (transfer : Option Midnight.DeclaredTransfer)

namespace SponsoredTx

def record (feeSponsor : String) (command : SponsorJobCommand) : Midnight.SponsorRecord where
  feeSponsor
  grantId := command.grantId.map RowId.text
  offerId := command.offerId.map RowId.text

def announcement (feeSponsor : String) (command : SponsorJobCommand) :
    SponsoredTx → Midnight.Announcement
  | .finalized tx calls sponsorAccountId ttl minted unshielded =>
    .finalized tx (some calls) sponsorAccountId ttl minted unshielded (record feeSponsor command)
  | .unbound tx contractAddress calls note sponsorAccountId ttl minted nullifiers unshielded
      transfer =>
      .unbound tx contractAddress calls note sponsorAccountId ttl minted nullifiers unshielded
        transfer (record feeSponsor command)

def calls : SponsoredTx → List Midnight.ContractCall
  | .finalized _ calls .. => calls
  | .unbound _ _ calls .. => calls

def minted : SponsoredTx → List String
  | .finalized _ _ _ _ minted _ => minted
  | .unbound _ _ _ _ _ _ minted _ _ _ => minted

def nullifiers : SponsoredTx → List String
  | .finalized .. => []
  | .unbound _ _ _ _ _ _ _ nullifiers _ _ => nullifiers

end SponsoredTx

/-- What the worker answers once a sponsored transaction has landed. -/
structure SponsorOut where
  deployed : List String
  minted : Option (List String)
  nullifiers : Option (List String)

def SponsoredTx.out (tx : SponsoredTx) : SponsorOut where
  deployed := Midnight.deployedOf tx.calls
  minted := Midnight.nonempty tx.minted
  nullifiers := Midnight.nonempty tx.nullifiers

/-- The jobs that send a transaction, by the operation of their command, with what recording
their outcome reads. -/
inductive RecordedJob where
  | deploy
  | call
  | callBatch (fields : ContractFields)
  /-- A call of the kind `mintFactoryToken`. -/
  | mintFactoryToken (mintedTokenType sponsorSessionId : Option String) (grantId : Option RowId)
  | anchorDocument (fields : ContractFields) (documentId : String)
  | grantDisclosure (fields : ContractFields) (disclosureGrantId level : Nat)
  | revokeDisclosure (fields : ContractFields) (attesterId payloadHash grantee : String)
  | registerPassport (fields : ContractFields)
  | retract (fields : ContractFields) (mode : Nat) (attesterId : Option String) (key : String)
  /-- The outcome is that of its proof step. -/
  | workflow (job : WorkflowJob)
  | sponsored (command : SponsorJobCommand) (feeSponsor : String) (tx : SponsoredTx)

/-- A `reindexAfterSubmit`. -/
structure ReindexRequest where
  contractAddress : String
  atHeight : Option Nat
  compiledArtifactRef : String
  artifactDigest : Option String

def ContractFields.reindex (fields : ContractFields) (landed : Option Nat) : ReindexRequest :=
  ⟨fields.contractAddress, landed, fields.compiledArtifactRef, fields.artifactDigest⟩

/-- The rows after an outcome was recorded, and the reindexes that follow. -/
structure Recorded where
  rows : LandedRows
  reindexes : List ReindexRequest

namespace ContractCommandV1

/-- The attestations a workflow proves. -/
def predicateAttestationIds : ContractCommandV1 → List String
  | .fieldPredicateWorkflow command .. | .fieldEqualityWorkflow command ..
  | .fieldMembershipWorkflow command .. => [command.predicateAttestationId]
  | .documentIntegrityWorkflow command _ | .documentDiffWorkflow command _ =>
    [command.predicateAttestationId]
  | .fieldPredicateBatchWorkflow command =>
    command.claims.map BatchClaimCommand.predicateAttestationId
  | _ => []

def compiledArtifactRef : ContractCommandV1 → String
  | .fieldPredicateWorkflow command .. | .fieldEqualityWorkflow command ..
  | .fieldMembershipWorkflow command .. => command.compiledArtifactRef
  | .documentIntegrityWorkflow command _ | .documentDiffWorkflow command _ =>
    command.compiledArtifactRef
  | .fieldPredicateBatchWorkflow command => command.compiledArtifactRef
  | .anchorDocument _ _ _ _ _ compiledArtifactRef _ => compiledArtifactRef
  | .registerPassport _ _ _ _ compiledArtifactRef _ => compiledArtifactRef
  | .retract _ _ _ _ compiledArtifactRef _ => compiledArtifactRef

end ContractCommandV1

/-- The setting of the claim lifetime and the clock while a workflow is executed. -/
structure ExecutionTime where
  lifetime : Option Nat
  readings : Nat → Nat

/-- What a workflow reads of the result of its proof step: the executor of the step returns the
hash, the reconciliation takes it from the row of the step, and the finalizer of a batch from the
evidence. -/
structure ChildCall where
  txHash : String

def ConfirmedOutcome.childCall (outcome : ConfirmedOutcome) : ChildCall := ⟨outcome.txHash⟩

section Recording

variable (persistentHash : List Nat → List Nat → String)

/-- The `startJob` of the proof step, none where a record key throws. -/
def WorkflowJob.proofRequest (job : WorkflowJob) (time : ExecutionTime) : Option StartRequest :=
  (job.command.proofCommand persistentHash time.lifetime time.readings).map fun command =>
    job.stepRequest ⟨job.command.proofNames.1, job.command.proofNames.2, command⟩

/-! ## The executors -/

/-- `recordOnGrant`. -/
def recordOnGrant (command : SponsorJobCommand) (out : SponsorOut) (txHash : String) (now : Nat)
    (rows : LandedRows) : LandedRows :=
  let rows := recordPlatformMint (out.minted.getD [])
    ⟨command.grantId, command.sponsorSessionId, some txHash⟩ rows
  let rows :=
    if command.swap.isSome || command.transfer then
      closeSwapOffersOf command.offerId (out.nullifiers.getD []) txHash now rows
    else rows
  match command.grantId with
  | some grantId => recordDeployedContracts grantId out.deployed rows
  | none => rows

/-- What an executor writes once its transaction has landed. -/
def executorLanded (time : ExecutionTime) (job : RecordedJob) (outcome : ConfirmedOutcome)
    (now : Nat) (rows : LandedRows) : Recorded :=
  match job with
  | .mintFactoryToken mintedTokenType sponsorSessionId grantId =>
    match truthy mintedTokenType with
    | some tokenType =>
      ⟨recordPlatformMint [tokenType] ⟨grantId, sponsorSessionId, some outcome.txHash⟩ rows, []⟩
    | none => ⟨rows, []⟩
  | .anchorDocument _ documentId =>
    ⟨{ rows with
        documents := updateRows (·.ID = documentId) (anchored outcome.txHash now)
          rows.documents }, []⟩
  | .grantDisclosure fields disclosureGrantId level =>
    ⟨{ rows with
        disclosureGrants := rows.disclosureGrants.updateWhere
          (fun row => row.ID = disclosureGrantId && notNewerThan outcome.blockHeight row)
          (confirmedDisclosureLevel level outcome.txHash now outcome.blockHeight) },
      [fields.reindex outcome.blockHeight]⟩
  | .revokeDisclosure fields attesterId payloadHash grantee =>
    ⟨{ rows with
        disclosureGrants := rows.disclosureGrants.updateWhere (fun row =>
            row.grant = ⟨fields.contractAddress, attesterId, payloadHash, grantee⟩ &&
              notNewerThan outcome.blockHeight row)
          (confirmedRemoval outcome.txHash now outcome.blockHeight) },
      [fields.reindex outcome.blockHeight]⟩
  | .retract fields mode attesterId key =>
    if mode = 0 then
      ⟨{ rows with
          disclosureGrants := rows.disclosureGrants.updateWhere
            (fun row => row.grant.contractAddress = fields.contractAddress &&
              some row.grant.attesterId = attesterId && row.grant.payloadHash = key &&
              row.active && notNewerThan outcome.blockHeight row)
            (confirmedRemoval outcome.txHash now outcome.blockHeight) },
        [fields.reindex outcome.blockHeight]⟩
    else ⟨rows, []⟩
  | .workflow job =>
    match job.proofRequest persistentHash time with
    | some _ =>
      ⟨recordProven job.command.predicateAttestationIds outcome.childCall.txHash now rows, []⟩
    | none => ⟨rows, []⟩
  | .sponsored command _ tx => ⟨recordOnGrant command tx.out outcome.txHash now rows, []⟩
  | .deploy | .call | .callBatch _ | .registerPassport _ => ⟨rows, []⟩

/-- `clearPendingDisclosureLevel`. -/
def clearPendingDisclosureLevel (disclosureGrantId level now : Nat) (rows : LandedRows) :
    LandedRows :=
  { rows with
    disclosureGrants := rows.disclosureGrants.updateWhere
      (fun row => row.ID = disclosureGrantId && row.pendingLevel = some level)
      (DisclosureProjection.pending none now) }

/-- What an executor writes once its transaction has failed: the submit throws. -/
def executorFailed (job : RecordedJob) (now : Nat) (rows : LandedRows) : Recorded :=
  match job with
  | .grantDisclosure _ disclosureGrantId level =>
    ⟨clearPendingDisclosureLevel disclosureGrantId level now rows, []⟩
  | _ => ⟨rows, []⟩

/-- What an executor writes when it sees the outcome. -/
def executorRecords (time : ExecutionTime) (job : RecordedJob) (outcome : ConfirmedOutcome)
    (now : Nat) (rows : LandedRows) : Recorded :=
  if outcome.success then executorLanded persistentHash time job outcome now rows
  else executorFailed job now rows

/-! ## The reconciliation -/

/-- What the checks before a finalizer or another execution find, at the time of the
reconciliation. -/
structure ReconcileChecks where
  /-- `assertArtifactGeneration`. -/
  generationHolds : String → Option String → Bool
  /-- `contractResolver`. -/
  resolves : String → Option String → Bool
  /-- The job has no agent grant, or the grant still covers it. -/
  grantCovers : Bool

def ReconcileChecks.holdsFor (checks : ReconcileChecks) (fields : ContractFields) : Bool :=
  checks.generationHolds fields.compiledArtifactRef fields.artifactDigest

/-- `reindexLater`. -/
def ReconcileChecks.reindexLater (checks : ReconcileChecks) (fields : ContractFields)
    (landed : Option Nat) : List ReindexRequest :=
  if checks.resolves fields.compiledArtifactRef fields.artifactDigest then [fields.reindex landed]
  else []

/-- A row ID that a truthiness test lets through. -/
def RowId.ofText (text : String) : Option RowId :=
  if given : text ≠ "" then some ⟨text, given⟩ else none

/-- `finalizeSponsoredSubmission`, with the data of the attempt row. -/
def finalizeSponsoredSubmission (command : SponsorJobCommand) (data : Midnight.IntentData)
    (txHash : String) (now : Nat) (rows : LandedRows) : LandedRows :=
  let coordinates := Midnight.parseSubmitIntent data
  let strings (name : String) : List String :=
    (Midnight.readField coordinates name (Json.asList? Json.asString?)).getD []
  let reserved := (Midnight.readField coordinates "deployReservation" Json.asFields?).bind
    fun reservation => Midnight.readField reservation "grantId" Json.asString?
  let grantId := (reserved.or (command.grantId.map RowId.text)).bind RowId.ofText
  let rows :=
    match grantId with
    | some grantId => recordDeployedContracts grantId (strings "deployed") rows
    | none => rows
  let rows := recordPlatformMint (strings "minted")
    ⟨grantId, command.sponsorSessionId, some txHash⟩ rows
  closeSwapOffersOf ((Midnight.readField coordinates "offerId" Json.asString?).bind RowId.ofText)
    (strings "nullifiers") txHash now rows

/-- The row of the attempt that a sponsored transaction has announced. -/
def SponsoredTx.submitIntentData (feeSponsor : String) (command : SponsorJobCommand)
    (tx : SponsoredTx) : Midnight.IntentData :=
  match (tx.announcement feeSponsor command).recorded with
  | some row => row.submitIntentData
  | none => .null

/-- What the finalizer of a job writes, or the second execution of a workflow, whose steps have
their jobs already. A finalizer that throws writes nothing. -/
def reconciliationLanded (checks : ReconcileChecks) (first second : ExecutionTime)
    (job : RecordedJob) (outcome : ConfirmedOutcome) (finalizedAt : Option Nat) (now : Nat)
    (rows : LandedRows) : Recorded :=
  let changedAt := finalizedAt.getD now
  match job with
  | .mintFactoryToken mintedTokenType sponsorSessionId grantId =>
    match truthy mintedTokenType with
    | some tokenType =>
      ⟨recordPlatformMint [tokenType] ⟨grantId, sponsorSessionId, some outcome.txHash⟩ rows, []⟩
    | none => ⟨rows, []⟩
  | .anchorDocument fields documentId =>
    if checks.holdsFor fields then
      ⟨{ rows with
          documents := updateRows (·.ID = documentId) (anchored outcome.txHash changedAt)
            rows.documents }, []⟩
    else ⟨rows, []⟩
  | .grantDisclosure fields disclosureGrantId level =>
    if checks.holdsFor fields then
      ⟨{ rows with
          disclosureGrants := rows.disclosureGrants.updateWhere
            (fun row => row.ID = disclosureGrantId && notNewerThan outcome.blockHeight row)
            (confirmedDisclosureLevel level outcome.txHash changedAt outcome.blockHeight) },
        checks.reindexLater fields outcome.blockHeight⟩
    else ⟨rows, []⟩
  | .revokeDisclosure fields attesterId payloadHash grantee =>
    if checks.holdsFor fields then
      ⟨{ rows with
          disclosureGrants := rows.disclosureGrants.updateWhere (fun row =>
              row.grant = ⟨fields.contractAddress, attesterId, payloadHash, grantee⟩ &&
                notNewerThan outcome.blockHeight row)
            (confirmedRemoval outcome.txHash changedAt outcome.blockHeight) },
        checks.reindexLater fields outcome.blockHeight⟩
    else ⟨rows, []⟩
  | .retract fields mode attesterId key =>
    if checks.holdsFor fields && mode = 0 then
      ⟨{ rows with
          disclosureGrants := rows.disclosureGrants.updateWhere
            (fun row => row.grant.contractAddress = fields.contractAddress &&
              some row.grant.attesterId = attesterId && row.grant.payloadHash = key &&
              row.active && notNewerThan outcome.blockHeight row)
            (confirmedRemoval outcome.txHash changedAt outcome.blockHeight) },
        checks.reindexLater fields outcome.blockHeight⟩
    else ⟨rows, []⟩
  | .workflow job =>
    if checks.generationHolds job.command.compiledArtifactRef job.artifactDigest &&
        checks.grantCovers then
      match job.proofRequest persistentHash first, job.proofRequest persistentHash second with
      | some stored, some again =>
        -- Another fingerprint under the key of the step: `IdempotencyConflictError`.
        if again.payloadFingerprint = stored.payloadFingerprint then
          ⟨recordProven job.command.predicateAttestationIds outcome.childCall.txHash now rows, []⟩
        else ⟨rows, []⟩
      | _, _ => ⟨rows, []⟩
    else ⟨rows, []⟩
  | .sponsored command feeSponsor tx =>
    ⟨finalizeSponsoredSubmission command (tx.submitIntentData feeSponsor command) outcome.txHash
      now rows, []⟩
  -- No finalizer, or one that writes no row.
  | .deploy | .call | .callBatch _ | .registerPassport _ => ⟨rows, []⟩

/-- What the reconciliation writes when it learns the outcome. No finalizer runs for a transaction
that has failed. -/
def reconciliationRecords (checks : ReconcileChecks) (first second : ExecutionTime)
    (job : RecordedJob) (outcome : ConfirmedOutcome) (finalizedAt : Option Nat) (now : Nat)
    (rows : LandedRows) : Recorded :=
  if outcome.success then
    reconciliationLanded persistentHash checks first second job outcome finalizedAt now rows
  else ⟨rows, []⟩

/-- Whatever the rows hold and the clock shows, the reconciliation leaves them as the executor
would have at some time. -/
def RecordsAlike (checks : ReconcileChecks) (job : RecordedJob) (outcome : ConfirmedOutcome) :
    Prop :=
  ∀ rows first second finalizedAt now, ∃ seenAt,
    reconciliationRecords persistentHash checks first second job outcome finalizedAt now rows =
      executorRecords persistentHash first job outcome seenAt rows

@[simp] theorem RowId.ofText_text (id : RowId) : RowId.ofText id.text = some id := by
  unfold ofText
  rw [dif_pos id.given]

@[simp] theorem RowId.bind_ofText (id : Option RowId) :
    (id.map RowId.text).bind RowId.ofText = id := by
  cases id with
  | none => rfl
  | some id => exact id.ofText_text

@[simp] theorem RowId.truthy_text (id : Option RowId) :
    Midnight.truthy (id.map RowId.text) = id.map RowId.text := by
  cases id with
  | none => rfl
  | some id => simp [Midnight.truthy, id.given]

section Coordinates

variable (intent : Midnight.SubmitIntent) (record : Midnight.SponsorRecord)

/-- The coordinates of an attempt row, parsed again. -/
def storedCoordinates : Json.Fields :=
  Midnight.parseSubmitIntent (.text (Midnight.sponsorCoordinates intent record))

theorem stored_deployed :
    Midnight.readField (storedCoordinates intent record) "deployed"
      (Json.asList? Json.asString?) = Midnight.filled (some (Midnight.deployedAddresses intent)) :=
  congrArg Midnight.SubmitIntent.deployed (Midnight.parsedIntent_sponsor "" intent record)

theorem stored_minted :
    Midnight.readField (storedCoordinates intent record) "minted" (Json.asList? Json.asString?) =
      Midnight.filled intent.minted :=
  congrArg Midnight.SubmitIntent.minted (Midnight.parsedIntent_sponsor "" intent record)

theorem stored_nullifiers :
    Midnight.readField (storedCoordinates intent record) "nullifiers"
      (Json.asList? Json.asString?) = Midnight.filled intent.nullifiers :=
  congrArg Midnight.SubmitIntent.nullifiers (Midnight.parsedIntent_sponsor "" intent record)

theorem stored_offerId :
    Midnight.readField (storedCoordinates intent record) "offerId" Json.asString? =
      Midnight.truthy record.offerId := by
  simp [storedCoordinates, Midnight.parseSubmitIntent, Midnight.sponsorCoordinates,
    Midnight.readField]

/-- The grant of a reservation is the grant of the command. -/
theorem stored_reservation (fallback : Option String)
    (isGrant : Midnight.truthy record.grantId = fallback) :
    ((Midnight.readField (storedCoordinates intent record) "deployReservation"
        Json.asFields?).bind fun reservation =>
      Midnight.readField reservation "grantId" Json.asString?).or fallback = fallback := by
  subst isGrant
  cases grant : Midnight.truthy record.grantId with
  | none =>
    simp [storedCoordinates, Midnight.parseSubmitIntent, Midnight.sponsorCoordinates,
      Midnight.readField, grant]
  | some grantId =>
    cases addresses : Midnight.deployedAddresses intent <;>
      simp [storedCoordinates, Midnight.parseSubmitIntent, Midnight.sponsorCoordinates,
        Midnight.readField, grant, addresses]

end Coordinates

/-- The intent the hook of a sponsored transaction gets has no nullifiers. -/
theorem SponsoredTx.submitIntentData_eq (feeSponsor : String) (command : SponsorJobCommand)
    (tx : SponsoredTx) :
    ∃ intent : Midnight.SubmitIntent,
      Midnight.parseSubmitIntent (tx.submitIntentData feeSponsor command) =
        storedCoordinates intent (SponsoredTx.record feeSponsor command) ∧
      (Midnight.filled (some (Midnight.deployedAddresses intent))).getD [] =
        (Midnight.deployedOf tx.calls).filter (· ≠ "") ∧
      (Midnight.filled intent.minted).getD [] = tx.minted ∧ intent.nullifiers = none := by
  refine ⟨Midnight.submitIntentInfo (tx.announcement feeSponsor command).intent, ?_, ?_, ?_, ?_⟩
  · cases tx <;> rfl
  · rw [Midnight.getD_filled]
    cases tx <;> rfl
  · cases tx with
    | finalized _ _ _ _ minted => cases minted <;> rfl
    | unbound _ _ _ _ _ _ minted => cases minted <;> rfl
  · rfl

/-- What the finalizer reads of an announced intent: everything but the nullifiers. -/
theorem finalizeSponsoredSubmission_eq (command : SponsorJobCommand) (feeSponsor : String)
    (tx : SponsoredTx) (txHash : String) (now : Nat) (rows : LandedRows) :
    finalizeSponsoredSubmission command (tx.submitIntentData feeSponsor command) txHash now rows =
      closeSwapOffersOf command.offerId [] txHash now
        (recordPlatformMint tx.minted ⟨command.grantId, command.sponsorSessionId, some txHash⟩
          (match command.grantId with
            | some grantId =>
              recordDeployedContracts grantId (Midnight.deployedOf tx.calls) rows
            | none => rows)) := by
  rcases tx.submitIntentData_eq feeSponsor command with
    ⟨intent, isStored, deployed, minted, nullifiers⟩
  have reserved := stored_reservation intent (SponsoredTx.record feeSponsor command)
    (command.grantId.map RowId.text) (RowId.truthy_text command.grantId)
  have offer : (Midnight.truthy (SponsoredTx.record feeSponsor command).offerId).bind
      RowId.ofText = command.offerId := by
    simp only [SponsoredTx.record, RowId.truthy_text, RowId.bind_ofText]
  unfold finalizeSponsoredSubmission
  simp only [isStored, reserved, RowId.bind_ofText, stored_deployed, deployed, stored_minted,
    minted, stored_nullifiers, nullifiers, stored_offerId, offer]
  cases command.grantId with
  | none => rfl
  | some grantId =>
    simp only [recordDeployedContracts, GrantLists.deploy_filter]
    rfl

theorem nonempty_getD {α : Type} (values : List α) :
    (Midnight.nonempty values).getD [] = values := by
  cases values <;> rfl

theorem closeSwapOffersOf_quiet {nullifiers : List String}
    (quiet : landedNullifiers nullifiers = []) (offerId : Option RowId) (txHash : String)
    (now : Nat) (rows : LandedRows) :
    closeSwapOffersOf offerId nullifiers txHash now rows =
      closeSwapOffersOf offerId [] txHash now rows := by
  unfold closeSwapOffersOf
  rw [closeOffersByNullifiers_none quiet, closeOffersByNullifiers_nil]

@[simp] theorem closeSwapOffersOf_none (txHash : String) (now : Nat) (rows : LandedRows) :
    closeSwapOffersOf none [] txHash now rows = rows := rfl

/-- Offers are closed for the inputs of swaps and transfers. -/
def SponsorJobCommand.closesOffers (command : SponsorJobCommand) : Bool :=
  command.swap.isSome || command.transfer

theorem SponsorJobCommand.offerId_none {command : SponsorJobCommand}
    (plain : command.closesOffers = false) : command.offerId = none := by
  unfold closesOffers at plain
  cases isSwap : command.swap with
  | none => simp [offerId, isSwap]
  | some swap => simp [isSwap] at plain

/-- The executor and the finalizer write the same for a transaction that closes no offer for an
input. -/
theorem recordOnGrant_alike (command : SponsorJobCommand) (feeSponsor : String) (tx : SponsoredTx)
    (quiet : command.closesOffers → landedNullifiers tx.nullifiers = []) (txHash : String)
    (now : Nat) (rows : LandedRows) :
    finalizeSponsoredSubmission command (tx.submitIntentData feeSponsor command) txHash now rows =
      recordOnGrant command tx.out txHash now rows := by
  have closed (rows : LandedRows) :
      (if command.swap.isSome || command.transfer then
        closeSwapOffersOf command.offerId (tx.out.nullifiers.getD []) txHash now rows
      else rows) = closeSwapOffersOf command.offerId [] txHash now rows := by
    split
    next closes =>
      rw [SponsoredTx.out, nonempty_getD]
      exact closeSwapOffersOf_quiet (quiet closes) command.offerId txHash now rows
    next plain =>
      rw [SponsorJobCommand.offerId_none (by simpa [SponsorJobCommand.closesOffers] using plain),
        closeSwapOffersOf_none]
  rw [finalizeSponsoredSubmission_eq]
  simp only [recordOnGrant, closed]
  have minted : tx.out.minted.getD [] = tx.minted := nonempty_getD tx.minted
  rw [minted]
  cases command.grantId with
  | none => rfl
  | some grantId =>
    simp only [recordDeployed_close, recordDeployed_mint]
    rfl

/-- The offers after a swap or a transfer. -/
theorem recordOnGrant_offers {command : SponsorJobCommand} (closes : command.closesOffers)
    (tx : SponsoredTx) (txHash : String) (now : Nat) (rows : LandedRows) :
    (recordOnGrant command tx.out txHash now rows).offers =
      closeOffersByNullifiers tx.nullifiers txHash now
        (closeNamedOffer command.offerId txHash now rows.offers) := by
  have closes : (command.swap.isSome || command.transfer) = true := closes
  simp only [recordOnGrant, if_pos closes]
  cases command.grantId <;>
    simp only [recordDeployedContracts_offers, closeSwapOffersOf, recordPlatformMint_offers,
      SponsoredTx.out, nonempty_getD]

/-! ## Where the paths agree -/

namespace WorkflowJob

/-- A proof step can be derived, and it proves an attestation. -/
def Proves (job : WorkflowJob) : Prop :=
  job.command.DerivesRecordKeys ∧ job.command.predicateAttestationIds ≠ []

theorem proofRequest_isSome (job : WorkflowJob) (time : ExecutionTime) :
    (job.proofRequest persistentHash time).isSome ↔ job.command.DerivesRecordKeys := by
  rw [← ContractCommandV1.proofCommand_isSome persistentHash time.lifetime time.readings,
    proofRequest, Option.isSome_map]

/-- A command that dates its claims asks for the same step again. -/
theorem proofRequest_dated {job : WorkflowJob} (dated : job.command.DatesClaims)
    (first second : ExecutionTime) :
    job.proofRequest persistentHash first = job.proofRequest persistentHash second := by
  unfold proofRequest
  rw [ContractCommandV1.proofCommand_dated dated]

/-- Another one asks for another step once the clock shows another second. -/
theorem proofRequest_ne {job : WorkflowJob} (undated : ¬ job.command.DatesClaims)
    {lifetime : Option Nat} {readings readings' : Nat → Nat}
    (later : ∀ i, readings i / 1000 ≠ readings' i / 1000) {stored again : StartRequest}
    (isStored : job.proofRequest persistentHash ⟨lifetime, readings⟩ = some stored)
    (isAgain : job.proofRequest persistentHash ⟨lifetime, readings'⟩ = some again) :
    again.payloadFingerprint ≠ stored.payloadFingerprint := by
  rcases Option.map_eq_some_iff.mp isStored with ⟨first, derived, rfl⟩
  rcases Option.map_eq_some_iff.mp isAgain with ⟨second, derived', rfl⟩
  intro same
  have sameText := congrArg Sha256.text same
  have samePayload : (job.stepRequest ⟨job.command.proofNames.1, job.command.proofNames.2,
        second⟩).payload =
      (job.stepRequest ⟨job.command.proofNames.1, job.command.proofNames.2, first⟩).payload :=
    String.append_right_inj _ |>.mp sameText
  exact ContractCommandV1.proofCommand_ne later undated derived derived'
    (job.callArgs_of_payload samePayload).symm

end WorkflowJob

/-- Both checks of a projection pass. -/
def ReconcileChecks.projects (checks : ReconcileChecks) (fields : ContractFields) : Bool :=
  checks.holdsFor fields && checks.resolves fields.compiledArtifactRef fields.artifactDigest

/-- What a landed transaction must meet to be recorded alike. -/
def RecordedJob.SurvivesLanding (checks : ReconcileChecks) : RecordedJob → Prop
  | .anchorDocument fields _ => checks.holdsFor fields
  | .grantDisclosure fields .. | .revokeDisclosure fields .. => checks.projects fields
  | .retract fields mode .. => mode = 0 → checks.projects fields
  | .workflow job => job.Proves →
      checks.generationHolds job.command.compiledArtifactRef job.artifactDigest ∧
        checks.grantCovers ∧ job.command.DatesClaims
  | .sponsored command _ tx => command.closesOffers → landedNullifiers tx.nullifiers = []
  | _ => True

/-- A failed transaction is recorded alike unless a pending level waits for it. -/
def RecordedJob.SurvivesFailure : RecordedJob → Prop
  | .grantDisclosure .. => False
  | _ => True

section Landing

variable {checks : ReconcileChecks} {job : RecordedJob}

/-- A workflow without a proof step, or without attestations, marks none. -/
theorem executorLanded_workflow_none {job : WorkflowJob} (proves : ¬ job.Proves)
    (time : ExecutionTime) (outcome : ConfirmedOutcome) (now : Nat) (rows : LandedRows) :
    executorLanded persistentHash time (.workflow job) outcome now rows = ⟨rows, []⟩ := by
  simp only [executorLanded]
  cases isRequest : job.proofRequest persistentHash time with
  | none => rfl
  | some request =>
    have derives := (job.proofRequest_isSome persistentHash time).mp (by rw [isRequest]; rfl)
    have isNil : job.command.predicateAttestationIds = [] := by
      by_contra isSome
      exact proves ⟨derives, isSome⟩
    rw [isNil, recordProven_nil]

theorem reconciliationLanded_workflow_none {job : WorkflowJob} (proves : ¬ job.Proves)
    (first second : ExecutionTime) (outcome : ConfirmedOutcome) (finalizedAt : Option Nat)
    (now : Nat) (rows : LandedRows) :
    reconciliationLanded persistentHash checks first second (.workflow job) outcome finalizedAt now
      rows = ⟨rows, []⟩ := by
  have marksNone := executorLanded_workflow_none persistentHash proves first outcome now rows
  simp only [executorLanded] at marksNone
  simp only [reconciliationLanded]
  split
  · cases isStored : job.proofRequest persistentHash first with
    | none => rfl
    | some stored =>
      rw [isStored] at marksNone
      cases job.proofRequest persistentHash second with
      | none => rfl
      | some again =>
        dsimp only
        split
        · exact marksNone
        · rfl
  · rfl

theorem landed_alike (survives : job.SurvivesLanding checks) (outcome : ConfirmedOutcome)
    (rows : LandedRows) (first second : ExecutionTime) (finalizedAt : Option Nat) (now : Nat) :
    ∃ seenAt, reconciliationLanded persistentHash checks first second job outcome finalizedAt now
      rows = executorLanded persistentHash first job outcome seenAt rows := by
  cases job with
  | deploy | call | callBatch | registerPassport | mintFactoryToken => exact ⟨now, rfl⟩
  | anchorDocument fields documentId =>
    have holds : checks.holdsFor fields = true := survives
    exact ⟨finalizedAt.getD now, if_pos holds⟩
  | grantDisclosure fields | revokeDisclosure fields =>
    have projects : checks.projects fields = true := survives
    rcases Bool.and_eq_true_iff.mp projects with ⟨holds, resolves⟩
    refine ⟨finalizedAt.getD now, ?_⟩
    simp only [reconciliationLanded, executorLanded, ReconcileChecks.reindexLater, holds,
      resolves, if_true]
  | retract fields mode =>
    refine ⟨finalizedAt.getD now, ?_⟩
    by_cases isZero : mode = 0
    · rcases Bool.and_eq_true_iff.mp (survives isZero) with ⟨holds, resolves⟩
      simp only [reconciliationLanded, executorLanded, ReconcileChecks.reindexLater, holds,
        resolves, isZero, decide_true, Bool.and_self, if_true]
    · simp only [reconciliationLanded, executorLanded, isZero, decide_false, Bool.and_false,
        Bool.false_eq_true, if_false]
  | workflow job =>
    refine ⟨now, ?_⟩
    by_cases proves : job.Proves
    · rcases survives proves with ⟨holds, covers, dated⟩
      simp only [reconciliationLanded, executorLanded, holds, covers, Bool.and_self, if_true,
        WorkflowJob.proofRequest_dated persistentHash dated second first]
      cases job.proofRequest persistentHash first <;> simp
    · rw [executorLanded_workflow_none persistentHash proves,
        reconciliationLanded_workflow_none persistentHash proves]
  | sponsored command feeSponsor tx =>
    refine ⟨now, ?_⟩
    simp only [reconciliationLanded, executorLanded]
    rw [recordOnGrant_alike command feeSponsor tx survives]

/-- A finalizer whose checks fail asks for no reindex. -/
theorem reindexes_refused {fields : ContractFields} (refused : checks.projects fields = false)
    (landed : Option Nat) :
    (if checks.holdsFor fields then checks.reindexLater fields landed else []) = [] := by
  unfold ReconcileChecks.projects at refused
  split
  next holds =>
    rw [holds, Bool.true_and] at refused
    simp [ReconcileChecks.reindexLater, refused]
  · rfl

/-- An execution within a second of the clock. -/
def ExecutionTime.atSecond (second : Nat) : ExecutionTime := ⟨none, fun _ => second * 1000⟩

section Refused

variable {outcome : ConfirmedOutcome}
  (alike : ∀ rows first second finalizedAt now, ∃ seenAt,
    reconciliationLanded persistentHash checks first second job outcome finalizedAt now rows =
      executorLanded persistentHash first job outcome seenAt rows)

include alike

theorem survivesLanding_of_alike : job.SurvivesLanding checks := by
  cases job with
  | deploy | call | callBatch | registerPassport | mintFactoryToken => trivial
  | anchorDocument fields documentId =>
    show checks.holdsFor fields = true
    by_contra fails
    rcases alike { LandedRows.blank with documents := [⟨documentId, none, none, 0⟩] }
      ⟨none, fun _ => 0⟩ ⟨none, fun _ => 0⟩ none 0 with ⟨_, same⟩
    have documents := congrArg (fun recorded => recorded.rows.documents) same
    simp [reconciliationLanded, executorLanded, fails, updateRows, anchored] at documents
  | grantDisclosure fields | revokeDisclosure fields =>
    by_contra fails
    have refused := reindexes_refused (Bool.not_eq_true _ ▸ fails) outcome.blockHeight
    rcases alike .blank ⟨none, fun _ => 0⟩ ⟨none, fun _ => 0⟩ none 0 with ⟨_, same⟩
    have reindexes := congrArg Recorded.reindexes same
    simp only [reconciliationLanded, executorLanded, apply_ite Recorded.reindexes, refused]
      at reindexes
    cases reindexes
  | retract fields mode attesterId key =>
    intro isZero
    subst isZero
    by_contra fails
    have refused := reindexes_refused (Bool.not_eq_true _ ▸ fails) outcome.blockHeight
    rcases alike .blank ⟨none, fun _ => 0⟩ ⟨none, fun _ => 0⟩ none 0 with ⟨_, same⟩
    have reindexes := congrArg Recorded.reindexes same
    simp only [reconciliationLanded, executorLanded, apply_ite Recorded.reindexes, refused,
      decide_true, Bool.and_true, if_true] at reindexes
    cases reindexes
  | workflow job =>
    intro proves
    rcases Option.isSome_iff_exists.mp
      ((job.proofRequest_isSome persistentHash (.atSecond 0)).mpr proves.1) with ⟨stored, isStored⟩
    rcases Option.isSome_iff_exists.mp
      ((job.proofRequest_isSome persistentHash (.atSecond 1)).mpr proves.1) with ⟨again, isAgain⟩
    rcases List.exists_mem_of_ne_nil _ proves.2 with ⟨id, isId⟩
    let rows : LandedRows := { LandedRows.blank with attestations := [⟨id, none, none, 0⟩] }
    rcases alike rows (.atSecond 0) (.atSecond 1) none 0 with ⟨seenAt, same⟩
    -- The executor marks the attestation, so the second execution does not stop before.
    have marks (stopped : reconciliationLanded persistentHash checks (.atSecond 0) (.atSecond 1)
        (.workflow job) outcome none 0 rows = ⟨rows, []⟩) : False := by
      have unmarked := congrArg (fun recorded => recorded.rows.attestations)
        (same.symm.trans stopped)
      simp [executorLanded, isStored, recordProven, updateRows, proven, isId, rows] at unmarked
    refine ⟨?_, ?_, ?_⟩
    · by_contra fails
      apply marks
      simp [reconciliationLanded, fails]
    · by_contra fails
      apply marks
      simp [reconciliationLanded, fails]
    · by_contra undated
      apply marks
      have conflict : again.payloadFingerprint ≠ stored.payloadFingerprint :=
        WorkflowJob.proofRequest_ne persistentHash undated (by simp) isStored isAgain
      simp [reconciliationLanded, isStored, isAgain, conflict]
  | sponsored command feeSponsor tx =>
    intro closes
    by_contra spends
    rcases List.exists_mem_of_ne_nil _ spends with ⟨landed, isLanded⟩
    rcases List.mem_map.mp (List.mem_of_mem_filter isLanded) with ⟨nullifier, _, isTrimmed⟩
    subst isTrimmed
    let row : OfferRow := ⟨otherId command.offerId, .listed, [trimText nullifier], none, none⟩
    have other (now : Nat) :
        closeNamedOffer command.offerId outcome.txHash now [row] = [row] :=
      closeNamedOffer_other rfl outcome.txHash now
    rcases alike { LandedRows.blank with offers := [row] } (.atSecond 0) (.atSecond 0) none 0
      with ⟨seenAt, same⟩
    have offers := congrArg (fun recorded => recorded.rows.offers) same
    have executed : (recordOnGrant command tx.out outcome.txHash seenAt
        { LandedRows.blank with offers := [row] }).offers =
          [row.close .filled outcome.txHash seenAt] := by
      rw [recordOnGrant_offers closes, other]
      exact closeOffersByNullifiers_hit isLanded (otherId command.offerId) outcome.txHash seenAt
    have reconciled : (finalizeSponsoredSubmission command
        (tx.submitIntentData feeSponsor command) outcome.txHash 0
        { LandedRows.blank with offers := [row] }).offers = [row] := by
      rw [finalizeSponsoredSubmission_eq]
      simp only [closeSwapOffersOf, closeOffersByNullifiers_nil, recordPlatformMint_offers]
      cases command.grantId <;> exact other 0
    simp only [reconciliationLanded, executorLanded, executed, reconciled] at offers
    have statuses := congrArg (List.map OfferRow.status) offers
    cases statuses

end Refused

theorem RecordsAlike.landing {outcome : ConfirmedOutcome}
    (alike : RecordsAlike persistentHash checks job outcome) (landed : outcome.success) :
    job.SurvivesLanding checks := by
  simp only [RecordsAlike, reconciliationRecords, executorRecords, landed, if_true] at alike
  exact survivesLanding_of_alike persistentHash alike

/-- A failed grant request leaves its pending level to the reconciliation. -/
theorem survivesFailure_of_alike
    (alike : ∀ rows : LandedRows, ∃ seenAt, ⟨rows, []⟩ = executorFailed job seenAt rows) :
    job.SurvivesFailure := by
  cases job with
  | grantDisclosure fields disclosureGrantId level =>
    let requested : DisclosureGrant :=
      ⟨disclosureGrantId, ⟨"", "", "", ""⟩, 0, some level, none, none, false, none, 0⟩
    rcases alike { LandedRows.blank with disclosureGrants := Table.empty.insert requested }
      with ⟨_, same⟩
    have pending := congrArg
      (fun recorded => recorded.rows.disclosureGrants.rows.map DisclosureGrant.pendingLevel) same
    simp [executorFailed, clearPendingDisclosureLevel, Table.updateWhere, Table.insert,
      Table.empty, Table.find?, requested, DisclosureProjection.pending] at pending
  | _ => trivial

/-- The two paths record an outcome alike, whatever the rows hold, exactly if no input of a landed
sponsored swap or transfer has a valid nullifier, a workflow dates its claims, the grant and the
artifact that are checked again still hold, and what has failed is no grant of a disclosure. -/
theorem records_alike_iff (persistentHash : List Nat → List Nat → String)
    (checks : ReconcileChecks) (job : RecordedJob) (outcome : ConfirmedOutcome) :
    RecordsAlike persistentHash checks job outcome ↔
      if outcome.success then job.SurvivesLanding checks else job.SurvivesFailure := by
  split
  next landed =>
    constructor
    · intro alike
      exact alike.landing persistentHash landed
    · intro survives rows first second finalizedAt now
      simp only [reconciliationRecords, executorRecords, landed, if_true]
      exact landed_alike persistentHash survives outcome rows first second finalizedAt now
  next failed =>
    constructor
    · intro alike
      simp only [RecordsAlike, reconciliationRecords, executorRecords, failed] at alike
      apply survivesFailure_of_alike
      intro rows
      exact alike rows (.atSecond 0) (.atSecond 0) none 0
    · intro survives rows first second finalizedAt now
      refine ⟨now, ?_⟩
      simp only [reconciliationRecords, executorRecords, failed]
      cases job with
      | grantDisclosure => cases survives
      | _ => rfl

end Landing

end Recording

/-- A sponsored swap with one input, named by no offer. -/
def landedSwap : RecordedJob :=
  .sponsored ⟨some "sponsor", none, some ⟨none⟩, false⟩ "sponsor"
    (.unbound ⟨["id"], []⟩ none [⟨"", "<swap>"⟩] "note" "sponsor" "ttl" []
      [String.ofList (List.replicate 64 'a')] [] none)

/-- The finalizer of a landed swap leaves another offer with the same input open. -/
theorem swap_recorded_unlike :
    ¬ RecordsAlike (fun _ _ => "key") ⟨fun _ _ => true, fun _ _ => true, true⟩ landedSwap
      ⟨"tx", some 7, true⟩ := by
  intro alike
  have survives := alike.landing (fun _ _ => "key") rfl
  have quiet : landedNullifiers [String.ofList (List.replicate 64 'a')] = [] := survives rfl
  revert quiet
  decide +kernel

end Nightgate.Submission
