import Nightgate.Submission.ActionRequests

/-!
# Workflow steps

A workflow runs its steps as jobs of their own: the anchors of its content roots, then one proof.
The executor derives their commands from the stored command of the parent, the clock and the
settings, each time it runs.
-/

namespace Nightgate.Submission

open Library

/-- `claimDefaultLifetimeS`, with the setting `NIGHTGATE_CLAIM_LIFETIME_S`. -/
def claimDefaultLifetimeS (configured : Option Nat) : Int :=
  min (configured.getD (365 * 24 * 60 * 60) : Nat) (CLAIM_MAX_LIFETIME_S - 60)

/-- `claimValidUntil` when the clock shows `now` milliseconds. -/
def claimValidUntil (configured : Option Nat) (now : Nat) (requested : Option Int) : Int :=
  requested.getD (((now / 1000 : Nat) : Int) + claimDefaultLifetimeS configured)

/-- `String(value)` of an integer. -/
def numText (value : Int) : String := String.ofList (Json.decimal value)

/-- `String(value)` of an integer that may be undefined. -/
def numTextOf (value : Option Int) : String := value.elim "undefined" numText

/-- An absent or empty text counts as none. -/
def truthy (text : Option String) : Option String := text.filter (· ≠ "")

structure WorkflowStep where
  kind : String
  step : String
  command : StepCommand

section Steps

-- The hash of the circuit runtime, over the digits of two hex texts.
variable (persistentHash : List Nat → List Nat → String)

/-- `computeRecordKey`, none where it throws. -/
def computeRecordKey (attesterId payloadHash : String) : Option String :=
  if isHex64 attesterId && isHex64 payloadHash then
    some (persistentHash (attesterId.toList.filterMap (radixDigit 16))
      (payloadHash.toList.filterMap (radixDigit 16)))
  else none

def anchorArgs (payloadHash contentRoot : String) (schemaId : Option String) :
    List (Option String) :=
  [some payloadHash, some contentRoot, schemaId]

namespace FieldWorkflow

def anchorSteps (command : FieldWorkflow) : List WorkflowStep :=
  (truthy command.contentRoot).toList.map fun contentRoot =>
    ⟨"fieldAnchorRoot", "anchorContentRoot",
      .call command.contractAddress "anchorContentRoot" command.compiledArtifactRef
        (anchorArgs command.payloadHash contentRoot command.schemaId) none
        command.sponsorSessionId⟩

def proofCommand (command : FieldWorkflow) (circuit : String) (claim : List (Option String))
    (merkleProof : MerkleProofBundle) (validUntil : Int) : Option StepCommand := do
  let recordKey ← computeRecordKey persistentHash command.attesterId command.payloadHash
  some (.call command.contractAddress circuit command.compiledArtifactRef
    ([some recordKey, some command.fieldKey] ++ claim ++ [some (numText validUntil)])
    (some merkleProof) command.sponsorSessionId)

end FieldWorkflow

namespace DocumentPairWorkflow

def anchorStep (command : DocumentPairWorkflow) (step payloadHash : String)
    (contentRoot : Option String) : List WorkflowStep :=
  (truthy contentRoot).toList.map fun contentRoot =>
    ⟨"fieldAnchorRoot", step,
      .call command.contractAddress "anchorContentRoot" command.compiledArtifactRef
        (anchorArgs payloadHash contentRoot command.schemaId) none command.sponsorSessionId⟩

def anchorSteps (command : DocumentPairWorkflow) : List WorkflowStep :=
  command.anchorStep "anchorContentRootA" command.payloadHashA command.contentRootA ++
    command.anchorStep "anchorContentRootB" command.payloadHashB command.contentRootB

def proofCommand (command : DocumentPairWorkflow) (mode : List (Option String))
    (validUntil : Int) : Option StepCommand := do
  let recordKeyA ← computeRecordKey persistentHash command.attesterIdA command.payloadHashA
  let recordKeyB ← computeRecordKey persistentHash command.attesterIdB command.payloadHashB
  some (.call command.contractAddress "proveDocumentComparison" command.compiledArtifactRef
    ([some recordKeyA, some recordKeyB] ++ mode ++ [some (numText validUntil)])
    (some { docPair := some ⟨some command.schema, some command.openingA, some command.openingB⟩ })
    command.sponsorSessionId)

end DocumentPairWorkflow

namespace BatchClaimCommand

def docPair (claim : BatchClaimCommand) : MerkleProofBundle :=
  { docPair := some ⟨claim.schema, claim.openingA, claim.openingB⟩ }

/-- The claim compares two documents. -/
def comparesDocuments (claim : BatchClaimCommand) : Bool :=
  claim.predicate = "documentIntegrity" || claim.predicate = "documentDiff"

/-- `computeRecordKey` of the second document. -/
def recordKeyB (claim : BatchClaimCommand) (attesterId : String) : Option String :=
  computeRecordKey persistentHash (claim.attesterIdB.getD attesterId) (claim.payloadHashB.getD "")

/-- The call of one claim of a batch. -/
def call (claim : BatchClaimCommand) (attesterId recordKey : String) (validUntil : Int) :
    Option CircuitCall :=
  if claim.predicate = "documentIntegrity" then
    (claim.recordKeyB persistentHash attesterId).map fun recordKeyB =>
      ⟨"proveDocumentComparison",
        [some recordKey, some recordKeyB, some "0", some (numTextOf claim.allowedMask), some "1",
          some (numText validUntil)],
        some claim.docPair⟩
  else if claim.predicate = "documentDiff" then
    (claim.recordKeyB persistentHash attesterId).map fun recordKeyB =>
      ⟨"proveDocumentComparison",
        [some recordKey, some recordKeyB, some "1", some "0", some (numTextOf claim.k),
          some (numText validUntil)],
        some claim.docPair⟩
  else if claim.predicate = "bytesEquality" then
    some ⟨"proveFieldEquality",
      [some recordKey, claim.fieldKey, claim.expectedDigest, some (numText validUntil)],
      some { fieldSalt := claim.salt, siblings := claim.siblings, dirs := claim.dirs }⟩
  else if claim.predicate = "setMembership" then
    some ⟨"proveFieldMembership",
      [some recordKey, claim.fieldKey, claim.setRoot, some (numText validUntil)],
      some {
        fieldDigest := claim.valueDigest, fieldSalt := claim.salt
        siblings := claim.siblings, dirs := claim.dirs
        setProof := some ⟨claim.setSiblings, claim.setDirs⟩ }⟩
  else
    some ⟨"proveFieldPredicate", [some recordKey, claim.fieldKey, claim.threshold,
        some (numTextOf (claim.opCode.map Int.ofNat)), some (numText validUntil)],
      some {
        fieldValue := claim.value, fieldSalt := claim.salt
        siblings := claim.siblings, dirs := claim.dirs }⟩

end BatchClaimCommand

namespace BatchWorkflow

def anchorCalls (command : BatchWorkflow) : List CircuitCall :=
  (truthy command.contentRoot).toList.map fun contentRoot =>
    ⟨"anchorContentRoot", anchorArgs command.payloadHash contentRoot command.schemaId, none⟩

/-- The calls of the claims; each claim reads the clock for itself. -/
def claimCalls (command : BatchWorkflow) (configured : Option Nat) (recordKey : String) :
    List BatchClaimCommand → (Nat → Nat) → Option (List CircuitCall)
  | [], _ => some []
  | claim :: rest, readings => do
      let call ← claim.call persistentHash command.attesterId recordKey
        (claimValidUntil configured (readings 0) (claim.validUntil.or command.validUntil))
      let calls ← claimCalls command configured recordKey rest fun i => readings (i + 1)
      some (call :: calls)

def proofCommand (command : BatchWorkflow) (configured : Option Nat) (readings : Nat → Nat) :
    Option StepCommand := do
  let recordKey ← computeRecordKey persistentHash command.attesterId command.payloadHash
  let claims ← command.claimCalls persistentHash configured recordKey command.claims readings
  let calls := command.anchorCalls ++ claims
  some (.callBatch command.contractAddress calls command.compiledArtifactRef
    command.sponsorSessionId true
    (if calls.head?.any fun call => call.circuit = "anchorContentRoot" then 1 else 0))

end BatchWorkflow

namespace ContractCommandV1

/-- The steps before the proof. -/
def anchorSteps : ContractCommandV1 → List WorkflowStep
  | .fieldPredicateWorkflow command .. | .fieldEqualityWorkflow command ..
  | .fieldMembershipWorkflow command .. => command.anchorSteps
  | .documentIntegrityWorkflow command _ | .documentDiffWorkflow command _ => command.anchorSteps
  | _ => []

/-- The kind and the name of the proof step. -/
def proofNames : ContractCommandV1 → String × String
  | .fieldPredicateWorkflow .. => ("fieldPredicateProof", "proveFieldPredicate")
  | .fieldEqualityWorkflow .. => ("fieldEqualityProof", "proveFieldEquality")
  | .fieldMembershipWorkflow .. => ("fieldMembershipProof", "proveFieldMembership")
  | .documentIntegrityWorkflow .. => ("documentIntegrityProof", "proveDocumentComparison-integrity")
  | .documentDiffWorkflow .. => ("documentDiffProof", "proveDocumentComparison-diff")
  | .fieldPredicateBatchWorkflow _ => ("fieldPredicateBatchProof", "proveFieldPredicateBatch")
  | _ => ("", "")

/-- The command of the proof step: none where a record key throws, and without a workflow. -/
def proofCommand (configured : Option Nat) (readings : Nat → Nat) :
    ContractCommandV1 → Option StepCommand
  | .fieldPredicateWorkflow command _ threshold opCode _ value =>
    command.proofCommand persistentHash "proveFieldPredicate"
      [some threshold, some (numText opCode)]
      {
        fieldValue := some value, fieldSalt := some command.salt
        siblings := some command.siblings, dirs := some command.dirs }
      (claimValidUntil configured (readings 0) command.validUntil)
  | .fieldEqualityWorkflow command expectedDigest =>
    command.proofCommand persistentHash "proveFieldEquality" [some expectedDigest]
      {
        fieldSalt := some command.salt
        siblings := some command.siblings, dirs := some command.dirs }
      (claimValidUntil configured (readings 0) command.validUntil)
  | .fieldMembershipWorkflow command setRoot valueDigest setSiblings setDirs =>
    command.proofCommand persistentHash "proveFieldMembership" [some setRoot]
      {
        fieldDigest := some valueDigest, fieldSalt := some command.salt
        siblings := some command.siblings, dirs := some command.dirs
        setProof := some ⟨some setSiblings, some setDirs⟩ }
      (claimValidUntil configured (readings 0) command.validUntil)
  | .documentIntegrityWorkflow command allowedMask =>
    command.proofCommand persistentHash [some "0", some (numText allowedMask), some "1"]
      (claimValidUntil configured (readings 0) command.validUntil)
  | .documentDiffWorkflow command k =>
    command.proofCommand persistentHash [some "1", some "0", some (numText k)]
      (claimValidUntil configured (readings 0) command.validUntil)
  | .fieldPredicateBatchWorkflow command => command.proofCommand persistentHash configured readings
  | _ => none

/-- The steps of an execution, in their order. -/
def workflowSteps (configured : Option Nat) (readings : Nat → Nat) (command : ContractCommandV1) :
    List WorkflowStep :=
  command.anchorSteps ++ (command.proofCommand persistentHash configured readings).toList.map
      (⟨command.proofNames.1, command.proofNames.2, ·⟩)

end ContractCommandV1

/-! ## What a step depends on -/

theorem claimValidUntil_some (configured configured' : Option Nat) (now now' : Nat)
    {requested : Option Int} (dated : requested.isSome) :
    claimValidUntil configured now requested = claimValidUntil configured' now' requested := by
  rcases Option.isSome_iff_exists.mp dated with ⟨validUntil, rfl⟩
  rfl

theorem numText_injective : Function.Injective numText := by
  intro first second same
  have ends : Json.Ends [] := by
    intro c isHead
    cases isHead
  have texts : Json.decimal first = Json.decimal second := String.ofList_inj.mp same
  exact (Json.decimal_cancel ends ends (by rw [texts])).1

/-- Without a date of its own, a claim ends at another second when the clock shows another one. -/
theorem claimValidUntil_none {configured : Option Nat} {now now' : Nat} {requested : Option Int}
    (undated : ¬ requested.isSome) (later : now / 1000 ≠ now' / 1000) :
    numText (claimValidUntil configured now requested) ≠
      numText (claimValidUntil configured now' requested) := by
  have isNone : requested = none := by simpa using undated
  subst isNone
  intro same
  have values := numText_injective same
  simp only [claimValidUntil, Option.getD_none] at values
  omega

namespace ContractCommandV1

/-- Every claim of the command carries a `validUntil`, its own or the command's. -/
def DatesClaims : ContractCommandV1 → Prop
  | .fieldPredicateWorkflow command .. | .fieldEqualityWorkflow command ..
  | .fieldMembershipWorkflow command .. => command.validUntil.isSome
  | .documentIntegrityWorkflow command _ | .documentDiffWorkflow command _ =>
    command.validUntil.isSome
  | .fieldPredicateBatchWorkflow command =>
    ∀ claim ∈ command.claims, (claim.validUntil.or command.validUntil).isSome
  | _ => True

/-- The command is a workflow, and the ids its record keys are derived from are 64 hex digits. -/
def DerivesRecordKeys : ContractCommandV1 → Prop
  | .fieldPredicateWorkflow command .. | .fieldEqualityWorkflow command ..
  | .fieldMembershipWorkflow command .. => isHex64 command.attesterId && isHex64 command.payloadHash
  | .documentIntegrityWorkflow command _ | .documentDiffWorkflow command _ =>
    (isHex64 command.attesterIdA && isHex64 command.payloadHashA) ∧
      (isHex64 command.attesterIdB && isHex64 command.payloadHashB)
  | .fieldPredicateBatchWorkflow command =>
    (isHex64 command.attesterId && isHex64 command.payloadHash) ∧
      ∀ claim ∈ command.claims, claim.comparesDocuments →
        isHex64 (claim.attesterIdB.getD command.attesterId) && isHex64 (claim.payloadHashB.getD "")
  | _ => False

instance (command : ContractCommandV1) : Decidable command.DatesClaims := by
  cases command <;> unfold DatesClaims <;> infer_instance

instance (command : ContractCommandV1) : Decidable command.DerivesRecordKeys := by
  cases command <;> unfold DerivesRecordKeys <;> infer_instance

end ContractCommandV1

section Dependence

theorem computeRecordKey_isSome (persistentHash : List Nat → List Nat → String)
    (attesterId payloadHash : String) :
    (computeRecordKey persistentHash attesterId payloadHash).isSome ↔
      isHex64 attesterId && isHex64 payloadHash := by
  unfold computeRecordKey
  split
  next hex => simp [hex]
  next notHex => simp [notHex]

variable {persistentHash : List Nat → List Nat → String}

/-- Calls that end at different seconds differ in their last argument. -/
theorem lastArg_ne {first second : List (Option String)} {validUntil validUntil' : Int}
    (later : numText validUntil ≠ numText validUntil') :
    [first ++ [some (numText validUntil)]] ≠ [second ++ [some (numText validUntil')]] := by
  intro same
  rcases List.append_inj' (List.singleton_inj.mp same) rfl with ⟨_, sameLast⟩
  exact later (Option.some.inj (List.singleton_inj.mp sameLast))

namespace FieldWorkflow

variable {command : FieldWorkflow} {circuit : String} {claim : List (Option String)}
  {merkleProof : MerkleProofBundle} {validUntil validUntil' : Int} {first second : StepCommand}

theorem proofCommand_isSome :
    (command.proofCommand persistentHash circuit claim merkleProof validUntil).isSome ↔
      isHex64 command.attesterId && isHex64 command.payloadHash := by
  rw [← computeRecordKey_isSome persistentHash]
  unfold proofCommand
  cases computeRecordKey persistentHash command.attesterId command.payloadHash <;> simp

theorem proofCommand_ne (later : numText validUntil ≠ numText validUntil')
    (derived : command.proofCommand persistentHash circuit claim merkleProof validUntil =
      some first)
    (derived' : command.proofCommand persistentHash circuit claim merkleProof validUntil' =
      some second) : first.callArgs ≠ second.callArgs := by
  rcases Option.bind_eq_some_iff.mp derived with ⟨_, _, isFirst⟩
  rcases Option.bind_eq_some_iff.mp derived' with ⟨_, _, isSecond⟩
  cases isFirst
  cases isSecond
  exact lastArg_ne later

end FieldWorkflow

namespace DocumentPairWorkflow

variable {command : DocumentPairWorkflow} {mode : List (Option String)}
  {validUntil validUntil' : Int} {first second : StepCommand}

theorem proofCommand_isSome :
    (command.proofCommand persistentHash mode validUntil).isSome ↔
      (isHex64 command.attesterIdA && isHex64 command.payloadHashA) ∧
        (isHex64 command.attesterIdB && isHex64 command.payloadHashB) := by
  rw [← computeRecordKey_isSome persistentHash, ← computeRecordKey_isSome persistentHash]
  unfold proofCommand
  cases computeRecordKey persistentHash command.attesterIdA command.payloadHashA <;>
    cases computeRecordKey persistentHash command.attesterIdB command.payloadHashB <;> simp

theorem proofCommand_ne (later : numText validUntil ≠ numText validUntil')
    (derived : command.proofCommand persistentHash mode validUntil = some first)
    (derived' : command.proofCommand persistentHash mode validUntil' = some second) :
    first.callArgs ≠ second.callArgs := by
  rcases Option.bind_eq_some_iff.mp derived with ⟨_, _, rest⟩
  rcases Option.bind_eq_some_iff.mp rest with ⟨_, _, isFirst⟩
  rcases Option.bind_eq_some_iff.mp derived' with ⟨_, _, rest'⟩
  rcases Option.bind_eq_some_iff.mp rest' with ⟨_, _, isSecond⟩
  cases isFirst
  cases isSecond
  exact lastArg_ne later

end DocumentPairWorkflow

namespace BatchClaimCommand

variable {claim : BatchClaimCommand} {attesterId recordKey : String}

theorem call_isSome (persistentHash : List Nat → List Nat → String) (claim : BatchClaimCommand)
    (attesterId recordKey : String) (validUntil : Int) :
    (claim.call persistentHash attesterId recordKey validUntil).isSome ↔
      (claim.comparesDocuments → isHex64 (claim.attesterIdB.getD attesterId) &&
        isHex64 (claim.payloadHashB.getD "")) := by
  rw [← computeRecordKey_isSome persistentHash]
  unfold call comparesDocuments recordKeyB
  split
  next integrity => simp [integrity]
  · split
    next diff => simp [diff]
    next integrity diff =>
      simp only [integrity, diff, decide_false, Bool.or_self, Bool.false_eq_true, false_implies,
        iff_true]
      split <;> [rfl; split <;> rfl]

theorem call_lastArg {validUntil : Int} {call : CircuitCall}
    (derived : claim.call persistentHash attesterId recordKey validUntil = some call) :
    call.args.getLast? = some (some (numText validUntil)) := by
  unfold BatchClaimCommand.call at derived
  split at derived
  · rcases Option.map_eq_some_iff.mp derived with ⟨_, _, rfl⟩
    rfl
  · split at derived
    · rcases Option.map_eq_some_iff.mp derived with ⟨_, _, rfl⟩
      rfl
    · split at derived <;> [skip; split at derived] <;> cases derived <;> rfl

theorem call_ne {validUntil validUntil' : Int} {first second : CircuitCall}
    (later : numText validUntil ≠ numText validUntil')
    (derived : claim.call persistentHash attesterId recordKey validUntil = some first)
    (derived' : claim.call persistentHash attesterId recordKey validUntil' = some second) :
    first.args ≠ second.args := by
  intro same
  have lastArg := call_lastArg derived
  rw [same, call_lastArg derived'] at lastArg
  exact later (Option.some.inj (Option.some.inj lastArg)).symm

end BatchClaimCommand

namespace BatchWorkflow

variable {command : BatchWorkflow} {configured : Option Nat} {recordKey : String}
  {readings readings' : Nat → Nat}

theorem claimCalls_isSome (persistentHash : List Nat → List Nat → String)
    (command : BatchWorkflow) (configured : Option Nat) (recordKey : String)
    (claims : List BatchClaimCommand) (readings : Nat → Nat) :
    (command.claimCalls persistentHash configured recordKey claims readings).isSome ↔
      ∀ claim ∈ claims, claim.comparesDocuments →
        isHex64 (claim.attesterIdB.getD command.attesterId) &&
          isHex64 (claim.payloadHashB.getD "") := by
  induction claims generalizing readings with
  | nil => simp [claimCalls]
  | cons claim rest ih =>
    rw [List.forall_mem_cons, ← ih fun i => readings (i + 1),
      ← BatchClaimCommand.call_isSome persistentHash claim command.attesterId recordKey
        (claimValidUntil configured (readings 0) (claim.validUntil.or command.validUntil))]
    simp only [claimCalls]
    cases claim.call persistentHash command.attesterId recordKey
        (claimValidUntil configured (readings 0) (claim.validUntil.or command.validUntil)) with
    | none => simp
    | some call =>
      cases command.claimCalls persistentHash configured recordKey rest
          fun i => readings (i + 1) <;> simp

/-- The calls of dated claims are the same at any time. -/
theorem claimCalls_dated {configured' : Option Nat} {claims : List BatchClaimCommand}
    (dated : ∀ claim ∈ claims, (claim.validUntil.or command.validUntil).isSome) :
    command.claimCalls persistentHash configured recordKey claims readings =
      command.claimCalls persistentHash configured' recordKey claims readings' := by
  induction claims generalizing readings readings' with
  | nil => rfl
  | cons claim rest ih =>
    rw [List.forall_mem_cons] at dated
    have sameRest := @ih (fun i => readings (i + 1)) (fun i => readings' (i + 1)) dated.2
    rw [claimCalls, claimCalls, sameRest,
      claimValidUntil_some configured configured' (readings 0) (readings' 0) dated.1]

theorem claimCalls_ne {claims : List BatchClaimCommand} {first second : List CircuitCall}
    (later : ∀ i, readings i / 1000 ≠ readings' i / 1000)
    (undated : ¬ ∀ claim ∈ claims, (claim.validUntil.or command.validUntil).isSome)
    (derived : command.claimCalls persistentHash configured recordKey claims readings = some first)
    (derived' : command.claimCalls persistentHash configured recordKey claims readings' =
      some second) : first.map CircuitCall.args ≠ second.map CircuitCall.args := by
  induction claims generalizing readings readings' first second with
  | nil => exact absurd (by simp) undated
  | cons claim rest ih =>
    rcases Option.bind_eq_some_iff.mp derived with ⟨call, isCall, derivedRest⟩
    rcases Option.bind_eq_some_iff.mp derivedRest with ⟨calls, areCalls, isFirst⟩
    rcases Option.bind_eq_some_iff.mp derived' with ⟨call', isCall', derivedRest'⟩
    rcases Option.bind_eq_some_iff.mp derivedRest' with ⟨calls', areCalls', isSecond⟩
    cases isFirst
    cases isSecond
    intro same
    rcases List.cons.inj same with ⟨sameArgs, sameRest⟩
    rw [List.forall_mem_cons, not_and_or] at undated
    rcases undated with undatedClaim | undatedRest
    · exact BatchClaimCommand.call_ne (claimValidUntil_none undatedClaim (later 0)) isCall
        isCall' sameArgs
    · exact ih (fun i => later (i + 1)) undatedRest areCalls areCalls' sameRest

theorem proofCommand_isSome :
    (command.proofCommand persistentHash configured readings).isSome ↔
      (isHex64 command.attesterId && isHex64 command.payloadHash) ∧
        ∀ claim ∈ command.claims, claim.comparesDocuments →
          isHex64 (claim.attesterIdB.getD command.attesterId) &&
            isHex64 (claim.payloadHashB.getD "") := by
  rw [← computeRecordKey_isSome persistentHash]
  unfold proofCommand
  cases computeRecordKey persistentHash command.attesterId command.payloadHash with
  | none => simp
  | some recordKey =>
    rw [← claimCalls_isSome persistentHash command configured recordKey command.claims readings]
    cases found : command.claimCalls persistentHash configured recordKey command.claims readings <;>
      simp [found]

theorem proofCommand_dated {configured' : Option Nat}
    (dated : ∀ claim ∈ command.claims, (claim.validUntil.or command.validUntil).isSome) :
    command.proofCommand persistentHash configured readings =
      command.proofCommand persistentHash configured' readings' := by
  have same (recordKey : String) :
      command.claimCalls persistentHash configured recordKey command.claims readings =
        command.claimCalls persistentHash configured' recordKey command.claims readings' :=
    claimCalls_dated dated
  simp only [proofCommand, same]

theorem proofCommand_ne {first second : StepCommand}
    (later : ∀ i, readings i / 1000 ≠ readings' i / 1000)
    (undated : ¬ ∀ claim ∈ command.claims, (claim.validUntil.or command.validUntil).isSome)
    (derived : command.proofCommand persistentHash configured readings = some first)
    (derived' : command.proofCommand persistentHash configured readings' = some second) :
    first.callArgs ≠ second.callArgs := by
  rcases Option.bind_eq_some_iff.mp derived with ⟨recordKey, isKey, rest⟩
  rcases Option.bind_eq_some_iff.mp rest with ⟨calls, areCalls, isFirst⟩
  rcases Option.bind_eq_some_iff.mp derived' with ⟨recordKey', isKey', rest'⟩
  rcases Option.bind_eq_some_iff.mp rest' with ⟨calls', areCalls', isSecond⟩
  rw [isKey] at isKey'
  cases isKey'
  cases isFirst
  cases isSecond
  intro same
  simp only [StepCommand.callArgs, List.map_append, List.append_cancel_left_eq] at same
  exact claimCalls_ne later undated areCalls areCalls' same

end BatchWorkflow

namespace ContractCommandV1

variable {configured configured' : Option Nat} {readings readings' : Nat → Nat}

theorem proofCommand_isSome (persistentHash : List Nat → List Nat → String)
    (configured : Option Nat) (readings : Nat → Nat) (command : ContractCommandV1) :
    (command.proofCommand persistentHash configured readings).isSome ↔
      command.DerivesRecordKeys := by
  cases command with
  | fieldPredicateWorkflow | fieldEqualityWorkflow | fieldMembershipWorkflow =>
    exact FieldWorkflow.proofCommand_isSome
  | documentIntegrityWorkflow | documentDiffWorkflow =>
    exact DocumentPairWorkflow.proofCommand_isSome
  | fieldPredicateBatchWorkflow => exact BatchWorkflow.proofCommand_isSome
  | anchorDocument | registerPassport | retract => simp [proofCommand, DerivesRecordKeys]

variable {command : ContractCommandV1}

/-- A command that dates its claims has the same proof step at any time. -/
theorem proofCommand_dated (dated : command.DatesClaims) :
    command.proofCommand persistentHash configured readings =
      command.proofCommand persistentHash configured' readings' := by
  cases command with
  | fieldPredicateWorkflow | fieldEqualityWorkflow | fieldMembershipWorkflow
  | documentIntegrityWorkflow | documentDiffWorkflow =>
    simp only [proofCommand,
      claimValidUntil_some configured configured' (readings 0) (readings' 0) dated]
  | fieldPredicateBatchWorkflow => exact BatchWorkflow.proofCommand_dated dated
  | anchorDocument | registerPassport | retract => rfl

/-- Another one has another proof step when the clock shows another second. -/
theorem proofCommand_ne {first second : StepCommand}
    (later : ∀ i, readings i / 1000 ≠ readings' i / 1000) (undated : ¬ command.DatesClaims)
    (derived : command.proofCommand persistentHash configured readings = some first)
    (derived' : command.proofCommand persistentHash configured readings' = some second) :
    first.callArgs ≠ second.callArgs := by
  cases command with
  | fieldPredicateWorkflow | fieldEqualityWorkflow | fieldMembershipWorkflow =>
    exact FieldWorkflow.proofCommand_ne (claimValidUntil_none undated (later 0)) derived derived'
  | documentIntegrityWorkflow | documentDiffWorkflow =>
    exact DocumentPairWorkflow.proofCommand_ne (claimValidUntil_none undated (later 0)) derived
      derived'
  | fieldPredicateBatchWorkflow =>
    exact BatchWorkflow.proofCommand_ne later undated derived derived'
  | anchorDocument | registerPassport | retract => cases derived

/-- The names of the steps do not depend on the time. -/
theorem workflowSteps_names (persistentHash : List Nat → List Nat → String)
    (configured configured' : Option Nat) (readings readings' : Nat → Nat)
    (command : ContractCommandV1) :
    ((command.workflowSteps persistentHash configured readings).map fun step =>
      (step.kind, step.step)) =
      (command.workflowSteps persistentHash configured' readings').map fun step =>
        (step.kind, step.step) := by
  have derives := proofCommand_isSome persistentHash configured readings command
  rw [← proofCommand_isSome persistentHash configured' readings' command] at derives
  unfold workflowSteps
  cases proof : command.proofCommand persistentHash configured readings <;>
    cases proof' : command.proofCommand persistentHash configured' readings' <;>
      simp_all

/-- The steps of a command that dates its claims, or that has no proof step, are the same at any
time. -/
theorem workflowSteps_fixed (fixed : command.DatesClaims ∨ ¬ command.DerivesRecordKeys)
    (configured configured' : Option Nat) (readings readings' : Nat → Nat) :
    command.workflowSteps persistentHash configured readings =
      command.workflowSteps persistentHash configured' readings' := by
  unfold workflowSteps
  rcases fixed with dated | throws
  · rw [proofCommand_dated dated]
  · have throwsAlways (configured : Option Nat) (readings : Nat → Nat) :
        command.proofCommand persistentHash configured readings = none := by
      rw [← Option.not_isSome_iff_eq_none, proofCommand_isSome]
      exact throws
    rw [throwsAlways, throwsAlways]

/-- The steps of one command have different names. -/
theorem workflowSteps_nodup (persistentHash : List Nat → List Nat → String)
    (configured : Option Nat) (readings : Nat → Nat) (command : ContractCommandV1) :
    ((command.workflowSteps persistentHash configured readings).map fun step =>
      (step.kind, step.step)).Nodup := by
  unfold workflowSteps
  cases command with
  | fieldPredicateWorkflow command | fieldEqualityWorkflow command
  | fieldMembershipWorkflow command =>
    cases ContractCommandV1.proofCommand persistentHash configured readings _ <;>
      cases anchor : truthy command.contentRoot <;>
        simp [anchorSteps, FieldWorkflow.anchorSteps, anchor, proofNames]
  | documentIntegrityWorkflow command | documentDiffWorkflow command =>
    cases ContractCommandV1.proofCommand persistentHash configured readings _ <;>
      cases anchorA : truthy command.contentRootA <;>
        cases anchorB : truthy command.contentRootB <;>
          simp [anchorSteps, DocumentPairWorkflow.anchorSteps, DocumentPairWorkflow.anchorStep,
            anchorA, anchorB, proofNames]
  | fieldPredicateBatchWorkflow command =>
    cases ContractCommandV1.proofCommand persistentHash configured readings _ <;>
      simp [anchorSteps]
  | anchorDocument | registerPassport | retract => simp [anchorSteps, proofCommand]

/-- The anchors are the same at any time. -/
theorem workflowSteps_anchor (persistentHash : List Nat → List Nat → String)
    (configured : Option Nat) (readings : Nat → Nat) {i : Nat}
    (isAnchor : i < command.anchorSteps.length) :
    (command.workflowSteps persistentHash configured readings)[i]? =
      some command.anchorSteps[i] := by
  rw [workflowSteps, List.getElem?_append_left isAnchor, List.getElem?_eq_getElem isAnchor]

/-- The proof comes after the anchors. -/
theorem workflowSteps_proof {proof : StepCommand}
    (isProof : command.proofCommand persistentHash configured readings = some proof) :
    (command.workflowSteps persistentHash configured readings)[command.anchorSteps.length]? =
      some ⟨command.proofNames.1, command.proofNames.2, proof⟩ := by
  rw [workflowSteps, isProof, List.getElem?_append_right (Nat.le_refl _), Nat.sub_self]
  rfl

/-- The names a step can have. -/
def stepNames : List String :=
  ["anchorContentRoot", "anchorContentRootA", "anchorContentRootB", "proveFieldPredicate",
    "proveFieldEquality", "proveFieldMembership", "proveDocumentComparison-integrity",
    "proveDocumentComparison-diff", "proveFieldPredicateBatch"]

theorem step_mem_stepNames {step : WorkflowStep}
    (listed : step ∈ command.workflowSteps persistentHash configured readings) :
    step.step ∈ stepNames := by
  rcases List.mem_append.mp listed with anchor | proof
  · cases command with
    | fieldPredicateWorkflow | fieldEqualityWorkflow | fieldMembershipWorkflow =>
      rcases List.mem_map.mp anchor with ⟨_, _, rfl⟩
      simp [stepNames]
    | documentIntegrityWorkflow | documentDiffWorkflow =>
      rcases List.mem_append.mp anchor with first | second
      · rcases List.mem_map.mp first with ⟨_, _, rfl⟩
        simp [stepNames]
      · rcases List.mem_map.mp second with ⟨_, _, rfl⟩
        simp [stepNames]
    | fieldPredicateBatchWorkflow | anchorDocument | registerPassport | retract => cases anchor
  · rcases List.mem_map.mp proof with ⟨_, isProof, rfl⟩
    cases command with
    | anchorDocument | registerPassport | retract => cases isProof
    | _ => simp [proofNames, stepNames]

end ContractCommandV1

end Dependence

end Steps

end Nightgate.Submission
