import Nightgate.Library.JsonText

/-!
# Contract commands

The commands that the submitting actions store and the executor runs: the workflows, whose steps
are jobs of their own, the calls those jobs make, and the commands of the document actions. The
artifact digest that a job stores beside a command is not part of it.
-/

namespace Nightgate.Submission

open Library

structure SchemaSlotWire where
  fieldKey : String
  kind : Nat
  scale : String

structure SlotOpening where
  present : Bool
  value : Option String
  valueDigest : Option String

structure OpeningWire where
  saltSeed : String
  slots : List SlotOpening

structure SetProof where
  siblings : List String
  dirs : List Bool

/-- The path of a value in a set, as a call carries it. -/
structure SetProofBundle where
  siblings : Option (List String)
  dirs : Option (List Bool)

structure DocPairBundle where
  schema : Option (List SchemaSlotWire)
  openingA : Option OpeningWire
  openingB : Option OpeningWire

structure MerkleProofBundle where
  fieldValue : Option String := none
  fieldSalt : Option String := none
  fieldDigest : Option String := none
  siblings : Option (List String) := none
  dirs : Option (List Bool) := none
  setProof : Option SetProofBundle := none
  docPair : Option DocPairBundle := none

/-! ## Commands -/

/-- One circuit call. An argument that is undefined is written as null. -/
structure CircuitCall where
  circuit : String
  args : List (Option String)
  merkleProof : Option MerkleProofBundle

/-- What the single-field workflows share. -/
structure FieldWorkflow where
  predicateAttestationId : String
  validUntil : Option Int
  payloadHash : String
  attesterId : String
  fieldKey : String
  contractAddress : String
  compiledArtifactRef : String
  salt : String
  siblings : List String
  dirs : List Bool
  contentRoot : Option String
  schemaId : Option String
  sponsorSessionId : Option String

/-- What the workflows that compare two documents share. -/
structure DocumentPairWorkflow where
  predicateAttestationId : String
  validUntil : Option Int
  payloadHashA : String
  payloadHashB : String
  attesterIdA : String
  attesterIdB : String
  contractAddress : String
  compiledArtifactRef : String
  schema : List SchemaSlotWire
  openingA : OpeningWire
  openingB : OpeningWire
  contentRootA : Option String
  contentRootB : Option String
  schemaId : Option String
  sponsorSessionId : Option String

structure BatchClaimCommand where
  predicateAttestationId : String
  predicate : String
  unit : Option String
  validUntil : Option Int
  fieldKey : Option String
  salt : Option String
  threshold : Option String
  opCode : Option Nat
  value : Option String
  expectedDigest : Option String
  setRoot : Option String
  valueDigest : Option String
  setSiblings : Option (List String)
  setDirs : Option (List Bool)
  payloadHashB : Option String
  attesterIdB : Option String
  allowedMask : Option Int
  k : Option Int
  schema : Option (List SchemaSlotWire)
  openingA : Option OpeningWire
  openingB : Option OpeningWire
  siblings : Option (List String)
  dirs : Option (List Bool)

structure BatchWorkflow where
  payloadHash : String
  attesterId : String
  validUntil : Option Int
  contractAddress : String
  compiledArtifactRef : String
  contentRoot : Option String
  schemaId : Option String
  claims : List BatchClaimCommand
  sponsorSessionId : Option String

/-- A value of a request or of a parsed object. -/
inductive Arg (Value : Type) where
  | undefined
  | null
  | value (value : Value)
  deriving DecidableEq

/-- `ContractCommandV1`, the operations of the claims and documents. -/
inductive ContractCommandV1 where
  | fieldPredicateWorkflow (command : FieldWorkflow) (predicate threshold : String) (opCode : Nat)
      (unit : Arg String) (value : String)
  | fieldEqualityWorkflow (command : FieldWorkflow) (expectedDigest : String)
  | fieldMembershipWorkflow (command : FieldWorkflow) (setRoot valueDigest : String)
      (setSiblings : List String) (setDirs : List Bool)
  | documentIntegrityWorkflow (command : DocumentPairWorkflow) (allowedMask : Int)
  | documentDiffWorkflow (command : DocumentPairWorkflow) (k : Int)
  | fieldPredicateBatchWorkflow (command : BatchWorkflow)
  | anchorDocument (documentId payloadHash metadataHash attesterId contractAddress
      compiledArtifactRef : String) (sponsorSessionId : Option String)
  | registerPassport (passportId ownerId : String) (mode : Int) (contractAddress
      compiledArtifactRef : String) (sponsorSessionId : Option String)
  | retract (mode : Nat) (key : String) (attesterId : Option String) (contractAddress
      compiledArtifactRef : String) (sponsorSessionId : Option String)

/-- `ContractCommandV1`, the operations of the steps of a workflow. -/
inductive StepCommand where
  | call (contractAddress circuit compiledArtifactRef : String) (args : List (Option String))
      (merkleProof : Option MerkleProofBundle) (sponsorSessionId : Option String)
  | callBatch (contractAddress : String) (calls : List CircuitCall) (compiledArtifactRef : String)
      (sponsorSessionId : Option String) (independentCalls : Bool) (orderedPrefix : Nat)

/-- The arguments of the calls. -/
def StepCommand.callArgs : StepCommand → List (List (Option String))
  | .call _ _ _ args _ _ => [args]
  | .callBatch _ calls _ _ _ _ => calls.map CircuitCall.args

namespace SchemaSlotWire

def json (slot : SchemaSlotWire) : Json :=
  .object [("fieldKey", some (.str slot.fieldKey)), ("kind", some (.num slot.kind)),
    ("scale", some (.str slot.scale))]

theorem json_injective : Function.Injective json := by
  intro first second same
  have fields := Json.object_inj same rfl (by simp)
  cases first
  cases second
  simpa using fields

end SchemaSlotWire

namespace SlotOpening

def json (slot : SlotOpening) : Json :=
  .object [("present", some (.bool slot.present)), ("value", slot.value.map .str),
    ("valueDigest", slot.valueDigest.map .str)]

theorem json_injective : Function.Injective json := by
  intro first second same
  have fields := Json.object_inj same rfl (by simp)
  have strings := Option.map_injective Json.str_injective
  cases first
  cases second
  simpa [strings.eq_iff] using fields

end SlotOpening

namespace OpeningWire

def json (opening : OpeningWire) : Json :=
  .object [("saltSeed", some (.str opening.saltSeed)),
    ("slots", some (.arr (opening.slots.map SlotOpening.json)))]

theorem json_injective : Function.Injective json := by
  intro first second same
  have fields := Json.object_inj same rfl (by simp)
  have slots := List.map_injective_iff.mpr SlotOpening.json_injective
  cases first
  cases second
  simpa [slots.eq_iff] using fields

end OpeningWire

def schemaJson (schema : List SchemaSlotWire) : Json := .arr (schema.map SchemaSlotWire.json)

theorem schemaJson_injective : Function.Injective schemaJson :=
  fun _ _ => Json.arr_map_inj SchemaSlotWire.json_injective

namespace Arg

/-- The value of a field: an undefined one is not written. -/
def json (arg : Arg String) : Option Json :=
  match arg with
  | .undefined => none
  | .null => some .null
  | .value text => some (.str text)

theorem json_injective : Function.Injective json := by
  intro first second same
  cases first <;> cases second <;> simp_all [json]

/-- `?.`, with an operation on the value. -/
def get? {Value : Type} : Arg Value → Option Value
  | .value given => some given
  | _ => none

end Arg

def argsJson (args : List (Option String)) : Json :=
  .arr (args.map fun arg => arg.elim .null .str)

theorem argsJson_injective : Function.Injective argsJson := by
  intro first second same
  apply Json.arr_map_inj _ same
  intro arg arg' equal
  cases arg <;> cases arg' <;> simp_all

def SetProofBundle.json (proof : SetProofBundle) : Json :=
  .object [("siblings", proof.siblings.map Json.strings), ("dirs", proof.dirs.map Json.bools)]

def DocPairBundle.json (pair : DocPairBundle) : Json :=
  .object [("schema", pair.schema.map schemaJson), ("openingA", pair.openingA.map OpeningWire.json),
    ("openingB", pair.openingB.map OpeningWire.json)]

def MerkleProofBundle.json (proof : MerkleProofBundle) : Json :=
  .object [("fieldValue", proof.fieldValue.map .str), ("fieldDigest", proof.fieldDigest.map .str),
    ("fieldSalt", proof.fieldSalt.map .str), ("siblings", proof.siblings.map Json.strings),
    ("dirs", proof.dirs.map Json.bools), ("setProof", proof.setProof.map SetProofBundle.json),
    ("docPair", proof.docPair.map DocPairBundle.json)]

namespace CircuitCall

def json (call : CircuitCall) : Json :=
  .object [("circuit", some (.str call.circuit)), ("args", some (argsJson call.args)),
    ("merkleProof", call.merkleProof.map MerkleProofBundle.json)]

theorem args_of_json {first second : CircuitCall} (same : first.json = second.json) :
    first.args = second.args := by
  have fields := Json.object_inj same rfl (by simp)
  simp only [List.cons.injEq, Prod.mk.injEq, Option.some.injEq, true_and] at fields
  exact argsJson_injective fields.2.1

theorem args_of_jsons {first second : List CircuitCall}
    (same : first.map json = second.map json) : first.map args = second.map args := by
  induction first generalizing second with
  | nil => simp_all
  | cons call calls ih =>
    cases second with
    | nil => cases same
    | cons call' calls' =>
      rcases List.cons.inj same with ⟨sameCall, sameCalls⟩
      rw [List.map_cons, List.map_cons, args_of_json sameCall, ih sameCalls]

end CircuitCall

namespace StepCommand

/-- The JSON of a command with the artifact digest beside it. -/
def json (artifactDigest : Option String) : StepCommand → Json
  | .call contractAddress circuit compiledArtifactRef args merkleProof sponsorSessionId =>
    .object [("op", some (.str "call")), ("contractAddress", some (.str contractAddress)),
      ("circuit", some (.str circuit)), ("compiledArtifactRef", some (.str compiledArtifactRef)),
      ("args", some (argsJson args)), ("merkleProof", merkleProof.map MerkleProofBundle.json),
      ("sponsorSessionId", sponsorSessionId.map .str),
      ("artifactDigest", artifactDigest.map .str)]
  | .callBatch contractAddress calls compiledArtifactRef sponsorSessionId independentCalls
      orderedPrefix =>
      .object [("op", some (.str "callBatch")), ("contractAddress", some (.str contractAddress)),
        ("calls", some (.arr (calls.map CircuitCall.json))),
        ("compiledArtifactRef", some (.str compiledArtifactRef)),
        ("sponsorSessionId", sponsorSessionId.map .str),
        ("independentCalls", some (.bool independentCalls)),
        ("orderedPrefix", some (.num orderedPrefix)), ("artifactDigest", artifactDigest.map .str)]

theorem callArgs_of_json {artifactDigest : Option String} {first second : StepCommand}
    (same : first.json artifactDigest = second.json artifactDigest) :
    first.callArgs = second.callArgs := by
  cases first with
  | call =>
    cases second with
    | call =>
      have fields := Json.object_inj same rfl (by simp)
      simp only [List.cons.injEq, Prod.mk.injEq, Option.some.injEq, true_and] at fields
      rw [callArgs, callArgs, argsJson_injective fields.2.2.2.1]
    | callBatch => simp [json, Json.object] at same
  | callBatch =>
    cases second with
    | call => simp [json, Json.object] at same
    | callBatch =>
      have fields := Json.object_inj same rfl (by simp)
      simp only [List.cons.injEq, Prod.mk.injEq, Option.some.injEq, true_and] at fields
      exact CircuitCall.args_of_jsons (Json.arr.inj fields.2.1)

end StepCommand

end Nightgate.Submission
