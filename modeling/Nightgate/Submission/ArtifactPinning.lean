import Nightgate.Library.Machine
import Nightgate.Library.Pointwise
import Nightgate.Submission.ArtifactSnapshots

/-!
# Jobs pinned to a generation

A stored command records the generation digest of its contract. A job that runs is checked
against it, resolves the contract, and from then on works with the resolved digest, of which the
wallet worker runs a snapshot. Between the steps the name can be registered anew, and the files
can change in place.

Two readers look at neither. The reindex of disclosures imports the registered module under the
resolved digest, whatever the file holds by then, and the mask of a document comparison is
expanded by the slot width that the name is registered with by then.
-/

namespace Nightgate.Submission

open Library

/-- What a command does with its contract. -/
inductive CommandKind where
  /-- The proof workflows: their steps are commands of their own. -/
  | workflow
  /-- Deploys, calls, batches, anchors and passports. -/
  | call
  /-- A proof that compares two documents, whose mask is expanded. -/
  | documentComparison
  /-- Grants and revocations, and the retraction of an attestation, which reindex afterwards. -/
  | disclosureChange
  | reindexDisclosures
  deriving DecidableEq

/-- The command runs a circuit in the wallet worker. -/
def CommandKind.submits : CommandKind → Bool
  | .workflow | .reindexDisclosures => false
  | .call | .documentComparison | .disclosureChange => true

def CommandKind.expandsMask : CommandKind → Bool
  | .documentComparison => true
  | _ => false

def CommandKind.reindexes : CommandKind → Bool
  | .disclosureChange | .reindexDisclosures => true
  | _ => false

structure PinnedCommand (Digest : Type) where
  kind : CommandKind
  compiledArtifactRef : String
  artifactDigest : Option Digest

/-- What a job took from its contract. -/
inductive ArtifactUse where
  /-- The module it ran, and the settings it ran it with. -/
  | circuit (file : ModuleFile) (privateStateId : String) (slotWidth : Nat)
  /-- The keys it proved with. -/
  | keys (assets : ZkAssets)
  /-- The width it expanded a mask to. -/
  | mask (slotWidth : Nat)
  /-- The module it decoded the contract state with. -/
  | decoder (file : ModuleFile)

/-- A job that runs, with what it took so far. -/
structure JobExecution (Digest : Type) where
  command : PinnedCommand Digest
  resolved : Option (ResolvedContract Digest)
  uses : List ArtifactUse

structure Pinning (Digest : Type) where
  disk : Disk
  contracts : ContractRegistry Digest
  worker : ArtifactCaches Digest
  /-- What the decode worker has imported, by path and digest. -/
  decoder : String × Digest → Option ModuleFile
  commands : Nat → Option (PinnedCommand Digest)
  executions : Nat → Option (JobExecution Digest)

def Pinning.start {Digest : Type} (disk : Disk) : Pinning Digest where
  disk := disk
  contracts := .clearRegistry
  worker := ⟨fun _ => none, fun _ => false, fun _ => none, fun _ => none⟩
  decoder := fun _ => none
  commands := fun _ => none
  executions := fun _ => none

inductive PinningEvent (Digest : Type) where
  | registerContract (name : String) (reg : ContractRegistration)
  | unregisterContract (name : String)
  /-- Files change in place, or prover keys are fetched. -/
  | changeFiles (disk : Disk)
  /-- The status of a contract, which shows both digests. -/
  | showDigests (name : String) (fresh : Bool)
  | startJob (jobId : Nat) (command : PinnedCommand Digest)
  /-- A workflow starts one of its steps. -/
  | runChild (execution jobId : Nat) (command : PinnedCommand Digest)
  /-- A job runs, or a landed one is finalized. -/
  | execute (execution jobId : Nat)
  | resolve (execution : Nat) (fresh : Bool)
  | coerceArgs (execution : Nat)
  | loadContract (execution : Nat)
  /-- The providers of the call are pointed at the snapshot. -/
  | bindAssets (execution : Nat)
  | prove (execution : Nat)
  | reindex (execution : Nat)
  /-- The decode worker imports a module to verify a stored proof. -/
  | verifyStored (artifactPath : String) (digest : Digest)
  | evictScaffold (key : String × String × Digest)
  /-- The snapshot is swept, by this process or by another one. -/
  | removeSnapshot (digest : Digest) (here : Bool)
  | restartWorker
  | restartDecoder
  | restartServer

namespace Pinning

variable {Digest : Type} [DecidableEq Digest] (digests : DigestFunctions Digest)

/-- An execution of one of the kinds that has resolved its contract. -/
def running (s : Pinning Digest) (kinds : CommandKind → Bool) (i : Nat) :
    Option (JobExecution Digest × ResolvedContract Digest) :=
  match s.executions i with
  | some execution =>
    if kinds execution.command.kind then execution.resolved.map fun resolved =>
      (execution, resolved)
    else none
  | none => none

def setExecution (s : Pinning Digest) (i : Nat) (execution : JobExecution Digest) :
    Pinning Digest :=
  { s with executions := Function.update s.executions i (some execution) }

def record (s : Pinning Digest) (i : Nat) (execution : JobExecution Digest) (use : ArtifactUse) :
    Pinning Digest :=
  s.setExecution i { execution with uses := use :: execution.uses }

/-- Stores a command, pinned to the build its name points to. -/
def startJob (s : Pinning Digest) (jobId : Nat) (command : PinnedCommand Digest) :
    Pinning Digest :=
  match s.commands jobId, command.artifactDigest with
  | some _, _ => s
  | none, some _ => { s with commands := Function.update s.commands jobId (some command) }
  | none, none =>
    match s.contracts.getArtifactGenerationDigest digests s.disk command.compiledArtifactRef with
    | (none, contracts) => { s with contracts := contracts }
    | (some digest, contracts) =>
      { s with
        contracts := contracts
        commands := Function.update s.commands jobId
          (some { command with artifactDigest := some digest }) }

/-- A step gets the digest of its workflow. -/
def runChild (s : Pinning Digest) (i jobId : Nat) (command : PinnedCommand Digest) :
    Pinning Digest :=
  match s.executions i with
  | some execution =>
    if execution.command.kind = .workflow then
      s.startJob digests jobId
        { command with
          artifactDigest := command.artifactDigest.or execution.command.artifactDigest }
    else s
  | none => s

/-- `executeContractCommand` up to the check, and `executeReindexDisclosures`, which has none. -/
def execute (s : Pinning Digest) (i jobId : Nat) : Pinning Digest :=
  match s.executions i, s.commands jobId with
  | none, some command =>
    if command.kind = .reindexDisclosures then s.setExecution i ⟨command, none, []⟩
    else
      match s.contracts.assertArtifactGeneration digests s.disk command.compiledArtifactRef
          command.artifactDigest with
      | (false, contracts) => { s with contracts := contracts }
      | (true, contracts) => { s with contracts := contracts }.setExecution i ⟨command, none, []⟩
  | _, _ => s

def resolve (s : Pinning Digest) (i : Nat) (fresh : Bool) : Pinning Digest :=
  match s.executions i with
  | some ⟨command, none, uses⟩ =>
    match s.contracts.resolveContract digests s.disk command.compiledArtifactRef
        command.artifactDigest fresh with
    | (resolved, contracts) =>
      { s with contracts := contracts }.setExecution i ⟨command, resolved, uses⟩
  | _ => s

/-- The mask is expanded to `vaultDims` of the name. -/
def coerceArgs (s : Pinning Digest) (i : Nat) : Pinning Digest :=
  match s.running CommandKind.expandsMask i with
  | some (execution, _) =>
    s.record i execution
      (.mask (slotWidthOf (s.contracts.registry execution.command.compiledArtifactRef)))
  | none => s

def loadContract (s : Pinning Digest) (i : Nat) : Pinning Digest :=
  match s.running CommandKind.submits i with
  | some (execution, resolved) =>
    match s.worker.getContractScaffold digests s.disk execution.command.compiledArtifactRef
        resolved.registration resolved.artifactDigest with
    | (none, worker) => { s with worker := worker }
    | (some file, worker) =>
      { s with worker := worker }.record i execution
        (.circuit file resolved.privateStateId (slotWidthOf (some resolved.registration)))
  | none => s

/-- `artifactAssetPath`. -/
def bindAssets (s : Pinning Digest) (i : Nat) : Pinning Digest :=
  match s.running CommandKind.submits i with
  | some (_, resolved) =>
    { s with
      worker := (s.worker.materializeArtifactSnapshot digests s.disk resolved.registration
        resolved.artifactDigest).2 }
  | none => s

/-- The keys are read at proving time, from the snapshot. -/
def prove (s : Pinning Digest) (i : Nat) : Pinning Digest :=
  match s.running CommandKind.submits i with
  | some (execution, resolved) =>
    match s.worker.snapshots resolved.artifactDigest with
    | some snapshot => s.record i execution (.keys snapshot.assets)
    | none => s
  | none => s

/-- `importArtifact`: Node keeps a module by its path and digest. -/
def importArtifact (s : Pinning Digest) (artifactPath : String) (digest : Digest) :
    Option ModuleFile :=
  (s.decoder (artifactPath, digest)).or (s.disk.moduleAt artifactPath)

/-- What the decode worker keeps after an import. -/
def keepImported (s : Pinning Digest) (artifactPath : String) (digest : Digest) :
    Pinning Digest :=
  { s with
    decoder := Function.update s.decoder (artifactPath, digest)
      (s.importArtifact artifactPath digest) }

/-- `readDisclosureGrants`. -/
def reindex (s : Pinning Digest) (i : Nat) : Pinning Digest :=
  match s.running CommandKind.reindexes i with
  | some (execution, resolved) =>
    match s.importArtifact resolved.artifactPath resolved.artifactDigest with
    | some file =>
      (s.keepImported resolved.artifactPath resolved.artifactDigest).record i execution
        (.decoder file)
    | none => s
  | none => s

def step (s : Pinning Digest) : PinningEvent Digest → Pinning Digest
  | .registerContract name reg => { s with contracts := s.contracts.registerContract name reg }
  | .unregisterContract name => { s with contracts := s.contracts.unregisterContract name }
  | .changeFiles disk => { s with disk := disk }
  | .showDigests name fresh =>
    { s with
      contracts :=
        ((s.contracts.getArtifactGenerationDigest digests s.disk name).2.getCurrentArtifactDigest
          digests s.disk name fresh).2 }
  | .startJob jobId command => s.startJob digests jobId command
  | .runChild i jobId command => s.runChild digests i jobId command
  | .execute i jobId => s.execute digests i jobId
  | .resolve i fresh => s.resolve digests i fresh
  | .coerceArgs i => s.coerceArgs i
  | .loadContract i => s.loadContract digests i
  | .bindAssets i => s.bindAssets digests i
  | .prove i => s.prove i
  | .reindex i => s.reindex i
  | .verifyStored artifactPath digest => s.keepImported artifactPath digest
  | .evictScaffold key =>
    { s with
      worker := { s.worker with
        contractScaffolds := Function.update s.worker.contractScaffolds key none } }
  | .removeSnapshot digest here =>
    { s with
      worker := { s.worker with
        snapshots := Function.update s.worker.snapshots digest none
        verifiedSnapshots :=
          if here then Function.update s.worker.verifiedSnapshots digest false
          else s.worker.verifiedSnapshots } }
  | .restartWorker => { s with worker := s.worker.restart }
  | .restartDecoder => { s with decoder := fun _ => none }
  | .restartServer =>
    { s with
      contracts := .clearRegistry
      worker := s.worker.restart
      decoder := fun _ => none
      executions := fun _ => none }

end Pinning

/-! ## The law -/

section Law

variable {Digest : Type} (digests : DigestFunctions Digest)

/-- What was taken belongs to the build. -/
def ArtifactUse.TakenFrom (generation : Generation) : ArtifactUse → Prop
  | .circuit file privateStateId slotWidth =>
    file = generation.module ∧ privateStateId = generation.privateStateId ∧
      slotWidth = generation.slotWidth
  | .keys assets => assets.covered = generation.assets ∧ digests.proverKeysListed assets
  | .mask slotWidth => slotWidth = generation.slotWidth
  | .decoder file => file = generation.module

/-- All a job took is of one build, which the digest stored with its command names. -/
def JobExecution.KeepsToPin (execution : JobExecution Digest) : Prop :=
  execution.uses = [] ∨ ∃ recorded generation, execution.command.artifactDigest = some recorded ∧
      generation.Recognised digests recorded ∧
      ∀ use ∈ execution.uses, use.TakenFrom digests generation

/-- Every job that has run keeps to the digest stored with its command. -/
def Pinning.JobsKeepToPin (s : Pinning Digest) : Prop :=
  ∀ i execution, s.executions i = some execution → execution.KeepsToPin digests

end Law

namespace Pinning

variable {Digest : Type} [DecidableEq Digest] (digests : DigestFunctions Digest)

/-- A module that the decode worker has not imported yet is still that of its digest. -/
def ImportsNamed (s : Pinning Digest) (artifactPath : String) (digest : Digest) : Prop :=
  s.decoder (artifactPath, digest) = none → ∀ file, s.disk.moduleAt artifactPath = some file →
      ArtifactCaches.NamesModule digests digest file

/-- What is read outside the snapshots is as it was when the contract was resolved: an imported
module, the slot width of the name, and, where an older form of the digest is accepted, the
files behind the kept digest. -/
def Unswapped (s : Pinning Digest) : PinningEvent Digest → Prop
  | .resolve i _ =>
    ∀ execution recorded, s.executions i = some execution →
      execution.command.artifactDigest = some recorded →
      s.contracts.acceptsLegacyDigest digests s.disk execution.command.compiledArtifactRef
        recorded →
      ContractRegistry.StatsTell digests s.disk s.contracts execution.command.compiledArtifactRef
  | .coerceArgs i =>
    ∀ execution resolved, s.running CommandKind.expandsMask i = some (execution, resolved) →
      slotWidthOf (s.contracts.registry execution.command.compiledArtifactRef) =
        slotWidthOf (some resolved.registration)
  | .reindex i =>
    ∀ execution resolved, s.running CommandKind.reindexes i = some (execution, resolved) →
      s.ImportsNamed digests resolved.artifactPath resolved.artifactDigest
  | .verifyStored artifactPath digest => s.ImportsNamed digests artifactPath digest
  | _ => True

end Pinning

section Bound

variable {Digest : Type} {digests : DigestFunctions Digest}

/-- The build that a contract was resolved to. -/
structure ResolvedContract.Names (digests : DigestFunctions Digest)
    (resolved : ResolvedContract Digest) (generation : Generation) : Prop where
  digest : digests.digestOf generation = resolved.artifactDigest
  privateStateId : generation.privateStateId = resolved.privateStateId
  slotWidth : generation.slotWidth = slotWidthOf (some resolved.registration)

/-- What a job took is of the build it resolved, which its command records. -/
structure JobExecution.Bound (digests : DigestFunctions Digest)
    (execution : JobExecution Digest) : Prop where
  pinned : execution.command.artifactDigest.isSome
  unresolved : execution.resolved = none → execution.uses = []
  resolved : ∀ resolved recorded, execution.resolved = some resolved →
    execution.command.artifactDigest = some recorded →
    ∃ generation, resolved.Names digests generation ∧ generation.Recognised digests recorded ∧
      ∀ use ∈ execution.uses, use.TakenFrom digests generation

theorem JobExecution.Bound.keepsToPin {execution : JobExecution Digest}
    (bound : execution.Bound digests) : execution.KeepsToPin digests := by
  rcases Option.isSome_iff_exists.1 bound.pinned with ⟨recorded, isRecorded⟩
  cases isResolved : execution.resolved with
  | none => exact Or.inl (bound.unresolved isResolved)
  | some resolved =>
    rcases bound.resolved resolved recorded isResolved isRecorded with
      ⟨generation, _, recognised, taken⟩
    exact Or.inr ⟨recorded, generation, isRecorded, recognised, taken⟩

/-- A use that fits every build the job can have resolved. -/
theorem JobExecution.Bound.use {execution : JobExecution Digest} (bound : execution.Bound digests)
    {resolved : ResolvedContract Digest} (isResolved : execution.resolved = some resolved)
    {use : ArtifactUse}
    (fits : ∀ generation, resolved.Names digests generation → use.TakenFrom digests generation) :
    JobExecution.Bound digests { execution with uses := use :: execution.uses } := by
  refine ⟨bound.pinned, ?_, ?_⟩
  · intro unresolved
    rw [isResolved] at unresolved
    cases unresolved
  · intro other recorded same isRecorded
    rw [isResolved] at same
    cases same
    rcases bound.resolved resolved recorded isResolved isRecorded with
      ⟨generation, names, recognised, taken⟩
    refine ⟨generation, names, recognised, ?_⟩
    intro other listed
    rcases List.mem_cons.1 listed with new | earlier
    · rw [new]
      exact fits generation names
    · exact taken other earlier

/-- A job that starts has taken nothing. -/
theorem JobExecution.bound_of_pinned {command : PinnedCommand Digest}
    (pinned : command.artifactDigest.isSome) : JobExecution.Bound digests ⟨command, none, []⟩ :=
  ⟨pinned, fun _ => rfl, nofun⟩

end Bound

namespace Pinning

variable {Digest : Type} [DecidableEq Digest] {digests : DigestFunctions Digest}
variable {s : Pinning Digest}

structure Sound (digests : DigestFunctions Digest) (s : Pinning Digest) : Prop where
  contracts : s.contracts.Sound digests
  worker : s.worker.Sound digests
  decoder : ∀ artifactPath digest file, s.decoder (artifactPath, digest) = some file →
    ArtifactCaches.NamesModule digests digest file
  commands : ∀ jobId command, s.commands jobId = some command → command.artifactDigest.isSome
  executions : ∀ i execution, s.executions i = some execution → execution.Bound digests

omit [DecidableEq Digest] in
theorem sound_start (disk : Disk) : Sound digests (start disk) where
  contracts := ContractRegistry.sound_clearRegistry
  worker := by
    constructor
    · nofun
    · nofun
    · nofun
  decoder := nofun
  commands := nofun
  executions := nofun

variable {i : Nat} {execution : JobExecution Digest}

omit [DecidableEq Digest] in
theorem running_eq_some {kinds : CommandKind → Bool} {resolved : ResolvedContract Digest}
    (isRunning : s.running kinds i = some (execution, resolved)) :
    s.executions i = some execution ∧ execution.resolved = some resolved := by
  unfold running at isRunning
  split at isRunning
  next other stored =>
    split at isRunning
    · rcases Option.map_eq_some_iff.1 isRunning with ⟨answer, isResolved, same⟩
      cases same
      exact ⟨stored, isResolved⟩
    · cases isRunning
  · cases isRunning

omit [DecidableEq Digest] in
theorem Sound.setExecution (sound : Sound digests s) (bound : execution.Bound digests) :
    Sound digests (s.setExecution i execution) := by
  refine ⟨sound.contracts, sound.worker, sound.decoder, sound.commands, ?_⟩
  intro other found stored
  simp only [Pinning.setExecution] at stored
  rcases mem_update stored with ⟨rfl, ⟨⟩⟩ | ⟨own, stored⟩
  · exact bound
  · exact sound.executions other found stored

omit [DecidableEq Digest] in
theorem Sound.withContracts (sound : Sound digests s) {contracts : ContractRegistry Digest}
    (after : contracts.Sound digests) : Sound digests { s with contracts := contracts } :=
  ⟨after, sound.worker, sound.decoder, sound.commands, sound.executions⟩

omit [DecidableEq Digest] in
theorem Sound.withWorker (sound : Sound digests s) {worker : ArtifactCaches Digest}
    (after : worker.Sound digests) : Sound digests { s with worker := worker } :=
  ⟨sound.contracts, after, sound.decoder, sound.commands, sound.executions⟩

omit [DecidableEq Digest] in
/-- A running job takes what fits the build it resolved. -/
theorem Sound.record (sound : Sound digests s) (bound : execution.Bound digests)
    {resolved : ResolvedContract Digest} (isResolved : execution.resolved = some resolved)
    {use : ArtifactUse}
    (fits : ∀ generation, resolved.Names digests generation → use.TakenFrom digests generation) :
    Sound digests (s.record i execution use) :=
  sound.setExecution (bound.use isResolved fits)

/-! ## Steps -/

section Sound

variable (sound : Sound digests s)

include sound

omit [DecidableEq Digest] in
theorem Sound.startJob (jobId : Nat) (command : PinnedCommand Digest) :
    Sound digests (s.startJob digests jobId command) := by
  have stores : ∀ pinned : PinnedCommand Digest, pinned.artifactDigest.isSome →
      ∀ other found, Function.update s.commands jobId (some pinned) other = some found →
        found.artifactDigest.isSome := by
    intro pinned isPinned other found stored
    rcases mem_update stored with ⟨rfl, ⟨⟩⟩ | ⟨own, stored⟩
    · exact isPinned
    · exact sound.commands other found stored
  unfold Pinning.startJob
  split
  · exact sound
  next given =>
    refine ⟨sound.contracts, sound.worker, sound.decoder, ?_, sound.executions⟩
    apply stores
    rw [given]
    rfl
  · have spec := ContractRegistry.getArtifactGenerationDigest_spec s.disk sound.contracts
      command.compiledArtifactRef
    split
    next contracts answered =>
      rw [answered] at spec
      exact sound.withContracts spec.1
    next digest contracts answered =>
      rw [answered] at spec
      exact ⟨spec.1, sound.worker, sound.decoder, stores _ rfl, sound.executions⟩

theorem Sound.execute (i jobId : Nat) :
    Sound digests (s.execute digests i jobId) := by
  unfold Pinning.execute
  split
  next command _ stored =>
    have pinned : JobExecution.Bound digests ⟨command, none, []⟩ :=
      JobExecution.bound_of_pinned (sound.commands jobId command stored)
    split
    · exact sound.setExecution pinned
    · have spec := ContractRegistry.assertArtifactGeneration_spec s.disk sound.contracts
        command.compiledArtifactRef command.artifactDigest
      split
      next contracts answered =>
        rw [answered] at spec
        exact sound.withContracts spec.1
      next contracts answered =>
        rw [answered] at spec
        exact (sound.withContracts spec.1).setExecution pinned
  · exact sound

theorem Sound.resolve {fresh : Bool} (unswapped : s.Unswapped digests (.resolve i fresh)) :
    Sound digests (s.resolve digests i fresh) := by
  unfold Pinning.resolve
  split
  next command uses stored =>
    have bound := sound.executions i _ stored
    rcases Option.isSome_iff_exists.1 bound.pinned with ⟨recorded, isRecorded⟩
    have spec := ContractRegistry.resolveContract_spec s.disk sound.contracts
      command.compiledArtifactRef fresh (unswapped _ recorded stored isRecorded)
    rw [isRecorded]
    apply (sound.withContracts spec.1).setExecution
    refine ⟨bound.pinned, ?_, ?_⟩
    · intro _
      exact bound.unresolved rfl
    · intro resolved other isResolved isOther
      rw [isRecorded] at isOther
      cases isOther
      rcases spec.2.2 resolved isResolved with
        ⟨generation, isDigest, isPrivateState, isWidth, recognised⟩
      refine ⟨generation, ⟨isDigest, isPrivateState, isWidth⟩, recognised, ?_⟩
      intro use listed
      have nothing : uses = [] := bound.unresolved rfl
      rw [nothing] at listed
      cases listed
  · exact sound

/-- The decode worker keeps modules of their digests, as long as it finds them so. -/
theorem Sound.keepImported {artifactPath : String} {digest : Digest}
    (named : s.ImportsNamed digests artifactPath digest) :
    Sound digests (s.keepImported artifactPath digest) ∧
      ∀ file, s.importArtifact artifactPath digest = some file →
        ArtifactCaches.NamesModule digests digest file := by
  have names : ∀ file, s.importArtifact artifactPath digest = some file →
      ArtifactCaches.NamesModule digests digest file := by
    intro file isImported
    unfold importArtifact at isImported
    cases kept : s.decoder (artifactPath, digest) with
    | none =>
      rw [kept] at isImported
      exact named kept file isImported
    | some found =>
      rw [kept] at isImported
      cases isImported
      exact sound.decoder artifactPath digest file kept
  refine ⟨⟨sound.contracts, sound.worker, ?_, sound.commands, sound.executions⟩, names⟩
  intro otherPath otherDigest file kept
  simp only [Pinning.keepImported] at kept
  by_cases own : (otherPath, otherDigest) = (artifactPath, digest)
  · rw [own, Function.update_self] at kept
    cases own
    exact names file kept
  · rw [Function.update_of_ne own] at kept
    exact sound.decoder otherPath otherDigest file kept

theorem Sound.coerceArgs
    (unswapped : s.Unswapped digests (.coerceArgs i)) : Sound digests (s.coerceArgs i) := by
  unfold Pinning.coerceArgs
  split
  next execution resolved isRunning =>
    rcases running_eq_some isRunning with ⟨stored, isResolved⟩
    apply sound.record (sound.executions i execution stored) isResolved
    intro generation names
    exact (unswapped execution resolved isRunning).trans names.slotWidth.symm
  · exact sound

theorem Sound.loadContract (i : Nat) :
    Sound digests (s.loadContract digests i) := by
  unfold Pinning.loadContract
  split
  next execution resolved isRunning =>
    rcases running_eq_some isRunning with ⟨stored, isResolved⟩
    have spec := ArtifactCaches.getContractScaffold_spec s.disk sound.worker
      execution.command.compiledArtifactRef resolved.registration resolved.artifactDigest
    split
    next worker answered =>
      rw [answered] at spec
      exact sound.withWorker spec.1
    next file worker answered =>
      rw [answered] at spec
      apply (sound.withWorker spec.1).record (sound.executions i execution stored) isResolved
      intro generation names
      exact ⟨(spec.2 file rfl generation names.digest).symm, names.privateStateId.symm,
        names.slotWidth.symm⟩
  · exact sound

omit [DecidableEq Digest] in
theorem Sound.prove (i : Nat) : Sound digests (s.prove i) := by
  unfold Pinning.prove
  split
  next execution resolved isRunning =>
    rcases running_eq_some isRunning with ⟨stored, isResolved⟩
    split
    next snapshot isSnapshot =>
      rcases sound.worker.snapshots resolved.artifactDigest snapshot isSnapshot with
        ⟨listed, _, covered⟩
      apply sound.record (sound.executions i execution stored) isResolved
      intro generation names
      exact ⟨(covered generation names.digest).symm, listed⟩
    · exact sound
  · exact sound

theorem Sound.reindex
    (unswapped : s.Unswapped digests (.reindex i)) : Sound digests (s.reindex i) := by
  unfold Pinning.reindex
  split
  next execution resolved isRunning =>
    rcases running_eq_some isRunning with ⟨stored, isResolved⟩
    rcases sound.keepImported (unswapped execution resolved isRunning) with ⟨kept, names⟩
    split
    next file isImported =>
      apply kept.record (sound.executions i execution stored) isResolved
      intro generation named
      exact (names file isImported generation named.digest).symm
    · exact sound
  · exact sound

theorem sound_step (event : PinningEvent Digest)
    (unswapped : s.Unswapped digests event) : Sound digests (s.step digests event) := by
  cases event with
  | registerContract name reg => exact sound.withContracts (sound.contracts.registerContract reg)
  | unregisterContract name => exact sound.withContracts (sound.contracts.point none)
  | changeFiles disk =>
    exact ⟨sound.contracts, sound.worker, sound.decoder, sound.commands, sound.executions⟩
  | showDigests name fresh =>
    have registered :=
      ContractRegistry.getArtifactGenerationDigest_spec s.disk sound.contracts name
    have current :=
      ContractRegistry.getCurrentArtifactDigest_spec s.disk registered.1 name fresh
    exact sound.withContracts current.1
  | startJob jobId command => exact sound.startJob jobId command
  | runChild i jobId command =>
    simp only [step, runChild]
    split
    · split
      · exact sound.startJob jobId _
      · exact sound
    · exact sound
  | execute i jobId => exact sound.execute i jobId
  | resolve i fresh => exact sound.resolve unswapped
  | coerceArgs i => exact sound.coerceArgs unswapped
  | loadContract i => exact sound.loadContract i
  | bindAssets i =>
    simp only [step, bindAssets]
    split
    next execution resolved _ =>
      have spec := ArtifactCaches.materializeArtifactSnapshot_spec s.disk sound.worker
        resolved.registration resolved.artifactDigest
      exact sound.withWorker spec.1
    · exact sound
  | prove i => exact sound.prove i
  | reindex i => exact sound.reindex unswapped
  | verifyStored artifactPath digest => exact (sound.keepImported unswapped).1
  | evictScaffold key => exact sound.withWorker (sound.worker.evictScaffold key)
  | removeSnapshot digest here => exact sound.withWorker (sound.worker.removeSnapshot digest _)
  | restartWorker => exact sound.withWorker sound.worker.restart
  | restartDecoder =>
    exact ⟨sound.contracts, sound.worker,
      (fun artifactPath digest file impossible => nomatch impossible), sound.commands,
      sound.executions⟩
  | restartServer =>
    exact ⟨ContractRegistry.sound_clearRegistry, sound.worker.restart,
      (fun artifactPath digest file impossible => nomatch impossible), sound.commands,
      fun i execution impossible => nomatch impossible⟩

end Sound

/-- In every sequence of registrations, file changes and jobs in which what is read outside the
snapshots is as it was when the contract was resolved, every job keeps to its digest. -/
theorem jobs_keep_to_pin (digests : DigestFunctions Digest) (disk : Disk)
    (events : List (PinningEvent Digest))
    (unswapped : Along (step digests) (Unswapped digests) (start disk) events) :
    (run (step digests) (start disk) events).JobsKeepToPin digests := by
  have keeps : ∀ state event, Sound digests state → Unswapped digests state event →
      Sound digests (step digests state event) :=
    fun state event sound unswapped => sound_step sound event unswapped
  have sound := run_invariant keeps (sound_start disk) events unswapped
  intro i execution stored
  exact (sound.executions i execution stored).keepsToPin

/-- A build is its own digest. -/
def plainDigests : DigestFunctions Generation where
  digestOf := id
  legacyDigestOf := fun _ => none
  proverKeysListed := fun _ => true
  collisionFree := Function.injective_id

/-- Files with this text in every module. -/
def diskOf (text : String) : Disk where
  texts := fun _ => some text
  effectiveModuleFormat := fun _ => .module
  assets := fun _ => ⟨"keys", "prover keys"⟩
  statFingerprint := fun _ => text.length

def vaultRegistration : ContractRegistration := ⟨"/vault/index.js", "vault", "/vault", none⟩

/-- A grant is stored, checked, resolved, proved and sent. -/
def grantLands : List (PinningEvent Generation) := [
  .registerContract "vault" vaultRegistration,
  .startJob 1 ⟨.disclosureChange, "vault", none⟩,
  .execute 1 1, .resolve 1 true, .bindAssets 1, .loadContract 1, .prove 1]

theorem jobs_keep_to_pin_grant :
    (run (step plainDigests) (start (diskOf "build 1"))
      (grantLands ++ [.reindex 1, .changeFiles (diskOf "build 2")])).JobsKeepToPin
        plainDigests := by
  apply jobs_keep_to_pin
  refine ⟨trivial, trivial, trivial, ?_, trivial, trivial, trivial, ?_, trivial, trivial⟩
  · intro execution recorded stored isRecorded accepts
    cases stored
    cases isRecorded
    cases accepts
  · intro execution resolved isRunning
    cases isRunning
    intro _ file isModule
    cases isModule
    intro generation named
    exact congrArg Generation.module named

/-- The module file changes while the grant is proved, and the reindex decodes the contract state
with the changed module. -/
theorem reindex_imports_changed_module :
    ¬ ∀ (digests : DigestFunctions Generation) (disk : Disk)
        (events : List (PinningEvent Generation)),
      (run (step digests) (start disk) events).JobsKeepToPin digests := by
  intro always
  have law := always plainDigests (diskOf "build 1")
    (grantLands ++ [.changeFiles (diskOf "build 2"), .reindex 1]) 1 _ rfl
  rcases law with nothing | ⟨recorded, generation, isRecorded, recognised, taken⟩
  · cases nothing
  · cases isRecorded
    have decoded : (⟨"build 2", .module⟩ : ModuleFile) = generation.module :=
      taken (.decoder ⟨"build 2", .module⟩) (List.mem_cons_self ..)
    rcases recognised with today | older
    · have pinned : generation.module = ⟨"build 1", .module⟩ := congrArg Generation.module today
      rw [pinned] at decoded
      have different : (⟨"build 2", .module⟩ : ModuleFile) ≠ ⟨"build 1", .module⟩ := by decide
      exact different decoded
    · cases older

end Pinning

end Nightgate.Submission
