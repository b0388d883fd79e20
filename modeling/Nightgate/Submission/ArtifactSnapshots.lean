import Nightgate.Submission.ArtifactGenerations

/-!
# Snapshots of a generation

The wallet worker copies the registered files of a contract to a folder named after the digest it
was sent. A copy with another digest is refused, so what the worker imports and proves with
belongs to the digest, whatever happens to the registered files.
-/

namespace Nightgate.Submission

/-- A copy of the module and the keys, never written again. -/
structure ArtifactSnapshot where
  file : ModuleFile
  assets : ZkAssets

/-- `snapshotRegistration`: the copy under the settings of a registration. -/
def ArtifactSnapshot.generation (snapshot : ArtifactSnapshot) (reg : ContractRegistration) :
    Generation :=
  ⟨snapshot.file, snapshot.assets.covered, reg.privateStateId, slotWidthOf (some reg)⟩

/-- The copy of the registered files as they are. -/
def Disk.copyArtifact (disk : Disk) (reg : ContractRegistration) : Option ArtifactSnapshot :=
  (disk.moduleAt reg.artifactPath).map fun file => ⟨file, disk.assets reg.zkConfigPath⟩

structure ArtifactCaches (Digest : Type) where
  /-- The snapshot folders. -/
  snapshots : Digest → Option ArtifactSnapshot
  verifiedSnapshots : Digest → Bool
  /-- Keyed by name, path and digest. -/
  contractScaffolds : String × String × Digest → Option ModuleFile
  /-- What Node has imported from a snapshot. -/
  importedModules : Digest → Option ModuleFile

namespace ArtifactCaches

variable {Digest : Type} [DecidableEq Digest] (digests : DigestFunctions Digest) (disk : Disk)

/-- A thread that has started: only the folders are there. -/
def restart (caches : ArtifactCaches Digest) : ArtifactCaches Digest where
  snapshots := caches.snapshots
  verifiedSnapshots := fun _ => false
  contractScaffolds := fun _ => none
  importedModules := fun _ => none

/-- An existing folder is used once its digest has been checked. -/
def usable (caches : ArtifactCaches Digest) (reg : ContractRegistration) (digest : Digest)
    (snapshot : ArtifactSnapshot) : Bool :=
  snapshot.file.format = disk.effectiveModuleFormat reg.artifactPath &&
    (caches.verifiedSnapshots digest || digests.digestOf (snapshot.generation reg) = digest)

/-- The snapshot of a digest, copied from the registered files if there is none to use. A copy
of another generation is refused. -/
def materializeArtifactSnapshot (caches : ArtifactCaches Digest) (reg : ContractRegistration)
    (digest : Digest) : Option ArtifactSnapshot × ArtifactCaches Digest :=
  match (caches.snapshots digest).filter (caches.usable digests disk reg digest) with
  | some snapshot =>
    (some snapshot,
      { caches with
        verifiedSnapshots := Function.update caches.verifiedSnapshots digest true })
  | none =>
    match (disk.copyArtifact reg).filter fun built =>
        digests.proverKeysListed built.assets &&
          digests.digestOf (built.generation reg) = digest with
    | some built =>
      (some built,
        { caches with
          snapshots := Function.update caches.snapshots digest (some built)
          verifiedSnapshots := Function.update caches.verifiedSnapshots digest true })
    | none =>
      (none, { caches with snapshots := Function.update caches.snapshots digest none })

/-- The module of a contract. -/
def getContractScaffold (caches : ArtifactCaches Digest) (name : String)
    (reg : ContractRegistration) (digest : Digest) :
    Option ModuleFile × ArtifactCaches Digest :=
  match caches.contractScaffolds (name, reg.artifactPath, digest) with
  | some file => (some file, caches)
  | none =>
    match caches.materializeArtifactSnapshot digests disk reg digest with
    | (none, caches) => (none, caches)
    | (some snapshot, caches) =>
      let file := (caches.importedModules digest).getD snapshot.file
      (some file,
        { caches with
          importedModules := Function.update caches.importedModules digest (some file)
          contractScaffolds := Function.update caches.contractScaffolds
            (name, reg.artifactPath, digest) (some file) })

/-- Every build of the digest has this module. -/
def NamesModule (digests : DigestFunctions Digest) (digest : Digest) (file : ModuleFile) : Prop :=
  ∀ generation, digests.digestOf generation = digest → generation.module = file

/-- What the worker keeps for a digest is of the build that the digest names. -/
structure Sound (digests : DigestFunctions Digest) (caches : ArtifactCaches Digest) : Prop where
  snapshots : ∀ digest snapshot, caches.snapshots digest = some snapshot →
    digests.proverKeysListed snapshot.assets ∧ NamesModule digests digest snapshot.file ∧
      ∀ generation, digests.digestOf generation = digest →
        generation.assets = snapshot.assets.covered
  scaffolds : ∀ key file, caches.contractScaffolds key = some file →
    NamesModule digests key.2.2 file
  imported : ∀ digest file, caches.importedModules digest = some file →
    NamesModule digests digest file

section Laws

variable {digests disk}
variable {caches : ArtifactCaches Digest}

omit [DecidableEq Digest] in
theorem Sound.restart (sound : Sound digests caches) : Sound digests caches.restart := by
  refine ⟨sound.snapshots, ?_, ?_⟩
  · nofun
  · nofun

theorem Sound.removeSnapshot (sound : Sound digests caches) (digest : Digest)
    (verified : Digest → Bool) :
    Sound digests
      { caches with
        snapshots := Function.update caches.snapshots digest none
        verifiedSnapshots := verified } := by
  refine ⟨?_, sound.scaffolds, sound.imported⟩
  intro other snapshot kept
  dsimp only at kept
  by_cases own : other = digest
  · rw [own, Function.update_self] at kept
    cases kept
  · rw [Function.update_of_ne own] at kept
    exact sound.snapshots other snapshot kept

theorem Sound.evictScaffold (sound : Sound digests caches) (key : String × String × Digest) :
    Sound digests
      { caches with
        contractScaffolds := Function.update caches.contractScaffolds key none } := by
  refine ⟨sound.snapshots, ?_, sound.imported⟩
  intro other file kept
  dsimp only at kept
  by_cases own : other = key
  · rw [own, Function.update_self] at kept
    cases kept
  · rw [Function.update_of_ne own] at kept
    exact sound.scaffolds other file kept

theorem materializeArtifactSnapshot_spec (disk : Disk) (sound : Sound digests caches)
    (reg : ContractRegistration) (digest : Digest) :
    Sound digests (caches.materializeArtifactSnapshot digests disk reg digest).2 ∧ ∀ snapshot,
        (caches.materializeArtifactSnapshot digests disk reg digest).1 = some snapshot →
          NamesModule digests digest snapshot.file := by
  unfold materializeArtifactSnapshot
  split
  next snapshot kept =>
    refine ⟨⟨sound.snapshots, sound.scaffolds, sound.imported⟩, ?_⟩
    intro other same
    cases same
    exact (sound.snapshots digest snapshot (Option.filter_eq_some_iff.1 kept).1).2.1
  · split
    next built kept =>
      have checked := (Option.filter_eq_some_iff.1 kept).2
      rw [Bool.and_eq_true, decide_eq_true_eq] at checked
      rcases checked with ⟨listed, isDigest⟩
      have same : ∀ generation, digests.digestOf generation = digest →
          generation = built.generation reg := by
        intro generation named
        exact digests.collisionFree (named.trans isDigest.symm)
      have names : NamesModule digests digest built.file := by
        intro generation named
        rw [same generation named]
        rfl
      refine ⟨⟨?_, sound.scaffolds, sound.imported⟩, ?_⟩
      · intro other snapshot stored
        dsimp only at stored
        by_cases own : other = digest
        · rw [own, Function.update_self] at stored
          cases stored
          rw [own]
          refine ⟨listed, names, ?_⟩
          intro generation named
          rw [same generation named]
          rfl
        · rw [Function.update_of_ne own] at stored
          exact sound.snapshots other snapshot stored
      · intro snapshot isBuilt
        cases isBuilt
        exact names
    · exact ⟨sound.removeSnapshot digest caches.verifiedSnapshots,
        nofun⟩

theorem getContractScaffold_spec (disk : Disk) (sound : Sound digests caches) (name : String)
    (reg : ContractRegistration) (digest : Digest) :
    Sound digests (caches.getContractScaffold digests disk name reg digest).2 ∧
      ∀ file, (caches.getContractScaffold digests disk name reg digest).1 = some file →
        NamesModule digests digest file := by
  have spec := materializeArtifactSnapshot_spec disk sound reg digest
  unfold getContractScaffold
  split
  next file kept =>
    refine ⟨sound, ?_⟩
    intro other same
    cases same
    exact sound.scaffolds (name, reg.artifactPath, digest) file kept
  · split
    next after answered =>
      rw [answered] at spec
      exact ⟨spec.1, nofun⟩
    next snapshot after answered =>
      rw [answered] at spec
      have names : NamesModule digests digest
          ((after.importedModules digest).getD snapshot.file) := by
        cases isImported : after.importedModules digest with
        | none => exact spec.2 snapshot rfl
        | some file => exact spec.1.imported digest file isImported
      refine ⟨⟨spec.1.snapshots, ?_, ?_⟩, ?_⟩
      · intro key file kept
        dsimp only at kept
        by_cases own : key = (name, reg.artifactPath, digest)
        · rw [own, Function.update_self] at kept
          cases kept
          rw [own]
          exact names
        · rw [Function.update_of_ne own] at kept
          exact spec.1.scaffolds key file kept
      · intro other file kept
        dsimp only at kept
        by_cases own : other = digest
        · rw [own, Function.update_self] at kept
          cases kept
          rw [own]
          exact names
        · rw [Function.update_of_ne own] at kept
          exact spec.1.imported other file kept
      · intro file same
        cases same
        exact names

end Laws

end ArtifactCaches

end Nightgate.Submission
