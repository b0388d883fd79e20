import Mathlib.Logic.Function.Basic

/-!
# Generations of a contract

A contract name is registered with a module file, a folder of keys and two settings. One exact
build of them is a generation, named by a digest. The registry keeps two digests for a name: the
one computed first after the registration, which stored commands record, and the one of the files
as they are, which is reused as long as the file stats stay.
-/

namespace Nightgate.Submission

inductive ModuleFormat where
  | module
  | commonjs
  deriving DecidableEq

/-- A module as Node loads it. -/
structure ModuleFile where
  text : String
  format : ModuleFormat
  deriving DecidableEq

/-- A folder of keys. The digest covers the verifier keys, the circuits and the list of prover
keys, and the list covers the prover keys. -/
structure ZkAssets where
  covered : String
  proverKeys : String

structure ContractRegistration where
  artifactPath : String
  privateStateId : String
  zkConfigPath : String
  slotWidth : Option Nat

def isSlotWidth (width : Nat) : Bool := width = 16 || width = 32

def slotWidthOf (reg : Option ContractRegistration) : Nat :=
  (reg.bind ContractRegistration.slotWidth).getD 16

/-- One exact build: module, keys and settings. -/
structure Generation where
  module : ModuleFile
  assets : String
  privateStateId : String
  slotWidth : Nat
  deriving DecidableEq

/-- The registered files, whatever registration they belong to. -/
structure Disk where
  texts : String → Option String
  effectiveModuleFormat : String → ModuleFormat
  assets : String → ZkAssets
  statFingerprint : ContractRegistration → Nat

/-- The module file at a path. -/
def Disk.moduleAt (disk : Disk) (path : String) : Option ModuleFile :=
  (disk.texts path).map fun text => ⟨text, disk.effectiveModuleFormat path⟩

/-- What a registration describes as long as the files stay as they are. -/
def Disk.generation (disk : Disk) (reg : ContractRegistration) : Option Generation :=
  (disk.moduleAt reg.artifactPath).map fun file =>
    ⟨file, (disk.assets reg.zkConfigPath).covered, reg.privateStateId, slotWidthOf (some reg)⟩

/-- The digest functions, which the contracts repository shares. -/
structure DigestFunctions (Digest : Type) where
  digestOf : Generation → Digest
  /-- The digest that older releases computed, for the builds that had another one. -/
  legacyDigestOf : Generation → Option Digest
  /-- `proverKeyManifestProblems` finds none. -/
  proverKeysListed : ZkAssets → Bool
  collisionFree : Function.Injective digestOf

inductive GenerationMatch where
  | current
  | legacy
  deriving DecidableEq

section Digests

variable {Digest : Type} (digests : DigestFunctions Digest)

/-- Throws when the module cannot be read. -/
def computeArtifactGenerationDigest (disk : Disk) (reg : ContractRegistration) : Option Digest :=
  (disk.generation reg).map digests.digestOf

def artifactGenerationMatch [DecidableEq Digest] (disk : Disk) (reg : ContractRegistration)
    (recorded : Digest) : Option GenerationMatch :=
  match disk.generation reg with
  | none => none
  | some generation =>
    if digests.digestOf generation = recorded then some .current
    else if digests.legacyDigestOf generation = some recorded then some .legacy
    else none

/-- The recorded digest names the build, in today's form or in the older one. -/
def Generation.Recognised (generation : Generation) (recorded : Digest) : Prop :=
  digests.digestOf generation = recorded ∨ digests.legacyDigestOf generation = some recorded

theorem recognised_of_legacy [DecidableEq Digest] {disk : Disk} {reg : ContractRegistration}
    {recorded : Digest} {generation : Generation}
    (described : disk.generation reg = some generation)
    (legacy : artifactGenerationMatch digests disk reg recorded = some .legacy) :
    generation.Recognised digests recorded := by
  unfold artifactGenerationMatch at legacy
  rw [described] at legacy
  dsimp only at legacy
  split at legacy
  · cases legacy
  · split at legacy
    next older => exact Or.inr older
    · cases legacy

end Digests

/-! ## The registry -/

structure CachedDigest (Digest : Type) where
  fingerprint : Nat
  digest : Digest

structure ContractRegistry (Digest : Type) where
  registry : String → Option ContractRegistration
  generationDigests : String → Option Digest
  currentDigestCache : String → Option (CachedDigest Digest)

structure ResolvedContract (Digest : Type) where
  privateStateId : String
  zkConfigPath : String
  slotWidth : Option Nat
  artifactPath : String
  artifactDigest : Digest

/-- The registration that the worker is sent. -/
def ResolvedContract.registration {Digest : Type} (resolved : ResolvedContract Digest) :
    ContractRegistration :=
  ⟨resolved.artifactPath, resolved.privateStateId, resolved.zkConfigPath, resolved.slotWidth⟩

namespace ContractRegistry

variable {Digest : Type} (digests : DigestFunctions Digest) (disk : Disk)

def clearRegistry : ContractRegistry Digest where
  registry := fun _ => none
  generationDigests := fun _ => none
  currentDigestCache := fun _ => none

/-- Sets what a name points to, and forgets its digests. -/
def point (s : ContractRegistry Digest) (name : String) (reg : Option ContractRegistration) :
    ContractRegistry Digest where
  registry := Function.update s.registry name reg
  generationDigests := Function.update s.generationDigests name none
  currentDigestCache := Function.update s.currentDigestCache name none

/-- An incomplete registration is refused. -/
def registerContract (s : ContractRegistry Digest) (name : String) (reg : ContractRegistration) :
    ContractRegistry Digest :=
  if name = "" ∨ reg.artifactPath = "" ∨ reg.privateStateId = "" ∨ reg.zkConfigPath = "" then s
  else if reg.slotWidth.any fun width => !isSlotWidth width then s
  else s.point name (some reg)

def unregisterContract (s : ContractRegistry Digest) (name : String) : ContractRegistry Digest :=
  s.point name none

/-- The digest of a name, computed once for a registration. -/
def getArtifactGenerationDigest (s : ContractRegistry Digest) (name : String) :
    Option Digest × ContractRegistry Digest :=
  match s.generationDigests name with
  | some digest => (some digest, s)
  | none =>
    match s.registry name with
    | none => (none, s)
    | some reg =>
      match computeArtifactGenerationDigest digests disk reg with
      | none => (none, s)
      | some digest =>
        (some digest,
          { s with
            generationDigests := Function.update s.generationDigests name (some digest) })

/-- The digest of the files as they are, reused while it is `fresh` and the file stats stay. -/
def getCurrentArtifactDigest (s : ContractRegistry Digest) (name : String) (fresh : Bool) :
    Option Digest × ContractRegistry Digest :=
  match s.registry name with
  | none => (none, s)
  | some reg =>
    match (s.currentDigestCache name).filter
        fun cached => fresh && cached.fingerprint = disk.statFingerprint reg with
    | some cached => (some cached.digest, s)
    | none =>
      match computeArtifactGenerationDigest digests disk reg with
      | none => (none, s)
      | some digest =>
        (some digest,
          { s with
            currentDigestCache := Function.update s.currentDigestCache name
              (some ⟨disk.statFingerprint reg, digest⟩) })

/-- An older digest format can still describe the same build. -/
def acceptsLegacyDigest [DecidableEq Digest] (s : ContractRegistry Digest) (name : String)
    (recorded : Digest) : Bool :=
  match s.registry name with
  | none => false
  | some reg => artifactGenerationMatch digests disk reg recorded = some .legacy

/-- Whether a stored command may run: it throws unless the command was created for the build the
name points to. -/
def assertArtifactGeneration [DecidableEq Digest] (s : ContractRegistry Digest) (name : String)
    (recorded : Option Digest) : Bool × ContractRegistry Digest :=
  match s.getArtifactGenerationDigest digests disk name with
  | (none, s) => (false, s)
  | (some current, s) =>
    match recorded with
    | none => (false, s)
    | some recorded =>
      (recorded = current || s.acceptsLegacyDigest digests disk name recorded, s)

/-- Resolves a name, if it matches the expected digest. -/
def resolveContract [DecidableEq Digest] (s : ContractRegistry Digest) (name : String)
    (expectedDigest : Option Digest) (fresh : Bool) :
    Option (ResolvedContract Digest) × ContractRegistry Digest :=
  match s.registry name with
  | none => (none, s)
  | some reg =>
    match expectedDigest with
    | some expected =>
      match s.getCurrentArtifactDigest digests disk name fresh with
      | (none, s) => (none, s)
      | (some current, s) =>
        if current ≠ expected ∧
            artifactGenerationMatch digests disk reg expected ≠ some .legacy then
          (none, s)
        else
          (some ⟨reg.privateStateId, reg.zkConfigPath, reg.slotWidth, reg.artifactPath, current⟩, s)
    | none =>
      match s.getArtifactGenerationDigest digests disk name with
      | (none, s) => (none, s)
      | (some digest, s) =>
        (some ⟨reg.privateStateId, reg.zkConfigPath, reg.slotWidth, reg.artifactPath, digest⟩, s)

variable {digests disk}
variable {s : ContractRegistry Digest} {name : String}

/-- The digest is of a build with the settings of the registration. -/
def Describes (digests : DigestFunctions Digest) (reg : ContractRegistration) (digest : Digest) :
    Prop :=
  ∃ generation : Generation, digests.digestOf generation = digest ∧
    generation.privateStateId = reg.privateStateId ∧
    generation.slotWidth = slotWidthOf (some reg)

/-- The settings of a kept digest are those the name is registered with. -/
structure Sound (digests : DigestFunctions Digest) (s : ContractRegistry Digest) : Prop where
  registered : ∀ name digest, s.generationDigests name = some digest →
    ∃ reg, s.registry name = some reg ∧ Describes digests reg digest
  current : ∀ name cached, s.currentDigestCache name = some cached →
    ∃ reg, s.registry name = some reg ∧ Describes digests reg cached.digest

theorem sound_clearRegistry : Sound digests clearRegistry := by
  constructor
  · nofun
  · nofun

theorem describes_of_compute {reg : ContractRegistration} {digest : Digest}
    (computed : computeArtifactGenerationDigest digests disk reg = some digest) :
    ∃ generation, disk.generation reg = some generation ∧ digests.digestOf generation = digest ∧
      generation.privateStateId = reg.privateStateId ∧
      generation.slotWidth = slotWidthOf (some reg) := by
  rcases Option.map_eq_some_iff.1 computed with ⟨generation, described, isDigest⟩
  refine ⟨generation, described, isDigest, ?_⟩
  rcases Option.map_eq_some_iff.1 described with ⟨file, _, rfl⟩
  exact ⟨rfl, rfl⟩

theorem Sound.point (sound : Sound digests s) (reg : Option ContractRegistration) :
    Sound digests (s.point name reg) := by
  constructor
  · intro other digest kept
    simp only [ContractRegistry.point] at kept ⊢
    by_cases own : other = name
    · rw [own, Function.update_self] at kept
      cases kept
    · rw [Function.update_of_ne own] at kept ⊢
      exact sound.registered other digest kept
  · intro other cached kept
    simp only [ContractRegistry.point] at kept ⊢
    by_cases own : other = name
    · rw [own, Function.update_self] at kept
      cases kept
    · rw [Function.update_of_ne own] at kept ⊢
      exact sound.current other cached kept

theorem Sound.registerContract (sound : Sound digests s) (reg : ContractRegistration) :
    Sound digests (s.registerContract name reg) := by
  unfold ContractRegistry.registerContract
  split
  · exact sound
  · split
    · exact sound
    · exact sound.point (some reg)

/-- The registered digest is of a build with the registered settings, and the registry keeps its
registrations. -/
theorem getArtifactGenerationDigest_spec (disk : Disk) (sound : Sound digests s) (name : String) :
    Sound digests (s.getArtifactGenerationDigest digests disk name).2 ∧
      (s.getArtifactGenerationDigest digests disk name).2.registry = s.registry ∧
      ∀ digest, (s.getArtifactGenerationDigest digests disk name).1 = some digest →
        ∃ reg, s.registry name = some reg ∧ Describes digests reg digest := by
  unfold getArtifactGenerationDigest
  split
  next digest kept =>
    refine ⟨sound, rfl, ?_⟩
    intro other same
    cases same
    exact sound.registered name digest kept
  · split
    · exact ⟨sound, rfl, nofun⟩
    next reg isRegistered =>
      split
      · exact ⟨sound, rfl, nofun⟩
      next digest computed =>
        rcases describes_of_compute computed with ⟨generation, _, described⟩
        have described : ∃ reg, s.registry name = some reg ∧ Describes digests reg digest :=
          ⟨reg, isRegistered, generation, described⟩
        refine ⟨⟨?_, sound.current⟩, rfl, ?_⟩
        · intro other digest' kept
          dsimp only at kept ⊢
          by_cases own : other = name
          · rw [own, Function.update_self] at kept
            cases kept
            rw [own]
            exact described
          · rw [Function.update_of_ne own] at kept
            exact sound.registered other digest' kept
        · intro digest' same
          cases same
          exact described

theorem getCurrentArtifactDigest_spec (disk : Disk) (sound : Sound digests s) (name : String)
    (fresh : Bool) :
    Sound digests (s.getCurrentArtifactDigest digests disk name fresh).2 ∧
      (s.getCurrentArtifactDigest digests disk name fresh).2.registry = s.registry ∧
      ∀ digest, (s.getCurrentArtifactDigest digests disk name fresh).1 = some digest →
        ∃ reg, s.registry name = some reg ∧ Describes digests reg digest := by
  unfold getCurrentArtifactDigest
  split
  · exact ⟨sound, rfl, nofun⟩
  next reg isRegistered =>
    split
    next cached kept =>
      refine ⟨sound, rfl, ?_⟩
      intro digest same
      cases same
      exact sound.current name cached (Option.filter_eq_some_iff.1 kept).1
    · split
      · exact ⟨sound, rfl, nofun⟩
      next digest computed =>
        rcases describes_of_compute computed with ⟨generation, _, described⟩
        have described : ∃ reg, s.registry name = some reg ∧ Describes digests reg digest :=
          ⟨reg, isRegistered, generation, described⟩
        refine ⟨⟨sound.registered, ?_⟩, rfl, ?_⟩
        · intro other cached kept
          dsimp only at kept ⊢
          by_cases own : other = name
          · rw [own, Function.update_self] at kept
            cases kept
            rw [own]
            exact described
          · rw [Function.update_of_ne own] at kept
            exact sound.current other cached kept
        · intro digest' same
          cases same
          exact described

theorem assertArtifactGeneration_spec [DecidableEq Digest] (disk : Disk)
    (sound : Sound digests s) (name : String) (recorded : Option Digest) :
    Sound digests (s.assertArtifactGeneration digests disk name recorded).2 ∧
      (s.assertArtifactGeneration digests disk name recorded).2.registry = s.registry ∧
      ((s.assertArtifactGeneration digests disk name recorded).1 = true → recorded.isSome) := by
  have spec := getArtifactGenerationDigest_spec disk sound name
  unfold assertArtifactGeneration
  split
  next after answered =>
    rw [answered] at spec
    exact ⟨spec.1, spec.2.1, nofun⟩
  next current after answered =>
    rw [answered] at spec
    cases recorded with
    | none => exact ⟨spec.1, spec.2.1, nofun⟩
    | some recorded => exact ⟨spec.1, spec.2.1, fun _ => rfl⟩

/-- A digest kept for a name is that of the files as long as the file stats stay. -/
def StatsTell (digests : DigestFunctions Digest) (disk : Disk) (s : ContractRegistry Digest)
    (name : String) : Prop :=
  ∀ reg cached, s.registry name = some reg → s.currentDigestCache name = some cached →
    cached.fingerprint = disk.statFingerprint reg →
    computeArtifactGenerationDigest digests disk reg = some cached.digest

theorem getCurrentArtifactDigest_tells (tells : StatsTell digests disk s name) {fresh : Bool}
    {reg : ContractRegistration} (isRegistered : s.registry name = some reg) {digest : Digest}
    (answered : (s.getCurrentArtifactDigest digests disk name fresh).1 = some digest) :
    computeArtifactGenerationDigest digests disk reg = some digest := by
  unfold getCurrentArtifactDigest at answered
  rw [isRegistered] at answered
  dsimp only at answered
  split at answered
  next cached kept =>
    cases answered
    have stored := Option.filter_eq_some_iff.1 kept
    rw [Bool.and_eq_true, decide_eq_true_eq] at stored
    exact tells reg cached isRegistered stored.1 stored.2.2
  · split at answered
    · cases answered
    next computed =>
      cases answered
      exact computed

/-- The digest a name is resolved with is of a build with the resolved settings, which the
expected digest names. -/
theorem resolveContract_spec [DecidableEq Digest] (disk : Disk) (sound : Sound digests s)
    (name : String) {expected : Digest} (fresh : Bool)
    (tells : s.acceptsLegacyDigest digests disk name expected → StatsTell digests disk s name) :
    Sound digests (s.resolveContract digests disk name (some expected) fresh).2 ∧
      (s.resolveContract digests disk name (some expected) fresh).2.registry = s.registry ∧
      ∀ resolved, (s.resolveContract digests disk name (some expected) fresh).1 = some resolved →
          ∃ generation : Generation, digests.digestOf generation = resolved.artifactDigest ∧
            generation.privateStateId = resolved.privateStateId ∧
            generation.slotWidth = slotWidthOf (some resolved.registration) ∧
            generation.Recognised digests expected := by
  have spec := getCurrentArtifactDigest_spec disk sound name fresh
  unfold resolveContract
  split
  · exact ⟨sound, rfl, nofun⟩
  next reg isRegistered =>
    dsimp only
    split
    next after answered =>
      rw [answered] at spec
      exact ⟨spec.1, spec.2.1, nofun⟩
    next current after answered =>
      have isCurrent :
          (s.getCurrentArtifactDigest digests disk name fresh).1 = some current := by
        rw [answered]
      rw [answered] at spec
      split
      · exact ⟨spec.1, spec.2.1, nofun⟩
      next accepted =>
        refine ⟨spec.1, spec.2.1, ?_⟩
        intro resolved same
        cases same
        by_cases equal : current = expected
        · rcases spec.2.2 current rfl with ⟨other, isOther, generation, isDigest, settings⟩
          rw [isRegistered] at isOther
          cases isOther
          refine ⟨generation, isDigest, settings.1, settings.2, Or.inl ?_⟩
          rw [isDigest, equal]
        · have legacy : artifactGenerationMatch digests disk reg expected = some .legacy := by
            by_contra foreign
            exact accepted ⟨equal, foreign⟩
          have accepts : s.acceptsLegacyDigest digests disk name expected := by
            unfold acceptsLegacyDigest
            rw [isRegistered]
            exact decide_eq_true legacy
          have computed :=
            getCurrentArtifactDigest_tells (tells accepts) isRegistered isCurrent
          rcases describes_of_compute computed with
            ⟨generation, described, isDigest, settings⟩
          exact ⟨generation, isDigest, settings.1, settings.2,
            recognised_of_legacy digests described legacy⟩

end ContractRegistry

end Nightgate.Submission
