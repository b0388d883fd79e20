import Nightgate.Library.Machine
import Mathlib.Data.Fintype.Defs
import Nightgate.Library.Pointwise

/-!
# Saved wallet snapshots

A row keeps the snapshots of the three parts of a wallet, each saved when it changed, under one
label: the SDK version, the network and the fingerprint of the seed. A save that brings some
parts keeps the others and writes its own label. The label comes from the registry of the main
thread, the parts from the worker. So the snapshots belong to the wallet of the label as long
as a changed label keeps no part, and the registry speaks of the wallet that was saved.
-/

namespace Nightgate.Submission

open Library

inductive StatePart where
  | shielded
  | unshielded
  | dust
  deriving DecidableEq

def StatePart.all : List StatePart := [.shielded, .unshielded, .dust]

theorem StatePart.mem_all (part : StatePart) : part ∈ StatePart.all := by
  cases part <;> decide

inductive NetworkId where
  | preprod
  | testnet
  | mainnet
  | undeployed
  | devnet
  | qanet
  | preview
  deriving DecidableEq

/-- `seedFingerprintOf`: the keyed hash of a seed. -/
structure SeedFingerprint where
  digest : Nat
  deriving DecidableEq

/-- What a wallet is told apart by. -/
structure WalletLabel where
  sdkVersion : String
  networkId : NetworkId
  seedFingerprint : SeedFingerprint

/-- A serialized part, with the wallet that produced it. -/
structure Snapshot where
  producer : WalletLabel
  serial : Nat

/-- `midnight.WalletSyncStates`. -/
structure WalletSyncState where
  blobs : StatePart → Option Snapshot
  sdkVersion : String
  networkId : Option NetworkId
  seedFingerprint : Option SeedFingerprint

structure SaveSyncStateArgs where
  sdkVersion : String
  states : StatePart → Option Snapshot
  networkId : Option NetworkId
  seedFingerprint : Option SeedFingerprint

structure LoadSyncStateArgs where
  expectedSdkVersion : String
  expectedNetworkId : Option NetworkId
  expectedSeedFingerprint : Option SeedFingerprint

/-- What the keys at hand open: the account's data key, and the stored parts. -/
structure SyncKeys where
  dek : Bool
  readable : StatePart → Bool

/-- `saveSyncState`: the row after the save, unless it throws. A part without a new snapshot is
carried over if it can be read. -/
def saveSyncState (row : Option WalletSyncState) (args : SaveSyncStateArgs) (keys : SyncKeys) :
    Option WalletSyncState :=
  if args.sdkVersion = "" ∨ keys.dek = false then none
  else
    match row with
    | some existing =>
      some {
        blobs := fun part => (args.states part).or
          (if keys.readable part then existing.blobs part else none)
        sdkVersion := args.sdkVersion
        networkId := args.networkId.or existing.networkId
        seedFingerprint := args.seedFingerprint.or existing.seedFingerprint }
    | none =>
      some {
        blobs := args.states
        sdkVersion := args.sdkVersion
        networkId := args.networkId
        seedFingerprint := args.seedFingerprint }

/-- The stored value is another than the expected one. -/
def mismatches {Value : Type} [DecidableEq Value] (expected stored : Option Value) : Bool :=
  match expected, stored with
  | some expected, some stored => stored ≠ expected
  | _, _ => false

def loadSyncState (row : Option WalletSyncState) (args : LoadSyncStateArgs) (keys : SyncKeys) :
    Option (StatePart → Option Snapshot) :=
  match row with
  | none => none
  | some row =>
    if row.sdkVersion ≠ args.expectedSdkVersion then none
    else if mismatches args.expectedNetworkId row.networkId then none
    else if mismatches args.expectedSeedFingerprint row.seedFingerprint then none
    else if keys.dek = false then none
    else if StatePart.all.any fun part => (row.blobs part).isSome && !keys.readable part then none
    else some row.blobs

/-- The wallet is one that a load expects. -/
def WalletLabel.matchesArgs (label : WalletLabel) (args : LoadSyncStateArgs) : Bool :=
  label.sdkVersion = args.expectedSdkVersion &&
    !mismatches args.expectedNetworkId (some label.networkId) &&
    !mismatches args.expectedSeedFingerprint (some label.seedFingerprint)

/-! ## The history -/

/-- `SessionRecord`. -/
structure SessionRecord where
  networkId : NetworkId
  seedFingerprint : SeedFingerprint

/-- A save the worker sent. -/
structure SentSave where
  accountId : Nat
  sdkVersion : String
  blobs : StatePart → Option Snapshot

/-- A build that holds the lock of its account. -/
structure WalletBuild where
  label : WalletLabel
  /-- `syncStatePassphrase` is given. -/
  persists : Bool
  initialised : Bool

structure SnapshotStore where
  rows : Nat → Option WalletSyncState
  /-- The wallets in the worker. -/
  facades : Nat → Option WalletLabel
  builds : Nat → Option WalletBuild
  sessionRegistry : Nat → Option SessionRecord
  sent : List SentSave
  /-- The save of an account that is being encrypted, or is in the write queue. -/
  accepted : Nat → Option SaveSyncStateArgs
  /-- The snapshots stored for a part, the last one first. -/
  stored : Nat → StatePart → List Snapshot
  nextSerial : Nat

def SnapshotStore.start : SnapshotStore where
  rows := fun _ => none
  facades := fun _ => none
  builds := fun _ => none
  sessionRegistry := fun _ => none
  sent := []
  accepted := fun _ => none
  stored := fun _ _ => []
  nextSerial := 0

inductive SnapshotEvent where
  | startBuild (accountId : Nat) (label : WalletLabel) (persists : Bool)
  /-- The worker builds the wallet, or the build joins the one it has. -/
  | init (accountId : Nat)
  | initFails (accountId : Nat)
  /-- The end of the build. -/
  | register (accountId : Nat)
  /-- The worker sends some parts of a wallet. -/
  | produce (accountId : Nat) (parts : List StatePart)
  /-- `handleStateSave`, for the first save that an account has sent. -/
  | handleStateSave (accountId : Nat)
  /-- The write; one that fails in every attempt stores nothing. -/
  | persist (accountId : Nat) (dek : Bool) (unreadable : List StatePart) (fails : Bool)
  | evict (accountId : Nat)
  /-- The end of `evictWalletFacade`. -/
  | forget (accountId : Nat)
  | crash
  | stop

namespace SnapshotStore

/-- `buildWalletFacadeLocked`, once the worker has answered. -/
def register (s : SnapshotStore) (accountId : Nat) : SnapshotStore :=
  match s.builds accountId with
  | some ⟨label, persists, true⟩ =>
    { s with
      builds := Function.update s.builds accountId none
      sessionRegistry :=
        if persists then
          Function.update s.sessionRegistry accountId
            (some ⟨label.networkId, label.seedFingerprint⟩)
        else s.sessionRegistry }
  | _ => s

def init (s : SnapshotStore) (accountId : Nat) : SnapshotStore :=
  match s.builds accountId with
  | some ⟨label, persists, false⟩ =>
    { s with
      builds := Function.update s.builds accountId (some ⟨label, persists, true⟩)
      facades :=
        if (s.facades accountId).isSome then s.facades
        else Function.update s.facades accountId (some label) }
  | _ => s

def produce (s : SnapshotStore) (accountId : Nat) (parts : List StatePart) : SnapshotStore :=
  match s.facades accountId with
  | some label =>
    { s with
      sent := s.sent ++ [⟨accountId, label.sdkVersion,
        fun part => if part ∈ parts then some ⟨label, s.nextSerial⟩ else none⟩]
      nextSerial := s.nextSerial + 1 }
  | none => s

/-- The first save that an account has sent. -/
def firstSent (s : SnapshotStore) (accountId : Nat) : Option SentSave :=
  s.sent.find? fun save => save.accountId = accountId

def handleStateSave (s : SnapshotStore) (accountId : Nat) : SnapshotStore :=
  match s.firstSent accountId, s.accepted accountId with
  | some save, none =>
    let s := { s with sent := s.sent.eraseP fun other => other.accountId = accountId }
    match s.sessionRegistry accountId with
    | none => s
    | some session =>
      { s with
        accepted := Function.update s.accepted accountId
          (some ⟨save.sdkVersion, save.blobs, some session.networkId,
            some session.seedFingerprint⟩) }
  | _, _ => s

def persist (s : SnapshotStore) (accountId : Nat) (keys : SyncKeys) (fails : Bool) :
    SnapshotStore :=
  match s.accepted accountId with
  | none => s
  | some args =>
    let done := { s with accepted := Function.update s.accepted accountId none }
    if fails then done
    else
      match saveSyncState (s.rows accountId) args keys with
      | none => done
      | some row =>
        { done with
          rows := Function.update s.rows accountId (some row)
          stored := Function.update s.stored accountId fun part =>
            (args.states part).toList ++ s.stored accountId part }

def step (s : SnapshotStore) : SnapshotEvent → SnapshotStore
  | .startBuild accountId label persists =>
    if (s.builds accountId).isSome then s
    else
      { s with builds := Function.update s.builds accountId (some ⟨label, persists, false⟩) }
  | .init accountId => s.init accountId
  | .initFails accountId => { s with builds := Function.update s.builds accountId none }
  | .register accountId => s.register accountId
  | .produce accountId parts => s.produce accountId parts
  | .handleStateSave accountId => s.handleStateSave accountId
  | .persist accountId dek unreadable fails =>
    s.persist accountId ⟨dek, fun part => part ∉ unreadable⟩ fails
  | .evict accountId => { s with facades := Function.update s.facades accountId none }
  | .forget accountId =>
    { s with sessionRegistry := Function.update s.sessionRegistry accountId none }
  | .crash => { s with facades := fun _ => none }
  | .stop => { s with facades := fun _ => none, sessionRegistry := fun _ => none }

/-- Whatever a load returns was produced by a wallet of the kind it expects, and is the last
snapshot stored for its part by such a wallet. -/
def SnapshotsBelong (s : SnapshotStore) : Prop :=
  ∀ accountId args keys loaded part snapshot,
    loadSyncState (s.rows accountId) args keys = some loaded → loaded part = some snapshot →
      snapshot.producer.matchesArgs args = true ∧
        (s.stored accountId part).find? (fun other => other.producer.matchesArgs args) =
          some snapshot

/-- A save is labelled as the wallet it came from, and one that changes the label of the row
brings every part the row has, but for those that cannot be read any more. -/
def LabelsAgree (s : SnapshotStore) : SnapshotEvent → Prop
  | .handleStateSave accountId =>
    ∀ save ∈ s.firstSent accountId, s.accepted accountId = none →
      ∀ session ∈ s.sessionRegistry accountId, ∀ part ∈ StatePart.all, ∀ snapshot ∈ save.blobs part,
          snapshot.producer.networkId = session.networkId ∧
            snapshot.producer.seedFingerprint = session.seedFingerprint
  | .persist accountId dek unreadable fails =>
    ∀ args ∈ s.accepted accountId, ∀ row ∈ s.rows accountId, dek = true → fails = false →
      ¬ (args.sdkVersion = row.sdkVersion ∧ args.networkId = row.networkId ∧
        args.seedFingerprint = row.seedFingerprint) →
          ∀ part ∈ StatePart.all, (row.blobs part).isSome = true →
            (args.states part).isSome = true ∨ part ∈ unreadable
  | _ => True

instance (s : SnapshotStore) (event : SnapshotEvent) : Decidable (LabelsAgree s event) := by
  cases event <;> unfold LabelsAgree <;> infer_instance

/-- The parts come from the wallet of the label. -/
structure LabelledBy (label : WalletLabel) (sdkVersion : String) (networkId : Option NetworkId)
    (seedFingerprint : Option SeedFingerprint) (blobs : StatePart → Option Snapshot) : Prop where
  sdkVersion : sdkVersion = label.sdkVersion
  networkId : networkId = some label.networkId
  seedFingerprint : seedFingerprint = some label.seedFingerprint
  producer : ∀ part snapshot, blobs part = some snapshot → snapshot.producer = label

structure Sound (s : SnapshotStore) : Prop where
  row : ∀ accountId row, s.rows accountId = some row →
    (∃ label, LabelledBy label row.sdkVersion row.networkId row.seedFingerprint row.blobs) ∧
      ∀ part snapshot, row.blobs part = some snapshot →
        (s.stored accountId part).head? = some snapshot
  accepted : ∀ accountId args, s.accepted accountId = some args →
    ∃ label, LabelledBy label args.sdkVersion args.networkId args.seedFingerprint args.states
  sent : ∀ save ∈ s.sent, ∀ part snapshot, save.blobs part = some snapshot →
    snapshot.producer.sdkVersion = save.sdkVersion

theorem Sound.snapshotsBelong {s : SnapshotStore} (sound : s.Sound) : s.SnapshotsBelong := by
  intro accountId args keys loaded part snapshot isLoaded isSnapshot
  unfold loadSyncState at isLoaded
  split at isLoaded
  · cases isLoaded
  next row isRow =>
    split at isLoaded
    · cases isLoaded
    next sdk =>
      split at isLoaded
      · cases isLoaded
      next network =>
        split at isLoaded
        · cases isLoaded
        next seed =>
          split at isLoaded
          · cases isLoaded
          · split at isLoaded
            · cases isLoaded
            · cases isLoaded
              rcases sound.row accountId row isRow with ⟨⟨label, labelled⟩, last⟩
              have matched : snapshot.producer.matchesArgs args = true := by
                rw [labelled.networkId] at network
                rw [labelled.seedFingerprint] at seed
                rw [Decidable.not_not] at sdk
                rw [labelled.producer part snapshot isSnapshot,
                  WalletLabel.matchesArgs, ← labelled.sdkVersion]
                simp [sdk, network, seed]
              refine ⟨matched, ?_⟩
              have isLast := last part snapshot isSnapshot
              cases history : s.stored accountId part with
              | nil =>
                rw [history] at isLast
                cases isLast
              | cons first rest =>
                rw [history] at isLast
                cases isLast
                exact List.find?_cons_of_pos matched

/-- A save under the label of the row, or one that replaces all it could keep. -/
theorem saved_sound {existing row : WalletSyncState} {args : SaveSyncStateArgs}
    {keys : SyncKeys} {stored : StatePart → List Snapshot}
    (saved : saveSyncState (some existing) args keys = some row)
    (labelled : ∃ label,
      LabelledBy label args.sdkVersion args.networkId args.seedFingerprint args.states)
    (before : ∃ label, LabelledBy label existing.sdkVersion existing.networkId
      existing.seedFingerprint existing.blobs)
    (last : ∀ part snapshot, existing.blobs part = some snapshot →
      (stored part).head? = some snapshot)
    (agrees : ¬ (args.sdkVersion = existing.sdkVersion ∧ args.networkId = existing.networkId ∧
      args.seedFingerprint = existing.seedFingerprint) → ∀ part,
        (existing.blobs part).isSome = true →
          (args.states part).isSome = true ∨ keys.readable part = false) :
    (∃ label, LabelledBy label row.sdkVersion row.networkId row.seedFingerprint row.blobs) ∧
      ∀ part snapshot, row.blobs part = some snapshot →
        ((args.states part).toList ++ stored part).head? = some snapshot := by
  rcases labelled with ⟨label, labelled⟩
  rcases before with ⟨old, before⟩
  unfold saveSyncState at saved
  split at saved
  · cases saved
  · cases saved
    constructor
    · refine ⟨label, labelled.sdkVersion, ?_, ?_, ?_⟩
      · rw [labelled.networkId]
        rfl
      · rw [labelled.seedFingerprint]
        rfl
      · intro part snapshot isBlob
        dsimp only at isBlob
        cases new : args.states part with
        | some fresh =>
          rw [new] at isBlob
          cases isBlob
          exact labelled.producer part _ new
        | none =>
          rw [new, Option.none_or] at isBlob
          split at isBlob
          next readable =>
            have same : args.sdkVersion = existing.sdkVersion ∧
                args.networkId = existing.networkId ∧
                args.seedFingerprint = existing.seedFingerprint := by
              by_contra changed
              rcases agrees changed part (by rw [isBlob]; rfl) with brought | unreadable
              · rw [new] at brought
                cases brought
              · rw [readable] at unreadable
                cases unreadable
            have sameLabel : old = label := by
              rw [labelled.sdkVersion, labelled.networkId, labelled.seedFingerprint,
                before.sdkVersion, before.networkId, before.seedFingerprint] at same
              cases old
              cases label
              simp_all
            rw [← sameLabel]
            exact before.producer part snapshot isBlob
          · cases isBlob
    · intro part snapshot isBlob
      dsimp only at isBlob
      cases new : args.states part with
      | some fresh =>
        rw [new] at isBlob
        cases isBlob
        rfl
      | none =>
        rw [new, Option.none_or] at isBlob
        split at isBlob
        · exact last part snapshot isBlob
        · cases isBlob

theorem first_save_sound {row : WalletSyncState} {args : SaveSyncStateArgs} {keys : SyncKeys}
    {stored : StatePart → List Snapshot} (saved : saveSyncState none args keys = some row)
    (labelled : ∃ label,
      LabelledBy label args.sdkVersion args.networkId args.seedFingerprint args.states) :
    (∃ label, LabelledBy label row.sdkVersion row.networkId row.seedFingerprint row.blobs) ∧
      ∀ part snapshot, row.blobs part = some snapshot →
        ((args.states part).toList ++ stored part).head? = some snapshot := by
  unfold saveSyncState at saved
  split at saved
  · cases saved
  · cases saved
    refine ⟨labelled, ?_⟩
    intro part snapshot isBlob
    dsimp only at isBlob
    rw [isBlob]
    rfl

/-! ## Steps -/

section Steps

variable {s : SnapshotStore}

theorem Sound.produce (sound : s.Sound) (accountId : Nat) (parts : List StatePart) :
    (s.produce accountId parts).Sound := by
  unfold SnapshotStore.produce
  split
  next label _ =>
    refine ⟨sound.row, sound.accepted, ?_⟩
    intro save listed part snapshot isBlob
    rcases List.mem_append.1 listed with before | new
    · exact sound.sent save before part snapshot isBlob
    · rw [List.mem_singleton] at new
      rw [new] at isBlob ⊢
      dsimp only at isBlob ⊢
      split at isBlob
      · cases isBlob
        rfl
      · cases isBlob
  · exact sound

theorem Sound.handleStateSave (sound : s.Sound) {accountId : Nat}
    (agree : LabelsAgree s (.handleStateSave accountId)) :
    (s.handleStateSave accountId).Sound := by
  have fewer : ∀ save ∈ s.sent.eraseP fun other => other.accountId = accountId,
      ∀ part snapshot, save.blobs part = some snapshot →
        snapshot.producer.sdkVersion = save.sdkVersion :=
    fun save listed => sound.sent save (List.mem_of_mem_eraseP listed)
  unfold SnapshotStore.handleStateSave
  split
  next save isFirst free =>
    dsimp only
    split
    · exact ⟨sound.row, sound.accepted, fewer⟩
    next session isSession =>
      refine ⟨sound.row, ?_, fewer⟩
      intro other args isArgs
      by_cases own : other = accountId
      · simp only [own, Function.update_self] at isArgs
        cases isArgs
        refine ⟨⟨save.sdkVersion, session.networkId, session.seedFingerprint⟩, rfl, rfl, rfl, ?_⟩
        intro part snapshot isBlob
        have sdk := sound.sent save (List.mem_of_find?_eq_some isFirst) part snapshot isBlob
        have rest := agree save isFirst free session isSession part part.mem_all snapshot isBlob
        cases producer : snapshot.producer with
        | mk sdkVersion networkId seedFingerprint =>
          rw [producer] at sdk rest
          simp_all
      · simp only [Function.update_of_ne own] at isArgs
        exact sound.accepted other args isArgs
  · exact sound

theorem Sound.persist (sound : s.Sound) {accountId : Nat} {dek fails : Bool}
    {unreadable : List StatePart}
    (agree : LabelsAgree s (.persist accountId dek unreadable fails)) :
    (s.persist accountId ⟨dek, fun part => part ∉ unreadable⟩ fails).Sound := by
  unfold SnapshotStore.persist
  split
  · exact sound
  next args isArgs =>
    have fewer : ∀ other args', Function.update s.accepted accountId none other = some args' →
        ∃ label, LabelledBy label args'.sdkVersion args'.networkId args'.seedFingerprint
          args'.states := by
      intro other args' isArgs'
      rcases mem_update isArgs' with ⟨_, ⟨⟩⟩ | ⟨own, isArgs'⟩
      exact sound.accepted other args' isArgs'
    have labelled := sound.accepted accountId args isArgs
    split
    · exact ⟨sound.row, fewer, sound.sent⟩
    next succeeds =>
      split
      · exact ⟨sound.row, fewer, sound.sent⟩
      next row saved =>
        refine ⟨?_, fewer, sound.sent⟩
        intro other otherRow isRow
        dsimp only at isRow ⊢
        by_cases own : other = accountId
        · rw [own, Function.update_self] at isRow
          cases isRow
          rw [own, Function.update_self]
          cases stored : s.rows accountId with
          | none =>
            rw [stored] at saved
            exact first_save_sound saved labelled
          | some existing =>
            rw [stored] at saved
            have opened : dek = true := by
              by_contra locked
              rw [Bool.not_eq_true] at locked
              simp [saveSyncState, locked] at saved
            have old := sound.row accountId existing stored
            apply saved_sound saved labelled old.1 old.2
            intro changed part kept
            rcases agree args isArgs existing stored opened
              (Bool.eq_false_iff.2 succeeds) changed part part.mem_all kept with
              brought | lost
            · exact Or.inl brought
            · right
              simp [lost]
        · rw [Function.update_of_ne own] at isRow ⊢
          exact sound.row other otherRow isRow

theorem sound_step (sound : s.Sound) (event : SnapshotEvent) (agree : LabelsAgree s event) :
    (s.step event).Sound := by
  cases event with
  | startBuild accountId label persists =>
    simp only [step]
    split
    · exact sound
    · exact ⟨sound.row, sound.accepted, sound.sent⟩
  | init accountId =>
    simp only [step, init]
    split
    · exact ⟨sound.row, sound.accepted, sound.sent⟩
    · exact sound
  | initFails | evict | forget | crash | stop => exact ⟨sound.row, sound.accepted, sound.sent⟩
  | register accountId =>
    simp only [step, register]
    split
    · exact ⟨sound.row, sound.accepted, sound.sent⟩
    · exact sound
  | produce accountId parts => exact sound.produce accountId parts
  | handleStateSave accountId => exact sound.handleStateSave agree
  | persist accountId dek unreadable fails => exact sound.persist agree

theorem sound_start : SnapshotStore.start.Sound := by
  constructor
  · nofun
  · nofun
  · nofun

end Steps

/-- In every sequence of builds, saves, evictions and crashes whose saves are labelled as the
wallets they came from and change a label only with all its parts, the saved snapshots belong
to the wallet a load expects. -/
theorem snapshots_belong_to_their_wallet (events : List SnapshotEvent)
    (agree : Along step LabelsAgree SnapshotStore.start events) :
    (run step SnapshotStore.start events).SnapshotsBelong := by
  have sound : (run step SnapshotStore.start events).Sound := by
    apply run_invariant _ sound_start events agree
    intro state event sound agree
    exact sound_step sound event agree
  exact sound.snapshotsBelong

/-- A wallet is built, saves some parts, and the save is stored. -/
def savedBy (label : WalletLabel) (parts : List StatePart) : List SnapshotEvent := [
  .startBuild 1 label true, .init 1, .register 1, .produce 1 parts, .handleStateSave 1,
  .persist 1 true [] false]

theorem snapshots_belong_to_their_wallet_upgraded :
    (run step SnapshotStore.start
      (savedBy ⟨"1.0", .preprod, ⟨7⟩⟩ [.shielded, .unshielded, .dust] ++ [.crash] ++
        savedBy ⟨"2.0", .preprod, ⟨7⟩⟩ [.shielded, .unshielded, .dust])).SnapshotsBelong :=
  snapshots_belong_to_their_wallet _ (by decide)

/-- The first save of an upgraded wallet brings one part: the others are loaded as its own. -/
theorem partial_save_relabels_old_parts :
    ¬ ∀ events : List SnapshotEvent, (run step SnapshotStore.start events).SnapshotsBelong := by
  intro always
  have law := always (savedBy ⟨"1.0", .preprod, ⟨7⟩⟩ [.shielded, .unshielded, .dust] ++ [.crash] ++
      savedBy ⟨"2.0", .preprod, ⟨7⟩⟩ [.shielded, .unshielded])
  have belongs := (law 1 ⟨"2.0", some .preprod, some ⟨7⟩⟩ ⟨true, fun _ => true⟩ _ .dust
    ⟨⟨"1.0", .preprod, ⟨7⟩⟩, 0⟩ rfl rfl).1
  cases belongs

end SnapshotStore

end Nightgate.Submission
