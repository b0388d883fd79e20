import Nightgate.Library.InsertionMap
import Nightgate.Library.Machine

/-!
# Saves of the wallet state

The worker serializes the parts of a wallet on a timer and sends the main thread those that differ
from what it last confirmed. A save stays pending until its confirmation arrives. When a part is
replaced by a fresh wallet its epoch is raised, and saves of the old one are ignored.
-/

namespace Nightgate.Midnight.StateSaves

open Library

inductive Part where
  | shielded
  | unshielded
  | dust
  deriving DecidableEq

variable {Blob : Type}

/-- Serialized parts. A serialized state is never the empty string. -/
abbrev SerializedBlobs (Blob : Type) := Part → Option Blob

/-- A save that is not confirmed yet. -/
structure PendingSave (Blob : Type) where
  blobs : SerializedBlobs Blob
  dustEpoch : Nat
  shieldedEpoch : Nat
  dustKey : Option String

structure FacadeEntry (Blob : Type) where
  /-- What the main thread last confirmed. -/
  lastSavedBlobs : SerializedBlobs Blob
  /-- By save number. -/
  pendingSaves : InsertionMap Nat (PendingSave Blob)
  /-- Epoch and key of the confirmed dust save. -/
  lastSavedDustKey : Option (Nat × String)
  dustEpoch : Nat
  shieldedEpoch : Nat

def FacadeEntry.fresh : FacadeEntry Blob where
  lastSavedBlobs _ := none
  pendingSaves := .empty
  lastSavedDustKey := none
  dustEpoch := 0
  shieldedEpoch := 0

/-- The epoch of a part; the unshielded part is never replaced. -/
def FacadeEntry.epochOf (entry : FacadeEntry Blob) : Part → Nat
  | .shielded => entry.shieldedEpoch
  | .unshielded => 0
  | .dust => entry.dustEpoch

def PendingSave.epochOf (pending : PendingSave Blob) : Part → Nat
  | .shielded => pending.shieldedEpoch
  | .unshielded => 0
  | .dust => pending.dustEpoch

def hasAnyBlob (blobs : SerializedBlobs Blob) : Bool :=
  (blobs .shielded).isSome || (blobs .unshielded).isSome || (blobs .dust).isSome

/-- The oldest save leaves when there are more than four. -/
def trimmed (saves : InsertionMap Nat (PendingSave Blob)) : InsertionMap Nat (PendingSave Blob) :=
  if saves.size > 4 then
    match (saves.entries.map Prod.fst).min? with
    | some oldest => saves.erase oldest
    | none => saves
  else saves

def pushStateSave (entry : FacadeEntry Blob) (seq : Nat) (blobs : SerializedBlobs Blob)
    (dustKey : Option String) : FacadeEntry Blob :=
  let pending : PendingSave Blob :=
    { blobs
      dustEpoch := entry.dustEpoch
      shieldedEpoch := entry.shieldedEpoch
      dustKey := if (blobs .dust).isSome then dustKey else none }
  { entry with pendingSaves := trimmed (entry.pendingSaves.set seq pending) }

/-- The parts of a save that still count: not those saved before their wallet was replaced. -/
def effective (entry : FacadeEntry Blob) (pending : PendingSave Blob) : SerializedBlobs Blob
  | .shielded =>
    if pending.shieldedEpoch ≠ entry.shieldedEpoch then none else pending.blobs .shielded
  | .unshielded => pending.blobs .unshielded
  | .dust => if pending.dustEpoch ≠ entry.dustEpoch then none else pending.blobs .dust

/-- Merges, because a save carries the changed parts only. -/
def applySaveAck (entry : FacadeEntry Blob) (seq : Nat) : FacadeEntry Blob :=
  match entry.pendingSaves.get? seq with
  | none => entry
  | some pending =>
    let counted := effective entry pending
    { entry with
      lastSavedDustKey :=
        if (counted .dust).isSome then pending.dustKey.map fun key => (pending.dustEpoch, key)
        else entry.lastSavedDustKey
      lastSavedBlobs := fun part => (counted part).or (entry.lastSavedBlobs part)
      pendingSaves := entry.pendingSaves.erase seq }

/-- The parts that differ from the last confirmed save. -/
def diffAgainstConfirmed [DecidableEq Blob] (entry : FacadeEntry Blob)
    (blobs : SerializedBlobs Blob) : SerializedBlobs Blob := fun part =>
  if blobs part = entry.lastSavedBlobs part then none else blobs part

/-! ## The worker -/

/-- A save that was sent, with the epochs of the wallets that it was serialized from. -/
structure Sent (Blob : Type) where
  seq : Nat
  blobs : SerializedBlobs Blob
  epochs : Part → Nat

/-- A save tick under way. -/
inductive Tick (Blob : Type) where
  | idle
  /-- The wallets are serialized; their epochs were read before. -/
  | collecting (epochs : Part → Nat)
  /-- The blobs are there and the epochs compared; the tick waits to log the positions. -/
  | waiting (epochs : Part → Nat) (blobs : SerializedBlobs Blob) (dustKey : Option String)

/-- One wallet of the worker, with what was sent for it and what reached it as confirmed. -/
structure Worker (Blob : Type) where
  saveSeqCounter : Nat
  entry : FacadeEntry Blob
  /-- The entry is in `facades`. -/
  registered : Bool
  tick : Tick Blob
  /-- Newest first. -/
  sent : List (Sent Blob)
  /-- Latest confirmation first. -/
  confirmed : List (Sent Blob)

inductive Event (Blob : Type) where
  /-- The timer fires and the lane is free. -/
  | saveTick
  | collected (blobs : SerializedBlobs Blob) (dustKey : Option String)
  /-- The tick compares with the confirmed save and sends. -/
  | push
  /-- A fresh wallet takes the place of the part. -/
  | replace (part : Part)
  /-- The replacement saves its own state. -/
  | resave (part : Part) (blob : Blob)
  /-- `state-save-ack` arrives. -/
  | ack (seq : Nat)
  | evict
  /-- The last save of an unloaded wallet. -/
  | finalSave (blobs : SerializedBlobs Blob) (dustKey : Option String)
  /-- Other wallets send saves. -/
  | elsewhere (count : Nat)

namespace Worker

def initial (saveSeqCounter : Nat) : Worker Blob where
  saveSeqCounter := saveSeqCounter
  entry := .fresh
  registered := true
  tick := .idle
  sent := []
  confirmed := []

/-- Sends a save under the next number. -/
def send (w : Worker Blob) (epochs : Part → Nat) (blobs : SerializedBlobs Blob)
    (dustKey : Option String) : Worker Blob :=
  let seq := w.saveSeqCounter + 1
  { w with
    saveSeqCounter := seq
    entry := pushStateSave w.entry seq blobs dustKey
    sent := ⟨seq, blobs, epochs⟩ :: w.sent }

/-- Sends the parts that differ from the confirmed save, if any does. -/
def sendChanged [DecidableEq Blob] (w : Worker Blob) (epochs : Part → Nat)
    (blobs : SerializedBlobs Blob) (dustKey : Option String) : Worker Blob :=
  let changed := diffAgainstConfirmed w.entry blobs
  if hasAnyBlob changed then w.send epochs changed dustKey else w

def raiseEpoch (entry : FacadeEntry Blob) : Part → FacadeEntry Blob
  | .shielded => { entry with shieldedEpoch := entry.shieldedEpoch + 1 }
  | .unshielded => entry
  | .dust => { entry with dustEpoch := entry.dustEpoch + 1 }

/-- The first confirmation of a save that was sent for this wallet. -/
def confirm (w : Worker Blob) (seq : Nat) : List (Sent Blob) :=
  if w.confirmed.any fun save => save.seq = seq then w.confirmed
  else (w.sent.find? fun save => save.seq = seq).toList ++ w.confirmed

def step [DecidableEq Blob] (w : Worker Blob) : Event Blob → Worker Blob
  | .saveTick =>
    match w.tick with
    | .idle => if w.registered then { w with tick := .collecting w.entry.epochOf } else w
    | _ => w
  | .collected blobs dustKey =>
    match w.tick with
    | .collecting epochs =>
      -- a part whose wallet was replaced meanwhile is dropped
      let kept : SerializedBlobs Blob := fun part =>
        if w.entry.epochOf part ≠ epochs part then none else blobs part
      if hasAnyBlob kept then { w with tick := .waiting epochs kept dustKey }
      else { w with tick := .idle }
    | _ => w
  | .push =>
    match w.tick with
    | .waiting epochs blobs dustKey => { w.sendChanged epochs blobs dustKey with tick := .idle }
    | _ => w
  | .replace part => { w with entry := raiseEpoch w.entry part }
  | .resave part blob =>
    w.send w.entry.epochOf (fun other => if other = part then some blob else none) none
  | .ack seq =>
    if w.registered then
      { w with entry := applySaveAck w.entry seq, confirmed := w.confirm seq }
    else w
  | .evict => { w with registered := false }
  | .finalSave blobs dustKey =>
    if w.registered then w else w.sendChanged w.entry.epochOf blobs dustKey
  | .elsewhere count => { w with saveSeqCounter := w.saveSeqCounter + count }

end Worker

variable {pending : PendingSave Blob}

theorem get?_of_trimmed {saves : InsertionMap Nat (PendingSave Blob)} {seq : Nat}
    (found : (trimmed saves).get? seq = some pending) :
    saves.get? seq = some pending := by
  rw [trimmed] at found
  split at found
  · split at found
    next oldest _ =>
      by_cases isOldest : seq = oldest
      · rw [isOldest, InsertionMap.get?_erase_self] at found
        cases found
      · rwa [InsertionMap.get?_erase_of_ne isOldest] at found
    · exact found
  · exact found

variable {entry : FacadeEntry Blob}

/-- A pending save is the new one or was pending before. -/
theorem pending_of_pushStateSave {seq other : Nat}
    {blobs : SerializedBlobs Blob} {dustKey : Option String}
    (found : (pushStateSave entry seq blobs dustKey).pendingSaves.get? other = some pending) :
    (other = seq ∧ pending.blobs = blobs ∧ pending.epochOf = entry.epochOf ∧
        pending.dustKey = if (blobs .dust).isSome then dustKey else none) ∨
      entry.pendingSaves.get? other = some pending := by
  have before := get?_of_trimmed found
  by_cases isNew : other = seq
  · subst isNew
    rw [InsertionMap.get?_set_self] at before
    left
    cases before
    refine ⟨rfl, rfl, ?_, rfl⟩
    funext part
    cases part <;> rfl
  · rw [InsertionMap.get?_set_of_ne isNew] at before
    exact .inr before

theorem effective_eq (entry : FacadeEntry Blob) (pending : PendingSave Blob) (part : Part) :
    effective entry pending part =
      if pending.epochOf part = entry.epochOf part then pending.blobs part else none := by
  cases part
  · rw [effective, PendingSave.epochOf, FacadeEntry.epochOf, ite_not]
  · rw [effective, PendingSave.epochOf, FacadeEntry.epochOf, if_pos rfl]
  · rw [effective, PendingSave.epochOf, FacadeEntry.epochOf, ite_not]

theorem applySaveAck_of_pending {seq : Nat}
    (found : entry.pendingSaves.get? seq = some pending) (part : Part) :
    (applySaveAck entry seq).lastSavedBlobs part =
      (effective entry pending part).or (entry.lastSavedBlobs part) := by
  rw [applySaveAck, found]

@[simp] theorem epochOf_applySaveAck (entry : FacadeEntry Blob) (seq : Nat) :
    (applySaveAck entry seq).epochOf = entry.epochOf := by
  rw [applySaveAck]
  split
  · rfl
  · funext part
    cases part <;> rfl

theorem pendingSaves_of_applySaveAck {seq other : Nat}
    (found : (applySaveAck entry seq).pendingSaves.get? other = some pending) :
    other ≠ seq ∧ entry.pendingSaves.get? other = some pending := by
  rw [applySaveAck] at found
  split at found
  next missing =>
    refine ⟨?_, found⟩
    rintro rfl
    rw [missing] at found
    cases found
  · by_cases isAcked : other = seq
    · subst isAcked
      rw [InsertionMap.get?_erase_self] at found
      cases found
    · rw [InsertionMap.get?_erase_of_ne isAcked] at found
      exact ⟨isAcked, found⟩

/-- A confirmation marks the blobs of its own save, and those of the current epochs only. -/
theorem marked_of_applySaveAck {seq : Nat} {part : Part} {blob : Blob}
    (marked : (applySaveAck entry seq).lastSavedBlobs part = some blob) :
    entry.lastSavedBlobs part = some blob ∨ ∃ pending, entry.pendingSaves.get? seq = some pending ∧
      pending.blobs part = some blob ∧ pending.epochOf part = entry.epochOf part := by
  cases found : entry.pendingSaves.get? seq with
  | none =>
    rw [applySaveAck, found] at marked
    exact .inl marked
  | some pending =>
    rw [applySaveAck_of_pending found, effective_eq] at marked
    split at marked
    next current =>
      cases carried : pending.blobs part with
      | none =>
        rw [carried] at marked
        exact .inl marked
      | some other =>
        rw [carried] at marked
        cases marked
        exact .inr ⟨pending, rfl, carried, current⟩
    · exact .inl marked

end Nightgate.Midnight.StateSaves
