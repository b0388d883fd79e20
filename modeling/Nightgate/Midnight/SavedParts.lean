import Nightgate.Midnight.StateSaves

/-!
# Which parts count as saved

A part is left out of a save when its blob is the one that is recorded as confirmed. The record
follows the confirmations, in whatever order they come, as long as none comes for a save that is no
longer pending and no wallet is replaced under a save that waits to be sent. It is not cleared when
a part is replaced.
-/

namespace Nightgate.Midnight.StateSaves

open Library

variable {Blob : Type}

namespace Worker

/-- What a save stored for the current wallet of a part. -/
def carried (w : Worker Blob) (part : Part) (save : Sent Blob) : Option Blob :=
  if save.epochs part = w.entry.epochOf part then save.blobs part else none

/-- The blob of a part that was last confirmed as stored for the current epoch. -/
def confirmedFor (w : Worker Blob) (part : Part) : Option Blob :=
  w.confirmed.findSome? (w.carried part)

/-- No later save of the current wallet of the part is confirmed. -/
def NewestConfirmed (w : Worker Blob) (part : Part) (blob : Blob) : Prop :=
  ∃ save ∈ w.confirmed, w.carried part save = some blob ∧
    ∀ other ∈ w.confirmed, (w.carried part other).isSome = true → other.seq ≤ save.seq

/-- The blobs that an event compares with the confirmed ones. -/
def compared (w : Worker Blob) : Event Blob → SerializedBlobs Blob
  | .push =>
    match w.tick with
    | .waiting _ blobs _ => blobs
    | _ => fun _ => none
  | .finalSave blobs _ => if w.registered then fun _ => none else blobs
  | _ => fun _ => none

/-- The event leaves the part out, its blob being saved already. -/
def TreatedAsSaved [DecidableEq Blob] (w : Worker Blob) (event : Event Blob) (part : Part)
    (blob : Blob) : Prop :=
  w.compared event part = some blob ∧ diffAgainstConfirmed w.entry (w.compared event) part = none

/-- A part is treated as saved only if its blob is the one last confirmed for its epoch. -/
def SavedLaw [DecidableEq Blob] (w : Worker Blob) (event : Event Blob) : Prop :=
  ∀ part blob, w.TreatedAsSaved event part blob → w.confirmedFor part = some blob

/-- The same with the newest of the confirmed saves. -/
def NewestLaw [DecidableEq Blob] (w : Worker Blob) (event : Event Blob) : Prop :=
  ∀ part blob, w.TreatedAsSaved event part blob → w.NewestConfirmed part blob

/-- Until a save of a fresh wallet is confirmed, its blobs are none that the replaced one saved. -/
def Changed (w : Worker Blob) (event : Event Blob) : Prop :=
  ∀ part, w.compared event part ≠ none → w.confirmedFor part = none →
    w.entry.lastSavedBlobs part ≠ w.compared event part

/-- What a tick is about to send of a part. -/
def waitingBlob (w : Worker Blob) (part : Part) : Option Blob :=
  match w.tick with
  | .waiting _ blobs _ => blobs part
  | _ => none

/-- No part is replaced while a tick waits to send it. -/
def Settled (w : Worker Blob) : Event Blob → Prop
  | .replace part => w.waitingBlob part = none
  | _ => True

/-- A save is confirmed while it is pending: at most three were sent after it. -/
def Timely (w : Worker Blob) : Event Blob → Prop
  | .ack seq => w.registered = true → (∃ save ∈ w.sent, save.seq = seq) →
      (∀ other ∈ w.confirmed, other.seq ≠ seq) → (w.entry.pendingSaves.get? seq).isSome = true
  | _ => True

def Careful (w : Worker Blob) (event : Event Blob) : Prop :=
  w.Changed event ∧ w.Settled event ∧ w.Timely event

/-- Confirmations come in the order of the saves. -/
def InOrder (w : Worker Blob) : Event Blob → Prop
  | .ack seq => ∀ save ∈ w.confirmed, save.seq ≤ seq
  | _ => True

section Decidability

variable [DecidableEq Blob]

instance (w : Worker Blob) (event : Event Blob) : Decidable (w.Changed event) :=
  decidable_of_iff ([Part.shielded, .unshielded, .dust].all fun part =>
      decide (w.compared event part ≠ none → w.confirmedFor part = none →
        w.entry.lastSavedBlobs part ≠ w.compared event part)) (by
    simp only [List.all_eq_true, decide_eq_true_eq, Changed]
    constructor
    · intro every part
      exact every part (by cases part <;> decide)
    · intro every part _
      exact every part)

instance (w : Worker Blob) : (event : Event Blob) → Decidable (w.Settled event)
  | .replace part => inferInstanceAs (Decidable (w.waitingBlob part = none))
  | .saveTick | .collected _ _ | .push | .resave _ _ | .ack _ | .evict | .finalSave _ _
  | .elsewhere _ => isTrue trivial

instance (w : Worker Blob) : (event : Event Blob) → Decidable (w.Timely event)
  | .ack seq => inferInstanceAs (Decidable (w.registered = true →
      (∃ save ∈ w.sent, save.seq = seq) → (∀ other ∈ w.confirmed, other.seq ≠ seq) →
      (w.entry.pendingSaves.get? seq).isSome = true))
  | .saveTick | .collected _ _ | .push | .replace _ | .resave _ _ | .evict | .finalSave _ _
  | .elsewhere _ => isTrue trivial

instance (w : Worker Blob) (event : Event Blob) : Decidable (w.Careful event) :=
  inferInstanceAs (Decidable (_ ∧ _ ∧ _))

end Decidability

/-! ## The records of a worker -/

structure Consistent (w : Worker Blob) : Prop where
  numbered : ∀ save ∈ w.sent, save.seq ≤ w.saveSeqCounter
  descending : w.sent.Pairwise fun later earlier => earlier.seq < later.seq
  stored : ∀ save ∈ w.confirmed, save ∈ w.sent
  /-- A pending save was sent, and is not confirmed. -/
  pending : ∀ seq pending, w.entry.pendingSaves.get? seq = some pending →
    (∃ save ∈ w.sent, save.seq = seq ∧ save.blobs = pending.blobs ∧
      ∀ part, (save.blobs part).isSome = true → save.epochs part = pending.epochOf part) ∧
    ∀ save ∈ w.confirmed, save.seq ≠ seq
  past : ∀ save ∈ w.sent, ∀ part, save.epochs part ≤ w.entry.epochOf part
  collecting : ∀ epochs, w.tick = .collecting epochs → ∀ part, epochs part ≤ w.entry.epochOf part
  waiting : ∀ epochs blobs dustKey, w.tick = .waiting epochs blobs dustKey → ∀ part,
    epochs part ≤ w.entry.epochOf part ∧
      ((blobs part).isSome = true → epochs part = w.entry.epochOf part)
  /-- What was last confirmed is what is recorded. -/
  saved : ∀ part blob, w.confirmedFor part = some blob → w.entry.lastSavedBlobs part = some blob

theorem consistent_initial (saveSeqCounter : Nat) :
    (initial saveSeqCounter : Worker Blob).Consistent where
  numbered := nofun
  descending := .nil
  stored := nofun
  pending := nofun
  past := nofun
  collecting := nofun
  waiting := nofun
  saved := nofun

section Sending

variable {w : Worker Blob} {epochs : Part → Nat} {blobs : SerializedBlobs Blob}
  {dustKey : Option String}

@[simp] theorem epochOf_pushStateSave (entry : FacadeEntry Blob) (seq : Nat)
    (blobs : SerializedBlobs Blob) (dustKey : Option String) :
    (pushStateSave entry seq blobs dustKey).epochOf = entry.epochOf := by
  funext part
  cases part <;> rfl

theorem confirmedFor_send (part : Part) :
    (w.send epochs blobs dustKey).confirmedFor part = w.confirmedFor part := by
  have same : (w.send epochs blobs dustKey).carried part = w.carried part := by
    funext save
    simp only [carried, send, epochOf_pushStateSave]
  rw [confirmedFor, confirmedFor, same]
  rfl

/-- Blobs of the current wallets are sent under a new number. -/
theorem Consistent.send (consistent : w.Consistent)
    (past : ∀ part, epochs part ≤ w.entry.epochOf part)
    (current : ∀ part, (blobs part).isSome = true → epochs part = w.entry.epochOf part) :
    (w.send epochs blobs dustKey).Consistent := by
  have isNew : ∀ save ∈ w.sent, save.seq ≠ w.saveSeqCounter + 1 := by
    intro save listed same
    have := consistent.numbered save listed
    omega
  refine ⟨?_, ?_, ?_, ?_, ?_, ?_, ?_, ?_⟩
  · intro save listed
    rcases List.mem_cons.mp listed with rfl | listed
    · exact Nat.le_refl _
    · exact Nat.le_succ_of_le (consistent.numbered save listed)
  · refine List.pairwise_cons.mpr ⟨?_, consistent.descending⟩
    intro save listed
    exact Nat.lt_succ_of_le (consistent.numbered save listed)
  · intro save confirmed
    exact List.mem_cons_of_mem _ (consistent.stored save confirmed)
  · intro seq pending found
    rcases pending_of_pushStateSave found with ⟨rfl, isBlobs, isEpochs, _⟩ | before
    · refine ⟨⟨_, List.mem_cons_self, rfl, isBlobs.symm, ?_⟩, ?_⟩
      · intro part carried
        rw [isEpochs]
        exact current part carried
      · intro save confirmed
        exact isNew save (consistent.stored save confirmed)
    · obtain ⟨⟨save, listed, same⟩, unconfirmed⟩ := consistent.pending seq pending before
      exact ⟨⟨save, List.mem_cons_of_mem _ listed, same⟩, unconfirmed⟩
  · intro save listed part
    rw [Worker.send, epochOf_pushStateSave]
    rcases List.mem_cons.mp listed with rfl | listed
    · exact past part
    · exact consistent.past save listed part
  · intro started isTick part
    rw [Worker.send, epochOf_pushStateSave]
    exact consistent.collecting started isTick part
  · intro started waitingBlobs key isTick part
    rw [Worker.send, epochOf_pushStateSave]
    exact consistent.waiting started waitingBlobs key isTick part
  · intro part blob confirmed
    rw [confirmedFor_send] at confirmed
    exact consistent.saved part blob confirmed

end Sending

variable {w : Worker Blob}

theorem consistent_sendChanged [DecidableEq Blob] {epochs : Part → Nat}
    {blobs : SerializedBlobs Blob} {dustKey : Option String} (consistent : w.Consistent)
    (past : ∀ part, epochs part ≤ w.entry.epochOf part)
    (current : ∀ part, (blobs part).isSome = true → epochs part = w.entry.epochOf part) :
    (w.sendChanged epochs blobs dustKey).Consistent := by
  rw [sendChanged]
  split
  · apply consistent.send past
    intro part changed
    apply current
    rw [diffAgainstConfirmed] at changed
    split at changed
    · cases changed
    · exact changed
  · exact consistent

/-- A tick that ends. -/
theorem Consistent.idle (consistent : w.Consistent) :
    ({ w with tick := .idle } : Worker Blob).Consistent :=
  { consistent with
    collecting := nofun
    waiting := nofun }

section Confirmations

variable {w : Worker Blob} {seq : Nat} {save : Sent Blob} {pending : PendingSave Blob}

/-- A save is told by its number. -/
theorem Consistent.eq_of_seq (consistent : w.Consistent) {other : Sent Blob}
    (listed : save ∈ w.sent) (otherListed : other ∈ w.sent) (same : save.seq = other.seq) :
    save = other := by
  have distinct : (w.sent.map Sent.seq).Nodup :=
    List.pairwise_map.mpr (consistent.descending.imp Nat.ne_of_gt)
  exact List.inj_on_of_nodup_map distinct listed otherListed same

/-- What counts of a pending save is what its confirmation stores for the current wallets. -/
theorem effective_eq_carried (consistent : w.Consistent)
    (found : w.entry.pendingSaves.get? seq = some pending) (listed : save ∈ w.sent)
    (isSeq : save.seq = seq) (part : Part) :
    effective w.entry pending part = w.carried part save := by
  obtain ⟨⟨other, otherListed, otherSeq, sameBlobs, sameEpochs⟩, _⟩ :=
    consistent.pending seq pending found
  obtain rfl := consistent.eq_of_seq listed otherListed (isSeq.trans otherSeq.symm)
  rw [effective_eq, carried, ← sameBlobs]
  cases carries : save.blobs part with
  | none => rw [ite_self, ite_self]
  | some blob => rw [sameEpochs part (carries ▸ rfl)]

/-- A confirmation that finds no pending save changes nothing. -/
theorem applySaveAck_of_missing {entry : FacadeEntry Blob}
    (missing : entry.pendingSaves.get? seq = none) : applySaveAck entry seq = entry := by
  rw [applySaveAck, missing]

/-- A confirmation is of a save that is pending, or it tells nothing new. -/
theorem confirm_cases (consistent : w.Consistent) (registered : w.registered = true)
    (timely : w.Timely (.ack seq)) :
    (w.confirm seq = w.confirmed ∧ w.entry.pendingSaves.get? seq = none) ∨
      ∃ save pending, save ∈ w.sent ∧ save.seq = seq ∧
        w.entry.pendingSaves.get? seq = some pending ∧ w.confirm seq = save :: w.confirmed := by
  have unknown : (w.confirmed.any fun save => decide (save.seq = seq)) = true ∨
      (w.sent.find? fun save => decide (save.seq = seq)) = none →
      w.entry.pendingSaves.get? seq = none := by
    intro known
    rw [Option.eq_none_iff_forall_ne_some]
    intro pending found
    obtain ⟨⟨save, listed, isSeq, _⟩, unconfirmed⟩ := consistent.pending seq pending found
    cases known with
    | inl confirmed =>
      obtain ⟨other, isConfirmed, otherSeq⟩ := List.any_eq_true.mp confirmed
      exact unconfirmed other isConfirmed (of_decide_eq_true otherSeq)
    | inr unsent =>
      have := List.find?_eq_none.mp unsent save listed
      exact this (decide_eq_true isSeq)
  rw [confirm]
  split
  next confirmed => exact .inl ⟨rfl, unknown (.inl confirmed)⟩
  next unconfirmed =>
    cases isSent : w.sent.find? fun save => decide (save.seq = seq) with
    | none => exact .inl ⟨rfl, unknown (.inr isSent)⟩
    | some save =>
      right
      have listed := List.mem_of_find?_eq_some isSent
      have isSeq : save.seq = seq := by simpa using List.find?_some isSent
      have isPending := timely registered ⟨save, listed, isSeq⟩ (by
        intro other isConfirmed otherSeq
        exact unconfirmed (List.any_eq_true.mpr ⟨other, isConfirmed, decide_eq_true otherSeq⟩))
      obtain ⟨pending, found⟩ := Option.isSome_iff_exists.mp isPending
      exact ⟨save, pending, listed, isSeq, found, rfl⟩

/-- A confirmation is recorded as what it stores. -/
theorem Consistent.ack (consistent : w.Consistent) (registered : w.registered = true)
    (timely : w.Timely (.ack seq)) :
    ({ w with
      entry := applySaveAck w.entry seq
      confirmed := w.confirm seq } : Worker Blob).Consistent := by
  have sameEpochs := epochOf_applySaveAck w.entry seq
  refine ⟨consistent.numbered, consistent.descending, ?_, ?_, ?_, ?_, ?_, ?_⟩
  · intro other confirmed
    obtain ⟨same, _⟩ | ⟨save, _, listed, _, _, same⟩ := confirm_cases consistent registered timely
    · exact consistent.stored other (same ▸ confirmed)
    · rcases List.mem_cons.mp (same ▸ confirmed) with rfl | confirmed
      · exact listed
      · exact consistent.stored other confirmed
  · intro other pending found
    obtain ⟨notAcked, before⟩ := pendingSaves_of_applySaveAck found
    obtain ⟨isSent, unconfirmed⟩ := consistent.pending other pending before
    refine ⟨isSent, ?_⟩
    intro save confirmed
    obtain ⟨same, _⟩ | ⟨acked, _, _, isSeq, _, same⟩ := confirm_cases consistent registered timely
    · exact unconfirmed save (same ▸ confirmed)
    · rcases List.mem_cons.mp (same ▸ confirmed) with rfl | confirmed
      · exact fun isOther => notAcked (isOther.symm.trans isSeq)
      · exact unconfirmed save confirmed
  · intro save listed part
    simp only [sameEpochs]
    exact consistent.past save listed part
  · intro epochs isTick part
    simp only [sameEpochs]
    exact consistent.collecting epochs isTick part
  · intro epochs blobs dustKey isTick part
    simp only [sameEpochs]
    exact consistent.waiting epochs blobs dustKey isTick part
  · intro part blob confirmed
    have sameCarried : ({ w with
        entry := applySaveAck w.entry seq
        confirmed := w.confirm seq } : Worker Blob).carried part = w.carried part := by
      funext save
      simp only [carried, sameEpochs]
    rw [confirmedFor, sameCarried] at confirmed
    obtain ⟨same, missing⟩ | ⟨save, pending, listed, isSeq, found, same⟩ :=
      confirm_cases consistent registered timely
    · simp only [same, applySaveAck_of_missing missing] at confirmed ⊢
      exact consistent.saved part blob confirmed
    · simp only [same, List.findSome?_cons] at confirmed
      simp only
      rw [applySaveAck_of_pending found, effective_eq_carried consistent found listed isSeq]
      cases carries : w.carried part save with
      | none =>
        rw [carries] at confirmed
        exact consistent.saved part blob confirmed
      | some other =>
        rw [carries] at confirmed
        exact confirmed

end Confirmations

theorem epochOf_raiseEpoch (entry : FacadeEntry Blob) (part other : Part) :
    (raiseEpoch entry part).epochOf other =
      if other = part ∧ part ≠ .unshielded then entry.epochOf other + 1
      else entry.epochOf other := by
  cases part <;> cases other <;> rfl

/-- Nothing is confirmed yet for a fresh wallet; the other parts stay as they are. -/
theorem Consistent.replace {part : Part} (consistent : w.Consistent)
    (settled : w.Settled (.replace part)) :
    ({ w with entry := raiseEpoch w.entry part } : Worker Blob).Consistent := by
  have raised : ∀ other, w.entry.epochOf other ≤ (raiseEpoch w.entry part).epochOf other := by
    intro other
    rw [epochOf_raiseEpoch]
    split
    · exact Nat.le_succ _
    · exact Nat.le_refl _
  have sameSaves : (raiseEpoch w.entry part).pendingSaves = w.entry.pendingSaves := by
    cases part <;> rfl
  have sameBlobs : (raiseEpoch w.entry part).lastSavedBlobs = w.entry.lastSavedBlobs := by
    cases part <;> rfl
  refine ⟨consistent.numbered, consistent.descending, consistent.stored, ?_, ?_, ?_, ?_, ?_⟩
  · intro seq pending found
    simp only [sameSaves] at found
    exact consistent.pending seq pending found
  · intro save listed other
    exact Nat.le_trans (consistent.past save listed other) (raised other)
  · intro epochs isTick other
    exact Nat.le_trans (consistent.collecting epochs isTick other) (raised other)
  · intro epochs blobs dustKey isTick other
    obtain ⟨past, current⟩ := consistent.waiting epochs blobs dustKey isTick other
    refine ⟨Nat.le_trans past (raised other), ?_⟩
    intro carries
    have notPart : other ≠ part := by
      rintro rfl
      have waits : w.tick = .waiting epochs blobs dustKey := isTick
      simp only [Settled, waitingBlob, waits] at settled
      rw [settled] at carries
      cases carries
    simp only [epochOf_raiseEpoch, notPart, false_and, if_false]
    exact current carries
  · intro other blob confirmed
    simp only [sameBlobs]
    by_cases fresh : other = part ∧ part ≠ .unshielded
    · -- every save was sent before the epoch was raised
      exfalso
      obtain ⟨save, isConfirmed, carries⟩ := List.exists_of_findSome?_eq_some confirmed
      have past := consistent.past save (consistent.stored save isConfirmed) other
      simp only [carried, epochOf_raiseEpoch, if_pos fresh] at carries
      rw [if_neg (by omega)] at carries
      cases carries
    · have sameCarried : ({ w with entry := raiseEpoch w.entry part } : Worker Blob).carried other =
          w.carried other := by
        funext save
        simp only [carried, epochOf_raiseEpoch, if_neg fresh]
      rw [confirmedFor, sameCarried] at confirmed
      exact consistent.saved other blob confirmed

/-- The latest confirmation is of the newest save. -/
def Ordered (w : Worker Blob) : Prop :=
  w.confirmed.Pairwise fun later earlier => earlier.seq < later.seq

/-- Then the last confirmation is of the newest save that is confirmed. -/
theorem Ordered.newestConfirmed (ordered : w.Ordered) {part : Part} {blob : Blob}
    (confirmed : w.confirmedFor part = some blob) : w.NewestConfirmed part blob := by
  obtain ⟨later, save, earlier, isSplit, carries, none⟩ := List.findSome?_eq_some_iff.mp confirmed
  rw [Ordered, isSplit, List.pairwise_append, List.pairwise_cons] at ordered
  rw [NewestConfirmed, isSplit]
  refine ⟨save, List.mem_append_right _ List.mem_cons_self, carries, ?_⟩
  intro other listed stores
  rcases List.mem_append.mp listed with inLater | inRest
  · rw [none other inLater] at stores
    cases stores
  · rcases List.mem_cons.mp inRest with rfl | inEarlier
    · exact Nat.le_refl _
    · exact Nat.le_of_lt (ordered.2.1.1 other inEarlier)

/-! ## Runs -/

section Runs

variable [DecidableEq Blob]

variable {event : Event Blob} {w : Worker Blob}

theorem Consistent.step (consistent : w.Consistent)
    (careful : w.Careful event) : (w.step event).Consistent := by
  obtain ⟨_, settled, timely⟩ := careful
  cases event with
  | saveTick =>
    rw [Worker.step]
    split
    · split
      · exact { consistent with
          collecting := by
            intro epochs isTick part
            cases isTick
            exact Nat.le_refl _
          waiting := nofun }
      · exact consistent
    · exact consistent
  | collected blobs dustKey =>
    rw [Worker.step]
    split
    next epochs isTick =>
      dsimp only
      split
      · exact { consistent with
          collecting := nofun
          waiting := by
            rintro _ _ _ ⟨⟩ part
            refine ⟨consistent.collecting epochs isTick part, ?_⟩
            intro kept
            dsimp only at kept
            split at kept
            · cases kept
            next same => exact (not_not.mp same).symm }
      · exact consistent.idle
    · exact consistent
  | push =>
    rw [Worker.step]
    split
    next epochs blobs dustKey isTick =>
      apply Consistent.idle
      exact consistent_sendChanged consistent
        (fun part => (consistent.waiting epochs blobs dustKey isTick part).1)
        (fun part => (consistent.waiting epochs blobs dustKey isTick part).2)
    · exact consistent
  | replace part => exact consistent.replace settled
  | resave part blob => exact consistent.send (fun _ => Nat.le_refl _) (fun _ _ => rfl)
  | ack seq =>
    rw [Worker.step]
    split
    next registered => exact consistent.ack registered timely
    · exact consistent
  | evict => exact { consistent with }
  | finalSave blobs dustKey =>
    rw [Worker.step]
    split
    · exact consistent
    · exact consistent_sendChanged consistent (fun _ => Nat.le_refl _) (fun _ _ => rfl)
  | elsewhere count =>
    exact { consistent with
      numbered := fun save listed =>
        Nat.le_trans (consistent.numbered save listed) (Nat.le_add_right _ _) }

/-- What is recorded as saved was confirmed for the current epoch, or it is another blob. -/
theorem Consistent.savedLaw (consistent : w.Consistent)
    (changed : w.Changed event) : w.SavedLaw event := by
  intro part blob ⟨isBlob, left⟩
  have recorded : w.entry.lastSavedBlobs part = some blob := by
    rw [diffAgainstConfirmed] at left
    split at left
    next same => rw [← same, isBlob]
    · rw [isBlob] at left
      cases left
  cases confirmed : w.confirmedFor part with
  | none =>
    have isSome : w.compared event part ≠ none := by
      rw [isBlob]
      exact Option.some_ne_none blob
    exact absurd (recorded.trans isBlob.symm) (changed part isSome confirmed)
  | some other =>
    rw [consistent.saved part other confirmed] at recorded
    exact recorded

theorem confirmed_sendChanged (w : Worker Blob) (epochs : Part → Nat) (blobs : SerializedBlobs Blob)
    (dustKey : Option String) : (w.sendChanged epochs blobs dustKey).confirmed = w.confirmed := by
  rw [sendChanged]
  split <;> rfl

theorem confirmed_step
    (isOther : ∀ seq, event ≠ .ack seq) : (w.step event).confirmed = w.confirmed := by
  cases event with
  | saveTick =>
    rw [Worker.step]
    split
    · split <;> rfl
    · rfl
  | collected blobs dustKey =>
    rw [Worker.step]
    split
    · dsimp only
      split <;> rfl
    · rfl
  | push =>
    rw [Worker.step]
    split
    · exact confirmed_sendChanged _ _ _ _
    · rfl
  | replace | resave | evict | elsewhere => rfl
  | ack seq => exact absurd rfl (isOther seq)
  | finalSave blobs dustKey =>
    rw [Worker.step]
    split
    · rfl
    · exact confirmed_sendChanged _ _ _ _

theorem Ordered.step (ordered : w.Ordered)
    (inOrder : w.InOrder event) : (w.step event).Ordered := by
  by_cases isAck : ∃ seq, event = .ack seq
  · obtain ⟨seq, rfl⟩ := isAck
    rw [Worker.step]
    split
    · simp only [Ordered, confirm]
      split
      · exact ordered
      next unconfirmed =>
        cases isSent : w.sent.find? fun save => decide (save.seq = seq) with
        | none => exact ordered
        | some save =>
          have isSeq : save.seq = seq := by simpa using List.find?_some isSent
          refine List.pairwise_cons.mpr ⟨?_, ordered⟩
          intro earlier confirmed
          rw [isSeq]
          apply Nat.lt_of_le_of_ne (inOrder earlier confirmed)
          intro same
          exact unconfirmed (List.any_eq_true.mpr ⟨earlier, confirmed, decide_eq_true same⟩)
    · exact ordered
  · have same : (w.step event).confirmed = w.confirmed :=
      confirmed_step fun seq isSeq => isAck ⟨seq, isSeq⟩
    rw [Ordered, same]
    exact ordered

/-- Along a run that replaces no part under a waiting save, confirms no save that left the pending
ones, and whose fresh wallets serialize to other blobs than the replaced ones, a part is treated as
saved only if its blob is the one last confirmed for its epoch; with confirmations in order, it is
that of the newest confirmed save. A confirmation marks its own blobs only, and none of an older
epoch. -/
theorem savedPart_confirmed :
    (∀ (saveSeqCounter : Nat) (events : List (Event Blob)),
      Along Worker.step Careful (initial saveSeqCounter) events →
        Along Worker.step SavedLaw (initial saveSeqCounter) events ∧
          (Along Worker.step InOrder (initial saveSeqCounter) events →
            Along Worker.step NewestLaw (initial saveSeqCounter) events)) ∧
    ∀ (entry : FacadeEntry Blob) seq part blob,
      (applySaveAck entry seq).lastSavedBlobs part = some blob →
        entry.lastSavedBlobs part = some blob ∨
          ∃ pending, entry.pendingSaves.get? seq = some pending ∧
            pending.blobs part = some blob ∧ pending.epochOf part = entry.epochOf part := by
  refine ⟨?_, fun entry seq part blob marked => marked_of_applySaveAck marked⟩
  intro saveSeqCounter events careful
  constructor
  · exact careful.of_invariant (fun _ _ consistent careful => Consistent.step consistent careful)
      (fun _ _ consistent careful => consistent.savedLaw careful.1)
      (consistent_initial saveSeqCounter)
  · intro inOrder
    have both : Along Worker.step (fun w event => w.Careful event ∧ w.InOrder event)
        (initial saveSeqCounter) events := careful.and inOrder
    have keeps : ∀ (w : Worker Blob) event, w.Consistent ∧ w.Ordered →
        w.Careful event ∧ w.InOrder event → (w.step event).Consistent ∧ (w.step event).Ordered := by
      rintro w event ⟨consistent, ordered⟩ ⟨careful, inOrder⟩
      exact ⟨consistent.step careful, ordered.step inOrder⟩
    have implied : ∀ (w : Worker Blob) event, w.Consistent ∧ w.Ordered →
        w.Careful event ∧ w.InOrder event → w.NewestLaw event := by
      rintro w event ⟨consistent, ordered⟩ ⟨careful, _⟩ part blob treated
      exact ordered.newestConfirmed (consistent.savedLaw careful.1 part blob treated)
    have initially : (initial saveSeqCounter : Worker Blob).Consistent ∧
        (initial saveSeqCounter : Worker Blob).Ordered :=
      ⟨consistent_initial saveSeqCounter, .nil⟩
    exact both.of_invariant keeps implied initially

end Runs

/-- The dust part alone. -/
def dustOnly (blob : String) : SerializedBlobs String
  | .dust => some blob
  | _ => none

/-- A tick from the timer to the send. -/
def tickOf (blobs : SerializedBlobs String) : List (Event String) :=
  [.saveTick, .collected blobs none, .push]

/-- A save is confirmed; the dust wallet is replaced, and its fresh state confirmed too. -/
theorem savedPart_confirmed_replaced :
    Along step SavedLaw (initial 0) (tickOf (dustOnly "b0") ++ [.ack 1] ++ tickOf (dustOnly "b0") ++
      [.replace .dust, .resave .dust "b1", .ack 2] ++ tickOf (dustOnly "b1")) :=
  (savedPart_confirmed.1 0 _ (by decide)).1

/-- A save of the spent dust is stored, then the dust wallet is restored to what the save before
held. Its own save is lost, and the next tick counts it as saved. -/
theorem restored_dust_not_saved :
    ¬ Along step SavedLaw (initial 0) (tickOf (dustOnly "b0") ++ [.ack 1] ++
      tickOf (dustOnly "b1") ++ [.replace .dust, .resave .dust "b0", .ack 2] ++
      tickOf (dustOnly "b0")) := by
  intro law
  rw [along_append] at law
  have confirmed := law.2.2.2.1 .dust "b0" ⟨by decide, by decide⟩
  revert confirmed
  decide

end Worker

end Nightgate.Midnight.StateSaves
