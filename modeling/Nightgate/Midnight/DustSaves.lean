import Nightgate.Library.JsonText
import Nightgate.Library.MarkTrail
import Nightgate.Midnight.StateSaves

/-!
# Skipped dust saves

The dust state is costly to serialize, so a tick skips it when its key is that of the last confirmed
save. The key holds the applied index and how many notes the wallet has and has pending. Applied
events raise the index; spends and reverts move notes in and out of the pending ones and leave the
index alone.
-/

namespace Nightgate.Midnight.DustSaves

open Library StateSaves

/-- What the key reads of a wallet state. The counts are missing where there is no array. -/
structure DustFigures where
  /-- `progress.appliedIndex`. -/
  appliedIndex : Option Nat
  /-- `state.progress.appliedIndex`. -/
  stateAppliedIndex : Option Nat
  totalCoins : Option Nat
  pendingCoins : Option Nat

def count : Option Nat → String
  | some length => toString length
  | none => "-"

def dustSaveKey (walletState : DustFigures) : Option String :=
  (walletState.appliedIndex.or walletState.stateAppliedIndex).map fun applied =>
    toString applied ++ ":" ++ count walletState.totalCoins ++ ":" ++ count walletState.pendingCoins

variable {Note : Type}

/-- A dust wallet: the index of the last applied event, the notes, and the pending ones of them. -/
abbrev DustWallet (Note : Type) := Marked (List Note) Note

/-- Applied events give a later index, other notes and other pending ones; a spend makes a note
pending, and a revert frees it. What takes several notes is several moves. -/
abbrev DustMove (Note : Type) := MarkMove (List Note) Note

namespace DustMove

abbrev spend (note : Note) : DustMove Note := .mark note

abbrev revert (note : Note) : DustMove Note := .unmark note

end DustMove

def figuresOf (wallet : DustWallet Note) : DustFigures where
  appliedIndex := some wallet.stamp
  stateAppliedIndex := none
  totalCoins := some wallet.base.length
  pendingCoins := some wallet.marks.card

/-- The key tells the index and the two counts. -/
theorem dustSaveKey_injective {first second : DustWallet Note}
    (same : dustSaveKey (figuresOf first) = dustSaveKey (figuresOf second)) :
    first.stamp = second.stamp ∧ first.base.length = second.base.length ∧
      first.marks.card = second.marks.card := by
  have text := congrArg String.toList (Option.some.inj same)
  simp only [figuresOf, count, String.toList_append, toString, Nat.toList_repr,
    List.append_assoc] at text
  have colon : ∀ rest, Json.Ends (":".toList ++ rest) := by
    rintro rest c ⟨⟩
    rfl
  obtain ⟨sameIndex, afterIndex⟩ := Json.toDigits_cancel (colon _) (colon _) text
  obtain ⟨sameTotal, afterTotal⟩ :=
    Json.toDigits_cancel (colon _) (colon _) (List.append_cancel_left afterIndex)
  have last := List.append_cancel_left afterTotal
  rw [← List.append_nil (Nat.toDigits 10 first.marks.card),
    ← List.append_nil (Nat.toDigits 10 second.marks.card)] at last
  have ended : Json.Ends [] := by
    intro c isHead
    cases isHead
  obtain ⟨samePending, _⟩ := Json.toDigits_cancel ended ended last
  exact ⟨sameIndex, sameTotal, samePending⟩

theorem dustSaveKey_congr {first second : DustWallet Note} (sameStamp : first.stamp = second.stamp)
    (sameBase : first.base = second.base) (sameSize : first.marks.card = second.marks.card) :
    dustSaveKey (figuresOf first) = dustSaveKey (figuresOf second) := by
  rw [figuresOf, figuresOf, sameStamp, sameBase, sameSize]

/-! ## The saver -/

/-- A dust wallet and its saves. A blob stands for the wallet state that it restores to. -/
structure Saver (Note : Type) where
  wallet : DustWallet Note
  saveSeqCounter : Nat
  entry : FacadeEntry (DustWallet Note)
  /-- What a tick has serialized and not sent yet. -/
  tick : Option (DustWallet Note × Option String)

inductive Event (Note : Type) where
  | move (move : DustMove Note)
  /-- `collapsedDustSave`: a tick serializes the wallet, or skips it. -/
  | collect
  /-- `collapsedDustSave` throws, and the tick serializes the wallet whole, without a key. -/
  | collectWhole
  | push
  | ack (seq : Nat)

def dustOnly (wallet : DustWallet Note) : SerializedBlobs (DustWallet Note)
  | .dust => some wallet
  | .shielded => none
  | .unshielded => none

namespace Saver

def initial (wallet : DustWallet Note) (saveSeqCounter : Nat) : Saver Note where
  wallet := wallet
  saveSeqCounter := saveSeqCounter
  entry := .fresh
  tick := none

/-- The key of the wallet is that of the last confirmed save of this epoch. -/
def skipped (s : Saver Note) : Bool :=
  match dustSaveKey (figuresOf s.wallet), s.entry.lastSavedDustKey with
  | some dustKey, some (epoch, key) => key = dustKey && epoch = s.entry.dustEpoch
  | _, _ => false

def step [DecidableEq Note] (s : Saver Note) : Event Note → Saver Note
  | .move move => { s with wallet := s.wallet.move move }
  | .collect =>
    if s.skipped then { s with tick := none }
    else { s with tick := some (s.wallet, dustSaveKey (figuresOf s.wallet)) }
  | .collectWhole => { s with tick := some (s.wallet, none) }
  | .push =>
    match s.tick with
    | none => s
    | some (wallet, dustKey) =>
      let changed := diffAgainstConfirmed s.entry (dustOnly wallet)
      if hasAnyBlob changed then
        { s with
          saveSeqCounter := s.saveSeqCounter + 1
          entry := pushStateSave s.entry (s.saveSeqCounter + 1) changed dustKey
          tick := none }
      else { s with tick := none }
  | .ack seq => { s with entry := applySaveAck s.entry seq }

/-- A skipped save is of the state that the last confirmed save stored. -/
def SkipLaw (s : Saver Note) : Event Note → Prop
  | .collect => s.skipped = true → s.entry.lastSavedBlobs .dust = some s.wallet
  | _ => True

end Saver

def moveOf : Event Note → Option (DustMove Note)
  | .move move => some move
  | .collect => none
  | .collectWhole => none
  | .push => none
  | .ack _ => none

/-- The moves of the wallet in a history. -/
def movesOf (events : List (Event Note)) : List (DustMove Note) :=
  events.filterMap moveOf

@[simp] theorem movesOf_append (first second : List (Event Note)) :
    movesOf (first ++ second) = movesOf first ++ movesOf second :=
  List.filterMap_append

@[simp] theorem movesOf_map (moves : List (DustMove Note)) :
    movesOf (moves.map Event.move) = moves := by
  rw [movesOf, List.filterMap_map]
  exact List.filterMap_some

namespace Saver

/-- A save of a state has no key, or the key of that state. -/
def KeyOf (wallet : DustWallet Note) (dustKey : Option String) : Prop :=
  ∀ key ∈ dustKey, some key = dustSaveKey (figuresOf wallet)

/-- The saves are of states the wallet has been in, each with its key or without one. -/
structure Kept (t : MarkTrail (List Note) Note) (s : Saver Note) : Prop where
  wallet : s.wallet = t.now
  tick : ∀ wallet dustKey, s.tick = some (wallet, dustKey) → wallet ∈ t.seen ∧ KeyOf wallet dustKey
  pending : ∀ seq pending, s.entry.pendingSaves.get? seq = some pending →
    ∃ wallet ∈ t.seen, pending.blobs .dust = some wallet ∧ KeyOf wallet pending.dustKey
  saved : ∀ epoch key, s.entry.lastSavedDustKey = some (epoch, key) →
    ∃ wallet ∈ t.seen, s.entry.lastSavedBlobs .dust = some wallet ∧
      some key = dustSaveKey (figuresOf wallet)

theorem kept_initial (wallet : DustWallet Note) (saveSeqCounter : Nat) :
    Kept (.start wallet) (initial wallet saveSeqCounter) where
  wallet := rfl
  tick := nofun
  pending := nofun
  saved := nofun

theorem Kept.idle {t : MarkTrail (List Note) Note} {s : Saver Note} (kept : Kept t s) :
    Kept t { s with tick := none } :=
  { kept with tick := nofun }

theorem skipped_iff {s : Saver Note} :
    s.skipped = true ↔ ∃ key, dustSaveKey (figuresOf s.wallet) = some key ∧
      s.entry.lastSavedDustKey = some (s.entry.dustEpoch, key) := by
  rw [skipped]
  split
  next dustKey epoch key isKey isLast =>
    rw [isKey, isLast, Bool.and_eq_true, decide_eq_true_eq, decide_eq_true_eq]
    constructor
    · rintro ⟨rfl, rfl⟩
      exact ⟨_, rfl, rfl⟩
    · rintro ⟨_, ⟨⟩, ⟨⟩⟩
      exact ⟨rfl, rfl⟩
  next missing =>
    refine iff_of_false Bool.false_ne_true ?_
    rintro ⟨key, isKey, isLast⟩
    exact missing key _ key isKey isLast

/-- A skip is sound where the wallet's state is told by its index and its pending count. -/
theorem skipLaw_of_told {t : MarkTrail (List Note) Note} {s : Saver Note} (kept : Kept t s)
    (told : t.Told) (event : Event Note) : s.SkipLaw event := by
  cases event with
  | collect =>
    intro skips
    obtain ⟨key, isKey, isLast⟩ := skipped_iff.mp skips
    obtain ⟨saved, seen, isSaved, savedKey⟩ := kept.saved _ key isLast
    have same : saved = s.wallet := by
      obtain ⟨sameStamp, _, sameSize⟩ :=
        dustSaveKey_injective (savedKey.symm.trans isKey.symm)
      rw [kept.wallet] at sameStamp sameSize ⊢
      exact told saved seen sameStamp sameSize
    rw [isSaved, same]
  | move | collectWhole | push | ack => trivial

/-- The first save and its key are recorded when it is confirmed. -/
theorem applySaveAck_first (wallet : DustWallet Note) (seq : Nat) (dustKey : Option String) :
    (applySaveAck (pushStateSave .fresh seq (dustOnly wallet) dustKey) seq).lastSavedBlobs .dust =
        some wallet ∧
      (applySaveAck (pushStateSave .fresh seq (dustOnly wallet) dustKey) seq).lastSavedDustKey =
        dustKey.map fun key => (0, key) := by
  have alone : (InsertionMap.empty.set seq (⟨dustOnly wallet, 0, 0, dustKey⟩ :
      PendingSave (DustWallet Note))).size = 1 := by
    rw [InsertionMap.size, InsertionMap.set_entries_of_fresh List.not_mem_nil]
    rfl
  have found : (pushStateSave .fresh seq (dustOnly wallet) dustKey).pendingSaves.get? seq =
      some ⟨dustOnly wallet, 0, 0, dustKey⟩ := by
    have kept := InsertionMap.get?_set_self InsertionMap.empty seq
      (⟨dustOnly wallet, 0, 0, dustKey⟩ : PendingSave (DustWallet Note))
    rw [pushStateSave, trimmed]
    simp only [FacadeEntry.fresh, dustOnly, Option.isSome_some, if_true]
    rw [if_neg]
    · exact kept
    · rw [alone]
      decide
  rw [applySaveAck, found]
  exact ⟨rfl, rfl⟩

section Steps

variable [DecidableEq Note] {t : MarkTrail (List Note) Note} {s : Saver Note}

theorem Kept.move (kept : Kept t s) (move : DustMove Note) :
    Kept (t.step move) (s.step (.move move)) where
  wallet := by rw [MarkTrail.now_step, ← kept.wallet, step]
  tick wallet dustKey isTick :=
    ⟨MarkTrail.seen_mono (kept.tick wallet dustKey isTick).1, (kept.tick wallet dustKey isTick).2⟩
  pending seq pending found := by
    obtain ⟨wallet, seen, holds⟩ := kept.pending seq pending found
    exact ⟨wallet, MarkTrail.seen_mono seen, holds⟩
  saved epoch key isLast := by
    obtain ⟨wallet, seen, holds⟩ := kept.saved epoch key isLast
    exact ⟨wallet, MarkTrail.seen_mono seen, holds⟩

/-- The dust part is sent unless its blob is confirmed already. -/
theorem diffAgainstConfirmed_dustOnly (entry : FacadeEntry (DustWallet Note))
    (wallet : DustWallet Note) :
    diffAgainstConfirmed entry (dustOnly wallet) =
      if some wallet = entry.lastSavedBlobs .dust then fun _ => none else dustOnly wallet := by
  funext part
  by_cases isSaved : some wallet = entry.lastSavedBlobs .dust
  · rw [if_pos isSaved]
    cases part with
    | dust => exact if_pos isSaved
    | shielded | unshielded => exact ite_self none
  · rw [if_neg isSaved]
    cases part with
    | dust => exact if_neg isSaved
    | shielded | unshielded => exact ite_self none

/-- What is sent is what the tick has serialized, when it is not confirmed already. -/
theorem Kept.push (kept : Kept t s) : Kept t (s.step .push) := by
  rw [step]
  split
  · exact kept
  next wallet dustKey isTick =>
    dsimp only
    split
    next isChanged =>
      have changed : diffAgainstConfirmed s.entry (dustOnly wallet) .dust = some wallet := by
        rw [diffAgainstConfirmed_dustOnly] at isChanged ⊢
        split at isChanged
        · cases isChanged
        next differs =>
          rw [if_neg differs]
          rfl
      obtain ⟨seen, isKey⟩ := kept.tick wallet dustKey isTick
      refine ⟨kept.wallet, nofun, ?_, kept.saved⟩
      intro seq pending found
      rcases pending_of_pushStateSave found with ⟨_, isBlobs, _, isDustKey⟩ | before
      · rw [changed, Option.isSome_some, if_pos rfl] at isDustKey
        exact ⟨wallet, seen, (congrFun isBlobs .dust).trans changed, isDustKey ▸ isKey⟩
      · exact kept.pending seq pending before
    · exact kept.idle

/-- A confirmed save is recorded with its key. -/
theorem Kept.ack (kept : Kept t s) (seq : Nat) : Kept t (s.step (.ack seq)) := by
  refine ⟨kept.wallet, kept.tick, ?_, ?_⟩
  · intro other pending found
    exact kept.pending other pending (pendingSaves_of_applySaveAck found).2
  · intro epoch key isLast
    rw [step] at isLast ⊢
    cases found : s.entry.pendingSaves.get? seq with
    | none =>
      rw [applySaveAck, found] at isLast ⊢
      exact kept.saved epoch key isLast
    | some pending =>
      obtain ⟨wallet, seen, carries, isKey⟩ := kept.pending seq pending found
      simp only [applySaveAck, found, effective, carries] at isLast ⊢
      by_cases stale : pending.dustEpoch ≠ s.entry.dustEpoch
      · simp only [if_pos stale] at isLast ⊢
        exact kept.saved epoch key isLast
      · simp only [if_neg stale, Option.isSome_some, if_true] at isLast ⊢
        obtain ⟨other, isOther, same⟩ := Option.map_eq_some_iff.mp isLast
        cases same
        exact ⟨wallet, seen, rfl, isKey _ isOther⟩

theorem Kept.step (dated : t.Dated) (kept : Kept t s) (event : Event Note) :
    Kept (run MarkTrail.step t (movesOf [event])) (s.step event) := by
  cases event with
  | move move => exact kept.move move
  | collect =>
    rw [Saver.step]
    split
    · exact kept.idle
    · refine ⟨kept.wallet, ?_, kept.pending, kept.saved⟩
      rintro _ _ ⟨⟩
      exact ⟨kept.wallet ▸ dated.present, fun _ isKey => isKey.symm⟩
  | collectWhole =>
    refine ⟨kept.wallet, ?_, kept.pending, kept.saved⟩
    rintro _ _ ⟨⟩
    exact ⟨kept.wallet ▸ dated.present, nofun⟩
  | push => exact kept.push
  | ack seq => exact kept.ack seq

end Steps

section Runs

variable [DecidableEq Note] (wallet : DustWallet Note) (saveSeqCounter : Nat)

theorem kept_run (events : List (Event Note)) :
    Kept (run MarkTrail.step (.start wallet) (movesOf events))
      (run step (initial wallet saveSeqCounter) events) := by
  have keeps : ∀ past (s : Saver Note) event,
      Kept (run MarkTrail.step (.start wallet) (movesOf past)) s →
      Kept (run MarkTrail.step (.start wallet) (movesOf (past ++ [event]))) (s.step event) := by
    intro past s event kept
    rw [movesOf_append, run_append]
    exact kept.step (MarkTrail.dated_run wallet (movesOf past)) event
  have initially : Kept (run MarkTrail.step (.start wallet) (movesOf []))
      (initial wallet saveSeqCounter) := kept_initial wallet saveSeqCounter
  exact run_past keeps initially events

/-- A history that saves the wallet after some moves and has the save confirmed. -/
def savedOnce (first rest : List (DustMove Note)) : List (Event Note) :=
  first.map .move ++ [.collect, .push, .ack (saveSeqCounter + 1)] ++ rest.map .move

theorem run_moves (s : Saver Note) (moves : List (DustMove Note)) :
    run step s (moves.map .move) = { s with wallet := run Marked.move s.wallet moves } := by
  induction moves generalizing s with
  | nil => rfl
  | cons move rest ih => rw [List.map_cons, run_cons, ih, step, run_cons]

/-- The confirmed save and its key are recorded. -/
theorem run_savedOnce (first rest : List (DustMove Note)) :
    let s := run step (initial wallet saveSeqCounter) (savedOnce saveSeqCounter first rest)
    let saved := run Marked.move wallet first
    s.wallet = run Marked.move saved rest ∧ s.entry.lastSavedBlobs .dust = some saved ∧
      s.entry.lastSavedDustKey = (dustSaveKey (figuresOf saved)).map (fun key => (0, key)) ∧
      s.entry.dustEpoch = 0 := by
  intro s saved
  have isRun : s =
      { wallet := run Marked.move saved rest
        saveSeqCounter := saveSeqCounter + 1
        entry := applySaveAck (pushStateSave .fresh (saveSeqCounter + 1) (dustOnly saved)
          (dustSaveKey (figuresOf saved))) (saveSeqCounter + 1)
        tick := none } := by
    have sent : diffAgainstConfirmed (.fresh : FacadeEntry (DustWallet Note)) (dustOnly saved) =
        dustOnly saved := by
      rw [diffAgainstConfirmed_dustOnly]
      exact if_neg nofun
    have pushed : (Saver.mk saved saveSeqCounter .fresh
        (some (saved, dustSaveKey (figuresOf saved)))).step .push =
        ⟨saved, saveSeqCounter + 1, pushStateSave .fresh (saveSeqCounter + 1) (dustOnly saved)
          (dustSaveKey (figuresOf saved)), none⟩ := by
      simp only [step, sent]
      rfl
    have collected : (Saver.mk saved saveSeqCounter .fresh none).step .collect =
        ⟨saved, saveSeqCounter, .fresh, some (saved, dustSaveKey (figuresOf saved))⟩ := rfl
    simp only [s, savedOnce, run_append, run_moves, initial, run_cons, run_nil]
    rw [collected, pushed]
    rfl
  obtain ⟨isSaved, isKey⟩ :=
    applySaveAck_first saved (saveSeqCounter + 1) (dustSaveKey (figuresOf saved))
  rw [isRun]
  refine ⟨rfl, isSaved, isKey, ?_⟩
  exact congrFun (epochOf_applySaveAck _ _) .dust

end Runs

/-- For every history of applied events, spends and reverts: all skips are sound, whenever the
wallet is saved and the saves are confirmed, just when since the last applied event each spend takes
the note that was reverted last and each revert frees the note that was spent last, if there is
one. -/
theorem skippedSave_sound_iff [DecidableEq Note] (wallet : DustWallet Note) (saveSeqCounter : Nat)
    (moves : List (DustMove Note)) :
    (∀ events, movesOf events = moves →
      Along Saver.step SkipLaw (initial wallet saveSeqCounter) events) ↔
      Along MarkTrail.step MarkTrail.InTurn (.start wallet) moves := by
  rw [MarkTrail.along_inTurn_iff_told]
  constructor
  · intro sound earlier isPrefix saved seen sameStamp sameSize
    -- save at the earlier state, have the save confirmed, and come to the tick at the later one
    obtain ⟨first, ⟨rest, isEarlier⟩, isSaved⟩ := MarkTrail.exists_prefix_of_seen seen
    obtain ⟨later, isMoves⟩ := isPrefix
    have sameBase := (MarkTrail.dated_run wallet earlier).bases saved seen sameStamp
    have law := (along_iff_events _).mp
      (sound (savedOnce saveSeqCounter first rest ++ .collect :: later.map .move) (by
        have atTick : movesOf (.collect :: later.map .move) = later := movesOf_map later
        rw [movesOf_append, atTick, savedOnce, movesOf_append, movesOf_append, movesOf_map,
          movesOf_map, ← isMoves, ← isEarlier]
        simp [movesOf, moveOf]))
      (savedOnce saveSeqCounter first rest) .collect (later.map .move) rfl
    obtain ⟨isWallet, isBlob, isKey, isEpoch⟩ := run_savedOnce wallet saveSeqCounter first rest
    have isNow : run Marked.move (run Marked.move wallet first) rest =
        (run MarkTrail.step (.start wallet) earlier).now := by
      rw [MarkTrail.now_run, ← isEarlier, run_append]
      rfl
    rw [isSaved] at isWallet isBlob isKey isNow
    have skips := skipped_iff.mpr ⟨_, rfl, isKey.trans (by
      rw [isEpoch, isWallet, isNow, dustSaveKey_congr sameStamp sameBase sameSize]
      rfl)⟩
    have same := (law skips).symm.trans isBlob
    rw [isWallet, isNow] at same
    exact (Option.some.inj same).symm
  · intro told events isMoves
    rw [along_iff_events]
    rintro past event later rfl
    have isPrefix : movesOf past <+: moves := by
      rw [← isMoves, movesOf_append]
      exact List.prefix_append _ _
    exact skipLaw_of_told (kept_run wallet saveSeqCounter past) (told _ isPrefix) event

/-- A note is spent and the wallet saved; the note is freed and another one spent. The key is that
of the save, whose state has the first note pending. -/
theorem respent_note_skipped :
    ¬ Along Saver.step SkipLaw (initial (⟨100, [1, 2], ∅⟩ : DustWallet Nat) 0)
      [.move (.spend 1), .collect, .push, .ack 1, .move (.revert 1), .move (.spend 2),
        .collect] := by
  intro law
  have stored := law.2.2.2.2.2.2.1 (by decide)
  revert stored
  decide

/-- The confirmed dust blob is a state that the wallet has been in, and the key kept beside it is
the key of that state. -/
theorem savedKey_of_blob [DecidableEq Note] (wallet : DustWallet Note) (saveSeqCounter : Nat)
    (events : List (Event Note)) :
    let entry := (run step (initial wallet saveSeqCounter) events).entry
    ∀ epoch key, entry.lastSavedDustKey = some (epoch, key) → ∃ moves, moves <+: movesOf events ∧
        entry.lastSavedBlobs .dust = some (run Marked.move wallet moves) ∧
        some key = dustSaveKey (figuresOf (run Marked.move wallet moves)) := by
  intro entry epoch key isLast
  obtain ⟨saved, seen, isBlob, isKey⟩ :=
    (kept_run wallet saveSeqCounter events).saved epoch key isLast
  obtain ⟨moves, isPrefix, rfl⟩ := MarkTrail.exists_prefix_of_seen seen
  exact ⟨moves, isPrefix, isBlob, isKey⟩

theorem savedKey_of_blob_spent :
    ∃ moves, moves <+: [MarkMove.mark 1] ∧ some "100:2:0" =
      dustSaveKey (figuresOf (run Marked.move (⟨100, [1, 2], ∅⟩ : DustWallet Nat) moves)) := by
  obtain ⟨moves, isPrefix, _, isKey⟩ := savedKey_of_blob ⟨100, [1, 2], ∅⟩ 0
    [.collect, .push, .move (.spend 1), .ack 1] 0 "100:2:0" (by decide)
  exact ⟨moves, isPrefix, isKey⟩

end Saver

end Nightgate.Midnight.DustSaves
