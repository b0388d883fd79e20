import Mathlib.Data.List.Sort
import Nightgate.Library.InsertionMap
import Nightgate.Library.TokenLeases

/-!
# Dust backing leases

Notes of one backing spent at once are rejected by the node, so a spend reserves the backings
its notes come from: the free backing with the most dust, or several that cover the fee
together. A reservation expires by the clock and its token shows who made it.
-/

namespace Nightgate.Midnight

open Library

/-- A dust coin of the sponsor's wallet. `generatedNow` is absent when it is unreadable. -/
structure DustNote where
  backingNight : Option String
  generatedNow : Option Nat
  nonce : Option String
  deriving DecidableEq

def noteSpecks (note : DustNote) : Nat :=
  note.generatedNow.getD 0

def backingOf (note : DustNote) : String :=
  note.backingNight.getD "?"

def backingKey (sessionId : String) (note : DustNote) : String :=
  sessionId ++ "|" ++ backingOf note

/-- The short name of a backing in messages. -/
def backingLabel (note : DustNote) : String :=
  String.ofList ((backingOf note).toList.take 16)

abbrev NoteLocks := LeaseTable String

/-- Notes with the most dust first, equal ones in their order. -/
def sortBySpecks (notes : List DustNote) : List DustNote :=
  notes.insertionSort fun first second => noteSpecks second ≤ noteSpecks first

structure LockedBacking where
  note : DustNote
  key : String
  token : Nat
  backing : String

/-- Reserves the free backing with the most dust. -/
def tryLockBacking (locks : NoteLocks) (sessionId : String) (notes : List DustNote)
    (needSpecks ttlMs : Nat) (skipBackings : List String) : Option LockedBacking × NoteLocks :=
  let eligible := sortBySpecks (notes.filter fun note => needSpecks ≤ noteSpecks note)
  let free := eligible.find? fun note =>
    backingKey sessionId note ∉ skipBackings ∧ locks.busy (backingKey sessionId note) = false
  match free with
  | some note =>
    let key := backingKey sessionId note
    (some ⟨note, key, locks.seq + 1, backingLabel note⟩, locks.grant key ttlMs)
  | none => (none, locks)

/-- The note on the reserved backing that still covers the fee. -/
def sufficientNoteOnBacking (sessionId : String) (notes : List DustNote) (key : String)
    (needSpecks : Nat) : Option DustNote :=
  notes.find? fun note => backingKey sessionId note = key ∧ needSpecks ≤ noteSpecks note

/-- Reserved backings for one sponsored spend, each with its token. -/
structure DustLease where
  parts : List (String × Nat)
  backing : String

/-- The note is remembered when its backing is free and it is the best seen there. -/
def rememberBest (locks : NoteLocks) (sessionId : String) (skipBackings : List String)
    (best : InsertionMap String DustNote) (note : DustNote) : InsertionMap String DustNote :=
  let key := backingKey sessionId note
  if key ∈ skipBackings ∨ locks.busy key then best
  else
    match best.get? key with
    | some current =>
      if noteSpecks current < noteSpecks note then best.set key note else best
    | none => best.set key note

/-- Notes in order until they cover the fee or `maxNotes` are taken, with their sum. -/
def takeUntilCovered (needSpecks : Nat) : Nat → Nat → List DustNote → List DustNote × Nat
  | _, sum, [] => ([], sum)
  | 0, sum, _ :: _ => ([], sum)
  | maxNotes + 1, sum, note :: rest =>
    if needSpecks ≤ sum then ([], sum)
    else
      let (picked, total) := takeUntilCovered needSpecks maxNotes (sum + noteSpecks note) rest
      (note :: picked, total)

/-- The note with the most dust on each free backing, largest first, until they cover
`needSpecks`. Nothing when they do not add up. -/
def pickNotesAcrossBackings (locks : NoteLocks) (sessionId : String) (notes : List DustNote)
    (needSpecks maxNotes : Nat) (skipBackings : List String) : Option (List DustNote) :=
  let best := notes.foldl (rememberBest locks sessionId skipBackings) InsertionMap.empty
  let sorted := sortBySpecks ((best.entries.map Prod.snd).filter fun note => 0 < noteSpecks note)
  let (picked, sum) := takeUntilCovered needSpecks maxNotes 0 sorted
  if needSpecks ≤ sum then some picked else none

/-- Reserves one backing that covers the fee, or several that cover it together. -/
def tryLockDust (locks : NoteLocks) (sessionId : String) (notes : List DustNote)
    (needSpecks ttlMs : Nat) (skipBackings : List String) (maxNotes : Nat) :
    Option DustLease × NoteLocks :=
  match tryLockBacking locks sessionId notes needSpecks ttlMs skipBackings with
  | (some single, next) => (some ⟨[(single.key, single.token)], single.backing⟩, next)
  | (none, unchanged) =>
    -- A note that covers the fee alone is only busy: the other backings stay free.
    let coversAlone := notes.any fun note =>
      needSpecks ≤ noteSpecks note && backingKey sessionId note ∉ skipBackings
    if maxNotes < 2 || coversAlone then (none, unchanged)
    else
      match pickNotesAcrossBackings unchanged sessionId notes needSpecks maxNotes skipBackings with
      | none => (none, unchanged)
      | some picked =>
        let (parts, next) := unchanged.grantAll ttlMs (picked.map (backingKey sessionId))
        (some ⟨parts, "+".intercalate (picked.map backingLabel)⟩, next)

/-- Nothing happens when someone else took the reservation over. -/
def releaseNote (locks : NoteLocks) (key : String) (token : Nat) : NoteLocks :=
  locks.release key token

def releaseLease (locks : NoteLocks) (lease : DustLease) : NoteLocks :=
  lease.parts.foldl (fun locks part => releaseNote locks part.1 part.2) locks

/-- What the timer of a reservation does: the holder renews it, nobody else does. -/
def renewNote (locks : NoteLocks) (key : String) (token ttlMs : Nat) : NoteLocks :=
  locks.renew key token ttlMs

section Acquisition

variable {locks : NoteLocks} {sessionId : String} {notes : List DustNote}
  {needSpecks ttlMs maxNotes : Nat} {skipBackings : List String}

theorem tryLockBacking_cases (locks : NoteLocks) (sessionId : String) (notes : List DustNote)
    (needSpecks ttlMs : Nat) (skipBackings : List String) :
    tryLockBacking locks sessionId notes needSpecks ttlMs skipBackings = (none, locks) ∨
      ∃ single, locks.busy single.key = false ∧ single.token = locks.seq + 1 ∧
        tryLockBacking locks sessionId notes needSpecks ttlMs skipBackings =
          (some single, locks.grant single.key ttlMs) := by
  simp only [tryLockBacking]
  split
  next note found =>
    have isFree := List.find?_some found
    simp only [decide_eq_true_eq] at isFree
    exact Or.inr ⟨_, isFree.2, rfl, rfl⟩
  · exact Or.inl rfl

/-- The notes remembered are each under their own backing, which is free. -/
structure Remembers (locks : NoteLocks) (sessionId : String)
    (best : InsertionMap String DustNote) : Prop where
  keyed : ∀ entry ∈ best.entries, entry.1 = backingKey sessionId entry.2
  free : ∀ entry ∈ best.entries, locks.busy entry.1 = false

variable {best : InsertionMap String DustNote}

theorem Remembers.set (remembers : Remembers locks sessionId best) (note : DustNote)
    (free : locks.busy (backingKey sessionId note) = false) :
    Remembers locks sessionId (best.set (backingKey sessionId note) note) where
  keyed := by
    intro entry isEntry
    cases InsertionMap.mem_set isEntry with
    | inl isNew => rw [isNew]
    | inr isOld => exact remembers.keyed entry isOld
  free := by
    intro entry isEntry
    cases InsertionMap.mem_set isEntry with
    | inl isNew =>
      rw [isNew]
      exact free
    | inr isOld => exact remembers.free entry isOld

theorem Remembers.rememberBest (remembers : Remembers locks sessionId best) (note : DustNote) :
    Remembers locks sessionId (rememberBest locks sessionId skipBackings best note) := by
  simp only [Midnight.rememberBest]
  split
  · exact remembers
  next isCandidate =>
    have free : locks.busy (backingKey sessionId note) = false := by
      simpa using fun busy => isCandidate (Or.inr busy)
    split
    · split
      · exact remembers.set note free
      · exact remembers
    · exact remembers.set note free

theorem Remembers.foldl (remembers : Remembers locks sessionId best) (notes : List DustNote) :
    Remembers locks sessionId
      (notes.foldl (Midnight.rememberBest locks sessionId skipBackings) best) := by
  induction notes generalizing best with
  | nil => exact remembers
  | cons note rest ih => exact ih (remembers.rememberBest note)

theorem takeUntilCovered_sublist (needSpecks maxNotes sum : Nat) (notes : List DustNote) :
    (takeUntilCovered needSpecks maxNotes sum notes).1.Sublist notes := by
  induction notes generalizing maxNotes sum with
  | nil =>
    rw [takeUntilCovered]
  | cons note rest ih =>
    cases maxNotes with
    | zero =>
      rw [takeUntilCovered]
      exact List.nil_sublist _
    | succ maxNotes =>
      rw [takeUntilCovered]
      split
      · exact List.nil_sublist _
      · exact (ih maxNotes (sum + noteSpecks note)).cons_cons note

/-- The notes picked lie on different backings, all free. -/
theorem pickNotesAcrossBackings_keys {picked : List DustNote}
    (isPicked : pickNotesAcrossBackings locks sessionId notes needSpecks maxNotes
      skipBackings = some picked) :
    (picked.map (backingKey sessionId)).Nodup ∧
      ∀ key ∈ picked.map (backingKey sessionId), locks.busy key = false := by
  simp only [pickNotesAcrossBackings] at isPicked
  set best := notes.foldl (rememberBest locks sessionId skipBackings) InsertionMap.empty with isBest
  have remembers : Remembers locks sessionId best := by
    rw [isBest]
    exact Remembers.foldl ⟨by simp, by simp⟩ notes
  split at isPicked
  · rw [Option.some.injEq] at isPicked
    subst isPicked
    have keys : (best.entries.map Prod.snd).map (backingKey sessionId) =
        best.entries.map Prod.fst := by
      rw [List.map_map]
      exact List.map_congr_left fun entry isEntry => (remembers.keyed entry isEntry).symm
    set candidates := (best.entries.map Prod.snd).filter fun note => 0 < noteSpecks note
    have taken := takeUntilCovered_sublist needSpecks maxNotes 0 (sortBySpecks candidates)
    have sorted : (sortBySpecks candidates).Perm candidates := List.perm_insertionSort ..
    have kept : (candidates.map (backingKey sessionId)).Sublist (best.entries.map Prod.fst) := by
      rw [← keys]
      exact List.filter_sublist.map _
    constructor
    · have distinct := best.distinct.sublist kept
      exact ((sorted.map _).nodup_iff.mpr distinct).sublist (taken.map _)
    · intro key isKey
      have isCandidate := (sorted.map _).mem_iff.mp ((taken.map _).subset isKey)
      obtain ⟨entry, isEntry, rfl⟩ := List.mem_map.mp (kept.subset isCandidate)
      exact remembers.free entry isEntry
  · cases isPicked

/-- An acquisition changes nothing, or takes a lease on distinct free backings. -/
theorem tryLockDust_cases (locks : NoteLocks) (sessionId : String) (notes : List DustNote)
    (needSpecks ttlMs : Nat) (skipBackings : List String) (maxNotes : Nat) :
    tryLockDust locks sessionId notes needSpecks ttlMs skipBackings maxNotes = (none, locks) ∨
      ∃ keys backing, keys.Nodup ∧ (∀ key ∈ keys, locks.busy key = false) ∧
        tryLockDust locks sessionId notes needSpecks ttlMs skipBackings maxNotes =
          (some ⟨(locks.grantAll ttlMs keys).1, backing⟩, (locks.grantAll ttlMs keys).2) := by
  simp only [tryLockDust]
  cases tryLockBacking_cases locks sessionId notes needSpecks ttlMs skipBackings with
  | inr isSingle =>
    obtain ⟨single, free, isToken, locked⟩ := isSingle
    rw [locked]
    refine Or.inr ⟨[single.key], single.backing, by simp, by simpa using free, ?_⟩
    simp only [LeaseTable.grantAll, isToken]
  | inl isNone =>
    rw [isNone]
    dsimp only
    split
    · exact Or.inl rfl
    · split
      · exact Or.inl rfl
      next picked isPicked =>
        have keys := pickNotesAcrossBackings_keys isPicked
        exact Or.inr ⟨_, _, keys.1, keys.2, rfl⟩

end Acquisition

end Nightgate.Midnight
