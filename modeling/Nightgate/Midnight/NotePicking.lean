import Nightgate.Library.LargestFirst
import Nightgate.Midnight.UnboundSponsoring

/-!
# Choosing notes for a dust spend

Picking the largest note of each free backing finds a choice whenever there is one, and a spend
takes its target from the notes it is given.
-/

namespace Nightgate.Midnight

open Library

section Picking

variable (locks : NoteLocks) (sessionId : String) (notes : List DustNote)
  (needSpecks maxNotes : Nat) (skipBackings : List String)

/-- A backing a spend may take. -/
def BackingOpen (key : String) : Prop :=
  key ∉ skipBackings ∧ locks.busy key = false

/-- At most `maxNotes` notes, one for each of some open backings, that cover the need. -/
structure NoteChoice (chosen : List DustNote) : Prop where
  listed : chosen ⊆ notes
  few : chosen.length ≤ maxNotes
  distinct : (chosen.map (backingKey sessionId)).Nodup
  opened : ∀ note ∈ chosen, BackingOpen locks skipBackings (backingKey sessionId note)
  covers : needSpecks ≤ (chosen.map noteSpecks).sum

/-- What is remembered of the notes seen: on each open backing the one with the most dust. -/
structure BestOf (seen : List DustNote) (best : InsertionMap String DustNote) : Prop where
  listed : ∀ entry ∈ best.entries, entry.2 ∈ seen
  keyed : ∀ entry ∈ best.entries, entry.1 = backingKey sessionId entry.2
  opened : ∀ entry ∈ best.entries, BackingOpen locks skipBackings entry.1
  most : ∀ note ∈ seen, BackingOpen locks skipBackings (backingKey sessionId note) →
    ∃ current, best.get? (backingKey sessionId note) = some current ∧
      noteSpecks note ≤ noteSpecks current

end Picking

section Best

variable {locks : NoteLocks} {sessionId : String} {seen notes : List DustNote}
  {skipBackings : List String} {best : InsertionMap String DustNote}

theorem BestOf.nothing : BestOf locks sessionId skipBackings [] InsertionMap.empty where
  listed := by simp
  keyed := by simp
  opened := by simp
  most := by simp

variable (bestOf : BestOf locks sessionId skipBackings seen best)

include bestOf

/-- The note leaves what is remembered as it is: its backing is closed, or has one as good. -/
theorem BestOf.pass {note : DustNote}
    (passed : BackingOpen locks skipBackings (backingKey sessionId note) →
      ∃ current, best.get? (backingKey sessionId note) = some current ∧
        noteSpecks note ≤ noteSpecks current) :
    BestOf locks sessionId skipBackings (seen ++ [note]) best where
  listed := fun entry isEntry => List.mem_append_left _ (bestOf.listed entry isEntry)
  keyed := bestOf.keyed
  opened := bestOf.opened
  most := by
    intro other listed isOpen
    cases List.mem_append.mp listed with
    | inl listed => exact bestOf.most other listed isOpen
    | inr isNote =>
      rw [List.mem_singleton] at isNote
      subst isNote
      exact passed isOpen

/-- The note takes the place of what was remembered for its backing. -/
theorem BestOf.replace {note : DustNote}
    (isOpen : BackingOpen locks skipBackings (backingKey sessionId note))
    (more : ∀ current, best.get? (backingKey sessionId note) = some current →
      noteSpecks current ≤ noteSpecks note) :
    BestOf locks sessionId skipBackings (seen ++ [note])
      (best.set (backingKey sessionId note) note) where
  listed := by
    intro entry isEntry
    cases InsertionMap.mem_set isEntry with
    | inl isNew => simp [isNew]
    | inr isOld => exact List.mem_append_left _ (bestOf.listed entry isOld)
  keyed := by
    intro entry isEntry
    cases InsertionMap.mem_set isEntry with
    | inl isNew => rw [isNew]
    | inr isOld => exact bestOf.keyed entry isOld
  opened := by
    intro entry isEntry
    cases InsertionMap.mem_set isEntry with
    | inl isNew =>
      rw [isNew]
      exact isOpen
    | inr isOld => exact bestOf.opened entry isOld
  most := by
    intro other listed otherOpen
    by_cases sameKey : backingKey sessionId other = backingKey sessionId note
    case pos =>
      rw [sameKey]
      refine ⟨note, InsertionMap.get?_set_self _ _ _, ?_⟩
      cases List.mem_append.mp listed with
      | inl listed =>
        obtain ⟨current, isCurrent, atMost⟩ := bestOf.most other listed otherOpen
        exact atMost.trans (more current (sameKey ▸ isCurrent))
      | inr isNote => exact le_of_eq (congrArg noteSpecks (List.mem_singleton.mp isNote))
    case neg =>
      rw [InsertionMap.get?_set_of_ne sameKey]
      cases List.mem_append.mp listed with
      | inl listed => exact bestOf.most other listed otherOpen
      | inr isNote => exact absurd (congrArg _ (List.mem_singleton.mp isNote)) sameKey

theorem BestOf.rememberBest (note : DustNote) :
    BestOf locks sessionId skipBackings (seen ++ [note])
      (rememberBest locks sessionId skipBackings best note) := by
  simp only [Midnight.rememberBest]
  split
  next closed =>
    refine bestOf.pass fun isOpen => ?_
    cases closed with
    | inl skipped => exact absurd skipped isOpen.1
    | inr busy => simp [isOpen.2] at busy
  next candidate =>
    have isOpen : BackingOpen locks skipBackings (backingKey sessionId note) := by
      rw [not_or, Bool.not_eq_true] at candidate
      exact candidate
    split
    next current isCurrent =>
      split
      next less =>
        apply bestOf.replace isOpen
        intro other isOther
        rw [isCurrent, Option.some.injEq] at isOther
        exact isOther ▸ less.le
      next notLess => exact bestOf.pass fun _ => ⟨current, isCurrent, Nat.le_of_not_lt notLess⟩
    next isNone =>
      apply bestOf.replace isOpen
      intro other isOther
      rw [isNone] at isOther
      cases isOther

theorem BestOf.foldl :
    BestOf locks sessionId skipBackings (seen ++ notes)
      (notes.foldl (Midnight.rememberBest locks sessionId skipBackings) best) := by
  induction notes generalizing seen best with
  | nil => simpa using bestOf
  | cons note rest ih =>
    rw [List.append_cons]
    exact ih (bestOf.rememberBest note)

end Best

/-! ## The notes taken -/

theorem takeUntilCovered_sum (needSpecks maxNotes sum : Nat) (notes : List DustNote) :
    (takeUntilCovered needSpecks maxNotes sum notes).2 =
      sum + ((takeUntilCovered needSpecks maxNotes sum notes).1.map noteSpecks).sum := by
  induction notes generalizing maxNotes sum with
  | nil => simp [takeUntilCovered]
  | cons note rest ih =>
    cases maxNotes with
    | zero => simp [takeUntilCovered]
    | succ maxNotes =>
      rw [takeUntilCovered]
      split
      · simp
      · have later := ih maxNotes (sum + noteSpecks note)
        simp only [List.map_cons, List.sum_cons]
        omega

theorem takeUntilCovered_length (needSpecks maxNotes sum : Nat) (notes : List DustNote) :
    (takeUntilCovered needSpecks maxNotes sum notes).1.length ≤ maxNotes := by
  induction notes generalizing maxNotes sum with
  | nil => simp [takeUntilCovered]
  | cons note rest ih =>
    cases maxNotes with
    | zero => simp [takeUntilCovered]
    | succ maxNotes =>
      rw [takeUntilCovered]
      split
      · simp
      · exact Nat.succ_le_succ (ih maxNotes (sum + noteSpecks note))

/-- The first `maxNotes` notes cover the need, and so do those taken. -/
theorem takeUntilCovered_covers {needSpecks maxNotes sum : Nat} {notes : List DustNote}
    (covers : needSpecks ≤ sum + ((notes.take maxNotes).map noteSpecks).sum) :
    needSpecks ≤ (takeUntilCovered needSpecks maxNotes sum notes).2 := by
  induction notes generalizing maxNotes sum with
  | nil => simpa [takeUntilCovered] using covers
  | cons note rest ih =>
    cases maxNotes with
    | zero => simpa [takeUntilCovered] using covers
    | succ maxNotes =>
      rw [takeUntilCovered]
      split
      next enough => exact enough
      · apply ih
        simp only [List.take_succ_cons, List.map_cons, List.sum_cons] at covers
        omega

theorem sortBySpecks_pairwise (notes : List DustNote) :
    (sortBySpecks notes).Pairwise fun first later => noteSpecks later ≤ noteSpecks first := by
  have total : Std.Total fun first second : DustNote => noteSpecks second ≤ noteSpecks first :=
    ⟨fun first second => le_total (noteSpecks second) (noteSpecks first)⟩
  have trans : IsTrans DustNote fun first second => noteSpecks second ≤ noteSpecks first :=
    ⟨fun _ _ _ earlier later => later.trans earlier⟩
  exact List.pairwise_insertionSort _ notes

section Complete

variable {locks : NoteLocks} {sessionId : String} {notes : List DustNote}
  {needSpecks maxNotes : Nat} {skipBackings : List String}

/-- The candidates of the pick: the notes remembered that hold dust, largest first. -/
def pickCandidates (locks : NoteLocks) (sessionId : String) (notes : List DustNote)
    (skipBackings : List String) : List DustNote :=
  let best := notes.foldl (rememberBest locks sessionId skipBackings) InsertionMap.empty
  sortBySpecks ((best.entries.map Prod.snd).filter fun note => 0 < noteSpecks note)

theorem pickNotesAcrossBackings_eq :
    pickNotesAcrossBackings locks sessionId notes needSpecks maxNotes skipBackings =
      let taken := takeUntilCovered needSpecks maxNotes 0
        (pickCandidates locks sessionId notes skipBackings)
      if needSpecks ≤ taken.2 then some taken.1 else none :=
  rfl

theorem bestOf_notes : BestOf locks sessionId skipBackings notes
    (notes.foldl (rememberBest locks sessionId skipBackings) InsertionMap.empty) :=
  BestOf.nothing.foldl

theorem mem_pickCandidates {note : DustNote} :
    note ∈ pickCandidates locks sessionId notes skipBackings ↔
      0 < noteSpecks note ∧ ∃ key, (key, note) ∈
        (notes.foldl (rememberBest locks sessionId skipBackings) InsertionMap.empty).entries := by
  rw [pickCandidates, sortBySpecks, List.mem_insertionSort, List.mem_filter]
  simp [and_comm]

theorem choice_of_picked {picked : List DustNote}
    (isPicked : pickNotesAcrossBackings locks sessionId notes needSpecks maxNotes
      skipBackings = some picked) :
    NoteChoice locks sessionId notes needSpecks maxNotes skipBackings picked := by
  have distinct := (pickNotesAcrossBackings_keys isPicked).1
  rw [pickNotesAcrossBackings_eq] at isPicked
  dsimp only at isPicked
  split at isPicked
  next enough =>
    rw [Option.some.injEq] at isPicked
    subst isPicked
    have taken : ∀ note ∈ (takeUntilCovered needSpecks maxNotes 0
        (pickCandidates locks sessionId notes skipBackings)).1, ∃ key, (key, note) ∈
          (notes.foldl (rememberBest locks sessionId skipBackings) InsertionMap.empty).entries :=
      fun note isTaken => (mem_pickCandidates.mp
        ((takeUntilCovered_sublist _ _ _ _).subset isTaken)).2
    refine ⟨?_, takeUntilCovered_length _ _ _ _, distinct, ?_, ?_⟩
    · intro note isTaken
      obtain ⟨key, isEntry⟩ := taken note isTaken
      exact bestOf_notes.listed _ isEntry
    · intro note isTaken
      obtain ⟨key, isEntry⟩ := taken note isTaken
      rw [← bestOf_notes.keyed _ isEntry]
      exact bestOf_notes.opened _ isEntry
    · rw [takeUntilCovered_sum, Nat.zero_add] at enough
      exact enough
  · cases isPicked

/-- On an open backing some candidate has at least the dust of any note. -/
theorem exists_candidate {note : DustNote} (listed : note ∈ notes)
    (isOpen : BackingOpen locks skipBackings (backingKey sessionId note))
    (holds : 0 < noteSpecks note) :
    ∃ other ∈ pickCandidates locks sessionId notes skipBackings,
      backingKey sessionId other = backingKey sessionId note ∧
        noteSpecks note ≤ noteSpecks other := by
  obtain ⟨other, remembered, atLeast⟩ := bestOf_notes.most note listed isOpen
  have isEntry := InsertionMap.get?_eq_some_iff.mp remembered
  exact ⟨other, mem_pickCandidates.mpr ⟨holds.trans_le atLeast, _, isEntry⟩,
    (bestOf_notes.keyed _ isEntry).symm, atLeast⟩

theorem picked_of_choice {chosen : List DustNote}
    (choice : NoteChoice locks sessionId notes needSpecks maxNotes skipBackings chosen) :
    ∃ picked, pickNotesAcrossBackings locks sessionId notes needSpecks maxNotes skipBackings =
      some picked := by
  rw [pickNotesAcrossBackings_eq]
  have most : (chosen.map noteSpecks).sum ≤
      (((pickCandidates locks sessionId notes skipBackings).take maxNotes).map noteSpecks).sum :=
    sum_le_sum_take_of_dominated (sortBySpecks_pairwise _) choice.distinct
      (fun note isChosen holds =>
        exists_candidate (choice.listed isChosen) (choice.opened note isChosen) holds)
      choice.few
  have enough : needSpecks ≤ (takeUntilCovered needSpecks maxNotes 0
      (pickCandidates locks sessionId notes skipBackings)).2 := by
    apply takeUntilCovered_covers
    rw [Nat.zero_add]
    exact choice.covers.trans most
  exact ⟨_, if_pos enough⟩

end Complete

/-- The inputs take the target from the notes in order, from each no more than it holds. -/
structure SpendOf (notes : List DustNote) (target : Nat) (inputs : List (DustNote × Nat)) :
    Prop where
  inOrder : inputs.map Prod.fst <+: notes
  within : ∀ input ∈ inputs, input.2 ≤ noteSpecks input.1
  total : (inputs.map Prod.snd).sum = target

theorem dustSpendInputs_spends {notes : List DustNote} {target : Nat}
    (held : target ≤ (notes.map noteSpecks).sum) :
    SpendOf notes target (dustSpendInputs notes target) := by
  induction notes generalizing target with
  | nil =>
    have isZero : target = 0 := by simpa using held
    exact ⟨by simp [dustSpendInputs], by simp [dustSpendInputs], by simp [dustSpendInputs, isZero]⟩
  | cons note rest ih =>
    rw [dustSpendInputs]
    split
    next isZero => exact ⟨by simp, by simp, by simp [isZero]⟩
    · rw [List.map_cons, List.sum_cons] at held
      set value := if noteSpecks note < target then noteSpecks note else target with isValue
      have within : value ≤ noteSpecks note ∧ value ≤ target ∧
          target - value ≤ (rest.map noteSpecks).sum := by
        rw [isValue]
        split
        · omega
        · omega
      have later := ih within.2.2
      refine ⟨?_, ?_, ?_⟩
      · rw [List.map_cons]
        exact List.cons_prefix_cons.mpr ⟨rfl, later.inOrder⟩
      · intro input isInput
        cases isInput with
        | head => exact within.1
        | tail _ isLater => exact later.within input isLater
      · rw [List.map_cons, List.sum_cons, later.total]
        omega

/-- Notes are picked exactly when some choice covers the need, what is picked is such a choice,
and a spend of notes that hold its target takes just the target. -/
theorem pickNotesAcrossBackings_complete (locks : NoteLocks) (sessionId : String)
    (notes : List DustNote) (needSpecks maxNotes : Nat) (skipBackings : List String) :
    ((∃ picked, pickNotesAcrossBackings locks sessionId notes needSpecks maxNotes skipBackings =
        some picked) ↔
      ∃ chosen, NoteChoice locks sessionId notes needSpecks maxNotes skipBackings chosen) ∧
    (∀ picked, pickNotesAcrossBackings locks sessionId notes needSpecks maxNotes skipBackings =
        some picked →
      NoteChoice locks sessionId notes needSpecks maxNotes skipBackings picked) ∧
    ∀ given target, target ≤ (given.map noteSpecks).sum →
      SpendOf given target (dustSpendInputs given target) := by
  refine ⟨⟨?_, ?_⟩, fun picked => choice_of_picked, fun given target => dustSpendInputs_spends⟩
  · rintro ⟨picked, isPicked⟩
    exact ⟨picked, choice_of_picked isPicked⟩
  · rintro ⟨chosen, choice⟩
    exact picked_of_choice choice

end Nightgate.Midnight
