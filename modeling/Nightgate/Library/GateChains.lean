import Mathlib.Data.Set.Basic

/-!
# Tickets that wait behind the last holder of each key

A ticket is taken for a set of keys. It waits for the tickets that took each of its keys last, and
enters once these have left; the note of who took a key last may be dropped once that ticket has
left. Tickets that share a key are served one after the other, in the order in which they were
taken, and waiting goes to earlier tickets only.
-/

namespace Nightgate.Library

/-- Where the owner of a ticket is. -/
inductive Phase where
  | waiting
  | inside
  | left
  deriving DecidableEq

structure GateChains (Key : Type*) where
  taken : Nat
  keys : Nat → Set Key
  behind : Nat → Set Nat
  phase : Nat → Phase
  /-- The ticket that took the key last. -/
  last : Key → Option Nat

namespace GateChains

variable {Key : Type*}

@[ext] theorem ext' {first second : GateChains Key} (taken : first.taken = second.taken)
    (keys : ∀ i, first.keys i = second.keys i) (behind : ∀ i, first.behind i = second.behind i)
    (phase : ∀ i, first.phase i = second.phase i) (last : ∀ key, first.last key = second.last key) :
    first = second := by
  cases first
  cases second
  simp only [mk.injEq]
  exact ⟨taken, funext keys, funext behind, funext phase, funext last⟩

def empty : GateChains Key where
  taken := 0
  keys _ := ∅
  behind _ := ∅
  phase _ := .waiting
  last _ := none

open Classical in
/-- Takes a ticket for the keys. -/
noncomputable def take (chains : GateChains Key) (wanted : Set Key) : GateChains Key where
  taken := chains.taken + 1
  keys := Function.update chains.keys chains.taken wanted
  behind := Function.update chains.behind chains.taken
    {m | ∃ key ∈ wanted, chains.last key = some m}
  phase := Function.update chains.phase chains.taken .waiting
  last key := if key ∈ wanted then some chains.taken else chains.last key

def move (chains : GateChains Key) (i : Nat) (phase : Phase) : GateChains Key :=
  { chains with phase := Function.update chains.phase i phase }

open Classical in
noncomputable def drop (chains : GateChains Key) (key : Key) : GateChains Key :=
  { chains with last := fun other => if other = key then none else chains.last other }

/-- A ticket may enter: all it waits for have left. -/
def Free (chains : GateChains Key) (i : Nat) : Prop :=
  chains.phase i = .waiting ∧ ∀ m ∈ chains.behind i, chains.phase m = .left

inductive Step (chains : GateChains Key) : GateChains Key → Prop
  | take (wanted : Set Key) : Step chains (chains.take wanted)
  | enter {i : Nat} (free : chains.Free i) : Step chains (chains.move i .inside)
  | leave {i : Nat} (entered : chains.phase i = .inside) : Step chains (chains.move i .left)
  | drop {key : Key} {i : Nat} (isLast : chains.last key = some i) (gone : chains.phase i = .left) :
      Step chains (chains.drop key)

/-- Two tickets have a key in common. -/
def Share (chains : GateChains Key) (i j : Nat) : Prop :=
  ∃ key, key ∈ chains.keys i ∧ key ∈ chains.keys j

/-- What holds of the tickets after any steps. -/
structure Orderly (chains : GateChains Key) : Prop where
  untaken : ∀ i, chains.taken ≤ i → chains.keys i = ∅
  known : ∀ key i, chains.last key = some i → key ∈ chains.keys i
  newest : ∀ key i j, chains.last key = some i → key ∈ chains.keys j → j ≤ i
  dropped : ∀ key j, chains.last key = none → key ∈ chains.keys j → chains.phase j = .left
  backward : ∀ j m, m ∈ chains.behind j → m < j ∧ chains.Share m j
  covered : ∀ key i j, i < j → key ∈ chains.keys i → key ∈ chains.keys j →
    chains.phase i = .left ∨ ∃ m ∈ chains.behind j, i ≤ m ∧ key ∈ chains.keys m
  served : ∀ i j, i < j → chains.Share i j → chains.phase j ≠ .waiting → chains.phase i = .left

variable {chains : GateChains Key}

theorem orderly_empty : (empty : GateChains Key).Orderly where
  untaken := fun _ _ => rfl
  known := nofun
  newest := nofun
  dropped := fun _ _ _ isKey => isKey.elim
  backward := fun _ _ isBehind => isBehind.elim
  covered := fun _ _ _ _ isKey => isKey.elim
  served := fun _ _ _ shared => by
    rcases shared with ⟨key, isKey, -⟩
    exact isKey.elim

variable {i : Nat} {key : Key}

theorem Orderly.lt_taken (orderly : chains.Orderly)
    (isKey : key ∈ chains.keys i) : i < chains.taken := by
  by_contra beyond
  rw [orderly.untaken i (Nat.le_of_not_lt beyond)] at isKey
  exact isKey

section Take

variable {wanted : Set Key}

@[simp] theorem take_keys_self : (chains.take wanted).keys chains.taken = wanted :=
  Function.update_self ..

variable {i : Nat}

theorem take_keys_of_ne (old : i ≠ chains.taken) : (chains.take wanted).keys i = chains.keys i :=
  Function.update_of_ne old ..

@[simp] theorem take_behind_self (chains : GateChains Key) (wanted : Set Key) :
    (chains.take wanted).behind chains.taken = {m | ∃ key ∈ wanted, chains.last key = some m} :=
  Function.update_self ..

theorem take_behind_of_ne (old : i ≠ chains.taken) :
    (chains.take wanted).behind i = chains.behind i :=
  Function.update_of_ne old ..

@[simp] theorem take_phase_self : (chains.take wanted).phase chains.taken = .waiting :=
  Function.update_self ..

theorem take_phase_of_ne (old : i ≠ chains.taken) : (chains.take wanted).phase i = chains.phase i :=
  Function.update_of_ne old ..

variable {key : Key}

theorem take_last_of_mem (isWanted : key ∈ wanted) :
    (chains.take wanted).last key = some chains.taken :=
  if_pos isWanted

theorem take_last_of_not_mem (notWanted : key ∉ wanted) :
    (chains.take wanted).last key = chains.last key :=
  if_neg notWanted

/-- A key of a ticket is one of the new ticket's, or the ticket was there. -/
theorem Orderly.mem_take_keys (orderly : chains.Orderly) :
    key ∈ (chains.take wanted).keys i ↔
      i = chains.taken ∧ key ∈ wanted ∨ i < chains.taken ∧ key ∈ chains.keys i := by
  by_cases new : i = chains.taken
  · subst new
    simp
  · rw [take_keys_of_ne new]
    constructor
    · intro isKey
      exact Or.inr ⟨orderly.lt_taken isKey, isKey⟩
    · rintro (⟨same, -⟩ | ⟨-, isKey⟩)
      · exact absurd same new
      · exact isKey

theorem Orderly.take_phase_of_left (orderly : chains.Orderly)
    (isKey : key ∈ chains.keys i) (gone : chains.phase i = .left) :
    (chains.take wanted).phase i = .left := by
  rw [take_phase_of_ne (orderly.lt_taken isKey).ne]
  exact gone

theorem Orderly.take (orderly : chains.Orderly) (wanted : Set Key) :
    (chains.take wanted).Orderly where
  untaken := fun i beyond => by
    have old : i ≠ chains.taken := (Nat.lt_of_succ_le beyond).ne'
    rw [take_keys_of_ne old]
    exact orderly.untaken i (Nat.le_of_succ_le beyond)
  known := fun key i isLast => by
    rw [orderly.mem_take_keys]
    by_cases isWanted : key ∈ wanted
    · rw [take_last_of_mem isWanted] at isLast
      exact Or.inl ⟨(Option.some.inj isLast).symm, isWanted⟩
    · rw [take_last_of_not_mem isWanted] at isLast
      have isKey := orderly.known key i isLast
      exact Or.inr ⟨orderly.lt_taken isKey, isKey⟩
  newest := fun key i j isLast isKey => by
    rw [orderly.mem_take_keys] at isKey
    by_cases isWanted : key ∈ wanted
    · rw [take_last_of_mem isWanted] at isLast
      cases isLast
      rcases isKey with ⟨same, -⟩ | ⟨old, -⟩
      · exact same.le
      · exact old.le
    · rw [take_last_of_not_mem isWanted] at isLast
      rcases isKey with ⟨-, isWanted'⟩ | ⟨-, isKey⟩
      · exact absurd isWanted' isWanted
      · exact orderly.newest key i j isLast isKey
  dropped := fun key j isNone isKey => by
    rw [orderly.mem_take_keys] at isKey
    by_cases isWanted : key ∈ wanted
    · rw [take_last_of_mem isWanted] at isNone
      cases isNone
    · rw [take_last_of_not_mem isWanted] at isNone
      rcases isKey with ⟨-, isWanted'⟩ | ⟨-, isKey⟩
      · exact absurd isWanted' isWanted
      · exact orderly.take_phase_of_left isKey (orderly.dropped key j isNone isKey)
  backward := fun j m isBehind => by
    by_cases new : j = chains.taken
    · subst new
      rw [take_behind_self] at isBehind
      rcases isBehind with ⟨key, isWanted, isLast⟩
      have isKey := orderly.known key m isLast
      have old := orderly.lt_taken isKey
      exact ⟨old, key, orderly.mem_take_keys.mpr (Or.inr ⟨old, isKey⟩),
        orderly.mem_take_keys.mpr (Or.inl ⟨rfl, isWanted⟩)⟩
    · rw [take_behind_of_ne new] at isBehind
      rcases orderly.backward j m isBehind with ⟨earlier, key, isKey, isKey'⟩
      exact ⟨earlier, key, orderly.mem_take_keys.mpr (Or.inr ⟨orderly.lt_taken isKey, isKey⟩),
        orderly.mem_take_keys.mpr (Or.inr ⟨orderly.lt_taken isKey', isKey'⟩)⟩
  covered := fun key i j before isKey isKey' => by
    rw [orderly.mem_take_keys] at isKey isKey'
    rcases isKey with ⟨rfl, -⟩ | ⟨-, isKey⟩
    · rcases isKey' with ⟨rfl, -⟩ | ⟨old, -⟩
      · exact absurd before (Nat.lt_irrefl _)
      · exact absurd before old.not_gt
    · rcases isKey' with ⟨rfl, isWanted⟩ | ⟨old, isKey'⟩
      · cases isLast : chains.last key with
        | none =>
          exact Or.inl (orderly.take_phase_of_left isKey (orderly.dropped key i isLast isKey))
        | some m =>
          have isKey'' := orderly.known key m isLast
          refine Or.inr ⟨m, ?_, orderly.newest key m i isLast isKey,
            orderly.mem_take_keys.mpr (Or.inr ⟨orderly.lt_taken isKey'', isKey''⟩)⟩
          rw [take_behind_self]
          exact ⟨key, isWanted, isLast⟩
      · rcases orderly.covered key i j before isKey isKey' with gone | ⟨m, isBehind, reach, isKey''⟩
        · exact Or.inl (orderly.take_phase_of_left isKey gone)
        · refine Or.inr ⟨m, ?_, reach,
            orderly.mem_take_keys.mpr (Or.inr ⟨orderly.lt_taken isKey'', isKey''⟩)⟩
          rw [take_behind_of_ne old.ne]
          exact isBehind
  served := fun i j before shared entered => by
    rcases shared with ⟨key, isKey, isKey'⟩
    have notNew : j ≠ chains.taken := by
      rintro rfl
      exact entered take_phase_self
    rw [orderly.mem_take_keys] at isKey isKey'
    rcases isKey' with ⟨same, -⟩ | ⟨old, isKey'⟩
    · exact absurd same notNew
    · rcases isKey with ⟨rfl, -⟩ | ⟨-, isKey⟩
      · exact absurd before old.not_gt
      · rw [take_phase_of_ne notNew] at entered
        exact orderly.take_phase_of_left isKey
          (orderly.served i j before ⟨key, isKey, isKey'⟩ entered)

end Take

/-! ## Moving and dropping -/

variable {phase : Phase}

@[simp] theorem move_phase_self : (chains.move i phase).phase i = phase :=
  Function.update_self ..

theorem move_phase_of_ne {i j : Nat} (other : j ≠ i) :
    (chains.move i phase).phase j = chains.phase j :=
  Function.update_of_ne other ..

/-- A move of a ticket that has not left lets none come back. -/
theorem move_phase_of_left {i j : Nat} (here : chains.phase i ≠ .left)
    (gone : chains.phase j = .left) : (chains.move i phase).phase j = .left := by
  have other : j ≠ i := by
    rintro rfl
    exact here gone
  rw [move_phase_of_ne other]
  exact gone

/-- A ticket that enters, or has entered, finds those it waits for gone. -/
theorem Orderly.move (orderly : chains.Orderly) (here : chains.phase i ≠ .left)
    (alone : ∀ m < i, chains.Share m i → chains.phase m = .left) :
    (chains.move i phase).Orderly where
  untaken := orderly.untaken
  known := orderly.known
  newest := orderly.newest
  dropped := fun key j isNone isKey =>
    move_phase_of_left here (orderly.dropped key j isNone isKey)
  backward := orderly.backward
  covered := fun key m j before isKey isKey' =>
    (orderly.covered key m j before isKey isKey').imp_left (move_phase_of_left here)
  served := fun m j before shared entered => by
    by_cases same : j = i
    · subst same
      exact move_phase_of_left here (alone m before shared)
    · rw [move_phase_of_ne same] at entered
      exact move_phase_of_left here (orderly.served m j before shared entered)

/-- When all that a ticket waits for have left, every earlier ticket that shares a key has. -/
theorem Orderly.alone_of_free (orderly : chains.Orderly) (free : chains.Free i) :
    ∀ m < i, chains.Share m i → chains.phase m = .left := by
  rintro m before ⟨key, isKey, isKey'⟩
  rcases orderly.covered key m i before isKey isKey' with gone | ⟨next, isBehind, reach, isKey''⟩
  · exact gone
  · have left := free.2 next isBehind
    cases Nat.lt_or_eq_of_le reach with
    | inl earlier =>
      refine orderly.served m next earlier ⟨key, isKey, isKey''⟩ ?_
      rw [left]
      exact nofun
    | inr same =>
      rw [same]
      exact left

@[simp] theorem drop_last_self : (chains.drop key).last key = none :=
  if_pos rfl

theorem drop_last_of_ne {key other : Key} (distinct : other ≠ key) :
    (chains.drop key).last other = chains.last other :=
  if_neg distinct

section Orderly

variable (orderly : chains.Orderly)

include orderly

/-- When the last ticket of a key has left, all tickets of the key have. -/
theorem Orderly.left_of_last {i j : Nat} (isLast : chains.last key = some i)
    (gone : chains.phase i = .left) (isKey : key ∈ chains.keys j) : chains.phase j = .left := by
  cases Nat.lt_or_eq_of_le (orderly.newest key i j isLast isKey) with
  | inl before =>
    refine orderly.served j i before ⟨key, isKey, orderly.known key i isLast⟩ ?_
    rw [gone]
    exact nofun
  | inr same =>
    rw [same]
    exact gone

theorem Orderly.drop (isLast : chains.last key = some i) (gone : chains.phase i = .left) :
    (chains.drop key).Orderly := by
  have kept : ∀ other j, (chains.drop key).last other = some j → chains.last other = some j := by
    intro other j isLast'
    by_cases same : other = key
    · rw [same, drop_last_self] at isLast'
      cases isLast'
    · rwa [drop_last_of_ne same] at isLast'
  exact {
    untaken := orderly.untaken
    known := fun other j isLast' => orderly.known other j (kept other j isLast')
    newest := fun other j m isLast' isKey => orderly.newest other j m (kept other j isLast') isKey
    dropped := fun other j isNone isKey => by
      by_cases same : other = key
      · rw [same] at isKey
        exact orderly.left_of_last isLast gone isKey
      · rw [drop_last_of_ne same] at isNone
        exact orderly.dropped other j isNone isKey
    backward := orderly.backward
    covered := orderly.covered
    served := orderly.served }

theorem Orderly.step {next : GateChains Key} (stepped : chains.Step next) : next.Orderly := by
  cases stepped with
  | take wanted => exact orderly.take wanted
  | enter free =>
    refine orderly.move ?_ (orderly.alone_of_free free)
    rw [free.1]
    exact nofun
  | @leave i entered =>
    have here : chains.phase i ≠ .left := by
      rw [entered]
      exact nofun
    refine orderly.move here fun m before shared => orderly.served m i before shared ?_
    rw [entered]
    exact nofun
  | drop isLast gone => exact orderly.drop isLast gone

theorem Orderly.steps {next : GateChains Key}
    (ran : Relation.ReflTransGen Step chains next) : next.Orderly := by
  induction ran with
  | refl => exact orderly
  | tail _ stepped ih => exact ih.step stepped

/-- Once every earlier ticket that shares a key has left, a ticket may enter. -/
theorem Orderly.free (waiting : chains.phase i = .waiting)
    (alone : ∀ m < i, chains.Share m i → chains.phase m = .left) : chains.Free i := by
  refine ⟨waiting, ?_⟩
  intro m isBehind
  rcases orderly.backward i m isBehind with ⟨before, shared⟩
  exact alone m before shared

/-- Where one waits, one is inside or may enter. -/
theorem Orderly.moves (waiting : chains.phase i = .waiting) :
    ∃ j ≤ i, chains.phase j = .inside ∨ chains.Free j := by
  induction i using Nat.strong_induction_on with
  | h i ih =>
    by_cases free : chains.Free i
    · exact ⟨i, le_rfl, Or.inr free⟩
    · have blocked : ∃ m ∈ chains.behind i, chains.phase m ≠ .left := by
        by_contra none'
        push Not at none'
        exact free ⟨waiting, none'⟩
      rcases blocked with ⟨m, isBehind, here⟩
      have before := (orderly.backward i m isBehind).1
      cases phase : chains.phase m with
      | waiting =>
        rcases ih m before phase with ⟨j, upTo, moves⟩
        exact ⟨j, upTo.trans before.le, moves⟩
      | inside => exact ⟨m, before.le, Or.inl phase⟩
      | left => exact absurd phase here

end Orderly

/-! ## Tickets kept in a list -/

/-- How the records of a list are read as tickets. -/
structure Reading (Record Key : Type*) where
  keys : Record → Set Key
  behind : Record → Set Nat
  phase : Record → Phase

variable {Record : Type*}

def ofList (reading : Reading Record Key) (records : List Record) (last : Key → Option Nat) :
    GateChains Key where
  taken := records.length
  keys i := (records[i]?).elim ∅ reading.keys
  behind i := (records[i]?).elim ∅ reading.behind
  phase i := (records[i]?).elim .waiting reading.phase
  last := last

section OfList

variable (reading : Reading Record Key) (last : Key → Option Nat) {records : List Record}

variable {record : Record} {i : Nat}

theorem ofList_keys (found : records[i]? = some record) :
    (ofList reading records last).keys i = reading.keys record := by
  simp only [ofList, found, Option.elim_some]

theorem ofList_behind (found : records[i]? = some record) :
    (ofList reading records last).behind i = reading.behind record := by
  simp only [ofList, found, Option.elim_some]

theorem ofList_phase (found : records[i]? = some record) :
    (ofList reading records last).phase i = reading.phase record := by
  simp only [ofList, found, Option.elim_some]

theorem exists_of_ofList_keys {reading : Reading Record Key} {last : Key → Option Nat} {key : Key}
    (isKey : key ∈ (ofList reading records last).keys i) :
    ∃ record, records[i]? = some record ∧ key ∈ reading.keys record := by
  cases found : records[i]? with
  | none =>
    simp only [ofList, found, Option.elim_none] at isKey
    exact isKey.elim
  | some record =>
    rw [ofList_keys reading last found] at isKey
    exact ⟨record, rfl, isKey⟩

/-- Appending the record of a new ticket takes the ticket. -/
theorem ofList_append {last' : Key → Option Nat}
    (behind : reading.behind record = {m | ∃ key ∈ reading.keys record, last key = some m})
    (waiting : reading.phase record = .waiting)
    (taken : ∀ key ∈ reading.keys record, last' key = some records.length)
    (others : ∀ key ∉ reading.keys record, last' key = last key) :
    ofList reading (records ++ [record]) last' =
      (ofList reading records last).take (reading.keys record) := by
  have isLast : (records ++ [record])[records.length]? = some record := by simp
  have old : ∀ i ≠ records.length, (records ++ [record])[i]? = records[i]? := by
    intro i distinct
    cases Nat.lt_or_gt_of_ne distinct with
    | inl inside => rw [List.getElem?_append_left inside]
    | inr beyond =>
      rw [List.getElem?_eq_none (by simp; omega), List.getElem?_eq_none (by omega)]
  apply GateChains.ext'
  · simp [ofList, GateChains.take]
  · intro i
    by_cases new : i = records.length
    · rw [new, ofList_keys reading last' isLast]
      exact take_keys_self.symm
    · rw [take_keys_of_ne new]
      simp only [ofList, old i new]
  · intro i
    by_cases new : i = records.length
    · rw [new, ofList_behind reading last' isLast, behind]
      exact (take_behind_self (ofList reading records last) _).symm
    · rw [take_behind_of_ne new]
      simp only [ofList, old i new]
  · intro i
    by_cases new : i = records.length
    · rw [new, ofList_phase reading last' isLast, waiting]
      exact take_phase_self.symm
    · rw [take_phase_of_ne new]
      simp only [ofList, old i new]
  · intro key
    by_cases isWanted : key ∈ reading.keys record
    · rw [take_last_of_mem isWanted]
      exact taken key isWanted
    · rw [take_last_of_not_mem isWanted]
      exact others key isWanted

/-- Rewriting a record but for its keys and what it waits for moves its ticket. -/
theorem ofList_modify {change : Record → Record} (found : records[i]? = some record)
    (keys : reading.keys (change record) = reading.keys record)
    (behind : reading.behind (change record) = reading.behind record) :
    ofList reading (records.modify i change) last =
      (ofList reading records last).move i (reading.phase (change record)) := by
  have changed : (records.modify i change)[i]? = some (change record) := by
    rw [List.getElem?_modify_eq, found]
    rfl
  have old : ∀ j ≠ i, (records.modify i change)[j]? = records[j]? := by
    intro j distinct
    rw [List.getElem?_modify_ne _ _ distinct.symm]
  apply GateChains.ext'
  · exact List.length_modify ..
  · intro j
    by_cases same : j = i
    · rw [same, ofList_keys reading last changed, keys]
      exact (ofList_keys reading last found).symm
    · simp only [ofList, old j same, move]
  · intro j
    by_cases same : j = i
    · rw [same, ofList_behind reading last changed, behind]
      exact (ofList_behind reading last found).symm
    · simp only [ofList, old j same, move]
  · intro j
    by_cases same : j = i
    · rw [same, ofList_phase reading last changed]
      exact move_phase_self.symm
    · rw [move_phase_of_ne same]
      simp only [ofList, old j same]
  · intro key
    rfl

/-- Rewriting a record without a change to its ticket. -/
theorem ofList_modify_same {change : Record → Record} (found : records[i]? = some record)
    (keys : reading.keys (change record) = reading.keys record)
    (behind : reading.behind (change record) = reading.behind record)
    (phase : reading.phase (change record) = reading.phase record) :
    ofList reading (records.modify i change) last = ofList reading records last := by
  rw [ofList_modify reading last found keys behind, phase, ← ofList_phase reading last found, move,
    Function.update_eq_self]

theorem ofList_drop {key : Key} {last' : Key → Option Nat} (gone : last' key = none)
    (others : ∀ other ≠ key, last' other = last other) :
    ofList reading records last' = (ofList reading records last).drop key := by
  refine GateChains.ext' rfl (fun _ => rfl) (fun _ => rfl) (fun _ => rfl) ?_
  intro other
  by_cases same : other = key
  · rw [same, drop_last_self]
    exact gone
  · rw [drop_last_of_ne same]
    exact others other same

/-- Of two records with a key in common the earlier has left before the later enters. -/
theorem Orderly.served_records {reading : Reading Record Key} {last : Key → Option Nat}
    (orderly : (ofList reading records last).Orderly) {i j : Nat}
    {first second : Record} (before : i < j) (isFirst : records[i]? = some first)
    (isSecond : records[j]? = some second) {key : Key} (isKey : key ∈ reading.keys first)
    (isKey' : key ∈ reading.keys second) (entered : reading.phase second ≠ .waiting) :
    reading.phase first = .left := by
  rw [← ofList_phase reading last isFirst]
  rw [← ofList_phase reading last isSecond] at entered
  refine orderly.served i j before ⟨key, ?_, ?_⟩ entered
  · rw [ofList_keys reading last isFirst]
    exact isKey
  · rw [ofList_keys reading last isSecond]
    exact isKey'

end OfList

end GateChains

end Nightgate.Library
