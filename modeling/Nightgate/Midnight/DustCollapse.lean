import Nightgate.Midnight.SponsorShape

/-!
# Collapsing the dust tree of other wallets

A saved dust state holds the entries of every wallet's NIGHT. The positions of the wallet's own
entries are read from the printed form of the state, and every range between them is collapsed.
What is collapsed cannot be brought back.
-/

namespace Nightgate.Midnight

open Library Nightgate.Submission

/-- The wallet's own NIGHT (hex) and its position in the tree. -/
structure OwnGeneration where
  firstFree : Int
  nightIndices : InsertionMap String Int

/-- The rest of a text from the first place where the literal stands. -/
def fromLiteral (literal : List Char) : List Char → Option (List Char)
  | [] => if literal = [] then some [] else none
  | c :: rest =>
    if literal.isPrefixOf (c :: rest) then some (c :: rest) else fromLiteral literal rest

/-- `[0-9a-f]`. -/
def isLowerHex (c : Char) : Bool := ('0' ≤ c && c ≤ '9') || ('a' ≤ c && c ≤ 'f')

/-- `/InitialNonce\(([0-9a-f]+)\):\s*(\d+)/` at one place: the two groups, and what follows. -/
def nightEntry (text : List Char) : Option ((String × Int) × List Char) :=
  if "InitialNonce(".toList.isPrefixOf text then
    let afterMark := text.drop "InitialNonce(".length
    let night := afterMark.takeWhile isLowerHex
    let afterNight := afterMark.drop night.length
    if night ≠ [] ∧ "):".toList.isPrefixOf afterNight then
      let number := (afterNight.drop 2).dropWhile Regex.isSpace
      let digits := number.takeWhile Regex.isDigit
      if digits = [] then none
      else some ((String.ofList night, decimalValue digits), number.drop digits.length)
    else none
  else none

/-- `matchAll`; the fuel is the length of the text. -/
def nightEntries : Nat → List Char → List (String × Int)
  | 0, _ | _, [] => []
  | fuel + 1, c :: rest =>
    match nightEntry (c :: rest) with
    | some (entry, rest) => entry :: nightEntries fuel rest
    | none => nightEntries fuel rest

/-- Reads `generating_tree_first_free` and `night_indices`. -/
def parseOwnGeneration (text : String) : Option OwnGeneration :=
  let firstFree := Regex.capture
    (.inOrder [.text "generating_tree_first_free:", .many Regex.isSpace]) Regex.isDigit text
  match firstFree, fromLiteral "night_indices:".toList text.toList with
  | some firstFree, some listed =>
    if '}' ∈ listed then
      let section' := listed.takeWhile (· ≠ '}')
      some ⟨decimalValue firstFree.toList,
        InsertionMap.empty.setAll (nightEntries section'.length section')⟩
    else none
  | _, _ => none

/-- The loop of `foreignRanges`: a range before each index that lies beyond `next`. -/
def rangesBefore (next : Int) : List Int → List (Int × Int)
  | [] => []
  | i :: rest => (if next < i then [(next, i - 1)] else []) ++ rangesBefore (i + 1) rest

/-- The kept indices below `firstFree`, ascending, each once. -/
def keptBelow (keep : List Int) (firstFree : Int) : List Int :=
  (keep.eraseDups.filter fun i => 0 ≤ i && i < firstFree).insertionSort (· ≤ ·)

/-- Index ranges below `firstFree` that contain none of `keep`. Both ends are included. -/
def foreignRanges (keep : List Int) (firstFree : Int) : List (Int × Int) :=
  rangesBefore 0 (keptBelow keep firstFree ++ [firstFree])

/-- `DustLocalState` of the ledger. -/
structure DustLocalState (State : Type) where
  toString : State → String
  backingNights : State → List String
  collapseGenerationTree : State → Int × Int → Except String State

/-- `replace(/^0x/, '').toLowerCase()`. -/
def nightKey (backingNight : String) : String :=
  String.ofList ((match backingNight.toList with
    | '0' :: 'x' :: rest => rest
    | text => text).map toLowerCase)

structure Collapsed (State : Type) where
  state : State
  ranges : Nat
  ownLeaves : Nat
  deriving DecidableEq

variable {State : Type}

/-- Collapses every entry of other wallets, unless one of the wallet's own dust has no entry. -/
def collapseForeignGeneration (ledger : DustLocalState State) (state : State) :
    Except String (Collapsed State) := do
  match parseOwnGeneration (ledger.toString state) with
  | none => throw "dust state string form has no generating_tree_first_free / night_indices"
  | some own =>
    (ledger.backingNights state).forM fun backingNight =>
      let night := nightKey backingNight
      if (own.nightIndices.get? night).isNone then
        throw ("own dust UTXO backing night " ++ sliceText night 16 ++
          " missing from night_indices")
      else pure ()
    let ranges := foreignRanges (own.nightIndices.entries.map Prod.snd) own.firstFree
    let out ← ranges.foldlM ledger.collapseGenerationTree state
    return ⟨out, ranges.length, own.nightIndices.size⟩

/-- Ascending indices, none before `next`. -/
def AscendingFrom (next : Int) (points : List Int) : Prop :=
  points.Pairwise (· < ·) ∧ ∀ i ∈ points, next ≤ i

theorem ascendingFrom_cons {next i : Int} {rest : List Int}
    (ascending : AscendingFrom next (i :: rest)) : next ≤ i ∧ AscendingFrom (i + 1) rest := by
  rcases ascending with ⟨ordered, later⟩
  rcases List.pairwise_cons.mp ordered with ⟨below, ordered⟩
  exact ⟨later i (List.mem_cons_self ..), ordered, fun j listed => below j listed⟩

/-- An index lies in one of the ranges. -/
def Covered (ranges : List (Int × Int)) (i : Int) : Prop :=
  ∃ range ∈ ranges, range.1 ≤ i ∧ i ≤ range.2

theorem covered_append {before after : List (Int × Int)} {i : Int} :
    Covered (before ++ after) i ↔ Covered before i ∨ Covered after i := by
  simp only [Covered, List.mem_append, or_and_right, exists_or]

theorem covered_gap {next i j : Int} :
    Covered (if next < i then [(next, i - 1)] else []) j ↔ next ≤ j ∧ j < i := by
  split
  · simp only [Covered, List.mem_singleton, exists_eq_left, Int.le_sub_one_iff]
  next nothing =>
    simp only [Covered, List.not_mem_nil, false_and, exists_false, false_iff, not_and]
    omega

/-- No range starts before `next`, and none is empty. -/
theorem rangesBefore_bounds {next : Int} {points : List Int}
    (ascending : AscendingFrom next points) :
    ∀ range ∈ rangesBefore next points, next ≤ range.1 ∧ range.1 ≤ range.2 := by
  induction points generalizing next with
  | nil =>
    intro range listed
    cases listed
  | cons i rest ih =>
    intro range listed
    rcases ascendingFrom_cons ascending with ⟨reached, ascending⟩
    cases List.mem_append.mp listed with
    | inl isGap =>
      split at isGap
      next gap =>
        cases List.mem_singleton.mp isGap
        exact ⟨le_rfl, Int.le_sub_one_of_lt gap⟩
      · cases isGap
    | inr later =>
      rcases ih ascending range later with ⟨starts, nonempty⟩
      exact ⟨by omega, nonempty⟩

/-- A range ends two before the next one starts: the index between them is kept. -/
theorem rangesBefore_apart {next : Int} {points : List Int}
    (ascending : AscendingFrom next points) :
    (rangesBefore next points).Pairwise fun a b => a.2 + 1 < b.1 := by
  induction points generalizing next with
  | nil => exact .nil
  | cons i rest ih =>
    rcases ascendingFrom_cons ascending with ⟨-, ascending⟩
    rw [rangesBefore, List.pairwise_append]
    refine ⟨?_, ih ascending, ?_⟩
    · split
      · exact List.pairwise_singleton ..
      · exact .nil
    · intro range isGap later listed
      have starts := (rangesBefore_bounds ascending later listed).1
      split at isGap
      · cases List.mem_singleton.mp isGap
        simp only
        omega
      · cases isGap

/-- The ranges cover what lies before some index and is none of them. -/
theorem covered_rangesBefore {next : Int} {points : List Int}
    (ascending : AscendingFrom next points) (j : Int) :
    Covered (rangesBefore next points) j ↔ next ≤ j ∧ j ∉ points ∧ ∃ i ∈ points, j < i := by
  induction points generalizing next with
  | nil => simp [Covered, rangesBefore]
  | cons i rest ih =>
    rcases ascendingFrom_cons ascending with ⟨reached, ascending⟩
    have later : ∀ k ∈ rest, i + 1 ≤ k := ascending.2
    rw [rangesBefore, covered_append, covered_gap, ih ascending]
    constructor
    · rintro (⟨started, before⟩ | ⟨started, absent, k, listed, before⟩)
      · refine ⟨started, ?_, i, List.mem_cons_self .., before⟩
        intro listed
        cases List.mem_cons.mp listed with
        | inl same => omega
        | inr listed =>
          have := later j listed
          omega
      · refine ⟨by omega, ?_, k, List.mem_cons_of_mem _ listed, before⟩
        intro isPoint
        cases List.mem_cons.mp isPoint with
        | inl same => omega
        | inr listed => exact absent listed
    · rintro ⟨started, absent, k, listed, before⟩
      rw [List.mem_cons, not_or] at absent
      cases lt_or_ge j i with
      | inl before => exact Or.inl ⟨started, before⟩
      | inr reached =>
        refine Or.inr ⟨by omega, absent.2, k, ?_, before⟩
        cases List.mem_cons.mp listed with
        | inl same => omega
        | inr listed => exact listed

/-! ## The kept indices -/

theorem nodup_eraseDups {Value : Type} [DecidableEq Value] :
    ∀ values : List Value, values.eraseDups.Nodup
  | [] => by
      rw [List.eraseDups_nil]
      exact List.nodup_nil
  | value :: rest => by
      have shorter : (rest.filter fun other => !other == value).length < rest.length + 1 :=
        Nat.lt_succ_of_le (List.length_filter_le ..)
      rw [List.eraseDups_cons, List.nodup_cons]
      refine ⟨?_, nodup_eraseDups _⟩
      intro listed
      have kept := List.of_mem_filter (List.mem_eraseDups.mp listed)
      simp at kept
termination_by values => values.length

theorem mem_keptBelow {keep : List Int} {firstFree i : Int} :
    i ∈ keptBelow keep firstFree ↔ i ∈ keep ∧ 0 ≤ i ∧ i < firstFree := by
  simp only [keptBelow, List.mem_insertionSort, List.mem_filter, List.mem_eraseDups,
    Bool.and_eq_true, decide_eq_true_eq]

theorem keptBelow_ascending (keep : List Int) (firstFree : Int) :
    (keptBelow keep firstFree).Pairwise (· < ·) := by
  have ordered : (keptBelow keep firstFree).Pairwise (· ≤ ·) :=
    List.pairwise_insertionSort _ _
  have once : (keptBelow keep firstFree).Nodup :=
    (List.perm_insertionSort ..).nodup_iff.mpr ((nodup_eraseDups keep).filter _)
  exact (ordered.and once).imp fun both => lt_of_le_of_ne both.1 both.2

/-- What the scan goes over, unless there is no index at all. -/
theorem scanned_ascendingFrom (keep : List Int) {firstFree : Int} (some' : 0 ≤ firstFree) :
    AscendingFrom 0 (keptBelow keep firstFree ++ [firstFree]) := by
  constructor
  · rw [List.pairwise_append]
    refine ⟨keptBelow_ascending .., List.pairwise_singleton .., ?_⟩
    intro i listed last isLast
    cases List.mem_singleton.mp isLast
    exact (mem_keptBelow.mp listed).2.2
  · intro i listed
    cases List.mem_append.mp listed with
    | inl listed => exact (mem_keptBelow.mp listed).2.1
    | inr isLast =>
      cases List.mem_singleton.mp isLast
      exact some'

theorem foreignRanges_of_neg {keep : List Int} {firstFree : Int} (none' : firstFree < 0) :
    foreignRanges keep firstFree = [] := by
  have nothing : keptBelow keep firstFree = [] := by
    rw [List.eq_nil_iff_forall_not_mem]
    intro i listed
    rcases mem_keptBelow.mp listed with ⟨-, started, before⟩
    omega
  rw [foreignRanges, nothing, List.nil_append, rangesBefore, if_neg (by omega)]
  rfl

/-- Ranges that are exactly the indices below `firstFree` outside `keep`. -/
structure AreForeign (keep : List Int) (firstFree : Int) (ranges : List (Int × Int)) : Prop where
  nonempty : ∀ range ∈ ranges, range.1 ≤ range.2
  apart : ranges.Pairwise fun a b => a.2 + 1 < b.1
  covers : ∀ i, Covered ranges i ↔ 0 ≤ i ∧ i < firstFree ∧ i ∉ keep

theorem foreignRanges_areForeign (keep : List Int) (firstFree : Int) :
    AreForeign keep firstFree (foreignRanges keep firstFree) := by
  cases lt_or_ge firstFree 0 with
  | inl none' =>
    rw [foreignRanges_of_neg none']
    exact {
      nonempty := fun range listed => absurd listed List.not_mem_nil
      apart := .nil
      covers := fun i => by
        simp only [Covered, List.not_mem_nil, false_and, exists_false, false_iff]
        omega }
  | inr some' =>
    have ascending := scanned_ascendingFrom keep some'
    refine {
      nonempty := fun range listed => (rangesBefore_bounds ascending range listed).2
      apart := rangesBefore_apart ascending
      covers := fun i => ?_ }
    rw [foreignRanges, covered_rangesBefore ascending]
    simp only [List.mem_append, List.mem_singleton, not_or, mem_keptBelow]
    constructor
    · rintro ⟨started, ⟨absent, -⟩, last, listed, before⟩
      have below : i < firstFree := by
        rcases listed with ⟨-, -, below⟩ | rfl
        · omega
        · exact before
      exact ⟨started, below, fun kept => absent ⟨kept, started, below⟩⟩
    · rintro ⟨started, below, absent⟩
      exact ⟨started, ⟨fun kept => absent kept.1, by omega⟩, firstFree, Or.inr rfl, below⟩

/-- The ledger collapsed these ranges, one after the other. -/
inductive Collapses (ledger : DustLocalState State) : State → List (Int × Int) → State → Prop
  | nothing (state : State) : Collapses ledger state [] state
  | next {state state' final : State} {range : Int × Int} {later : List (Int × Int)}
      (ran : ledger.collapseGenerationTree state range = .ok state')
      (rest : Collapses ledger state' later final) : Collapses ledger state (range :: later) final

theorem Collapses.of_foldlM {ledger : DustLocalState State} {ranges : List (Int × Int)}
    {state final : State} (ran : ranges.foldlM ledger.collapseGenerationTree state = .ok final) :
    Collapses ledger state ranges final := by
  induction ranges generalizing state with
  | nil =>
    cases ran
    exact .nothing _
  | cons range later ih =>
    rw [List.foldlM_cons] at ran
    rcases of_bind_ok ran with ⟨next, collapsed, ran⟩
    exact .next collapsed (ih ran)

/-- The own leaves, by the printed state. -/
def OwnGeneration.ownIndices (own : OwnGeneration) : List Int :=
  own.nightIndices.entries.map Prod.snd

/-- A collapse covers the leaves of other wallets and none of the wallet's own. -/
structure CollapsesForeign (ledger : DustLocalState State) (state : State)
    (out : Collapsed State) (own : OwnGeneration) (ranges : List (Int × Int)) : Prop where
  printed : parseOwnGeneration (ledger.toString state) = some own
  collapses : Collapses ledger state ranges out.state
  counted : out.ranges = ranges.length ∧ out.ownLeaves = own.ownIndices.length
  foreign : AreForeign own.ownIndices own.firstFree ranges
  spendable : ∀ backingNight ∈ ledger.backingNights state,
    ∃ i, own.nightIndices.get? (nightKey backingNight) = some i ∧ ¬ Covered ranges i

theorem collapseForeignGeneration_foreign {ledger : DustLocalState State} {state : State}
    {out : Collapsed State} (ran : collapseForeignGeneration ledger state = .ok out) :
    ∃ own ranges, CollapsesForeign ledger state out own ranges := by
  rw [collapseForeignGeneration] at ran
  cases parsed : parseOwnGeneration (ledger.toString state) with
  | none =>
    rw [parsed] at ran
    cases ran
  | some own =>
    rw [parsed] at ran
    simp only at ran
    rcases of_bind_ok ran with ⟨⟨⟩, checked, ran⟩
    rcases of_bind_ok ran with ⟨final, collapsed, ran⟩
    cases ran
    have foreign := foreignRanges_areForeign own.ownIndices own.firstFree
    refine ⟨own, _, parsed, .of_foldlM collapsed, ⟨rfl, (List.length_map ..).symm⟩, foreign, ?_⟩
    intro backingNight listed
    have known := forall_of_forM_ok checked backingNight listed
    cases found : own.nightIndices.get? (nightKey backingNight) with
    | none => simp [found, throw, throwThe, MonadExceptOf.throw] at known
    | some i =>
      refine ⟨i, rfl, ?_⟩
      intro covered
      have isOwn : i ∈ own.ownIndices :=
        List.mem_map.mpr ⟨_, InsertionMap.get?_eq_some_iff.mp found, rfl⟩
      exact ((foreign.covers i).mp covered).2.2 isOwn

/-- For every list of kept indices the ranges are the gaps between them, and a collapse goes over
exactly these. -/
theorem collapse_leaves_own (State : Type) (ledger : DustLocalState State) :
    (∀ keep firstFree, AreForeign keep firstFree (foreignRanges keep firstFree)) ∧
      ∀ state out, collapseForeignGeneration ledger state = .ok out →
        ∃ own ranges, CollapsesForeign ledger state out own ranges :=
  ⟨foreignRanges_areForeign, fun _ _ ran => collapseForeignGeneration_foreign ran⟩

/-- A ledger that notes what it collapsed. -/
def notingLedger : DustLocalState (List (Int × Int)) where
  toString _ :=
    "generating_tree_first_free: 6, night_indices: {InitialNonce(ab): 3, InitialNonce(0c): 0}"
  backingNights _ := ["0xAB"]
  collapseGenerationTree collapsed range := .ok (collapsed ++ [range])

theorem collapse_leaves_own_noting :
    ∃ own ranges, CollapsesForeign notingLedger [] ⟨[(1, 2), (4, 5)], 2, 2⟩ own ranges :=
  (collapse_leaves_own _ notingLedger).2 [] ⟨[(1, 2), (4, 5)], 2, 2⟩ (by decide +kernel)

end Nightgate.Midnight
