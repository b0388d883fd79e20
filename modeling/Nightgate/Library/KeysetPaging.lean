import Mathlib.Data.Finset.Card
import Mathlib.Data.List.Sort

/-!
# Paging by key over rows that change

A page holds the first rows, by key, behind a cursor; the cursor moves to the last key of the
page, and at the end the first page comes again. The rows may be others at each call. A row that
is there throughout is met before a call has come for each of the other rows, because as long as
it is not met, every call brings rows that no call before has brought.
-/

namespace Nightgate.Library.Keyset

variable {Row Key : Type*} [LinearOrder Key] (key : Row → Key)

/-- `WHERE key > after ORDER BY key LIMIT limit`. -/
def select (limit : Nat) (rows : List Row) (after : Option Key) : List Row :=
  ((rows.filter fun row => after.all (· < key row)).insertionSort
    fun a b => key a ≤ key b).take limit

/-- The next page and the next cursor. At the end, the first page. -/
def scan (limit : Nat) (rows : List Row) (cursor : Option Key) : List Row × Option Key :=
  let page := select key limit rows cursor
  let page := if page = [] ∧ cursor.isSome then select key limit rows none else page
  (page, page.getLast?.map key)

variable {key} {limit : Nat} {rows : List Row} {cursor : Option Key}

/-- A row lies behind the cursor. -/
def Behind (cursor : Option Key) (at' : Key) : Prop := ∀ after ∈ cursor, after < at'

theorem behind_some {after at' : Key} (before : after < at') : Behind (some after) at' := by
  rintro _ ⟨⟩
  exact before

variable {row : Row}

theorem mem_eligible :
    row ∈ rows.filter (fun row => cursor.all (· < key row)) ↔
      row ∈ rows ∧ Behind cursor (key row) := by
  cases cursor with
  | none | some => simp [Behind]

theorem select_sublist :
    (select key limit rows cursor).Sublist
      ((rows.filter fun row => cursor.all (· < key row)).insertionSort fun a b => key a ≤ key b) :=
  List.take_sublist _ _

theorem of_mem_select (listed : row ∈ select key limit rows cursor) :
    row ∈ rows ∧ Behind cursor (key row) :=
  mem_eligible.mp (List.mem_insertionSort _ |>.mp (select_sublist.subset listed))

theorem sorted_eligible (cursor : Option Key) (rows : List Row) :
    ((rows.filter fun row => cursor.all (· < key row)).insertionSort
      fun a b => key a ≤ key b).Pairwise fun a b => key a ≤ key b := by
  have total : Std.Total fun a b : Row => key a ≤ key b := ⟨fun a b => le_total (key a) (key b)⟩
  have trans : IsTrans Row fun a b => key a ≤ key b := ⟨fun _ _ _ => le_trans⟩
  exact List.pairwise_insertionSort _ _

/-- The keys of a page ascend. -/
theorem select_ascending (distinct : (rows.map key).Nodup) :
    ((select key limit rows cursor).map key).Pairwise (· < ·) := by
  have sorted : ((select key limit rows cursor).map key).Pairwise (· ≤ ·) :=
    List.pairwise_map.mpr ((sorted_eligible cursor rows).sublist select_sublist)
  have once : ((select key limit rows cursor).map key).Nodup := by
    refine (select_sublist.map key).nodup ?_
    refine (((List.perm_insertionSort _ _).map key).nodup_iff).mpr ?_
    exact (List.filter_sublist.map key).nodup distinct
  exact (sorted.and once).imp fun both => lt_of_le_of_ne both.1 both.2

/-- A row behind the cursor that the page leaves out comes after all of the page, and the page is
not empty. -/
theorem of_not_mem_select (positive : 0 < limit) (isRow : row ∈ rows)
    (behind : Behind cursor (key row)) (absent : row ∉ select key limit rows cursor) :
    select key limit rows cursor ≠ [] ∧
      ∀ other ∈ select key limit rows cursor, key other ≤ key row := by
  have listed := (List.mem_insertionSort fun a b => key a ≤ key b).mpr
    (mem_eligible.mpr ⟨isRow, behind⟩)
  have sorted : ((rows.filter fun row => cursor.all (· < key row)).insertionSort
      fun a b => key a ≤ key b).Pairwise fun a b => key a ≤ key b := sorted_eligible cursor rows
  rw [← List.take_append_drop limit (List.insertionSort _ _)] at listed sorted
  have rest : row ∈ ((rows.filter fun row => cursor.all (· < key row)).insertionSort
      fun a b => key a ≤ key b).drop limit := by
    cases List.mem_append.mp listed with
    | inl taken => exact absurd taken absent
    | inr dropped => exact dropped
  constructor
  · intro isEmpty
    rw [select, List.take_eq_nil_iff] at isEmpty
    cases isEmpty with
    | inl zero => exact absurd zero positive.ne'
    | inr nothing =>
      rw [nothing, List.drop_nil] at rest
      cases rest
  · intro other isOther
    exact (List.pairwise_append.mp sorted).2.2 other isOther row rest

theorem scan_of_select_ne (found : select key limit rows cursor ≠ []) :
    (scan key limit rows cursor).1 = select key limit rows cursor := by
  rw [scan]
  exact if_neg fun both => found both.1

theorem scan_of_select_eq {after : Key} (nothing : select key limit rows (some after) = []) :
    (scan key limit rows (some after)).1 = select key limit rows none := by
  rw [scan]
  exact if_pos ⟨nothing, rfl⟩

theorem mem_of_mem_scan (listed : row ∈ (scan key limit rows cursor).1) :
    row ∈ rows := by
  rw [scan] at listed
  split at listed
  · exact (of_mem_select listed).1
  · exact (of_mem_select listed).1

theorem scan_cursor :
    (scan key limit rows cursor).2 = (scan key limit rows cursor).1.getLast?.map key :=
  rfl

theorem scan_ascending (distinct : (rows.map key).Nodup) :
    ((scan key limit rows cursor).1.map key).Pairwise (· < ·) := by
  rw [scan]
  split
  · exact select_ascending distinct
  · exact select_ascending distinct

/-- The cursor moves to the greatest key of the page. -/
theorem exists_cursor (distinct : (rows.map key).Nodup)
    (found : (scan key limit rows cursor).1 ≠ []) :
    ∃ last ∈ (scan key limit rows cursor).1, (scan key limit rows cursor).2 = some (key last) ∧
      ∀ row ∈ (scan key limit rows cursor).1, key row ≤ key last := by
  cases isLast : (scan key limit rows cursor).1.getLast? with
  | none => exact absurd (List.getLast?_eq_none_iff.mp isLast) found
  | some last =>
    have ascending : ((scan key limit rows cursor).1.map key).Pairwise (· < ·) :=
      scan_ascending distinct
    rcases List.getLast?_eq_some_iff.mp isLast with ⟨before, isPage⟩
    rw [scan_cursor, isLast]
    rw [isPage] at ascending ⊢
    refine ⟨last, List.mem_concat_self, rfl, ?_⟩
    intro row listed
    rw [List.map_append, List.pairwise_append] at ascending
    cases List.mem_append.mp listed with
    | inl earlier =>
      exact (ascending.2.2 _ (List.mem_map_of_mem earlier) _ (List.mem_singleton_self _)).le
    | inr isLast =>
      rw [List.mem_singleton.mp isLast]

/-! ## Many calls -/

/-- The cursor and the keys brought so far, while the target was not: either the scan has not come
round to the target yet, or all it brought since it did lies before the target. -/
inductive Missed (target : Key) : Option Key → List Key → Prop
  | ahead {after : Key} {brought : List Key} (beyond : target ≤ after)
      (within : ∀ k ∈ brought, target < k ∧ k ≤ after) (once : brought.Nodup) :
      Missed target (some after) brought
  | behind {cursor : Option Key} {brought : List Key} (isBehind : Behind cursor target)
      (within : ∀ k ∈ brought, target < k ∨ ∃ after ∈ cursor, k ≤ after) (once : brought.Nodup) :
      Missed target cursor brought

theorem Missed.once {target : Key} {brought : List Key} (missed : Missed target cursor brought) :
    brought.Nodup := by
  cases missed with
  | ahead _ _ once => exact once
  | behind _ _ once => exact once

theorem keys_before {page : List Row} (upTo : ∀ other ∈ page, key other ≤ key row)
    (absent : key row ∉ page.map key) : ∀ k ∈ page.map key, k < key row := by
  intro k listed
  rcases List.mem_map.mp listed with ⟨other, isOther, rfl⟩
  refine lt_of_le_of_ne (upTo other isOther) ?_
  rintro same
  rw [← same] at absent
  exact absent listed

theorem keys_behind {after : Key} :
    ∀ k ∈ (select key limit rows (some after)).map key, after < k := by
  intro k listed
  rcases List.mem_map.mp listed with ⟨other, isOther, rfl⟩
  exact (of_mem_select isOther).2 after rfl

theorem nodup_append_of_lt {brought page : List Key} (once : brought.Nodup)
    (ascending : page.Pairwise (· < ·)) (apart : ∀ k ∈ brought, k ∉ page) :
    (brought ++ page).Nodup := by
  rw [List.nodup_append]
  refine ⟨once, ascending.imp ne_of_lt, ?_⟩
  rintro k isBrought other isNew rfl
  exact apart k isBrought isNew

/-- A call that misses the target again brings something, and nothing for the second time. -/
theorem Missed.scan (positive : 0 < limit) {brought : List Key}
    (missed : Missed (key row) cursor brought) (isRow : row ∈ rows)
    (distinct : (rows.map key).Nodup) (absent : key row ∉ (scan key limit rows cursor).1.map key) :
    (Keyset.scan key limit rows cursor).1 ≠ [] ∧
      Missed (key row) (Keyset.scan key limit rows cursor).2
        (brought ++ (Keyset.scan key limit rows cursor).1.map key) := by
  have ascending : ((Keyset.scan key limit rows cursor).1.map key).Pairwise (· < ·) :=
    scan_ascending distinct
  cases missed with
  | @ahead after _ beyond within once =>
    by_cases nothing : select key limit rows (some after) = []
    · -- the scan comes round
      have isPage := scan_of_select_eq nothing
      rw [isPage] at absent ascending
      have missing : row ∉ select key limit rows none := fun listed =>
        absent (List.mem_map_of_mem listed)
      rcases of_not_mem_select positive isRow nofun missing with ⟨found, upTo⟩
      have before := keys_before upTo absent
      rcases exists_cursor distinct (isPage ▸ found) with ⟨last, isLast, isCursor, most⟩
      rw [isCursor]
      rw [isPage] at isLast most ⊢
      refine ⟨found, .behind (behind_some (before _ (List.mem_map_of_mem isLast))) ?_ ?_⟩
      · intro k listed
        cases List.mem_append.mp listed with
        | inl isBrought => exact Or.inl (within k isBrought).1
        | inr isNew =>
          rcases List.mem_map.mp isNew with ⟨other, isOther, rfl⟩
          exact Or.inr ⟨key last, rfl, most other isOther⟩
      · refine nodup_append_of_lt once ascending ?_
        intro k isBrought isNew
        exact lt_asymm (within k isBrought).1 (before k isNew)
    · have isPage := scan_of_select_ne nothing
      rcases exists_cursor distinct (isPage ▸ nothing) with ⟨last, isLast, isCursor, most⟩
      rw [isCursor]
      rw [isPage] at isLast most ascending ⊢
      have passed := keys_behind _ (List.mem_map_of_mem isLast)
      refine ⟨nothing, .ahead (beyond.trans passed.le) ?_ ?_⟩
      · intro k listed
        cases List.mem_append.mp listed with
        | inl isBrought =>
          rcases within k isBrought with ⟨beyond, upTo⟩
          exact ⟨beyond, upTo.trans passed.le⟩
        | inr isNew =>
          have new := keys_behind k isNew
          rcases List.mem_map.mp isNew with ⟨other, isOther, rfl⟩
          exact ⟨lt_of_le_of_lt beyond new, most other isOther⟩
      · refine nodup_append_of_lt once ascending ?_
        intro k isBrought isNew
        exact not_lt_of_ge (within k isBrought).2 (keys_behind k isNew)
  | behind isBehind within once =>
    by_cases missing : row ∈ select key limit rows cursor
    · have isPage := scan_of_select_ne (List.ne_nil_of_mem missing)
      rw [isPage] at absent
      exact absurd (List.mem_map_of_mem missing) absent
    · rcases of_not_mem_select positive isRow isBehind missing with ⟨found, upTo⟩
      have isPage := scan_of_select_ne found
      rcases exists_cursor distinct (isPage ▸ found) with ⟨last, isLast, isCursor, most⟩
      rw [isCursor]
      rw [isPage] at isLast most ascending absent ⊢
      have before := keys_before upTo absent
      have passed : ∀ after ∈ cursor, ∀ other ∈ select key limit rows cursor,
          after < key other := fun after isAfter other isOther =>
        (of_mem_select isOther).2 after isAfter
      refine ⟨found, .behind (behind_some (before _ (List.mem_map_of_mem isLast))) ?_ ?_⟩
      · intro k listed
        cases List.mem_append.mp listed with
        | inl isBrought =>
          rcases within k isBrought with beyond | ⟨after, isAfter, upTo⟩
          · exact Or.inl beyond
          · exact Or.inr ⟨key last, rfl, upTo.trans (passed after isAfter last isLast).le⟩
        | inr isNew =>
          rcases List.mem_map.mp isNew with ⟨other, isOther, rfl⟩
          exact Or.inr ⟨key last, rfl, most other isOther⟩
      · refine nodup_append_of_lt once ascending ?_
        intro k isBrought isNew
        rcases within k isBrought with beyond | ⟨after, isAfter, upTo⟩
        · exact lt_asymm beyond (before k isNew)
        · rcases List.mem_map.mp isNew with ⟨other, isOther, rfl⟩
          exact not_lt_of_ge upTo (passed after isAfter other isOther)

section Calls

variable (key limit) (tables : Nat → List Row) (start : Option Key)

/-- The cursor before a call, where each call finds the rows of its own time. -/
def cursorAt : Nat → Option Key
  | 0 => start
  | n + 1 => (scan key limit (tables n) (cursorAt n)).2

def pageAt (n : Nat) : List Row := (scan key limit (tables n) (cursorAt key limit tables start n)).1

/-- The keys that the first calls brought. -/
def brought : Nat → List Key
  | 0 => []
  | n + 1 => brought n ++ (pageAt key limit tables start n).map key

/-- The keys of the other rows that are there at one of the first calls. -/
def others (target : Key) (n : Nat) : Finset Key :=
  (((List.range n).flatMap fun i => (tables i).map key).toFinset).erase target

end Calls

variable {tables : Nat → List Row} {start : Option Key} {target : Key}

theorem missed_start : Missed target start [] := by
  by_cases isBehind : Behind start target
  · exact .behind isBehind nofun List.nodup_nil
  · rw [Behind] at isBehind
    push Not at isBehind
    rcases isBehind with ⟨after, rfl, beyond⟩
    exact .ahead beyond nofun List.nodup_nil

variable {n : Nat}

/-- A target missed by the first calls: each of them brought something new. -/
theorem missed_calls (positive : 0 < limit) (distinct : ∀ i < n, ((tables i).map key).Nodup)
    (stays : ∀ i < n, target ∈ (tables i).map key)
    (absent : ∀ i < n, target ∉ (pageAt key limit tables start i).map key) :
    Missed target (cursorAt key limit tables start n) (brought key limit tables start n) ∧
      n ≤ (brought key limit tables start n).length := by
  induction n with
  | zero => exact ⟨missed_start, le_rfl⟩
  | succ n ih =>
    rcases ih (fun i before => distinct i (before.trans n.lt_succ_self))
      (fun i before => stays i (before.trans n.lt_succ_self))
      (fun i before => absent i (before.trans n.lt_succ_self)) with ⟨missed, many⟩
    rcases List.mem_map.mp (stays n n.lt_succ_self) with ⟨row, isRow, rfl⟩
    rcases missed.scan positive isRow (distinct n n.lt_succ_self) (absent n n.lt_succ_self)
      with ⟨found, missed⟩
    refine ⟨missed, ?_⟩
    rw [brought, List.length_append, List.length_map]
    exact Nat.add_le_add many (List.length_pos_iff.mpr found)

theorem exists_page_of_brought {k : Key} (isBrought : k ∈ brought key limit tables start n) :
    ∃ i < n, k ∈ (pageAt key limit tables start i).map key := by
  induction n with
  | zero => cases isBrought
  | succ n ih =>
    cases List.mem_append.mp isBrought with
    | inl earlier =>
      rcases ih earlier with ⟨i, before, listed⟩
      exact ⟨i, before.trans n.lt_succ_self, listed⟩
    | inr listed => exact ⟨n, n.lt_succ_self, listed⟩

theorem mem_others_of_brought
    (absent : ∀ i < n, target ∉ (pageAt key limit tables start i).map key) {k : Key}
    (isBrought : k ∈ brought key limit tables start n) : k ∈ others key tables target n := by
  rcases exists_page_of_brought isBrought with ⟨i, before, listed⟩
  rw [others, Finset.mem_erase, List.mem_toFinset, List.mem_flatMap]
  constructor
  · rintro rfl
    exact absent i before listed
  · rcases List.mem_map.mp listed with ⟨row, isRow, rfl⟩
    exact ⟨i, List.mem_range.mpr before, List.mem_map_of_mem (mem_of_mem_scan isRow)⟩

/-- A row that is there at each of the first calls is met by one of them, when there are more
calls than other rows. -/
theorem met_of_few_others (positive : 0 < limit) (distinct : ∀ i < n, ((tables i).map key).Nodup)
    (stays : ∀ i < n, target ∈ (tables i).map key) (few : (others key tables target n).card < n) :
    ∃ i < n, target ∈ (pageAt key limit tables start i).map key := by
  by_contra absent
  push Not at absent
  rcases missed_calls positive distinct stays absent with ⟨missed, many⟩
  have card : (brought key limit tables start n).toFinset.card =
      (brought key limit tables start n).length := List.toFinset_card_of_nodup missed.once
  have within := Finset.card_le_card fun k listed =>
    mem_others_of_brought absent (List.mem_toFinset.mp listed)
  omega

end Nightgate.Library.Keyset
