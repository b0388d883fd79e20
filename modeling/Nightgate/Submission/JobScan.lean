import Nightgate.Library.KeysetPaging
import Nightgate.Submission.LandedRows
import Mathlib.Data.String.Basic

/-!
# Scanning jobs page by page

The reconciliation passes read the jobs they may settle one page a time, by ID behind a cursor, and
start over at the end. Between two calls jobs come, change and go. The end is reached only when no
matching job is left behind the cursor, so jobs that keep coming there keep the scan from the
others; each job waits for at most one call for each other job that matches meanwhile.
-/

namespace Nightgate.Submission

open Library

/-- IDs are compared as texts. -/
instance : LinearOrder RowId :=
  LinearOrder.lift' RowId.text fun first second same => by
    cases first
    cases second
    cases same
    rfl

theorem RowId.lt_iff {first second : RowId} : first < second ↔ first.text < second.text :=
  Iff.rfl

variable {Job : Type}

/-- The rows of `BackgroundJobs` at one time. The ID is the primary key. -/
structure ScannedTable (ID : Job → RowId) where
  rows : List Job
  distinct : (rows.map ID).Nodup

structure ScanPage (Job : Type) where
  rows : List Job
  cursor : Option RowId

def SCAN_PAGE_SIZE : Nat := 100

/-- Reads one page and moves past every row read, then wraps. -/
def scanBackgroundJobPage (pageSize : Nat) (ID : Job → RowId) (db : List Job)
    (matching : Job → Bool) (cursor : Option RowId) : ScanPage Job :=
  let select := Keyset.select ID pageSize (db.filter matching)
  let rows := select cursor
  let rows := if rows = [] ∧ cursor.isSome then select none else rows
  { rows, cursor := rows.getLast?.map ID }

section Calls

variable (pageSize : Nat) {ID : Job → RowId} (matching : Job → Bool)
  (tables : Nat → ScannedTable ID) (start : Option RowId)

/-- The cursor in memory before a call, where each call finds the table of its own time. -/
def scanCursor : Nat → Option RowId
  | 0 => start
  | n + 1 => (scanBackgroundJobPage pageSize ID (tables n).rows matching (scanCursor n)).cursor

def scanCall (n : Nat) : ScanPage Job :=
  scanBackgroundJobPage pageSize ID (tables n).rows matching
    (scanCursor pageSize matching tables start n)

/-- The job matches at a call. -/
def MatchesAt (id : RowId) (n : Nat) : Prop :=
  ∃ job ∈ (tables n).rows, matching job = true ∧ ID job = id

/-- The IDs of the other jobs that match at one of `n` calls. -/
def othersMatching (id : RowId) (first n : Nat) : Finset RowId :=
  Keyset.others ID (fun i => (tables (first + i)).rows.filter matching) id n

end Calls

section Law

variable {pageSize : Nat} {ID : Job → RowId} {matching : Job → Bool}
  {tables : Nat → ScannedTable ID} {start : Option RowId}

theorem distinct_matching (table : ScannedTable ID) :
    ((table.rows.filter matching).map ID).Nodup :=
  (List.filter_sublist.map ID).nodup table.distinct

/-- From some call on the scan is a scan from the cursor it has then. -/
theorem scanCursor_add (first n : Nat) :
    scanCursor pageSize matching tables start (first + n) =
      Keyset.cursorAt ID pageSize (fun i => (tables (first + i)).rows.filter matching)
        (scanCursor pageSize matching tables start first) n := by
  induction n with
  | zero => rfl
  | succ n ih =>
    rw [← Nat.add_assoc, scanCursor, ih]
    rfl

theorem scanCall_add (first n : Nat) :
    (scanCall pageSize matching tables start (first + n)).rows =
      Keyset.pageAt ID pageSize (fun i => (tables (first + i)).rows.filter matching)
        (scanCursor pageSize matching tables start first) n := by
  rw [scanCall, scanCursor_add]
  rfl

theorem scanCall_nodup (n : Nat) :
    ((scanCall pageSize matching tables start n).rows.map ID).Nodup := by
  have ascending : ((scanCall pageSize matching tables start n).rows.map ID).Pairwise (· < ·) :=
    Keyset.scan_ascending (distinct_matching (tables n))
  exact ascending.imp ne_of_lt

/-- No page repeats a job, and a job that stays matching is read within `n` calls when fewer than
`n` other jobs match at one of them. -/
theorem scan_reads_staying (pageSize : Nat) (positive : 0 < pageSize) (ID : Job → RowId)
    (matching : Job → Bool) (tables : Nat → ScannedTable ID) (start : Option RowId) :
    (∀ n, ((scanCall pageSize matching tables start n).rows.map ID).Nodup) ∧
      ∀ first n id, (∀ i < n, MatchesAt matching tables id (first + i)) →
        (othersMatching matching tables id first n).card < n →
          ∃ i < n, ∃ job ∈ (scanCall pageSize matching tables start (first + i)).rows,
            ID job = id := by
  refine ⟨scanCall_nodup, ?_⟩
  intro first n id stays few
  have present : ∀ i < n, id ∈ ((tables (first + i)).rows.filter matching).map ID := by
    intro i before
    rcases stays i before with ⟨job, isRow, matches', isId⟩
    exact List.mem_map.mpr ⟨job, List.mem_filter.mpr ⟨isRow, matches'⟩, isId⟩
  rcases Keyset.met_of_few_others positive (fun i _ => distinct_matching (tables (first + i)))
    present few with ⟨i, before, listed⟩
  rw [← scanCall_add] at listed
  exact ⟨i, before, List.mem_map.mp listed⟩

end Law

/-- The ID of the job that comes before a call. -/
def comingId (n : Nat) : RowId where
  text := String.ofList ('b' :: List.replicate n 'b')
  given := by
    intro isEmpty
    have letters := congrArg String.toList isEmpty
    rw [String.toList_ofList] at letters
    cases letters

def waitingId : RowId := ⟨"a", by decide⟩

theorem comingId_lt (n : Nat) : comingId n < comingId (n + 1) := by
  have longer : List.replicate n 'b' ++ [] < List.replicate n 'b' ++ ['b'] :=
    List.append_left_lt (List.nil_lt_cons ..)
  rw [List.append_nil] at longer
  rw [RowId.lt_iff, String.lt_iff_toList_lt, comingId, comingId, String.toList_ofList,
    String.toList_ofList, List.replicate_succ']
  exact List.Lex.cons longer

theorem waitingId_lt (n : Nat) : waitingId < comingId n := by
  rw [RowId.lt_iff, String.lt_iff_toList_lt, comingId, String.toList_ofList]
  exact List.Lex.rel (by decide)

/-- One job comes before each call, and the one before it is settled; from the second call on
another job waits. -/
def comingTables : Nat → ScannedTable (id : RowId → RowId)
  | 0 => ⟨[comingId 0], List.nodup_singleton _⟩
  | n + 1 =>
    ⟨[waitingId, comingId (n + 1)], by
      simpa using (waitingId_lt (n + 1)).ne⟩

/-- A page on which only one job lies behind the cursor. -/
theorem scan_single {pageSize : Nat} (positive : 0 < pageSize) {db : List RowId} {id' : RowId}
    {cursor : Option RowId}
    (single : (db.filter fun _ => true).filter (fun row => cursor.all (· < row)) = [id']) :
    scanBackgroundJobPage pageSize id db (fun _ => true) cursor = ⟨[id'], some id'⟩ := by
  have selected : Keyset.select id pageSize (db.filter fun _ => true) cursor = [id'] := by
    rw [Keyset.select]
    simp only [id] at single ⊢
    rw [single]
    exact List.take_of_length_le positive
  simp only [scanBackgroundJobPage, selected, List.cons_ne_nil, false_and, if_false]
  rfl

theorem scan_coming {pageSize : Nat} (positive : 0 < pageSize) (n : Nat) :
    scanCall pageSize (fun _ => true) comingTables none n = ⟨[comingId n], some (comingId n)⟩ := by
  induction n with
  | zero => exact scan_single positive rfl
  | succ n ih =>
    have cursor : scanCursor pageSize (fun _ => true) comingTables none (n + 1) =
        some (comingId n) := congrArg ScanPage.cursor ih
    rw [scanCall, cursor]
    apply scan_single positive
    simp [comingTables, comingId_lt, (waitingId_lt n).le]

/-- One other job: the second call at the latest. -/
theorem scan_reads_staying_two :
    ∃ i < 2, ∃ job ∈
      (scanCall SCAN_PAGE_SIZE (fun _ => true) (fun _ => comingTables 1) none (0 + i)).rows,
        id job = waitingId := by
  refine (scan_reads_staying SCAN_PAGE_SIZE (by decide) id (fun _ => true)
    (fun _ => comingTables 1) none).2 0 2 waitingId ?_ (by decide +kernel)
  intro i _
  exact ⟨waitingId, List.mem_cons_self .., rfl, rfl⟩

/-- A job matches from the second call on, and no call reads it. -/
theorem scan_starves_waiting :
    (∀ n, MatchesAt (fun _ => true) comingTables waitingId (n + 1)) ∧
      ∀ n, waitingId ∉ (scanCall SCAN_PAGE_SIZE (fun _ => true) comingTables none n).rows := by
  constructor
  · intro n
    exact ⟨waitingId, List.mem_cons_self .., rfl, rfl⟩
  · intro n listed
    rw [scan_coming (by decide)] at listed
    exact (waitingId_lt n).ne (List.mem_singleton.mp listed)

end Nightgate.Submission
