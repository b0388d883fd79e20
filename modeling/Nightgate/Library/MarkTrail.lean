import Mathlib.Data.Finset.Card
import Nightgate.Library.Machine

/-!
# Sets told by their size

A set gains and loses one element at a time, and is now and then replaced under a later stamp. Its
stamp and its size tell it among all the sets before just when elements leave in the reverse of the
order they came in, and come back in the reverse of the order they left in.
-/

namespace Nightgate.Library

/-- A set, the stamp it was last replaced under, and what came with it. -/
structure Marked (β α : Type) where
  stamp : Nat
  base : β
  marks : Finset α
  deriving DecidableEq

inductive MarkMove (β α : Type) where
  /-- All is replaced, under a later stamp. -/
  | restart (advance : Nat) (base : β) (marks : Finset α)
  | mark (a : α)
  | unmark (a : α)

variable {β α : Type}

/-- A marked set with its past. -/
structure MarkTrail (β α : Type) where
  now : Marked β α
  /-- What came since the stamp and did not leave, latest first. -/
  came : List α
  /-- What left since the stamp and did not come back, latest first. -/
  left : List α
  seen : List (Marked β α)

namespace MarkTrail

def start (s : Marked β α) : MarkTrail β α := ⟨s, [], [], [s]⟩

/-- The set is told by its stamp and its size. -/
def Told (t : MarkTrail β α) : Prop :=
  ∀ earlier ∈ t.seen, earlier.stamp = t.now.stamp →
    earlier.marks.card = t.now.marks.card → earlier = t.now

/-- The past of a set by its stamps. -/
structure Dated (t : MarkTrail β α) : Prop where
  present : t.now ∈ t.seen
  stamps : ∀ earlier ∈ t.seen, earlier.stamp ≤ t.now.stamp
  bases : ∀ earlier ∈ t.seen, earlier.stamp = t.now.stamp → earlier.base = t.now.base

theorem dated_start (s : Marked β α) : (start s).Dated where
  present := List.mem_singleton_self s
  stamps := by
    intro earlier seen
    rw [List.mem_singleton.mp seen]
    exact Nat.le_refl _
  bases := by
    intro earlier seen _
    rw [List.mem_singleton.mp seen]
    rfl

/-- A set under the stamp and the base of the one before. -/
theorem Dated.cons {t : MarkTrail β α} (dated : t.Dated) {now : Marked β α} (came left : List α)
    (sameStamp : now.stamp = t.now.stamp) (sameBase : now.base = t.now.base) :
    Dated ⟨now, came, left, now :: t.seen⟩ := by
  refine ⟨List.mem_cons_self, ?_, ?_⟩
  · intro earlier seen
    rcases List.mem_cons.mp seen with rfl | seen
    · exact Nat.le_refl _
    · rw [sameStamp]
      exact dated.stamps earlier seen
  · intro earlier seen same
    rcases List.mem_cons.mp seen with rfl | seen
    · rfl
    · rw [sameBase]
      exact dated.bases earlier seen (same.trans sameStamp)

theorem Dated.later {t : MarkTrail β α} (dated : t.Dated) (advance : Nat) {earlier : Marked β α}
    (seen : earlier ∈ t.seen) : earlier.stamp < t.now.stamp + advance + 1 := by
  have := dated.stamps earlier seen
  omega

end MarkTrail

variable [DecidableEq α]

def Marked.move (s : Marked β α) : MarkMove β α → Marked β α
  | .restart advance base marks => ⟨s.stamp + advance + 1, base, marks⟩
  | .mark a => { s with marks := insert a s.marks }
  | .unmark a => { s with marks := s.marks.erase a }

namespace MarkTrail

def step (t : MarkTrail β α) (move : MarkMove β α) : MarkTrail β α :=
  let now := t.now.move move
  match move with
  | .restart _ _ _ => ⟨now, [], [], now :: t.seen⟩
  | .mark a => if a ∈ t.now.marks then t else ⟨now, a :: t.came, t.left.tail, now :: t.seen⟩
  | .unmark a => if a ∈ t.now.marks then ⟨now, t.came.tail, a :: t.left, now :: t.seen⟩ else t

/-- What comes is what left last, and what leaves is what came last, if anything did. -/
def InTurn (t : MarkTrail β α) : MarkMove β α → Prop
  | .restart _ _ _ => True
  | .mark a => a ∉ t.now.marks → ∀ last ∈ t.left.head?, a = last
  | .unmark a => a ∈ t.now.marks → ∀ last ∈ t.came.head?, a = last

/-- The sets seen since the stamp: those with some of the left, and those without some of the
came. -/
structure Lined (t : MarkTrail β α) : Prop extends t.Dated where
  leftNodup : t.left.Nodup
  leftOut : ∀ a ∈ t.left, a ∉ t.now.marks
  cameNodup : t.came.Nodup
  cameIn : ∀ a ∈ t.came, a ∈ t.now.marks
  above : ∀ i ≤ t.left.length,
    { t.now with marks := t.now.marks ∪ (t.left.take i).toFinset } ∈ t.seen
  below : ∀ i ≤ t.came.length,
    { t.now with marks := t.now.marks \ (t.came.take i).toFinset } ∈ t.seen
  lined : ∀ earlier ∈ t.seen, earlier.stamp = t.now.stamp →
    (∃ i ≤ t.left.length, earlier.marks = t.now.marks ∪ (t.left.take i).toFinset) ∨
      ∃ i ≤ t.came.length, earlier.marks = t.now.marks \ (t.came.take i).toFinset

theorem lined_start (s : Marked β α) : (start s).Lined where
  toDated := dated_start s
  leftNodup := List.nodup_nil
  leftOut := nofun
  cameNodup := List.nodup_nil
  cameIn := nofun
  above := by
    intro i _
    simp [start]
  below := by
    intro i _
    simp [start]
  lined := by
    intro earlier seen _
    left
    refine ⟨0, Nat.le_refl _, ?_⟩
    rw [List.mem_singleton.mp seen]
    simp [start]

/-- Seen sets of one size are the same. -/
theorem Lined.told {t : MarkTrail β α} (lined : t.Lined) : t.Told := by
  intro earlier seen sameStamp sameSize
  have sameBase := lined.bases earlier seen sameStamp
  have sameMarks : earlier.marks = t.now.marks := by
    rcases lined.lined earlier seen sameStamp with ⟨i, inLength, isAbove⟩ | ⟨i, inLength, isBelow⟩
    · have disjoint : Disjoint t.now.marks (t.left.take i).toFinset := by
        rw [Finset.disjoint_right]
        intro a listed
        exact lined.leftOut a (List.mem_of_mem_take (List.mem_toFinset.mp listed))
      have size : (t.left.take i).toFinset.card = i := by
        rw [List.toFinset_card_of_nodup (lined.leftNodup.sublist (List.take_sublist i _)),
          List.length_take, Nat.min_eq_left inLength]
      rw [isAbove, Finset.card_union_of_disjoint disjoint, size] at sameSize
      obtain rfl : i = 0 := by omega
      simpa using isAbove
    · have inside : (t.came.take i).toFinset ⊆ t.now.marks := by
        intro a listed
        exact lined.cameIn a (List.mem_of_mem_take (List.mem_toFinset.mp listed))
      have size : (t.came.take i).toFinset.card = i := by
        rw [List.toFinset_card_of_nodup (lined.cameNodup.sublist (List.take_sublist i _)),
          List.length_take, Nat.min_eq_left inLength]
      have fits := Finset.card_le_card inside
      rw [isBelow, Finset.card_sdiff_of_subset inside, size] at sameSize
      obtain rfl : i = 0 := by omega
      simpa using isBelow
  cases earlier
  cases now : t.now
  simp only [now] at sameStamp sameBase sameMarks
  subst sameStamp sameBase sameMarks
  rfl

/-! ## Moves -/

theorem insert_union_eq (a : α) (s t : Finset α) : insert a s ∪ t = s ∪ insert a t := by
  rw [Finset.insert_union, Finset.union_insert]

theorem insert_sdiff_insert {a : α} {s : Finset α} (fresh : a ∉ s) (t : Finset α) :
    insert a s \ insert a t = s \ t := by
  ext b
  by_cases same : b = a
  · subst same
    simp [fresh]
  · simp [same]

theorem erase_union_insert {a : α} {s : Finset α} (marked : a ∈ s) (t : Finset α) :
    s.erase a ∪ insert a t = s ∪ t := by
  rw [Finset.union_insert, ← Finset.insert_union, Finset.insert_erase marked]

theorem erase_sdiff_eq (a : α) (s t : Finset α) : s.erase a \ t = s \ insert a t := by
  rw [Finset.sdiff_insert, Finset.erase_sdiff_comm]

section Stacks

variable {a : α} {stack : List α} (first : ∀ last ∈ stack.head?, a = last)

include first

omit [DecidableEq α] in
theorem eq_nil_or_cons : stack = [] ∨ stack = a :: stack.tail := by
  cases stack with
  | nil => exact .inl rfl
  | cons last rest =>
    obtain rfl := first last rfl
    exact .inr rfl

omit [DecidableEq α] in
theorem notMem_tail (nodup : stack.Nodup) : a ∉ stack.tail := by
  cases stack with
  | nil => exact List.not_mem_nil
  | cons last rest =>
    obtain rfl := first last rfl
    exact (List.nodup_cons.mp nodup).1

end Stacks

section Steps

variable {t : MarkTrail β α} {a : α}

theorem step_mark_of_mem (marked : a ∈ t.now.marks) : t.step (.mark a) = t := by
  simp only [step, if_pos marked]

theorem step_unmark_of_notMem (unmarked : a ∉ t.now.marks) : t.step (.unmark a) = t := by
  simp only [step, if_neg unmarked]

theorem step_mark (fresh : a ∉ t.now.marks) :
    t.step (.mark a) =
      ⟨t.now.move (.mark a), a :: t.came, t.left.tail, t.now.move (.mark a) :: t.seen⟩ := by
  simp only [step, if_neg fresh]

theorem step_unmark (marked : a ∈ t.now.marks) :
    t.step (.unmark a) =
      ⟨t.now.move (.unmark a), t.came.tail, a :: t.left, t.now.move (.unmark a) :: t.seen⟩ := by
  simp only [step, if_pos marked]

theorem Dated.step (dated : t.Dated) (move : MarkMove β α) : (t.step move).Dated := by
  cases move with
  | restart advance base marks =>
    refine ⟨List.mem_cons_self, ?_, ?_⟩
    · intro earlier seen
      rcases List.mem_cons.mp seen with rfl | seen
      · exact Nat.le_refl _
      · exact Nat.le_of_lt (dated.later advance seen)
    · intro earlier seen same
      rcases List.mem_cons.mp seen with rfl | seen
      · rfl
      · exact absurd same (Nat.ne_of_lt (dated.later advance seen))
  | mark a =>
    by_cases marked : a ∈ t.now.marks
    · rw [step_mark_of_mem marked]
      exact dated
    · rw [step_mark marked]
      exact dated.cons _ _ rfl rfl
  | unmark a =>
    by_cases marked : a ∈ t.now.marks
    · rw [step_unmark marked]
      exact dated.cons _ _ rfl rfl
    · rw [step_unmark_of_notMem marked]
      exact dated

theorem Lined.restart (lined : t.Lined) (advance : Nat) (base : β) (marks : Finset α) :
    (t.step (.restart advance base marks)).Lined where
  toDated := lined.toDated.step _
  leftNodup := List.nodup_nil
  leftOut := nofun
  cameNodup := List.nodup_nil
  cameIn := nofun
  above i _ := by simp [MarkTrail.step]
  below i _ := by simp [MarkTrail.step]
  lined := by
    intro earlier seen same
    rcases List.mem_cons.mp seen with rfl | seen
    · left
      exact ⟨0, Nat.le_refl _, by simp [MarkTrail.step]⟩
    · exact absurd same (Nat.ne_of_lt (lined.toDated.later advance seen))

/-- What left last comes back, or nothing has left. -/
theorem Lined.mark (lined : t.Lined) (inTurn : t.InTurn (.mark a)) : (t.step (.mark a)).Lined := by
  by_cases marked : a ∈ t.now.marks
  · rw [step_mark_of_mem marked]
    exact lined
  have goesBack := eq_nil_or_cons (inTurn marked)
  rw [step_mark marked]
  refine ⟨lined.toDated.cons _ _ rfl rfl, ?_, ?_, ?_, ?_, ?_, ?_, ?_⟩
  · exact lined.leftNodup.sublist (List.tail_sublist _)
  · intro b isLeft
    have out := lined.leftOut b (List.mem_of_mem_tail isLeft)
    have other : b ≠ a := by
      rintro rfl
      exact notMem_tail (inTurn marked) lined.leftNodup isLeft
    simp only [Marked.move, Finset.mem_insert, not_or]
    exact ⟨other, out⟩
  · exact List.nodup_cons.mpr ⟨fun has => marked (lined.cameIn a has), lined.cameNodup⟩
  · intro b isCame
    rcases List.mem_cons.mp isCame with rfl | isCame
    · exact Finset.mem_insert_self _ _
    · exact Finset.mem_insert_of_mem (lined.cameIn b isCame)
  · intro i inLength
    cases goesBack with
    | inl none =>
      simp only [none, List.tail_nil, List.take_nil, List.toFinset_nil, Finset.union_empty]
      exact List.mem_cons_self
    | inr last =>
      have above := lined.above (i + 1) (by rw [last]; exact Nat.succ_le_succ inLength)
      rw [last, List.take_succ_cons, List.toFinset_cons, ← insert_union_eq] at above
      exact List.mem_cons_of_mem _ above
  · intro i inLength
    cases i with
    | zero =>
      simp only [List.take_zero, List.toFinset_nil, Finset.sdiff_empty]
      exact List.mem_cons_self
    | succ i =>
      have below := lined.below i (Nat.le_of_succ_le_succ inLength)
      rw [← insert_sdiff_insert marked] at below
      rw [List.take_succ_cons, List.toFinset_cons]
      exact List.mem_cons_of_mem _ below
  · intro earlier seen sameStamp
    rcases List.mem_cons.mp seen with rfl | seen
    · left
      exact ⟨0, Nat.zero_le _, by simp⟩
    · rcases lined.lined earlier seen sameStamp with ⟨i, inLength, isAbove⟩ | ⟨i, inLength, isBelow⟩
      · cases i with
        | zero =>
          right
          refine ⟨1, Nat.succ_le_succ (Nat.zero_le _), ?_⟩
          simpa [isAbove, Marked.move] using (insert_sdiff_insert marked ∅).symm
        | succ i =>
          cases goesBack with
          | inl none =>
            rw [none] at inLength
            cases inLength
          | inr last =>
            left
            rw [last] at inLength isAbove
            refine ⟨i, Nat.le_of_succ_le_succ inLength, ?_⟩
            rw [isAbove, List.take_succ_cons, List.toFinset_cons, ← insert_union_eq]
            rfl
      · right
        refine ⟨i + 1, Nat.succ_le_succ inLength, ?_⟩
        rw [isBelow, List.take_succ_cons, List.toFinset_cons]
        exact (insert_sdiff_insert marked _).symm

/-- What came last leaves, or nothing has come. -/
theorem Lined.unmark (lined : t.Lined) (inTurn : t.InTurn (.unmark a)) :
    (t.step (.unmark a)).Lined := by
  by_cases marked : a ∈ t.now.marks
  · have goesOut := eq_nil_or_cons (inTurn marked)
    rw [step_unmark marked]
    refine ⟨lined.toDated.cons _ _ rfl rfl, ?_, ?_, ?_, ?_, ?_, ?_, ?_⟩
    · exact List.nodup_cons.mpr ⟨fun has => lined.leftOut a has marked, lined.leftNodup⟩
    · intro b isLeft
      rcases List.mem_cons.mp isLeft with rfl | isLeft
      · exact Finset.notMem_erase _ _
      · exact fun has => lined.leftOut b isLeft (Finset.mem_of_mem_erase has)
    · exact lined.cameNodup.sublist (List.tail_sublist _)
    · intro b isCame
      have inside := lined.cameIn b (List.mem_of_mem_tail isCame)
      have other : b ≠ a := by
        rintro rfl
        exact notMem_tail (inTurn marked) lined.cameNodup isCame
      exact Finset.mem_erase.mpr ⟨other, inside⟩
    · intro i inLength
      cases i with
      | zero =>
        simp only [List.take_zero, List.toFinset_nil, Finset.union_empty]
        exact List.mem_cons_self
      | succ i =>
        have above := lined.above i (Nat.le_of_succ_le_succ inLength)
        rw [← erase_union_insert marked] at above
        rw [List.take_succ_cons, List.toFinset_cons]
        exact List.mem_cons_of_mem _ above
    · intro i inLength
      cases goesOut with
      | inl none =>
        simp only [none, List.tail_nil, List.take_nil, List.toFinset_nil, Finset.sdiff_empty]
        exact List.mem_cons_self
      | inr last =>
        have below := lined.below (i + 1) (by rw [last]; exact Nat.succ_le_succ inLength)
        rw [last, List.take_succ_cons, List.toFinset_cons, ← erase_sdiff_eq] at below
        exact List.mem_cons_of_mem _ below
    · intro earlier seen sameStamp
      rcases List.mem_cons.mp seen with rfl | seen
      · left
        exact ⟨0, Nat.zero_le _, by simp⟩
      · rcases lined.lined earlier seen sameStamp with
          ⟨i, inLength, isAbove⟩ | ⟨i, inLength, isBelow⟩
        · left
          refine ⟨i + 1, Nat.succ_le_succ inLength, ?_⟩
          rw [isAbove, List.take_succ_cons, List.toFinset_cons]
          exact (erase_union_insert marked _).symm
        · cases i with
          | zero =>
            left
            refine ⟨1, Nat.succ_le_succ (Nat.zero_le _), ?_⟩
            simp [isBelow, Marked.move, marked]
          | succ i =>
            cases goesOut with
            | inl none =>
              rw [none] at inLength
              cases inLength
            | inr last =>
              right
              rw [last] at inLength isBelow
              refine ⟨i, Nat.le_of_succ_le_succ inLength, ?_⟩
              rw [isBelow, List.take_succ_cons, List.toFinset_cons, ← erase_sdiff_eq]
              rfl
  · rw [step_unmark_of_notMem marked]
    exact lined

/-- An element out of turn gives a set of a size that was seen before. -/
theorem Lined.inTurn_of_told (lined : t.Lined) {move : MarkMove β α}
    (told : (t.step move).Told) : t.InTurn move := by
  cases move with
  | restart advance base marks => trivial
  | mark a =>
    intro fresh last isLast
    cases isLeft : t.left with
    | nil =>
      rw [isLeft] at isLast
      cases isLast
    | cons b rest =>
      rw [isLeft] at isLast
      cases isLast
      have out := lined.leftOut last (by rw [isLeft]; exact List.mem_cons_self)
      have above := lined.above 1 (by rw [isLeft]; exact Nat.succ_le_succ (Nat.zero_le _))
      rw [isLeft] at above
      rw [step_mark fresh] at told
      have same := told _ (List.mem_cons_of_mem _ above) rfl (by
        simp [Marked.move, fresh, out])
      have inside : last ∈ insert a t.now.marks := by
        have marks := congrArg Marked.marks same
        simp only [Marked.move] at marks
        rw [← marks]
        simp
      rcases Finset.mem_insert.mp inside with isSame | has
      · exact isSame.symm
      · exact absurd has out
  | unmark a =>
    intro marked last isLast
    cases isCame : t.came with
    | nil =>
      rw [isCame] at isLast
      cases isLast
    | cons b rest =>
      rw [isCame] at isLast
      cases isLast
      have inside := lined.cameIn last (by rw [isCame]; exact List.mem_cons_self)
      have below := lined.below 1 (by rw [isCame]; exact Nat.succ_le_succ (Nat.zero_le _))
      rw [isCame] at below
      rw [step_unmark marked] at told
      have same := told _ (List.mem_cons_of_mem _ below) rfl (by
        simp [Marked.move, marked, inside, Finset.sdiff_singleton_eq_erase])
      by_contra differ
      have kept : a ∈ t.now.marks.erase a := by
        have marks := congrArg Marked.marks same
        simp only [Marked.move] at marks
        rw [← marks]
        simp [marked, differ]
      exact Finset.notMem_erase a _ kept

end Steps

/-- In the histories whose elements come and leave in turn, and in no others, every set is told by
its stamp and its size. -/
theorem along_inTurn_iff_told (s : Marked β α) (moves : List (MarkMove β α)) :
    Along step InTurn (start s) moves ↔
      ∀ earlier, earlier <+: moves → (run step (start s) earlier).Told := by
  have implied : ∀ t : MarkTrail β α, t.Lined → t.Told := fun _ lined => lined.told
  have keeps : ∀ (t : MarkTrail β α) move, t.Lined → t.InTurn move → (t.step move).Lined := by
    intro t move lined inTurn
    cases move with
    | restart advance base marks => exact lined.restart advance base marks
    | mark a => exact lined.mark inTurn
    | unmark a => exact lined.unmark inTurn
  have breaks : ∀ (t : MarkTrail β α) move, t.Lined → (t.step move).Told → t.InTurn move :=
    fun _ _ lined told => lined.inTurn_of_told told
  exact along_iff_law implied keeps breaks (lined_start s) moves

/-! ## The past of a run -/

@[simp] theorem now_step (t : MarkTrail β α) (move : MarkMove β α) :
    (t.step move).now = t.now.move move := by
  cases move with
  | restart advance base marks => rfl
  | mark a =>
    by_cases marked : a ∈ t.now.marks
    · rw [step_mark_of_mem marked, Marked.move, Finset.insert_eq_of_mem marked]
    · rw [step_mark marked]
  | unmark a =>
    by_cases marked : a ∈ t.now.marks
    · rw [step_unmark marked]
    · rw [step_unmark_of_notMem marked, Marked.move, Finset.erase_eq_of_notMem marked]

@[simp] theorem now_run (t : MarkTrail β α) (moves : List (MarkMove β α)) :
    (run step t moves).now = run Marked.move t.now moves := by
  induction moves generalizing t with
  | nil => rfl
  | cons move rest ih => rw [run_cons, run_cons, ih, now_step]

theorem seen_eq (t : MarkTrail β α) (move : MarkMove β α) :
    (t.step move).seen = t.seen ∨ (t.step move).seen = (t.step move).now :: t.seen := by
  cases move with
  | restart advance base marks => exact .inr rfl
  | mark a =>
    by_cases marked : a ∈ t.now.marks
    · exact .inl (by rw [step_mark_of_mem marked])
    · exact .inr (by rw [step_mark marked])
  | unmark a =>
    by_cases marked : a ∈ t.now.marks
    · exact .inr (by rw [step_unmark marked])
    · exact .inl (by rw [step_unmark_of_notMem marked])

theorem seen_step {t : MarkTrail β α} {move : MarkMove β α} {earlier : Marked β α}
    (seen : earlier ∈ (t.step move).seen) : earlier = (t.step move).now ∨ earlier ∈ t.seen := by
  rcases t.seen_eq move with same | added
  · rw [same] at seen
    exact .inr seen
  · rw [added] at seen
    exact List.mem_cons.mp seen

theorem seen_mono {t : MarkTrail β α} {move : MarkMove β α} {earlier : Marked β α}
    (seen : earlier ∈ t.seen) : earlier ∈ (t.step move).seen := by
  rcases t.seen_eq move with same | added
  · rwa [same]
  · rw [added]
    exact List.mem_cons_of_mem _ seen

theorem dated_run (s : Marked β α) (moves : List (MarkMove β α)) :
    (run step (start s) moves).Dated :=
  run_invariant (fun _ move dated _ => dated.step move) (dated_start s) moves (Along.trivial moves)

/-- Every set that a run has seen is where some beginning of the run ends. -/
theorem exists_prefix_of_seen {s earlier : Marked β α} {moves : List (MarkMove β α)}
    (seen : earlier ∈ (run step (start s) moves).seen) :
    ∃ first, first <+: moves ∧ run Marked.move s first = earlier := by
  induction moves using List.reverseRecOn with
  | nil =>
    rw [run_nil, start, List.mem_singleton] at seen
    exact ⟨[], List.prefix_rfl, seen.symm⟩
  | append_singleton rest move ih =>
    rw [run_append] at seen
    rcases seen_step seen with isNow | before
    · refine ⟨rest ++ [move], List.prefix_rfl, ?_⟩
      rw [isNow, now_step, now_run, run_append]
      rfl
    · obtain ⟨first, isPrefix, same⟩ := ih before
      exact ⟨first, isPrefix.trans (List.prefix_append _ _), same⟩

end MarkTrail

end Nightgate.Library
