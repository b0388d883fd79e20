import Mathlib.Data.List.Basic

/-!
# Orders of two-stage calls

Every guaranteed part runs before any fallible part. A call with a fallible part must
therefore not stand before a call with a guaranteed one. Sorting the calls that have no
fallible part to the front finds such an order, up to one shape of list.
-/

namespace Nightgate.Library

variable {Call : Type*} (guaranteed fallible : Call → Bool)

/-- No call with a fallible part stands before one with a guaranteed part. -/
def Causal (calls : List Call) : Prop :=
  calls.Pairwise fun first second => fallible first = true → guaranteed second = false

def groupedStages (calls : List Call) : List Call :=
  calls.filter (fun call => !fallible call) ++ calls.filter fallible

/-- No fixed call has a fallible part, one call of the rest has both parts, and a call
with a fallible part only stands before it. -/
def StageClash (fixed rest : List Call) : Prop :=
  (∀ call ∈ fixed, fallible call = false) ∧ ∃ before both after, rest = before ++ both :: after ∧
      fallible both = true ∧ guaranteed both = true ∧
      (∀ call ∈ before ++ after, fallible call = true → guaranteed call = false) ∧
      ∃ call ∈ before, fallible call = true

variable {guaranteed fallible} {fixed rest calls order : List Call}

theorem causal_append :
    Causal guaranteed fallible (fixed ++ rest) ↔
      Causal guaranteed fallible fixed ∧ Causal guaranteed fallible rest ∧
        ∀ first ∈ fixed, ∀ second ∈ rest, fallible first = true → guaranteed second = false :=
  List.pairwise_append

theorem causal_of_plain (plain : ∀ call ∈ calls, fallible call = false) :
    Causal guaranteed fallible calls := by
  refine List.pairwise_of_forall_mem_list ?_
  intro first isFirst second _ isFallible
  rw [plain first isFirst] at isFallible
  cases isFallible

/-- Of two calls with both parts one stands before the other. -/
theorem Causal.one_both (causal : Causal guaranteed fallible calls) :
    calls.countP (fun call => fallible call && guaranteed call) ≤ 1 := by
  induction calls with
  | nil => simp
  | cons call later ih =>
    obtain ⟨behind, causal⟩ := List.pairwise_cons.mp causal
    rw [List.countP_cons]
    cases both : fallible call && guaranteed call with
    | false => simpa using ih causal
    | true =>
      have none : later.countP (fun call => fallible call && guaranteed call) = 0 := by
        rw [List.countP_eq_zero]
        intro other isLater isBoth
        simp only [Bool.and_eq_true] at both isBoth
        have plain := behind other isLater both.1
        rw [isBoth.2] at plain
        cases plain
      simp [none]

@[simp] theorem mem_groupedStages {call : Call} :
    call ∈ groupedStages fallible calls ↔ call ∈ calls := by
  rw [groupedStages, List.mem_append, List.mem_filter, List.mem_filter]
  cases fallible call <;> simp

/-- A clash among the calls with a fallible part, found in the list itself. -/
theorem exists_clash (clash : ¬ Causal guaranteed fallible (calls.filter fallible)) :
    ∃ before both after, calls = before ++ both :: after ∧ fallible both = true ∧
      guaranteed both = true ∧ ∃ call ∈ before, fallible call = true := by
  induction calls with
  | nil => exact absurd List.Pairwise.nil clash
  | cons call later ih =>
    have deeper (clash : ¬ Causal guaranteed fallible (later.filter fallible)) :
        ∃ before both after, call :: later = before ++ both :: after ∧ fallible both = true ∧
          guaranteed both = true ∧ ∃ call ∈ before, fallible call = true := by
      obtain ⟨before, both, after, rfl, isFallible, isGuaranteed, first, isBefore, starts⟩ :=
        ih clash
      exact ⟨call :: before, both, after, rfl, isFallible, isGuaranteed, first,
        List.mem_cons_of_mem _ isBefore, starts⟩
    cases starts : fallible call with
    | false =>
      rw [List.filter_cons_of_neg (by simp [starts])] at clash
      exact deeper clash
    | true =>
      rw [List.filter_cons_of_pos starts] at clash
      by_cases causal : Causal guaranteed fallible (later.filter fallible)
      · have hit : ¬ ∀ other ∈ later.filter fallible,
            fallible call = true → guaranteed other = false :=
          fun behind => clash (List.pairwise_cons.mpr ⟨behind, causal⟩)
        push Not at hit
        obtain ⟨both, isBoth, -, isGuaranteed⟩ := hit
        obtain ⟨isLater, isFallible⟩ := List.mem_filter.mp isBoth
        obtain ⟨before, after, rfl⟩ := List.append_of_mem isLater
        exact ⟨call :: before, both, after, rfl, isFallible, by simpa using isGuaranteed,
          call, List.mem_cons_self, starts⟩
      · exact deeper causal

/-- Grouping finds a causal order wherever there is one, except on a clash. -/
theorem groupedStages_causal (noClash : ¬ StageClash guaranteed fallible fixed rest)
    (same : order.Perm rest) (causal : Causal guaranteed fallible (fixed ++ order)) :
    Causal guaranteed fallible (fixed ++ groupedStages fallible rest) := by
  obtain ⟨first, middle, across⟩ := causal_append.mp causal
  have plain : Causal guaranteed fallible (rest.filter fun call => !fallible call) :=
    causal_of_plain fun call isCall => by simpa using (List.mem_filter.mp isCall).2
  have late : Causal guaranteed fallible (rest.filter fallible) := by
    by_contra clash
    obtain ⟨before, both, after, rfl, isFallible, isGuaranteed, starts⟩ := exists_clash clash
    refine noClash ⟨?_, before, both, after, rfl, isFallible, isGuaranteed, ?_, starts⟩
    · intro call isFixed
      by_contra isFallible
      have isIn : both ∈ order := same.mem_iff.mpr (by simp)
      have plain := across call isFixed both isIn (by simpa using isFallible)
      rw [isGuaranteed] at plain
      cases plain
    · intro call isCall callFallible
      have one := middle.one_both
      rw [same.countP_eq, List.countP_append, List.countP_cons_of_pos
        (by simp [isFallible, isGuaranteed]), ← Nat.add_assoc] at one
      have none : (before ++ after).countP (fun call => fallible call && guaranteed call) = 0 := by
        rw [List.countP_append]
        omega
      simpa [callFallible] using List.countP_eq_zero.mp none call isCall
  refine causal_append.mpr ⟨first, causal_append.mpr ⟨plain, late, ?_⟩, ?_⟩
  · intro call isPlain _ _ isFallible
    simp [isFallible] at isPlain
  · intro call isFixed other isRest
    exact across call isFixed other (same.mem_iff.mpr (mem_groupedStages.mp isRest))

theorem StageClash.exists_causal (clash : StageClash guaranteed fallible fixed rest) :
    ∃ order, order.Perm rest ∧ Causal guaranteed fallible (fixed ++ order) := by
  obtain ⟨plainFixed, before, both, after, rfl, _, _, single, _⟩ := clash
  have others : (List.filter (fun call => !fallible call) (before ++ after) ++
      (before ++ after).filter fallible).Perm (before ++ after) :=
    List.perm_append_comm.trans (List.filter_append_perm _ _)
  have plain : ∀ call ∈ (before ++ after).filter (fun call => !fallible call),
      fallible call = false := fun call isCall => by simpa using (List.mem_filter.mp isCall).2
  have late : ∀ call ∈ (before ++ after).filter fallible, guaranteed call = false := by
    intro call isCall
    obtain ⟨isOther, isFallible⟩ := List.mem_filter.mp isCall
    exact single call isOther isFallible
  refine ⟨(before ++ after).filter (fun call => !fallible call) ++
    both :: (before ++ after).filter fallible, ?_, ?_⟩
  · exact (List.perm_middle.trans (others.cons both)).trans List.perm_middle.symm
  · refine causal_append.mpr ⟨causal_of_plain plainFixed, causal_append.mpr
      ⟨causal_of_plain plain, List.pairwise_cons.mpr ⟨?_, ?_⟩, ?_⟩, ?_⟩
    · exact fun call isCall _ => late call isCall
    · exact List.pairwise_of_forall_mem_list fun _ _ call isCall _ => late call isCall
    · intro call isPlain _ _ isFallible
      rw [plain call isPlain] at isFallible
      cases isFallible
    · intro call isFixed _ _ isFallible
      rw [plainFixed call isFixed] at isFallible
      cases isFallible

theorem StageClash.not_grouped (clash : StageClash guaranteed fallible fixed rest) :
    ¬ Causal guaranteed fallible (fixed ++ groupedStages fallible rest) := by
  intro causal
  obtain ⟨_, before, both, after, rfl, isFallible, isGuaranteed, _, first, isBefore, starts⟩ :=
    clash
  have late := (causal_append.mp (causal_append.mp causal).2.1).2.1
  rw [List.filter_append, List.filter_cons_of_pos isFallible] at late
  have plain := (causal_append.mp late).2.2 first (List.mem_filter.mpr ⟨isBefore, starts⟩)
    both List.mem_cons_self starts
  rw [isGuaranteed] at plain
  cases plain

/-- Grouping by stage finds a causal order whenever there is one, exactly without a clash. -/
theorem groupedStages_causal_iff :
    ((∃ order, order.Perm rest ∧ Causal guaranteed fallible (fixed ++ order)) →
      Causal guaranteed fallible (fixed ++ groupedStages fallible rest)) ↔
      ¬ StageClash guaranteed fallible fixed rest := by
  constructor
  · intro finds clash
    exact clash.not_grouped (finds clash.exists_causal)
  · rintro noClash ⟨order, same, causal⟩
    exact groupedStages_causal noClash same causal

end Nightgate.Library
