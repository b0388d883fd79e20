import Mathlib.Data.List.Chain
import Mathlib.Data.List.Nodup

/-!
# Lists that climb one step at a time

A list whose neighbours are linked, where a link raises the height by one. Such a
list is determined by its heights: no two elements share one, no height between
two of them is missing, and cutting it at a height leaves a prefix.
-/

namespace Nightgate.Library

variable {α : Type*}

/-- Linked elements are one height apart. -/
def Climbs (height : α → Nat) (link : α → α → Prop) : Prop :=
  ∀ lower upper, link lower upper → height upper = height lower + 1

namespace Climbs

variable {height : α → Nat} {link : α → α → Prop}

/-- The heights of a linked list are consecutive. -/
theorem heights_eq (climbs : Climbs height link) {first : α} {rest : List α}
    (linked : (first :: rest).IsChain link) :
    (first :: rest).map height = List.range' (height first) (rest.length + 1) := by
  induction rest generalizing first with
  | nil => simp
  | cons second rest ih =>
    rcases List.isChain_cons_cons.mp linked with ⟨here, later⟩
    rw [List.map_cons, ih later, climbs first second here]
    rfl

variable {elements : List α}

section Climbs

variable (climbs : Climbs height link)

include climbs

theorem nodup_heights (linked : elements.IsChain link) : (elements.map height).Nodup := by
  cases elements with
  | nil => simp
  | cons first rest =>
    rw [climbs.heights_eq linked]
    exact List.nodup_range'

/-- No two elements share a height. -/
theorem eq_of_height_eq
    (linked : elements.IsChain link) {left right : α} (leftMem : left ∈ elements)
    (rightMem : right ∈ elements) (same : height left = height right) : left = right :=
  List.inj_on_of_nodup_map (climbs.nodup_heights linked) leftMem rightMem same

/-- No height between two elements is missing. -/
theorem exists_height (linked : elements.IsChain link) {low high : α} (lowMem : low ∈ elements)
    (highMem : high ∈ elements) {between : Nat} (above : height low ≤ between)
    (below : between ≤ height high) : ∃ element ∈ elements, height element = between := by
  cases elements with
  | nil => cases lowMem
  | cons first rest =>
    have lowHeight := List.mem_map_of_mem (f := height) lowMem
    have highHeight := List.mem_map_of_mem (f := height) highMem
    rw [climbs.heights_eq linked, List.mem_range'_1] at lowHeight highHeight
    have occurs : between ∈ (first :: rest).map height := by
      rw [climbs.heights_eq linked, List.mem_range'_1]
      omega
    exact List.mem_map.mp occurs

/-- The first element is the lowest. -/
theorem height_first_le {first : α} {rest : List α} (linked : (first :: rest).IsChain link)
    {element : α} (membership : element ∈ first :: rest) : height first ≤ height element := by
  have occurs := List.mem_map_of_mem (f := height) membership
  rw [climbs.heights_eq linked, List.mem_range'_1] at occurs
  exact occurs.1

/-- The last element is the highest. -/
theorem height_le_last (linked : elements.IsChain link) {last : α}
    (isLast : elements.getLast? = some last) {element : α} (membership : element ∈ elements) :
    height element ≤ height last := by
  induction elements generalizing element with
  | nil => cases membership
  | cons first rest ih =>
    cases rest with
    | nil =>
      simp only [List.getLast?_singleton, Option.some.injEq] at isLast
      simp only [List.mem_singleton] at membership
      subst isLast membership
      exact le_rfl
    | cons second rest =>
      rcases List.isChain_cons_cons.mp linked with ⟨here, later⟩
      rw [List.getLast?_cons_cons] at isLast
      rcases List.mem_cons.mp membership with isFirst | inRest
      · have step := climbs first second here
        have tail := ih later isLast List.mem_cons_self
        subst isFirst
        omega
      · exact ih later isLast inRest

/-- Elements one height apart are linked. -/
theorem linked_of_succ
    (linked : elements.IsChain link) {lower upper : α} (lowerMem : lower ∈ elements)
    (upperMem : upper ∈ elements) (succ : height upper = height lower + 1) :
    link lower upper := by
  induction elements with
  | nil => cases lowerMem
  | cons first rest ih =>
    rcases List.mem_cons.mp upperMem with isFirst | upperRest
    · have least := climbs.height_first_le linked lowerMem
      subst isFirst
      omega
    · rcases List.mem_cons.mp lowerMem with isFirst | lowerRest
      · subst isFirst
        cases rest with
        | nil => cases upperRest
        | cons second rest =>
          rcases List.isChain_cons_cons.mp linked with ⟨here, later⟩
          have same : second = upper := by
            apply climbs.eq_of_height_eq later List.mem_cons_self upperRest
            rw [climbs lower second here, succ]
          exact same ▸ here
      · exact ih linked.tail lowerRest upperRest

end Climbs

/-- A linked element on top of the last one extends the list. -/
theorem append_last (linked : elements.IsChain link) {last new : α}
    (isLast : elements.getLast? = some last) (link_new : link last new) :
    (elements ++ [new]).IsChain link := by
  rw [List.isChain_append]
  refine ⟨linked, List.isChain_singleton new, ?_⟩
  intro element isElement head isHead
  simp only [List.head?_cons, Option.mem_def, Option.some.injEq] at isHead
  rw [Option.mem_def, isLast, Option.some.injEq] at isElement
  subst isElement isHead
  exact link_new

/-- Cutting at a height leaves a prefix. -/
theorem filter_prefix (climbs : Climbs height link) (linked : elements.IsChain link) (cut : Nat) :
    (elements.filter fun element => height element < cut) <+: elements := by
  induction elements with
  | nil => simp
  | cons first rest ih =>
    by_cases low : height first < cut
    · rw [List.filter_cons, if_pos (decide_eq_true low)]
      exact (List.prefix_cons_inj first).mpr (ih linked.tail)
    · have none : (first :: rest).filter (fun element => height element < cut) = [] := by
        rw [List.filter_eq_nil_iff]
        intro element membership
        have least := climbs.height_first_le linked membership
        simp only [decide_eq_true_eq]
        omega
      rw [none]
      exact List.nil_prefix

theorem filter_linked (climbs : Climbs height link) (linked : elements.IsChain link) (cut : Nat) :
    (elements.filter fun element => height element < cut).IsChain link :=
  linked.prefix (climbs.filter_prefix linked cut)

end Climbs

end Nightgate.Library
