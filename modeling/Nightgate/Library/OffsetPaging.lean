import Mathlib.Data.List.Sort

/-!
# Paging by offset

A reader picks the first wanted rows of a list that it reads page by page, and loads the picked
rows again by their keys. Over a list that stays the same it picks what it would pick of the whole
list.
-/

namespace Nightgate.Library.Offset

variable {Row Key : Type*}

/-- The first rows that are wanted. -/
def picked (limit : Nat) (wanted : Row → Bool) (rows : List Row) : List Row :=
  (rows.filter wanted).take limit

section Pages

variable {limit offset size : Nat} {wanted : Row → Bool} {rows : List Row}

theorem picked_append (first second : List Row) :
    picked limit wanted (first ++ second) = picked limit wanted first ++
      picked (limit - (picked limit wanted first).length) wanted second := by
  simp only [picked, List.filter_append, List.take_append, List.length_take]
  congr 2
  omega

/-- One more page. -/
theorem picked_page :
    picked limit wanted (rows.take (offset + size)) = picked limit wanted (rows.take offset) ++
      picked (limit - (picked limit wanted (rows.take offset)).length) wanted
        ((rows.drop offset).take size) := by
  rw [List.take_add, picked_append]

/-- A reader who has enough needs no further page. -/
theorem picked_of_full {count : Nat}
    (enough : limit ≤ (picked limit wanted (rows.take count)).length) :
    picked limit wanted (rows.take count) = picked limit wanted rows := by
  have whole : picked limit wanted (rows.take count ++ rows.drop count) =
      picked limit wanted (rows.take count) ++
        picked (limit - (picked limit wanted (rows.take count)).length) wanted
          (rows.drop count) := picked_append ..
  rw [List.take_append_drop] at whole
  rw [whole, Nat.sub_eq_zero_of_le enough, picked, picked, List.take_zero, List.append_nil]

/-- A page that is not full is the last one. -/
theorem take_of_last (isLast : ((rows.drop offset).take size).length < size) :
    rows.take (offset + size) = rows := by
  rw [List.length_take, List.length_drop] at isLast
  apply List.take_of_length_le
  omega

end Pages

section Keys

variable {key : Row → Key}

/-- Lists with the same keys agree in what the keys decide. -/
theorem map_congr_keys {Value : Type*} {value : Row → Value} {first second : List Row}
    (same : first.map key = second.map key)
    (agree : ∀ a ∈ first, ∀ b ∈ second, key a = key b → value a = value b) :
    first.map value = second.map value := by
  induction first generalizing second with
  | nil =>
    rw [List.map_nil, eq_comm, List.map_eq_nil_iff] at same
    rw [same]
  | cons row rest ih =>
    cases second with
    | nil => cases same
    | cons other others =>
      rw [List.map_cons, List.map_cons, List.cons.injEq] at same
      have now := agree row List.mem_cons_self other List.mem_cons_self same.1
      have later := ih same.2 fun a isRow b isOther =>
        agree a (List.mem_cons_of_mem _ isRow) b (List.mem_cons_of_mem _ isOther)
      rw [List.map_cons, List.map_cons, now, later]

end Keys

variable [DecidableEq Key] (key : Row → Key)

/-- The rows in the order of a list of keys, by the last place of each key. -/
def inOrder (keys : List Key) (rows : List Row) : List Row :=
  rows.insertionSort fun a b => keys.reverse.idxOf (key b) ≤ keys.reverse.idxOf (key a)

variable {key} {keys : List Key} {rows : List Row}

@[simp] theorem mem_inOrder {row : Row} : row ∈ inOrder key keys rows ↔ row ∈ rows :=
  List.mem_insertionSort _

theorem pairwise_idxOf (once : keys.Nodup) :
    keys.Pairwise fun a b => keys.reverse.idxOf b ≤ keys.reverse.idxOf a := by
  have once : keys.reverse.Nodup := List.nodup_reverse.mpr once
  rw [← List.reverse_reverse keys, List.pairwise_reverse, List.reverse_reverse,
    List.pairwise_iff_getElem]
  intro i j isIndex isOther before
  rw [once.idxOf_getElem, once.idxOf_getElem]
  exact before.le

/-- The rows of the keys, loaded in any order, come in the order of the keys. -/
theorem map_inOrder (once : keys.Nodup) (same : (rows.map key).Perm keys) :
    (inOrder key keys rows).map key = keys := by
  have total : Std.Total fun a b : Row =>
      keys.reverse.idxOf (key b) ≤ keys.reverse.idxOf (key a) :=
    ⟨fun a b => le_total (keys.reverse.idxOf (key b)) (keys.reverse.idxOf (key a))⟩
  have trans : IsTrans Row fun a b =>
      keys.reverse.idxOf (key b) ≤ keys.reverse.idxOf (key a) :=
    ⟨fun _ _ _ first second => second.trans first⟩
  have sorted : ((inOrder key keys rows).map key).Pairwise fun a b =>
      keys.reverse.idxOf b ≤ keys.reverse.idxOf a :=
    List.pairwise_map.mpr (List.pairwise_insertionSort _ rows)
  have perm : ((inOrder key keys rows).map key).Perm keys :=
    ((List.perm_insertionSort _ rows).map key).trans same
  refine perm.eq_of_pairwise ?_ sorted (pairwise_idxOf once)
  intro a b isRow isKey notBefore notAfter
  exact ((List.idxOf_inj (List.mem_reverse.mpr isKey)).mp (le_antisymm notBefore notAfter)).symm

end Nightgate.Library.Offset
