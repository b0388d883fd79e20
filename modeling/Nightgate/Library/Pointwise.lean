import Mathlib.Data.List.Basic

/-!
# Changes at one point

A map to optional values, or a list, with one point changed.
-/

namespace Nightgate.Library

variable {Index Value : Type*} [DecidableEq Index] {map : Index → Option Value}
  {index other : Index} {next : Option Value} {value : Value}

/-- An entry after a change at one point is the new one or an old one elsewhere. -/
theorem mem_update (isEntry : value ∈ Function.update map index next other) :
    (other = index ∧ value ∈ next) ∨ (other ≠ index ∧ value ∈ map other) := by
  by_cases same : other = index
  · subst same
    rw [Function.update_self] at isEntry
    exact Or.inl ⟨rfl, isEntry⟩
  · rw [Function.update_of_ne same] at isEntry
    exact Or.inr ⟨same, isEntry⟩

/-- A change of the last entry. -/
theorem modify_concat {Record : Type*} (records : List Record) (record : Record)
    (change : Record → Record) :
    (records ++ [record]).modify records.length change = records ++ [change record] := by
  induction records with
  | nil => rfl
  | cons first rest ih =>
    rw [List.cons_append, List.length_cons, List.modify_succ_cons, ih, List.cons_append]

section Relabel

variable {Record Outcome : Type*} (relabel : (Outcome → Outcome) → Record → Record)
  (change : Nat → Outcome → Outcome) (records : List Record) (i : Nat)

/-- The records with other outcomes. -/
def relabelAll : List Record := records.mapIdx fun i => relabel (change i)

@[simp] theorem getElem?_relabelAll :
    (relabelAll relabel change records)[i]? = records[i]?.map (relabel (change i)) :=
  List.getElem?_mapIdx

@[simp] theorem length_relabelAll :
    (relabelAll relabel change records).length = records.length :=
  List.length_mapIdx

@[simp] theorem relabelAll_concat (record : Record) :
    relabelAll relabel change (records ++ [record]) =
      relabelAll relabel change records ++ [relabel (change records.length) record] :=
  List.mapIdx_concat

/-- What does not look at the outcome finds the same. -/
theorem any_relabelAll {test other : Record → Bool}
    (same : ∀ record, other (relabel (change i) record) = test record) :
    ((relabelAll relabel change records)[i]?).any other = records[i]?.any test := by
  rw [getElem?_relabelAll, Option.any_map]
  exact congrArg (Option.any · _) (funext same)

/-- A change of one record beside other outcomes of all. -/
theorem modify_relabelAll {move other : Record → Record}
    (commutes : ∀ record, other (relabel (change i) record) = relabel (change i) (move record)) :
    (relabelAll relabel change records).modify i other =
      relabelAll relabel change (records.modify i move) := by
  apply List.ext_getElem?
  intro j
  rw [List.getElem?_modify, getElem?_relabelAll, getElem?_relabelAll, List.getElem?_modify,
    Option.map_eq_map, Option.map_eq_map, Option.map_map, Option.map_map]
  congr 1
  funext record
  by_cases same : i = j
  · subst same
    simp [commutes]
  · simp [same]

end Relabel

end Nightgate.Library
