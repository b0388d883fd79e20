import Nightgate.Library.InsertionMap
import Mathlib.Algebra.Group.Nat.Defs
import Mathlib.Data.List.Perm.Basic
import Mathlib.Data.List.Sort

/-!
# Objects of the runtime as dictionaries

The own properties of an object, by name. Its keys are listed with the array indices first, in
their order, and then the others as they came. An assignment makes an own property of every name
but one: the prototype of an object is reached under its name, and nothing is stored there.
-/

namespace Nightgate.Library

abbrev JsObject (Value : Type*) := InsertionMap String Value

namespace JsObject

variable {Value : Type*}

/-- The name whose assignment changes the prototype, or nothing. -/
def prototypeName : String := "__proto__"

/-- The number that a name spells, if it is that of an array index: digits, with no zero before
another one. -/
def arrayIndex (name : String) : Option Nat :=
  let digits := name.toList
  let index := digits.foldl (fun index digit => 10 * index + (digit.toNat - '0'.toNat)) 0
  if digits ≠ [] ∧ digits.all Char.isDigit ∧ (digits.head? = some '0' → digits.length = 1) ∧
      index < 2 ^ 32 - 1 then some index
  else none

/-- `Object.entries`: the indices in their order, then the other names as they came. -/
def ownEntries (object : JsObject Value) : List (String × Value) :=
  ((object.entries.filter fun entry => (arrayIndex entry.1).isSome).insertionSort
      fun first second => (arrayIndex first.1).getD 0 ≤ (arrayIndex second.1).getD 0) ++
    object.entries.filter fun entry => !(arrayIndex entry.1).isSome

/-- `object[name] = value`, on an object that was made as `{}`. -/
def assign (object : JsObject Value) (name : String) (value : Value) : JsObject Value :=
  if name = prototypeName then object else object.set name value

theorem ownEntries_perm (object : JsObject Value) : object.ownEntries.Perm object.entries :=
  ((List.perm_insertionSort _ _).append_right _).trans (List.filter_append_perm _ _)

@[simp] theorem length_ownEntries (object : JsObject Value) :
    object.ownEntries.length = object.size :=
  object.ownEntries_perm.length_eq

theorem ownEntries_distinct (object : JsObject Value) :
    (object.ownEntries.map Prod.fst).Nodup :=
  (object.ownEntries_perm.map Prod.fst).nodup_iff.mpr object.distinct

/-- Assigning entries under distinct new names stores all but the one under the name of the
prototype. -/
theorem assignAll_entries (entries : List (String × Value)) (object : JsObject Value)
    (distinct : (entries.map Prod.fst).Nodup)
    (fresh : ∀ name ∈ entries.map Prod.fst, name ∉ object.entries.map Prod.fst) :
    (entries.foldl (fun object entry => object.assign entry.1 entry.2) object).entries =
      object.entries ++ entries.filter fun entry => entry.1 ≠ prototypeName := by
  induction entries generalizing object with
  | nil => simp
  | cons entry rest ih =>
    rw [List.map_cons, List.nodup_cons] at distinct
    rw [List.foldl_cons]
    by_cases isPrototype : entry.1 = prototypeName
    · rw [assign, if_pos isPrototype, List.filter_cons_of_neg (by simpa using isPrototype)]
      exact ih object distinct.2 fun name listed => fresh name (List.mem_cons_of_mem _ listed)
    · have first : (object.set entry.1 entry.2).entries = object.entries ++ [entry] :=
        InsertionMap.set_entries_of_fresh (fresh entry.1 List.mem_cons_self)
      have stillFresh : ∀ name ∈ rest.map Prod.fst,
          name ∉ (object.set entry.1 entry.2).entries.map Prod.fst := by
        intro name listed stored
        rw [InsertionMap.keys_set] at stored
        rcases stored with rfl | stored
        · exact distinct.1 listed
        · exact fresh name (List.mem_cons_of_mem _ listed) stored
      rw [assign, if_neg isPrototype, List.filter_cons_of_pos (by simpa using isPrototype),
        ih (object.set entry.1 entry.2) distinct.2 stillFresh, first, List.append_assoc,
        List.singleton_append]

end JsObject

end Nightgate.Library
