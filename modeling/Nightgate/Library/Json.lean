import Mathlib.Data.List.Basic

/-!
# JSON values

A JSON text stands for a value, and printing a value and parsing the text again gives the
value back. An object is a list of fields; a field that is undefined is not written.
-/

namespace Nightgate.Library

inductive Json where
  | null
  | bool (value : Bool)
  | num (value : Int)
  | str (value : String)
  | arr (values : List Json)
  | obj (fields : List (String × Json))

namespace Json

/-- The fields of an object. -/
abbrev Fields := List (String × Json)

/-- The value of a field. -/
def get? (name : String) : Fields → Option Json
  | [] => none
  | field :: rest => if field.1 = name then some field.2 else get? name rest

/-- A field that is written only with a value. -/
def optional (name : String) : Option Json → Fields
  | none => []
  | some value => [(name, value)]

@[simp] theorem get?_nil (name : String) : get? name [] = none := rfl

@[simp] theorem get?_cons (name : String) (field : String × Json) (rest : Fields) :
    get? name (field :: rest) = if field.1 = name then some field.2 else get? name rest := rfl

@[simp] theorem get?_append (name : String) (first second : Fields) :
    get? name (first ++ second) = (get? name first).or (get? name second) := by
  induction first with
  | nil => rfl
  | cons field rest ih =>
    simp only [List.cons_append, get?_cons, ih]
    split
    · rfl
    · rfl

@[simp] theorem get?_optional (name other : String) (value : Option Json) :
    get? name (optional other value) = if other = name then value else none := by
  cases value with
  | none =>
    simp only [optional, get?_nil]
    split <;> rfl
  | some value => rfl

def asString? : Json → Option String
  | .str value => some value
  | _ => none

def asNat? : Json → Option Nat
  | .num (.ofNat value) => some value
  | _ => none

/-- All elements of an array. -/
def asList? {α : Type} (read : Json → Option α) : Json → Option (List α)
  | .arr values => values.mapM read
  | _ => none

def asFields? : Json → Option Fields
  | .obj fields => some fields
  | _ => none

@[simp] theorem asString?_str (value : String) : (Json.str value).asString? = some value := rfl

@[simp] theorem asNat?_num (value : Nat) : (Json.num value).asNat? = some value := rfl

@[simp] theorem asFields?_obj (fields : Fields) : (Json.obj fields).asFields? = some fields :=
  rfl

/-- What reads each element back reads the array back. -/
theorem asList?_arr {α : Type} {read : Json → Option α} {write : α → Json}
    (reads : ∀ value, read (write value) = some value) (values : List α) :
    (Json.arr (values.map write)).asList? read = some values := by
  induction values with
  | nil => rfl
  | cons value rest ih =>
    simp only [asList?, List.map_cons] at ih ⊢
    simp [List.mapM_cons, reads, ih]

/-- A list of strings. -/
def strings (values : List String) : Json := .arr (values.map .str)

@[simp] theorem asList?_strings (values : List String) :
    (strings values).asList? asString? = some values := by
  have reads : ∀ value, asString? (Json.str value) = some value := fun _ => rfl
  exact asList?_arr reads values

end Json

end Nightgate.Library
