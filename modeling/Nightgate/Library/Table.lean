import Mathlib.Data.List.Nodup

/-!
# Keyed tables

A table is a list of rows with distinct primary keys. An update rewrites the rows
a condition selects and keeps their keys; an insert under an existing key changes
nothing.
-/

namespace Nightgate.Library

/-- Rows with a primary key. -/
class Keyed (Row : Type*) where
  key : Row → Nat

structure Table (Row : Type*) [Keyed Row] where
  rows : List Row
  distinct : (rows.map Keyed.key).Nodup

/-- A rewriting of rows that leaves the primary key alone. -/
structure Patch (Row : Type*) [Keyed Row] where
  set : Row → Row
  keeps : ∀ row, Keyed.key (set row) = Keyed.key row := by intro row; rfl

namespace Table

variable {Row : Type*} [Keyed Row]

def empty : Table Row where
  rows := []
  distinct := List.nodup_nil

/-- The row of a primary key. -/
def find? (table : Table Row) (id : Nat) : Option Row :=
  table.rows.find? fun row => Keyed.key row = id

/-- Rewrites the rows that match. -/
def updateWhere (table : Table Row) (matching : Row → Bool) (patch : Patch Row) :
    Table Row where
  rows := table.rows.map fun row => if matching row then patch.set row else row
  distinct := by
    have same : Keyed.key ∘ (fun row => if matching row then patch.set row else row) =
        Keyed.key := by
      funext row
      simp only [Function.comp_apply]
      split
      · exact patch.keeps row
      · rfl
    rw [List.map_map, same]
    exact table.distinct

/-- Rewrites the row of a primary key if it matches. -/
def update (table : Table Row) (id : Nat) (matching : Row → Bool) (patch : Patch Row) :
    Table Row :=
  table.updateWhere (fun row => Keyed.key row = id && matching row) patch

/-- Whether the row of a primary key exists and matches. -/
def affects (table : Table Row) (id : Nat) (matching : Row → Bool) : Bool :=
  (table.find? id).any matching

theorem find?_eq_none {table : Table Row} {id : Nat} :
    table.find? id = none ↔ ∀ row ∈ table.rows, Keyed.key row ≠ id := by
  simp [find?]

def insert (table : Table Row) (new : Row) : Table Row :=
  if free : table.find? (Keyed.key new) = none then
    { rows := table.rows ++ [new]
      distinct := by
        rw [List.map_append, List.nodup_append]
        refine ⟨table.distinct, by simp, ?_⟩
        intro key isKey other isOther same
        rcases List.mem_map.mp isKey with ⟨row, stored, rfl⟩
        simp only [List.map_cons, List.map_nil, List.mem_singleton] at isOther
        exact find?_eq_none.mp free row stored (same.trans isOther) }
  else table

section Lookup

variable {table : Table Row} {id other : Nat} {row : Row} {matching : Row → Bool}
  {patch : Patch Row}

theorem key_of_find? (found : table.find? id = some row) : Keyed.key row = id := by
  simpa using List.find?_some found

theorem mem_of_find? (found : table.find? id = some row) : row ∈ table.rows :=
  List.mem_of_find?_eq_some found

theorem find?_of_mem (stored : row ∈ table.rows) :
    table.find? (Keyed.key row) = some row := by
  cases found : table.find? (Keyed.key row) with
  | none => exact absurd rfl (find?_eq_none.mp found row stored)
  | some first =>
    have same := List.inj_on_of_nodup_map table.distinct (mem_of_find? found) stored
      (key_of_find? found)
    rw [same]

theorem find?_updateWhere :
    (table.updateWhere matching patch).find? id =
      (table.find? id).map fun row => if matching row then patch.set row else row := by
  have keys : (fun row => decide (Keyed.key row = id)) ∘
      (fun row => if matching row then patch.set row else row) =
        fun row => decide (Keyed.key row = id) := by
    funext row
    simp only [Function.comp_apply]
    split
    · rw [patch.keeps]
    · rfl
  simp only [find?, updateWhere, List.find?_map, keys]

/-- A row after an update comes from a row before it. -/
theorem of_find?_updateWhere {after : Row}
    (found : (table.updateWhere matching patch).find? id = some after) :
    ∃ before, table.find? id = some before ∧
      after = if matching before then patch.set before else before := by
  rw [find?_updateWhere] at found
  rcases Option.map_eq_some_iff.mp found with ⟨before, wasFound, isAfter⟩
  exact ⟨before, wasFound, isAfter.symm⟩

theorem find?_update_ne (different : other ≠ id) :
    (table.update id matching patch).find? other = table.find? other := by
  rw [update, find?_updateWhere]
  cases found : table.find? other with
  | none => rfl
  | some row =>
    have notId : ¬ Keyed.key row = id := by
      rw [key_of_find? found]
      exact different
    simp [notId]

theorem find?_update_self :
    (table.update id matching patch).find? id =
      (table.find? id).map fun row => if matching row then patch.set row else row := by
  rw [update, find?_updateWhere]
  cases found : table.find? id with
  | none => rfl
  | some row => simp [key_of_find? found]

theorem of_find?_update {after : Row}
    (found : (table.update id matching patch).find? other = some after) :
    ∃ before, table.find? other = some before ∧
      ((other = id ∧ matching before ∧ after = patch.set before) ∨ after = before) := by
  by_cases same : other = id
  · subst same
    rw [find?_update_self] at found
    rcases Option.map_eq_some_iff.mp found with ⟨before, wasFound, isAfter⟩
    refine ⟨before, wasFound, ?_⟩
    split at isAfter
    next isMatch => exact .inl ⟨rfl, isMatch, isAfter.symm⟩
    · exact .inr isAfter.symm
  · rw [find?_update_ne same] at found
    exact ⟨after, found, .inr rfl⟩

theorem affects_iff :
    table.affects id matching ↔ ∃ row, table.find? id = some row ∧ matching row := by
  simp [affects, Option.any_eq_true]

/-- An update whose row matched leaves the rewritten row. -/
theorem find?_update_of_affects (affected : table.affects id matching) :
    ∃ before, table.find? id = some before ∧ matching before ∧
      (table.update id matching patch).find? id = some (patch.set before) := by
  rcases affects_iff.mp affected with ⟨before, found, isMatch⟩
  refine ⟨before, found, isMatch, ?_⟩
  rw [find?_update_self, found]
  simp [isMatch]

theorem find?_insert_ne (different : other ≠ Keyed.key row) :
    (table.insert row).find? other = table.find? other := by
  unfold insert
  split
  · simp [find?, different.symm]
  · rfl

theorem find?_insert_self (free : table.find? (Keyed.key row) = none) :
    (table.insert row).find? (Keyed.key row) = some row := by
  have absent : table.rows.find? (fun other => Keyed.key other = Keyed.key row) = none := free
  unfold insert
  rw [dif_pos free]
  simp [find?, List.find?_append, absent]

theorem find?_insert_of_find? {new : Row} (found : table.find? id = some row) :
    (table.insert new).find? id = some row := by
  by_cases same : id = Keyed.key new
  · subst same
    rw [insert, dif_neg (by simp [found])]
    exact found
  · rw [find?_insert_ne same]
    exact found

theorem of_find?_insert {found : Row} (isFound : (table.insert row).find? other = some found) :
    (other = Keyed.key row ∧ table.find? other = none ∧ found = row) ∨
      table.find? other = some found := by
  by_cases same : other = Keyed.key row
  · subst same
    cases free : table.find? (Keyed.key row) with
    | none =>
      rw [find?_insert_self free] at isFound
      exact .inl ⟨rfl, rfl, (Option.some.inj isFound).symm⟩
    | some old =>
      rw [insert, dif_neg (by simp [free])] at isFound
      exact .inr (free ▸ isFound)
  · rw [find?_insert_ne same] at isFound
    exact .inr isFound

end Lookup

/-! ## Facts about all rows -/

section All

variable {table : Table Row} {id : Nat} {new : Row} {matching : Row → Bool}
  {patch : Patch Row} {holds : Row → Prop}

/-- A fact about every row. -/
def All (holds : Row → Prop) (table : Table Row) : Prop :=
  ∀ id row, table.find? id = some row → holds row

theorem All.empty : (empty : Table Row).All holds := nofun

variable (all : table.All holds)

include all

theorem All.imp {weaker : Row → Prop}
    (implies : ∀ row, holds row → weaker row) : table.All weaker :=
  fun id row found => implies row (all id row found)

theorem All.updateWhere
    (step : ∀ row, holds row → matching row → holds (patch.set row)) :
    (table.updateWhere matching patch).All holds := by
  intro id row found
  rcases of_find?_updateWhere found with ⟨before, wasFound, rfl⟩
  split
  next isMatch => exact step before (all id before wasFound) isMatch
  · exact all id before wasFound

theorem All.update
    (step : ∀ row, table.find? id = some row → holds row → matching row → holds (patch.set row)) :
    (table.update id matching patch).All holds := by
  intro other row found
  rcases of_find?_update found with ⟨before, wasFound, ⟨rfl, isMatch, rfl⟩ | rfl⟩
  · exact step before wasFound (all other before wasFound) isMatch
  · exact all other row wasFound

theorem All.insert (held : holds new) :
    (table.insert new).All holds := by
  intro id row found
  rcases of_find?_insert found with ⟨_, _, rfl⟩ | before
  · exact held
  · exact all id row before

end All

section Evolution

variable {table middle after : Table Row} {id : Nat} {matching : Row → Bool}
  {patch : Patch Row} {relation : Row → Row → Prop}

/-- Every row is still there, changed as `relation` allows. -/
def Evolves (relation : Row → Row → Prop) (table after : Table Row) : Prop :=
  ∀ id row, table.find? id = some row → ∃ next, after.find? id = some next ∧ relation row next

theorem Evolves.refl (reflexive : ∀ row, relation row row) (table : Table Row) :
    table.Evolves relation table :=
  fun _ row found => ⟨row, found, reflexive row⟩

theorem Evolves.trans
    (transitive : ∀ first second third, relation first second → relation second third →
      relation first third)
    (first : table.Evolves relation middle) (second : middle.Evolves relation after) :
    table.Evolves relation after := by
  intro id row found
  rcases first id row found with ⟨between, foundBetween, toBetween⟩
  rcases second id between foundBetween with ⟨next, foundNext, toNext⟩
  exact ⟨next, foundNext, transitive row between next toBetween toNext⟩

theorem evolves_updateWhere (reflexive : ∀ row, relation row row)
    (step : ∀ row, matching row → relation row (patch.set row)) :
    table.Evolves relation (table.updateWhere matching patch) := by
  intro id row found
  rw [find?_updateWhere, found]
  refine ⟨_, rfl, ?_⟩
  dsimp only
  split
  next isMatch => exact step row isMatch
  · exact reflexive row

theorem evolves_update (reflexive : ∀ row, relation row row)
    (step : ∀ row, table.find? id = some row → matching row → relation row (patch.set row)) :
    table.Evolves relation (table.update id matching patch) := by
  intro other row found
  by_cases same : other = id
  · subst same
    rw [find?_update_self, found]
    refine ⟨_, rfl, ?_⟩
    dsimp only
    split
    next isMatch => exact step row found isMatch
    · exact reflexive row
  · rw [find?_update_ne same]
    exact ⟨row, found, reflexive row⟩

theorem evolves_insert (reflexive : ∀ row, relation row row) (new : Row) :
    table.Evolves relation (table.insert new) :=
  fun _ row found => ⟨row, find?_insert_of_find? found, reflexive row⟩

/-- Row by row, changed as `relation` allows; no row is new. -/
def Rewrites (relation : Row → Row → Prop) (table after : Table Row) : Prop :=
  ∀ id, Option.Rel relation (table.find? id) (after.find? id)

theorem Rewrites.refl (reflexive : ∀ row, relation row row) (table : Table Row) :
    table.Rewrites relation table := by
  intro id
  cases table.find? id with
  | none => exact .none
  | some row => exact .some (reflexive row)

theorem Rewrites.trans
    (transitive : ∀ first second third, relation first second → relation second third →
      relation first third)
    (first : table.Rewrites relation middle) (second : middle.Rewrites relation after) :
    table.Rewrites relation after := by
  intro id
  have toMiddle := first id
  have toAfter := second id
  cases start : table.find? id with
  | none =>
    rw [start] at toMiddle
    cases between : middle.find? id with
    | none =>
      rw [between] at toAfter
      exact toAfter
    | some row =>
      rw [between] at toMiddle
      cases toMiddle
  | some row =>
    rw [start] at toMiddle
    cases between : middle.find? id with
    | none =>
      rw [between] at toMiddle
      cases toMiddle
    | some step =>
      rw [between] at toMiddle toAfter
      cases toMiddle with
      | some toStep =>
        cases finish : after.find? id with
        | none =>
          rw [finish] at toAfter
          cases toAfter
        | some next =>
          rw [finish] at toAfter
          cases toAfter with
          | some toNext => exact .some (transitive row step next toStep toNext)

theorem rewrites_updateWhere (reflexive : ∀ row, relation row row)
    (step : ∀ id row, table.find? id = some row → matching row → relation row (patch.set row)) :
    table.Rewrites relation (table.updateWhere matching patch) := by
  intro id
  rw [find?_updateWhere]
  cases found : table.find? id with
  | none => exact .none
  | some row =>
    apply Option.Rel.some
    dsimp only
    split
    next isMatch => exact step id row found isMatch
    · exact reflexive row

theorem rewrites_update (reflexive : ∀ row, relation row row)
    (step : ∀ row, table.find? id = some row → matching row → relation row (patch.set row)) :
    table.Rewrites relation (table.update id matching patch) := by
  apply rewrites_updateWhere reflexive
  intro other row found isMatch
  simp only [Bool.and_eq_true, decide_eq_true_eq] at isMatch
  have same : other = id := (key_of_find? found).symm.trans isMatch.1
  subst same
  exact step row found isMatch.2

section Rewrites

variable (rewrites : table.Rewrites relation after)

include rewrites

/-- A row afterwards stems from a row before. -/
theorem Rewrites.of_find? {next : Row} (found : after.find? id = some next) :
    ∃ row, table.find? id = some row ∧ relation row next := by
  have related := rewrites id
  rw [found] at related
  cases before : table.find? id with
  | none =>
    rw [before] at related
    cases related
  | some row =>
    rw [before] at related
    cases related with
    | some toNext => exact ⟨row, rfl, toNext⟩

/-- A row before is still there. -/
theorem Rewrites.find? {row : Row} (found : table.find? id = some row) :
    ∃ next, after.find? id = some next ∧ relation row next := by
  have related := rewrites id
  rw [found] at related
  cases afterwards : after.find? id with
  | none =>
    rw [afterwards] at related
    cases related
  | some next =>
    rw [afterwards] at related
    cases related with
    | some toNext => exact ⟨next, rfl, toNext⟩

theorem Rewrites.imp {weaker : Row → Row → Prop}
    (implies : ∀ id row next, table.find? id = some row → relation row next → weaker row next) :
    table.Rewrites weaker after := by
  intro id
  cases found : table.find? id with
  | none =>
    cases afterwards : after.find? id with
    | none => exact .none
    | some next =>
      obtain ⟨row, wasFound, _⟩ := rewrites.of_find? afterwards
      rw [found] at wasFound
      cases wasFound
  | some row =>
    obtain ⟨next, afterwards, toNext⟩ := rewrites.find? found
    rw [afterwards]
    exact .some (implies id row next found toNext)

theorem Rewrites.evolves :
    table.Evolves relation after :=
  fun _ _ found => rewrites.find? found

end Rewrites

theorem All.rewritten {holds : Row → Prop} (all : table.All holds)
    (rewrites : table.Rewrites (fun row next => holds row → holds next) after) :
    after.All holds := by
  intro id next found
  obtain ⟨row, wasFound, keeps⟩ := rewrites.of_find? found
  exact keeps (all id row wasFound)

end Evolution

end Table

end Nightgate.Library
