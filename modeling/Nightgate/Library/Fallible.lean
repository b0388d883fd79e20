import Mathlib.Data.List.Basic

/-!
# Computations that may fail

What a computation that succeeded says about its parts.
-/

namespace Nightgate.Library

variable {Refusal Value Result : Type} {first : Except Refusal Value}

theorem of_bind_ok {next : Value → Except Refusal Result}
    {result : Result} (ran : (first >>= next) = .ok result) :
    ∃ value, first = .ok value ∧ next value = .ok result := by
  cases first with
  | error refusal => cases ran
  | ok value => exact ⟨value, rfl, ran⟩

theorem bind_eq_ok {next : Value → Except Refusal Result}
    {result : Result} : (first >>= next) = .ok result ↔
      ∃ value, first = .ok value ∧ next value = .ok result := by
  refine ⟨of_bind_ok, ?_⟩
  rintro ⟨value, rfl, ran⟩
  exact ran

theorem of_map_ok {image : Value → Result} {result : Result}
    (ran : first.map image = .ok result) : ∃ value, first = .ok value ∧ image value = result := by
  cases first with
  | error refusal => cases ran
  | ok value => exact ⟨value, rfl, Except.ok.inj ran⟩

variable {values : List Value}

/-- What every single result has, every result of a list has. -/
theorem forall_of_mapM_ok {read : Value → Except Refusal Result} {holds : Result → Prop}
    {results : List Result} (ran : values.mapM read = .ok results)
    (each : ∀ value ∈ values, ∀ result, read value = .ok result → holds result) :
    ∀ result ∈ results, holds result := by
  induction values generalizing results with
  | nil =>
    rw [List.mapM_nil] at ran
    cases ran
    intro result listed
    cases listed
  | cons value rest ih =>
    rw [List.mapM_cons] at ran
    rcases of_bind_ok ran with ⟨first, isFirst, ran⟩
    rcases of_bind_ok ran with ⟨others, areOthers, ran⟩
    cases ran
    intro result listed
    cases listed with
    | head => exact each value (List.mem_cons_self ..) first isFirst
    | tail _ listed =>
      exact ih areOthers (fun value isMem => each value (List.mem_cons_of_mem _ isMem)) result
        listed

theorem forall₂_of_mapM_some {read : Value → Option Result}
    {results : List Result} (ran : values.mapM read = some results) :
    List.Forall₂ (fun value result => read value = some result) values results := by
  induction values generalizing results with
  | nil =>
    cases ran
    exact .nil
  | cons value rest ih =>
    rw [List.mapM_cons] at ran
    obtain ⟨first, isFirst, ran⟩ := Option.bind_eq_some_iff.mp ran
    obtain ⟨later, isLater, ran⟩ := Option.bind_eq_some_iff.mp ran
    cases ran
    exact .cons isFirst (ih isLater)

/-- What every step that went through says about its value, a loop that went through says about
every value. -/
theorem forall_of_foldlM_ok {State : Type} {step : State → Value → Except Refusal State}
    {holds : Value → Prop} {start final : State} (ran : values.foldlM step start = .ok final)
    (each : ∀ value ∈ values, ∀ state next, step state value = .ok next → holds value) :
    ∀ value ∈ values, holds value := by
  induction values generalizing start with
  | nil =>
    intro value listed
    cases listed
  | cons first rest ih =>
    rw [List.foldlM_cons] at ran
    rcases of_bind_ok ran with ⟨next, stepped, ran⟩
    intro value listed
    cases listed with
    | head => exact each first (List.mem_cons_self ..) start next stepped
    | tail _ listed =>
      exact ih ran (fun value isMem => each value (List.mem_cons_of_mem _ isMem)) value listed

theorem forall_of_forM_ok {check : Value → Except Refusal Unit}
    (ran : values.forM check = .ok ()) : ∀ value ∈ values, check value = .ok () := by
  induction values with
  | nil =>
    intro value listed
    cases listed
  | cons first rest ih =>
    rcases of_bind_ok ran with ⟨⟨⟩, passed, ran⟩
    intro value listed
    cases listed with
    | head => exact passed
    | tail _ listed => exact ih ran value listed

end Nightgate.Library
