import Mathlib.Data.List.Basic

/-!
# Machines driven by events

A machine is a total step function over a state and an event; an event that is
not enabled leaves the state unchanged. A run is a list of events, and a
condition on a run is a condition on each event in the state it is taken in.
-/

namespace Nightgate.Library

variable {State Event : Type*}

/-- The state a list of events leads to. -/
def run (step : State → Event → State) (start : State) (events : List Event) : State :=
  events.foldl step start

/-- Every event of the list meets `allowed` in the state it is taken in. -/
def Along (step : State → Event → State) (allowed : State → Event → Prop) :
    State → List Event → Prop
  | _, [] => True
  | state, event :: rest =>
    allowed state event ∧ Along step allowed (step state event) rest

section Runs

variable {step : State → Event → State}
variable {allowed : State → Event → Prop}

@[simp] theorem run_nil (start : State) : run step start [] = start := rfl

@[simp] theorem run_cons (start : State) (event : Event) (rest : List Event) :
    run step start (event :: rest) = run step (step start event) rest := rfl

theorem run_append (start : State) (first second : List Event) :
    run step start (first ++ second) = run step (run step start first) second :=
  List.foldl_append

instance Along.decidable [∀ state event, Decidable (allowed state event)] :
    (state : State) → (events : List Event) → Decidable (Along step allowed state events)
  | _, [] => isTrue trivial
  | state, event :: rest =>
    have := Along.decidable (step state event) rest
    inferInstanceAs (Decidable (_ ∧ _))

variable {start : State}

/-- Every run meets the condition that asks for nothing. -/
theorem Along.trivial (events : List Event) :
    Along step (fun _ _ => True) start events := by
  induction events generalizing start with
  | nil => exact True.intro
  | cons event rest ih => exact ⟨True.intro, ih⟩

/-- The invariant rule: what holds at the start and is kept by every allowed
step holds wherever an allowed run ends. -/
theorem run_invariant {invariant : State → Prop}
    (keeps : ∀ state event, invariant state → allowed state event → invariant (step state event))
    (initially : invariant start) (events : List Event) (along : Along step allowed start events) :
    invariant (run step start events) := by
  induction events generalizing start with
  | nil => exact initially
  | cons event rest ih =>
    obtain ⟨now, later⟩ := along
    exact ih (keeps start event initially now) later

/-- The invariant rule with the events so far. -/
theorem run_past {holds : List Event → State → Prop}
    (keeps : ∀ past state event, holds past state → holds (past ++ [event]) (step state event))
    {past : List Event} {state : State} (initially : holds past state) (events : List Event) :
    holds (past ++ events) (run step state events) := by
  induction events generalizing past state with
  | nil =>
    rw [List.append_nil]
    exact initially
  | cons event rest ih =>
    rw [List.append_cons]
    exact ih (keeps past state event initially)

/-- A run meets what follows from its condition. -/
theorem Along.imp {weaker : State → Event → Prop}
    (implies : ∀ state event, allowed state event → weaker state event)
    {events : List Event} (along : Along step allowed start events) :
    Along step weaker start events := by
  induction events generalizing start with
  | nil => trivial
  | cons event rest ih =>
    rcases along with ⟨now, later⟩
    exact ⟨implies start event now, ih later⟩

theorem Along.and {other : State → Event → Prop} {events : List Event}
    (first : Along step allowed start events) (second : Along step other start events) :
    Along step (fun state event => allowed state event ∧ other state event) start events := by
  induction events generalizing start with
  | nil => trivial
  | cons event rest ih => exact ⟨⟨first.1, second.1⟩, ih first.2 second.2⟩

/-- A run keeps an invariant and so meets what follows from it at each step. -/
theorem Along.of_invariant {invariant : State → Prop} {weaker : State → Event → Prop}
    (keeps : ∀ state event, invariant state → allowed state event → invariant (step state event))
    (implies : ∀ state event, invariant state → allowed state event → weaker state event)
    (initially : invariant start) {events : List Event}
    (along : Along step allowed start events) : Along step weaker start events := by
  induction events generalizing start with
  | nil => trivial
  | cons event rest ih =>
    obtain ⟨now, later⟩ := along
    exact ⟨implies start event initially now, ih (keeps start event initially now) later⟩

theorem along_append (first second : List Event) :
    Along step allowed start (first ++ second) ↔
      Along step allowed start first ∧ Along step allowed (run step start first) second := by
  induction first generalizing start with
  | nil => exact ⟨fun along => ⟨True.intro, along⟩, fun both => both.2⟩
  | cons event rest ih =>
    constructor
    · intro along
      rcases along with ⟨now, later⟩
      rcases ih.mp later with ⟨inFirst, inSecond⟩
      exact ⟨⟨now, inFirst⟩, inSecond⟩
    · intro both
      rcases both with ⟨⟨now, inFirst⟩, inSecond⟩
      exact ⟨now, ih.mpr ⟨inFirst, inSecond⟩⟩

/-- A condition on a run, event by event. -/
theorem along_iff_events (events : List Event) :
    Along step allowed start events ↔
      ∀ past event later, events = past ++ event :: later →
        allowed (run step start past) event := by
  constructor
  · rintro along past event later rfl
    exact ((along_append past (event :: later)).mp along).2.1
  · intro every
    induction events generalizing start with
    | nil => exact True.intro
    | cons event rest ih =>
      refine ⟨every [] event rest rfl, ih ?_⟩
      rintro past other later rfl
      exact every (event :: past) other later rfl

/-- Where a step that is not allowed breaks the law, the runs that keep the law throughout are
the allowed ones. -/
theorem along_iff_law {invariant law : State → Prop}
    (implied : ∀ state, invariant state → law state)
    (keeps : ∀ state event, invariant state → allowed state event → invariant (step state event))
    (breaks : ∀ state event, invariant state → law (step state event) → allowed state event)
    (initially : invariant start) (events : List Event) :
    Along step allowed start events ↔
      ∀ earlier, earlier <+: events → law (run step start earlier) := by
  induction events generalizing start with
  | nil =>
    constructor
    · intro _ earlier isPrefix
      rw [List.prefix_nil.mp isPrefix]
      exact implied start initially
    · intro _
      exact True.intro
  | cons event rest ih =>
    constructor
    · intro along earlier isPrefix
      cases earlier with
      | nil => exact implied start initially
      | cons first later =>
        rw [List.cons_prefix_cons] at isPrefix
        rcases isPrefix with ⟨rfl, isPrefix⟩
        have after := keeps start first initially along.1
        exact (ih after).mp along.2 later isPrefix
    · intro throughout
      have single : [event] <+: event :: rest := List.cons_prefix_cons.mpr ⟨rfl, List.nil_prefix⟩
      have now : allowed start event := breaks start event initially (throughout [event] single)
      refine ⟨now, (ih (keeps start event initially now)).mpr ?_⟩
      intro earlier isPrefix
      exact throughout (event :: earlier) (List.cons_prefix_cons.mpr ⟨rfl, isPrefix⟩)

/-- What every allowed step does, an allowed run does. -/
theorem run_relates {relation : State → State → Prop} (reflexive : ∀ state, relation state state)
    (transitive : ∀ first second third, relation first second → relation second third →
      relation first third)
    (steps : ∀ state event, allowed state event → relation state (step state event))
    (events : List Event) (along : Along step allowed start events) :
    relation start (run step start events) := by
  induction events generalizing start with
  | nil => exact reflexive start
  | cons event rest ih =>
    rcases along with ⟨now, later⟩
    exact transitive start _ _ (steps start event now) (ih later)

/-- What every step keeps of an image of the state, under renamed events, a run keeps. -/
theorem run_image (image : State → State) (renamed : Event → Event)
    (steps : ∀ state event, step (image state) (renamed event) = image (step state event))
    (start : State) (events : List Event) :
    run step (image start) (events.map renamed) = image (run step start events) := by
  induction events generalizing start with
  | nil => rfl
  | cons event rest ih => rw [List.map_cons, run_cons, run_cons, steps, ih]

/-- A run beside the run of the events kept of it: what every step keeps between the two, whether
or not its event is kept, holds between the runs. -/
theorem run_filter_relates {relation : State → State → Prop} {keep : Event → Bool}
    (keeps : ∀ state other event, relation state other → allowed state event →
      relation (step state event) (if keep event then step other event else other))
    {start other : State} (initially : relation start other) (events : List Event)
    (along : Along step allowed start events) :
    relation (run step start events) (run step other (events.filter keep)) := by
  induction events generalizing start other with
  | nil => exact initially
  | cons event rest ih =>
    rcases along with ⟨now, later⟩
    have next := keeps start other event initially now
    by_cases kept : keep event
    · rw [List.filter_cons_of_pos kept]
      rw [if_pos kept] at next
      exact ih next later
    · rw [List.filter_cons_of_neg kept]
      rw [if_neg kept] at next
      exact ih next later

end Runs

end Nightgate.Library
