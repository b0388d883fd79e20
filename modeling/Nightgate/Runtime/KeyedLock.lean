import Nightgate.Library.GateChains
import Nightgate.Library.InsertionMap
import Nightgate.Library.Machine
import Nightgate.Library.Pointwise
import Mathlib.Data.Set.Insert

/-!
# Async locks per key

A call runs its body once the promise in the map under its key has settled, and puts a promise of
its own there, which settles after the body whatever the body does. The promise removes itself
from the map when it is still the one there. Promise reactions are events of their own here and
come in any order.
-/

namespace Nightgate.Runtime

open Library

namespace KeyedLock

inductive Stage where
  /-- `run` waits for `prev`. -/
  | queued
  /-- `fn` was called and has not settled. -/
  | inBody
  /-- `run` has settled. -/
  | settled
  /-- `tail` has settled. -/
  | released
  /-- The reaction to `tail` has run. -/
  | tidied
  deriving DecidableEq

structure Call (Outcome : Type) where
  key : String
  /-- The call whose `tail` is `prev`; none for `Promise.resolve()`. -/
  prev : Option Nat
  stage : Stage
  /-- What `run` settled with. -/
  outcome : Option Outcome

def Call.atStage {Outcome : Type} (call : Call Outcome) (stage : Stage) : Call Outcome :=
  { call with stage }

/-- The map holds the `tail` of a call as the number of the call. -/
structure Lock (Outcome : Type) where
  chains : InsertionMap String Nat
  calls : List (Call Outcome)

inductive Event (Outcome : Type) where
  | withKeyedLock (key : String)
  | startBody (i : Nat)
  | settleBody (i : Nat) (outcome : Outcome)
  | settleTail (i : Nat)
  | tidy (i : Nat)

variable {Outcome : Type}

/-- A promise reaction: what comes without any call from outside. -/
def Event.isReaction : Event Outcome → Bool
  | .startBody _ | .settleTail _ | .tidy _ => true
  | .withKeyedLock _ | .settleBody _ _ => false

/-- The promise of the call, `run`, is settled. -/
def Stage.hasEnded : Stage → Bool
  | .settled | .released | .tidied => true
  | .queued | .inBody => false

/-- `tail` is settled. -/
def Stage.hasReleased : Stage → Bool
  | .released | .tidied => true
  | .queued | .inBody | .settled => false

namespace Lock

def empty : Lock Outcome := ⟨InsertionMap.empty, []⟩

def prevSettled (lock : Lock Outcome) (call : Call Outcome) : Bool :=
  match call.prev with
  | none => true
  | some p => (lock.calls[p]?).any fun before => before.stage.hasReleased

def modify (lock : Lock Outcome) (i : Nat) (change : Call Outcome → Call Outcome) :
    Lock Outcome :=
  { lock with calls := lock.calls.modify i change }

/-- Rewrites a call that is at a stage. -/
def advance (lock : Lock Outcome) (i : Nat) (stage : Stage)
    (change : Call Outcome → Call Outcome) : Lock Outcome :=
  if (lock.calls[i]?).any (fun call => call.stage = stage) then lock.modify i change else lock

/-- The synchronous part of a call. -/
def take (lock : Lock Outcome) (key : String) : Lock Outcome where
  chains := lock.chains.set key lock.calls.length
  calls := lock.calls ++ [⟨key, lock.chains.get? key, .queued, none⟩]

def step (lock : Lock Outcome) : Event Outcome → Lock Outcome
  | .withKeyedLock key => lock.take key
  | .startBody i =>
    if (lock.calls[i]?).any lock.prevSettled then
      lock.advance i .queued fun call => call.atStage .inBody
    else lock
  | .settleBody i outcome =>
    lock.advance i .inBody fun call => { call with stage := .settled, outcome := some outcome }
  | .settleTail i => lock.advance i .settled fun call => call.atStage .released
  | .tidy i =>
    match lock.calls[i]? with
    | some call =>
      if call.stage = .released then
        { lock.modify i fun call => call.atStage .tidied with
          chains := if lock.chains.get? call.key = some i then lock.chains.erase call.key
            else lock.chains }
      else lock
    | none => lock

end Lock

variable {lock : Lock Outcome}

/-- Everything an event can do. -/
inductive Effect (lock : Lock Outcome) : Event Outcome → Lock Outcome → Prop
  | nothing (event : Event Outcome) : Effect lock event lock
  | take (key : String) : Effect lock (.withKeyedLock key) (lock.take key)
  | start {i : Nat} {call : Call Outcome} (found : lock.calls[i]? = some call)
      (queued : call.stage = .queued) (free : lock.prevSettled call) :
      Effect lock (.startBody i) (lock.modify i fun call => call.atStage .inBody)
  | settle {i : Nat} {call : Call Outcome} (found : lock.calls[i]? = some call)
      (inBody : call.stage = .inBody) (outcome : Outcome) :
      Effect lock (.settleBody i outcome)
        (lock.modify i fun call => { call with stage := .settled, outcome := some outcome })
  | release {i : Nat} {call : Call Outcome} (found : lock.calls[i]? = some call)
      (settled : call.stage = .settled) :
      Effect lock (.settleTail i) (lock.modify i fun call => call.atStage .released)
  | tidyOwn {i : Nat} {call : Call Outcome} (found : lock.calls[i]? = some call)
      (released : call.stage = .released) (own : lock.chains.get? call.key = some i) :
      Effect lock (.tidy i)
        { lock.modify i fun call => call.atStage .tidied with
          chains := lock.chains.erase call.key }
  | tidyReplaced {i : Nat} {call : Call Outcome} (found : lock.calls[i]? = some call)
      (released : call.stage = .released) (replaced : lock.chains.get? call.key ≠ some i) :
      Effect lock (.tidy i) (lock.modify i fun call => call.atStage .tidied)

variable {change : Call Outcome → Call Outcome} {call : Call Outcome} {i : Nat} {stage : Stage}

theorem advance_of_stage (found : lock.calls[i]? = some call) (here : call.stage = stage) :
    lock.advance i stage change = lock.modify i change := by
  rw [Lock.advance, if_pos]
  simp [found, here]

theorem effect_of_advance {event : Event Outcome}
    (moves : ∀ call, lock.calls[i]? = some call → call.stage = stage →
      Effect lock event (lock.modify i change)) :
    Effect lock event (lock.advance i stage change) := by
  rw [Lock.advance]
  split
  next here =>
    rcases (Option.any_eq_true ..).mp here with ⟨call, found, atStage⟩
    exact moves call found (of_decide_eq_true atStage)
  · exact .nothing event

theorem step_effect (event : Event Outcome) : Effect lock event (lock.step event) := by
  cases event with
  | withKeyedLock key => exact .take key
  | startBody i =>
    rw [Lock.step]
    split
    next passes =>
      apply effect_of_advance
      intro call found queued
      rw [found] at passes
      exact .start found queued passes
    · exact .nothing _
  | settleBody i outcome =>
    exact effect_of_advance fun call found inBody => .settle found inBody outcome
  | settleTail i => exact effect_of_advance fun call found settled => .release found settled
  | tidy i =>
    rw [Lock.step]
    split
    next call found =>
      split
      next released =>
        split
        next own => exact .tidyOwn found released own
        next replaced => exact .tidyReplaced found released replaced
      · exact .nothing _
    · exact .nothing _

/-! ## The calls as tickets -/

def Stage.phase : Stage → Phase
  | .queued => .waiting
  | .inBody | .settled => .inside
  | .released | .tidied => .left

theorem Stage.phase_eq_left : stage.phase = .left ↔ stage.hasReleased = true := by
  cases stage <;> simp [phase, hasReleased]

def reading : GateChains.Reading (Call Outcome) String where
  keys call := {call.key}
  behind call := {m | call.prev = some m}
  phase call := call.stage.phase

def Lock.view (lock : Lock Outcome) : GateChains String :=
  GateChains.ofList reading lock.calls lock.chains.get?

theorem view_phase (found : lock.calls[i]? = some call) :
    lock.view.phase i = call.stage.phase :=
  GateChains.ofList_phase _ _ found

/-- A body starts when the `tail` it waits for has settled. -/
theorem view_free (found : lock.calls[i]? = some call)
    (queued : call.stage = .queued) : lock.view.Free i ↔ lock.prevSettled call = true := by
  have waiting : lock.view.phase i = .waiting := by
    rw [view_phase found, queued]
    rfl
  have behind : lock.view.behind i = {m | call.prev = some m} := GateChains.ofList_behind _ _ found
  rw [GateChains.Free, behind, Lock.prevSettled]
  cases prev : call.prev with
  | none => simp [waiting]
  | some p =>
    simp only [waiting, true_and, Set.mem_ofPred_eq, Option.some.injEq, forall_eq']
    cases isPrev : lock.calls[p]? with
    | none => simp [Lock.view, GateChains.ofList, isPrev]
    | some before =>
      rw [view_phase isPrev, Option.any_some]
      exact Stage.phase_eq_left

theorem view_take (key : String) : (lock.take key).view = lock.view.take {key} := by
  apply GateChains.ofList_append reading
  · ext m
    simp [reading]
  · rfl
  · intro other isKey
    cases isKey
    exact InsertionMap.get?_set_self ..
  · intro other distinct
    exact InsertionMap.get?_set_of_ne distinct

section Modify

variable {i : Nat} {call : Call Outcome} {change : Call Outcome → Call Outcome}

theorem view_modify (found : lock.calls[i]? = some call) (key : (change call).key = call.key)
    (prev : (change call).prev = call.prev) :
    (lock.modify i change).view = lock.view.move i (change call).stage.phase :=
  GateChains.ofList_modify reading _ found (by simp only [reading, key])
    (by simp only [reading, prev])

theorem view_modify_same (found : lock.calls[i]? = some call) (key : (change call).key = call.key)
    (prev : (change call).prev = call.prev) (phase : (change call).stage.phase = call.stage.phase) :
    (lock.modify i change).view = lock.view :=
  GateChains.ofList_modify_same reading _ found (by simp only [reading, key])
    (by simp only [reading, prev]) phase

end Modify

theorem view_erase (lock : Lock Outcome) (key : String) :
    ({ lock with chains := lock.chains.erase key } : Lock Outcome).view = lock.view.drop key :=
  GateChains.ofList_drop _ _ (InsertionMap.get?_erase_self ..)
    fun _ distinct => InsertionMap.get?_erase_of_ne distinct

/-- Every event is some steps of the tickets, or none. -/
theorem Effect.steps {event : Event Outcome} {after : Lock Outcome}
    (effect : Effect lock event after) :
    Relation.ReflTransGen GateChains.Step lock.view after.view := by
  cases effect with
  | nothing => exact .refl
  | take key =>
    rw [view_take]
    exact .single (.take _)
  | start found queued free =>
    rw [view_modify found rfl rfl]
    exact .single (.enter ((view_free found queued).mpr free))
  | settle found inBody outcome =>
    rw [view_modify_same found rfl rfl (by rw [inBody]; rfl)]
  | release found settled =>
    rw [view_modify found rfl rfl]
    refine .single (.leave ?_)
    rw [view_phase found, settled]
    rfl
  | @tidyOwn i call found released own =>
    have same : (lock.modify i fun call => call.atStage .tidied).view = lock.view :=
      view_modify_same found rfl rfl (by rw [released]; rfl)
    have gone : lock.view.phase i = .left := by
      rw [view_phase found, released]
      rfl
    have erased := view_erase (lock.modify i fun call => call.atStage .tidied) call.key
    rw [same] at erased
    refine Relation.ReflTransGen.single ?_
    refine erased ▸ .drop (i := i) own gone
  | tidyReplaced found released replaced =>
    rw [view_modify_same found rfl rfl (by rw [released]; rfl)]

/-- An entry is the `tail` of a call on its key that has not removed itself. -/
def Noted (lock : Lock Outcome) : Prop :=
  ∀ key i, lock.chains.get? key = some i →
    ∃ call, lock.calls[i]? = some call ∧ call.key = key ∧ call.stage ≠ .tidied

@[simp] theorem getElem?_modify_self (found : lock.calls[i]? = some call) :
    (lock.modify i change).calls[i]? = some (change call) := by
  rw [Lock.modify, List.getElem?_modify_eq, found]
  rfl

theorem getElem?_modify_of_ne {i j : Nat}
    (other : j ≠ i) : (lock.modify i change).calls[j]? = lock.calls[j]? :=
  List.getElem?_modify_ne _ _ other.symm

theorem Noted.modify (noted : Noted lock) (keeps : ∀ call, lock.calls[i]? = some call →
      (change call).key = call.key ∧ (change call).stage ≠ .tidied) :
    Noted (lock.modify i change) := by
  intro key m isEntry
  rcases noted key m isEntry with ⟨call, found, isKey, here⟩
  by_cases same : m = i
  · subst same
    rcases keeps call found with ⟨sameKey, here⟩
    exact ⟨change call, getElem?_modify_self found, sameKey.trans isKey, here⟩
  · exact ⟨call, (getElem?_modify_of_ne same).trans found, isKey, here⟩

theorem Noted.effect (noted : Noted lock) {event : Event Outcome} {after : Lock Outcome}
    (effect : Effect lock event after) : Noted after := by
  cases effect with
  | nothing => exact noted
  | take key =>
    intro other m isEntry
    by_cases same : other = key
    · subst same
      rw [Lock.take, InsertionMap.get?_set_self] at isEntry
      cases isEntry
      exact ⟨_, List.getElem?_concat_length, rfl, nofun⟩
    · rw [Lock.take, InsertionMap.get?_set_of_ne same] at isEntry
      rcases noted other m isEntry with ⟨call, found, isKey, here⟩
      have old : m < lock.calls.length := (List.getElem?_eq_some_iff.mp found).1
      exact ⟨call, (List.getElem?_append_left old).trans found, isKey, here⟩
  | start | settle | release => exact noted.modify fun call _ => ⟨rfl, nofun⟩
  | @tidyOwn i call found released own =>
    intro other m isEntry
    have distinct : other ≠ call.key := by
      rintro rfl
      rw [InsertionMap.get?_erase_self] at isEntry
      cases isEntry
    rw [InsertionMap.get?_erase_of_ne distinct] at isEntry
    rcases noted other m isEntry with ⟨entry, isFound, isKey, here⟩
    have notOwn : m ≠ i := by
      rintro rfl
      cases found.symm.trans isFound
      exact distinct isKey.symm
    exact ⟨entry, (getElem?_modify_of_ne notOwn).trans isFound, isKey, here⟩
  | @tidyReplaced i call found released replaced =>
    intro other m isEntry
    rcases noted other m isEntry with ⟨entry, isFound, isKey, here⟩
    have notOwn : m ≠ i := by
      rintro rfl
      cases found.symm.trans isFound
      rw [isKey] at replaced
      exact replaced isEntry
    exact ⟨entry, (getElem?_modify_of_ne notOwn).trans isFound, isKey, here⟩

/-- What holds after any events. -/
structure Sound (lock : Lock Outcome) : Prop where
  orderly : lock.view.Orderly
  noted : Noted lock

theorem sound_empty : Sound (Lock.empty : Lock Outcome) where
  orderly := by
    have same : (Lock.empty : Lock Outcome).view = GateChains.empty :=
      GateChains.ext' rfl (fun _ => rfl) (fun _ => rfl) (fun _ => rfl) fun _ => rfl
    rw [same]
    exact GateChains.orderly_empty
  noted := nofun

theorem Sound.step (sound : Sound lock) (event : Event Outcome) : Sound (lock.step event) where
  orderly := sound.orderly.steps (step_effect event).steps
  noted := sound.noted.effect (step_effect event)

theorem sound_run (events : List (Event Outcome)) : Sound (run Lock.step Lock.empty events) :=
  run_invariant (fun _ event sound _ => sound.step event) sound_empty events (Along.trivial events)

/-- Of two calls on a key the later begins only after the earlier has ended. -/
theorem Sound.order (sound : Sound lock) {i j : Nat} {first second : Call Outcome}
    (before : i < j) (isFirst : lock.calls[i]? = some first)
    (isSecond : lock.calls[j]? = some second) (sameKey : first.key = second.key)
    (begun : second.stage ≠ .queued) : first.stage.hasReleased = true := by
  have entered : second.stage.phase ≠ .waiting := by
    cases stage : second.stage with
    | queued => exact absurd stage begun
    | inBody | settled | released | tidied => exact nofun
  exact Stage.phase_eq_left.mp
    (sound.orderly.served_records before isFirst isSecond rfl sameKey entered)

theorem step_startBody (found : lock.calls[i]? = some call)
    (queued : call.stage = .queued) (free : lock.prevSettled call = true) :
    (lock.step (.startBody i)).calls[i]? = some (call.atStage .inBody) := by
  have passes : (lock.calls[i]?).any lock.prevSettled = true := by
    rw [found]
    exact free
  rw [Lock.step, if_pos passes, advance_of_stage found queued]
  exact getElem?_modify_self found

theorem step_settleTail (found : lock.calls[i]? = some call) (settled : call.stage = .settled) :
    lock.step (.settleTail i) = lock.modify i fun call => call.atStage .released :=
  advance_of_stage found settled

/-- The call whose `tail` a call waits for is an earlier one on the same key. -/
theorem Sound.prev_earlier (sound : Sound lock) {i p : Nat}
    (found : lock.calls[i]? = some call) (isPrev : call.prev = some p) :
    p < i ∧ ∃ before, lock.calls[p]? = some before ∧ before.key = call.key := by
  have behind : p ∈ lock.view.behind i := by
    rw [Lock.view, GateChains.ofList_behind _ _ found]
    exact isPrev
  rcases sound.orderly.backward i p behind with ⟨earlier, key, isKey, isKey'⟩
  rcases GateChains.exists_of_ofList_keys isKey with ⟨before, isBefore, rfl⟩
  rw [Lock.view, GateChains.ofList_keys _ _ found] at isKey'
  exact ⟨earlier, before, isBefore, isKey'⟩

/-- Once the earlier calls on its key have ended, a call begins without any further call. -/
theorem Sound.begins (sound : Sound lock)
    (found : lock.calls[i]? = some call) (queued : call.stage = .queued)
    (ended : ∀ m other, m < i → lock.calls[m]? = some other → other.key = call.key →
      other.stage.hasEnded = true) :
    ∃ reactions, (∀ event ∈ reactions, Event.isReaction event = true) ∧
      (run Lock.step lock reactions).calls[i]? = some (call.atStage .inBody) := by
  by_cases free : lock.prevSettled call = true
  · refine ⟨[.startBody i], ?_, step_startBody found queued free⟩
    intro event listed
    cases List.mem_singleton.mp listed
    rfl
  · -- then `prev` has ended and its `tail` is still to settle
    cases prev : call.prev with
    | none => exact absurd (by rw [Lock.prevSettled, prev]) free
    | some p =>
      rcases sound.prev_earlier found prev with ⟨earlier, before, isBefore, sameKey⟩
      have notReleased : before.stage.hasReleased ≠ true := by
        intro released
        refine free ?_
        rw [Lock.prevSettled, prev]
        simp only [isBefore, Option.any_some, released]
      have settled : before.stage = .settled := by
        have hasEnded := ended p before earlier isBefore sameKey
        cases stage : before.stage with
        | queued | inBody =>
          rw [stage] at hasEnded
          cases hasEnded
        | settled => rfl
        | released | tidied =>
          rw [stage] at notReleased
          exact absurd rfl notReleased
      refine ⟨[.settleTail p, .startBody i], ?_, ?_⟩
      · intro event listed
        rcases List.mem_pair.mp listed with rfl | rfl
        · rfl
        · rfl
      · rw [run_cons, step_settleTail isBefore settled]
        refine step_startBody ?_ queued ?_
        · exact (getElem?_modify_of_ne earlier.ne').trans found
        · rw [Lock.prevSettled, prev]
          simp only [getElem?_modify_self isBefore, Option.any_some]
          rfl

/-- No promise reaction of the calls on a key is outstanding. -/
def Quiet (lock : Lock Outcome) (key : String) : Prop :=
  ∀ i call, lock.calls[i]? = some call → call.key = key →
    ∀ event ∈ [.startBody i, .settleTail i, .tidy i], lock.step event = lock

/-- With no reaction outstanding, a call that has ended has removed itself. -/
theorem Quiet.tidied (quiet : Quiet lock call.key)
    (found : lock.calls[i]? = some call) (ended : call.stage.hasEnded = true) :
    call.stage = .tidied := by
  cases stage : call.stage with
  | queued | inBody =>
    rw [stage] at ended
    cases ended
  | settled =>
    have same := quiet i call found rfl (.settleTail i) (by simp)
    rw [step_settleTail found stage] at same
    have moved : (lock.modify i fun call => call.atStage .released).calls[i]? =
        some (call.atStage .released) := getElem?_modify_self found
    rw [same, found, Option.some.injEq] at moved
    rw [moved] at stage
    cases stage
  | released =>
    have same := quiet i call found rfl (.tidy i) (by simp)
    have moved : (lock.step (.tidy i)).calls[i]? = some (call.atStage .tidied) := by
      simp only [Lock.step, found, stage, if_true]
      exact getElem?_modify_self found
    rw [same, found, Option.some.injEq] at moved
    rw [moved] at stage
    cases stage
  | tidied => rfl

/-- The same event, where the body of a call may settle otherwise. -/
def Event.relabel (change : Nat → Outcome → Outcome) : Event Outcome → Event Outcome
  | .settleBody i outcome => .settleBody i (change i outcome)
  | event => event

def Call.relabel (change : Outcome → Outcome) (call : Call Outcome) : Call Outcome :=
  { call with outcome := call.outcome.map change }

/-- The same calls with other outcomes. -/
def Lock.relabel (lock : Lock Outcome) (change : Nat → Outcome → Outcome) : Lock Outcome :=
  { lock with calls := relabelAll Call.relabel change lock.calls }

section Relabel

variable (change : Nat → Outcome → Outcome)

theorem prevSettled_relabel (i : Nat) (call : Call Outcome) :
    (lock.relabel change).prevSettled (call.relabel (change i)) = lock.prevSettled call := by
  cases prev : call.prev with
  | none => simp only [Lock.prevSettled, Call.relabel, prev]
  | some p =>
    simp only [Lock.prevSettled, Call.relabel, prev]
    exact any_relabelAll Call.relabel change lock.calls p fun _ => rfl

theorem modify_relabel {i : Nat} (move : Call Outcome → Call Outcome)
    {other : Call Outcome → Call Outcome}
    (commutes : ∀ call, other (call.relabel (change i)) = (move call).relabel (change i)) :
    (lock.relabel change).modify i other = (lock.modify i move).relabel change := by
  simp only [Lock.modify, Lock.relabel, modify_relabelAll Call.relabel change _ _ commutes]

theorem advance_relabel {i : Nat} {stage : Stage} (move : Call Outcome → Call Outcome)
    {other : Call Outcome → Call Outcome}
    (commutes : ∀ call, other (call.relabel (change i)) = (move call).relabel (change i)) :
    (lock.relabel change).advance i stage other = (lock.advance i stage move).relabel change := by
  have same : ((lock.relabel change).calls[i]?).any (fun call => decide (call.stage = stage)) =
      (lock.calls[i]?).any fun call => decide (call.stage = stage) :=
    any_relabelAll Call.relabel change lock.calls i fun _ => rfl
  rw [Lock.advance, Lock.advance, same, modify_relabel change move commutes]
  exact (apply_ite (Lock.relabel · change) ..).symm

/-- Whatever the bodies settle with, everything else goes the same way. -/
theorem step_relabel (event : Event Outcome) :
    (lock.relabel change).step (event.relabel change) = (lock.step event).relabel change := by
  cases event with
  | withKeyedLock key => simp [Event.relabel, Lock.step, Lock.take, Lock.relabel, Call.relabel]
  | startBody i =>
    have same : ((lock.relabel change).calls[i]?).any (lock.relabel change).prevSettled =
        (lock.calls[i]?).any lock.prevSettled :=
      any_relabelAll Call.relabel change lock.calls i (prevSettled_relabel change i)
    have event : (Event.startBody i : Event Outcome).relabel change = .startBody i := rfl
    rw [event, Lock.step, Lock.step, same,
      advance_relabel change (fun call => call.atStage .inBody) fun call => rfl]
    exact (apply_ite (Lock.relabel · change) ..).symm
  | settleBody | settleTail => exact advance_relabel change _ fun call => rfl
  | tidy i =>
    have image : (lock.relabel change).calls[i]? = (lock.calls[i]?).map (Call.relabel (change i)) :=
      getElem?_relabelAll ..
    simp only [Event.relabel, Lock.step, image]
    cases found : lock.calls[i]? with
    | none => rfl
    | some call =>
      simp only [Option.map_some]
      rw [modify_relabel change (fun call => call.atStage .tidied) fun call => rfl]
      have sameStage : (call.relabel (change i)).stage = call.stage := rfl
      by_cases released : call.stage = .released
      · rw [if_pos released, if_pos (sameStage.trans released)]
        rfl
      · rw [if_neg released, if_neg (sameStage ▸ released)]

end Relabel

/-! ## The law -/

/-- Calls on one key are served one after the other, and leave nothing behind. -/
structure Serial (lock : Lock Outcome) : Prop where
  /-- A body that has begun finds the bodies of the earlier calls on its key ended. -/
  inOrder : ∀ (i j : Nat) (first second : Call Outcome), i < j → lock.calls[i]? = some first →
    lock.calls[j]? = some second → first.key = second.key → second.stage ≠ .queued →
      first.stage.hasEnded = true
  /-- No two bodies of one key run. -/
  alone : ∀ (i j : Nat) (first second : Call Outcome), lock.calls[i]? = some first →
    lock.calls[j]? = some second → first.key = second.key → first.stage = .inBody →
      second.stage = .inBody → i = j
  /-- Once the bodies before it have ended, however they did, a body begins by itself. -/
  begins : ∀ (i : Nat) (call : Call Outcome), lock.calls[i]? = some call → call.stage = .queued →
    (∀ m other, m < i → lock.calls[m]? = some other → other.key = call.key →
      other.stage.hasEnded = true) →
    ∃ reactions : List (Event Outcome), (∀ event ∈ reactions, event.isReaction = true) ∧
      (run Lock.step lock reactions).calls[i]? = some (call.atStage .inBody)
  /-- When the promises of all calls on a key have settled and the reactions to them have run,
  the map has no entry for the key. -/
  clean : ∀ key, Quiet lock key →
    (∀ call ∈ lock.calls, call.key = key → call.stage.hasEnded = true) → lock.chains.get? key = none

theorem Stage.hasEnded_of_hasReleased (released : stage.hasReleased = true) :
    stage.hasEnded = true := by
  cases stage with
  | queued | inBody | settled => cases released
  | released | tidied => rfl

theorem Sound.serial (sound : Sound lock) : Serial lock where
  inOrder := fun i j first second before isFirst isSecond sameKey begun =>
    Stage.hasEnded_of_hasReleased (sound.order before isFirst isSecond sameKey begun)
  alone := fun i j first second isFirst isSecond sameKey inBody inBody' => by
    rcases Nat.lt_trichotomy i j with before | same | after
    · have released := sound.order before isFirst isSecond sameKey (by rw [inBody']; exact nofun)
      rw [inBody] at released
      cases released
    · exact same
    · have released :=
        sound.order after isSecond isFirst sameKey.symm (by rw [inBody]; exact nofun)
      rw [inBody'] at released
      cases released
  begins := fun i call found queued ended => sound.begins found queued ended
  clean := fun key quiet ended => by
    cases entry : lock.chains.get? key with
    | none => rfl
    | some i =>
      rcases sound.noted key i entry with ⟨call, found, rfl, here⟩
      have hasEnded := ended call (List.mem_of_getElem? found) rfl
      exact absurd (quiet.tidied found hasEnded) here

/-- After any calls with any outcomes, whatever the order of their promise reactions; and what a
body settles with reaches its own call only. -/
theorem withKeyedLock_serial (events : List (Event Outcome)) :
    Serial (run Lock.step Lock.empty events) ∧
      ∀ change, run Lock.step Lock.empty (events.map (Event.relabel change)) =
        (run Lock.step Lock.empty events).relabel change := by
  refine ⟨(sound_run events).serial, ?_⟩
  intro change
  have start : (Lock.empty : Lock Outcome).relabel change = Lock.empty := rfl
  have other := run_image (Lock.relabel · change) (Event.relabel change)
    (fun _ => step_relabel change) Lock.empty events
  rwa [start] at other

end KeyedLock

end Nightgate.Runtime
