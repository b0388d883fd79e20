import Nightgate.Library.GateChains
import Nightgate.Library.InsertionMap
import Nightgate.Library.Machine
import Nightgate.Library.Pointwise
import Nightgate.Library.Utf16
import Mathlib.Data.List.Sort

/-!
# Submit locks over several sessions

A submit locks the wallets it uses, all at once: it puts its gate at the end of the chain of each
of its sessions and waits for the gates it found there. The body runs when these have opened.
After it the gate opens, and the chains of unloaded wallets where no later call has put its gate
are removed.
-/

namespace Nightgate.Midnight

open Library

namespace SessionLocks

inductive Stage where
  /-- Waits for the gates it found. -/
  | queued
  /-- `fn` was called and has not settled. -/
  | inBody
  /-- The body has settled, and the `finally` block has run. -/
  | ended
  deriving DecidableEq

structure Call (Outcome : Type) where
  ordered : List String
  /-- The calls whose gates are waited for; none for `Promise.resolve()`. -/
  prevs : List (Option Nat)
  stage : Stage
  outcome : Option Outcome

/-- The chains hold the gate of a call as the number of the call. -/
structure Locks (Outcome : Type) where
  sessionChains : InsertionMap String Nat
  /-- The loaded wallets. -/
  facades : List String
  calls : List (Call Outcome)

inductive Event (Outcome : Type) where
  | withSessionLocks (keys : List String)
  | startBody (i : Nat)
  | settleBody (i : Nat) (outcome : Outcome)
  | setFacades (facades : List String)

/-- `[...new Set(keys)].sort()`. -/
def orderedKeys (keys : List String) : List String :=
  keys.eraseDups.insertionSort fun a b => CodeUnits.ofString a ≤ CodeUnits.ofString b

variable {Outcome : Type}

namespace Locks

def empty : Locks Outcome := ⟨InsertionMap.empty, [], []⟩

def modify (locks : Locks Outcome) (i : Nat) (change : Call Outcome → Call Outcome) :
    Locks Outcome :=
  { locks with calls := locks.calls.modify i change }

/-- The synchronous part of a call. Without keys it calls the body. -/
def take (locks : Locks Outcome) (keys : List String) : Locks Outcome :=
  let ordered := orderedKeys keys
  if ordered = [] then { locks with calls := locks.calls ++ [⟨[], [], .inBody, none⟩] }
  else
    { locks with
      sessionChains := ordered.foldl (fun chains key => chains.set key locks.calls.length)
        locks.sessionChains
      calls := locks.calls ++ [⟨ordered, ordered.map locks.sessionChains.get?, .queued, none⟩] }

def gateOpen (locks : Locks Outcome) : Option Nat → Bool
  | none => true
  | some i => (locks.calls[i]?).any fun call => call.stage = .ended

/-- The clean-up of one key: only the own gate of an unloaded wallet. -/
def cleanKey (facades : List String) (i : Nat) (chains : InsertionMap String Nat) (key : String) :
    InsertionMap String Nat :=
  if chains.get? key = some i ∧ key ∉ facades then chains.erase key else chains

def step (locks : Locks Outcome) : Event Outcome → Locks Outcome
  | .withSessionLocks keys => locks.take keys
  | .startBody i =>
    match locks.calls[i]? with
    | some call =>
      if call.stage = .queued ∧ call.prevs.all locks.gateOpen then
        locks.modify i fun call => { call with stage := .inBody }
      else locks
    | none => locks
  | .settleBody i outcome =>
    match locks.calls[i]? with
    | some call =>
      if call.stage = .inBody then
        { locks.modify i fun call => { call with stage := .ended, outcome := some outcome } with
          sessionChains :=
            call.ordered.foldl (cleanKey locks.facades i) locks.sessionChains }
      else locks
    | none => locks
  | .setFacades facades => { locks with facades }

end Locks

theorem get?_setKeys (chains : InsertionMap String Nat) (keys : List String) (i : Nat)
    (key : String) :
    (keys.foldl (fun chains key => chains.set key i) chains).get? key =
      if key ∈ keys then some i else chains.get? key := by
  induction keys generalizing chains with
  | nil => rfl
  | cons first rest ih =>
    rw [List.foldl_cons, ih]
    by_cases later : key ∈ rest
    · rw [if_pos later, if_pos (List.mem_cons_of_mem _ later)]
    · rw [if_neg later]
      by_cases same : key = first
      · subst same
        rw [if_pos (List.mem_cons_self ..), InsertionMap.get?_set_self]
      · rw [if_neg (by simp [same, later]), InsertionMap.get?_set_of_ne same]

variable {locks : Locks Outcome}

/-- Everything an event can do. -/
inductive Effect (locks : Locks Outcome) : Event Outcome → Locks Outcome → Prop
  | nothing (event : Event Outcome) : Effect locks event locks
  | take (keys : List String) : Effect locks (.withSessionLocks keys) (locks.take keys)
  | start {i : Nat} {call : Call Outcome} (found : locks.calls[i]? = some call)
      (queued : call.stage = .queued) (free : call.prevs.all locks.gateOpen) :
      Effect locks (.startBody i) (locks.modify i fun call => { call with stage := .inBody })
  | settle {i : Nat} {call : Call Outcome} (found : locks.calls[i]? = some call)
      (inBody : call.stage = .inBody) (outcome : Outcome) :
      Effect locks (.settleBody i outcome)
        { locks.modify i fun call => { call with stage := .ended, outcome := some outcome } with
          sessionChains := call.ordered.foldl (Locks.cleanKey locks.facades i) locks.sessionChains }
  | load (facades : List String) : Effect locks (.setFacades facades) { locks with facades }

theorem step_effect (event : Event Outcome) : Effect locks event (locks.step event) := by
  cases event with
  | withSessionLocks keys => exact .take keys
  | startBody i =>
    rw [Locks.step]
    split
    next call found =>
      split
      next passes => exact .start found passes.1 passes.2
      · exact .nothing _
    · exact .nothing _
  | settleBody i outcome =>
    rw [Locks.step]
    split
    next call found =>
      split
      next inBody => exact .settle found inBody outcome
      · exact .nothing _
    · exact .nothing _
  | setFacades facades => exact .load facades

/-! ## The calls as tickets -/

def Stage.phase : Stage → Phase
  | .queued => .waiting
  | .inBody => .inside
  | .ended => .left

theorem Stage.phase_eq_left {stage : Stage} : stage.phase = .left ↔ stage = .ended := by
  cases stage <;> simp [phase]

def reading : GateChains.Reading (Call Outcome) String where
  keys call := {key | key ∈ call.ordered}
  behind call := {m | some m ∈ call.prevs}
  phase call := call.stage.phase

def Locks.view (locks : Locks Outcome) : GateChains String :=
  GateChains.ofList reading locks.calls locks.sessionChains.get?

variable {call : Call Outcome} {i : Nat}

theorem view_phase (found : locks.calls[i]? = some call) :
    locks.view.phase i = call.stage.phase :=
  GateChains.ofList_phase _ _ found

theorem view_modify {change : Call Outcome → Call Outcome} (found : locks.calls[i]? = some call)
    (ordered : (change call).ordered = call.ordered) (prevs : (change call).prevs = call.prevs) :
    (locks.modify i change).view = locks.view.move i (change call).stage.phase :=
  GateChains.ofList_modify reading _ found (by simp only [reading, ordered])
    (by simp only [reading, prevs])

theorem gateOpen_iff {m : Nat} : locks.gateOpen (some m) = true ↔ locks.view.phase m = .left := by
  cases found : locks.calls[m]? with
  | none => simp [Locks.gateOpen, Locks.view, GateChains.ofList, found]
  | some call =>
    rw [view_phase found, Stage.phase_eq_left]
    simp [Locks.gateOpen, found]

/-- A body starts when the gates it waits for are open. -/
theorem view_free (found : locks.calls[i]? = some call) :
    locks.view.Free i ↔ call.stage = .queued ∧ call.prevs.all locks.gateOpen = true := by
  have behind : locks.view.behind i = {m | some m ∈ call.prevs} :=
    GateChains.ofList_behind _ _ found
  have waiting : call.stage.phase = .waiting ↔ call.stage = .queued := by
    cases call.stage <;> simp [Stage.phase]
  rw [GateChains.Free, behind, view_phase found, waiting, List.all_eq_true]
  refine and_congr_right fun _ => ?_
  constructor
  · intro gone prev listed
    cases prev with
    | none => rfl
    | some m => exact gateOpen_iff.mpr (gone m listed)
  · intro opened m listed
    exact gateOpen_iff.mp (opened _ listed)

theorem view_take {keys : List String} (some' : orderedKeys keys ≠ []) :
    (locks.take keys).view = locks.view.take {key | key ∈ orderedKeys keys} := by
  rw [Locks.take, if_neg some']
  apply GateChains.ofList_append reading
  · ext m
    simp [reading]
  · rfl
  · intro key isKey
    exact (get?_setKeys ..).trans (if_pos isKey)
  · intro key notKey
    exact (get?_setKeys ..).trans (if_neg notKey)

/-- A call without keys takes a ticket for nothing and enters. -/
theorem view_take_nil {keys : List String} (nothing : orderedKeys keys = []) :
    Relation.ReflTransGen GateChains.Step locks.view (locks.take keys).view := by
  let waiting : Call Outcome := ⟨[], [], .queued, none⟩
  have taken : GateChains.ofList reading (locks.calls ++ [waiting]) locks.sessionChains.get? =
      locks.view.take {key | key ∈ ([] : List String)} := by
    apply GateChains.ofList_append reading
    · ext m
      simp [reading, waiting]
    · rfl
    · nofun
    · intro key _
      rfl
  have isLast : (locks.calls ++ [waiting])[locks.calls.length]? = some waiting :=
    List.getElem?_concat_length
  have calls : (locks.calls ++ [waiting]).modify locks.calls.length
      (fun call => { call with stage := .inBody }) = (locks.take keys).calls := by
    rw [modify_concat, Locks.take, if_pos nothing]
  have entered : (locks.take keys).view =
      (locks.view.take {key | key ∈ ([] : List String)}).move locks.calls.length .inside := by
    rw [← taken, Locks.view, ← calls]
    have chains : (locks.take keys).sessionChains = locks.sessionChains := by
      rw [Locks.take, if_pos nothing]
    rw [chains]
    exact GateChains.ofList_modify reading _ isLast rfl rfl
  rw [entered]
  refine .tail (.single (.take _)) (.enter ⟨GateChains.take_phase_self, ?_⟩)
  intro m isBehind
  rcases (GateChains.take_behind_self locks.view _) ▸ isBehind with ⟨key, isKey, -⟩
  cases isKey

theorem clean_steps {records : List (Call Outcome)} {facades : List String}
    (keys : List String) {chains : InsertionMap String Nat}
    (gone : (GateChains.ofList reading records chains.get?).phase i = .left) :
    Relation.ReflTransGen GateChains.Step (GateChains.ofList reading records chains.get?)
      (GateChains.ofList reading records (keys.foldl (Locks.cleanKey facades i) chains).get?) := by
  induction keys generalizing chains with
  | nil => exact .refl
  | cons key rest ih =>
    rw [List.foldl_cons]
    by_cases own : chains.get? key = some i ∧ key ∉ facades
    · rw [Locks.cleanKey, if_pos own]
      refine Relation.ReflTransGen.head ?_ (ih gone)
      rw [GateChains.ofList_drop _ _ (InsertionMap.get?_erase_self ..)
        fun _ distinct => InsertionMap.get?_erase_of_ne distinct]
      exact .drop own.1 gone
    · rw [Locks.cleanKey, if_neg own]
      exact ih gone

/-- Every event is some steps of the tickets, or none. -/
theorem Effect.steps {event : Event Outcome} {after : Locks Outcome}
    (effect : Effect locks event after) :
    Relation.ReflTransGen GateChains.Step locks.view after.view := by
  cases effect with
  | nothing | load => exact .refl
  | take keys =>
    by_cases nothing : orderedKeys keys = []
    · exact view_take_nil nothing
    · rw [view_take nothing]
      exact .single (.take _)
  | start found queued free =>
    rw [view_modify found rfl rfl]
    exact .single (.enter ((view_free found).mpr ⟨queued, free⟩))
  | @settle i call found inBody outcome =>
    have inside : locks.view.phase i = .inside := by
      rw [view_phase found, inBody]
      rfl
    have moved : (locks.modify i fun call =>
        { call with stage := .ended, outcome := some outcome }).view =
          locks.view.move i .left := view_modify found rfl rfl
    refine .head (.leave inside) ?_
    rw [← moved]
    refine clean_steps call.ordered ?_
    exact (congrArg (GateChains.phase · i) moved).trans GateChains.move_phase_self

theorem orderly_empty : (Locks.empty : Locks Outcome).view.Orderly := by
  have same : (Locks.empty : Locks Outcome).view = GateChains.empty :=
    GateChains.ext' rfl (fun _ => rfl) (fun _ => rfl) (fun _ => rfl) fun _ => rfl
  rw [same]
  exact GateChains.orderly_empty

theorem orderly_step (orderly : locks.view.Orderly) (event : Event Outcome) :
    (locks.step event).view.Orderly :=
  orderly.steps (step_effect event).steps

theorem orderly_run (events : List (Event Outcome)) :
    (run Locks.step Locks.empty events).view.Orderly := by
  have keeps : ∀ (locks : Locks Outcome) (event : Event Outcome), locks.view.Orderly → True →
      (locks.step event).view.Orderly := fun _ event orderly _ => orderly_step orderly event
  exact run_invariant keeps orderly_empty events (Along.trivial events)

/-- Two calls lock a session in common. -/
def Share (first second : Call Outcome) : Prop :=
  ∃ key, key ∈ first.ordered ∧ key ∈ second.ordered

theorem view_share {i j : Nat} {first second : Call Outcome}
    (isFirst : locks.calls[i]? = some first) (isSecond : locks.calls[j]? = some second) :
    locks.view.Share i j ↔ Share first second := by
  rw [Locks.view, GateChains.Share, GateChains.ofList_keys _ _ isFirst,
    GateChains.ofList_keys _ _ isSecond]
  exact Iff.rfl

theorem exists_call_of_share {i j : Nat} (shared : locks.view.Share i j) :
    ∃ call, locks.calls[i]? = some call := by
  rcases shared with ⟨key, isKey, -⟩
  rcases GateChains.exists_of_ofList_keys isKey with ⟨call, found, -⟩
  exact ⟨call, found⟩

/-- Of two calls that share a session the later begins only after the earlier has ended. -/
theorem order_of_orderly (orderly : locks.view.Orderly) {i j : Nat} {first second : Call Outcome}
    (before : i < j) (isFirst : locks.calls[i]? = some first)
    (isSecond : locks.calls[j]? = some second) (shared : Share first second)
    (begun : second.stage ≠ .queued) : first.stage = .ended := by
  rcases shared with ⟨key, isKey, isKey'⟩
  have entered : second.stage.phase ≠ .waiting := by
    cases stage : second.stage with
    | queued => exact absurd stage begun
    | inBody | ended => exact nofun
  exact Stage.phase_eq_left.mp (orderly.served_records before isFirst isSecond isKey isKey' entered)

theorem step_startBody (found : locks.calls[i]? = some call) (free : locks.view.Free i) :
    (locks.step (.startBody i)).calls[i]? = some { call with stage := .inBody } := by
  rw [view_free found] at free
  simp only [Locks.step, found, if_pos free, Locks.modify, List.getElem?_modify_eq,
    Option.map_eq_map, Option.map_some]

theorem free_of_orderly (orderly : locks.view.Orderly)
    (found : locks.calls[i]? = some call) (queued : call.stage = .queued)
    (ended : ∀ m other, m < i → locks.calls[m]? = some other → Share other call →
      other.stage = .ended) : locks.view.Free i := by
  refine orderly.free (by rw [view_phase found, queued]; rfl) ?_
  intro m before shared
  rcases exists_call_of_share shared with ⟨other, isOther⟩
  rw [view_phase isOther, Stage.phase_eq_left]
  exact ended m other before isOther ((view_share isOther found).mp shared)

/-- Where a call waits, a body runs or may begin. -/
theorem moves_of_orderly (orderly : locks.view.Orderly)
    (found : locks.calls[i]? = some call) (queued : call.stage = .queued) :
    ∃ j ≤ i, ∃ other, locks.calls[j]? = some other ∧ (other.stage = .inBody ∨
      (locks.step (.startBody j)).calls[j]? = some { other with stage := .inBody }) := by
  rcases orderly.moves (by rw [view_phase found, queued]; rfl) with ⟨j, upTo, moves⟩
  have inside : j < locks.calls.length :=
    lt_of_le_of_lt upTo (List.getElem?_eq_some_iff.mp found).1
  refine ⟨j, upTo, locks.calls[j], List.getElem?_eq_getElem inside, ?_⟩
  refine moves.imp ?_ (step_startBody (List.getElem?_eq_getElem inside))
  intro isInside
  rw [view_phase (List.getElem?_eq_getElem inside)] at isInside
  cases stage : locks.calls[j].stage with
  | queued | ended =>
    rw [stage] at isInside
    cases isInside
  | inBody => rfl

/-- The same event, where the body of a call may settle otherwise. -/
def Event.relabel (change : Nat → Outcome → Outcome) : Event Outcome → Event Outcome
  | .settleBody i outcome => .settleBody i (change i outcome)
  | event => event

def Call.relabel (change : Outcome → Outcome) (call : Call Outcome) : Call Outcome :=
  { call with outcome := call.outcome.map change }

/-- The same calls with other outcomes. -/
def Locks.relabel (locks : Locks Outcome) (change : Nat → Outcome → Outcome) : Locks Outcome :=
  { locks with calls := relabelAll Call.relabel change locks.calls }

section Relabel

variable (change : Nat → Outcome → Outcome)

@[simp] theorem gateOpen_relabel (prev : Option Nat) :
    (locks.relabel change).gateOpen prev = locks.gateOpen prev := by
  cases prev with
  | none => rfl
  | some p => exact any_relabelAll Call.relabel change locks.calls p fun _ => rfl

theorem modify_relabel {i : Nat} {move other : Call Outcome → Call Outcome}
    (commutes : ∀ call, other (call.relabel (change i)) = (move call).relabel (change i)) :
    (locks.relabel change).modify i other = (locks.modify i move).relabel change := by
  simp only [Locks.modify, Locks.relabel, modify_relabelAll Call.relabel change _ _ commutes]

theorem take_relabel (keys : List String) :
    (locks.relabel change).take keys = (locks.take keys).relabel change := by
  simp only [Locks.take]
  by_cases nothing : orderedKeys keys = [] <;> simp [nothing, Locks.relabel, Call.relabel]

/-- Whatever the bodies settle with, everything else goes the same way. -/
theorem step_relabel (event : Event Outcome) :
    (locks.relabel change).step (event.relabel change) = (locks.step event).relabel change := by
  have image (i : Nat) :
      (locks.relabel change).calls[i]? = (locks.calls[i]?).map (Call.relabel (change i)) :=
    getElem?_relabelAll ..
  cases event with
  | withSessionLocks keys => exact take_relabel change keys
  | startBody i =>
    have opened : (locks.relabel change).gateOpen = locks.gateOpen :=
      funext (gateOpen_relabel change)
    simp only [Event.relabel, Locks.step, image, opened]
    cases found : locks.calls[i]? with
    | none => rfl
    | some call =>
      simp only [Option.map_some, Call.relabel]
      by_cases passes : call.stage = .queued ∧ call.prevs.all locks.gateOpen = true
      · rw [if_pos passes, if_pos passes]
        exact modify_relabel change fun call => rfl
      · rw [if_neg passes, if_neg passes]
  | settleBody i outcome =>
    simp only [Event.relabel, Locks.step, image]
    cases found : locks.calls[i]? with
    | none => rfl
    | some call =>
      simp only [Option.map_some, Call.relabel]
      by_cases inBody : call.stage = .inBody
      · have moved : (locks.relabel change).modify i (fun call =>
            { call with stage := .ended, outcome := some (change i outcome) }) =
          (locks.modify i fun call =>
            { call with stage := .ended, outcome := some outcome }).relabel change :=
          modify_relabel change fun call => rfl
        rw [if_pos inBody, if_pos inBody, moved]
        rfl
      · rw [if_neg inBody, if_neg inBody]
  | setFacades facades => rfl

end Relabel

/-! ## The law -/

/-- Calls that share a session are served one after the other, and none waits for good. -/
structure Exclusive (locks : Locks Outcome) : Prop where
  /-- A body that has begun finds the earlier bodies that share a session ended. -/
  inOrder : ∀ (i j : Nat) (first second : Call Outcome), i < j → locks.calls[i]? = some first →
    locks.calls[j]? = some second → Share first second → second.stage ≠ .queued →
      first.stage = .ended
  /-- No two bodies that share a session run. -/
  alone : ∀ (i j : Nat) (first second : Call Outcome), locks.calls[i]? = some first →
    locks.calls[j]? = some second → Share first second → first.stage = .inBody →
      second.stage = .inBody → i = j
  /-- Calls wait for earlier calls that share a session, so not in a cycle. -/
  waitsForEarlier : ∀ (i m : Nat) (call : Call Outcome), locks.calls[i]? = some call →
    some m ∈ call.prevs → m < i ∧ ∃ other, locks.calls[m]? = some other ∧ Share other call
  /-- Once the bodies before it have ended, however they did, a body may begin. -/
  begins : ∀ (i : Nat) (call : Call Outcome), locks.calls[i]? = some call → call.stage = .queued →
    (∀ m other, m < i → locks.calls[m]? = some other → Share other call → other.stage = .ended) →
    (locks.step (.startBody i)).calls[i]? = some { call with stage := .inBody }
  /-- Where a call waits, a body runs or may begin. -/
  moves : ∀ (i : Nat) (call : Call Outcome), locks.calls[i]? = some call →
    call.stage = .queued → ∃ j ≤ i, ∃ other, locks.calls[j]? = some other ∧ (other.stage = .inBody ∨
        (locks.step (.startBody j)).calls[j]? = some { other with stage := .inBody })
  /-- A chain is removed only when no call waits on it. -/
  removes : ∀ (event : Event Outcome) (key : String),
    (locks.sessionChains.get? key).isSome → (locks.step event).sessionChains.get? key = none →
      ∀ call ∈ (locks.step event).calls, key ∈ call.ordered → call.stage = .ended

theorem exclusive_of_orderly (orderly : locks.view.Orderly) : Exclusive locks where
  inOrder := fun i j first second before isFirst isSecond shared begun =>
    order_of_orderly orderly before isFirst isSecond shared begun
  alone := fun i j first second isFirst isSecond shared inBody inBody' => by
    rcases Nat.lt_trichotomy i j with before | same | after
    · have ended :=
        order_of_orderly orderly before isFirst isSecond shared (by rw [inBody']; exact nofun)
      rw [inBody] at ended
      cases ended
    · exact same
    · rcases shared with ⟨key, isKey, isKey'⟩
      have ended := order_of_orderly orderly after isSecond isFirst ⟨key, isKey', isKey⟩
        (by rw [inBody]; exact nofun)
      rw [inBody'] at ended
      cases ended
  waitsForEarlier := fun i m call found isPrev => by
    have behind : m ∈ locks.view.behind i := by
      rw [Locks.view, GateChains.ofList_behind _ _ found]
      exact isPrev
    rcases orderly.backward i m behind with ⟨earlier, shared⟩
    rcases exists_call_of_share shared with ⟨other, isOther⟩
    exact ⟨earlier, other, isOther, (view_share isOther found).mp shared⟩
  begins := fun i call found queued ended =>
    step_startBody found (free_of_orderly orderly found queued ended)
  moves := fun i call found queued => moves_of_orderly orderly found queued
  removes := fun event key _ removed call listed isKey => by
    rcases List.getElem?_of_mem listed with ⟨i, found⟩
    have after := orderly_step orderly event
    have isKey' : key ∈ (locks.step event).view.keys i := by
      rw [Locks.view, GateChains.ofList_keys _ _ found]
      exact isKey
    have gone := after.dropped key i removed isKey'
    rw [view_phase found] at gone
    exact Stage.phase_eq_left.mp gone

/-- After any calls with any keys and any outcomes; and what a body settles with reaches its own
call only. -/
theorem withSessionLocks_exclusive (events : List (Event Outcome)) :
    Exclusive (run Locks.step Locks.empty events) ∧
      ∀ change, run Locks.step Locks.empty (events.map (Event.relabel change)) =
        (run Locks.step Locks.empty events).relabel change := by
  refine ⟨exclusive_of_orderly (orderly_run events), ?_⟩
  intro change
  have start : (Locks.empty : Locks Outcome).relabel change = Locks.empty := rfl
  have other := run_image (Locks.relabel · change) (Event.relabel change)
    (fun _ => step_relabel change) Locks.empty events
  rwa [start] at other

end SessionLocks

end Nightgate.Midnight
