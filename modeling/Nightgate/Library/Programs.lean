import Nightgate.Library.Machine
import Nightgate.Library.Pointwise

/-!
# Calls that run statements against a shared store

A call is a program: the statement it runs next, and how it goes on with the reply. Several
calls run their statements one at a time and in any order. What a call does is proved over
the program alone, from what it has learnt of the replies; what an interleaving keeps follows
from one rule, as long as no statement of one call spoils what another call has learnt.
-/

namespace Nightgate.Library

/-- A call in progress. -/
inductive Program (Statement : Type) (Reply : Statement → Type) (Error Result : Type) where
  | done (result : Result)
  | fail (error : Error)
  | run (statement : Statement) (next : Reply statement → Program Statement Reply Error Result)

namespace Program

variable {Statement : Type} {Reply : Statement → Type} {Error Result Next : Type}

def bind (program : Program Statement Reply Error Result)
    (next : Result → Program Statement Reply Error Next) :
    Program Statement Reply Error Next :=
  match program with
  | .done result => next result
  | .fail error => .fail error
  | .run statement rest => .run statement fun reply => (rest reply).bind next

instance : Monad (Program Statement Reply Error) where
  pure := .done
  bind := bind

/-- One statement. -/
def perform (statement : Statement) : Program Statement Reply Error (Reply statement) :=
  .run statement .done

/-- A `try` whose `catch` is empty. -/
def attempt (program : Program Statement Reply Error Unit) :
    Program Statement Reply Error Unit :=
  match program with
  | .done result => .done result
  | .fail _ => .done ()
  | .run statement rest => .run statement fun reply => (rest reply).attempt

section Alone

variable {Store : Type} (execute : Store → (statement : Statement) → Store × Reply statement)

/-- What a call makes of a store that no other call uses, and how it ends. -/
def alone : Program Statement Reply Error Result → Store → Store × Except Error Result
  | .done result, store => (store, .ok result)
  | .fail error, store => (store, .error error)
  | .run statement next, store =>
    (next (execute store statement).2).alone (execute store statement).1

variable {execute}

/-- The rule of sequence: the second program runs on what the first one leaves, if it ends well. -/
theorem alone_bind (program : Program Statement Reply Error Result)
    (next : Result → Program Statement Reply Error Next) (store : Store) :
    (program >>= next).alone execute store =
      match program.alone execute store with
      | (left, .ok result) => (next result).alone execute left
      | (left, .error error) => (left, .error error) := by
  induction program generalizing store with
  | done | fail => rfl
  | run statement rest ih => exact ih (execute store statement).2 (execute store statement).1

theorem alone_attempt (program : Program Statement Reply Error Unit) (store : Store) :
    program.attempt.alone execute store = ((program.alone execute store).1, .ok ()) := by
  induction program generalizing store with
  | done | fail => rfl
  | run statement rest ih => exact ih (execute store statement).2 (execute store statement).1

end Alone

section Keeps

variable {Knowledge : Type*} (permits : Knowledge → Statement → Prop)
  (learn : Knowledge → (statement : Statement) → Reply statement → Knowledge)

/-- Whatever the replies are, the program runs only statements that its knowledge permits. An
end, with a result or an error, leaves it with knowledge as `post` says. -/
def Keeps (post : Knowledge → Except Error Result → Prop) :
    Knowledge → Program Statement Reply Error Result → Prop
  | know, .done result => post know (.ok result)
  | know, .fail error => post know (.error error)
  | know, .run statement next =>
    permits know statement ∧ ∀ reply, Keeps post (learn know statement reply) (next reply)

variable {permits learn} {know : Knowledge} {post weaker : Knowledge → Except Error Result → Prop}
  {program : Program Statement Reply Error Result}

theorem Keeps.imp (keeps : program.Keeps permits learn post know)
    (implies : ∀ know result, post know result → weaker know result) :
    program.Keeps permits learn weaker know := by
  induction program generalizing know with
  | done result => exact implies know (.ok result) keeps
  | fail error => exact implies know (.error error) keeps
  | run statement next ih => exact ⟨keeps.1, fun reply => ih reply (keeps.2 reply)⟩

variable {next : Result → Program Statement Reply Error Next}

/-- The rule of sequence: the second program starts with what the first one has learnt. -/
theorem Keeps.bind
    {post : Knowledge → Except Error Next → Prop}
    (first : program.Keeps permits learn (fun know result =>
        match result with
        | .ok value => (next value).Keeps permits learn post know
        | .error error => post know (.error error)) know) :
    (program >>= next).Keeps permits learn post know := by
  induction program generalizing know with
  | done | fail => exact first
  | run statement rest ih => exact ⟨first.1, fun reply => ih reply (first.2 reply)⟩

theorem Keeps.trivial (keeps : program.Keeps permits learn post know) :
    program.Keeps permits learn (fun _ _ => True) know :=
  keeps.imp fun _ _ _ => True.intro

/-- The rule of sequence for a second program that may start with any knowledge. -/
theorem Keeps.then (first : program.Keeps permits learn post know)
    (second : ∀ value know, (next value).Keeps permits learn (fun _ _ => True) know) :
    (program >>= next).Keeps permits learn (fun _ _ => True) know := by
  apply Keeps.bind
  apply first.imp
  intro later result _
  cases result with
  | ok value => exact second value later
  | error error => exact True.intro

/-- The rule of a statement: the program goes on with whatever the reply is. -/
theorem Keeps.statement {statement : Statement}
    {next : Reply statement → Program Statement Reply Error Next}
    {post : Knowledge → Except Error Next → Prop} (allowed : permits know statement)
    (after : ∀ reply, (next reply).Keeps permits learn post (learn know statement reply)) :
    (perform statement >>= next).Keeps permits learn post know :=
  ⟨allowed, after⟩

theorem Keeps.attempt {program : Program Statement Reply Error Unit}
    {post : Knowledge → Except Error Unit → Prop}
    (keeps : program.Keeps permits learn (fun know _ => post know (.ok ())) know) :
    program.attempt.Keeps permits learn post know := by
  induction program generalizing know with
  | done | fail => exact keeps
  | run statement rest ih => exact ⟨keeps.1, fun reply => ih reply (keeps.2 reply)⟩

/-- The loop rule: what one round keeps, all rounds keep. -/
theorem Keeps.foldlM {Item Total : Type} (invariant : Knowledge → Prop)
    {round : Total → Item → Program Statement Reply Error Total} {items : List Item}
    (each : ∀ total, ∀ item ∈ items, ∀ know, invariant know →
      (round total item).Keeps permits learn (fun know _ => invariant know) know)
    (total : Total) (initially : invariant know) :
    (items.foldlM round total).Keeps permits learn (fun know _ => invariant know) know := by
  induction items generalizing total know with
  | nil => exact initially
  | cons item rest ih =>
    rw [List.foldlM_cons]
    apply Keeps.bind
    apply (each total item List.mem_cons_self know initially).imp
    intro later result held
    cases result with
    | ok value =>
      exact ih (fun total item listed => each total item (List.mem_cons_of_mem _ listed)) value held
    | error error => exact held

end Keeps

end Program

/-! ## Interleavings -/

/-- A statement that was run, with its reply. -/
structure Executed (Statement : Type) (Reply : Statement → Type) where
  caller : Nat
  statement : Statement
  reply : Reply statement

/-- A store, the calls in progress on it, and what was run, the last statement first. -/
structure Calls (Store Statement : Type) (Reply : Statement → Type) (Error Result : Type) where
  store : Store
  pending : Nat → Option (Program Statement Reply Error Result)
  history : List (Executed Statement Reply)

inductive CallEvent (Call : Type) where
  | start (caller : Nat) (call : Call)
  /-- The next statement of a call. -/
  | proceed (caller : Nat)

namespace Calls

variable {Store Statement Call Error Result : Type} {Reply : Statement → Type}

def start (store : Store) : Calls Store Statement Reply Error Result where
  store := store
  pending := fun _ => none
  history := []

section Step

variable (execute : Store → (statement : Statement) → Store × Reply statement)
  (program : Call → Program Statement Reply Error Result)

/-- One statement of a call. -/
def proceed (s : Calls Store Statement Reply Error Result) (caller : Nat) :
    Calls Store Statement Reply Error Result :=
  match s.pending caller with
  | some (.run statement next) =>
    let outcome := execute s.store statement
    { store := outcome.1
      pending := Function.update s.pending caller (some (next outcome.2))
      history := ⟨caller, statement, outcome.2⟩ :: s.history }
  | _ => s

def step (s : Calls Store Statement Reply Error Result) :
    CallEvent Call → Calls Store Statement Reply Error Result
  | .start caller call =>
    if (s.pending caller).isSome then s
    else { s with pending := Function.update s.pending caller (some (program call)) }
  | .proceed caller => s.proceed execute caller

end Step

/-- The next statement of a call, if there is one, is as `holds` says. -/
def NextIs (holds : Statement → Prop) : Option (Program Statement Reply Error Result) → Prop
  | some (.run statement _) => holds statement
  | _ => True

instance {holds : Statement → Prop} [∀ statement, Decidable (holds statement)] :
    (pending : Option (Program Statement Reply Error Result)) → Decidable (NextIs holds pending)
  | none => isTrue trivial
  | some (.done _) => isTrue trivial
  | some (.fail _) => isTrue trivial
  | some (.run statement _) => inferInstanceAs (Decidable (holds statement))

/-- The statement an event runs, if it runs one, is one that `admits` allows. -/
def Admits (admits : Nat → Statement → Store → List (Executed Statement Reply) → Prop)
    (s : Calls Store Statement Reply Error Result) : CallEvent Call → Prop
  | .start _ _ => True
  | .proceed caller =>
    NextIs (fun statement => admits caller statement s.store s.history) (s.pending caller)

instance {admits : Nat → Statement → Store → List (Executed Statement Reply) → Prop}
    [∀ caller statement store history, Decidable (admits caller statement store history)]
    (s : Calls Store Statement Reply Error Result) :
    (event : CallEvent Call) → Decidable (s.Admits admits event)
  | .start _ _ => isTrue trivial
  | .proceed caller => inferInstanceAs (Decidable (NextIs _ (s.pending caller)))

section Rule

variable {execute : Store → (statement : Statement) → Store × Reply statement}
  {program : Call → Program Statement Reply Error Result}
  {Knowledge : Type*} {permits : Knowledge → Statement → Prop}
  {learn : Knowledge → (statement : Statement) → Reply statement → Knowledge}
  {post : Knowledge → Except Error Result → Prop}
  {law : Store → List (Executed Statement Reply) → Prop}
  {fits : Nat → Knowledge → Store → List (Executed Statement Reply) → Prop}
  {admits : Nat → Statement → Store → List (Executed Statement Reply) → Prop}

/-- The law holds, and every call keeps to what its knowledge permits, which is true. -/
structure Sound (permits : Knowledge → Statement → Prop)
    (learn : Knowledge → (statement : Statement) → Reply statement → Knowledge)
    (post : Knowledge → Except Error Result → Prop)
    (law : Store → List (Executed Statement Reply) → Prop)
    (fits : Nat → Knowledge → Store → List (Executed Statement Reply) → Prop)
    (s : Calls Store Statement Reply Error Result) : Prop where
  law : law s.store s.history
  calls : ∀ caller program, s.pending caller = some program →
    ∃ know, program.Keeps permits learn post know ∧ fits caller know s.store s.history

/-- What a statement must do: keep the law, teach its caller something true, and leave true
what the other calls have learnt. -/
structure Careful (execute : Store → (statement : Statement) → Store × Reply statement)
    (permits : Knowledge → Statement → Prop)
    (learn : Knowledge → (statement : Statement) → Reply statement → Knowledge)
    (law : Store → List (Executed Statement Reply) → Prop)
    (fits : Nat → Knowledge → Store → List (Executed Statement Reply) → Prop)
    (admits : Nat → Statement → Store → List (Executed Statement Reply) → Prop) : Prop where
  keeps : ∀ caller statement store history know, law store history →
    fits caller know store history → permits know statement →
    admits caller statement store history → law (execute store statement).1
        (⟨caller, statement, (execute store statement).2⟩ :: history)
  learnt : ∀ caller statement store history know, law store history →
    fits caller know store history → permits know statement →
    admits caller statement store history →
      fits caller (learn know statement (execute store statement).2) (execute store statement).1
        (⟨caller, statement, (execute store statement).2⟩ :: history)
  others : ∀ caller statement store history other know, law store history →
    other ≠ caller → fits other know store history → fits other know (execute store statement).1
        (⟨caller, statement, (execute store statement).2⟩ :: history)

theorem Sound.step {s : Calls Store Statement Reply Error Result}
    (careful : Careful execute permits learn law fits admits)
    (starts : ∀ caller call store history, ∃ know,
      (program call).Keeps permits learn post know ∧ fits caller know store history)
    (sound : s.Sound permits learn post law fits) (event : CallEvent Call)
    (admitted : s.Admits admits event) :
    (s.step execute program event).Sound permits learn post law fits := by
  cases event with
  | start caller call =>
    simp only [Calls.step]
    split
    · exact sound
    · refine ⟨sound.law, ?_⟩
      intro other running isRunning
      rcases mem_update isRunning with ⟨rfl, ⟨⟩⟩ | ⟨same, isRunning⟩
      · exact starts other call s.store s.history
      · exact sound.calls other running isRunning
  | proceed caller =>
    simp only [Calls.step, proceed]
    split
    next statement next isPending =>
      simp only [Admits, isPending, NextIs] at admitted
      rcases sound.calls caller _ isPending with ⟨know, keeps, fit⟩
      constructor
      · exact careful.keeps caller statement s.store s.history know sound.law fit keeps.1 admitted
      · intro other running isRunning
        rcases mem_update isRunning with ⟨rfl, ⟨⟩⟩ | ⟨same, isRunning⟩
        · refine ⟨_, keeps.2 _, ?_⟩
          exact careful.learnt other statement s.store s.history know sound.law fit keeps.1 admitted
        · rcases sound.calls other running isRunning with ⟨otherKnow, otherKeeps, otherFit⟩
          refine ⟨otherKnow, otherKeeps, ?_⟩
          exact careful.others caller statement s.store s.history other otherKnow sound.law
            same otherFit
    · exact sound

theorem sound_start {store : Store} (initially : law store []) :
    (start store : Calls Store Statement Reply Error Result).Sound permits learn post law
      fits := by
  refine ⟨initially, ?_⟩
  intro caller running impossible
  cases impossible

/-- The interleavings that keep the law all along the way are those whose statements are
admitted, if a statement that is not admitted breaks it. -/
theorem along_iff_law (careful : Careful execute permits learn law fits admits)
    (breaks : ∀ caller statement store history know, law store history →
      fits caller know store history → permits know statement → law (execute store statement).1
          (⟨caller, statement, (execute store statement).2⟩ :: history) →
        admits caller statement store history)
    (starts : ∀ caller call store history, ∃ know,
      (program call).Keeps permits learn post know ∧ fits caller know store history)
    {store : Store} (initially : law store []) (events : List (CallEvent Call)) :
    Along (step execute program) (Admits admits) (start store) events ↔
      ∀ earlier, earlier <+: events → law (run (step execute program) (start store) earlier).store
          (run (step execute program) (start store) earlier).history := by
  have implied : ∀ s : Calls Store Statement Reply Error Result,
      s.Sound permits learn post law fits → law s.store s.history :=
    fun s sound => sound.law
  have keeps : ∀ (s : Calls Store Statement Reply Error Result) (event : CallEvent Call),
      s.Sound permits learn post law fits → s.Admits admits event →
        (s.step execute program event).Sound permits learn post law fits :=
    fun s event sound admitted => sound.step careful starts event admitted
  apply Library.along_iff_law implied keeps _ (sound_start initially) events
  intro s event sound after
  cases event with
  | start caller call => exact True.intro
  | proceed caller =>
    simp only [Calls.step, proceed] at after
    simp only [Admits]
    cases isPending : s.pending caller with
    | none => exact True.intro
    | some running =>
      cases running with
      | done | fail => exact True.intro
      | run statement next =>
        rw [isPending] at after
        rcases sound.calls caller _ isPending with ⟨know, keeps, fit⟩
        exact breaks caller statement s.store s.history know sound.law fit keeps.1 after

end Rule

end Calls

end Nightgate.Library
