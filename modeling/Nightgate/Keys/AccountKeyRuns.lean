import Nightgate.Keys.AccountKeys
import Nightgate.Library.Machine
import Nightgate.Library.Pointwise

/-!
# The cache of account keys

Calls for an account share one lookup while it runs and its result afterwards. Both are
found by the account alone, so what a call gets can depend on the password of another one.
-/

namespace Nightgate.Keys

open Library

structure CallArgs where
  accountId : String
  storagePassword : Option String
  create : Bool
  readOnly : Bool

/-- An entry of the cache. Password hashes stand for their passwords. -/
structure CacheEntry where
  dek : Dek
  keyId : KeyId
  passwordHash : Option String

/-- Where a lookup waits for the database. -/
inductive LookupPhase where
  | reading
  | updating (patch : RowPatch) (dek : Dek)
  | inserting
  /-- The insert failed. -/
  | rereading
  deriving DecidableEq

/-- A lookup, with the calls that wait for it. Its id is its token. -/
structure DekLookup where
  args : CallArgs
  phase : LookupPhase
  callers : List CallArgs

/-- `returned` are the calls that ended in the last step. -/
structure KeyServer where
  rows : String → Option AccountKeyRow
  cache : String → Option CacheEntry
  inflight : String → Option Nat
  lookups : Nat → Option DekLookup
  nextId : Nat
  returned : List (CallArgs × DekOutcome)

def KeyServer.initial (rows : String → Option AccountKeyRow) : KeyServer where
  rows := rows
  cache := fun _ => none
  inflight := fun _ => none
  lookups := fun _ => none
  nextId := 0
  returned := []

/-- A statement of a lookup can fail. -/
inductive KeyEvent where
  | call (args : CallArgs)
  | read (id nonce : Nat) (succeeds : Bool)
  | update (id : Nat) (succeeds : Bool)
  | insert (id : Nat) (dek : Dek) (nonce : Nat) (succeeds : Bool)
  | reread (id : Nat) (succeeds : Bool)
  | evictAccountDek (accountId : String)
  | clearAllAccountDeks

/-- The ring of the process, and whether it accepts unbound values. -/
structure KeyPolicy where
  ring : KeyRing
  acceptUnbound : Bool

def KeyPolicy.context (policy : KeyPolicy) (accountId : String) : KeyContext :=
  ⟨policy.ring, policy.acceptUnbound, accountId⟩

namespace KeyServer

/-- A lookup ends: its calls get its outcome, and new calls find it no more. -/
def finish (state : KeyServer) (id : Nat) (lookup : DekLookup) (outcome : DekOutcome) :
    KeyServer :=
  { state with
    lookups := Function.update state.lookups id none
    inflight :=
      if state.inflight lookup.args.accountId = some id then
        Function.update state.inflight lookup.args.accountId none
      else state.inflight
    returned := lookup.callers.map fun caller => (caller, outcome) }

/-- A lookup goes on to its next statement. -/
def setPhase (state : KeyServer) (id : Nat) (lookup : DekLookup) (phase : LookupPhase) :
    KeyServer :=
  { state with lookups := Function.update state.lookups id (some { lookup with phase }) }

/-- `storeDek`: the key is cached if the account was not evicted since. -/
def storeDek (state : KeyServer) (policy : KeyPolicy) (id : Nat) (args : CallArgs) (dek : Dek) :
    KeyServer :=
  if state.inflight args.accountId = some id then
    { state with
      cache := Function.update state.cache args.accountId
        (some ⟨dek, policy.ring.activeId, args.storagePassword⟩) }
  else state

/-- A lookup found the key. -/
def found (state : KeyServer) (policy : KeyPolicy) (id : Nat) (lookup : DekLookup) (dek : Dek) :
    KeyServer :=
  (state.storeDek policy id lookup.args dek).finish id lookup (.dek dek)

end KeyServer

/-- `resolveAccountDek`, up to its first wait. -/
def callStep (state : KeyServer) (policy : KeyPolicy) (args : CallArgs) : KeyServer :=
  match (state.cache args.accountId).filter (·.keyId = policy.ring.activeId) with
  | some cached =>
    -- A given storage password must match, even when the key is cached.
    if args.storagePassword.isSome ∧ cached.passwordHash.isSome ∧
        cached.passwordHash ≠ args.storagePassword then
      { state with returned := [(args, .refused)] }
    else { state with returned := [(args, .dek cached.dek)] }
  | none =>
    match state.inflight args.accountId with
    | some id =>
      { state with
        lookups := Function.update state.lookups id ((state.lookups id).map fun lookup =>
          { lookup with callers := lookup.callers ++ [args] })
        returned := [] }
    | none =>
      { state with
        lookups := Function.update state.lookups state.nextId (some ⟨args, .reading, [args]⟩)
        inflight := Function.update state.inflight args.accountId (some state.nextId)
        nextId := state.nextId + 1
        returned := [] }

/-- The first statement of `resolveUncached`, and what it decides. -/
def readStep (state : KeyServer) (policy : KeyPolicy) (id nonce : Nat) (lookup : DekLookup) :
    KeyServer :=
  let args := lookup.args
  let context := policy.context args.accountId
  match state.rows args.accountId with
  | none =>
    if args.create ∧ args.storagePassword.isSome then state.setPhase id lookup .inserting
    else state.finish id lookup .absent
  | some row =>
    match openRow context row args.storagePassword with
    | .error failure => state.finish id lookup (.ofFailure failure)
    | .ok opened =>
      match rewrapRow context row opened args.storagePassword nonce with
      | .error failure => state.finish id lookup (.ofFailure failure)
      | .ok patch =>
        if patch.isEmpty ∨ args.readOnly then state.found policy id lookup opened.dek
        else state.setPhase id lookup (.updating patch opened.dek)

/-- One statement of a lookup. -/
def lookupStep (state : KeyServer) (policy : KeyPolicy) (id : Nat) (lookup : DekLookup) :
    KeyEvent → KeyServer
  | .read _ nonce succeeds =>
    if lookup.phase = .reading then
      if succeeds then readStep state policy id nonce lookup
      else state.finish id lookup .failed
    else state
  | .update _ succeeds =>
    match lookup.phase with
    | .updating patch dek =>
      if succeeds then
        let written := { state with
          rows := Function.update state.rows lookup.args.accountId
            ((state.rows lookup.args.accountId).map patch.apply) }
        written.found policy id lookup dek
      else state.finish id lookup .failed
    | _ => state
  | .insert _ dek nonce succeeds =>
    match lookup.phase, lookup.args.storagePassword with
    | .inserting, some password =>
      if succeeds ∧ state.rows lookup.args.accountId = none then
        let written := { state with
          rows := Function.update state.rows lookup.args.accountId
            (some (newRow (policy.context lookup.args.accountId) dek password nonce)) }
        written.found policy id lookup dek
      else state.setPhase id lookup .rereading
    | _, _ => state
  | .reread _ succeeds =>
    if lookup.phase = .rereading then
      if succeeds ∧ (state.rows lookup.args.accountId).isSome then
        state.setPhase id lookup .reading
      else state.finish id lookup .failed
    else state
  | _ => state

/-- The lookup an event belongs to. -/
def KeyEvent.lookupId : KeyEvent → Option Nat
  | .read id _ _ => some id
  | .update id _ => some id
  | .insert id _ _ _ => some id
  | .reread id _ => some id
  | _ => none

def keyStep (policy : KeyPolicy) (state : KeyServer) (event : KeyEvent) : KeyServer :=
  let state := { state with returned := [] }
  match event with
  | .call args => callStep state policy args
  | .evictAccountDek accountId =>
    { state with
      cache := Function.update state.cache accountId none
      inflight := Function.update state.inflight accountId none }
  | .clearAllAccountDeks => { state with cache := fun _ => none, inflight := fun _ => none }
  | event =>
    match event.lookupId with
    | none => state
    | some id =>
      match state.lookups id with
      | none => state
      | some lookup => lookupStep state policy id lookup event

/-! ## The claim -/

/-- A call with a password ends as the stored row says of this password: with the key just
if the password opens the second copy. Errors that are no verdict on the password are left
open. -/
def OwnOutcome (policy : KeyPolicy) (rows : String → Option AccountKeyRow) (args : CallArgs)
    (outcome : DekOutcome) : Prop :=
  ∀ password ∈ args.storagePassword,
    match outcome, rows args.accountId with
    | .failed, _ => True
    | .absent, none => True
    | .dek dek, some row =>
      OpensSeal (policy.context args.accountId) row password dek ∧
        rowOutcome (policy.context args.accountId) row (some password) = .dek dek
    | .refused, some row =>
      rowOutcome (policy.context args.accountId) row (some password) = .refused
    | _, _ => False

/-- Every call that ends in a step ends by its own password. -/
def OwnOutcomes (policy : KeyPolicy) (state : KeyServer) (event : KeyEvent) : Prop :=
  let next := keyStep policy state event
  ∀ call ∈ next.returned, OwnOutcome policy next.rows call.1 call.2

instance (policy : KeyPolicy) (rows : String → Option AccountKeyRow) (args : CallArgs)
    (outcome : DekOutcome) : Decidable (OwnOutcome policy rows args outcome) := by
  unfold OwnOutcome
  have each (password : String) : Decidable (match outcome, rows args.accountId with
      | .failed, _ => True
      | .absent, none => True
      | .dek dek, some row =>
        OpensSeal (policy.context args.accountId) row password dek ∧
          rowOutcome (policy.context args.accountId) row (some password) = .dek dek
      | .refused, some row =>
        rowOutcome (policy.context args.accountId) row (some password) = .refused
      | _, _ => False) := by
    split <;> infer_instance
  infer_instance

instance (policy : KeyPolicy) (state : KeyServer) (event : KeyEvent) :
    Decidable (OwnOutcomes policy state event) :=
  inferInstanceAs (Decidable (∀ call ∈ (keyStep policy state event).returned, _))

/-- The condition: a call with a password finds no key that was cached without one, and no
lookup of another password. A lookup with a password finds a second copy that the server keys
can be removed from. -/
def OwnPassword (policy : KeyPolicy) (state : KeyServer) : KeyEvent → Prop
  | .call args => ∀ password ∈ args.storagePassword,
      match (state.cache args.accountId).filter (·.keyId = policy.ring.activeId) with
      | some cached => cached.passwordHash.isSome
      | none => ∀ id ∈ state.inflight args.accountId, ∀ lookup ∈ state.lookups id,
          lookup.args.storagePassword = some password
  | .read id _ _ => ∀ lookup ∈ state.lookups id, lookup.args.storagePassword.isSome →
      ∀ row ∈ state.rows lookup.args.accountId, Sealable (policy.context lookup.args.accountId) row
  | _ => True

instance (policy : KeyPolicy) (state : KeyServer) (event : KeyEvent) :
    Decidable (OwnPassword policy state event) := by
  unfold OwnPassword
  split
  · have each (args : CallArgs) (password : String) : Decidable (
        match (state.cache args.accountId).filter (·.keyId = policy.ring.activeId) with
        | some cached => cached.passwordHash.isSome = true
        | none => ∀ id ∈ state.inflight args.accountId, ∀ lookup ∈ state.lookups id,
            lookup.args.storagePassword = some password) := by
      split <;> infer_instance
    infer_instance
  · infer_instance
  · infer_instance

/-! ## The invariant -/

/-- The account has a row that accepts the password. -/
def RowAccepts (policy : KeyPolicy) (rows : String → Option AccountKeyRow) (accountId : String)
    (password : String) (dek : Dek) : Prop :=
  ∃ row, rows accountId = some row ∧ Accepts (policy.context accountId) row password dek

/-- The calls of a lookup carry its password, and its update fits the stored row. -/
structure LookupSound (policy : KeyPolicy) (rows : String → Option AccountKeyRow)
    (lookup : DekLookup) : Prop where
  callers : ∀ caller ∈ lookup.callers, caller.accountId = lookup.args.accountId ∧
    ∀ password ∈ caller.storagePassword, lookup.args.storagePassword = some password
  updating : ∀ patch dek, lookup.phase = .updating patch dek →
    ∃ row, rows lookup.args.accountId = some row ∧
      PatchFits (policy.context lookup.args.accountId) row patch ∧
      ∀ password ∈ lookup.args.storagePassword,
        Accepts (policy.context lookup.args.accountId) row password dek

structure KeysInvariant (policy : KeyPolicy) (state : KeyServer) : Prop where
  cached : ∀ accountId, ∀ entry ∈ state.cache accountId, ∀ password ∈ entry.passwordHash,
    RowAccepts policy state.rows accountId password entry.dek
  inflight : ∀ accountId, ∀ id ∈ state.inflight accountId, ∃ lookup,
    state.lookups id = some lookup ∧ lookup.args.accountId = accountId
  lookups : ∀ id, ∀ lookup ∈ state.lookups id, LookupSound policy state.rows lookup
  fresh : ∀ id, ∀ lookup ∈ state.lookups id, id < state.nextId

theorem KeysInvariant.initial (policy : KeyPolicy) (rows : String → Option AccountKeyRow) :
    KeysInvariant policy (KeyServer.initial rows) where
  cached := by simp [KeyServer.initial]
  inflight := by simp [KeyServer.initial]
  lookups := by simp [KeyServer.initial]
  fresh := by simp [KeyServer.initial]

section Steps

variable {policy : KeyPolicy} {state : KeyServer} {id : Nat} {lookup : DekLookup} {dek : Dek}
  {rows : String → Option AccountKeyRow}

/-- Every row stays, up to an update that fits. -/
def RowsEvolve (policy : KeyPolicy) (rows next : String → Option AccountKeyRow) : Prop :=
  ∀ accountId row, rows accountId = some row → ∃ patch,
    PatchFits (policy.context accountId) row patch ∧ next accountId = some (patch.apply row)

theorem RowsEvolve.update {accountId : String} {row : AccountKeyRow} {patch : RowPatch}
    (stored : rows accountId = some row) (fits : PatchFits (policy.context accountId) row patch) :
    RowsEvolve policy rows (Function.update rows accountId (some (patch.apply row))) := by
  intro other before isBefore
  by_cases same : other = accountId
  · subst same
    rw [stored] at isBefore
    cases isBefore
    exact ⟨patch, fits, Function.update_self ..⟩
  · refine ⟨⟨none, none⟩, ⟨nofun, nofun⟩, ?_⟩
    rw [Function.update_of_ne same, isBefore]
    rfl

theorem RowsEvolve.insert {accountId : String} (row : AccountKeyRow)
    (absent : rows accountId = none) :
    RowsEvolve policy rows (Function.update rows accountId (some row)) := by
  intro other before isBefore
  have different : other ≠ accountId := by
    rintro rfl
    rw [absent] at isBefore
    cases isBefore
  refine ⟨⟨none, none⟩, ⟨nofun, nofun⟩, ?_⟩
  rw [Function.update_of_ne different, isBefore]
  rfl

variable {next : String → Option AccountKeyRow}

theorem RowAccepts.evolves {accountId password : String}
    (accepts : RowAccepts policy rows accountId password dek)
    (evolve : RowsEvolve policy rows next) : RowAccepts policy next accountId password dek := by
  obtain ⟨row, stored, accepts⟩ := accepts
  obtain ⟨patch, fits, isNext⟩ := evolve accountId row stored
  exact ⟨_, isNext, fits.accepts accepts⟩

theorem LookupSound.evolves
    (sound : LookupSound policy rows lookup) (evolve : RowsEvolve policy rows next) :
    LookupSound policy next lookup where
  callers := sound.callers
  updating := by
    intro patch dek isPhase
    obtain ⟨row, stored, fits, accepts⟩ := sound.updating patch dek isPhase
    obtain ⟨other, fitsOther, isNext⟩ := evolve _ row stored
    exact ⟨_, isNext, fits.later fitsOther,
      fun password isPassword => fitsOther.accepts (accepts password isPassword)⟩

section Invariant

variable (invariant : KeysInvariant policy state)

include invariant

theorem KeysInvariant.evolves (evolve : RowsEvolve policy state.rows next) :
    KeysInvariant policy { state with rows := next } where
  cached := fun accountId entry isEntry password isPassword =>
    (invariant.cached accountId entry isEntry password isPassword).evolves evolve
  inflight := invariant.inflight
  lookups := fun id lookup isLookup => (invariant.lookups id lookup isLookup).evolves evolve
  fresh := invariant.fresh

theorem KeysInvariant.finish (isLookup : state.lookups id = some lookup) (outcome : DekOutcome) :
    KeysInvariant policy (state.finish id lookup outcome) where
  cached := invariant.cached
  inflight := by
    intro accountId other isOther
    have running : state.inflight accountId = some other ∧
        (other = id → state.inflight lookup.args.accountId ≠ some id) := by
      simp only [KeyServer.finish] at isOther
      split at isOther
      next own =>
        rcases mem_update isOther with ⟨_, impossible⟩ | ⟨elsewhere, before⟩
        · cases impossible
        · refine ⟨before, ?_⟩
          rintro rfl
          obtain ⟨found, isFound, isAccount⟩ := invariant.inflight accountId other before
          rw [isLookup] at isFound
          cases isFound
          exact absurd isAccount.symm elsewhere
      next notOwn => exact ⟨isOther, fun _ => notOwn⟩
    obtain ⟨found, isFound, isAccount⟩ := invariant.inflight accountId other running.1
    have different : other ≠ id := by
      rintro rfl
      rw [isLookup] at isFound
      cases isFound
      exact running.2 rfl (isAccount ▸ running.1)
    refine ⟨found, ?_, isAccount⟩
    simp only [KeyServer.finish]
    rw [Function.update_of_ne different]
    exact isFound
  lookups := by
    intro other found isFound
    rcases mem_update isFound with ⟨_, impossible⟩ | ⟨_, before⟩
    · cases impossible
    · exact invariant.lookups other found before
  fresh := by
    intro other found isFound
    rcases mem_update isFound with ⟨_, impossible⟩ | ⟨_, before⟩
    · cases impossible
    · exact invariant.fresh other found before

/-- A lookup is replaced by one of the same account. -/
theorem KeysInvariant.replace (isLookup : state.lookups id = some lookup) {next : DekLookup}
    (sound : LookupSound policy state.rows next) (same : next.args = lookup.args)
    (returned : List (CallArgs × DekOutcome)) :
    KeysInvariant policy { state with
      lookups := Function.update state.lookups id (some next)
      returned := returned } where
  cached := invariant.cached
  inflight := by
    intro accountId other isOther
    obtain ⟨found, isFound, isAccount⟩ := invariant.inflight accountId other isOther
    dsimp only
    by_cases isId : other = id
    · subst isId
      rw [isLookup] at isFound
      cases isFound
      exact ⟨next, Function.update_self .., by rw [same]; exact isAccount⟩
    · exact ⟨found, by rw [Function.update_of_ne isId]; exact isFound, isAccount⟩
  lookups := by
    intro other found isFound
    rcases mem_update isFound with ⟨_, isNext⟩ | ⟨_, before⟩
    · cases isNext
      exact sound
    · exact invariant.lookups other found before
  fresh := by
    intro other found isFound
    rcases mem_update isFound with ⟨rfl, _⟩ | ⟨_, before⟩
    · exact invariant.fresh other lookup isLookup
    · exact invariant.fresh other found before

/-- A lookup moves on to a statement that is no update. -/
theorem KeysInvariant.setPhase (isLookup : state.lookups id = some lookup) {phase : LookupPhase}
    (other : ∀ patch dek, phase ≠ .updating patch dek) :
    KeysInvariant policy (state.setPhase id lookup phase) := by
  have sound : LookupSound policy state.rows { lookup with phase } :=
    ⟨(invariant.lookups id lookup isLookup).callers,
      fun patch dek isPhase => absurd isPhase (other patch dek)⟩
  exact invariant.replace isLookup sound rfl state.returned

/-- A key is cached with the password that opened it. -/
theorem KeysInvariant.storeDek {args : CallArgs}
    (accepts : ∀ password ∈ args.storagePassword,
      RowAccepts policy state.rows args.accountId password dek) :
    KeysInvariant policy (state.storeDek policy id args dek) := by
  simp only [KeyServer.storeDek]
  split
  · refine { invariant with cached := ?_ }
    intro accountId entry isEntry password isPassword
    rcases mem_update isEntry with ⟨rfl, isNew⟩ | ⟨_, before⟩
    · cases isNew
      exact accepts password isPassword
    · exact invariant.cached accountId entry before password isPassword
  · exact invariant

end Invariant

@[simp] theorem KeyServer.storeDek_lookups (state : KeyServer) (args : CallArgs) :
    (state.storeDek policy id args dek).lookups = state.lookups := by
  simp only [KeyServer.storeDek]
  split <;> rfl

@[simp] theorem KeyServer.storeDek_rows (state : KeyServer) (args : CallArgs) :
    (state.storeDek policy id args dek).rows = state.rows := by
  simp only [KeyServer.storeDek]
  split <;> rfl

theorem KeysInvariant.found (invariant : KeysInvariant policy state)
    (isLookup : state.lookups id = some lookup)
    (accepts : ∀ password ∈ lookup.args.storagePassword,
      RowAccepts policy state.rows lookup.args.accountId password dek) :
    KeysInvariant policy (state.found policy id lookup dek) := by
  apply (invariant.storeDek accepts).finish
  rw [KeyServer.storeDek_lookups]
  exact isLookup

theorem RowAccepts.own {args : CallArgs} {password : String}
    (accepts : RowAccepts policy rows args.accountId password dek)
    (isPassword : args.storagePassword = some password) :
    OwnOutcome policy rows args (.dek dek) := by
  intro other isOther
  rw [isPassword] at isOther
  cases isOther
  obtain ⟨row, stored, accepts⟩ := accepts
  rw [stored]
  exact ⟨accepts.opens, accepts.outcome⟩

/-- The calls of a lookup end as its own password does. -/
theorem LookupSound.finish_owned (sound : LookupSound policy rows lookup) {outcome : DekOutcome}
    (owned : OwnOutcome policy rows lookup.args outcome) :
    ∀ call ∈ (state.finish id lookup outcome).returned, OwnOutcome policy rows call.1 call.2 := by
  intro call isCall
  obtain ⟨caller, isCaller, rfl⟩ := List.mem_map.mp isCall
  obtain ⟨account, passwords⟩ := sound.callers caller isCaller
  intro password isPassword
  have own := owned password (passwords password isPassword)
  rw [← account] at own
  exact own

theorem OwnOutcome.failed (args : CallArgs) : OwnOutcome policy rows args .failed :=
  fun _ _ => True.intro

/-- A step keeps the invariant, and the calls it ends end by their own passwords. -/
structure Owned (policy : KeyPolicy) (state : KeyServer) : Prop where
  invariant : KeysInvariant policy state
  returned : ∀ call ∈ state.returned, OwnOutcome policy state.rows call.1 call.2

section Invariant

variable (invariant : KeysInvariant policy state)

include invariant

theorem Owned.finish (isLookup : state.lookups id = some lookup) {outcome : DekOutcome}
    (owned : OwnOutcome policy state.rows lookup.args outcome) :
    Owned policy (state.finish id lookup outcome) :=
  ⟨invariant.finish isLookup outcome, (invariant.lookups id lookup isLookup).finish_owned owned⟩

theorem Owned.found
    (isLookup : state.lookups id = some lookup)
    (accepts : ∀ password ∈ lookup.args.storagePassword,
      RowAccepts policy state.rows lookup.args.accountId password dek) :
    Owned policy (state.found policy id lookup dek) := by
  refine ⟨invariant.found isLookup accepts, ?_⟩
  have rows : (state.found policy id lookup dek).rows = state.rows := state.storeDek_rows _
  rw [rows]
  apply (invariant.lookups id lookup isLookup).finish_owned
  intro password isPassword
  exact (accepts password isPassword).own isPassword password isPassword

theorem Owned.setPhase (isLookup : state.lookups id = some lookup) (quiet : state.returned = [])
    {phase : LookupPhase} (other : ∀ patch dek, phase ≠ .updating patch dek) :
    Owned policy (state.setPhase id lookup phase) :=
  ⟨invariant.setPhase isLookup other, by simp [KeyServer.setPhase, quiet]⟩

theorem callStep_owned (args : CallArgs)
    (own : OwnPassword policy state (.call args)) : Owned policy (callStep state policy args) := by
  simp only [callStep]
  simp only [OwnPassword] at own
  cases hit : (state.cache args.accountId).filter (·.keyId = policy.ring.activeId) with
  | some cached =>
    simp only [hit] at own ⊢
    have isEntry : state.cache args.accountId = some cached :=
      (Option.filter_eq_some_iff.mp hit).1
    split
    next mismatch =>
      refine ⟨⟨invariant.cached, invariant.inflight, invariant.lookups, invariant.fresh⟩, ?_⟩
      intro call isCall
      cases List.mem_singleton.mp isCall
      intro password isPassword
      obtain ⟨owner, isOwner⟩ := Option.isSome_iff_exists.mp mismatch.2.1
      obtain ⟨row, stored, accepts⟩ := invariant.cached _ cached isEntry owner isOwner
      have different : password ≠ owner := by
        rintro rfl
        exact mismatch.2.2 (isOwner.trans isPassword.symm)
      simp only [stored]
      exact accepts.refuses different
    next matching =>
      refine ⟨⟨invariant.cached, invariant.inflight, invariant.lookups, invariant.fresh⟩, ?_⟩
      intro call isCall
      cases List.mem_singleton.mp isCall
      intro password isPassword
      have hashed := own password isPassword
      have same : cached.passwordHash = some password := by
        rw [not_and_or, not_and_or, not_not] at matching
        rcases matching with missing | missing | same
        · rw [Option.mem_def.mp isPassword] at missing
          exact absurd rfl missing
        · exact absurd hashed missing
        · exact same.trans isPassword
      exact (invariant.cached _ cached isEntry password same).own isPassword password isPassword
  | none =>
    simp only [hit] at own ⊢
    cases running : state.inflight args.accountId with
    | some id =>
      obtain ⟨lookup, isLookup, isAccount⟩ := invariant.inflight args.accountId id running
      have sound := invariant.lookups id lookup isLookup
      have joined : LookupSound policy state.rows
          { lookup with callers := lookup.callers ++ [args] } := by
        refine ⟨?_, sound.updating⟩
        intro caller isCaller
        rcases List.mem_append.mp isCaller with before | new
        · exact sound.callers caller before
        · cases List.mem_singleton.mp new
          exact ⟨isAccount.symm, fun password isPassword =>
            own password isPassword id running lookup isLookup⟩
      simp only [isLookup, Option.map_some]
      exact ⟨invariant.replace isLookup joined rfl [], by simp⟩
    | none =>
      refine ⟨⟨invariant.cached, ?_, ?_, ?_⟩, by simp⟩
      · intro accountId id isId
        dsimp only
        rcases mem_update isId with ⟨rfl, isNew⟩ | ⟨_, before⟩
        · cases isNew
          exact ⟨_, Function.update_self .., rfl⟩
        · obtain ⟨found, isFound, isAccount⟩ := invariant.inflight accountId id before
          have old := invariant.fresh id found isFound
          exact ⟨found, by rw [Function.update_of_ne (Nat.ne_of_lt old)]; exact isFound, isAccount⟩
      · intro id found isFound
        rcases mem_update isFound with ⟨_, isNew⟩ | ⟨_, before⟩
        · cases isNew
          refine ⟨?_, by simp⟩
          intro caller isCaller
          cases List.mem_singleton.mp isCaller
          exact ⟨rfl, fun _ isPassword => isPassword⟩
        · exact invariant.lookups id found before
      · intro id found isFound
        rcases mem_update isFound with ⟨rfl, _⟩ | ⟨_, before⟩
        · exact Nat.lt_succ_self _
        · exact Nat.lt_succ_of_lt (invariant.fresh id found before)

end Invariant

/-- The update of a lookup fits the row it was made for. -/
theorem readPatch_fits {context : KeyContext} {row : AccountKeyRow} {patch : RowPatch}
    {opened : OpenedRow} {storagePassword : Option String} {nonce : Nat}
    (isOpened : openRow context row storagePassword = .ok opened)
    (isPatch : rewrapRow context row opened storagePassword nonce = .ok patch)
    (sealable : storagePassword.isSome → Sealable context row) : PatchFits context row patch := by
  cases storagePassword with
  | none => exact rewrapRow_fits (.ring (openRow_ring isOpened)) (by simp) isPatch
  | some password =>
    have holds := (openRow_password (sealable rfl) isOpened).2
    exact rewrapRow_fits holds (fun _ => (Accepts.of_opened (sealable rfl) isOpened).isSealed)
      isPatch

theorem readStep_owned (invariant : KeysInvariant policy state) (quiet : state.returned = [])
    (isLookup : state.lookups id = some lookup) (nonce : Nat)
    (sealable : lookup.args.storagePassword.isSome → ∀ row ∈ state.rows lookup.args.accountId,
      Sealable (policy.context lookup.args.accountId) row) :
    Owned policy (readStep state policy id nonce lookup) := by
  simp only [readStep]
  cases stored : state.rows lookup.args.accountId with
  | none =>
    dsimp only
    split
    · exact .setPhase invariant isLookup quiet (by simp)
    · apply Owned.finish invariant isLookup
      intro password isPassword
      simp [stored]
  | some row =>
    dsimp only
    cases isOpened : openRow (policy.context lookup.args.accountId) row
        lookup.args.storagePassword with
    | error failure =>
      apply Owned.finish invariant isLookup
      cases failure with
      | error => exact OwnOutcome.failed _
      | unavailable =>
        intro password isPassword
        rw [Option.mem_def.mp isPassword] at isOpened
        simp only [stored, DekOutcome.ofFailure, rowOutcome, isOpened]
    | ok opened =>
      dsimp only
      have accepts : ∀ password ∈ lookup.args.storagePassword,
          Accepts (policy.context lookup.args.accountId) row password opened.dek := by
        intro password isPassword
        rw [Option.mem_def.mp isPassword] at isOpened
        exact .of_opened (sealable (by rw [Option.mem_def.mp isPassword]; rfl) row stored) isOpened
      cases isPatch : rewrapRow (policy.context lookup.args.accountId) row opened
          lookup.args.storagePassword nonce with
      | error failure =>
        apply Owned.finish invariant isLookup
        cases rewrapRow_failure isPatch
        exact OwnOutcome.failed _
      | ok patch =>
        dsimp only
        split
        · exact .found invariant isLookup fun password isPassword =>
            ⟨row, stored, accepts password isPassword⟩
        · have fits : PatchFits (policy.context lookup.args.accountId) row patch :=
            readPatch_fits isOpened isPatch (fun given => sealable given row stored)
          have sound : LookupSound policy state.rows
              { lookup with phase := .updating patch opened.dek } := by
            refine ⟨(invariant.lookups id lookup isLookup).callers, ?_⟩
            intro patch dek isPhase
            cases isPhase
            exact ⟨row, stored, fits, accepts⟩
          exact ⟨invariant.replace isLookup sound rfl state.returned,
            by simp [KeyServer.setPhase, quiet]⟩

theorem lookupStep_owned (invariant : KeysInvariant policy state) (quiet : state.returned = [])
    (isLookup : state.lookups id = some lookup) (event : KeyEvent)
    (isEvent : event.lookupId = some id)
    (own : OwnPassword policy state event) :
    Owned policy (lookupStep state policy id lookup event) := by
  have same : Owned policy state := ⟨invariant, by simp [quiet]⟩
  have failed : Owned policy (state.finish id lookup .failed) :=
    .finish invariant isLookup (OwnOutcome.failed _)
  cases event with
  | read other nonce succeeds =>
    cases isEvent
    simp only [lookupStep]
    split
    · split
      · exact readStep_owned invariant quiet isLookup nonce (own lookup isLookup)
      · exact failed
    · exact same
  | update other succeeds =>
    simp only [lookupStep]
    split
    next patch dek isPhase =>
      split
      · obtain ⟨row, stored, fits, accepts⟩ :=
          (invariant.lookups id lookup isLookup).updating patch dek isPhase
        simp only [stored, Option.map_some]
        refine Owned.found (invariant.evolves (.update stored fits)) isLookup ?_
        intro password isPassword
        exact ⟨_, Function.update_self .., fits.accepts (accepts password isPassword)⟩
      · exact failed
    · exact same
  | insert other dek nonce succeeds =>
    simp only [lookupStep]
    split
    next password _ isPassword =>
      split
      next absent =>
        refine Owned.found (invariant.evolves (.insert _ absent.2)) isLookup ?_
        intro own isOwn
        rw [isPassword] at isOwn
        cases isOwn
        exact ⟨_, Function.update_self .., .newRow _ dek password nonce⟩
      · exact .setPhase invariant isLookup quiet (by simp)
    · exact same
  | reread other succeeds =>
    simp only [lookupStep]
    split
    · split
      · exact .setPhase invariant isLookup quiet (by simp)
      · exact failed
    · exact same
  | call | evictAccountDek | clearAllAccountDeks => cases isEvent

theorem keyStep_owned (state : KeyServer) (event : KeyEvent) (before : KeysInvariant policy state)
    (own : OwnPassword policy state event) : Owned policy (keyStep policy state event) := by
  have invariant : KeysInvariant policy { state with returned := [] } :=
    ⟨before.cached, before.inflight, before.lookups, before.fresh⟩
  have forLookup (id : Nat) (isEvent : event.lookupId = some id) :
      Owned policy (match ({ state with returned := [] } : KeyServer).lookups id with
        | none => { state with returned := [] }
        | some lookup => lookupStep { state with returned := [] } policy id lookup event) := by
    split
    · exact ⟨invariant, by simp⟩
    next lookup isLookup =>
      refine lookupStep_owned invariant rfl isLookup event isEvent ?_
      cases event <;> exact own
  cases event with
  | call args => exact callStep_owned invariant args own
  | evictAccountDek accountId =>
    refine ⟨⟨?_, ?_, invariant.lookups, invariant.fresh⟩, by simp [keyStep]⟩
    · intro other entry isEntry
      rcases mem_update isEntry with ⟨_, impossible⟩ | ⟨_, cached⟩
      · cases impossible
      · exact invariant.cached other entry cached
    · intro other id isId
      rcases mem_update isId with ⟨_, impossible⟩ | ⟨_, running⟩
      · cases impossible
      · exact invariant.inflight other id running
  | clearAllAccountDeks =>
    exact ⟨⟨by simp [keyStep], by simp [keyStep], invariant.lookups, invariant.fresh⟩,
      by simp [keyStep]⟩
  | read id | update id | insert id | reread id => exact forLookup id rfl

end Steps

/-! ## Runs -/

/-- Where no call shares the lookup or the key of another password, every call ends by its
own password. -/
theorem account_key_needs_password (policy : KeyPolicy) (rows : String → Option AccountKeyRow)
    (events : List KeyEvent)
    (own : Along (keyStep policy) (OwnPassword policy) (KeyServer.initial rows) events) :
    Along (keyStep policy) (OwnOutcomes policy) (KeyServer.initial rows) events :=
  Along.of_invariant
    (fun state event before own => (keyStep_owned state event before own).invariant)
    (fun state event before own => (keyStep_owned state event before own).returned)
    (KeysInvariant.initial policy rows) own

/-- One server key. -/
def oneKeyPolicy : KeyPolicy where
  ring := {
    activeId := "k1"
    kek := fun keyId => if keyId = "k1" then some 1 else none
    legacyKey := fun _ => none
    active := rfl }
  acceptUnbound := false

/-- An account gets its key by the first call; the key is evicted, and two calls follow. -/
def callsAfterEviction (second : String) : List KeyEvent := [
  .call ⟨"acc", some "alice", true, false⟩,
  .read 0 1 true,
  .insert 0 77 2 true,
  .evictAccountDek "acc",
  .call ⟨"acc", some "alice", true, false⟩,
  .call ⟨"acc", some second, true, false⟩,
  .read 1 3 true]

/-- Calls of one wallet share their lookups. -/
theorem account_key_needs_password_shared :
    Along (keyStep oneKeyPolicy) (OwnOutcomes oneKeyPolicy) (KeyServer.initial fun _ => none)
      (callsAfterEviction "alice") :=
  account_key_needs_password oneKeyPolicy _ _ (by decide +kernel)

/-- A call with another password gets the key from the lookup it joins. -/
theorem lookup_shared_with_other_password :
    ¬ Along (keyStep oneKeyPolicy) (OwnOutcomes oneKeyPolicy) (KeyServer.initial fun _ => none)
      (callsAfterEviction "mallory") := by
  decide +kernel

end Nightgate.Keys
