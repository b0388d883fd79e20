import Nightgate.Library.Pointwise

/-!
# Leases with tokens

A lease on a key expires by the clock, and whoever finds it expired may take the key over.
A holder shows the token of its grant to renew or release, so a holder that was taken over
changes nothing. The grants are recorded beside the table, to speak about the holders.
-/

namespace Nightgate.Library

structure Lease where
  exp : Nat
  token : Nat

/-- What was granted under a token. The expiry moves with the renewals that took effect. -/
structure Grant (Key : Type*) where
  key : Key
  exp : Nat
  released : Bool

structure LeaseTable (Key : Type*) where
  now : Nat
  seq : Nat
  locks : Key → Option Lease
  grants : Nat → Option (Grant Key)

namespace LeaseTable

variable {Key : Type*}

def initial : LeaseTable Key where
  now := 0
  seq := 0
  locks := fun _ => none
  grants := fun _ => none

/-- The key is held by a lease that has not expired. -/
def busy (table : LeaseTable Key) (key : Key) : Bool :=
  (table.locks key).any fun held => table.now < held.exp

/-- Time passes. -/
def advance (table : LeaseTable Key) (span : Nat) : LeaseTable Key :=
  { table with now := table.now + span }

/-- Under this token the key is held: granted, not released and not expired. -/
def Holds (table : LeaseTable Key) (token : Nat) (key : Key) : Prop :=
  ∃ given ∈ table.grants token, given.key = key ∧ given.released = false ∧ table.now < given.exp

/-- The token was granted for the key and has not been released. -/
def GrantedFor (table : LeaseTable Key) (token : Nat) (key : Key) : Prop :=
  ∃ given ∈ table.grants token, given.key = key ∧ given.released = false

/-- The last renewal of the token that took effect still lasts. -/
def Unexpired (table : LeaseTable Key) (token : Nat) : Prop :=
  ∃ given ∈ table.grants token, table.now < given.exp

/-- The table and the grants agree: a lease in the table is that of its grant, and a grant
that holds its key is the lease in the table. -/
structure Sound (table : LeaseTable Key) : Prop where
  tokens : ∀ token, (table.grants token).isSome → token ≤ table.seq
  locked : ∀ key, ∀ held ∈ table.locks key, table.grants held.token = some ⟨key, held.exp, false⟩
  held : ∀ token key, table.Holds token key → ∃ held, table.locks key = some held ∧
    held.token = token

theorem Sound.initial : (initial : LeaseTable Key).Sound where
  tokens := by simp [LeaseTable.initial]
  locked := by simp [LeaseTable.initial]
  held := by simp [LeaseTable.initial, Holds]

section Holders

variable {table : LeaseTable Key} {key other : Key} {token ttl : Nat}

/-- A key has one unexpired holder at most. -/
theorem Sound.exclusive (sound : table.Sound) {second : Nat} (first : table.Holds token key)
    (again : table.Holds second key) : token = second := by
  obtain ⟨held, isHeld, isToken⟩ := sound.held token key first
  obtain ⟨heldAgain, isHeldAgain, isSecond⟩ := sound.held second key again
  rw [isHeld, Option.some.injEq] at isHeldAgain
  rw [← isToken, ← isSecond, isHeldAgain]

/-- A held key is busy. -/
theorem Sound.busy_of_holds (sound : table.Sound) (holds : table.Holds token key) :
    table.busy key := by
  obtain ⟨held, isHeld, isToken⟩ := sound.held token key holds
  obtain ⟨given, isGiven, isKey, _, unexpired⟩ := holds
  have locked := sound.locked key held isHeld
  rw [isToken, isGiven, Option.some.injEq] at locked
  simp only [busy, isHeld, Option.any_some, decide_eq_true_eq]
  rw [locked] at unexpired
  exact unexpired

theorem Sound.advance (sound : table.Sound) (span : Nat) : (table.advance span).Sound where
  tokens := sound.tokens
  locked := sound.locked
  held := by
    intro token key holds
    obtain ⟨given, isGiven, isKey, open_, unexpired⟩ := holds
    exact sound.held token key
      ⟨given, isGiven, isKey, open_, Nat.lt_of_le_of_lt (Nat.le_add_right ..) unexpired⟩

/-- The next token was never granted. -/
theorem Sound.fresh (sound : table.Sound) : table.grants (table.seq + 1) = none := by
  cases granted : table.grants (table.seq + 1) with
  | none => rfl
  | some given =>
    have bound := sound.tokens (table.seq + 1) (by simp [granted])
    omega

theorem GrantedFor.le_seq (granted : table.GrantedFor token key) (sound : table.Sound) :
    token ≤ table.seq := by
  obtain ⟨given, isGiven, _⟩ := granted
  exact sound.tokens token (by rw [Option.mem_def.mp isGiven]; rfl)

theorem GrantedFor.key_unique (first : table.GrantedFor token key)
    (second : table.GrantedFor token other) : key = other := by
  obtain ⟨given, isGiven, isKey, _⟩ := first
  obtain ⟨again, isAgain, isOther, _⟩ := second
  rw [Option.mem_def, isGiven, Option.some.injEq] at isAgain
  rw [← isKey, ← isOther, isAgain]

theorem GrantedFor.holds (granted : table.GrantedFor token key)
    (unexpired : table.Unexpired token) : table.Holds token key := by
  obtain ⟨given, isGiven, isKey, notReleased⟩ := granted
  obtain ⟨again, isAgain, lasts⟩ := unexpired
  rw [Option.mem_def, isGiven, Option.some.injEq] at isAgain
  subst isAgain
  exact ⟨given, isGiven, isKey, notReleased, lasts⟩

end Holders

section Changes

variable [DecidableEq Key]

/-- A lease under the next token. -/
def grant (table : LeaseTable Key) (key : Key) (ttl : Nat) : LeaseTable Key where
  now := table.now
  seq := table.seq + 1
  locks := Function.update table.locks key (some ⟨table.now + ttl, table.seq + 1⟩)
  grants := Function.update table.grants (table.seq + 1) (some ⟨key, table.now + ttl, false⟩)

def renew (table : LeaseTable Key) (key : Key) (token ttl : Nat) : LeaseTable Key :=
  match table.locks key with
  | some held =>
    if held.token = token then
      { table with
        locks := Function.update table.locks key (some ⟨table.now + ttl, token⟩)
        grants := Function.update table.grants token (some ⟨key, table.now + ttl, false⟩) }
    else table
  | none => table

/-- The grant of the key ends, whether or not its lease was taken over. -/
def release (table : LeaseTable Key) (key : Key) (token : Nat) : LeaseTable Key :=
  { table with
    locks :=
      if (table.locks key).any (fun held => held.token = token) then
        Function.update table.locks key none
      else table.locks
    grants := Function.update table.grants token ((table.grants token).map fun given =>
        { given with released := given.released || given.key = key }) }

/-- Leases on several keys, each under its own token. -/
def grantAll (table : LeaseTable Key) (ttl : Nat) :
    List Key → List (Key × Nat) × LeaseTable Key
  | [] => ([], table)
  | key :: rest =>
    let (parts, next) := (table.grant key ttl).grantAll ttl rest
    ((key, table.seq + 1) :: parts, next)

def releaseAll (table : LeaseTable Key) (parts : List (Key × Nat)) : LeaseTable Key :=
  parts.foldl (fun table part => table.release part.1 part.2) table

variable {table : LeaseTable Key} {key other : Key} {token ttl : Nat}

theorem Sound.grant (sound : table.Sound) (free : table.busy key = false) (ttl : Nat) :
    (table.grant key ttl).Sound where
  tokens := by
    intro token isSome
    obtain ⟨given, isGiven⟩ := Option.isSome_iff_exists.mp isSome
    rcases mem_update isGiven with ⟨rfl, _⟩ | ⟨_, before⟩
    · exact Nat.le_refl _
    · have bound := sound.tokens token (by rw [Option.mem_def.mp before]; rfl)
      exact Nat.le_succ_of_le bound
  locked := by
    intro other held isHeld
    rcases mem_update isHeld with ⟨rfl, isNew⟩ | ⟨_, before⟩
    · cases isNew
      exact Function.update_self ..
    · have locked := sound.locked other held before
      have different : held.token ≠ table.seq + 1 := by
        intro same
        rw [same, sound.fresh] at locked
        cases locked
      simp only [LeaseTable.grant]
      rw [Function.update_of_ne different]
      exact locked
  held := by
    intro token other holds
    obtain ⟨given, isGiven, isKey, notReleased, unexpired⟩ := holds
    rcases mem_update isGiven with ⟨rfl, isNew⟩ | ⟨_, before⟩
    · cases isNew
      subst isKey
      exact ⟨_, Function.update_self .., rfl⟩
    · have holds : table.Holds token other := ⟨given, before, isKey, notReleased, unexpired⟩
      have different : other ≠ key := by
        rintro rfl
        rw [sound.busy_of_holds holds] at free
        cases free
      obtain ⟨held, isHeld, isToken⟩ := sound.held token other holds
      refine ⟨held, ?_, isToken⟩
      simp only [LeaseTable.grant]
      rw [Function.update_of_ne different]
      exact isHeld

theorem Sound.renew (sound : table.Sound) (key : Key) (token ttl : Nat) :
    (table.renew key token ttl).Sound := by
  simp only [LeaseTable.renew]
  split
  next held isHeld =>
    split
    next isToken =>
      have granted := sound.locked key held isHeld
      rw [isToken] at granted
      refine ⟨?_, ?_, ?_⟩
      · intro other isSome
        obtain ⟨given, isGiven⟩ := Option.isSome_iff_exists.mp isSome
        rcases mem_update isGiven with ⟨rfl, _⟩ | ⟨_, before⟩
        · exact sound.tokens other (by simp [granted])
        · exact sound.tokens other (by rw [Option.mem_def.mp before]; rfl)
      · intro other current isCurrent
        dsimp only at isCurrent ⊢
        rcases mem_update isCurrent with ⟨rfl, isNew⟩ | ⟨elsewhere, before⟩
        · cases isNew
          exact Function.update_self ..
        · have locked := sound.locked other current before
          have different : current.token ≠ token := by
            rintro rfl
            rw [granted, Option.some.injEq] at locked
            exact elsewhere (congrArg Grant.key locked).symm
          rw [Function.update_of_ne different]
          exact locked
      · intro other wanted holds
        obtain ⟨given, isGiven, isKey, notReleased, unexpired⟩ := holds
        dsimp only at unexpired ⊢
        rcases mem_update isGiven with ⟨rfl, isNew⟩ | ⟨elsewhere, before⟩
        · cases isNew
          subst isKey
          exact ⟨_, Function.update_self .., rfl⟩
        · obtain ⟨current, isCurrent, isOther⟩ :=
            sound.held other wanted ⟨given, before, isKey, notReleased, unexpired⟩
          have different : wanted ≠ key := by
            rintro rfl
            rw [isHeld, Option.some.injEq] at isCurrent
            exact elsewhere (isOther.symm.trans (isCurrent ▸ isToken))
          refine ⟨current, ?_, isOther⟩
          rw [Function.update_of_ne different]
          exact isCurrent
    · exact sound
  · exact sound

theorem Sound.release (sound : table.Sound) (key : Key) (token : Nat) :
    (table.release key token).Sound := by
  refine ⟨?_, ?_, ?_⟩
  · intro other isSome
    obtain ⟨given, isGiven⟩ := Option.isSome_iff_exists.mp isSome
    rcases mem_update isGiven with ⟨rfl, isNew⟩ | ⟨_, before⟩
    · obtain ⟨old, isOld, _⟩ := Option.map_eq_some_iff.mp isNew
      exact sound.tokens other (by rw [isOld]; rfl)
    · exact sound.tokens other (by rw [Option.mem_def.mp before]; rfl)
  · intro other held isHeld
    have inPlace : table.locks other = some held ∧ (other = key → held.token ≠ token) := by
      simp only [LeaseTable.release] at isHeld
      split at isHeld
      · rcases mem_update isHeld with ⟨_, isNone⟩ | ⟨elsewhere, before⟩
        · cases isNone
        · exact ⟨before, fun same => absurd same elsewhere⟩
      next foreign =>
        refine ⟨isHeld, ?_⟩
        rintro rfl isToken
        rw [Option.mem_def.mp isHeld] at foreign
        exact foreign (by simp [isToken])
    have locked := sound.locked other held inPlace.1
    simp only [LeaseTable.release]
    by_cases isToken : held.token = token
    · have different : other ≠ key := fun same => inPlace.2 same isToken
      rw [isToken] at locked ⊢
      rw [Function.update_self, locked]
      simp [different]
    · rw [Function.update_of_ne isToken]
      exact locked
  · intro other wanted holds
    obtain ⟨given, isGiven, isKey, notReleased, unexpired⟩ := holds
    have before : table.Holds other wanted ∧ (other = token → wanted ≠ key) := by
      rcases mem_update isGiven with ⟨rfl, isNew⟩ | ⟨elsewhere, before⟩
      · obtain ⟨old, isOld, rfl⟩ := Option.map_eq_some_iff.mp isNew
        simp only [Bool.or_eq_false_iff, decide_eq_false_iff_not] at notReleased
        exact ⟨⟨old, isOld, isKey, notReleased.1, unexpired⟩, fun _ same =>
          notReleased.2 (isKey.trans same)⟩
      · exact ⟨⟨given, before, isKey, notReleased, unexpired⟩, fun same =>
          absurd same elsewhere⟩
    obtain ⟨held, isHeld, isOther⟩ := sound.held other wanted before.1
    refine ⟨held, ?_, isOther⟩
    simp only [LeaseTable.release]
    split
    next ours =>
      have different : wanted ≠ key := by
        rintro rfl
        rw [isHeld] at ours
        simp only [Option.any_some, decide_eq_true_eq] at ours
        exact before.2 (isOther.symm.trans ours) rfl
      rw [Function.update_of_ne different]
      exact isHeld
    · exact isHeld

theorem Sound.releaseAll (sound : table.Sound) (parts : List (Key × Nat)) :
    (table.releaseAll parts).Sound := by
  induction parts generalizing table with
  | nil => exact sound
  | cons part rest ih => exact ih (sound.release part.1 part.2)

/-- A renewal touches no lease of another token. -/
theorem renew_locks {held : Lease} (isHeld : table.locks other = some held)
    (foreign : held.token ≠ token) : (table.renew key token ttl).locks other = some held := by
  simp only [LeaseTable.renew]
  split
  next current isCurrent =>
    split
    next isToken =>
      have different : other ≠ key := by
        rintro rfl
        rw [isHeld, Option.some.injEq] at isCurrent
        exact foreign (isCurrent ▸ isToken)
      dsimp only
      rw [Function.update_of_ne different]
      exact isHeld
    · exact isHeld
  · exact isHeld

/-- A release touches no lease of another token. -/
theorem release_locks {held : Lease} (isHeld : table.locks other = some held)
    (foreign : held.token ≠ token) : (table.release key token).locks other = some held := by
  simp only [LeaseTable.release]
  split
  next ours =>
    have different : other ≠ key := by
      rintro rfl
      rw [isHeld] at ours
      simp only [Option.any_some, decide_eq_true_eq] at ours
      exact foreign ours
    rw [Function.update_of_ne different]
    exact isHeld
  · exact isHeld

theorem releaseAll_locks {parts : List (Key × Nat)} {held : Lease}
    (isHeld : table.locks other = some held) (foreign : ∀ part ∈ parts, held.token ≠ part.2) :
    (table.releaseAll parts).locks other = some held := by
  induction parts generalizing table with
  | nil => exact isHeld
  | cons part rest ih =>
    have first : (table.release part.1 part.2).locks other = some held :=
      release_locks isHeld (foreign part (List.mem_cons_self ..))
    exact ih first fun later isLater => foreign later (List.mem_cons_of_mem _ isLater)

/-! ## What was granted for a key -/

variable {wanted : Nat}

theorem GrantedFor.renew (granted : table.GrantedFor wanted other)
    (sound : table.Sound) : (table.renew key token ttl).GrantedFor wanted other := by
  simp only [LeaseTable.renew]
  split
  next held isHeld =>
    split
    next isToken =>
      by_cases same : wanted = token
      · subst same
        have locked := sound.locked key held isHeld
        rw [isToken] at locked
        have isOther := granted.key_unique ⟨_, locked, rfl, rfl⟩
        exact ⟨_, Function.update_self .., isOther.symm, rfl⟩
      · obtain ⟨given, isGiven, isKey⟩ := granted
        exact ⟨given, (Function.update_of_ne same ..).trans isGiven, isKey⟩
    · exact granted
  · exact granted

theorem GrantedFor.release (granted : table.GrantedFor wanted other)
    (foreign : wanted ≠ token) : (table.release key token).GrantedFor wanted other := by
  obtain ⟨given, isGiven, isKey⟩ := granted
  exact ⟨given, (Function.update_of_ne foreign ..).trans isGiven, isKey⟩

theorem GrantedFor.releaseAll (granted : table.GrantedFor wanted other)
    {parts : List (Key × Nat)} (foreign : ∀ part ∈ parts, wanted ≠ part.2) :
    (table.releaseAll parts).GrantedFor wanted other := by
  induction parts generalizing table with
  | nil => exact granted
  | cons part rest ih =>
    have first : (table.release part.1 part.2).GrantedFor wanted other :=
      granted.release (foreign part (List.mem_cons_self ..))
    exact ih first fun later isLater => foreign later (List.mem_cons_of_mem _ isLater)

@[simp] theorem grantAll_keys (keys : List Key) :
    (table.grantAll ttl keys).1.map Prod.fst = keys := by
  induction keys generalizing table with
  | nil => rfl
  | cons key rest ih => exact congrArg (key :: ·) ih

/-- Every part of the lease is under a token not granted before. -/
theorem grantAll_tokens (keys : List Key) :
    ∀ part ∈ (table.grantAll ttl keys).1, table.seq < part.2 := by
  induction keys generalizing table with
  | nil => simp [grantAll]
  | cons key rest ih =>
    intro part isPart
    cases List.mem_cons.mp isPart with
    | inl isFirst =>
      subst isFirst
      exact Nat.lt_succ_self _
    | inr isLater => exact Nat.lt_trans (Nat.lt_succ_self _) (ih part isLater)

/-- What was granted before stays as it was. -/
theorem grantAll_grants (keys : List Key) (old : wanted ≤ table.seq) :
    (table.grantAll ttl keys).2.grants wanted = table.grants wanted := by
  induction keys generalizing table with
  | nil => rfl
  | cons key rest ih =>
    have different : wanted ≠ table.seq + 1 := by omega
    exact (ih (Nat.le_succ_of_le old)).trans (Function.update_of_ne different ..)

theorem GrantedFor.grantAll (granted : table.GrantedFor wanted other)
    (sound : table.Sound) (keys : List Key) :
    (table.grantAll ttl keys).2.GrantedFor wanted other := by
  have old := granted.le_seq sound
  obtain ⟨given, isGiven, isKey⟩ := granted
  exact ⟨given, (grantAll_grants keys old).trans isGiven, isKey⟩

theorem grantAll_granted (keys : List Key) :
    ∀ part ∈ (table.grantAll ttl keys).1, (table.grantAll ttl keys).2.GrantedFor part.2 part.1 := by
  induction keys generalizing table with
  | nil => simp [LeaseTable.grantAll]
  | cons key rest ih =>
    intro part isPart
    cases List.mem_cons.mp isPart with
    | inl isFirst =>
      subst isFirst
      have kept : ((table.grant key ttl).grantAll ttl rest).2.grants (table.seq + 1) =
          (table.grant key ttl).grants (table.seq + 1) :=
        grantAll_grants rest (Nat.le_refl _)
      exact ⟨_, kept.trans (Function.update_self ..), rfl, rfl⟩
    | inr isLater => exact ih part isLater

theorem grantAll_locks_of_notMem {keys : List Key} (elsewhere : other ∉ keys) :
    (table.grantAll ttl keys).2.locks other = table.locks other := by
  induction keys generalizing table with
  | nil => rfl
  | cons key rest ih =>
    rw [List.mem_cons, not_or] at elsewhere
    exact (ih elsewhere.2).trans (Function.update_of_ne elsewhere.1 ..)

/-- The lease of distinct keys is in the table whole. -/
theorem grantAll_locks {keys : List Key} (distinct : keys.Nodup) :
    ∀ part ∈ (table.grantAll ttl keys).1,
      (table.grantAll ttl keys).2.locks part.1 = some ⟨table.now + ttl, part.2⟩ := by
  induction keys generalizing table with
  | nil => simp [LeaseTable.grantAll]
  | cons key rest ih =>
    intro part isPart
    rw [List.nodup_cons] at distinct
    cases List.mem_cons.mp isPart with
    | inl isFirst =>
      subst isFirst
      exact (grantAll_locks_of_notMem distinct.1).trans (Function.update_self ..)
    | inr isLater => exact ih distinct.2 part isLater

theorem Sound.grantAll {keys : List Key} (sound : table.Sound) (distinct : keys.Nodup)
    (free : ∀ key ∈ keys, table.busy key = false) (ttl : Nat) :
    (table.grantAll ttl keys).2.Sound := by
  induction keys generalizing table with
  | nil => exact sound
  | cons key rest ih =>
    rw [List.nodup_cons] at distinct
    have first := sound.grant (free key (List.mem_cons_self ..)) ttl
    refine ih first distinct.2 ?_
    intro other isOther
    have different : other ≠ key := fun same => distinct.1 (same ▸ isOther)
    have before := free other (List.mem_cons_of_mem _ isOther)
    simp only [busy, LeaseTable.grant] at before ⊢
    rw [Function.update_of_ne different]
    exact before

end Changes

end LeaseTable

end Nightgate.Library
