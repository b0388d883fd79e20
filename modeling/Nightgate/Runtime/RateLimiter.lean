import Mathlib.Algebra.Order.Group.Int
import Mathlib.Data.List.Count
import Mathlib.Data.List.Sort
import Nightgate.Library.InsertionMap
import Nightgate.Library.Machine
import Nightgate.Library.SlidingLog

/-!
# The rate limiter

The limiter keeps the admitted hits of each tracked key and, beside them, how many keys it tracks
for each caller. A new key of a caller at its maximum is refused; when the table is full, the least
recently used key makes room. The timer drops the keys without a hit in the window.
-/

namespace Nightgate.Runtime

open Nightgate.Library

structure RateLimiterOptions where
  windowMs : Int
  maxKeys : Option Nat
  maxKeysPerGroup : Option Nat

structure RateCheckResult where
  allowed : Bool
  retryAfterMs : Int
  limit : Int
  remaining : Int
  resetMs : Int

/-- The caller: the part of a key before its first colon. -/
def groupOf (key : String) : String :=
  String.ofList (key.toList.takeWhile (· ≠ ':'))

structure RateLimiter where
  windowMs : Int
  maxKeys : Nat
  maxKeysPerGroup : Nat
  groupCounts : InsertionMap String Nat
  /-- Least recently used first. -/
  hits : InsertionMap String (List Int)
  roomy : 0 < maxKeys

/-- An option that is left out or zero takes its default. -/
def optionOr (option : Option Nat) (default : Nat) : Nat :=
  if option.getD 0 = 0 then default else option.getD 0

namespace RateLimiter

/-- The limiter as it is built; `maxRequests` is read on every check. -/
def new (opts : RateLimiterOptions) : RateLimiter where
  windowMs := opts.windowMs
  maxKeys := optionOr opts.maxKeys 10000
  maxKeysPerGroup := optionOr opts.maxKeysPerGroup 64
  groupCounts := .empty
  hits := .empty
  roomy := by
    rw [optionOr]
    split
    · decide
    · omega

def groupCount (limiter : RateLimiter) (group : String) : Nat :=
  (limiter.groupCounts.get? group).getD 0

def keys (limiter : RateLimiter) : List String :=
  limiter.hits.entries.map Prod.fst

/-- The recorded hits of a key; none when it is not tracked. -/
def hitsOf (limiter : RateLimiter) (key : String) : List Int :=
  (limiter.hits.get? key).getD []

def dropKey (limiter : RateLimiter) (key : String) : RateLimiter :=
  if key ∉ limiter.keys then limiter
  else
    let group := groupOf key
    let n := (limiter.groupCounts.get? group).getD 1 - 1
    { limiter with
      hits := limiter.hits.erase key
      groupCounts :=
        if n = 0 then limiter.groupCounts.erase group else limiter.groupCounts.set group n }

/-- When the table is full, the least recently used key is dropped. -/
def makeRoom (limiter : RateLimiter) : RateLimiter :=
  if limiter.maxKeys ≤ limiter.keys.length then
    match limiter.keys.head? with
    | some oldest => limiter.dropKey oldest
    | none => limiter
  else limiter

def countGroup (limiter : RateLimiter) (group : String) : RateLimiter :=
  { limiter with
    groupCounts := limiter.groupCounts.set group (limiter.groupCount group + 1) }

/-- The limiter with the key counted; nothing when its caller tracks too many keys. -/
def admitKey (limiter : RateLimiter) (key : String) : Option RateLimiter :=
  if key ∈ limiter.keys then some limiter
  else if limiter.maxKeysPerGroup ≤ limiter.groupCount (groupOf key) then none
  else some (limiter.makeRoom.countGroup (groupOf key))

/-- Deletes the key and inserts it again, which marks it as most recently used. -/
def reinsert (limiter : RateLimiter) (key : String) (timestamps : List Int) : RateLimiter :=
  { limiter with hits := (limiter.hits.erase key).set key timestamps }

/-- Records `count` requests at once. -/
def checkMany (limiter : RateLimiter) (key : String) (count limit now : Int) :
    RateCheckResult × RateLimiter :=
  if count ≤ 0 then (⟨true, 0, limit, limit, 0⟩, limiter)
  else
    match limiter.admitKey key with
    | none => (⟨false, limiter.windowMs, limit, 0, limiter.windowMs⟩, limiter)
    | some tracking =>
      let timestamps := (tracking.hitsOf key).filter (now - limiter.windowMs < ·)
      if limit < timestamps.length + count then
        let sorted := timestamps.insertionSort (· ≤ ·)
        -- A count larger than the whole limit never fits, so a full window is reported.
        let retryAfterMs := match sorted.head? with
          | none => limiter.windowMs
          | some oldestInWindow => max (oldestInWindow + limiter.windowMs - now) 0
        (⟨false, retryAfterMs, limit, max (limit - sorted.length) 0, retryAfterMs⟩,
          tracking.reinsert key sorted)
      else
        let oldest := timestamps.min?.getD now
        let recorded := timestamps ++ List.replicate count.toNat now
        (⟨true, 0, limit, limit - recorded.length, max (oldest + limiter.windowMs - now) 0⟩,
          tracking.reinsert key recorded)

def check (limiter : RateLimiter) (key : String) (limit now : Int) :
    RateCheckResult × RateLimiter :=
  limiter.checkMany key 1 limit now

/-- Drops the keys without an active hit. -/
def sweep (limiter : RateLimiter) (now : Int) : RateLimiter :=
  limiter.hits.entries.foldl (fun swept entry =>
      if entry.2.filter (now - limiter.windowMs < ·) = [] then swept.dropKey entry.1 else swept)
    limiter

end RateLimiter

/-- What happens to a limiter, each at its time. -/
inductive Call where
  | checkMany (key : String) (count limit now : Int)
  | sweep (now : Int)

namespace Call

def check (key : String) (limit now : Int) : Call := .checkMany key 1 limit now

def now : Call → Int
  | checkMany _ _ _ now => now
  | sweep now => now

end Call

namespace RateLimiter

def step (limiter : RateLimiter) : Call → RateLimiter
  | .checkMany key count limit now => (limiter.checkMany key count limit now).2
  | .sweep now => limiter.sweep now

/-- The key a call drops to make room for another. -/
def evicted (limiter : RateLimiter) : Call → Option String
  | .checkMany key count _ _ =>
    if 0 < count ∧ key ∉ limiter.keys ∧ limiter.groupCount (groupOf key) < limiter.maxKeysPerGroup
      ∧ limiter.maxKeys ≤ limiter.keys.length then limiter.keys.head?
    else none
  | .sweep _ => none

/-- The hits of a key that a call admits. -/
def admissionsBy (limiter : RateLimiter) (key : String) : Call → List (Admission Int)
  | .checkMany asked count limit now =>
    if asked = key ∧ 0 < count ∧ (limiter.checkMany asked count limit now).1.allowed then
      List.replicate count.toNat ⟨now, limit⟩
    else []
  | .sweep _ => []

/-- The hits of a key that a run admits, in their order. -/
def admissions (limiter : RateLimiter) (key : String) : List Call → List (Admission Int)
  | [] => []
  | call :: rest => limiter.admissionsBy key call ++ (limiter.step call).admissions key rest

/-- The counters equal the tracked keys of each caller. -/
def Counted (limiter : RateLimiter) : Prop :=
  ∀ group, limiter.groupCount group = limiter.keys.countP (groupOf · = group)

variable {limiter : RateLimiter} {key other group : String}

theorem keys_nodup (limiter : RateLimiter) : limiter.keys.Nodup :=
  limiter.hits.distinct

theorem get?_none : limiter.hits.get? key = none ↔ key ∉ limiter.keys :=
  InsertionMap.get?_eq_none_iff

theorem hitsOf_untracked (untracked : key ∉ limiter.keys) : limiter.hitsOf key = [] := by
  rw [hitsOf, get?_none.mpr untracked, Option.getD_none]

@[simp] theorem dropKey_maxKeys : (limiter.dropKey key).maxKeys = limiter.maxKeys := by
  rw [dropKey]
  split <;> rfl

@[simp] theorem dropKey_windowMs : (limiter.dropKey key).windowMs = limiter.windowMs := by
  rw [dropKey]
  split <;> rfl

@[simp] theorem dropKey_keys : (limiter.dropKey key).keys = limiter.keys.erase key := by
  rw [dropKey]
  split
  next untracked => rw [List.erase_of_not_mem untracked]
  · exact InsertionMap.keys_erase limiter.hits key

@[simp] theorem dropKey_hitsOf_self : (limiter.dropKey key).hitsOf key = [] := by
  apply hitsOf_untracked
  rw [dropKey_keys]
  exact limiter.keys_nodup.not_mem_erase

theorem dropKey_hitsOf_of_ne (distinct : other ≠ key) :
    (limiter.dropKey key).hitsOf other = limiter.hitsOf other := by
  rw [dropKey]
  split
  · rfl
  · rw [hitsOf, InsertionMap.get?_erase_of_ne distinct, hitsOf]

theorem Counted.dropKey (counted : limiter.Counted) (key : String) :
    (limiter.dropKey key).Counted := by
  intro group
  rw [dropKey_keys, List.countP_erase, ← counted group]
  by_cases tracked : key ∈ limiter.keys
  · have stored : 0 < limiter.groupCount (groupOf key) := by
      rw [counted (groupOf key), List.countP_pos_iff]
      exact ⟨key, tracked, by simp⟩
    obtain ⟨n, isCount⟩ : ∃ n, limiter.groupCounts.get? (groupOf key) = some n := by
      rw [groupCount] at stored
      cases found : limiter.groupCounts.get? (groupOf key) with
      | none => simp [found] at stored
      | some n => exact ⟨n, rfl⟩
    rw [RateLimiter.dropKey, if_neg (not_not_intro tracked)]
    simp only [groupCount, isCount, Option.getD_some, tracked, true_and, decide_eq_true_eq]
    by_cases same : groupOf key = group
    · subst same
      rw [if_pos rfl, isCount]
      split
      next last => rw [InsertionMap.get?_erase_self, Option.getD_none, Option.getD_some, last]
      · rw [InsertionMap.get?_set_self, Option.getD_some, Option.getD_some]
    · have distinct : group ≠ groupOf key := fun isGroup => same isGroup.symm
      rw [if_neg same]
      split
      · rw [InsertionMap.get?_erase_of_ne distinct, Nat.sub_zero]
      · rw [InsertionMap.get?_set_of_ne distinct, Nat.sub_zero]
  · rw [RateLimiter.dropKey, if_pos tracked, if_neg (fun both => tracked both.1), Nat.sub_zero]

theorem makeRoom_cases (limiter : RateLimiter) :
    (limiter.keys.length < limiter.maxKeys ∧ limiter.makeRoom = limiter) ∨
      ∃ oldest, limiter.maxKeys ≤ limiter.keys.length ∧ limiter.keys.head? = some oldest ∧
        limiter.makeRoom = limiter.dropKey oldest := by
  rw [makeRoom]
  split
  next full =>
    right
    cases listed : limiter.keys with
    | nil =>
      have := limiter.roomy
      rw [listed, List.length_nil] at full
      omega
    | cons oldest rest => exact ⟨oldest, listed ▸ full, rfl, rfl⟩
  next room => exact Or.inl ⟨Nat.lt_of_not_le room, rfl⟩

theorem Counted.makeRoom (counted : limiter.Counted) : limiter.makeRoom.Counted := by
  obtain ⟨_, isRoom⟩ | ⟨oldest, _, _, isRoom⟩ := limiter.makeRoom_cases
  · rw [isRoom]
    exact counted
  · rw [isRoom]
    exact counted.dropKey oldest

theorem makeRoom_length (within : limiter.keys.length ≤ limiter.maxKeys) :
    limiter.makeRoom.keys.length < limiter.maxKeys := by
  obtain ⟨room, isRoom⟩ | ⟨oldest, _, isOldest, isRoom⟩ := limiter.makeRoom_cases
  · rw [isRoom]
    exact room
  · have tracked : oldest ∈ limiter.keys := List.mem_of_head? isOldest
    have nonempty := List.length_pos_of_mem tracked
    rw [isRoom, dropKey_keys, List.length_erase_of_mem tracked]
    omega

@[simp] theorem makeRoom_maxKeys : limiter.makeRoom.maxKeys = limiter.maxKeys := by
  obtain ⟨_, isRoom⟩ | ⟨oldest, _, _, isRoom⟩ := limiter.makeRoom_cases
  · rw [isRoom]
  · rw [isRoom, dropKey_maxKeys]

@[simp] theorem makeRoom_windowMs : limiter.makeRoom.windowMs = limiter.windowMs := by
  obtain ⟨_, isRoom⟩ | ⟨oldest, _, _, isRoom⟩ := limiter.makeRoom_cases
  · rw [isRoom]
  · rw [isRoom, dropKey_windowMs]

theorem makeRoom_untracked (untracked : key ∉ limiter.keys) : key ∉ limiter.makeRoom.keys := by
  obtain ⟨_, isRoom⟩ | ⟨oldest, _, _, isRoom⟩ := limiter.makeRoom_cases
  · rw [isRoom]
    exact untracked
  · rw [isRoom, dropKey_keys]
    exact fun stored => untracked (List.mem_of_mem_erase stored)

theorem groupCount_countGroup :
    (limiter.countGroup group).groupCount other =
      limiter.groupCount other + if group = other then 1 else 0 := by
  rw [groupCount, countGroup]
  by_cases same : other = group
  · subst same
    rw [InsertionMap.get?_set_self, Option.getD_some, if_pos rfl]
  · rw [InsertionMap.get?_set_of_ne same, if_neg (Ne.symm same), groupCount, Nat.add_zero]

theorem reinsert_keys (timestamps : List Int) :
    (limiter.reinsert key timestamps).keys = limiter.keys.erase key ++ [key] := by
  have fresh : key ∉ (limiter.hits.erase key).entries.map Prod.fst := by
    rw [InsertionMap.keys_erase]
    exact limiter.keys_nodup.not_mem_erase
  rw [keys, reinsert, InsertionMap.set_entries_of_fresh fresh, List.map_append,
    InsertionMap.keys_erase]
  rfl

@[simp] theorem reinsert_hitsOf_self (timestamps : List Int) :
    (limiter.reinsert key timestamps).hitsOf key = timestamps := by
  rw [hitsOf, reinsert, InsertionMap.get?_set_self, Option.getD_some]

theorem reinsert_hitsOf_of_ne (timestamps : List Int) (distinct : other ≠ key) :
    (limiter.reinsert key timestamps).hitsOf other = limiter.hitsOf other := by
  rw [hitsOf, reinsert, InsertionMap.get?_set_of_ne distinct,
    InsertionMap.get?_erase_of_ne distinct, hitsOf]

/-! ## One call -/

variable {tracking : RateLimiter}

theorem admitKey_cases (counts : limiter.admitKey key = some tracking) :
    (key ∈ limiter.keys ∧ tracking = limiter) ∨
      (key ∉ limiter.keys ∧ limiter.groupCount (groupOf key) < limiter.maxKeysPerGroup ∧
        tracking = limiter.makeRoom.countGroup (groupOf key)) := by
  rw [admitKey] at counts
  split at counts
  next tracked => exact Or.inl ⟨tracked, (Option.some.inj counts).symm⟩
  next untracked =>
    split at counts
    · cases counts
    next room => exact Or.inr ⟨untracked, Nat.lt_of_not_le room, (Option.some.inj counts).symm⟩

/-- The counters are right and the table is within its maximum. -/
structure Coherent (limiter : RateLimiter) : Prop where
  counted : limiter.Counted
  within : limiter.keys.length ≤ limiter.maxKeys

theorem new_coherent (opts : RateLimiterOptions) : (new opts).Coherent where
  counted _ := rfl
  within := Nat.zero_le _

theorem Coherent.dropKey (coherent : limiter.Coherent) (key : String) :
    (limiter.dropKey key).Coherent where
  counted := coherent.counted.dropKey key
  within := by
    rw [dropKey_keys, dropKey_maxKeys]
    exact List.length_erase_le.trans coherent.within

/-- A key is counted before it is written, and written where it is counted. -/
theorem Coherent.reinsert (coherent : limiter.Coherent)
    (counts : limiter.admitKey key = some tracking) (timestamps : List Int) :
    (tracking.reinsert key timestamps).Coherent := by
  obtain ⟨tracked, rfl⟩ | ⟨untracked, _, rfl⟩ := admitKey_cases counts
  · constructor
    · intro group
      have one := List.countP_pos_iff (p := fun other => decide (groupOf other = group))
        (l := tracking.keys)
      rw [reinsert_keys, List.countP_append, List.countP_erase, List.countP_singleton]
      change tracking.groupCount group = _
      rw [coherent.counted group]
      by_cases same : groupOf key = group
      · have stored := one.mpr ⟨key, tracked, by simpa using same⟩
        simp only [tracked, same, decide_true, and_self, if_true]
        omega
      · simp [same]
    · rw [reinsert_keys, List.length_append, List.length_erase_of_mem tracked]
      have nonempty := List.length_pos_of_mem tracked
      have within := coherent.within
      change _ ≤ tracking.maxKeys
      rw [List.length_singleton]
      omega
  · have fresh := makeRoom_untracked untracked
    have keys : ((limiter.makeRoom.countGroup (groupOf key)).reinsert key timestamps).keys =
        limiter.makeRoom.keys ++ [key] := by
      rw [reinsert_keys]
      exact congrArg (· ++ [key]) (List.erase_of_not_mem fresh)
    constructor
    · intro group
      rw [keys, List.countP_append, List.countP_singleton, ← coherent.counted.makeRoom group]
      change (limiter.makeRoom.countGroup (groupOf key)).groupCount group = _
      rw [groupCount_countGroup]
      simp
    · rw [keys, List.length_append, List.length_singleton]
      change _ ≤ limiter.makeRoom.maxKeys
      rw [makeRoom_maxKeys]
      exact makeRoom_length coherent.within

theorem admitKey_windowMs (counts : limiter.admitKey key = some tracking) :
    tracking.windowMs = limiter.windowMs := by
  obtain ⟨_, rfl⟩ | ⟨_, _, rfl⟩ := admitKey_cases counts
  · rfl
  · exact makeRoom_windowMs

theorem admitKey_maxKeys (counts : limiter.admitKey key = some tracking) :
    tracking.maxKeys = limiter.maxKeys := by
  obtain ⟨_, rfl⟩ | ⟨_, _, rfl⟩ := admitKey_cases counts
  · rfl
  · exact makeRoom_maxKeys

/-- Counting a key changes the hits of no key but one that is evicted for it. -/
theorem admitKey_hitsOf (counts : limiter.admitKey key = some tracking)
    {count : Int} (positive : 0 < count) (limit now : Int) (other : String) :
    tracking.hitsOf other = limiter.hitsOf other ∨
      (limiter.evicted (.checkMany key count limit now) = some other ∧
        tracking.hitsOf other = []) := by
  obtain ⟨_, rfl⟩ | ⟨untracked, room, rfl⟩ := admitKey_cases counts
  · exact Or.inl rfl
  · change limiter.makeRoom.hitsOf other = _ ∨ _ ∧ limiter.makeRoom.hitsOf other = _
    obtain ⟨_, isRoom⟩ | ⟨oldest, full, isOldest, isRoom⟩ := limiter.makeRoom_cases
    · rw [isRoom]
      exact Or.inl rfl
    · by_cases same : other = oldest
      · subst same
        rw [isRoom, evicted, if_pos ⟨positive, untracked, room, full⟩]
        exact Or.inr ⟨isOldest, dropKey_hitsOf_self⟩
      · rw [isRoom, dropKey_hitsOf_of_ne same]
        exact Or.inl rfl

/-- No key makes room for itself. -/
theorem evicted_ne (limiter : RateLimiter) (key : String) (count limit now : Int) :
    limiter.evicted (.checkMany key count limit now) ≠ some key := by
  rw [evicted]
  split
  next evicts =>
    intro isOldest
    exact evicts.2.1 (List.mem_of_head? isOldest)
  · intro impossible
    cases impossible

theorem admitKey_hitsOf_self (counts : limiter.admitKey key = some tracking) :
    tracking.hitsOf key = limiter.hitsOf key := by
  cases admitKey_hitsOf counts Int.one_pos 0 0 key with
  | inl same => exact same
  | inr dropped => exact absurd dropped.1 (limiter.evicted_ne key 1 0 0)

/-- What a check that asks for requests does: its caller is refused, or the key is counted and
its active hits are written back, with the new ones when they fit. -/
theorem checkMany_cases (limiter : RateLimiter) (key : String) {count : Int} (limit now : Int)
    (positive : 0 < count) :
    let outcome := limiter.checkMany key count limit now
    let active := (limiter.hitsOf key).filter (now - limiter.windowMs < ·)
    (outcome.1.allowed = false ∧ outcome.2 = limiter) ∨
      ∃ tracking, limiter.admitKey key = some tracking ∧ ((outcome.1.allowed = false ∧
            outcome.2 = tracking.reinsert key (active.insertionSort (· ≤ ·))) ∨
          (active.length + count ≤ limit ∧ outcome.1.allowed = true ∧
            outcome.2 = tracking.reinsert key (active ++ List.replicate count.toNat now))) := by
  rw [checkMany, if_neg (Int.not_le.mpr positive)]
  cases counts : limiter.admitKey key with
  | none => exact Or.inl ⟨rfl, rfl⟩
  | some tracking =>
    right
    refine ⟨tracking, rfl, ?_⟩
    dsimp only
    rw [admitKey_hitsOf_self counts]
    split
    · exact Or.inl ⟨rfl, rfl⟩
    next fits => exact Or.inr ⟨Int.not_lt.mp fits, rfl, rfl⟩

theorem checkMany_of_nonpos (limiter : RateLimiter) (key : String) {count : Int} (limit now : Int)
    (nonpos : count ≤ 0) : (limiter.checkMany key count limit now).2 = limiter := by
  rw [checkMany, if_pos nonpos]

/-- A check writes at most its own key, where it was counted. -/
theorem checkMany_state (limiter : RateLimiter) (key : String) (count limit now : Int) :
    (limiter.checkMany key count limit now).2 = limiter ∨
      ∃ tracking timestamps, 0 < count ∧ limiter.admitKey key = some tracking ∧
        (limiter.checkMany key count limit now).2 = tracking.reinsert key timestamps := by
  rcases lt_or_ge 0 count with positive | nonpos
  · obtain ⟨_, same⟩ | ⟨tracking, counts, ⟨_, written⟩ | ⟨_, _, written⟩⟩ :=
      limiter.checkMany_cases key limit now positive
    · exact Or.inl same
    · exact Or.inr ⟨tracking, _, positive, counts, written⟩
    · exact Or.inr ⟨tracking, _, positive, counts, written⟩
  · exact Or.inl (limiter.checkMany_of_nonpos key limit now nonpos)

/-- What the timer keeps while it goes through the entries. -/
structure Swept (limiter swept : RateLimiter) (now : Int) : Prop where
  coherent : limiter.Coherent → swept.Coherent
  windowMs : swept.windowMs = limiter.windowMs
  maxKeys : swept.maxKeys = limiter.maxKeys
  hitsOf : ∀ key, swept.hitsOf key = limiter.hitsOf key ∨
    ((limiter.hitsOf key).filter (now - limiter.windowMs < ·) = [] ∧ swept.hitsOf key = [])

theorem sweep_spec (limiter : RateLimiter) (now : Int) : Swept limiter (limiter.sweep now) now := by
  rw [sweep]
  apply List.foldlRecOn (motive := fun swept => Swept limiter swept now)
  · exact ⟨id, rfl, rfl, fun _ => Or.inl rfl⟩
  · intro swept soFar entry stored
    split
    next idle =>
      have isHits : limiter.hitsOf entry.1 = entry.2 := by
        rw [RateLimiter.hitsOf, InsertionMap.get?_eq_some_iff.mpr stored, Option.getD_some]
      refine ⟨fun coherent => (soFar.coherent coherent).dropKey entry.1, ?_, ?_, ?_⟩
      · rw [dropKey_windowMs, soFar.windowMs]
      · rw [dropKey_maxKeys, soFar.maxKeys]
      · intro key
        by_cases same : key = entry.1
        · subst same
          exact Or.inr ⟨isHits ▸ idle, dropKey_hitsOf_self⟩
        · rw [dropKey_hitsOf_of_ne same]
          exact soFar.hitsOf key
    · exact soFar

/-! ## Runs -/

theorem Coherent.step (coherent : limiter.Coherent) (call : Call) :
    (limiter.step call).Coherent := by
  cases call with
  | checkMany key count limit now =>
    obtain same | ⟨tracking, timestamps, _, counts, written⟩ :=
      limiter.checkMany_state key count limit now
    · rw [RateLimiter.step, same]
      exact coherent
    · rw [RateLimiter.step, written]
      exact coherent.reinsert counts timestamps
  | sweep now => exact (limiter.sweep_spec now).coherent coherent

theorem step_options (limiter : RateLimiter) (call : Call) :
    (limiter.step call).windowMs = limiter.windowMs ∧
      (limiter.step call).maxKeys = limiter.maxKeys := by
  cases call with
  | checkMany key count limit now =>
    obtain same | ⟨tracking, timestamps, _, counts, written⟩ :=
      limiter.checkMany_state key count limit now
    · rw [step, same]
      exact ⟨rfl, rfl⟩
    · rw [step, written]
      exact ⟨(admitKey_windowMs counts :), (admitKey_maxKeys counts :)⟩
  | sweep now => exact ⟨(limiter.sweep_spec now).windowMs, (limiter.sweep_spec now).maxKeys⟩

/-- A check writes no hit of another key. -/
theorem checkMany_hitsOf_of_ne (limiter : RateLimiter) (count limit now : Int)
    (distinct : other ≠ key) :
    (limiter.checkMany key count limit now).2.hitsOf other = limiter.hitsOf other ∨
      (limiter.evicted (.checkMany key count limit now) = some other ∧
        (limiter.checkMany key count limit now).2.hitsOf other = []) := by
  obtain same | ⟨tracking, timestamps, positive, counts, written⟩ :=
    limiter.checkMany_state key count limit now
  · rw [same]
    exact Or.inl rfl
  · rw [written, reinsert_hitsOf_of_ne timestamps distinct]
    exact admitKey_hitsOf counts positive limit now other

/-- One call keeps the log of a key that it does not evict. -/
theorem slidingLog_step {past : List (Admission Int)} {call : Call}
    (sliding : SlidingLog limiter.windowMs call.now past (limiter.hitsOf key))
    (kept : limiter.evicted call ≠ some key) :
    SlidingLog limiter.windowMs call.now (past ++ limiter.admissionsBy key call)
      ((limiter.step call).hitsOf key) := by
  cases call with
  | checkMany asked count limit now =>
    by_cases same : asked = key
    · subst same
      rcases lt_or_ge 0 count with positive | nonpos
      · rw [admissionsBy, step]
        obtain ⟨refused, unchanged⟩ | ⟨tracking, counts, ⟨refused, written⟩ |
          ⟨fits, allowed, written⟩⟩ := limiter.checkMany_cases asked limit now positive
        · rw [refused, unchanged, if_neg (by simp), List.append_nil]
          exact sliding
        · rw [refused, written, if_neg (by simp), List.append_nil, reinsert_hitsOf_self]
          exact sliding.active.perm (List.perm_insertionSort _ _)
        · rw [allowed, written, if_pos ⟨rfl, positive, rfl⟩, reinsert_hitsOf_self]
          apply sliding.active.record
          rw [Int.toNat_of_nonneg (Int.le_of_lt positive)]
          exact fits
      · rw [admissionsBy, if_neg (fun both => absurd both.2.1 (Int.not_lt.mpr nonpos)),
          List.append_nil, step, checkMany_of_nonpos limiter asked limit now nonpos]
        exact sliding
    · rw [admissionsBy, if_neg (fun both => same both.1), List.append_nil, step]
      obtain unchanged | ⟨dropped, _⟩ :=
        limiter.checkMany_hitsOf_of_ne count limit now (Ne.symm same)
      · rw [unchanged]
        exact sliding
      · exact absurd dropped kept
  | sweep now =>
    rw [admissionsBy, List.append_nil, step]
    obtain unchanged | ⟨idle, dropped⟩ := (limiter.sweep_spec now).hitsOf key
    · rw [unchanged]
      exact sliding
    · rw [dropped]
      exact sliding.drop idle

/-- A run at times in order keeps the log of a key that it does not evict. -/
theorem slidingLog_run {last : Int} {past : List (Admission Int)} {calls : List Call}
    (sliding : SlidingLog limiter.windowMs last past (limiter.hitsOf key))
    (ordered : (last :: calls.map Call.now).Pairwise (· ≤ ·))
    (kept : Along step (fun limiter call => limiter.evicted call ≠ some key) limiter calls) :
    ∃ time log, SlidingLog limiter.windowMs time (past ++ limiter.admissions key calls) log := by
  induction calls generalizing limiter last past with
  | nil =>
    rw [admissions, List.append_nil]
    exact ⟨last, _, sliding⟩
  | cons call rest ih =>
    rw [List.map_cons, List.pairwise_cons] at ordered
    have passed := ordered.1 call.now List.mem_cons_self
    have next := slidingLog_step (sliding.later passed) kept.1
    rw [← (limiter.step_options call).1] at next ⊢
    rw [admissions, ← List.append_assoc]
    exact ih next ordered.2 kept.2

theorem run_coherent (calls : List Call) (coherent : limiter.Coherent) :
    (run step limiter calls).Coherent := by
  induction calls generalizing limiter with
  | nil => exact coherent
  | cons call rest ih => exact ih (coherent.step call)

theorem run_options (limiter : RateLimiter) (calls : List Call) :
    (run step limiter calls).windowMs = limiter.windowMs ∧
      (run step limiter calls).maxKeys = limiter.maxKeys := by
  induction calls generalizing limiter with
  | nil => exact ⟨rfl, rfl⟩
  | cons call rest ih =>
    rw [run_cons, (ih _).1, (ih _).2]
    exact limiter.step_options call

/-- A check that is allowed records all its requests after the active hits of its key, any other
check records none, and neither records a hit of another key. -/
def RecordsAllOrNone (limiter : RateLimiter) (key : String) (count limit now : Int) : Prop :=
  let outcome := limiter.checkMany key count limit now
  (if 0 < count ∧ outcome.1.allowed then
    outcome.2.hitsOf key = (limiter.hitsOf key).filter (now - limiter.windowMs < ·) ++
      List.replicate count.toNat now
  else (outcome.2.hitsOf key).Subperm (limiter.hitsOf key)) ∧
    ∀ other, other ≠ key → outcome.2.hitsOf other = limiter.hitsOf other ∨
      (limiter.evicted (.checkMany key count limit now) = some other ∧ outcome.2.hitsOf other = [])

theorem recordsAllOrNone (limiter : RateLimiter) (key : String) (count limit now : Int) :
    limiter.RecordsAllOrNone key count limit now := by
  refine ⟨?_, fun other distinct => limiter.checkMany_hitsOf_of_ne count limit now distinct⟩
  rcases lt_or_ge 0 count with positive | nonpos
  · obtain ⟨refused, unchanged⟩ | ⟨tracking, counts, ⟨refused, written⟩ |
      ⟨fits, allowed, written⟩⟩ := limiter.checkMany_cases key limit now positive
    · rw [refused, unchanged, if_neg (by simp)]
    · rw [refused, written, if_neg (by simp), reinsert_hitsOf_self]
      exact (List.perm_insertionSort _ _).subperm.trans List.filter_sublist.subperm
    · rw [allowed, written, if_pos ⟨positive, rfl⟩, reinsert_hitsOf_self]
  · rw [if_neg (fun both => absurd both.1 (Int.not_lt.mpr nonpos)),
      limiter.checkMany_of_nonpos key limit now nonpos]

end RateLimiter

/-- In every run at times in order the counters match the tracked keys, the table stays within its
maximum, a window holds no more hits of a key that was not evicted than the limit of its last one,
and a check records all its requests or none. -/
theorem rateLimiter_limits (opts : RateLimiterOptions) (before during : List Call)
    (ordered : ((before ++ during).map Call.now).Pairwise (· ≤ ·)) :
    let start := run RateLimiter.step (.new opts) before
    let limiter := run RateLimiter.step start during
    (∀ group, limiter.groupCount group = limiter.keys.countP (groupOf · = group)) ∧
      limiter.keys.length ≤ optionOr opts.maxKeys 10000 ∧
      (∀ key, Along RateLimiter.step (fun limiter call => limiter.evicted call ≠ some key)
          start during →
        ∀ begins hit, (hitsWithin opts.windowMs begins
            (start.admissions key during)).getLast? = some hit →
          ((hitsWithin opts.windowMs begins (start.admissions key during)).length : Int) ≤
            hit.limit) ∧
      ∀ key count limit now, limiter.RecordsAllOrNone key count limit now := by
  have startCoherent := RateLimiter.run_coherent before (RateLimiter.new_coherent opts)
  have coherent := RateLimiter.run_coherent during startCoherent
  have startOptions := RateLimiter.run_options (.new opts) before
  have options := RateLimiter.run_options (run RateLimiter.step (.new opts) before) during
  refine ⟨coherent.counted, ?_, ?_, ?_⟩
  · have within := coherent.within
    rw [options.2, startOptions.2] at within
    exact within
  · intro key kept begins hit isLast
    rw [List.map_append, List.pairwise_append] at ordered
    -- The log of any key is complete for a run that begins now.
    have windows : ∃ time log, SlidingLog opts.windowMs time
        (RateLimiter.admissions (run RateLimiter.step (.new opts) before) key during) log := by
      cases during with
      | nil => exact ⟨0, [], .start _ _ _⟩
      | cons call rest =>
        have initially := SlidingLog.start
          (run RateLimiter.step (.new opts) before).windowMs call.now
          ((run RateLimiter.step (.new opts) before).hitsOf key)
        have inOrder : (call.now :: (call :: rest).map Call.now).Pairwise (· ≤ ·) := by
          refine List.pairwise_cons.mpr ⟨?_, ordered.2.1⟩
          rw [List.map_cons]
          intro time isTime
          cases List.mem_cons.mp isTime with
          | inl now => exact now.ge
          | inr later => exact (List.pairwise_cons.mp ordered.2.1).1 time later
        have sliding := RateLimiter.slidingLog_run initially inOrder kept
        rw [List.nil_append, startOptions.1] at sliding
        exact sliding
    obtain ⟨time, log, sliding⟩ := windows
    exact sliding.bounded begins hit isLast
  · exact RateLimiter.recordsAllOrNone _

/-- Two hits of one caller and a sweep, counted for a key that stays. -/
theorem rateLimiter_limits_shared :
    let start := run RateLimiter.step (.new ⟨1000, some 2, none⟩) [.check "user=a:read" 2 0]
    let limiter := run RateLimiter.step start [.checkMany "user=a:read" 1 2 500, .sweep 600]
    limiter.groupCount "user=a" = 1 ∧ limiter.keys.length ≤ 2 := by
  have limits := rateLimiter_limits ⟨1000, some 2, none⟩ [.check "user=a:read" 2 0]
    [.checkMany "user=a:read" 1 2 500, .sweep 600] (by decide)
  refine ⟨?_, limits.2.1⟩
  rw [limits.1 "user=a"]
  decide

end Nightgate.Runtime
