import Mathlib.Data.List.Sort
import Nightgate.Midnight.SubmitErrorClassification

/-!
# The sponsor pool

Which sponsor wallet a job takes, and what follows from a failed attempt. A finalized
sponsoring takes the lane of its wallet for itself; unbound ones share wallets.
-/

namespace Nightgate.Submission

open Library Midnight

structure SponsorLane where
  busy : Bool := false
  lastUsed : Nat := 0
  cooldownUntil : Nat := 0

/-- The lanes of all wallets; one not used before is as new. -/
abbrev SponsorLanes := String → SponsorLane

def gateRank (atGate : String → Bool) (id : String) : Nat :=
  if atGate id then 0 else 1

/-- The sponsor is neither busy nor paused. -/
def SponsorLanes.free (lanes : SponsorLanes) (now : Nat) (id : String) : Bool :=
  !(lanes id).busy && (lanes id).cooldownUntil ≤ now

/-- The better of the sponsor found so far and the next one: free ones only, synced ones
first, then the least recently used. -/
def preferSponsor (lanes : SponsorLanes) (now : Nat) (atGate : String → Bool)
    (best : Option String) (id : String) : Option String :=
  if lanes.free now id then
    match best with
    | none => some id
    | some current =>
      if gateRank atGate id < gateRank atGate current ∨
          (gateRank atGate id = gateRank atGate current ∧
            (lanes id).lastUsed < (lanes current).lastUsed) then some id
      else some current
  else best

def pickFreeSponsor (lanes : SponsorLanes) (poolIds : List String) (now : Nat)
    (atGate : String → Bool) : Option String :=
  poolIds.foldl (preferSponsor lanes now atGate) none

/-- One look of `acquireSponsor` at the pool. -/
def acquireSponsor (lanes : SponsorLanes) (poolIds : List String) (now : Nat)
    (atGate : String → Bool) : Option (String × SponsorLanes) :=
  (pickFreeSponsor lanes poolIds now atGate).map fun id =>
    (id, Function.update lanes id { lanes id with busy := true, lastUsed := now })

def releaseSponsor (lanes : SponsorLanes) (id : String) : SponsorLanes :=
  Function.update lanes id { lanes id with busy := false }

/-- Pauses a sponsor after a failure, so retries use another one. -/
def benchSponsor (lanes : SponsorLanes) (id : String) (now cooldownMs : Nat) : SponsorLanes :=
  Function.update lanes id { lanes id with busy := false, cooldownUntil := now + cooldownMs }

/-- Marks the sponsor as just used, without reserving it. -/
def touchSponsor (lanes : SponsorLanes) (id : String) (now : Nat) : SponsorLanes :=
  Function.update lanes id { lanes id with lastUsed := now }

section Failures

open Regex

/-- The text of a failure of the sponsor's own state, which arrives without an error code. -/
def SPONSOR_STATE_RE : Regex :=
  oneOf [inOrder [textAnyCase "genuine", optional (textAnyCase "ly"), textAnyCase " sync"],
    textAnyCase "not caught up",
    inOrder [textAnyCase "sync", many anyChar,
      oneOf (["timeout", "timed out", "stalled"].map textAnyCase)],
    textAnyCase "not synced to tip", textAnyCase "No facade for sponsorSessionId",
    inOrder [textAnyCase "dust", many anyChar, oneOf (["stale", "validity"].map textAnyCase)],
    textAnyCase "WALLET_SYNCING", textAnyCase "Sponsor session"]

-- What node's `inspect` renders of an error.
variable (inspect : Midnight.Thrown → String)

/-- The failure is of the sponsor's own state, where the next sponsor may succeed. -/
def isRetryableSponsorFailure (err : Midnight.Thrown) : Bool :=
  let coded := findNightgateError err
  if coded = some "WALLET_NOT_SYNCED" || coded = some "FEE_SPONSOR_UNUSABLE" then true
  else if err.top.name = some "FeeSponsorError" then true
  else
    let info := classifySubmitFailure inspect err
    if info.code = .dustRace then info.ledgerCode ≠ some "pool-invalid"
    else if info.code ≠ .internal then false
    else SPONSOR_STATE_RE.test (err.top.message.getD err.top.shown)

/-- The transaction cannot be on chain, so removing its hash and rebuilding is safe. -/
def isPreInclusionReject (err : Midnight.Thrown) : Bool :=
  let info := classifySubmitFailure inspect err
  if info.code = .preMempoolReject || info.code = .dustRace then true
  -- The request never left the client.
  else info.code = .transport &&
    (info.ledgerCode = some "closing-socket" || info.ledgerCode = some "not-sent" ||
      info.ledgerCode = some "wallet-not-synced")

/-- What to do after a failed sponsoring attempt. -/
inductive SponsorFailureDecision where
  | ambiguous
  | landedNotApplied
  | dustRebuild
  | failover
  | fail
  deriving DecidableEq

structure SponsorVerdict where
  decision : SponsorFailureDecision
  generic : Bool := false
  preInclusion : Bool := false
  deriving DecidableEq

def decideSponsorFailure (err : Midnight.Thrown) : SponsorVerdict :=
  let info := classifySubmitFailure inspect err
  let preInclusion := isPreInclusionReject inspect err
  if info.code = .ambiguous then { decision := .ambiguous }
  else if info.code = .landedNotApplied then { decision := .landedNotApplied }
  -- A dust race means the sponsor is fine, its dust state is just behind.
  else if info.code = .dustRace then
    { decision := .dustRebuild
      generic := info.ledgerCode = some "pool-invalid"
      preInclusion }
  else if isRetryableSponsorFailure inspect err then { decision := .failover, preInclusion }
  else { decision := .fail, preInclusion }

end Failures

section Picking

variable {lanes : SponsorLanes} {now : Nat} {atGate : String → Bool}

theorem preferSponsor_free {best : Option String} {id picked : String}
    (isPicked : preferSponsor lanes now atGate best id = some picked) :
    best = some picked ∨ (picked = id ∧ lanes.free now id = true) := by
  simp only [preferSponsor] at isPicked
  split at isPicked
  next free =>
    split at isPicked
    · cases isPicked
      exact Or.inr ⟨rfl, free⟩
    next current =>
      split at isPicked
      · cases isPicked
        exact Or.inr ⟨rfl, free⟩
      · cases isPicked
        exact Or.inl rfl
  · exact Or.inl isPicked

theorem foldl_preferSponsor_free {poolIds : List String} {best : Option String} {picked : String}
    (isPicked : poolIds.foldl (preferSponsor lanes now atGate) best = some picked) :
    best = some picked ∨ (picked ∈ poolIds ∧ lanes.free now picked = true) := by
  induction poolIds generalizing best with
  | nil => exact Or.inl isPicked
  | cons id rest ih =>
    cases ih isPicked with
    | inr isLater => exact Or.inr ⟨List.mem_cons_of_mem _ isLater.1, isLater.2⟩
    | inl isNow =>
      cases preferSponsor_free isNow with
      | inl isBest => exact Or.inl isBest
      | inr isId =>
        obtain ⟨rfl, free⟩ := isId
        exact Or.inr ⟨List.mem_cons_self .., free⟩

/-- The sponsor picked is one of the pool and free. -/
theorem pickFreeSponsor_free {poolIds : List String} {picked : String}
    (isPicked : pickFreeSponsor lanes poolIds now atGate = some picked) :
    picked ∈ poolIds ∧ lanes.free now picked = true := by
  cases foldl_preferSponsor_free isPicked with
  | inl isNone => cases isNone
  | inr isFree => exact isFree

theorem preferSponsor_isSome {best : Option String} {id : String}
    (found : best.isSome ∨ lanes.free now id = true) :
    (preferSponsor lanes now atGate best id).isSome := by
  simp only [preferSponsor]
  split
  · cases best with
    | none => rfl
    | some current =>
      dsimp only
      split <;> rfl
  next busy => exact found.resolve_right busy

/-- A free sponsor of the pool is not passed over for nothing. -/
theorem pickFreeSponsor_isSome {poolIds : List String} {id : String} (isMember : id ∈ poolIds)
    (free : lanes.free now id = true) :
    (pickFreeSponsor lanes poolIds now atGate).isSome := by
  have found : ∀ (poolIds : List String) (best : Option String), (best.isSome ∨ id ∈ poolIds) →
        (poolIds.foldl (preferSponsor lanes now atGate) best).isSome := by
    intro poolIds
    induction poolIds with
    | nil => simp
    | cons first rest ih =>
      intro best isFound
      apply ih
      by_cases isRest : id ∈ rest
      · exact Or.inr isRest
      · left
        apply preferSponsor_isSome
        cases isFound with
        | inl isBest => exact Or.inl isBest
        | inr isMember =>
          have isFirst := (List.mem_cons.mp isMember).resolve_right isRest
          exact Or.inr (isFirst ▸ free)
  exact found poolIds none (Or.inr isMember)

end Picking

end Nightgate.Submission
