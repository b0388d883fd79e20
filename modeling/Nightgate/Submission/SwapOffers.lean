import Nightgate.Library.Fallible
import Nightgate.Library.Table
import Nightgate.Submission.JobAdmission
import Nightgate.Submission.OfferFile

/-!
# Sponsored swaps

A caller has a swap sponsored that it brings both halves of, or it takes an offer of the board
by its id. A directed offer stores the hash of a taker secret. The secret is asked for when
the offer is taken by its id, and only then: the board hands the bytes of every offer out, and
a caller who brings them as a half of its own is asked for nothing.
-/

namespace Nightgate.Submission

open Library

inductive SwapOfferStatus where
  | listed
  | filled
  | retired
  | expired
  deriving DecidableEq

def SwapOfferStatus.text : SwapOfferStatus → String
  | .listed => "open"
  | .filled => "filled"
  | .retired => "retired"
  | .expired => "expired"

/-- `midnight.SwapOffers`. -/
structure SwapOffer where
  ID : Nat
  offer : String
  wantsType : String
  wantsAmount : Nat
  status : SwapOfferStatus
  expiresAt : Option Nat
  takerSecretHash : Option String
  deriving DecidableEq

instance : Keyed SwapOffer := ⟨SwapOffer.ID⟩

/-- A text that is there and not empty. -/
def given (text : Option String) : Bool := text.any (· ≠ "")

def expireSwapOffers (board : Table SwapOffer) (now : Nat) : Table SwapOffer :=
  board.updateWhere (fun row => row.status = .listed && row.expiresAt.any (· < now))
    { set := fun row => { row with status := .expired } }

def isSwapOfferOpen (now : Nat) (row : SwapOffer) : Bool :=
  row.status = .listed && row.expiresAt.all (now < ·)

/-- The offer may be taken only with its secret. -/
def SwapOffer.directed (row : SwapOffer) : Bool := given row.takerSecretHash

/-- Code from elsewhere: the bech32m codec and the hash. -/
structure SwapServices where
  bech32m : Bech32m
  sha256 : List UInt8 → List UInt8

def utf8 (text : String) : List UInt8 := text.toUTF8.toList

def hexDigit (value : Nat) : Char :=
  if value < 10 then Char.ofNat (value + '0'.toNat) else Char.ofNat (value - 10 + 'a'.toNat)

def bytesToHex (bytes : List UInt8) : String :=
  String.ofList (bytes.flatMap fun byte => [hexDigit (byte.toNat / 16), hexDigit (byte.toNat % 16)])

def hexValue (c : Char) : Option Nat :=
  if isDigit c then some (c.toNat - '0'.toNat)
  else if 'a' ≤ c ∧ c ≤ 'f' then some (c.toNat - 'a'.toNat + 10)
  else if 'A' ≤ c ∧ c ≤ 'F' then some (c.toNat - 'A'.toNat + 10)
  else none

/-- `Buffer.from(text, 'hex')`: up to the first pair that is none. -/
def hexBytes : List Char → List UInt8
  | high :: low :: rest =>
    match hexValue high, hexValue low with
    | some h, some l => UInt8.ofNat (h * 16 + l) :: hexBytes rest
    | _, _ => []
  | _ => []

def hashTakerSecret (services : SwapServices) (secret : String) : String :=
  bytesToHex (services.sha256 (utf8 secret))

def takerSecretMatches (services : SwapServices) (row : SwapOffer) (secret : Option String) :
    Bool :=
  match row.takerSecretHash with
  | none => true
  | some hash =>
    if hash = "" then true
    else
      match secret with
      | none => false
      | some secret =>
        if utf16Length secret = 0 ∨ 256 < utf16Length secret then false
        else hexBytes (hashTakerSecret services secret).toList =
          hexBytes (hash.toList.map toLowerCase)

/-! ## Requests -/

structure SponsorSwapRequest where
  makerHalfB64 : Option String
  takerHalfB64 : Option String
  idempotencyKey : Option String
  offerId : Option Nat
  takerSecret : Option String

/-- A value the caller moves out. -/
structure TokenAmount where
  tokenType : String
  amount : Nat

/-- What a request is answered with when no job starts: a rejection, or an error with its code. -/
inductive SwapRefusal where
  | reject (status : Nat) (message : String)
  | error (code message : String)
  /-- Another check has rejected the request. -/
  | rejected

/-- The agent token of a request. -/
structure RequestGrant where
  ID : Nat
  sponsorSessionId : Option String

/-- What the other checks of one request answer, and the clock it reads. -/
structure SwapChecks where
  now : Nat
  agentGrant : Option RequestGrant
  userId : Option String
  /-- `getConfiguredFeeSponsorSessions`. -/
  feeSponsorSessions : List String
  mainnetSubmissionBlockReason : Option String
  checkRateClass : Bool
  /-- `walletDescribeSwapHalf`; an error refuses the bytes, or the call. -/
  walletDescribeSwapHalf : List UInt8 → Except (Bool × String) TokenAmount
  consumeValueBudget : Nat → TokenAmount → Bool
  /-- `ensureNetworkId` and `resolveFeeSponsor`. -/
  sponsorProblem : String → Option SwapRefusal
  allowSwaps : Option Bool
  allowedTokenTypes : Option (List String)
  /-- What `startJob` throws. -/
  startJobProblem : Option SwapRefusal

def PLATFORM_POOL_SENTINEL : String := "00000000-0000-0000-0000-706f6f6c0000"

structure SwapHalves where
  makerHalf : List UInt8
  takerHalf : List UInt8

/-- The job of a sponsored swap. -/
structure SponsorSwapJob where
  sessionId : String
  idempotencyKey : Option String
  caller : String
  /-- Characters of the halves in base64. -/
  bytes : Nat
  txHash : String
  grantId : Option Nat
  halves : SwapHalves
  offerId : Option Nat

/-- The maker half of a request, and what the caller gives for it where that is known. -/
def makerHalfOf (services : SwapServices) (board : Table SwapOffer) (now : Nat)
    (request : SponsorSwapRequest) : Except SwapRefusal (Option String × Option TokenAmount) :=
  match request.offerId with
  | none => .ok (request.makerHalfB64, none)
  | some offerId =>
    if given request.makerHalfB64 then
      .error (.reject 400 "makerHalfB64 and offerId: one or the other")
    else
      match (expireSwapOffers board now).find? offerId with
      | none => .error (.reject 404 "swap offer not found")
      | some row =>
        if isSwapOfferOpen now row = false then
          .error (.reject 409 ("swap offer is " ++
            if row.status = .listed then "expired" else row.status.text))
        else if row.directed = true ∧ takerSecretMatches services row request.takerSecret = false
        then
          .error (.reject 403
            "this offer is directed: sponsoring it needs the taker secret its poster handed out")
        else .ok (some row.offer, some ⟨row.wantsType, row.wantsAmount⟩)

def halfBytes (services : SwapServices) (name : String) (value : Option String) :
    Except SwapRefusal (List UInt8) :=
  match value.filter (· ≠ "") with
  | none => .error (.reject 400 (name ++ " is required"))
  | some text =>
    match transactionBytesOf services.bech32m text with
    | .error e => .error (.reject 400 (name ++ ": " ++ e.message))
    | .ok bytes => .ok bytes

/-- Both halves, each an offer file or base64. -/
def swapHalves (services : SwapServices) (makerHalf takerHalf : Option String) :
    Except SwapRefusal SwapHalves :=
  if given makerHalf = false then .error (.reject 400 "makerHalfB64 is required")
  else if given takerHalf = false then .error (.reject 400 "takerHalfB64 is required")
  else
    match halfBytes services "makerHalfB64" makerHalf with
    | .error refusal => .error refusal
    | .ok maker =>
      match halfBytes services "takerHalfB64" takerHalf with
      | .error refusal => .error refusal
      | .ok taker => .ok ⟨maker, taker⟩

def sponsorSessionFor (checks : SwapChecks) : Except SwapRefusal String :=
  match (checks.agentGrant.bind RequestGrant.sponsorSessionId).filter
      fun pinned => pinned ≠ "" && pinned ≠ PLATFORM_POOL_SENTINEL with
  | some pinned => .ok pinned
  | none =>
    if checks.feeSponsorSessions.length = 0 then
      .error (.reject 503
        "no fee sponsor is configured on this server (NIGHTGATE_FEE_SPONSOR_SESSION)")
    else .ok PLATFORM_POOL_SENTINEL

/-- `rejectUnlessProven`. -/
def rejectUnlessProven (checks : SwapChecks) (half : List UInt8) :
    Except SwapRefusal TokenAmount :=
  match checks.walletDescribeSwapHalf half with
  | .ok gives => .ok gives
  | .error (true, message) => .error (.reject 400 message)
  | .error (false, message) =>
    .error (.reject 503 ("could not check the transaction (" ++ message ++ ")"))

/-- The worker's word on the halves that no offer of the board stands for, and what the caller
gives. -/
def describedGives (checks : SwapChecks) (taken : Option TokenAmount) (halves : SwapHalves) :
    Except SwapRefusal TokenAmount :=
  match taken with
  | some gives =>
    match rejectUnlessProven checks halves.takerHalf with
    | .error refusal => .error refusal
    | .ok _ => .ok gives
  | none =>
    match rejectUnlessProven checks halves.makerHalf with
    | .error refusal => .error refusal
    | .ok _ => rejectUnlessProven checks halves.takerHalf

def takeValueBudget (checks : SwapChecks) (gives : TokenAmount) : Bool :=
  match checks.agentGrant with
  | none => true
  | some grant => checks.consumeValueBudget grant.ID gives

/-- Characters of `bytes` bytes in base64. -/
def base64Length (bytes : Nat) : Nat := (bytes + 2) / 3 * 4

/-- The part under `runSubmission`. -/
def startSwapJob (services : SwapServices) (checks : SwapChecks) (request : SponsorSwapRequest)
    (sponsor : String) (halves : SwapHalves) : Except SwapRefusal SponsorSwapJob :=
  match checks.sponsorProblem sponsor with
  | some problem => .error problem
  | none =>
    if checks.allowSwaps ≠ some true then
      .error (.error "SPONSOR_POLICY_EMPTY" ("swaps are not sponsored here " ++
        "(NIGHTGATE_SPONSOR_ALLOW_SWAPS or policy file allowSwaps)"))
    else if (checks.allowedTokenTypes.getD []).length = 0 then
      .error (.error "SPONSOR_POLICY_EMPTY" ("a swap needs its token types in " ++
        "allowedTokenTypes, and none is sponsored for this caller"))
    else
      match checks.startJobProblem with
      | some problem => .error problem
      | none =>
        let caller := checks.userId.getD "anonymous"
        .ok {
          sessionId := sponsor
          idempotencyKey := (request.idempotencyKey.filter (· ≠ "")).map fun key =>
            bytesToHex (services.sha256 (utf8 caller ++ [0] ++ utf8 key))
          caller
          bytes := base64Length halves.makerHalf.length + base64Length halves.takerHalf.length
          txHash := bytesToHex (services.sha256 (halves.makerHalf ++ halves.takerHalf))
          grantId := checks.agentGrant.map RequestGrant.ID
          halves
          offerId := request.offerId }

def sponsorSwap (services : SwapServices) (checks : SwapChecks) (board : Table SwapOffer)
    (request : SponsorSwapRequest) : Except SwapRefusal SponsorSwapJob := do
  let maker ← makerHalfOf services board checks.now request
  let halves ← swapHalves services maker.1 request.takerHalfB64
  let sponsor ← sponsorSessionFor checks
  match checks.mainnetSubmissionBlockReason with
  | some reason => .error (.reject 403 reason)
  | none =>
    if checks.checkRateClass = false then .error .rejected
    else do
      let gives ← describedGives checks maker.2 halves
      if takeValueBudget checks gives = false then .error .rejected
      else startSwapJob services checks request sponsor halves

/-! ## When a job starts -/

/-- No other check refuses the request. -/
def SwapChecks.Admits (checks : SwapChecks) (taken : Option TokenAmount) (halves : SwapHalves) :
    Prop :=
  ∃ sponsor gives, sponsorSessionFor checks = .ok sponsor ∧
    checks.mainnetSubmissionBlockReason = none ∧ checks.checkRateClass = true ∧
    describedGives checks taken halves = .ok gives ∧ takeValueBudget checks gives = true ∧
    checks.sponsorProblem sponsor = none ∧ checks.allowSwaps = some true ∧
    (checks.allowedTokenTypes.getD []).length ≠ 0 ∧ checks.startJobProblem = none

section Starting

variable {services : SwapServices} {checks : SwapChecks} {board : Table SwapOffer}
variable {request : SponsorSwapRequest}

theorem startSwapJob_ok {sponsor : String} {halves : SwapHalves} {job : SponsorSwapJob}
    (started : startSwapJob services checks request sponsor halves = .ok job) :
    (checks.sponsorProblem sponsor = none ∧ checks.allowSwaps = some true ∧
      (checks.allowedTokenTypes.getD []).length ≠ 0 ∧ checks.startJobProblem = none) ∧
      job.halves = halves := by
  unfold startSwapJob at started
  split at started
  · cases started
  next noProblem =>
    split at started
    · cases started
    next allowed =>
      split at started
      · cases started
      next types =>
        split at started
        · cases started
        next free =>
          cases started
          exact ⟨⟨noProblem, Decidable.not_not.1 allowed, types, free⟩, rfl⟩

/-- A job carries the halves of its request, and every check let it pass. -/
theorem of_sponsorSwap_ok {job : SponsorSwapJob}
    (started : sponsorSwap services checks board request = .ok job) :
    ∃ maker, makerHalfOf services board checks.now request = .ok maker ∧
      swapHalves services maker.1 request.takerHalfB64 = .ok job.halves ∧
      checks.Admits maker.2 job.halves := by
  unfold sponsorSwap at started
  simp only [bind_eq_ok] at started
  obtain ⟨maker, isMaker, halves, isHalves, sponsor, isSponsor, started⟩ := started
  split at started
  · cases started
  next mainnet =>
    split at started
    · cases started
    next rate =>
      rcases of_bind_ok started with ⟨gives, isGives, started⟩
      split at started
      · cases started
      next budget =>
        rcases startSwapJob_ok started with ⟨⟨problem, allowed, types, free⟩, same⟩
        rw [Bool.not_eq_false] at rate budget
        rw [same]
        exact ⟨maker, isMaker, isHalves, sponsor, gives, isSponsor, mainnet, rate, isGives,
          budget, problem, allowed, types, free⟩

/-- A request that every check lets pass starts a job. -/
theorem sponsorSwap_starts {maker : Option String × Option TokenAmount} {halves : SwapHalves}
    (isMaker : makerHalfOf services board checks.now request = .ok maker)
    (isHalves : swapHalves services maker.1 request.takerHalfB64 = .ok halves)
    (admits : checks.Admits maker.2 halves) :
    ∃ job, sponsorSwap services checks board request = .ok job ∧ job.halves = halves := by
  rcases admits with
    ⟨sponsor, gives, isSponsor, mainnet, rate, isGives, budget, problem, allowed, types, free⟩
  unfold sponsorSwap
  simp only [isMaker, isHalves, isSponsor, isGives, mainnet, rate, budget, startSwapJob, problem,
    allowed, types, free, bind, Except.bind]
  exact ⟨_, rfl, rfl⟩

/-- An offer that is taken by its id is open, and its secret was checked. -/
theorem named_offer_checked {maker : Option String × Option TokenAmount} {now : Nat}
    (isMaker : makerHalfOf services board now request = .ok maker) {row : SwapOffer}
    (stored : row ∈ board.rows) (isOpen : isSwapOfferOpen now row = true)
    (directed : row.directed = true) (named : request.offerId = some row.ID) :
    takerSecretMatches services row request.takerSecret = true := by
  have found : (expireSwapOffers board now).find? row.ID = some row := by
    have unexpired : (row.status = .listed && row.expiresAt.any (· < now)) = false := by
      simp only [isSwapOfferOpen, Bool.and_eq_true] at isOpen
      cases expiry : row.expiresAt with
      | none => simp
      | some expiresAt =>
        rw [expiry] at isOpen
        simp only [Option.all_some, decide_eq_true_eq] at isOpen
        simp [Nat.le_of_lt isOpen.2]
    have isRow : board.find? row.ID = some row := Table.find?_of_mem stored
    rw [expireSwapOffers, Table.find?_updateWhere, isRow, Option.map_some, unexpired]
    rfl
  unfold makerHalfOf at isMaker
  rw [named] at isMaker
  simp only [found, isOpen, directed] at isMaker
  split at isMaker
  · cases isMaker
  · split at isMaker
    next impossible => cases impossible
    · split at isMaker
      · cases isMaker
      next checked =>
        by_contra mismatch
        rw [Bool.not_eq_true] at mismatch
        exact checked ⟨trivial, mismatch⟩

end Starting

/-- The offer is an open directed one, and its half is one of the two. -/
def DirectedHalf (services : SwapServices) (now : Nat) (row : SwapOffer) (halves : SwapHalves) :
    Prop :=
  isSwapOfferOpen now row = true ∧ row.directed = true ∧
    ∃ half, transactionBytesOf services.bech32m row.offer = .ok half ∧
      (half = halves.makerHalf ∨ half = halves.takerHalf)

/-- A job is started with the half of an open directed offer only for a caller who presented
its secret. -/
def TakenWithSecret (services : SwapServices) (checks : SwapChecks) (board : Table SwapOffer)
    (request : SponsorSwapRequest) : Prop :=
  ∀ job, sponsorSwap services checks board request = .ok job → ∀ row ∈ board.rows,
    DirectedHalf services checks.now row job.halves →
      takerSecretMatches services row request.takerSecret = true

/-- The secret is asked for of the offer that is taken by its id. So the law holds of a request
exactly when no other open directed offer has one of its halves, but for those the presented
secret opens as well, or another check refuses the request. -/
theorem taken_with_secret_iff (services : SwapServices) (checks : SwapChecks)
    (board : Table SwapOffer) (request : SponsorSwapRequest) :
    TakenWithSecret services checks board request ↔
      ∀ maker halves, makerHalfOf services board checks.now request = .ok maker →
        swapHalves services maker.1 request.takerHalfB64 = .ok halves →
        checks.Admits maker.2 halves → ∀ row ∈ board.rows, request.offerId ≠ some row.ID →
          DirectedHalf services checks.now row halves →
            takerSecretMatches services row request.takerSecret = true := by
  constructor
  · intro law maker halves isMaker isHalves admits row stored _ directed
    rcases sponsorSwap_starts isMaker isHalves admits with ⟨job, started, same⟩
    exact law job started row stored (same ▸ directed)
  · intro covered job started row stored directed
    rcases of_sponsorSwap_ok started with ⟨maker, isMaker, isHalves, admits⟩
    by_cases named : request.offerId = some row.ID
    · exact named_offer_checked isMaker stored directed.1 directed.2.1 named
    · exact covered maker job.halves isMaker isHalves admits row stored named directed

/-- Whoever reads the bytes of a directed offer off the board can bring them as its own maker
half. -/
theorem directed_offer_taken_as_bytes :
    ¬ ∀ (services : SwapServices) (checks : SwapChecks) (board : Table SwapOffer)
      (request : SponsorSwapRequest), TakenWithSecret services checks board request := by
  intro always
  let services : SwapServices := ⟨⟨fun _ => .error "", fun _ => .error ""⟩, fun bytes => bytes⟩
  let checks : SwapChecks := {
    now := 0
    agentGrant := none
    userId := some "taker"
    feeSponsorSessions := ["pool"]
    mainnetSubmissionBlockReason := none
    checkRateClass := true
    walletDescribeSwapHalf := fun _ => .ok ⟨"aa", 5⟩
    consumeValueBudget := fun _ _ => true
    sponsorProblem := fun _ => none
    allowSwaps := some true
    allowedTokenTypes := some ["aa", "bb"]
    startJobProblem := none }
  let row : SwapOffer := ⟨1, "bWFrZXI=", "aa", 5, .listed, none, some "6d"⟩
  let board := Table.empty.insert row
  let request : SponsorSwapRequest := ⟨some "bWFrZXI=", some "dGFrZXI=", none, none, none⟩
  have maker : transactionBytesOf services.bech32m "bWFrZXI=" =
      .ok [109, 97, 107, 101, 114] := by rfl
  have halves : swapHalves services (some "bWFrZXI=") (some "dGFrZXI=") =
      .ok ⟨[109, 97, 107, 101, 114], [116, 97, 107, 101, 114]⟩ := by rfl
  have admits : checks.Admits none ⟨[109, 97, 107, 101, 114], [116, 97, 107, 101, 114]⟩ :=
    ⟨_, _, rfl, rfl, rfl, rfl, rfl, rfl, rfl, by decide, rfl⟩
  have isMaker : makerHalfOf services board checks.now request = .ok (some "bWFrZXI=", none) :=
    rfl
  rcases sponsorSwap_starts isMaker halves admits with ⟨job, started, same⟩
  have directed : DirectedHalf services checks.now row job.halves :=
    ⟨rfl, rfl, _, maker, Or.inl (by rw [same])⟩
  have matched := always services checks board request job started row (by decide) directed
  cases matched

end Nightgate.Submission
