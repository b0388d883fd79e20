import Mathlib.Data.List.Chain
import Nightgate.Midnight.SponsorShape

/-!
# The sponsor policy file

The calls a fee sponsor pays for are listed in a file that is looked at on every request. Its
contents are read again when its modification time or its size changed; a file that cannot be
used leaves the last good policy in force.
-/

namespace Nightgate.Submission

open Library Midnight

inductive RateClass where
  | prove
  | deploy
  | sponsor
  | compute
  | read
  | wallet
  | signing
  | admin
  | publicVerify
  deriving DecidableEq

/-- `RATE_CLASS_NAMES`. -/
def RateClass.all : List (String × RateClass) :=
  [("prove", .prove), ("deploy", .deploy), ("sponsor", .sponsor), ("compute", .compute),
    ("read", .read), ("wallet", .wallet), ("signing", .signing), ("admin", .admin),
    ("public-verify", .publicVerify)]

def RateClass.ofName (name : String) : Option RateClass := RateClass.all.lookup name

/-- The platform policy. The lists a grant adds are not part of it. -/
structure SponsorPolicy where
  allowedContracts : List String
  allowedCircuits : List String
  contractCircuits : Option (List (String × CircuitRule))
  allowDeploy : Bool
  allowedTokenTypes : List String
  allowContractMints : Bool
  allowSwaps : Bool
  allowTransfers : Bool
  shareMintedTokenTypes : Bool
  allowUnshieldedOffers : Bool
  allowedUnshieldedTokenTypes : List String
  rateLimits : Option (List (RateClass × Int))
  deriving DecidableEq

/-- A value `JSON.parse` gives. A number is an integer, or another number. -/
inductive JsonValue where
  | null
  | boolean (value : Bool)
  | number (value : Option Int)
  | string (value : String)
  | array (values : List JsonValue)
  | object (fields : List (String × JsonValue))

def MAX_ENTRY_LENGTH : Nat := 130

/-- `/[A-Za-z0-9_]/`. -/
def isWordChar (c : Char) : Bool :=
  decide ('A' ≤ c ∧ c ≤ 'Z') || decide ('a' ≤ c ∧ c ≤ 'z') || isDigit c || c = '_'

def listOnce (out : List String) (value : String) : List String :=
  if value ∈ out then out else out ++ [value]

def addPolicyEntry (name : String) (out : List String) (entry : JsonValue) :
    Except String (List String) :=
  match entry with
  | .string text =>
    let v := trimText text
    if v = "" then .error (name ++ " contains an empty entry")
    else if MAX_ENTRY_LENGTH < utf16Length v then
      .error (name ++ " entry '" ++ sliceText v 16 ++ "…' is longer than " ++
        toString MAX_ENTRY_LENGTH ++ " characters")
    else if !v.toList.all isWordChar then
      .error (name ++ " entry '" ++ sliceText v 32 ++ "' is not a contract address or circuit name")
    else .ok (listOnce out v)
  | _ => .error (name ++ " entries must be strings")

def addTokenType (name : String) (out : List String) (entry : JsonValue) :
    Except String (List String) :=
  match entry with
  | .string text =>
    let v := String.ofList (dropHexPrefix (lowerText (trimText text)).toList)
    if !isLowerHex64 v then
      .error (name ++ " entry '" ++ sliceText (trimText text) 32 ++
        "' is not a raw token type (64 hex; use deriveTokenType)")
    else .ok (listOnce out v)
  | _ => .error (name ++ " entries must be strings")

/-- The entries of a list, checked one after the other. -/
def validateList (add : String → List String → JsonValue → Except String (List String))
    (name : String) (raw : Option JsonValue) : Except String (List String) :=
  match raw with
  | none | some .null => .ok []
  | some (.array values) =>
    if MAX_POLICY_ENTRIES < values.length then
      .error (name ++ " has " ++ toString values.length ++ " entries; at most " ++
        toString MAX_POLICY_ENTRIES ++ " are allowed")
    else values.foldlM (add name) []
  | some _ => .error (name ++ " must be an array of strings")

/-- Trimmed and without duplicates. -/
def validatePolicyList (name : String) (raw : Option JsonValue) : Except String (List String) :=
  validateList addPolicyEntry name raw

/-- Lowercase, no 0x, no duplicates. -/
def validateTokenTypeList (name : String) (raw : Option JsonValue) : Except String (List String) :=
  validateList addTokenType name raw

def JsonValue.isStar : JsonValue → Bool
  | .string text => text = "*"
  | _ => false

def addContractCircuits (name : String) (out : List (String × CircuitRule))
    (entry : String × JsonValue) : Except String (List (String × CircuitRule)) :=
  let address := lowerText (trimText entry.1)
  let label := name ++ "." ++ sliceText address 16
  if !isLowerHex64 address then
    .error (name ++ " key '" ++ sliceText (trimText entry.1) 32 ++
      "' is not a contract address (64 hex)")
  else if address ∈ out.map Prod.fst then
    .error (name ++ " lists contract " ++ sliceText address 16 ++ " twice")
  else if entry.2.isStar then .ok (out ++ [(address, .all)])
  else
    match entry.2 with
    | .array values =>
      if values.any JsonValue.isStar then
        .error (label ++ ": use \"*\" as the value, not inside the array")
      else do
        let circuits ← validatePolicyList label (some entry.2)
        if circuits.isEmpty then
          .error (label ++ " must be \"*\" or a non-empty array of circuit names")
        else .ok (out ++ [(address, .listed circuits)])
    | value => do
        let circuits ← validatePolicyList label (some value)
        if circuits.isEmpty then
          .error (label ++ " must be \"*\" or a non-empty array of circuit names")
        else .ok (out ++ [(address, .listed circuits)])

/-- Addresses as 64 hex (lowercased) to all circuits or a non-empty circuit list. -/
def validateContractCircuits (name : String) (raw : Option JsonValue) :
    Except String (Option (List (String × CircuitRule))) :=
  match raw with
  | none | some .null => .ok none
  | some (.object entries) =>
    if MAX_POLICY_ENTRIES < entries.length then
      .error (name ++ " has " ++ toString entries.length ++ " entries; at most " ++
        toString MAX_POLICY_ENTRIES ++ " are allowed")
    else (entries.foldlM (addContractCircuits name) []).map some
  | some _ => .error (name ++ " must be an object of contract address to \"*\" or circuit names")

def addRateLimit (out : List (RateClass × Int)) (entry : String × JsonValue) :
    Except String (List (RateClass × Int)) :=
  match RateClass.ofName entry.1 with
  | none =>
    .error ("rateLimits names unknown class '" ++ entry.1 ++ "'; known: " ++
      ", ".intercalate (RateClass.all.map Prod.fst))
  | some rateClass =>
    match entry.2 with
    | .number (some count) =>
      if count < 1 then .error ("rateLimits." ++ entry.1 ++ " must be an integer of at least 1")
      else .ok (out ++ [(rateClass, count)])
    | _ => .error ("rateLimits." ++ entry.1 ++ " must be an integer of at least 1")

def readRateLimits (raw : Option JsonValue) : Except String (Option (List (RateClass × Int))) :=
  match raw with
  | none => .ok none
  | some (.object entries) => (entries.foldlM addRateLimit []).map some
  | some _ => .error "rateLimits must be an object of class name to count"

/-! ## The file -/

def POLICY_FILE_KEYS : List String :=
  ["allowedContracts", "allowedCircuits", "contractCircuits", "allowDeploy", "allowedTokenTypes",
    "allowContractMints", "allowSwaps", "allowTransfers", "shareMintedTokenTypes",
    "allowUnshieldedOffers", "allowedUnshieldedTokenTypes", "rateLimits"]

def POLICY_FILE_FLAGS : List String :=
  ["allowDeploy", "allowContractMints", "allowSwaps", "allowTransfers", "shareMintedTokenTypes",
    "allowUnshieldedOffers"]

/-- The check of a flag. -/
def checkFlag (fields : List (String × JsonValue)) (flag : String) : Except String Unit :=
  match fields.lookup flag with
  | none | some (.boolean _) => .ok ()
  | some _ => .error (flag ++ " must be a boolean")

def flagOf (fields : List (String × JsonValue)) (flag : String) : Bool :=
  match fields.lookup flag with
  | some (.boolean value) => value
  | _ => false

/-- `readPolicyFile`, from the text of the file. `JSON.parse` is a parameter. -/
def readPolicyFile (parse : String → Except String JsonValue) (text : String) :
    Except String SponsorPolicy := do
  match ← parse text with
  | .object fields =>
    let unknownKeys := (fields.map Prod.fst).filter fun key => key ∉ POLICY_FILE_KEYS
    if unknownKeys ≠ [] then
      throw ("policy file has unknown keys: " ++ ", ".intercalate unknownKeys)
    POLICY_FILE_FLAGS.forM (checkFlag fields)
    let rateLimits ← readRateLimits (fields.lookup "rateLimits")
    let contractCircuits ←
      validateContractCircuits "contractCircuits" (fields.lookup "contractCircuits")
    let allowedContracts ← validatePolicyList "allowedContracts" (fields.lookup "allowedContracts")
    -- A ruled contract is allowed without a second entry; an empty list stays empty.
    let ruled := ((contractCircuits.getD []).map Prod.fst).filter (· ∉ allowedContracts)
    let allowedCircuits ← validatePolicyList "allowedCircuits" (fields.lookup "allowedCircuits")
    let allowedTokenTypes ←
      validateTokenTypeList "allowedTokenTypes" (fields.lookup "allowedTokenTypes")
    let allowedUnshieldedTokenTypes ← validateTokenTypeList "allowedUnshieldedTokenTypes"
      (fields.lookup "allowedUnshieldedTokenTypes")
    return {
      allowedContracts :=
        if allowedContracts.isEmpty then allowedContracts else allowedContracts ++ ruled
      allowedCircuits
      contractCircuits
      allowDeploy := flagOf fields "allowDeploy"
      allowedTokenTypes
      allowContractMints := flagOf fields "allowContractMints"
      allowSwaps := flagOf fields "allowSwaps"
      allowTransfers := flagOf fields "allowTransfers"
      shareMintedTokenTypes := flagOf fields "shareMintedTokenTypes"
      allowUnshieldedOffers := flagOf fields "allowUnshieldedOffers"
      allowedUnshieldedTokenTypes
      rateLimits }
  | _ => throw "policy file must be a JSON object"

/-- The settings of the environment. -/
structure SponsorEnv where
  allowedContracts : List String
  allowedCircuits : List String
  allowDeploy : Bool
  allowedTokenTypes : List String
  allowContractMints : Bool
  allowSwaps : Bool
  allowTransfers : Bool
  shareMintedTokenTypes : Bool
  allowUnshieldedOffers : Bool
  allowedUnshieldedTokenTypes : List String

structure SponsorPolicyUnavailableError where
  message : String

/-- A list of the environment that lost an entry is not used. -/
def envTokenTypes (key : String) (types : List String) :
    Except SponsorPolicyUnavailableError (List String) :=
  (validateTokenTypeList key (some (.array (types.map .string)))).mapError fun message =>
    ⟨message ++ "; refusing to sponsor"⟩

def envPolicy (env : SponsorEnv) : Except SponsorPolicyUnavailableError SponsorPolicy := do
  let allowedTokenTypes ←
    envTokenTypes "NIGHTGATE_SPONSOR_ALLOWED_TOKEN_TYPES" env.allowedTokenTypes
  let allowedUnshieldedTokenTypes ← envTokenTypes
    "NIGHTGATE_SPONSOR_ALLOWED_UNSHIELDED_TOKEN_TYPES" env.allowedUnshieldedTokenTypes
  return {
    allowedContracts := env.allowedContracts
    allowedCircuits := env.allowedCircuits
    contractCircuits := none
    allowDeploy := env.allowDeploy
    allowedTokenTypes
    allowContractMints := env.allowContractMints
    allowSwaps := env.allowSwaps
    allowTransfers := env.allowTransfers
    shareMintedTokenTypes := env.shareMintedTokenTypes
    allowUnshieldedOffers := env.allowUnshieldedOffers
    allowedUnshieldedTokenTypes
    rateLimits := none }

structure FileStat where
  mtimeMs : Int
  size : Nat

/-- What one look at the file finds: its metadata, if it is there, and its text, if it can be
read. -/
structure FileView where
  stat : Option FileStat
  text : Except String String

/-- A file that was missing is remembered with the time and size -1. -/
structure FileCache where
  path : String
  mtimeMs : Int
  size : Int
  policy : Option SponsorPolicy
  lastGood : Option SponsorPolicy

/-- The answer with the last good policy, or the refusal. -/
def orLastGood (lastGood : Option SponsorPolicy) (filePath trouble : String) :
    Except SponsorPolicyUnavailableError SponsorPolicy :=
  match lastGood with
  | some policy => .ok policy
  | none =>
    .error ⟨"sponsor policy file " ++ filePath ++ " " ++ trouble ++
      " and no policy was loaded before; refusing to sponsor"⟩

section Lookup

variable (parse : String → Except String JsonValue) (env : SponsorEnv)

/-- The cache describes the file as it is. -/
def FileCache.unchanged (cache : FileCache) (filePath : String) (stat : FileStat) : Bool :=
  cache.path = filePath && cache.mtimeMs = stat.mtimeMs && cache.size = stat.size

/-- The policy read from a view of the file. -/
def FileView.read (view : FileView) : Except String SponsorPolicy :=
  view.text.bind (readPolicyFile parse)

/-- The current platform policy, with the cache after the call. -/
def getGlobalSponsorPolicy (filePath : Option String) (view : FileView)
    (fileCache : Option FileCache) :
    Except SponsorPolicyUnavailableError SponsorPolicy × Option FileCache :=
  match filePath with
  | none => (envPolicy env, fileCache)
  | some filePath =>
    let known := fileCache.filter fun cache => cache.path = filePath
    let lastGood := known.bind FileCache.lastGood
    match view.stat with
    | some stat =>
      match fileCache.filter fun cache => cache.unchanged filePath stat with
      | some cache =>
        match cache.policy with
        | some policy => (.ok policy, fileCache)
        | none => (orLastGood cache.lastGood filePath "is unusable", fileCache)
      | none =>
        match view.read parse with
        | .ok policy =>
          (.ok policy, some ⟨filePath, stat.mtimeMs, stat.size, some policy, some policy⟩)
        | .error _ =>
          (orLastGood lastGood filePath "is invalid",
            some ⟨filePath, stat.mtimeMs, stat.size, none, lastGood⟩)
    | none =>
      if known.any fun cache => cache.mtimeMs = -1 then
        (orLastGood lastGood filePath "cannot be read", fileCache)
      else
        (orLastGood lastGood filePath "cannot be read", some ⟨filePath, -1, -1, none, lastGood⟩)

end Lookup

/-! ## Histories -/

section History

variable (parse : String → Except String JsonValue) (env : SponsorEnv) (path : String)

/-- The policy of a version of the file, when it is valid. -/
def FileView.policy (view : FileView) : Option SponsorPolicy :=
  view.stat.bind fun _ => (view.read parse).toOption

/-- What a call leaves in the cache. -/
def policyStep (cache : Option FileCache) (view : FileView) : Option FileCache :=
  (getGlobalSponsorPolicy parse env (some path) view cache).2

/-- The cache after the calls that found the file so. -/
def cacheAfter (views : List FileView) : Option FileCache :=
  run (policyStep parse env path) none views

/-- The answer of a call after the others. -/
def answerAfter (views : List FileView) (view : FileView) :
    Except SponsorPolicyUnavailableError SponsorPolicy :=
  (getGlobalSponsorPolicy parse env (some path) view (cacheAfter parse env path views)).1

/-- The policy of the last version that was valid when a call looked at it. -/
def lastValid (views : List FileView) : Option SponsorPolicy :=
  (views.filterMap (FileView.policy parse)).getLast?

/-- The looks that found the file. -/
def presentViews (views : List FileView) : List FileView :=
  views.filter fun view => view.stat.isSome

/-- Between two looks that find the file, its text does not change without its modification time
or its size. -/
def StatTells (views : List FileView) : Prop :=
  (presentViews views).IsChain fun earlier later =>
    earlier.stat = later.stat → earlier.text = later.text

/-- What the calls answer over a history. -/
structure PolicyHistory (views : List FileView) (view : FileView) : Prop where
  current : StatTells (views ++ [view]) →
    (answerAfter parse env path views view).toOption = lastValid parse (views ++ [view])
  /-- No call fails after one that loaded a policy. -/
  kept : ∀ before seen after, views = before ++ seen :: after →
    (answerAfter parse env path before seen).isOk → (answerAfter parse env path views view).isOk
  /-- Every answer was valid when a call looked at the file. -/
  valid : ∀ policy, answerAfter parse env path views view = .ok policy →
    ∃ seen ∈ views ++ [view], seen.policy parse = some policy

end History

section Runs

variable {parse : String → Except String JsonValue} {env : SponsorEnv} {path : String}
  {views : List FileView} {view : FileView} {cache : Option FileCache}

theorem lastValid_append :
    lastValid parse (views ++ [view]) = (view.policy parse).or (lastValid parse views) := by
  rw [lastValid, List.filterMap_append]
  cases isPolicy : view.policy parse with
  | none => simp [isPolicy, lastValid]
  | some policy => simp [isPolicy]

theorem presentViews_append {stat : FileStat} (isStat : view.stat = some stat) :
    presentViews (views ++ [view]) = presentViews views ++ [view] := by
  simp [presentViews, isStat]

theorem presentViews_append_missing (missing : view.stat = none) :
    presentViews (views ++ [view]) = presentViews views := by
  simp [presentViews, missing]

theorem StatTells.earlier (tells : StatTells (views ++ [view])) : StatTells views := by
  rw [StatTells] at tells ⊢
  cases isStat : view.stat with
  | none => rwa [presentViews_append_missing isStat] at tells
  | some stat =>
    rw [presentViews_append isStat] at tells
    exact (List.isChain_append.mp tells).1

/-- What the cache knows of the looks so far. -/
structure CacheSound (parse : String → Except String JsonValue) (path : String)
    (views : List FileView) (cache : Option FileCache) : Prop where
  path : ∀ entry ∈ cache, entry.path = path
  loaded : ∀ entry ∈ cache, ∀ policy, entry.policy = some policy → entry.lastGood = some policy
  source : ∀ policy, cache.bind FileCache.lastGood = some policy →
    ∃ seen ∈ views, seen.policy parse = some policy
  newest : StatTells views → cache.bind FileCache.lastGood = lastValid parse views
  /-- An entry that is not the mark of a missing file is of the last look that found it. -/
  version : StatTells views → ∀ entry ∈ cache, entry.size = -1 ∨
    ∃ seen stat, (presentViews views).getLast? = some seen ∧ seen.stat = some stat ∧
      entry.mtimeMs = stat.mtimeMs ∧ entry.size = stat.size ∧ entry.policy = seen.policy parse

theorem CacheSound.start : CacheSound parse path [] none where
  path := fun _ isEntry => nomatch isEntry
  loaded := fun _ isEntry => nomatch isEntry
  source := fun _ isGood => nomatch isGood
  newest := fun _ => rfl
  version := fun _ _ isEntry => nomatch isEntry

/-- A call that keeps the cache, with what it holds for this look. -/
theorem CacheSound.keep (sound : CacheSound parse path views cache)
    (same : StatTells (views ++ [view]) →
      cache.bind FileCache.lastGood = (view.policy parse).or (cache.bind FileCache.lastGood))
    (version : StatTells (views ++ [view]) → ∀ entry ∈ cache, entry.size = -1 ∨
      ∃ seen stat, (presentViews (views ++ [view])).getLast? = some seen ∧
        seen.stat = some stat ∧ entry.mtimeMs = stat.mtimeMs ∧ entry.size = stat.size ∧
        entry.policy = seen.policy parse) :
    CacheSound parse path (views ++ [view]) cache where
  path := sound.path
  loaded := sound.loaded
  source := by
    intro policy isGood
    obtain ⟨seen, listed, isPolicy⟩ := sound.source policy isGood
    exact ⟨seen, List.mem_append_left _ listed, isPolicy⟩
  newest := by
    intro tells
    rw [same tells, lastValid_append, sound.newest tells.earlier]
  version := version

/-- A call that replaces the entry: what it read, or the last good policy. -/
theorem CacheSound.replace (sound : CacheSound parse path views cache) {entry : FileCache}
    (isPath : entry.path = path) (isPolicy : entry.policy = view.policy parse)
    (isGood : entry.lastGood = (view.policy parse).or (cache.bind FileCache.lastGood))
    (version : entry.size = -1 ∨ ∃ stat, view.stat = some stat ∧ entry.mtimeMs = stat.mtimeMs ∧
      entry.size = stat.size) :
    CacheSound parse path (views ++ [view]) (some entry) where
  path := by
    rintro _ ⟨⟩
    exact isPath
  loaded := by
    rintro _ ⟨⟩ policy hasPolicy
    rw [isGood, ← isPolicy, hasPolicy]
    rfl
  source := by
    intro policy good
    rw [Option.bind_some, isGood] at good
    cases isView : view.policy parse with
    | some own =>
      rw [isView] at good
      exact ⟨view, by simp, isView.trans good⟩
    | none =>
      rw [isView] at good
      obtain ⟨seen, listed, isSeen⟩ := sound.source policy good
      exact ⟨seen, List.mem_append_left _ listed, isSeen⟩
  newest := by
    intro tells
    rw [Option.bind_some, isGood, lastValid_append, sound.newest tells.earlier]
  version := by
    rintro _ _ ⟨⟩
    cases version with
    | inl isMark => exact Or.inl isMark
    | inr isStat =>
      obtain ⟨stat, isStat, isTime, isSize⟩ := isStat
      refine Or.inr ⟨view, stat, ?_, isStat, isTime, isSize, isPolicy⟩
      rw [presentViews_append isStat, List.getLast?_concat]

/-- What a call does: the cache stays sound, the answer is its last good policy, and none is
lost. -/
structure PolicyCall (parse : String → Except String JsonValue) (path : String)
    (views : List FileView) (view : FileView) (before : Option FileCache)
    (answered : Except SponsorPolicyUnavailableError SponsorPolicy × Option FileCache) : Prop where
  sound : CacheSound parse path (views ++ [view]) answered.2
  answer : answered.1.toOption = answered.2.bind FileCache.lastGood
  kept : (before.bind FileCache.lastGood).isSome → (answered.2.bind FileCache.lastGood).isSome

@[simp] theorem orLastGood_toOption (lastGood : Option SponsorPolicy) (trouble : String) :
    (orLastGood lastGood path trouble).toOption = lastGood := by
  cases lastGood with
  | none | some => rfl

theorem CacheSound.call (sound : CacheSound parse path views cache) :
    PolicyCall parse path views view cache
      (getGlobalSponsorPolicy parse env (some path) view cache) := by
  have known : cache.filter (fun entry => entry.path = path) = cache := by
    cases cache with
    | none => rfl
    | some entry => simp [sound.path entry rfl]
  simp only [getGlobalSponsorPolicy, known]
  cases isStat : view.stat with
  | none =>
    have noPolicy : view.policy parse = none := by rw [FileView.policy, isStat, Option.bind_none]
    dsimp only
    split
    next =>
      -- Already marked, or of the time -1: the entry stays.
      refine ⟨sound.keep (fun _ => by rw [noPolicy, Option.none_or]) ?_,
        orLastGood_toOption _ _, id⟩
      rw [presentViews_append_missing isStat]
      exact fun tells => sound.version tells.earlier
    · exact ⟨sound.replace rfl noPolicy.symm (by rw [noPolicy, Option.none_or]) (Or.inl rfl),
        orLastGood_toOption _ _, id⟩
  | some stat =>
    dsimp only
    split
    next entry isEntry =>
      obtain ⟨rfl, described⟩ := Option.filter_eq_some_iff.mp isEntry
      simp only [FileCache.unchanged, Bool.and_eq_true, decide_eq_true_eq] at described
      have same : StatTells (views ++ [view]) → entry.policy = view.policy parse := by
        intro tells
        cases sound.version tells.earlier entry rfl with
        | inl isMark => omega
        | inr isVersion =>
          obtain ⟨seen, seenStat, isLast, isSeen, isTime, isSize, isPolicy⟩ := isVersion
          have sameStat : seenStat = stat := by
            cases seenStat
            cases stat
            simp only [FileStat.mk.injEq]
            simp only at isTime isSize described
            omega
          rw [StatTells, presentViews_append isStat, List.isChain_append] at tells
          have sameText := tells.2.2 seen isLast view rfl (by rw [isSeen, isStat, sameStat])
          rw [isPolicy, FileView.policy, FileView.policy, isSeen, isStat, FileView.read,
            FileView.read, sameText]
          rfl
      have kept : CacheSound parse path (views ++ [view]) (some entry) := by
        apply sound.keep
        · intro tells
          rw [← same tells, Option.bind_some]
          cases isPolicy : entry.policy with
          | none => rfl
          | some policy => exact sound.loaded entry rfl policy isPolicy
        · rintro tells _ ⟨⟩
          refine Or.inr ⟨view, stat, ?_, isStat, described.1.2, described.2, same tells⟩
          rw [presentViews_append isStat, List.getLast?_concat]
      split
      next policy isPolicy =>
        exact ⟨kept, (sound.loaded entry rfl policy isPolicy).symm, id⟩
      · exact ⟨kept, orLastGood_toOption _ _, id⟩
    · split
      next policy isRead =>
        have isPolicy : view.policy parse = some policy := by
          rw [FileView.policy, isStat, Option.bind_some, isRead]
          rfl
        exact ⟨sound.replace rfl isPolicy.symm (by rw [isPolicy]; rfl)
          (Or.inr ⟨stat, isStat, rfl, rfl⟩), rfl, fun _ => rfl⟩
      next failure isRead =>
        have noPolicy : view.policy parse = none := by
          rw [FileView.policy, isStat, Option.bind_some, isRead]
          rfl
        exact ⟨sound.replace rfl noPolicy.symm (by rw [noPolicy, Option.none_or])
          (Or.inr ⟨stat, isStat, rfl, rfl⟩), orLastGood_toOption _ _, id⟩

theorem cacheAfter_sound (views : List FileView) :
    CacheSound parse path views (cacheAfter parse env path views) := by
  have keeps : ∀ past cache view, CacheSound parse path past cache →
      CacheSound parse path (past ++ [view]) (policyStep parse env path cache view) :=
    fun _ _ _ sound => sound.call.sound
  exact run_past keeps CacheSound.start views

theorem cacheAfter_append : cacheAfter parse env path (views ++ [view]) =
    (getGlobalSponsorPolicy parse env (some path) view (cacheAfter parse env path views)).2 := by
  rw [cacheAfter, run_append]
  rfl

/-- A policy in the cache is never lost. -/
theorem cacheAfter_kept {before after : List FileView}
    (good : ((cacheAfter parse env path before).bind FileCache.lastGood).isSome) :
    ((cacheAfter parse env path (before ++ after)).bind FileCache.lastGood).isSome := by
  have keeps : ∀ past cache view,
      CacheSound parse path past cache ∧ (cache.bind FileCache.lastGood).isSome →
        CacheSound parse path (past ++ [view]) (policyStep parse env path cache view) ∧
          ((policyStep parse env path cache view).bind FileCache.lastGood).isSome :=
    fun _ _ _ sound => ⟨sound.1.call.sound, sound.1.call.kept sound.2⟩
  rw [cacheAfter, run_append]
  exact (run_past keeps ⟨cacheAfter_sound before, good⟩ after).2

theorem isOk_iff_toOption {answer : Except SponsorPolicyUnavailableError SponsorPolicy} :
    answer.isOk = answer.toOption.isSome := by
  cases answer with
  | error | ok => rfl

/-- Where the time and the size tell the versions apart, each call answers with the newest policy
that was valid when a call looked; in every history a loaded policy is never lost, and none is
answered that was never valid. -/
theorem sponsor_policy_history (parse : String → Except String JsonValue) (env : SponsorEnv)
    (path : String) (views : List FileView) (view : FileView) :
    PolicyHistory parse env path views view := by
  have call : PolicyCall parse path views view (cacheAfter parse env path views)
      (getGlobalSponsorPolicy parse env (some path) view (cacheAfter parse env path views)) :=
    (cacheAfter_sound views).call
  refine ⟨?_, ?_, ?_⟩
  · intro tells
    rw [answerAfter, call.answer]
    exact call.sound.newest tells
  · rintro before seen after rfl answered
    have earlier : PolicyCall parse path before seen (cacheAfter parse env path before)
        (getGlobalSponsorPolicy parse env (some path) seen (cacheAfter parse env path before)) :=
      (cacheAfter_sound before).call
    rw [isOk_iff_toOption, answerAfter, earlier.answer, ← cacheAfter_append] at answered
    rw [isOk_iff_toOption, answerAfter, call.answer, ← cacheAfter_append]
    have history :
        (before ++ seen :: after) ++ [view] = (before ++ [seen]) ++ (after ++ [view]) := by
      simp
    rw [history]
    exact cacheAfter_kept answered
  · intro policy isAnswer
    apply call.sound.source
    rw [← call.answer]
    rw [answerAfter] at isAnswer
    rw [isAnswer]
    rfl

end Runs

/-- Nothing is set in the environment. -/
def bareEnv : SponsorEnv where
  allowedContracts := []
  allowedCircuits := []
  allowDeploy := false
  allowedTokenTypes := []
  allowContractMints := false
  allowSwaps := false
  allowTransfers := false
  shareMintedTokenTypes := false
  allowUnshieldedOffers := false
  allowedUnshieldedTokenTypes := []

def swapsText : String := "\x7b\"allowSwaps\":true \x7d"

def noSwapsText : String := "\x7b\"allowSwaps\":false\x7d"

/-- `JSON.parse` on the sample texts. -/
def sampleParse (text : String) : Except String JsonValue :=
  if text = swapsText then .ok (.object [("allowSwaps", .boolean true)])
  else if text = noSwapsText then .ok (.object [("allowSwaps", .boolean false)])
  else .error "Unexpected end of JSON input"

/-- A version of the file with this text, written at this time. -/
def versionOf (mtimeMs : Int) (text : String) : FileView where
  stat := some ⟨mtimeMs, text.length⟩
  text := .ok text

/-- A change within one time stamp that keeps the size is not seen, and a valid version that no
call looked at is not fallen back to. -/
theorem policy_version_missed :
    (answerAfter sampleParse bareEnv "policy.json" [versionOf 1 swapsText]
          (versionOf 1 noSwapsText)).toOption ≠
        lastValid sampleParse [versionOf 1 swapsText, versionOf 1 noSwapsText] ∧
      (answerAfter sampleParse bareEnv "policy.json" [versionOf 1 swapsText]
          (versionOf 3 "\x7b")).toOption ≠
        lastValid sampleParse
          [versionOf 1 swapsText, versionOf 2 noSwapsText, versionOf 3 "\x7b"] := by
  decide +kernel

end Nightgate.Submission
