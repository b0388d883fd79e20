import Nightgate.Library.Regex

/-!
# Classification of submit failures

A failed submit is sorted into a code, by the code it carries, the names and codes in its chain of
causes, and last by its text. The text is the message of the error and what node's `inspect`
renders of it, without stack frames; `inspect` is a parameter.
-/

namespace Nightgate.Midnight

open Library

/-- What the code reads of a thrown value or of one of its causes. -/
structure ErrorFields where
  /-- An instance of `Error`. Other values may have the properties of one. -/
  isError : Bool := true
  name : Option String := none
  message : Option String := none
  /-- `String(value)`; empty for null and undefined. -/
  shown : String := ""
  /-- What `errorMessage` gives without a message: the text, or the JSON. -/
  plain : String := ""
  code : Option String := none
  ledgerCode : Option String := none
  retryable : Bool := false
  phase : Option String := none
  isNightgateError : Bool := false
  nothingSent : Bool := false

/-- A thrown value and its causes, outermost first; a chain that closes is given up to there. -/
structure Thrown where
  top : ErrorFields
  causes : List ErrorFields := []

def Thrown.all (err : Thrown) : List ErrorFields := err.top :: err.causes

def errorMessage (err : Thrown) : String := err.top.message.getD err.top.plain

def MAX_CHAIN : Nat := 8

/-- The error followed by its causes. -/
def errorChain (err : Thrown) : List ErrorFields := err.all.take MAX_CHAIN

def nameOf (fields : ErrorFields) : String := fields.name.getD ""

def isNightgateError (fields : ErrorFields) : Bool :=
  fields.isNightgateError && fields.code.isSome

/-- The code of the first error of our own in the chain. -/
def findNightgateError (err : Thrown) : Option String :=
  ((err.all.take 9).find? isNightgateError).bind ErrorFields.code

inductive SubmitFailureCode where
  | preMempoolReject
  | dustRace
  | transport
  | ambiguous
  | landedNotApplied
  | policy
  | causality
  | gasBudget
  | internal
  deriving DecidableEq

/-- `isSubmitFailureCode`. -/
def SubmitFailureCode.ofString? : String → Option SubmitFailureCode
  | "pre-mempool-reject" => some .preMempoolReject
  | "dust-race" => some .dustRace
  | "transport" => some .transport
  | "ambiguous" => some .ambiguous
  | "landed-not-applied" => some .landedNotApplied
  | "policy" => some .policy
  | "causality" => some .causality
  | "gas-budget" => some .gasBudget
  | "internal" => some .internal
  | _ => none

structure SubmitFailureInfo where
  code : SubmitFailureCode
  ledgerCode : Option String := none
  retryable : Bool := false

def carriedSubmitFailure (err : Thrown) : Option SubmitFailureInfo :=
  (err.top.code.bind SubmitFailureCode.ofString?).map fun code =>
    { code, ledgerCode := err.top.ledgerCode, retryable := err.top.retryable }

def codedSubmitFailure : Option String → Option SubmitFailureInfo
  | some "WALLET_NOT_SYNCED" =>
    some { code := .transport, ledgerCode := some "wallet-not-synced", retryable := true }
  | some "SUBMIT_INTENT_TIMEOUT" =>
    some { code := .preMempoolReject, ledgerCode := some "intent-timeout" }
  | some "SUBMIT_INTENT_REJECTED" =>
    some { code := .preMempoolReject, ledgerCode := some "intent-rejected" }
  | some "SPONSOR_REFUSED" => some { code := .policy }
  | _ => none

/-! ## Text -/

section Patterns

open Regex

/-- `/^\s*at .*$/gm`. -/
def STACK_FRAME_RE : Regex := inOrder [lineStart, many isSpace, text "at ", many anyChar, lineEnd]

/-- `/:\d+:\d+\b/g`. -/
def LINE_COLUMN_RE : Regex :=
  inOrder [text ":", Regex.some isDigit, text ":", Regex.some isDigit, wordBoundary]

/-- `/custom error:?\s*(\d+)/i`, and what its group captures. -/
def ledgerErrorCode (haystack : String) : Option String :=
  (inOrder [textAnyCase "custom error", optional (text ":"), many isSpace]).capture isDigit haystack

/-- `\b` and a node code, with its colon. -/
def nodeCode (code : String) : Regex := inOrder [wordBoundary, text code, many isSpace, text ":"]

/-- `/\b1010\s*:|invalid transaction/i`. -/
def INVALID_RE : Regex := oneOf [nodeCode "1010", textAnyCase "invalid transaction"]

def DUST_RACE_LEDGER_CODES : List String := ["170", "171", "196"]

/-- An error that was classified before: the code, between word boundaries. -/
def DUST_RACE_RE : Regex :=
  inOrder [wordBoundary, text "1010/", oneOf (DUST_RACE_LEDGER_CODES.map text), wordBoundary]

def TRANSPORT_RE : Regex :=
  oneOf (["disconnected from", "Normal Closure", "Abnormal Closure", "WebSocket is not connected",
    "ECONNRESET", "ECONNREFUSED", "ETIMEDOUT", "EPIPE", "socket hang up", "Unable to connect"].map
    textAnyCase)

/-- `timed? ?out`. -/
def TIMED_OUT_RE : Regex :=
  inOrder [textAnyCase "time", optional (textAnyCase "d"), optional (text " "), textAnyCase "out"]

def NO_REPLY_RE : Regex :=
  oneOf ([textAnyCase "TimeoutError", textAnyCase "TimeoutException", TIMED_OUT_RE] ++
    ["no reply", "no response", "request timeout"].map textAnyCase)

end Patterns

section Classification

-- What node's `inspect` renders of an error.
variable (inspect : Thrown → String)

def classificationHaystack (err : Thrown) : String :=
  LINE_COLUMN_RE.replaceAll ":L:C" (STACK_FRAME_RE.replaceAll "" (inspect err))

def dustRaceLedgerCode (err : Thrown) : Option String :=
  let message := if err.top.isError then err.top.message.getD "" else err.top.shown
  let haystack := message ++ " " ++ classificationHaystack inspect err
  match DUST_RACE_RE.exec haystack with
  | some own => some own
  | none =>
    if (Regex.textAnyCase "priority is too low").test haystack then none
    else if INVALID_RE.test haystack then
      ((ledgerErrorCode haystack).filter (· ∈ DUST_RACE_LEDGER_CODES)).map ("1010/" ++ ·)
    else none

/-- The text that is searched. -/
def haystackOf (err : Thrown) : String :=
  errorMessage err ++ " " ++ classificationHaystack inspect err

def namedInChain (err : Thrown) (name : String) : Bool :=
  (errorChain err).any fun fields => nameOf fields = name

def codedInChain (err : Thrown) (code : String) : Bool :=
  (errorChain err).any fun fields => fields.code = some code

/-- A batch that was given up before it was proved. -/
def batchFailure (err : Thrown) : Option SubmitFailureInfo :=
  if codedInChain err "BatchCausalityViolation" || namedInChain err "BatchCausalityError" ||
      (Regex.text "violates the ledger's causality constraint").test (haystackOf inspect err) then
    some { code := .causality }
  else if codedInChain err "BatchGasBudgetExceeded" ||
      (Regex.text "runs out of gas on the ledger").test (haystackOf inspect err) then
    some { code := .gasBudget }
  else none

/-- Only a failure while connecting is safe to resend. -/
def phaseFailure (err : Thrown) : Option SubmitFailureInfo :=
  (((errorChain err).find? fun fields =>
    nameOf fields = "SubmitPhaseError" && fields.phase.isSome).bind ErrorFields.phase).map
      fun phase =>
        if phase = "connect" then
          { code := .transport, ledgerCode := some "not-sent", retryable := true }
        else if phase = "request" then { code := .ambiguous, ledgerCode := some "no-reply" }
        else { code := .ambiguous }

/-- The outcome of a submit that was sent, by the name or the text of the error. -/
def sentFailure (err : Thrown) : Option SubmitFailureInfo :=
  if namedInChain err "SubmitWatchTimeoutError" ||
      (Regex.textAnyCase "submit watch timed out").test (haystackOf inspect err) then
    some { code := .ambiguous }
  else if namedInChain err "TxFailedError" ||
      (Regex.oneOf [.textAnyCase "did NOT apply", .textAnyCase "but did not apply"]).test
        (haystackOf inspect err) then
    some { code := .landedNotApplied }
  else none

/-- A failure that an error of our own names. The first check is for an earlier send of the same
transaction, whose causes do not count. -/
def ownFailure (err : Thrown) : Option SubmitFailureInfo :=
  if namedInChain err "SubmitOutcomeUnknownError" then
    some { code := .ambiguous, ledgerCode := some "unresolved-send" }
  else (codedSubmitFailure (findNightgateError err)).or ((phaseFailure err).or
    (sentFailure inspect err))

/-- What the node answered, by the text. -/
def classifyText (err : Thrown) : SubmitFailureInfo :=
  let haystack := haystackOf inspect err
  let shows (pattern : Regex) : Bool := pattern.test haystack
  if namedInChain err "SponsorRefusalError" || shows (.textAnyCase "refusing to sponsor") then
    { code := .policy }
  else if shows (.textAnyCase "submit-intent was not acknowledged") then
    { code := .preMempoolReject, ledgerCode := some "intent-timeout" }
  else if shows (.textAnyCase "submit-intent rejected") then
    { code := .preMempoolReject, ledgerCode := some "intent-rejected" }
  else
    match dustRaceLedgerCode inspect err with
    | some dustRace => { code := .dustRace, ledgerCode := some dustRace, retryable := true }
    | none =>
      if shows (.textAnyCase "InvalidDustSpendProof") then
        { code := .dustRace, ledgerCode := some "1010/170", retryable := true }
      else if shows (.oneOf [.textAnyCase "TransactionInvalidError",
          .textAnyCase "Transaction is invalid and was rejected by the node"]) then
        { code := .dustRace, ledgerCode := some "pool-invalid", retryable := true }
      else if shows (.textAnyCase "closing socket") then
        { code := .transport, ledgerCode := some "closing-socket", retryable := true }
      else if shows (.oneOf [.textAnyCase "priority is too low", nodeCode "1014"]) then
        { code := .preMempoolReject, ledgerCode := some "1014" }
      else if shows (.oneOf [nodeCode "1016", .textAnyCase "immediately dropped"]) then
        { code := .preMempoolReject, ledgerCode := some "1016", retryable := true }
      else if shows INVALID_RE then
        { code := .preMempoolReject
          ledgerCode := some ((ledgerErrorCode haystack).elim "1010" ("1010/" ++ ·)) }
      else if shows TRANSPORT_RE then { code := .transport, retryable := true }
      else if shows NO_REPLY_RE then { code := .ambiguous, ledgerCode := some "no-reply" }
      else { code := .internal }

/-- First match wins. -/
def classifySubmitFailure (err : Thrown) : SubmitFailureInfo :=
  ((carriedSubmitFailure err).or ((batchFailure inspect err).or (ownFailure inspect err))).getD
    (classifyText inspect err)

variable {inspect}

end Classification

/-- The node refused the transaction before the mempool and no fee was spent. -/
def isPreMempoolFailure (info : SubmitFailureInfo) : Bool :=
  match info.code with
  | .preMempoolReject =>
    info.ledgerCode ≠ some "intent-rejected" && info.ledgerCode ≠ some "intent-timeout"
  | .dustRace => info.ledgerCode ≠ some "pool-invalid"
  | _ => false

end Nightgate.Midnight
