import Nightgate.Midnight.SubmitErrorClassification

/-!
# Submits on a dedicated client

`submitOnDedicatedClient` sends a finalized transaction and, after some failures, the same bytes
again. What an attempt comes to is open: the connection fails, the node does not answer in time or
answers with an error of any kind, or the transaction gets into a block. The loop decides from the
error, from what earlier attempts left open, and from what the indexer shows.
-/

namespace Nightgate.Midnight

open Library

section Decisions

variable (inspect : Thrown → String)

/-- The step a submit failed in. -/
def submitPhaseOf (err : Thrown) : Option String :=
  ((err.all.take 8).find? fun fields =>
    nameOf fields = "SubmitPhaseError" && fields.phase.isSome).bind ErrorFields.phase

/-- Rejects that surely never reached the mempool. -/
def isPreMempoolReject (err : Thrown) : Bool :=
  isPreMempoolFailure (classifySubmitFailure inspect err)

def isNothingSent (err : Thrown) : Bool := (err.all.take 8).any ErrorFields.nothingSent

def isSubmitTransportFailure (err : Thrown) : Bool :=
  (classifySubmitFailure inspect err).code = .transport

/-- `/disconnected from \S*:\s*1000\s*::\s*Normal Closure/i`. -/
def CLOSING_SOCKET_RE : Regex :=
  .inOrder [.textAnyCase "disconnected from ", .many fun c => !Regex.isSpace c, .text ":",
    .many Regex.isSpace, .text "1000", .many Regex.isSpace, .text "::", .many Regex.isSpace,
    .textAnyCase "Normal Closure"]

def isClosingSocketReject (err : Thrown) : Bool :=
  CLOSING_SOCKET_RE.test (classificationHaystack inspect err)

/-- The transaction cannot be on chain. -/
def isPreInclusionReject (err : Thrown) : Bool :=
  let info := classifySubmitFailure inspect err
  match info.code with
  | .preMempoolReject | .dustRace => true
  | .transport =>
    info.ledgerCode = some "closing-socket" || info.ledgerCode = some "not-sent" ||
      info.ledgerCode = some "wallet-not-synced"
  | _ => false

end Decisions

/-- An error of the node's client. Only this code names phases and marks errors. -/
structure NodeError where
  err : Thrown
  phaseless : submitPhaseOf err = none
  unmarked : isNothingSent err = false

/-- What the indexer shows of a transaction in a block. -/
structure IndexerBlock where
  height : String
  status : Option String
  failedSegments : List Nat

inductive AttemptOutcome where
  /-- The step before the send. -/
  | connectFailed (message : String) (cause : Option NodeError)
  /-- No status from the node after the send. -/
  | requestFailed (message : String)
  /-- No block after the first status. -/
  | watchFailed (message : String)
  /-- The limit over all steps. -/
  | backstop (ms : Nat)
  /-- An error of the client after the send. The node refused the transaction, or it may have it. -/
  | nodeError (error : NodeError) (refused : Bool)
  /-- The node reported the block. The indexer shows it before the end of the wait, or not. -/
  | submitted (visible : Option IndexerBlock)

structure SubmitAttempt where
  outcome : AttemptOutcome
  /-- What a lookup on the indexer after the attempt shows. -/
  probe : Option IndexerBlock

def submitPhaseError (phase message : String) (causes : List ErrorFields) : Thrown where
  top := {
    name := some "SubmitPhaseError", message := some message
    code := some "SUBMIT_PHASE_FAILED", phase := some phase, isNightgateError := true }
  causes

def submitWatchTimeoutError (ms : Nat) : Thrown where
  top := {
    name := some "SubmitWatchTimeoutError"
    message := some ("submit watch timed out after " ++ toString ms ++
      "ms without a final answer from the node")
    code := some "SUBMIT_WATCH_TIMEOUT", isNightgateError := true }

/-- `slice(0, length)`. -/
def sliceText (text : String) (length : Nat) : String := String.ofList (text.toList.take length)

/-- `TxNotAppliedError`. -/
def txNotAppliedError (identifier : String) (found : IndexerBlock) (status : String) : Thrown where
  top := {
    name := some "TxFailedError"
    message := some ("TxFailedError: transaction " ++ sliceText identifier 16 ++ " is in block " ++
      found.height ++ " but its call did NOT apply (ledger result " ++ status ++ ", failed segment" ++
      (if found.failedSegments.length = 1 then "" else "s") ++ " " ++
      (if found.failedSegments = [] then "?"
        else ",".intercalate (found.failedSegments.map toString)) ++
      "); the fee was spent, the call must be rebuilt against the current contract state")
    code := some "TX_FAILED", isNightgateError := true }

/-- The error of `assertApplied`. -/
def assertApplied (identifier : String) (found : IndexerBlock) : Option Thrown :=
  match found.status with
  | some status =>
    if status ≠ "" ∧ status ≠ "SUCCESS" then some (txNotAppliedError identifier found status)
    else none
  | none => none

/-- What an attempt throws. -/
def AttemptOutcome.error? (identifier : String) : AttemptOutcome → Option Thrown
  | .connectFailed message cause =>
    some (submitPhaseError "connect" message (cause.elim [] fun cause => cause.err.all))
  | .requestFailed message => some (submitPhaseError "request" message [])
  | .watchFailed message => some (submitPhaseError "watch" message [])
  | .backstop ms => some (submitWatchTimeoutError ms)
  | .nodeError error _ => some error.err
  | .submitted visible => visible.bind (assertApplied identifier)

inductive SubmitResult where
  | landed
  | failed (err : Thrown)

structure SubmitRun where
  attempts : List SubmitAttempt
  result : SubmitResult

/-- `landed`: the lookup shows the transaction, or a block in which it did not apply. -/
def SubmitAttempt.landed (attempt : SubmitAttempt) (identifier : String) : Option SubmitResult :=
  attempt.probe.map fun found => (assertApplied identifier found).elim .landed .failed

section Loop

variable (inspect : Thrown → String) (identifier : String)

end Loop

section Fates

variable (inspect : Thrown → String)

/-- One of the checks takes the error for one of a transaction that is not on chain. -/
def saysNeverOnChain (err : Thrown) : Bool :=
  isPreInclusionReject inspect err || isPreMempoolReject inspect err || isNothingSent err

/-- The attempt may have reached the node, which did not refuse it. -/
def SubmitAttempt.mayHaveReached (attempt : SubmitAttempt) : Bool :=
  match attempt.outcome with
  | .connectFailed _ _ => false
  | .nodeError _ refused => !refused
  | .requestFailed _ | .watchFailed _ | .backstop _ | .submitted _ => true

/-- The attempt ends in a way after which the transaction is sent again: it did not connect, its
socket was closing and it is the first, or the connection broke and the indexer shows nothing. -/
def SubmitAttempt.mayResend (identifier : String) (isFirst : Bool) (attempt : SubmitAttempt) :
    Bool :=
  match attempt.outcome.error? identifier with
  | none => false
  | some e =>
    isFirst && isClosingSocketReject inspect e || submitPhaseOf e = some "connect" ||
      isSubmitTransportFailure inspect e && attempt.probe.isNone

end Fates

section Laws

variable {inspect : Thrown → String} {identifier : String}

variable {err : Thrown}

variable {e : Thrown}

variable {outcome : AttemptOutcome}

variable {attempt : SubmitAttempt}

/-- The run ends with an attempt. An error that takes the transaction for one not on chain is thrown
only where no send before it and not the attempt itself may have reached the node. -/
def SubmitRun.Ends (inspect : Thrown → String) (attempt : SubmitAttempt) (maybeSent : Bool)
    (run : SubmitRun) : Prop :=
  run.attempts = [attempt] ∧ ∀ err, run.result = .failed err → saysNeverOnChain inspect err = true →
      maybeSent = false ∧ attempt.mayHaveReached = false

variable {maybeSent : Bool}

/-- What a run of attempts from one on does. The flag says whether the bytes may have been sent
before. -/
structure SubmitRun.Lawful (inspect : Thrown → String) (identifier : String)
    (script : Nat → SubmitAttempt) (resendsLeft attempt : Nat) (maybeSent : Bool)
    (run : SubmitRun) : Prop where
  attempts : ∃ sends ≤ resendsLeft + 1, run.attempts = (List.range' attempt sends).map script ∧
    ∀ i, attempt ≤ i → i + 1 < attempt + sends →
      (script i).mayResend inspect identifier (i == 0) = true
  /-- No send is left open by an error that takes the transaction for one not on chain. -/
  closed : ∀ err, run.result = .failed err → saysNeverOnChain inspect err = true →
    maybeSent = false ∧ ∀ sent ∈ run.attempts, sent.mayHaveReached = false

variable {script : Nat → SubmitAttempt}

end Laws

end Nightgate.Midnight
