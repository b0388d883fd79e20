import Nightgate.Submission.BroadcastRuns
import Nightgate.Submission.WindowRuns

/-!
# Jobs that the chain ended

A failed job says so with a word of the chain only where a step of the run had that word: the
indexer was asked about the transaction that the job names, answered that its call failed or
that it does not know it past its window, and no rollback came in between.
-/

namespace Nightgate.Submission

open Library

/-! ## The law -/

/-- The window recorded for the transaction of a job, and a margin, are over at a time. -/
def WindowOver (db : JobDb) (job : BackgroundJob) (margin time : Nat) : Prop :=
  match job.submissionId with
  | some rowId => ∃ row ∈ db.submissions.find? rowId, row.windowEnd + margin < time
  | none =>
    (∃ row ∈ db.submissions.rows, row.txHash = job.txHash ∧ row.windowEnd + margin < time) ∨
      ∃ submitted ∈ job.submittedAt, submitted + LEGACY_BROADCAST_TTL_MS + margin < time

/-- A row under which the indexer was asked about the transaction that the job names, with no
rollback since. -/
structure AskedAbout (db : JobDb) (seen job : BackgroundJob) (generation : Nat) : Prop where
  ID : seen.ID = job.ID
  names : ∀ txHash ∈ job.txHash, seen.txHash = some txHash
  current : generation = db.reorgGeneration

/-- The answer proves that the job ended with a code: its transaction is in a block and failed,
or it can no longer come into one. -/
def ChainLookup.Proves (db : JobDb) (job : BackgroundJob) (margin : Nat) (code : ErrorCode)
    (answer : ChainLookup) : Prop :=
  match answer with
  | .outcome told => code = .chainExecutionFailed ∧ told.status = .failure
  | .absent tip => code = .broadcastNotIncluded ∧ ∃ time ∈ tip, WindowOver db job margin time
  | .inconclusive => False

/-- The step has the word of the chain on how the job ended. -/
def EndsByChain (state : Ledger) (job : BackgroundJob) (code : ErrorCode) :
    LedgerEvent → Prop
  | .reconciler (.finalize index margin _) =>
    ∃ lookup ∈ state.lookups[index]?, AskedAbout state.db lookup.job job lookup.generation ∧
      ∃ answer ∈ lookup.answer, answer.Proves state.db job margin code
  | .execution jobId (.confirmInFlight answer _) =>
    ∃ execution ∈ state.executions jobId, ∃ seen generation,
      execution.phase = .confirming seen generation ∧ AskedAbout state.db seen job generation ∧
        ∃ told ∈ answer, (ChainLookup.outcome told).Proves state.db job 0 code
  | _ => False

/-- A step of the run ended the job with its code, and had the word of the chain for it. -/
def EndedByChain (start : Ledger) (events : List LedgerEvent) (job : BackgroundJob)
    (code : ErrorCode) : Prop :=
  ∃ past event later, events = past ++ event :: later ∧
    EndsByChain (run ledgerStep start past) job code event ∧
      ∃ row, (run ledgerStep start (past ++ [event])).db.jobs.find? job.ID = some row ∧
        row.EndedAs code

/-- A failed job was ended by the chain, or its result could not be saved. -/
def AccountedBy (start : Ledger) (events : List LedgerEvent) (job : BackgroundJob) : Prop :=
  job.status = .failed →
    (job.HasChainEvidence ∧ ∃ code, job.EndedAs code ∧ EndedByChain start events job code) ∨
      job.errorCode = some .resultPersistFailed

/-! ## One step -/

section Steps

variable {owner : Nat → Option Nat} {state : Ledger} {db after : JobDb}
  {job next : BackgroundJob} {code : ErrorCode}

/-- No window is too short for a transaction that ends at once. -/
theorem recordsWindow_zero (state : Ledger) (event : LedgerEvent) :
    RecordsWindow (fun _ => 0) state event := by
  unfold RecordsWindow Covered
  split
  · exact fun _ _ => Nat.zero_le _
  · intro execution _ tx _
    split <;> exact fun _ _ => Nat.zero_le _
  · intro execution _
    split <;> exact fun _ _ => Nat.zero_le _
  · trivial

/-- The window that a job is judged by is the one recorded for its transaction. -/
theorem windowOver_of_broadcastTtl {rollbacks : List (Nat × Nat)} {margin time ttl : Nat}
    (sound : JobSound owner rollbacks job)
    (allotted : ∀ rowId, db.submissions.find? rowId = none → owner rowId = none)
    (isTtl : broadcastTtlMs job (attemptRowOf db job) = some ttl) (past : ttl + margin < time) :
    WindowOver db job margin time := by
  unfold WindowOver
  simp only [attemptRowOf] at isTtl
  cases isRow : job.submissionId with
  | some rowId =>
    simp only [isRow] at isTtl
    cases stored : db.submissions.find? rowId with
    | none => exact absurd isRow (not_fresh sound allotted stored)
    | some row =>
      rw [stored] at isTtl
      cases isTtl
      exact ⟨row, stored, past⟩
  | none =>
    simp only [isRow] at isTtl
    cases stored : db.submissions.rows.find? fun row => row.txHash = job.txHash with
    | none =>
      rw [stored] at isTtl
      obtain ⟨submitted, isTime, rfl⟩ := Option.map_eq_some_iff.mp isTtl
      exact Or.inr ⟨submitted, isTime, past⟩
    | some row =>
      rw [stored] at isTtl
      cases isTtl
      have isMatch := List.find?_some stored
      exact Or.inl ⟨row, List.mem_of_find?_eq_some stored, of_decide_eq_true isMatch, past⟩

/-- What is proved of a row is proved of every later one under its names. -/
theorem EndsByChain.congr {event : LedgerEvent} (ends : EndsByChain state job code event)
    (ID : next.ID = job.ID) (hash : next.txHash = job.txHash)
    (row : next.submissionId = job.submissionId) (time : next.submittedAt = job.submittedAt) :
    EndsByChain state next code event := by
  have asked : ∀ seen generation, AskedAbout state.db seen job generation →
      AskedAbout state.db seen next generation :=
    fun _ _ asked => ⟨asked.ID.trans ID.symm, hash ▸ asked.names, asked.current⟩
  have proves : ∀ margin answer, ChainLookup.Proves state.db job margin code answer →
      ChainLookup.Proves state.db next margin code answer := by
    intro margin answer proves
    cases answer with
    | absent tip => simpa only [ChainLookup.Proves, WindowOver, hash, row, time] using proves
    | outcome | inconclusive => exact proves
  unfold EndsByChain at ends ⊢
  split at ends
  · obtain ⟨lookup, isLookup, isAsked, answer, isAnswer, isProof⟩ := ends
    exact ⟨lookup, isLookup, asked _ _ isAsked, answer, isAnswer, proves _ _ isProof⟩
  · obtain ⟨execution, live, seen, generation, phase, isAsked, told, isTold, isProof⟩ := ends
    exact ⟨execution, live, seen, generation, phase, asked _ _ isAsked, told, isTold,
      proves _ _ isProof⟩
  · exact ends.elim

theorem EndsByChain.onChain {event : LedgerEvent} (ends : EndsByChain state job code event) :
    code.onChain := by
  have proved : ∀ margin answer, ChainLookup.Proves state.db job margin code answer →
      code.onChain := by
    intro margin answer proves
    cases answer with
    | outcome told => exact Or.inr proves.1
    | absent tip => exact Or.inl proves.1
    | inconclusive => exact proves.elim
  unfold EndsByChain at ends
  split at ends
  · obtain ⟨_, _, _, answer, _, isProof⟩ := ends
    exact proved _ answer isProof
  · obtain ⟨_, _, _, _, _, _, told, _, isProof⟩ := ends
    exact proved _ _ isProof
  · exact ends.elim

/-- The code that stands beside the evidence. -/
theorem BackgroundJob.code_of_evidence (evidence : job.HasChainEvidence) :
    ∃ code : ErrorCode, code.onChain ∧ job.errorCode = some code := by
  rcases evidence with ⟨isCode, _⟩ | ⟨isCode, _⟩
  · exact ⟨_, Or.inr rfl, isCode⟩
  · exact ⟨_, Or.inl rfl, isCode⟩

/-- A job that the chain ended is not dismissed. -/
theorem not_dismissed (onChain : code.onChain) (ended : next.EndedAs code) : ¬ next.Dismissed := by
  rintro ⟨_, isCode⟩
  rw [ended.2] at isCode
  cases isCode
  simp [ErrorCode.onChain] at onChain

/-- A job at rest that the chain ends keeps its names. -/
theorem Onward.names {ends : ErrorCode → Nat → Prop} (onward : Onward ends job next)
    (step : job.kind.workflowParent = false) (rest : job.AtRest) (onChain : code.onChain)
    (ended : next.EndedAs code) :
    next.txHash = job.txHash ∧ next.submissionId = job.submissionId ∧
      next.submittedAt = job.submittedAt := by
  obtain ⟨_, row, time, hash | dismissed⟩ := onward.rest step rest
  · exact ⟨hash, row, time⟩
  · exact absurd dismissed (not_dismissed onChain ended)

/-- The lookup of a parked job that ends it. -/
theorem Lookup.write_endsByChain {lookup : Lookup} {margin : Nat}
    (reorg : ReorgInvariant owner state) (held : Held state.db lookup.job)
    (mayEnd : lookup.mayEnd code next.ID)
    (evolves : state.db.jobs.Evolves (Onward lookup.mayEnd) (lookup.write state.db margin).jobs)
    (found : (lookup.write state.db margin).jobs.find? next.ID = some next) (onChain : code.onChain)
    (ended : next.EndedAs code)
    (notBefore : ∀ before, state.db.jobs.find? next.ID = some before → ¬ before.EndedAs code) :
    AskedAbout state.db lookup.job next lookup.generation ∧
      ∃ answer ∈ lookup.answer, answer.Proves state.db next margin code := by
  have isJob := mayEnd.1
  obtain ⟨row, stored, kind, rest, rowId, time, names⟩ := held.stands
  have isStep : row.kind.workflowParent = false := kind ▸ held.step
  obtain ⟨moved, isMoved, onward⟩ := evolves lookup.job.ID row stored
  rw [← isJob, found] at isMoved
  cases isMoved
  obtain ⟨hash, rowNext, timeNext⟩ := onward.names isStep rest onChain ended
  have same : row.txHash = lookup.job.txHash := by
    rcases names with same | dismissed
    · exact same
    · exact absurd (onward.dismissed isStep dismissed) (not_dismissed onChain ended)
  have asked (current : lookup.generation = state.db.reorgGeneration) :
      AskedAbout state.db lookup.job next lookup.generation :=
    ⟨isJob.symm, fun txHash isHash => by rw [← same, ← hash]; exact isHash, current⟩
  rcases onChain with rfl | rfl
  · obtain ⟨ofParked, asOfMs, isAnswer⟩ := mayEnd.absent
    simp only [Lookup.write, isAnswer, ofParked] at found
    rw [isJob] at found notBefore
    obtain ⟨_, tip, ttl, _, _, _, rfl, isTtl, past, current⟩ :=
      finalizeLostBroadcast_ends found ended notBefore
    refine ⟨asked current.symm, _, isAnswer, rfl, tip, rfl, ?_⟩
    have judged : broadcastTtlMs row (attemptRowOf state.db row) = some ttl := by
      rw [← isTtl]
      simp only [broadcastTtlMs, attemptRowOf, rowId, time, same]
    have isOver : WindowOver state.db row margin tip :=
      windowOver_of_broadcastTtl (reorg.jobs _ row stored) reorg.allotted judged past
    simpa only [WindowOver, rowNext, timeNext, hash] using isOver
  · obtain ⟨ofParked, told, isAnswer, failed⟩ := mayEnd.outcome
    simp only [Lookup.write, isAnswer, ofParked] at found
    have current := finalizeIdentifierKeyedJob_ends found ended notBefore
    exact ⟨asked current.symm, _, isAnswer, rfl, failed⟩

/-- The answer about a job in execution that ends it. -/
theorem confirm_endsByChain {jobId generation : Nat} {execution : Execution}
    {seen : BackgroundJob} {told : ChainOutcome} {outcome : WriteOutcome}
    {ends : ErrorCode → Nat → Prop} {renames : Nat → Prop}
    (reorg : ReorgInvariant owner state)
    (confirms : EachPhase (ConfirmsNamed state.db) state.executions)
    (live : state.executions jobId = some execution)
    (phase : execution.phase = .confirming seen generation)
    (isJob : jobId = next.ID) (failed : told.status = .failure)
    (advances : Advances (fun _ => 0) ends renames state.db (finalizeIdentifierKeyedJob state.db
      seen told (.inFlight state.worker) generation)) (notRenamed : ¬ renames jobId)
    (found : (finalizeIdentifierKeyedJob state.db seen told (.inFlight state.worker)
      generation).jobs.find? next.ID = some next)
    (ended : next.EndedAs .chainExecutionFailed)
    (notBefore : ∀ before, state.db.jobs.find? next.ID = some before →
      ¬ before.EndedAs .chainExecutionFailed) :
    EndsByChain state next .chainExecutionFailed
      (.execution jobId (.confirmInFlight (some told) outcome)) := by
  subst isJob
  have current := finalizeIdentifierKeyedJob_ends found ended notBefore
  have isSeen := ((reorg.executions _ execution live).confirming seen generation phase).1
  obtain ⟨row, stored, names⟩ := confirms _ execution live seen generation phase
  obtain ⟨moved, isMoved, sameNames⟩ := advances.named _ row notRenamed stored
  rw [found] at isMoved
  cases isMoved
  refine ⟨execution, live, seen, generation, phase, ⟨isSeen, ?_, current.symm⟩, told, rfl, rfl,
    failed⟩
  intro txHash isHash
  rcases sameNames with gone | ⟨same, _⟩
  · simp [gone] at isHash
  · rw [same] at isHash
    rcases names with gone | asSeen
    · simp [gone] at isHash
    · rw [← asSeen]
      exact isHash

/-- A write that ends a job as the chain would has the word of the chain. -/
theorem DbWrite.endsByChain {event : LedgerEvent} (reorg : ReorgInvariant owner state)
    (windows : WindowInvariant (fun _ => 0) state) (write : DbWrite state event after)
    (found : after.jobs.find? next.ID = some next) (onChain : code.onChain)
    (ended : next.EndedAs code)
    (notBefore : ∀ before, state.db.jobs.find? next.ID = some before → ¬ before.EndedAs code) :
    EndsByChain state next code event := by
  have advances := write.advances reorg windows (recordsWindow_zero state event)
  rcases advances.ended next.ID next found code onChain ended with ends | ⟨before, stored, isEnded⟩
  · cases write with
    | unchanged | changeGrants => exact absurd ended (notBefore next found)
    | @lookup index lookup _ margin isLookup =>
      obtain ⟨same, isSame, mayEnd⟩ := ends
      rw [isLookup] at isSame
      cases isSame
      have held := windows.lookups lookup (List.mem_of_getElem? isLookup) mayEnd.2.1
      have evolves :=
        (lookup.write_carried state.db margin (windows.telling reorg)).evolves
      exact ⟨lookup, isLookup,
        lookup.write_endsByChain reorg held mayEnd evolves found onChain ended notBefore⟩
    | confirm told live phase =>
      obtain ⟨isJob, rfl, _, isTold, failed⟩ := ends
      cases isTold
      exact confirm_endsByChain reorg windows.confirms live phase isJob failed advances
        (fun renamed => renamed) found ended notBefore
    | _ => exact ends.elim
  · exact absurd isEnded (notBefore before stored)

end Steps

/-! ## Runs -/

/-- Every step that the chain ended is one that a step of the run so far ended. -/
structure ChainInvariant (start : Ledger) (past : List LedgerEvent) (state : Ledger) : Prop where
  reached : state = run ledgerStep start past
  reorg : ReorgSafe state
  windows : WindowInvariant (fun _ => 0) state
  ended : ∀ id row, state.db.jobs.find? id = some row → row.kind.workflowParent = false →
    ∀ code : ErrorCode, code.onChain → row.EndedAs code → EndedByChain start past row code

section Runs

variable {start state : Ledger} {past : List LedgerEvent}

theorem EndedByChain.later {job next : BackgroundJob} {code : ErrorCode} (event : LedgerEvent)
    (ended : EndedByChain start past job code) (ID : next.ID = job.ID)
    (hash : next.txHash = job.txHash) (row : next.submissionId = job.submissionId)
    (time : next.submittedAt = job.submittedAt) :
    EndedByChain start (past ++ [event]) next code := by
  obtain ⟨before, ending, after, rfl, ends, written⟩ := ended
  exact ⟨before, ending, after ++ [event], by simp, ends.congr ID hash row time, ID ▸ written⟩

theorem ChainInvariant.step (invariant : ChainInvariant start past state) (event : LedgerEvent) :
    ChainInvariant start (past ++ [event]) (ledgerStep state event) := by
  obtain ⟨owner, reorg⟩ := invariant.reorg
  have records := recordsWindow_zero state event
  have advances := ledgerStep_advances reorg invariant.windows event records
  have reached : ledgerStep state event = run ledgerStep start (past ++ [event]) := by
    rw [run_append, ← invariant.reached]
    rfl
  refine ⟨reached, ledgerStep_reorg state event invariant.reorg trivial,
    invariant.windows.step reorg event records, ?_⟩
  intro id next found isStep code onChain ended
  have isId : next.ID = id := Table.key_of_find? found
  subst isId
  by_cases isEnded : ∃ before, state.db.jobs.find? next.ID = some before ∧ before.EndedAs code
  · obtain ⟨before, stored, endedBefore⟩ := isEnded
    obtain ⟨moved, isMoved, onward⟩ := advances.evolves next.ID before stored
    rw [found] at isMoved
    cases isMoved
    have stepBefore : before.kind.workflowParent = false := onward.kind ▸ isStep
    obtain ⟨hash, row, time⟩ :=
      onward.names stepBefore (Or.inr (Or.inr endedBefore.1)) onChain ended
    exact (invariant.ended _ before stored stepBefore code onChain endedBefore).later event
      onward.ID hash row time
  · have notBefore : ∀ before, state.db.jobs.find? next.ID = some before →
        ¬ before.EndedAs code := fun before stored isBefore => isEnded ⟨before, stored, isBefore⟩
    refine ⟨past, event, [], rfl, ?_, next, reached ▸ found, ended⟩
    rw [← invariant.reached]
    by_cases isRollback : ∃ fromHeight, event = .rollback fromHeight
    · obtain ⟨fromHeight, rfl⟩ := isRollback
      rcases advances.ended next.ID next found code onChain ended with ends | ⟨before, stored, is⟩
      · exact ends.elim
      · exact absurd is (notBefore before stored)
    · have write := ledgerStep_writes state event fun fromHeight isEvent =>
        isRollback ⟨fromHeight, isEvent⟩
      exact write.endsByChain reorg invariant.windows found onChain ended notBefore

theorem ChainInvariant.initial (worker : Nat) :
    ChainInvariant (Ledger.initial worker) [] (Ledger.initial worker) where
  reached := rfl
  reorg := ⟨_, ReorgInvariant.initial worker⟩
  windows := WindowInvariant.initial _ worker
  ended := by
    intro id row found
    cases found

theorem chainInvariant_run (worker : Nat) (events : List LedgerEvent) :
    ChainInvariant (Ledger.initial worker) events
      (run ledgerStep (Ledger.initial worker) events) := by
  have keeps : ∀ past state event, ChainInvariant (Ledger.initial worker) past state →
      ChainInvariant (Ledger.initial worker) (past ++ [event]) (ledgerStep state event) :=
    fun _ _ event held => held.step event
  exact run_past keeps (.initial worker) events

end Runs

/-- Every run without an open rebuild accounts for what it broadcast: a transaction that was not
rejected is named by its job, and if the job failed, then on the word of the chain or because its
result could not be saved. -/
theorem broadcast_transactions_accounted (worker : Nat) (events : List LedgerEvent)
    (closed : Along ledgerStep NoOpenRebuild (Ledger.initial worker) events) :
    LedgerLaw (AccountedBy (Ledger.initial worker) events)
      (run ledgerStep (Ledger.initial worker) events) := by
  have invariant : LedgerInvariant (run ledgerStep (Ledger.initial worker) events) :=
    run_invariant ledgerStep_invariant (.initial worker) events closed
  have chain := chainInvariant_run worker events
  constructor
  · intro tx unrejected
    rcases invariant.named tx (List.mem_append_right _ unrejected) with ⟨job, found, named⟩
    refine ⟨job, found, named.names, ?_⟩
    intro failed
    rcases named.accounted failed with evidence | unsaved
    · refine Or.inl ⟨evidence, ?_⟩
      obtain ⟨code, onChain, isCode⟩ := job.code_of_evidence evidence
      exact ⟨code, ⟨failed, isCode⟩,
        chain.ended tx.job job found named.notParent code onChain ⟨failed, isCode⟩⟩
    · exact Or.inr unsaved
  · intro tx unrejected other isToo
    exact invariant.alone tx (List.mem_append_right _ unrejected) other
      (List.mem_append_right _ isToo)

/-- A bound submission up to its broadcast. -/
def boundBroadcast : List LedgerEvent := [
  .startJob ⟨1, ⟨false, false, false⟩, 7, some 1, none, none⟩,
  .execution 1 (.claim .bound .committed),
  .execution 1 (.crossBoundary .committed),
  .execution 1 (.announce ⟨⟨1, 0⟩, none, 0, 20, 0⟩ .committed),
  .broadcast ⟨1, 0⟩]

/-- The process dies right after the broadcast, and the indexer finds the transaction. -/
def failsOnChain : List LedgerEvent :=
  boundBroadcast ++ [.restart 2 5, .reconciler (.startPass [1] []), .reconciler (.beginLookup 1),
    .reconciler (.answer 0 (.outcome ⟨.failure, 9, none, none⟩)),
    .reconciler (.finalize 0 0 .committed)]

theorem broadcast_transactions_accounted_after_restart :
    LedgerLaw (AccountedBy (Ledger.initial 1) failsOnChain)
      (run ledgerStep (Ledger.initial 1) failsOnChain) :=
  broadcast_transactions_accounted 1 failsOnChain (by decide)

/-- The work completes, and its result cannot be saved. -/
def unsavedResult : List LedgerEvent :=
  boundBroadcast ++ [.execution 1 .workerReturns, .execution 1 (.reportSubmitted 1 .committed),
    .execution 1 .executorReturns, .execution 1 (.persist .lost),
    .execution 1 (.persistFailure .committed)]

/-- A job whose work completed but whose result cannot be saved ends failed, without a
word from the chain. -/
theorem unsaved_result_fails_without_evidence :
    ¬ LedgerLaw (fun job => job.status = .failed →
        ∃ code, job.EndedAs code ∧ EndedByChain (Ledger.initial 1) unsavedResult job code)
      (run ledgerStep (Ledger.initial 1) unsavedResult) := by
  intro law
  rcases law.named ⟨1, 0⟩ (by decide) with ⟨job, found, _, accounted⟩
  have unsaved : ∀ row ∈ (run ledgerStep (Ledger.initial 1) unsavedResult).db.getJobById 1,
      row.status = .failed ∧ row.errorCode = some .resultPersistFailed := by
    decide
  obtain ⟨failed, isCode⟩ := unsaved job found
  obtain ⟨code, ended, _, _, _, _, ends, _⟩ := accounted failed
  have isUnsaved := isCode.symm.trans ended.2
  cases isUnsaved
  exact absurd ends.onChain (by simp [ErrorCode.onChain])

end Nightgate.Submission
