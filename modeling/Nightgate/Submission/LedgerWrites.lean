import Nightgate.Submission.Ledger

/-!
# What a step does

Every step of the ledger but a rollback leaves the tables alone or makes one of these
writes. A write that was lost is no write. An event of an execution turns it as the
inversion below lists, and the reconciler remembers only what it has read.
-/

namespace Nightgate.Submission

open Library

/-- The tables that an event other than a rollback may leave behind. -/
inductive DbWrite (state : Ledger) : LedgerEvent → JobDb → Prop where
  | unchanged {event : LedgerEvent} : DbWrite state event state.db
  | startJob (new : NewJob) (may : mayStart state new) :
      DbWrite state (.startJob new) { state.db with jobs := state.db.jobs.insert new.row }
  | supersede (replaced : List Nat) :
      DbWrite state (.supersede replaced)
        (supersedeQueuedJobs state.db fun job => job.ID ∈ replaced)
  | reclaim (jobId : Nat) : DbWrite state (.reclaim jobId) (reclaimLease state.db jobId)
  | recover (worker count : Nat) :
      DbWrite state (.restart worker count) (recoverFirst state.db count)
  | dropPending (sessionIds : List Nat) :
      DbWrite state (.dropPending sessionIds) (dropPendingJobsForClosedSessions state.db sessionIds)
  | changeGrants {event : LedgerEvent} (grants : Table AgentGrant) :
      DbWrite state event { state.db with grants }
  | claim {jobId : Nat} {channel : Channel} {outcome : WriteOutcome} {after : JobDb}
      (marked : markRunning state.db state.worker jobId = some after) :
      DbWrite state (.execution jobId (.claim channel outcome)) after
  | insertRow {jobId : Nat} {execution : Execution} (rowId now : Nat)
      (live : state.executions jobId = some execution)
      (free : state.db.submissions.find? rowId = none) :
      DbWrite state (.execution jobId (.insertRow rowId now)) (insertPending state.db rowId now)
  | crossBoundary {jobId : Nat} {execution : Execution} {outcome : WriteOutcome} {after : JobDb}
      (live : state.executions jobId = some execution)
      (marked : markJobExternalExecution state.db state.worker jobId
        execution.ledger.rowId = some after) :
      DbWrite state (.execution jobId (.crossBoundary outcome)) after
  | announce {jobId : Nat} {execution : Execution} {intent : Announcement}
      {outcome : WriteOutcome} {after : JobDb}
      (live : state.executions jobId = some execution) (may : execution.mayAnnounce)
      (own : intent.tx.job = jobId)
      (free : state.db.submissions.find? intent.freshId = none)
      (announced : execution.ledger.onSubmitIntent state.db state.worker jobId intent =
        some after) : DbWrite state (.execution jobId (.announce intent outcome)) after
  | closeRejected {jobId : Nat} {execution : Execution} {tx : Tx} {outcome : WriteOutcome}
      {after : JobDb} (live : state.executions jobId = some execution)
      (phase : execution.phase = .rejected tx)
      (rejected : execution.ledger.reject state.db state.worker jobId tx = some after) :
      DbWrite state (.execution jobId (.closeRejected outcome)) after
  | closeGivenUp {jobId : Nat} {execution : Execution} {tx : Tx} {outcome : WriteOutcome}
      (live : state.executions jobId = some execution)
      (phase : execution.phase = .givingUp tx) :
      DbWrite state (.execution jobId (.closeGivenUp outcome)) (execution.ledger.giveUp state.db)
  | reportSubmitted {jobId : Nat} {execution : Execution} {tx : Tx} {now : Nat}
      {outcome : WriteOutcome} {after : JobDb} (live : state.executions jobId = some execution)
      (phase : execution.phase = .reporting tx)
      (marked : markJobSubmitted state.db state.worker jobId execution.ledger.rowId
        (.hash tx) now = some after) :
      DbWrite state (.execution jobId (.reportSubmitted now outcome)) after
  | writeRow {jobId : Nat} {execution : Execution} {rowId : Nat} (write : RowWrite)
      (live : state.executions jobId = some execution)
      (isRow : execution.ledger.rowId = some rowId) (writes : execution.phase.writesRow)
      (ofJob : write.ofJob jobId) :
      DbWrite state (.execution jobId (.writeRow write)) (write.apply state.db rowId)
  | persist {jobId : Nat} {execution : Execution} {outcome : WriteOutcome} {after : JobDb}
      (live : state.executions jobId = some execution)
      (phase : execution.phase = .persisting)
      (marked : markSucceeded state.db state.worker jobId = some after) :
      DbWrite state (.execution jobId (.persist outcome)) after
  | persistFailure {jobId : Nat} {execution : Execution} {outcome : WriteOutcome}
      {after : JobDb} (live : state.executions jobId = some execution)
      (phase : execution.phase = .persistFailed)
      (marked : markFailed state.db state.worker jobId .resultPersistFailed = some after) :
      DbWrite state (.execution jobId (.persistFailure outcome)) after
  | settle {jobId : Nat} {execution : Execution} {verdict : Verdict} {outcome : WriteOutcome}
      {after : JobDb} (live : state.executions jobId = some execution)
      (phase : execution.phase = .settling verdict)
      (marked : verdict.write state.db state.worker jobId = some after) :
      DbWrite state (.execution jobId (.settle outcome)) after
  | confirm {jobId : Nat} {execution : Execution} {job : BackgroundJob} {generation : Nat}
      {outcome : WriteOutcome} (answer : ChainOutcome)
      (live : state.executions jobId = some execution)
      (phase : execution.phase = .confirming job generation) :
      DbWrite state (.execution jobId (.confirmInFlight (some answer) outcome))
        (finalizeIdentifierKeyedJob state.db job answer (.inFlight state.worker) generation)
  | lookup {index : Nat} {lookup : Lookup} {outcome : WriteOutcome} (margin : Nat)
      (isLookup : state.lookups[index]? = some lookup) :
      DbWrite state (.reconciler (.finalize index margin outcome)) (lookup.write state.db margin)
  | rollUp {index : Nat} {rollUp : RollUp} {aggregate : ChainStatus} {outcome : WriteOutcome}
      (isRollUp : rollUp ∈ state.rollUps) (isAggregate : rollUp.aggregate = some aggregate) :
      DbWrite state (.reconciler (.writeParent index outcome))
        (writeAggregate state.db rollUp.parentId aggregate)
  | reconcileParent (parentId : Nat) :
      DbWrite state (.reconciler (.reconcileParent parentId)) (reconcileParent state.db parentId)
  | settleRejected {jobId : Nat} {job : BackgroundJob}
      (found : state.db.getJobById jobId = some job) (awaits : awaitsBookkeeping job) :
      DbWrite state (.reconciler (.settleRejected jobId))
        (settleRejectedSponsorAttempt state.db job)

section Writes

variable {state : Ledger} {event : LedgerEvent} {jobId : Nat} {execution : Execution}

/-- A write that may be lost. -/
theorem DbWrite.of_outcome (outcome : WriteOutcome) {result : Option JobDb}
    (written : ∀ after, result = some after → DbWrite state event after) :
    DbWrite state event (state.write outcome result).db := by
  rcases outcome.apply_cases state.db result with unchanged | ⟨after, isResult, applied⟩
  · rw [Ledger.write, unchanged]
    exact .unchanged
  · rw [Ledger.write, applied]
    exact written after isResult

/-- A write that does not throw. -/
theorem DbWrite.of_some (outcome : WriteOutcome) {after : JobDb}
    (written : DbWrite state event after) :
    DbWrite state event (state.write outcome (some after)).db := by
  apply DbWrite.of_outcome
  intro result isResult
  cases isResult
  exact written

/-- The phases an execution passes to while it keeps its attempts and its announcement. -/
inductive PhaseStep (db : JobDb) (jobId : Nat) (execution : Execution) : Phase → Prop where
  | crosses (claimed : execution.phase = .claimed) : PhaseStep db jobId execution (.building none)
  | givesUp {tx : Tx} (sending : execution.phase = .sending tx) :
      PhaseStep db jobId execution (.givingUp tx)
  | reports {tx : Tx} (sending : execution.phase = .sending tx) :
      PhaseStep db jobId execution (.reporting tx)
  | works {tx : Tx} (sent : execution.phase = .sending tx ∨ execution.phase = .reporting tx) :
      PhaseStep db jobId execution .working
  | throws {error : Thrown}
      (closing : error = .bookkeepingPending → ∃ tx, execution.phase = .rejected tx) :
      PhaseStep db jobId execution (.threw error)
  | returns : PhaseStep db jobId execution .persisting
  | notSaved : PhaseStep db jobId execution .persistFailed
  | parksWorkflow : PhaseStep db jobId execution (.settling (.park .childReconciliationRequired))
  | decides {error : Thrown} (threw : execution.phase = .threw error) :
      PhaseStep db jobId execution (.settling (verdictOf (db.getJobById jobId) error))
  | unconfirmed :
      PhaseStep db jobId execution (.settling (.park .chainExecutionFailedUnconfirmed))

/-- What an event of a job's execution makes of the ledger. -/
inductive Turn (state : Ledger) (jobId : Nat) : ExecutionEvent → Ledger → Prop where
  | stays {event : ExecutionEvent} : Turn state jobId event state
  | writes {rowWrite : RowWrite} {db : JobDb}
      (write : DbWrite state (.execution jobId (.writeRow rowWrite)) db) :
      Turn state jobId (.writeRow rowWrite) { state with db }
  | claims {channel : Channel} {outcome : WriteOutcome} {job : BackgroundJob} {db : JobDb}
      (found : state.db.getJobById jobId = some job) (serves : channel.serves job.kind)
      (marked : markRunning state.db state.worker jobId = some db) :
      Turn state jobId (.claim channel outcome)
        ({ state with db }.setExecution jobId (some ⟨.claimed, .initial channel job.grantId⟩))
  | notClaimed {channel : Channel} {outcome : WriteOutcome} {job : BackgroundJob} {db : JobDb}
      (found : state.db.getJobById jobId = some job) (serves : channel.serves job.kind)
      (write : DbWrite state (.execution jobId (.claim channel outcome)) db) :
      Turn state jobId (.claim channel outcome) ({ state with db }.setExecution jobId
        (some ⟨.threw (.other "MarkRunning"), .initial channel job.grantId⟩))
  | moves {event : ExecutionEvent} {execution : Execution} {db : JobDb} {phase : Phase}
      (live : state.executions jobId = some execution)
      (write : DbWrite state (.execution jobId event) db)
      (step : PhaseStep state.db jobId execution phase) :
      Turn state jobId event ({ state with db }.setPhase jobId execution phase)
  | asks {execution : Execution} {error : Thrown} {job : BackgroundJob}
      (live : state.executions jobId = some execution) (threw : execution.phase = .threw error)
      (found : state.db.getJobById jobId = some job) (confirms : confirmsFailure job error) :
      Turn state jobId .classify
        (state.setPhase jobId execution (.confirming job state.db.reorgGeneration))
  | ends {event : ExecutionEvent} {db : JobDb}
      (write : DbWrite state (.execution jobId event) db) :
      Turn state jobId event ({ state with db }.setExecution jobId none)
  | insertsRow {execution : Execution} {rowId now : Nat}
      (live : state.executions jobId = some execution)
      (free : state.db.submissions.find? rowId = none) :
      Turn state jobId (.insertRow rowId now)
        ({ state with db := insertPending state.db rowId now }.setExecution jobId
          (some { execution with ledger := { execution.ledger with rowId := some rowId } }))
  | announces {execution : Execution} {intent : Announcement} {outcome : WriteOutcome}
      {db : JobDb} (live : state.executions jobId = some execution)
      (may : execution.mayAnnounce) (own : intent.tx.job = jobId)
      (free : state.db.submissions.find? intent.freshId = none)
      (announced : execution.ledger.onSubmitIntent state.db state.worker jobId intent = some db) :
      Turn state jobId (.announce intent outcome)
        ({ state with db, acked := intent.tx :: state.acked }.setExecution jobId
          (some ⟨.sending intent.tx, execution.ledger.announced intent⟩))
  | rejects {execution : Execution} {tx : Tx} (live : state.executions jobId = some execution)
      (sending : execution.phase = .sending tx) :
      Turn state jobId .reject ((state.withoutTx tx).setPhase jobId execution (.rejected tx))
  | closes {execution : Execution} {tx : Tx} {outcome : WriteOutcome} {db : JobDb}
      (live : state.executions jobId = some execution)
      (rejected : execution.phase = .rejected tx)
      (write : DbWrite state (.execution jobId (.closeRejected outcome)) db) :
      Turn state jobId (.closeRejected outcome) ({ state with db }.setExecution jobId
        (some ⟨.building none, execution.ledger.closed true⟩))
  | reopens {execution : Execution} {tx : Tx} {outcome : WriteOutcome} {db : JobDb}
      (live : state.executions jobId = some execution)
      (givingUp : execution.phase = .givingUp tx)
      (write : DbWrite state (.execution jobId (.closeGivenUp outcome)) db) :
      Turn state jobId (.closeGivenUp outcome) ({ state with db }.setExecution jobId
        (some ⟨.building (some tx), execution.ledger.closed false⟩))

/-- A step of the phase that depends on whether a write was seen to succeed. -/
theorem PhaseStep.ite {db : JobDb} {first second : Phase} (condition : Bool)
    (ifTrue : PhaseStep db jobId execution first) (ifFalse : PhaseStep db jobId execution second) :
    PhaseStep db jobId execution (if condition then first else second) := by
  cases condition with
  | true => exact ifTrue
  | false => exact ifFalse

theorem claimJob_turn (channel : Channel) (outcome : WriteOutcome) :
    Turn state jobId (.claim channel outcome) (claimJob state jobId channel outcome) := by
  unfold claimJob
  split
  next job free found =>
    dsimp only
    split
    · exact .stays
    next claimable =>
      have serves : channel.serves job.kind := by
        cases answer : channel.serves job.kind with
        | true => rfl
        | false => simp [answer] at claimable
      split
      next reported =>
        obtain ⟨after, marked, isAfter⟩ := WriteOutcome.of_reports state.db reported
        rw [Ledger.write, isAfter]
        exact .claims found serves marked
      · exact .notClaimed found serves (.of_outcome outcome fun _ => .claim)
  · exact .stays

theorem classifyFailure_turn (live : state.executions jobId = some execution) :
    Turn state jobId .classify (classifyFailure state jobId execution) := by
  unfold classifyFailure
  split
  next error threw =>
    dsimp only
    split
    · exact .moves live .unchanged .parksWorkflow
    · split
      · exact .ends .unchanged
      · split
        next job isJob =>
          obtain ⟨found, confirms⟩ := Option.filter_eq_some_iff.mp isJob
          exact .asks live threw found confirms
        · exact .moves live .unchanged (.decides threw)
  · exact .stays

theorem confirmInFlight_turn (live : state.executions jobId = some execution)
    (answer : Option ChainOutcome) (outcome : WriteOutcome) :
    Turn state jobId (.confirmInFlight answer outcome)
      (confirmInFlight state jobId execution answer outcome) := by
  unfold confirmInFlight
  split
  next job generation phase =>
    dsimp only
    split
    · exact .moves live .unchanged .unconfirmed
    next answer =>
      split
      · exact .moves live .unchanged .unconfirmed
      · exact .ends (.of_some outcome (.confirm answer live phase))
  · exact .stays

theorem executionStep_turn (live : state.executions jobId = some execution)
    (event : ExecutionEvent) :
    Turn state jobId event (executionStep state jobId execution event) := by
  cases event with
  | claim channel outcome => exact .stays
  | insertRow rowId now =>
    simp only [executionStep]
    split
    next enabled => exact .insertsRow live enabled.2.2.2
    · exact .stays
  | crossBoundary outcome =>
    simp only [executionStep]
    split
    next enabled =>
      exact .moves live (.of_outcome outcome fun _ marked => .crossBoundary live marked)
        (.ite _ (.crosses enabled.1) (.throws nofun))
    · exact .stays
  | announce intent outcome =>
    simp only [executionStep]
    split
    next enabled =>
      obtain ⟨may, own, free⟩ := enabled
      split
      next reported =>
        obtain ⟨after, announced, isAfter⟩ := WriteOutcome.of_reports state.db reported
        rw [Ledger.write, isAfter]
        exact .announces live may own free announced
      · exact .moves live
          (.of_outcome outcome fun _ announced => .announce live may own free announced)
          (.throws nofun)
    · exact .stays
  | reject =>
    simp only [executionStep]
    split
    next tx sending => exact .rejects live sending
    · exact .stays
  | closeRejected outcome =>
    simp only [executionStep]
    split
    next tx phase =>
      have written : DbWrite state (.execution jobId (.closeRejected outcome)) _ :=
        .of_outcome outcome fun _ rejected => .closeRejected live phase rejected
      split
      · exact .closes live phase written
      · exact .moves live written (.throws fun _ => ⟨tx, phase⟩)
    · exact .stays
  | giveUp =>
    simp only [executionStep]
    split
    next tx sending =>
      split
      · exact .moves live .unchanged (.givesUp sending)
      · exact .stays
    · exact .stays
  | closeGivenUp outcome =>
    simp only [executionStep]
    split
    next tx phase =>
      have written : DbWrite state (.execution jobId (.closeGivenUp outcome)) _ :=
        .of_some outcome (.closeGivenUp live phase)
      split
      · exact .reopens live phase written
      · exact .moves live written (.throws nofun)
    · exact .stays
  | workerReturns =>
    simp only [executionStep]
    split
    next tx sending =>
      split
      · exact .moves live .unchanged (.reports sending)
      · exact .moves live .unchanged (.works (.inl sending))
    · exact .stays
  | reportSubmitted now outcome =>
    simp only [executionStep]
    split
    next tx phase =>
      exact .moves live (.of_outcome outcome fun _ marked => .reportSubmitted live phase marked)
        (.ite _ (.works (.inr phase)) (.throws nofun))
    · exact .stays
  | writeRow write =>
    simp only [executionStep]
    split
    next rowId isRow =>
      split
      next enabled =>
        exact .writes (.of_some .committed (.writeRow write live isRow enabled.1 enabled.2))
      · exact .stays
    · exact .stays
  | executorThrows failure =>
    simp only [executionStep]
    split
    · exact .moves live .unchanged (.throws nofun)
    · exact .stays
  | executorReturns =>
    simp only [executionStep]
    split
    · exact .moves live .unchanged .returns
    · exact .moves live .unchanged .returns
    · exact .moves live .unchanged .returns
    · exact .stays
  | persist outcome =>
    simp only [executionStep]
    split
    next phase =>
      have written : DbWrite state (.execution jobId (.persist outcome)) _ :=
        .of_outcome outcome fun _ marked => .persist live phase marked
      split
      · exact .ends written
      · exact .moves live written .notSaved
    · exact .stays
  | persistFailure outcome =>
    simp only [executionStep]
    split
    next phase =>
      split
      · exact .ends .unchanged
      · exact .ends (.of_outcome outcome fun _ marked => .persistFailure live phase marked)
    · exact .stays
  | classify => exact classifyFailure_turn live
  | settle outcome =>
    simp only [executionStep]
    split
    next verdict phase =>
      exact .ends (.of_outcome outcome fun _ marked => .settle live phase marked)
    · exact .stays
  | confirmInFlight answer outcome => exact confirmInFlight_turn live answer outcome

theorem ledgerStep_turn (state : Ledger) (jobId : Nat) (event : ExecutionEvent) :
    Turn state jobId event (ledgerStep state (.execution jobId event)) := by
  cases live : state.executions jobId with
  | none =>
    cases event with
    | claim channel outcome => exact claimJob_turn channel outcome
    | _ =>
      simp only [ledgerStep, live]
      exact .stays
  | some execution =>
    cases event with
    | claim channel outcome => exact claimJob_turn channel outcome
    | _ =>
      simp only [ledgerStep, live]
      exact executionStep_turn live _

variable {event : ExecutionEvent}

theorem Turn.dbWrite {next : Ledger}
    (turn : Turn state jobId event next) : DbWrite state (.execution jobId event) next.db := by
  cases turn with
  | stays | asks | rejects => exact .unchanged
  | writes write | notClaimed _ _ write | moves _ write _ | ends write => exact write
  | closes _ _ write | reopens _ _ write => exact write
  | claims _ _ marked => exact .claim marked
  | insertsRow live free => exact .insertRow _ _ live free
  | announces live may own free announced => exact .announce live may own free announced

theorem reconcilerStep_writes (event : ReconcilerEvent) :
    DbWrite state (.reconciler event) (reconcilerStep state event).db := by
  cases event with
  | startPass | beginLookup =>
    simp only [reconcilerStep]
    split <;> exact .unchanged
  | rereadGeneration | answer | endPass | readChildren => exact .unchanged
  | finalize index margin outcome =>
    simp only [reconcilerStep]
    split
    next lookup isLookup =>
      exact .of_some outcome (.lookup margin isLookup)
    · exact .unchanged
  | readParent parentId =>
    simp only [reconcilerStep]
    split
    · split <;> exact .unchanged
    · exact .unchanged
  | writeParent index outcome =>
    simp only [reconcilerStep]
    split
    next rollUp isRollUp =>
      apply DbWrite.of_some outcome
      split
      next aggregate isAggregate =>
        split
        · exact .unchanged
        · exact .rollUp (List.mem_of_getElem? isRollUp) isAggregate
      · exact .unchanged
    · exact .unchanged
  | reconcileParent parentId => exact .of_some .committed (.reconcileParent parentId)
  | settleRejected jobId =>
    simp only [reconcilerStep]
    split
    next job found =>
      split
      next awaits => exact .of_some .committed (.settleRejected found awaits)
      · exact .unchanged
    · exact .unchanged

/-- Every step but a rollback makes one of the writes. -/
theorem ledgerStep_writes (state : Ledger) (event : LedgerEvent)
    (notRollback : ∀ fromHeight, event ≠ .rollback fromHeight) :
    DbWrite state event (ledgerStep state event).db := by
  cases event with
  | startJob new =>
    simp only [ledgerStep]
    split
    next may => exact .of_some .committed (.startJob new may)
    · exact .unchanged
  | supersede replaced => exact .of_some .committed (.supersede replaced)
  | reclaim jobId => exact .of_some .committed (.reclaim jobId)
  | restart worker count => exact .recover worker count
  | dropPending sessionIds => exact .of_some .committed (.dropPending sessionIds)
  | createGrant | changeGrant =>
    exact .of_some .committed (.changeGrants _)
  | execution jobId event => exact (ledgerStep_turn state jobId event).dbWrite
  | broadcast tx =>
    simp only [ledgerStep]
    split <;> exact .unchanged
  | reconciler event => exact reconcilerStep_writes event
  | rollback fromHeight => exact absurd rfl (notRollback fromHeight)

/-- A pass the reconciler is in after a step. -/
inductive PassFrom (state : Ledger) : ConfirmPass → Prop where
  | kept {pass : ConfirmPass} (held : pass ∈ state.pass) : PassFrom state pass
  | started (parked succeeded : List Nat) :
      PassFrom state ⟨readPage state.db parked isParked,
        readPage state.db succeeded awaitsOutcome, state.db.reorgGeneration⟩
  | reread {pass : ConfirmPass} (held : pass ∈ state.pass) :
      PassFrom state { pass with generation := state.db.reorgGeneration }

/-- A lookup of the reconciler after a step. -/
inductive LookupFrom (state : Ledger) : Lookup → Prop where
  | kept {lookup : Lookup} (held : lookup ∈ state.lookups) : LookupFrom state lookup
  | ofParked {pass : ConfirmPass} {job : BackgroundJob} (held : pass ∈ state.pass)
      (read : job ∈ pass.parked) : LookupFrom state ⟨job, true, pass.generation, none⟩
  | ofSucceeded {pass : ConfirmPass} {job : BackgroundJob} (held : pass ∈ state.pass)
      (read : job ∈ pass.succeeded) : LookupFrom state ⟨job, false, pass.generation, none⟩
  | answered {lookup : Lookup} (held : lookup ∈ state.lookups) (answer : ChainLookup) :
      LookupFrom state { lookup with answer := some answer }

/-- A roll-up of the reconciler after a step. -/
inductive RollUpFrom (state : Ledger) : RollUp → Prop where
  | kept {rollUp : RollUp} (held : rollUp ∈ state.rollUps) : RollUpFrom state rollUp
  | read {parentId : Nat} {parent : BackgroundJob}
      (found : state.db.getJobById parentId = some parent) (awaits : awaitsRollUp parent) :
      RollUpFrom state ⟨parentId, parent.chainStatus, none⟩
  | counted {rollUp : RollUp} (held : rollUp ∈ state.rollUps) :
      RollUpFrom state { rollUp with
        aggregate := some (aggregateChainStatus (childrenOf state.db rollUp.parentId)) }

/-- What a step makes of the reconciler's memory, by the tables before it. -/
structure Remembers (state next : Ledger) : Prop where
  pass : ∀ pass ∈ next.pass, PassFrom state pass
  lookups : ∀ lookup ∈ next.lookups, LookupFrom state lookup
  rollUps : ∀ rollUp ∈ next.rollUps, RollUpFrom state rollUp

/-- A step that leaves the memory alone. -/
theorem Remembers.of_same {next : Ledger} (pass : next.pass = state.pass)
    (lookups : next.lookups = state.lookups) (rollUps : next.rollUps = state.rollUps) :
    Remembers state next where
  pass := fun _ isPass => .kept (pass ▸ isPass)
  lookups := fun _ isLookup => .kept (lookups ▸ isLookup)
  rollUps := fun _ isRollUp => .kept (rollUps ▸ isRollUp)

theorem Remembers.refl (state : Ledger) : Remembers state state :=
  .of_same rfl rfl rfl

theorem beginLookup_from {pass : ConfirmPass} {lookup : Lookup} (held : pass ∈ state.pass)
    (isNew : lookup ∈ beginLookup pass jobId) : LookupFrom state lookup := by
  simp only [beginLookup] at isNew
  split at isNew
  next job found =>
    cases List.mem_singleton.mp isNew
    exact .ofParked held (List.mem_of_find?_eq_some found)
  next job _ found =>
    cases List.mem_singleton.mp isNew
    exact .ofSucceeded held (List.mem_of_find?_eq_some found)
  · cases isNew

theorem reconcilerStep_remembers (event : ReconcilerEvent) :
    Remembers state (reconcilerStep state event) := by
  have same := Remembers.refl state
  cases event with
  | startPass parked succeeded =>
    simp only [reconcilerStep]
    split
    · exact same
    · refine { same with pass := ?_ }
      rintro _ ⟨⟩
      exact .started parked succeeded
  | rereadGeneration =>
    refine { same with pass := ?_ }
    intro pass isPass
    obtain ⟨before, held, rfl⟩ := Option.map_eq_some_iff.mp isPass
    exact .reread held
  | beginLookup jobId =>
    simp only [reconcilerStep]
    split
    next pass held =>
      refine { same with lookups := ?_ }
      intro lookup isLookup
      rcases List.mem_append.mp isLookup with before | isNew
      · exact .kept before
      · exact beginLookup_from held isNew
    · exact same
  | answer index answer =>
    refine { same with lookups := ?_ }
    intro lookup isLookup
    rcases of_mem_modify isLookup with before | ⟨before, held, rfl⟩
    · exact .kept before
    · exact .answered held answer
  | finalize index margin outcome =>
    simp only [reconcilerStep]
    split
    · exact { same with
        lookups := fun _ isLookup => .kept (List.mem_of_mem_eraseIdx isLookup) }
    · exact same
  | endPass => exact ⟨by simp [reconcilerStep], by simp [reconcilerStep], same.rollUps⟩
  | readParent parentId =>
    simp only [reconcilerStep]
    split
    next parent found =>
      split
      next awaits =>
        refine { same with rollUps := ?_ }
        intro rollUp isRollUp
        rcases List.mem_append.mp isRollUp with before | isNew
        · exact .kept before
        · cases List.mem_singleton.mp isNew
          exact .read found awaits
      · exact same
    · exact same
  | readChildren index =>
    refine { same with rollUps := ?_ }
    intro rollUp isRollUp
    rcases of_mem_modify isRollUp with before | ⟨before, held, rfl⟩
    · exact .kept before
    · dsimp only
      split
      · exact .kept held
      · exact .counted held
  | writeParent index outcome =>
    simp only [reconcilerStep]
    split
    · exact { same with
        rollUps := fun _ isRollUp => .kept (List.mem_of_mem_eraseIdx isRollUp) }
    · exact same
  | reconcileParent parentId => exact .of_same rfl rfl rfl
  | settleRejected jobId =>
    simp only [reconcilerStep]
    split
    · split <;> exact .of_same rfl rfl rfl
    · exact same

/-- The reconciler changes the tables and its memory. -/
theorem reconcilerStep_eq (event : ReconcilerEvent) :
    reconcilerStep state event = { state with
      db := (reconcilerStep state event).db
      pass := (reconcilerStep state event).pass
      lookups := (reconcilerStep state event).lookups
      rollUps := (reconcilerStep state event).rollUps } := by
  cases event <;> simp only [reconcilerStep] <;> repeat' split
  all_goals rfl

theorem Turn.remembers {next : Ledger}
    (turn : Turn state jobId event next) : Remembers state next := by
  cases turn <;> exact .of_same rfl rfl rfl

theorem ledgerStep_remembers (state : Ledger) (event : LedgerEvent) :
    Remembers state (ledgerStep state event) := by
  cases event with
  | startJob | broadcast =>
    simp only [ledgerStep]
    split <;> exact .of_same rfl rfl rfl
  | restart worker count => constructor <;> simp [ledgerStep, restartLedger]
  | execution jobId event => exact (ledgerStep_turn state jobId event).remembers
  | reconciler event => exact reconcilerStep_remembers event
  | _ => exact .of_same rfl rfl rfl

theorem Turn.lookups {next : Ledger}
    (turn : Turn state jobId event next) : next.lookups = state.lookups := by
  cases turn <;> rfl

/-- Only the reconciler and a restart change the lookups. -/
theorem ledgerStep_lookups (state : Ledger) (event : LedgerEvent)
    (notReconciler : ∀ inner, event ≠ .reconciler inner) :
    (ledgerStep state event).lookups = state.lookups ∨ (ledgerStep state event).lookups = [] := by
  cases event with
  | startJob | broadcast =>
    simp only [ledgerStep]
    split <;> exact .inl rfl
  | restart worker count => exact .inr rfl
  | execution jobId event =>
    exact .inl (ledgerStep_turn state jobId event).lookups
  | reconciler inner => exact absurd rfl (notReconciler inner)
  | _ => exact .inl rfl

end Writes

end Nightgate.Submission
