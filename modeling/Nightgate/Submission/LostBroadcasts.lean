import Nightgate.Submission.ChainConfirmer
import Nightgate.Submission.WindowRuns

/-!
# Lost broadcasts

The ledger is watched while it runs: which replies of the indexer each lookup rests on, and
whether the chain was rolled back since the lookup began. A broadcast is declared lost on
proof where every transaction is recorded with a window that reaches its end.
-/

namespace Nightgate.Submission

open Library

/-- What is noted beside a lookup: the replies by identifier and by hash, and whether the
chain was rolled back since it began. -/
structure Watch where
  replies : Option (IndexerReply × IndexerReply)
  rolledBack : Bool

/-- The ledger, with a watch for each of its lookups. -/
structure WatchedLedger where
  ledger : Ledger
  watches : List Watch

def WatchedLedger.initial (worker : Nat) : WatchedLedger :=
  ⟨Ledger.initial worker, []⟩

inductive WatchEvent where
  /-- A step of the ledger. Its lookups are answered only by the indexer. -/
  | ledger (event : LedgerEvent)
  /-- The indexer replies to both queries of a lookup. -/
  | asked (index : Nat) (byId byHash : IndexerReply)

/-- The watches after a step of the ledger. Where the lookups are dropped, so are they. -/
def nextWatches (state : WatchedLedger) (next : Ledger) : LedgerEvent → List Watch
  | .reconciler (.beginLookup _) =>
    state.watches ++
      List.replicate (next.lookups.length - state.ledger.lookups.length) ⟨none, false⟩
  | .reconciler (.finalize index _ _) => state.watches.eraseIdx index
  | .rollback _ => state.watches.map fun watch => { watch with rolledBack := true }
  | _ => state.watches.take next.lookups.length

def watchedStep (state : WatchedLedger) : WatchEvent → WatchedLedger
  | .ledger (.reconciler (.answer _ _)) => state
  | .ledger event =>
    let next := ledgerStep state.ledger event
    ⟨next, nextWatches state next event⟩
  | .asked index byId byHash =>
    match createHttpTxConfirmer byId byHash with
    | none => state
    | some answer =>
      ⟨ledgerStep state.ledger (.reconciler (.answer index answer)),
        state.watches.modify index fun watch => { watch with replies := some (byId, byHash) }⟩

theorem watchedStep_ledger {state : WatchedLedger} {event : LedgerEvent}
    (other : ∀ index answer, event ≠ .reconciler (.answer index answer)) :
    watchedStep state (.ledger event) =
      ⟨ledgerStep state.ledger event, nextWatches state (ledgerStep state.ledger event) event⟩ := by
  cases event with
  | reconciler inner =>
    cases inner with
    | answer index answer => exact absurd rfl (other index answer)
    | _ => rfl
  | _ => rfl

/-! ## The claim -/

/-- The replies prove that the transaction of a job can no longer land: neither lookup found
it, and the oldest tip among them lies past the ttl and the margin. -/
def ProvesLost (ttlOf : Tx → Nat) (margin : Nat) (byId byHash : IndexerReply)
    (job : BackgroundJob) : Prop :=
  byId.notFound ∧ byHash.notFound ∧ ∃ tip ∈ (replyTips [byId, byHash]).filterMap id,
      (∀ other ∈ replyTips [byId, byHash], other.any (tip ≤ ·)) ∧
        ∀ txHash ∈ job.txHash, ttlOf txHash.tx + margin < tip

/-- The step writes the proof that a job is lost, and no rollback came in between. -/
def EndsByProof (ttlOf : Tx → Nat) (state : WatchedLedger) (job : BackgroundJob) :
    WatchEvent → Prop
  | .ledger (.reconciler (.finalize index margin _)) =>
    ∃ lookup ∈ state.ledger.lookups[index]?, ∃ watch ∈ state.watches[index]?,
      lookup.job.ID = job.ID ∧ lookup.job.txHash = job.txHash ∧ watch.rolledBack = false ∧
        ∃ replies ∈ watch.replies, ProvesLost ttlOf margin replies.1 replies.2 job
  | _ => False

/-- A job that newly ends as never included ends so by proof. -/
def EndsOnProof (ttlOf : Tx → Nat) (state : WatchedLedger) (event : WatchEvent) : Prop :=
  ∀ job ∈ (watchedStep state event).ledger.db.jobs.rows, job.Lost →
    (∃ before ∈ state.ledger.db.jobs.rows, before.ID = job.ID ∧ before.Lost) ∨
      EndsByProof ttlOf state job event

instance (ttlOf : Tx → Nat) (margin : Nat) (byId byHash : IndexerReply) (job : BackgroundJob) :
    Decidable (ProvesLost ttlOf margin byId byHash job) :=
  inferInstanceAs (Decidable (_ ∧ _ ∧ ∃ tip ∈ _, _))

instance (ttlOf : Tx → Nat) (state : WatchedLedger) (job : BackgroundJob) (event : WatchEvent) :
    Decidable (EndsByProof ttlOf state job event) := by
  unfold EndsByProof
  split <;> infer_instance

instance (ttlOf : Tx → Nat) (state : WatchedLedger) (event : WatchEvent) :
    Decidable (EndsOnProof ttlOf state event) :=
  inferInstanceAs (Decidable (∀ job ∈ _, _ → _))

/-- What the watch of a lookup tells about it. -/
structure Watched (db : JobDb) (lookup : Lookup) (watch : Watch) : Prop where
  answered : lookup.answer =
    watch.replies.bind fun replies => createHttpTxConfirmer replies.1 replies.2
  generation : lookup.generation ≤ db.reorgGeneration
  rolledBack : watch.rolledBack → lookup.generation < db.reorgGeneration

/-- Each lookup has its watch. -/
structure AllWatched (db : JobDb) (lookups : List Lookup) (watches : List Watch) : Prop where
  length : watches.length = lookups.length
  each : ∀ index : Nat, ∀ lookup ∈ lookups[index]?, ∀ watch ∈ watches[index]?,
    Watched db lookup watch

structure WatchInvariant (ttlOf : Tx → Nat) (state : WatchedLedger) : Prop where
  safe : ReorgSafe state.ledger
  windows : WindowInvariant ttlOf state.ledger
  pass : ∀ pass ∈ state.ledger.pass, pass.generation ≤ state.ledger.db.reorgGeneration
  watched : AllWatched state.ledger.db state.ledger.lookups state.watches

theorem WatchInvariant.initial (ttlOf : Tx → Nat) (worker : Nat) :
    WatchInvariant ttlOf (WatchedLedger.initial worker) where
  safe := ⟨_, ReorgInvariant.initial worker⟩
  windows := WindowInvariant.initial ttlOf worker
  pass := by simp [WatchedLedger.initial, Ledger.initial]
  watched := ⟨rfl, by simp [WatchedLedger.initial, Ledger.initial]⟩

section Watches

variable {db after : JobDb} {lookups : List Lookup} {watches : List Watch}

theorem Watched.later {lookup : Lookup} {watch : Watch} (watched : Watched db lookup watch)
    (later : db.reorgGeneration ≤ after.reorgGeneration) : Watched after lookup watch where
  answered := watched.answered
  generation := Nat.le_trans watched.generation later
  rolledBack := fun rolledBack => Nat.lt_of_lt_of_le (watched.rolledBack rolledBack) later

theorem AllWatched.empty : AllWatched db [] [] :=
  ⟨rfl, by simp⟩

variable (watched : AllWatched db lookups watches)

include watched

theorem AllWatched.later
    (later : db.reorgGeneration ≤ after.reorgGeneration) : AllWatched after lookups watches where
  length := watched.length
  each := fun index lookup isLookup watch isWatch =>
    (watched.each index lookup isLookup watch isWatch).later later

/-- A lookup begins without a reply. -/
theorem AllWatched.begin {new : List Lookup}
    (unanswered : ∀ lookup ∈ new, lookup.answer = none ∧ lookup.generation ≤ db.reorgGeneration) :
    AllWatched db (lookups ++ new)
      (watches ++ List.replicate ((lookups ++ new).length - lookups.length) ⟨none, false⟩) where
  length := by simp [watched.length]
  each := by
    intro index lookup isLookup watch isWatch
    rw [Option.mem_def, List.getElem?_append] at isLookup isWatch
    rw [watched.length] at isWatch
    by_cases before : index < lookups.length
    · rw [if_pos before] at isLookup isWatch
      exact watched.each index lookup isLookup watch isWatch
    · rw [if_neg before] at isLookup isWatch
      obtain ⟨answer, generation⟩ := unanswered lookup (List.mem_of_getElem? isLookup)
      have isNew : watch = ⟨none, false⟩ :=
        List.eq_of_mem_replicate (List.mem_of_getElem? isWatch)
      subst isNew
      exact ⟨answer, generation, by simp⟩

theorem AllWatched.erase (index : Nat) :
    AllWatched db (lookups.eraseIdx index) (watches.eraseIdx index) where
  length := by simp [List.length_eraseIdx, watched.length]
  each := by
    intro position lookup isLookup watch isWatch
    rw [Option.mem_def, List.getElem?_eraseIdx] at isLookup isWatch
    by_cases before : position < index
    · rw [if_pos before] at isLookup isWatch
      exact watched.each position lookup isLookup watch isWatch
    · rw [if_neg before] at isLookup isWatch
      exact watched.each (position + 1) lookup isLookup watch isWatch

/-- The replies of the indexer decide the answer of the lookup. -/
theorem AllWatched.ask {index : Nat} {byId byHash : IndexerReply} {answer : ChainLookup}
    (isAnswer : createHttpTxConfirmer byId byHash = some answer) :
    AllWatched db (lookups.modify index fun lookup => { lookup with answer := some answer })
      (watches.modify index fun watch => { watch with replies := some (byId, byHash) }) where
  length := by simp [watched.length]
  each := by
    intro position lookup isLookup watch isWatch
    rw [Option.mem_def, List.getElem?_modify] at isLookup isWatch
    obtain ⟨before, isBefore, rfl⟩ := Option.map_eq_some_iff.mp isLookup
    obtain ⟨earlier, isEarlier, rfl⟩ := Option.map_eq_some_iff.mp isWatch
    have seen := watched.each position before isBefore earlier isEarlier
    by_cases same : index = position
    · rw [if_pos same, if_pos same]
      exact ⟨isAnswer.symm, seen.generation, seen.rolledBack⟩
    · rw [if_neg same, if_neg same]
      exact seen

/-- A rollback counts, so the lookups before it are out of date. -/
theorem AllWatched.rollback (counted : after.reorgGeneration = db.reorgGeneration + 1) :
    AllWatched after lookups (watches.map fun watch => { watch with rolledBack := true }) where
  length := by simp [watched.length]
  each := by
    intro index lookup isLookup watch isWatch
    rw [Option.mem_def, List.getElem?_map] at isWatch
    obtain ⟨before, isBefore, rfl⟩ := Option.map_eq_some_iff.mp isWatch
    have seen := watched.each index lookup isLookup before isBefore
    have generation := seen.generation
    exact ⟨seen.answered, by omega, fun _ => by omega⟩

end Watches

/-- The condition on a run of the watched ledger: every transaction is recorded with its
window. -/
def RecordsWindows (ttlOf : Tx → Nat) (state : WatchedLedger) : WatchEvent → Prop
  | .ledger event => RecordsWindow ttlOf state.ledger event
  | .asked _ _ _ => True

instance (ttlOf : Tx → Nat) (state : WatchedLedger) (event : WatchEvent) :
    Decidable (RecordsWindows ttlOf state event) := by
  unfold RecordsWindows
  split <;> infer_instance

section Steps

variable {ttlOf : Tx → Nat} {state : WatchedLedger} {db after : JobDb}

/-- The tables count no fewer rollbacks after a step. -/
theorem WatchInvariant.later (invariant : WatchInvariant ttlOf state) {event : LedgerEvent}
    (records : RecordsWindow ttlOf state.ledger event) :
    state.ledger.db.reorgGeneration ≤ (ledgerStep state.ledger event).db.reorgGeneration := by
  obtain ⟨owner, reorg⟩ := invariant.safe
  exact (ledgerStep_advances reorg invariant.windows event records).generation

/-- The lookups and their watches after a step of the reconciler, by the tables before it. -/
theorem reconcilerStep_watched (invariant : WatchInvariant ttlOf state) (event : ReconcilerEvent)
    (other : ∀ index answer, event ≠ .answer index answer) :
    AllWatched state.ledger.db (reconcilerStep state.ledger event).lookups
      (nextWatches state (reconcilerStep state.ledger event) (.reconciler event)) := by
  have watched := invariant.watched
  have kept : AllWatched state.ledger.db state.ledger.lookups
      (state.watches.take state.ledger.lookups.length) := by
    rw [List.take_of_length_le (Nat.le_of_eq watched.length)]
    exact watched
  cases event with
  | startPass | writeParent =>
    simp only [reconcilerStep]
    split <;> exact kept
  | rereadGeneration | readChildren | reconcileParent => exact kept
  | beginLookup jobId =>
    simp only [reconcilerStep, nextWatches]
    split
    next pass isPass =>
      apply watched.begin
      intro lookup isNew
      have generation := invariant.pass pass isPass
      simp only [beginLookup] at isNew
      split at isNew
      · cases List.mem_singleton.mp isNew
        exact ⟨rfl, generation⟩
      · cases List.mem_singleton.mp isNew
        exact ⟨rfl, generation⟩
      · cases isNew
    · rw [Nat.sub_self, List.replicate_zero, List.append_nil]
      exact watched
  | answer index answer => exact absurd rfl (other index answer)
  | finalize index margin outcome =>
    simp only [reconcilerStep, nextWatches]
    split
    · exact watched.erase index
    next outside =>
      rw [List.getElem?_eq_none_iff] at outside
      rw [List.eraseIdx_of_length_le (watched.length ▸ outside)]
      exact watched
  | endPass => exact AllWatched.empty
  | readParent | settleRejected =>
    simp only [reconcilerStep]
    split
    · split <;> exact kept
    · exact kept

/-- A ledger step other than the reconciler's and a rollback. -/
theorem nextWatches_other {event : LedgerEvent} {next : Ledger}
    (notReconciler : ∀ inner, event ≠ .reconciler inner)
    (notRollback : ∀ fromHeight, event ≠ .rollback fromHeight) :
    nextWatches state next event = state.watches.take next.lookups.length := by
  cases event with
  | reconciler inner => exact absurd rfl (notReconciler inner)
  | rollback fromHeight => exact absurd rfl (notRollback fromHeight)
  | _ => rfl

theorem WatchInvariant.ledger (invariant : WatchInvariant ttlOf state) (event : LedgerEvent)
    (records : RecordsWindow ttlOf state.ledger event)
    (other : ∀ index answer, event ≠ .reconciler (.answer index answer)) :
    WatchInvariant ttlOf ⟨ledgerStep state.ledger event,
      nextWatches state (ledgerStep state.ledger event) event⟩ := by
  have later := invariant.later records
  have safe := ledgerStep_reorg state.ledger event invariant.safe trivial
  have windows : WindowInvariant ttlOf (ledgerStep state.ledger event) := by
    obtain ⟨owner, reorg⟩ := invariant.safe
    exact invariant.windows.step reorg event records
  have pass : ∀ pass ∈ (ledgerStep state.ledger event).pass,
      pass.generation ≤ (ledgerStep state.ledger event).db.reorgGeneration := by
    intro pass isPass
    refine Nat.le_trans ?_ later
    cases (ledgerStep_remembers state.ledger event).pass pass isPass with
    | kept held => exact invariant.pass pass held
    | started | reread => exact Nat.le_refl _
  by_cases ofReconciler : ∃ inner, event = .reconciler inner
  · obtain ⟨inner, rfl⟩ := ofReconciler
    have watched := reconcilerStep_watched invariant inner
      fun index answer isAnswer => other index answer (congrArg _ isAnswer)
    exact ⟨safe, windows, pass, watched.later later⟩
  by_cases isRollback : ∃ fromHeight, event = .rollback fromHeight
  · obtain ⟨fromHeight, rfl⟩ := isRollback
    exact ⟨safe, windows, pass, invariant.watched.rollback rfl⟩
  have notReconciler : ∀ inner, event ≠ .reconciler inner :=
    fun inner isInner => ofReconciler ⟨inner, isInner⟩
  rw [nextWatches_other notReconciler fun fromHeight isEvent => isRollback ⟨fromHeight, isEvent⟩]
  refine ⟨safe, windows, pass, ?_⟩
  rcases ledgerStep_lookups state.ledger event notReconciler with same | none
  · rw [same, List.take_of_length_le (Nat.le_of_eq invariant.watched.length)]
    exact invariant.watched.later later
  · rw [none]
    exact AllWatched.empty

theorem WatchInvariant.step (state : WatchedLedger) (event : WatchEvent)
    (invariant : WatchInvariant ttlOf state) (records : RecordsWindows ttlOf state event) :
    WatchInvariant ttlOf (watchedStep state event) := by
  cases event with
  | ledger event =>
    by_cases isAnswer : ∃ index answer, event = .reconciler (.answer index answer)
    · obtain ⟨index, answer, rfl⟩ := isAnswer
      exact invariant
    · have other : ∀ index answer, event ≠ .reconciler (.answer index answer) :=
        fun index answer isEvent => isAnswer ⟨index, answer, isEvent⟩
      rw [watchedStep_ledger other]
      exact invariant.ledger event records other
  | asked index byId byHash =>
    simp only [watchedStep]
    split
    · exact invariant
    next answer isAnswer =>
      have safe := ledgerStep_reorg state.ledger (.reconciler (.answer index answer))
        invariant.safe trivial
      obtain ⟨owner, reorg⟩ := invariant.safe
      have windows := invariant.windows.step reorg (.reconciler (.answer index answer)) trivial
      exact ⟨safe, windows, invariant.pass, invariant.watched.ask isAnswer⟩

/-! ## The proof a lost broadcast rests on -/

/-- The window the job is judged by reaches the end of its transaction. -/
theorem TableWindows.broadcastTtl {owner : Nat → Option Nat} {rollbacks : List (Nat × Nat)}
    {job current : BackgroundJob} {ttl : Nat} (windows : TableWindows ttlOf db)
    (sound : db.jobs.All (JobSound owner rollbacks))
    (allotted : ∀ rowId, db.submissions.find? rowId = none → owner rowId = none)
    (found : db.jobs.find? job.ID = some current) (row : current.submissionId = job.submissionId)
    (time : current.submittedAt = job.submittedAt) (hash : current.txHash = job.txHash)
    (isTtl : broadcastTtlMs job (attemptRowOf db job) = some ttl) :
    ∀ txHash ∈ job.txHash, ttlOf txHash.tx ≤ ttl := by
  intro txHash isHash
  have covered := windows.jobs job.ID current found txHash (hash ▸ isHash)
  simp only [attemptRowOf] at isTtl
  cases isRow : job.submissionId with
  | some rowId =>
    rw [row, isRow] at covered
    simp only [isRow] at isTtl
    cases stored : db.submissions.find? rowId with
    | none =>
      exact absurd (row.trans isRow) (not_fresh (sound job.ID current found) allotted stored)
    | some attempt =>
      rw [stored] at isTtl
      cases isTtl
      exact covered attempt stored
  | none =>
    rw [row, isRow] at covered
    simp only [isRow] at isTtl
    cases stored : db.submissions.rows.find? fun row => row.txHash = job.txHash with
    | none =>
      rw [stored] at isTtl
      obtain ⟨submitted, isTime, rfl⟩ := Option.map_eq_some_iff.mp isTtl
      exact covered submitted (time.trans isTime)
    | some attempt =>
      rw [stored] at isTtl
      cases isTtl
      have isMatch := List.find?_some stored
      have same : attempt.txHash = job.txHash := of_decide_eq_true isMatch
      exact windows.rows attempt.ID attempt
        (Table.find?_of_mem (List.mem_of_find?_eq_some stored)) txHash (same ▸ isHash)

/-- A lookup that ends a job as never included has the proof for it. -/
theorem WatchInvariant.finalizes {lookup : Lookup} {watch : Watch} {index margin : Nat}
    {next : BackgroundJob} (invariant : WatchInvariant ttlOf state)
    (isLookup : state.ledger.lookups[index]? = some lookup)
    (isWatch : state.watches[index]? = some watch)
    (mayEnd : lookup.mayEnd .broadcastNotIncluded lookup.job.ID)
    (found : (lookup.write state.ledger.db margin).jobs.find? lookup.job.ID = some next)
    (lost : next.Lost)
    (notBefore : ∀ before, state.ledger.db.jobs.find? lookup.job.ID = some before → ¬ before.Lost) :
    lookup.job.txHash = next.txHash ∧ watch.rolledBack = false ∧
      ∃ replies ∈ watch.replies, ProvesLost ttlOf margin replies.1 replies.2 next := by
  obtain ⟨ofParked, asOfMs, isAnswer⟩ := mayEnd.absent
  simp only [Lookup.write, isAnswer, ofParked] at found
  obtain ⟨current, tip, ttl, stored, parked, hash, rfl, isTtl, past, generation⟩ :=
    finalizeLostBroadcast_ends found lost notBefore
  obtain ⟨held, isHeld, _, _, row, time, names⟩ :=
    (invariant.windows.lookups lookup (List.mem_of_getElem? isLookup) ofParked).stands
  rw [stored] at isHeld
  cases isHeld
  have same : current.txHash = lookup.job.txHash := by
    rcases names with same | dismissed
    · exact same
    · have failed := dismissed.1
      rw [parked] at failed
      cases failed
  have watched := invariant.watched.each index lookup isLookup watch isWatch
  refine ⟨(hash.trans same).symm, ?_, ?_⟩
  · cases rolledBack : watch.rolledBack with
    | false => rfl
    | true =>
      have stale := watched.rolledBack rolledBack
      omega
  · have answered := watched.answered
    rw [isAnswer] at answered
    obtain ⟨replies, isReplies, isAbsent⟩ := Option.bind_eq_some_iff.mp answered.symm
    obtain ⟨notById, notByHash, isTip, oldest⟩ := createHttpTxConfirmer_absent isAbsent
    refine ⟨replies, isReplies, notById, notByHash, tip, ?_, ?_, ?_⟩
    · exact List.mem_filterMap.mpr ⟨some tip, isTip, rfl⟩
    · intro other isOther
      obtain ⟨time, rfl, later⟩ := oldest other isOther
      simpa using later
    · intro txHash isHash
      obtain ⟨owner, reorg⟩ := invariant.safe
      have within : ttlOf txHash.tx ≤ ttl :=
        invariant.windows.tables.broadcastTtl reorg.jobs reorg.allotted stored row time same isTtl
          txHash (by rw [← same, ← hash]; exact isHash)
      omega

theorem WatchInvariant.finalizeEnds {lookup : Lookup} {index margin : Nat} {outcome : WriteOutcome}
    {next : BackgroundJob} (invariant : WatchInvariant ttlOf state)
    (isLookup : state.ledger.lookups[index]? = some lookup)
    (mayEnd : lookup.mayEnd .broadcastNotIncluded next.ID)
    (found : (ledgerStep state.ledger
      (.reconciler (.finalize index margin outcome))).db.jobs.find? next.ID = some next)
    (lost : next.Lost)
    (notBefore : ∀ before, state.ledger.db.jobs.find? next.ID = some before → ¬ before.Lost) :
    EndsByProof ttlOf state next (.ledger (.reconciler (.finalize index margin outcome))) := by
  have isJob := mayEnd.1
  have within : index < state.watches.length := by
    rw [invariant.watched.length]
    exact (List.getElem?_eq_some_iff.mp isLookup).1
  have isWatch : state.watches[index]? = some state.watches[index] :=
    List.getElem?_eq_getElem within
  simp only [ledgerStep, reconcilerStep, isLookup, Ledger.write] at found
  rcases outcome.apply_cases state.ledger.db
    (some (lookup.write state.ledger.db margin)) with same | ⟨after, isAfter, applied⟩
  · rw [same] at found
    exact absurd lost (notBefore next found)
  · rw [applied, ← Option.some.inj isAfter] at found
    rw [isJob] at mayEnd found notBefore
    obtain ⟨hash, current, proof⟩ :=
      invariant.finalizes isLookup isWatch mayEnd found lost notBefore
    exact ⟨lookup, isLookup, _, isWatch, isJob.symm, hash, current, proof⟩

theorem WatchInvariant.endsOnProof (state : WatchedLedger) (event : WatchEvent)
    (invariant : WatchInvariant ttlOf state) (records : RecordsWindows ttlOf state event) :
    EndsOnProof ttlOf state event := by
  intro next isNext lost
  by_cases before : ∃ before ∈ state.ledger.db.jobs.rows, before.ID = next.ID ∧ before.Lost
  · exact Or.inl before
  have notBefore : ∀ job, state.ledger.db.jobs.find? next.ID = some job → ¬ job.Lost := by
    intro job found lostBefore
    exact before ⟨job, Table.mem_of_find? found, Table.key_of_find? found, lostBefore⟩
  have unchanged (same : (watchedStep state event).ledger.db = state.ledger.db) :
      EndsByProof ttlOf state next event := by
    rw [same] at isNext
    exact absurd lost (notBefore next (Table.find?_of_mem isNext))
  right
  cases event with
  | asked index byId byHash =>
    apply unchanged
    simp only [watchedStep]
    split <;> rfl
  | ledger event =>
    by_cases isAnswer : ∃ index answer, event = .reconciler (.answer index answer)
    · obtain ⟨index, answer, rfl⟩ := isAnswer
      exact unchanged rfl
    rw [watchedStep_ledger fun index answer isEvent => isAnswer ⟨index, answer, isEvent⟩] at isNext
    have found := Table.find?_of_mem isNext
    obtain ⟨owner, reorg⟩ := invariant.safe
    have advances := ledgerStep_advances reorg invariant.windows event records
    rcases advances.ended next.ID next found .broadcastNotIncluded (Or.inl rfl) lost with
      ends | ⟨job, stored, lostBefore⟩
    · cases event with
      | reconciler inner =>
        cases inner with
        | finalize index margin outcome =>
          obtain ⟨lookup, isLookup, mayEnd⟩ := ends
          exact invariant.finalizeEnds isLookup mayEnd found lost notBefore
        | _ => exact ends.elim
      | execution jobId inner =>
        cases inner with
        | confirmInFlight answer outcome => cases ends.2.1
        | _ => exact ends.elim
      | _ => exact ends.elim
    · exact absurd lostBefore (notBefore job stored)

end Steps

/-- Where every transaction is recorded with its window, a broadcast is declared lost only on
proof. -/
theorem broadcast_lost_on_proof (ttlOf : Tx → Nat) (worker : Nat) (events : List WatchEvent)
    (records : Along watchedStep (RecordsWindows ttlOf) (WatchedLedger.initial worker) events) :
    Along watchedStep (EndsOnProof ttlOf) (WatchedLedger.initial worker) events :=
  Along.of_invariant WatchInvariant.step WatchInvariant.endsOnProof
    (WatchInvariant.initial ttlOf worker) records

/-- A job announces its transaction at 1000 with the ttl it passes on, is parked when the
submission stays unclear, and is looked up when the indexer's tip is `tip`. -/
def absentPastHour (channel : Channel) (ttl : Option Nat) (tip : Nat) : List WatchEvent := [
  .ledger (.startJob ⟨1, ⟨false, false, false⟩, 7, some 1, none, none⟩),
  .ledger (.execution 1 (.claim channel .committed)),
  .ledger (.execution 1 (.crossBoundary .committed)),
  .ledger (.execution 1 (.announce ⟨⟨1, 0⟩, ttl, 0, 20, 1000⟩ .committed)),
  .ledger (.broadcast ⟨1, 0⟩),
  .ledger (.execution 1 (.executorThrows .ambiguous)),
  .ledger (.execution 1 .classify),
  .ledger (.execution 1 (.settle .committed)),
  .ledger (.reconciler (.startPass [1] [])),
  .ledger (.reconciler (.beginLookup 1)),
  .asked 0 (.missing (some tip)) (.missing (some tip)),
  .ledger (.reconciler (.finalize 0 60000 .committed))]

/-- A bound submission records the ttl of its transaction. -/
theorem broadcast_lost_on_proof_bound :
    Along watchedStep (EndsOnProof fun _ => 500000) (WatchedLedger.initial 1)
      (absentPastHour .bound (some 500000) 3700000) :=
  broadcast_lost_on_proof _ 1 _ (by decide)

/-- A transfer whose ttl is three hours away is announced without it, and counts as lost
after one. -/
theorem transfer_lost_before_ttl :
    ¬ Along watchedStep (EndsOnProof fun _ => 10800000) (WatchedLedger.initial 1)
      (absentPastHour .wallet none 3700000) := by
  decide

end Nightgate.Submission
